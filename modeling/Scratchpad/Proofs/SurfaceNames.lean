import Mathlib.Data.List.Nodup
import Scratchpad.Proofs.MemberNames
import Scratchpad.Session.Surface

/-!
# Names of the editing object

The editing object is described by the members of its class and the attributes that it
holds. The description sorts their public names into methods, properties and constants, and
completion asks nothing else. Ideally it offers all of these names, and none of them both
behind a colon and behind a dot.

A member of the class that is neither a property nor callable is sorted in only if its name
is in capitals, and a name that the object holds is a property even where the class has a
method under it.

* `Surface.mem_methods_iff`, `Surface.mem_properties_iff`, `Surface.mem_constants_iff` — the
  three sorts;
* `Surface.offers_iff`, `Surface.twice_iff` — a name in any of them, and in two of them;
* `Surface.offers_all_iff`, `Surface.never_twice_iff` — when nothing is missing or double;
* `surface_offers_iff` — which names are offered, and which of them twice.
-/

namespace Scratchpad

namespace Surface

/-- A name is sorted in somewhere. -/
def Offers (s : Surface) (n : String) : Prop :=
  n ∈ s.methods ∨ n ∈ s.properties ∨ n ∈ s.constants

instance (s : Surface) (n : String) : Decidable (s.Offers n) :=
  inferInstanceAs (Decidable (_ ∨ _))

section Sorts

variable {object : Value} {members : List (String × MemberKind)} {held : List String}
  {n : String}

/-- Methods are the callable members without those that are in capitals. -/
theorem mem_methods_iff :
    n ∈ (ofMembers object members held).methods ↔
      isPublic n = true ∧ (n, .callable) ∈ members ∧ isUpperText n.toList = false := by
  simp only [ofMembers, List.mem_map, List.mem_filter]
  constructor
  · rintro ⟨⟨m, k⟩, ⟨⟨hmem, hpublic⟩, hsort⟩, rfl⟩
    obtain rfl : k = .callable := by
      simp only [Bool.and_eq_true, beq_iff_eq] at hsort
      exact hsort.1
    exact ⟨hpublic, hmem, by simpa using hsort⟩
  · rintro ⟨hpublic, hmem, hupper⟩
    exact ⟨(n, .callable), ⟨⟨hmem, hpublic⟩, by simp [hupper]⟩, rfl⟩

/-- Properties are those of the class, and what is held. -/
theorem mem_properties_iff :
    n ∈ (ofMembers object members held).properties ↔
      isPublic n = true ∧ ((n, .property) ∈ members ∨ n ∈ held) := by
  simp only [ofMembers, List.mem_append, List.mem_map, List.mem_filter]
  constructor
  · rintro (⟨⟨m, k⟩, ⟨⟨hmem, hpublic⟩, hsort⟩, rfl⟩ | ⟨hmem, hpublic⟩)
    · obtain rfl : k = .property := by simpa using hsort
      exact ⟨hpublic, .inl hmem⟩
    · exact ⟨hpublic, .inr hmem⟩
  · rintro ⟨hpublic, hmem | hmem⟩
    · exact .inl ⟨(n, .property), ⟨⟨hmem, hpublic⟩, rfl⟩, rfl⟩
    · exact .inr ⟨hmem, hpublic⟩

/-- Constants are the members in capitals that are no properties. -/
theorem mem_constants_iff :
    n ∈ (ofMembers object members held).constants ↔
      isPublic n = true ∧ isUpperText n.toList = true ∧
        ∃ k, k ≠ .property ∧ (n, k) ∈ members := by
  simp only [ofMembers, List.mem_map, List.mem_filter]
  constructor
  · rintro ⟨⟨m, k⟩, ⟨⟨hmem, hpublic⟩, hsort⟩, rfl⟩
    simp only [Bool.and_eq_true, bne_iff_ne, ne_eq] at hsort
    exact ⟨hpublic, hsort.2, k, hsort.1, hmem⟩
  · rintro ⟨hpublic, hupper, k, hk, hmem⟩
    exact ⟨(n, k), ⟨⟨hmem, hpublic⟩, by simp [hk, hupper]⟩, rfl⟩

/-- What is offered is public, and it is held or a member other than a plain one in small
letters. -/
theorem offers_iff :
    (ofMembers object members held).Offers n ↔ isPublic n = true ∧
      (n ∈ held ∨ ∃ k, (n, k) ∈ members ∧ (k = .plain → isUpperText n.toList = true)) := by
  rw [Offers, mem_methods_iff, mem_properties_iff, mem_constants_iff]
  constructor
  · rintro (⟨hpublic, hmem, -⟩ | ⟨hpublic, hmem | hmem⟩ | ⟨hpublic, hupper, k, -, hmem⟩)
    · exact ⟨hpublic, .inr ⟨.callable, hmem, nofun⟩⟩
    · exact ⟨hpublic, .inr ⟨.property, hmem, nofun⟩⟩
    · exact ⟨hpublic, .inl hmem⟩
    · exact ⟨hpublic, .inr ⟨k, hmem, fun _ => hupper⟩⟩
  · rintro ⟨hpublic, hmem | ⟨k, hmem, hplain⟩⟩
    · exact .inr (.inl ⟨hpublic, .inr hmem⟩)
    -- each kind has a list of its own, and a name in capitals is a constant whatever its kind
    · cases k with
      | property => exact .inr (.inl ⟨hpublic, .inl hmem⟩)
      | plain => exact .inr (.inr ⟨hpublic, hplain rfl, .plain, nofun, hmem⟩)
      | callable =>
        cases hupper : isUpperText n.toList with
        | false => exact .inl ⟨hpublic, hmem, rfl⟩
        | true => exact .inr (.inr ⟨hpublic, rfl, .callable, nofun, hmem⟩)

/-- A class has one member under a name. -/
theorem kind_unique (hnames : (members.map (·.1)).Nodup) {k k' : MemberKind}
    (h : (n, k) ∈ members) (h' : (n, k') ∈ members) : k = k' := by
  have hpair := List.inj_on_of_nodup_map hnames h h' rfl
  exact congrArg Prod.snd hpair

/-- Attributes put over the members of a class leave one member under a name. -/
theorem nodup_overrideMembers {attributes : List (String × Value)}
    (hnames : (members.map (·.1)).Nodup) (hattributes : (attributes.map (·.1)).Nodup) :
    ((overrideMembers members attributes).map (·.1)).Nodup := by
  rw [overrideMembers, List.map_append, List.map_map, List.nodup_append]
  refine ⟨hnames.sublist (List.filter_sublist.map _), hattributes, ?_⟩
  -- a member that is kept has no attribute under its name
  rintro n hkept _ hattribute rfl
  obtain ⟨m, hm, rfl⟩ := List.mem_map.mp hkept
  obtain ⟨a, ha, hname⟩ := List.mem_map.mp hattribute
  have hsame : a.1 = m.1 := hname
  have hfree : attributes.lookup m.1 = none := by simpa using (List.mem_filter.mp hm).2
  have hdistinct := List.lookup_eq_none_iff.mp hfree a ha
  simp [hsame] at hdistinct

/-- A method stands among the other names too just if the object holds its name. -/
theorem twice_iff (hnames : (members.map (·.1)).Nodup) :
    n ∈ (ofMembers object members held).methods ∧
        n ∈ (ofMembers object members held).memberNames ↔
      isPublic n = true ∧ (n, .callable) ∈ members ∧ isUpperText n.toList = false ∧
        n ∈ held := by
  rw [memberNames, List.mem_append, mem_methods_iff, mem_properties_iff, mem_constants_iff]
  constructor
  · rintro ⟨⟨hpublic, hmem, hupper⟩, ⟨-, hproperty | hheld⟩ | ⟨-, hconstant, -⟩⟩
    · cases kind_unique hnames hmem hproperty
    · exact ⟨hpublic, hmem, hupper, hheld⟩
    · rw [hupper] at hconstant
      cases hconstant
  · rintro ⟨hpublic, hmem, hupper, hheld⟩
    exact ⟨⟨hpublic, hmem, hupper⟩, .inl ⟨hpublic, .inr hheld⟩⟩

/-- Every public name is offered just if every plain member in small letters is held. -/
theorem offers_all_iff (hnames : (members.map (·.1)).Nodup) :
    (∀ n, isPublic n = true → n ∈ held ∨ n ∈ members.map (·.1) →
        (ofMembers object members held).Offers n) ↔
      ∀ n, isPublic n = true → (n, .plain) ∈ members →
        isUpperText n.toList = true ∨ n ∈ held := by
  constructor
  · intro hall n hpublic hplain
    have hname : n ∈ members.map (·.1) := List.mem_map.mpr ⟨_, hplain, rfl⟩
    -- names have one kind, so this is the plain one
    obtain ⟨-, hheld | ⟨k, hk, hupper⟩⟩ := offers_iff.mp (hall n hpublic (.inr hname))
    · exact .inr hheld
    · exact .inl (hupper (kind_unique hnames hk hplain))
  · intro hplain n hpublic hname
    apply offers_iff.mpr
    refine ⟨hpublic, ?_⟩
    rcases hname with hheld | hname
    · exact .inl hheld
    · obtain ⟨⟨_, k⟩, hk, rfl⟩ := List.mem_map.mp hname
      cases k with
      | plain =>
        rcases hplain _ hpublic hk with hupper | hheld
        · exact .inr ⟨_, hk, fun _ => hupper⟩
        · exact .inl hheld
      | property => exact .inr ⟨_, hk, nofun⟩
      | callable => exact .inr ⟨_, hk, nofun⟩

/-- No method stands among the other names just if every method that is held is in
capitals. -/
theorem never_twice_iff (hnames : (members.map (·.1)).Nodup) :
    (∀ n, ¬ (n ∈ (ofMembers object members held).methods ∧
        n ∈ (ofMembers object members held).memberNames)) ↔
      ∀ n ∈ held, isPublic n = true → (n, .callable) ∈ members →
        isUpperText n.toList = true := by
  constructor
  · intro hnever n hheld hpublic hmethod
    cases hupper : isUpperText n.toList with
    | true => rfl
    | false => exact absurd ((twice_iff hnames).mpr ⟨hpublic, hmethod, hupper, hheld⟩) (hnever n)
  · intro hcapitals n htwice
    obtain ⟨hpublic, hmethod, hupper, hheld⟩ := (twice_iff hnames).mp htwice
    rw [hcapitals n hheld hpublic hmethod] at hupper
    cases hupper

end Sorts

end Surface

open Surface in
/-- Of the members of a class and the attributes that an object holds, completion offers the
public names apart from those of plain members in small letters that are not held. So it
offers all of them just if there are no such members; and none of them is offered both
behind a colon and behind a dot just if no name of a method is held. Names that begin with
an underscore are never offered. -/
theorem surface_offers_iff (object : Value) (members : List (String × MemberKind))
    (held : List String) (hnames : (members.map (·.1)).Nodup) :
    let s := Surface.ofMembers object members held
    (∀ n, s.Offers n ↔ isPublic n = true ∧
      (n ∈ held ∨ ∃ k, (n, k) ∈ members ∧ (k = .plain → isUpperText n.toList = true))) ∧
    (∀ n, n ∈ s.methods ∧ n ∈ s.memberNames ↔ isPublic n = true ∧ (n, .callable) ∈ members ∧
      isUpperText n.toList = false ∧ n ∈ held) ∧
    ((∀ n, isPublic n = true → n ∈ held ∨ n ∈ members.map (·.1) → s.Offers n) ↔
      ∀ n, isPublic n = true → (n, .plain) ∈ members →
        isUpperText n.toList = true ∨ n ∈ held) ∧
    ((∀ n, ¬ (n ∈ s.methods ∧ n ∈ s.memberNames)) ↔
      ∀ n ∈ held, isPublic n = true → (n, .callable) ∈ members →
        isUpperText n.toList = true) ∧
    (∀ n, "_".isPrefixOf n = true → ¬ s.Offers n) ∧
    ∀ (w : World) v, w.surface = some s → Run.isSame object v = true → ∃ methods members,
      namesOf v .method w = (.done methods, w) ∧ namesOf v .member w = (.done members, w) ∧
      ∀ n, s.Offers n ↔ n ∈ methods ∨ n ∈ members := by
  intro s
  refine ⟨fun n => offers_iff, fun n => twice_iff hnames, offers_all_iff hnames,
    never_twice_iff hnames, ?_, ?_⟩
  · intro n hprivate hoffers
    have hpublic := (offers_iff.mp hoffers).1
    simp [isPublic, hprivate] at hpublic
  · intro w v hsurface hsame
    refine ⟨s.methods, s.memberNames, namesOf_of_surface hsurface hsame,
      namesOf_of_surface hsurface hsame, fun n => ?_⟩
    rw [Offers, memberNames, List.mem_append]

/-- The class of buffers with two further attributes. -/
def classSample : List (String × MemberKind) :=
  Surface.overrideMembers bufferClassMembers [("LIMIT", .int 5), ("helper", .builtin "len")]

open Surface in
/-- Buffers of this class are described in full: all members and attributes are offered, and
none of them twice. -/
theorem surface_offers_iff_sample :
    (classSample.map (·.1)).Nodup ∧
    (∀ n, isPublic n = true → n ∈ bufferHeld ∨ n ∈ classSample.map (·.1) →
      (ofMembers (.part .buffer) classSample bufferHeld).Offers n) ∧
    ∀ n, ¬ (n ∈ (ofMembers (.part .buffer) classSample bufferHeld).methods ∧
      n ∈ (ofMembers (.part .buffer) classSample bufferHeld).memberNames) := by
  have hnames : (classSample.map (·.1)).Nodup :=
    nodup_overrideMembers (by decide +kernel) (by decide)
  -- the only plain member is in capitals, and no method's name is among what is held
  have hplain : ∀ m ∈ classSample, m.2 = .plain → isUpperText m.1.toList = true := by
    decide +kernel
  have hmethod : ∀ n ∈ bufferHeld, (n, .callable) ∉ classSample := by decide +kernel
  obtain ⟨-, -, hall, honce, -⟩ :=
    surface_offers_iff (.part .buffer) classSample bufferHeld hnames
  refine ⟨hnames, hall.mpr ?_, honce.mpr ?_⟩
  · intro n _ hmem
    exact .inl (hplain _ hmem rfl)
  · intro n hheld _ hmem
    exact absurd hmem (hmethod n hheld)

/-- A plain class attribute in small letters is offered nowhere, and the name of a method
that an object holds is offered as a method and as a member. -/
theorem members_misclassified :
    (isPublic "label" = true ∧
      ("label", .plain) ∈ Surface.overrideMembers bufferClassMembers [("label", .int 5)] ∧
      ¬ (Surface.ofBuffer [("label", .int 5)] []).Offers "label") ∧
    "newline" ∈ (Surface.ofBuffer [] ["newline"]).methods ∧
    "newline" ∈ (Surface.ofBuffer [] ["newline"]).memberNames := by
  decide +kernel

end Scratchpad
