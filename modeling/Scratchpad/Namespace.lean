import Scratchpad.Text.Order
import Scratchpad.Value.Compare

/-!
# The scope of snippets

A snippet looks a name up in the sandbox, then among the host's names, then among
the built-in ones. It binds and deletes names in the sandbox only, so the host's
names can be hidden and never changed.

Callers may use keys that are no names. They are kept apart, because no snippet
can mention them.
-/

namespace Scratchpad

/-- Bindings: those of names, and those of other keys. -/
structure Scope where
  names : List (String × Value) := []
  others : List (Value × Value) := []

/-- Binds a name; a name that is there keeps its place. -/
def bindName : List (String × Value) → String → Value → List (String × Value)
  | [], n, v => [(n, v)]
  | (m, w) :: rest, n, v => if m = n then (m, v) :: rest else (m, w) :: bindName rest n v

namespace Scope

/-- The binding of a name. -/
def find? (s : Scope) (n : String) : Option Value := s.names.lookup n

/-- Binds a name. -/
def bind (s : Scope) (n : String) (v : Value) : Scope :=
  { s with names := bindName s.names n v }

/-- Removes the binding of a name. -/
def unbind (s : Scope) (n : String) : Scope :=
  { s with names := s.names.filter (·.1 != n) }

/-- The binding of a key of any kind. -/
def get? (s : Scope) : Value → Option Value
  | .str t => s.find? (String.ofList t)
  | key => entryGet? s.others key

/-- Binds a key of any kind. -/
def set (s : Scope) (key value : Value) : Scope :=
  match key with
  | .str t => s.bind (String.ofList t) value
  | _ => { s with others := entrySet s.others key value }

/-- Removes a key of any kind. -/
def erase (s : Scope) : Value → Scope
  | .str t => s.unbind (String.ofList t)
  | key => { s with others := entryErase s.others key }

/-- Number of bindings. -/
def size (s : Scope) : Nat := s.names.length + s.others.length

/-- All keys. -/
def keys (s : Scope) : List Value := s.names.map (.ofString ·.1) ++ s.others.map (·.1)

end Scope

/-- The key under which the built-in names themselves are bound. -/
def builtinsName : String := "__builtins__"

/-- A sandbox in front of the host's names. -/
structure Namespace where
  own : Scope
  host : Scope

namespace Namespace

/-- A sandbox with first bindings, over the host's names. The built-in names are
bound unless a first binding takes their key. -/
def ofBindings (host : Scope) (bindings : List (String × Value)) : Namespace :=
  let own := bindings.foldl (fun s (n, v) => s.bind n v) ({} : Scope)
  let own := if (own.find? builtinsName).isSome then own
    else own.bind builtinsName .builtinsModule
  { own, host }

/-- The value of a name: from the sandbox, else from the host, else built in. -/
def lookup? (ns : Namespace) (n : String) : Option Value :=
  match ns.own.find? n with
  | some v => some v
  | none => match ns.host.find? n with
    | some v => some v
    | none => builtinValue? n

/-- The value of a key of any kind, from the sandbox or from the host. -/
def get? (ns : Namespace) (key : Value) : Option Value :=
  match ns.own.get? key with
  | some v => some v
  | none => ns.host.get? key

/-- Binds a name in the sandbox. -/
def bind (ns : Namespace) (n : String) (v : Value) : Namespace :=
  { ns with own := ns.own.bind n v }

/-- Removes a name from the sandbox. -/
def unbind (ns : Namespace) (n : String) : Namespace := { ns with own := ns.own.unbind n }

/-- Names that resolve: those of the sandbox, of the host and the built-in ones. -/
def visibleNames (ns : Namespace) : List String :=
  ns.own.names.map (·.1) ++ ns.host.names.map (·.1) ++ builtinNames

end Namespace

/-! ## Sorted names -/

/-- Order of names by code point. -/
def nameLe (a b : String) : Bool := textLe a.toList b.toList

/-- Names in order and without repetitions. -/
def sortNames (names : List String) : List String :=
  dedup (names.mergeSort nameLe)
where
  /-- Drops a name that stands right behind itself. -/
  dedup : List String → List String
    | a :: b :: rest => if a = b then dedup (b :: rest) else a :: dedup (b :: rest)
    | rest => rest

end Scratchpad
