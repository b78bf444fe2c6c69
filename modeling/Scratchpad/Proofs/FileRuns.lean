import Scratchpad.Proofs.PrintedText
import Scratchpad.Proofs.ReplayEndings
import Scratchpad.Proofs.Utf8

/-!
# Runs of files

What a run comes to depends on what is found at the path: no file, bytes that are no text,
a text that is no source or does not parse, or a script. The exit code is 1 where there is
no file or none that parses, and 0 where a script is replayed to its end. The other cases
leave the run without a code, although two of them are failures of decoding and parsing:
bytes that are not UTF-8, and a null character.

* `Files.Finds`, `exists_finds` — what is found at a path;
* `module_null_iff` — the one source fault that is not reported;
* `file_run_decided` — which exit code, for everything that may be found;
* `plain_run_output` — what is printed of a transcript.
-/

namespace Scratchpad

/-! ## What is found at a path -/

/-- What there is to run. -/
inductive Finding where
  | missing
  | unreadable (e : FileError)
  | undecodable
  | nullCharacter
  | unparsed (f : SourceFault)
  | script (snippets : List Text)

/-- What is found at a path. -/
inductive Files.Finds (files : Files) (path : Text) : Finding → Prop where
  | missing {p : FilePath} (read : files.read path = .error ⟨.missing, p⟩) :
      Finds files path .missing
  | unreadable {e : FileError} (read : files.read path = .error e) (present : e.cause ≠ .missing) :
      Finds files path (.unreadable e)
  | undecodable {bytes : List UInt8} (read : files.read path = .ok bytes)
      (noText : ∀ t, bytes ≠ encodedText t) : Finds files path .undecodable
  | nullCharacter {t : Text} (read : files.read path = .ok (encodedText t)) (null : '\x00' ∈ t) :
      Finds files path .nullCharacter
  | unparsed {t : Text} {f : SourceFault} (read : files.read path = .ok (encodedText t))
      (noNull : '\x00' ∉ t) (parse : Source.module (unifyBreaks t) = .error f) :
      Finds files path (.unparsed f)
  | script {t : Text} {b : Block} (read : files.read path = .ok (encodedText t))
      (parse : Source.module (unifyBreaks t) = .ok b) :
      Finds files path (.script (snippetsOf (unifyBreaks t) b))

theorem null_mem_unifyBreaks {t : Text} : '\x00' ∈ unifyBreaks t ↔ '\x00' ∈ t :=
  ⟨fun h => mem_of_mem_unifyBreaks h (by decide), fun h => mem_unifyBreaks h (by decide)⟩

theorem parseWith_null_iff {α : Type} (r : Grammar → Nat → Reader α) (t : Text) :
    Source.parseWith r t = .error .nullCharacter ↔ '\x00' ∈ t := by
  unfold Source.parseWith
  by_cases h : '\x00' ∈ t
  · simp [h]
  · rw [if_neg (by simpa using h)]
    dsimp only
    split <;> simp [h]

/-- A source is refused for a null character just if it has one; this is found before
anything else. -/
theorem module_null_iff (t : Text) :
    Source.module t = .error .nullCharacter ↔ '\x00' ∈ t := by
  rw [Source.module, parseWith_null_iff]
  split
  · exact null_mem_unifyBreaks
  · simp [null_mem_unifyBreaks]

section Findings

variable {files : Files} {path : Text}

theorem source_of_read {t : Text} (h : files.read path = .ok (encodedText t)) :
    files.source path = .ok (unifyBreaks t) := by
  have hdecode : decodeUtf8 (encodedText t) = .ok t := decodeUtf8_eq_ok_iff.mpr rfl
  simp [Files.source, h, hdecode]

/-- There is something found at every path. -/
theorem exists_finds (files : Files) (path : Text) : ∃ finding, files.Finds path finding := by
  cases hread : files.read path with
  | error e =>
    -- read, decode, look for null characters, parse: each step may be the one that fails
    by_cases hcause : e.cause = .missing
    · obtain ⟨cause, p⟩ := e
      obtain rfl : cause = .missing := hcause
      exact ⟨_, .missing hread⟩
    · exact ⟨_, .unreadable hread hcause⟩
  | ok bytes =>
    by_cases htext : ∃ t, bytes = encodedText t
    · obtain ⟨t, rfl⟩ := htext
      by_cases hnull : '\x00' ∈ t
      · exact ⟨_, .nullCharacter hread hnull⟩
      · cases hparse : Source.module (unifyBreaks t) with
        | error f => exact ⟨_, .unparsed hread hnull hparse⟩
        | ok b => exact ⟨_, .script hread hparse⟩
    · exact ⟨_, .undecodable hread (not_exists.mp htext)⟩

theorem module_ne_null {t : Text} (h : '\x00' ∈ t) (b : Block) :
    Source.module (unifyBreaks t) ≠ .ok b := by
  rw [(module_null_iff _).mpr (null_mem_unifyBreaks.mpr h)]
  nofun

/-- There is one thing found at a path. -/
theorem finds_iff {finding : Finding} (h : files.Finds path finding) (other : Finding) :
    files.Finds path other ↔ other = finding := by
  refine ⟨fun h' => ?_, fun heq => heq ▸ h⟩
  -- two findings read the same, so that they decode and parse the same as well
  cases h <;> cases h' <;> grind [encodedText_injective, module_ne_null]

end Findings

/-! ## What a run comes to -/

section Runs

variable {files : Files} {path : Text} (settings : Settings) (printing : Printing)

theorem runFile_missing (h : files.Finds path .missing) :
    runFile files path settings printing =
      { code := .ok 1
        output := errorLine ("File not found: ".toList ++ path)
        world := World.forScript settings } := by
  cases h with
  | missing hread => simp [runFile, Files.source, hread]

theorem runFile_unreadable {e : FileError} (h : files.Finds path (.unreadable e)) :
    (runFile files path settings printing).code = .error (.unreadable e) := by
  cases h with
  | unreadable hread hpresent =>
    obtain ⟨cause, p⟩ := e
    cases cause with
    | missing => exact absurd rfl hpresent
    | _ => simp [runFile, Files.source, hread]

theorem runFile_undecodable (h : files.Finds path .undecodable) :
    ∃ f, (runFile files path settings printing).code = .error (.undecodable f) := by
  cases h with
  | undecodable hread hnoText =>
    obtain ⟨f, hf⟩ := decodeUtf8_error_iff.mpr hnoText
    exact ⟨f, by simp [runFile, Files.source, hread, hf]⟩

theorem runFile_nullCharacter (h : files.Finds path .nullCharacter) :
    (runFile files path settings printing).code = .error .nullCharacter := by
  cases h with
  | nullCharacter hread hnull =>
    have hparse := (module_null_iff _).mpr (null_mem_unifyBreaks.mpr hnull)
    simp [runFile, source_of_read hread, splitScript, hparse, Except.map]

theorem runFile_unparsed {f : SourceFault} (h : files.Finds path (.unparsed f)) :
    runFile files path settings printing =
      { code := .ok 1
        output := errorLine (path ++ ": SyntaxError: ".toList ++ (f.message unknownFile).toList)
        world := World.forScript settings } := by
  cases h with
  | unparsed hread hnoNull hparse =>
    have hreported : f ≠ .nullCharacter := by
      rintro rfl
      exact hnoNull (null_mem_unifyBreaks.mp ((module_null_iff _).mp hparse))
    cases f with
    | nullCharacter => exact absurd rfl hreported
    | «at» cause line => simp [runFile, source_of_read hread, splitScript, hparse, Except.map]

theorem runFile_script {snippets : List Text} (h : files.Finds path (.script snippets)) :
    runFile files path settings printing = runSnippets settings printing snippets := by
  cases h with
  | script hread hparse =>
    simp [runFile, source_of_read hread, splitScript, hparse, Except.map]

/-- A script comes to what its replay comes to. -/
theorem runSnippets_code (snippets : List Text) :
    (runSnippets settings printing snippets).code =
      match (replay settings snippets).1.fault? with
      | none => .ok 0
      | some fault => .error fault := by
  rcases hreplay : replay settings snippets with ⟨⟨⟩ | e | _, w⟩ <;>
    simp [runSnippets, hreplay, Ending.fault?]

theorem runSnippets_output (snippets : List Text)
    (h : (runSnippets settings printing snippets).code = .ok 0) :
    (runSnippets settings printing snippets).output =
      printing.text (replay settings snippets).2.buffer.text := by
  rcases hreplay : replay settings snippets with ⟨⟨⟩ | e | _, w⟩
  · simp [runSnippets, hreplay]
  · simp [runSnippets, hreplay] at h
  · simp [runSnippets, hreplay] at h

theorem runSnippets_code_ok_iff {snippets : List Text} {n : Nat} :
    (runSnippets settings printing snippets).code = .ok n ↔
      n = 0 ∧ ∀ w, (World.forScript settings).openHeader.ReplayCommits snippets w → w.Settles := by
  rw [runSnippets_code, ← replay_goes_through_iff]
  show _ ↔ n = 0 ∧ (replay settings snippets).1.fault? = none
  cases (replay settings snippets).1.fault? <;> simp [eq_comm]

theorem runSnippets_code_error_iff {snippets : List Text} {fault : RunFault} :
    (runSnippets settings printing snippets).code = .error fault ↔
      ∃ w, (World.forScript settings).openHeader.ReplayCommits snippets w ∧
        (commit w).1.fault? = some fault := by
  rw [runSnippets_code, ← fault?_replayed]
  show _ ↔ (replay settings snippets).1.fault? = some fault
  cases (replay settings snippets).1.fault? <;> simp

end Runs

/-! ## Which exit code -/

/-- The exit code of a run is decided by what is found at the path. It is 1, with a line that
says why, just if there is no file or one that does not parse, and 0, with the transcript,
just if there is a script whose commits all come to an answer. Bytes that are not UTF-8 and
null characters give no code but end the run, as do the exceptions that leave a commit. -/
theorem file_run_decided (files : Files) (path : Text) (settings : Settings)
    (printing : Printing) :
    let run := runFile files path settings printing
    let fresh := (World.forScript settings).openHeader
    (run.code = .ok 1 ↔ files.Finds path .missing ∨ ∃ f, files.Finds path (.unparsed f)) ∧
    (run.code = .ok 0 ↔ ∃ snippets, files.Finds path (.script snippets) ∧
      ∀ w, fresh.ReplayCommits snippets w → w.Settles) ∧
    ((∃ f, run.code = .error (.undecodable f)) ↔ files.Finds path .undecodable) ∧
    (run.code = .error .nullCharacter ↔ files.Finds path .nullCharacter) ∧
    (∀ e, run.code = .error (.raised e) ↔ ∃ snippets, files.Finds path (.script snippets) ∧
      ∃ w, fresh.ReplayCommits snippets w ∧ w.LetsOut e) ∧
    (run.code = .error .spent ↔ ∃ snippets, files.Finds path (.script snippets) ∧
      ∃ w, fresh.ReplayCommits snippets w ∧ (commit w).1 = .spent) ∧
    (∀ e, run.code = .error (.unreadable e) ↔ files.Finds path (.unreadable e)) ∧
    (∀ n, run.code = .ok n → n = 0 ∨ n = 1) ∧
    (files.Finds path .missing → run.output = errorLine ("File not found: ".toList ++ path)) ∧
    (∀ f, files.Finds path (.unparsed f) → run.output =
      errorLine (path ++ ": SyntaxError: ".toList ++ (f.message unknownFile).toList)) ∧
    (∀ snippets, files.Finds path (.script snippets) → run.code = .ok 0 →
      run.output = printing.text (replay settings snippets).2.buffer.text) := by
  intro run fresh
  obtain ⟨finding, hfound⟩ := exists_finds files path
  -- exactly one finding applies, and each has one way to end
  simp only [finds_iff hfound]
  cases finding with
  | missing =>
    have hrun : run = _ := runFile_missing settings printing hfound
    simp [hrun]
  | unreadable e =>
    have hcode : run.code = _ := runFile_unreadable settings printing hfound
    simp [hcode, eq_comm]
  | undecodable =>
    obtain ⟨f, hcode⟩ : ∃ f, run.code = _ := runFile_undecodable settings printing hfound
    simp [hcode]
  | nullCharacter =>
    have hcode : run.code = _ := runFile_nullCharacter settings printing hfound
    simp [hcode]
  | unparsed f =>
    have hrun : run = _ := runFile_unparsed settings printing hfound
    simp [hrun]
  | script snippets =>
    have hrun : run = _ := runFile_script settings printing hfound
    have houtput := runSnippets_output settings printing snippets
    simpa [hrun, fresh, runSnippets_code_ok_iff, runSnippets_code_error_iff,
      Ending.fault?_eq_some_iff, commit_raised_iff] using houtput

/-- A directory with one file. -/
def fileSample (bytes : List UInt8) : Files := [("t.py".toList, bytes)]

theorem read_fileSample (bytes : List UInt8) :
    (fileSample bytes).read "t.py".toList = .ok bytes := rfl

/-- A run ended by an exception of a kind that snippets are allowed. -/
def FileRun.raisesContained (r : FileRun) : Bool :=
  match r.code with
  | .error (.raised e) => e.isContained
  | _ => false

/-- A byte that begins no character, a null character, and an exception without a text end
a run without an exit code. -/
theorem file_run_lets_exceptions_out :
    (∃ f, (runFile (fileSample [0xFF]) "t.py".toList {} {}).code = .error (.undecodable f)) ∧
    (runFile (fileSample [0]) "t.py".toList {} {}).code = .error .nullCharacter ∧
    (runFile (fileSample (encodedText "raise ValueError(10**5000)\n".toList)) "t.py".toList {}
      {}).raisesContained = true := by
  have hnoText : ∀ t, [0xFF] ≠ encodedText t := decodeUtf8_error_iff.mp ⟨_, rfl⟩
  exact ⟨runFile_undecodable {} {} (.undecodable (read_fileSample _) hnoText),
    runFile_nullCharacter {} {} (.nullCharacter (read_fileSample (encodedText ['\x00']))
      (by decide)), by decide +kernel⟩

/-! ## What is printed -/

/-- Plain output is the transcript as it is printed, at every width. It is the transcript
itself just if there is nothing in it to replace. -/
theorem plain_run_output {files : Files} {path : Text} {settings : Settings}
    {snippets : List Text} (hfound : files.Finds path (.script snippets))
    (hsettles : ∀ w, (World.forScript settings).openHeader.ReplayCommits snippets w → w.Settles)
    (width : Nat) :
    let run := runFile files path settings { plain := true, width }
    let transcript := (replay settings snippets).2.buffer.text
    run.code = .ok 0 ∧ run.output = Console.printed transcript ∧
      (run.output = transcript ↔ Console.PrintsItself transcript) := by
  intro run transcript
  have hrun : run = _ := runFile_script settings { plain := true, width } hfound
  have hcode : run.code = .ok 0 := by
    rw [hrun]
    exact (runSnippets_code_ok_iff ..).mpr ⟨rfl, hsettles⟩
  have houtput : run.output = Console.printed transcript := by
    rw [hrun] at hcode ⊢
    exact runSnippets_output settings _ snippets hcode
  refine ⟨hcode, houtput, ?_⟩
  rw [houtput]
  -- what is left is a matter of the transcript alone
  exact Console.printed_eq_self_iff transcript

theorem finds_script_of_split {files : Files} {path t : Text} {snippets : List Text}
    (hread : files.read path = .ok (encodedText t))
    (hsplit : splitScript (unifyBreaks t) = .ok snippets) :
    files.Finds path (.script snippets) := by
  unfold splitScript at hsplit
  cases hparse : Source.module (unifyBreaks t) with
  | error f => simp [hparse, Except.map] at hsplit
  | ok b =>
    simp only [hparse, Except.map, Except.ok.injEq] at hsplit
    exact hsplit ▸ .script hread hparse

/-- Settings with a short title. -/
def titleSample : Settings := { title := ['T'] }

theorem plain_run_output_sample :
    (fileSample (encodedText "1\n".toList)).Finds "t.py".toList (.script [['1']]) ∧
    (∀ w, (World.forScript titleSample).openHeader.ReplayCommits [['1']] w → w.Settles) ∧
    (runFile (fileSample (encodedText "1\n".toList)) "t.py".toList titleSample
      { plain := true, width := 20 }).output = "# T\n1\n--> 1\n".toList := by
  have hfound : (fileSample (encodedText "1\n".toList)).Finds "t.py".toList (.script [['1']]) :=
    finds_script_of_split (read_fileSample _) (by decide +kernel)
  have hsettles : ∀ w, (World.forScript titleSample).openHeader.ReplayCommits [['1']] w →
      w.Settles := replay_goes_through_iff.mp (by decide +kernel)
  have htranscript : (replay titleSample [['1']]).2.buffer.text = "# T\n1\n--> 1\n".toList := by
    decide +kernel
  have hcodes : Console.codes "# T\n1\n--> 1\n".toList = [] :=
    List.isEmpty_iff.mp (by decide +kernel)
  obtain ⟨-, -, hself⟩ := plain_run_output hfound hsettles 20
  rw [htranscript] at hself
  refine ⟨hfound, hsettles, hself.mpr ⟨by simp, by simp [Console.isSilent], ?_⟩⟩
  rw [hcodes]
  exact List.forall_mem_nil _

/-- Between the values that a call prints stands a tab, which comes out as spaces. -/
theorem plain_run_expands_tabs :
    (fileSample (encodedText "print('a', 'b')\n".toList)).Finds "t.py".toList
      (.script ["print('a', 'b')".toList]) ∧
    (∀ w, (World.forScript {}).openHeader.ReplayCommits ["print('a', 'b')".toList] w →
      w.Settles) ∧
    (replay {} ["print('a', 'b')".toList]).2.buffer.text =
      "# Python REPL\nprint('a', 'b')\n--> a\tb\n".toList ∧
    (runFile (fileSample (encodedText "print('a', 'b')\n".toList)) "t.py".toList {}
      { plain := true }).output = "# Python REPL\nprint('a', 'b')\n--> a   b\n".toList :=
  ⟨finds_script_of_split (read_fileSample _) (by decide +kernel),
    replay_goes_through_iff.mp (by decide +kernel), by decide +kernel, by decide +kernel⟩

end Scratchpad
