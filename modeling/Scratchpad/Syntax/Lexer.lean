import Scratchpad.Decimal.FloatText
import Scratchpad.Syntax.Fault
import Scratchpad.Syntax.Token
import Scratchpad.Text.Name

/-!
# Lexical analysis

`tokenize` cuts a source text into lexemes. Line breaks are unified first.
Outside brackets the blanks at the start of a line are compared with the stack
of open indentations, once with tabs that reach to the next multiple of eight and
once with tabs of width one; both must agree.

A scan that cannot go on ends with a `broken` lexeme and says why. Some faults
stop the reading of a text at once, others (`deferred`) count only when a reader
comes to them.
-/

namespace Scratchpad

/-- How a scan ended. -/
inductive ScanEnd where
  | complete
  /-- The text ended inside brackets; the innermost one and its line. -/
  | openBracket (bracket : Char) (line : Nat)
  /-- A token that cannot be read. -/
  | fault (cause : Cause) (line : Nat)
  /-- A fault that counts when it is reached, and the innermost open bracket. -/
  | deferred (cause : Cause) (line : Nat) (bracket : Option (Char × Nat))
deriving Repr

/-- The lexemes of a text and how the scan ended. -/
structure Scan where
  lexemes : List Lexeme
  ending : ScanEnd

/-! ## Words -/

/-- A character that belongs to a word as far as cutting is concerned. -/
def isWordPart (c : Char) : Bool := c.isAlphanum || c == '_' || c.toNat ≥ 128

/-- A character that starts a word. -/
def isWordStart (c : Char) : Bool := c.isAlpha || c == '_' || c.toNat ≥ 128

/-- The first character of a word at which it fails to be a name. -/
def badNameChar? : Text → Option Char
  | [] => none
  | c :: rest => if isNameStart c then rest.find? (! isNamePart ·) else some c

/-- The token of a word. -/
def wordToken (w : Text) : Except Cause Token :=
  if w.all (·.toNat < 128) then
    let s := String.ofList w
    .ok (if keywords.contains s then .keyword s else .name s)
  else match badNameChar? w with
    | some c => .error (.badCharacter c)
    | none => .ok (.name (String.ofList (w.map foldNameChar)))

/-! ## Numbers -/

/-- Keywords that may stand right behind a number. -/
def startsKeyword : Text → Bool
  | 'a' :: 'n' :: 'd' :: _ => true
  | 'e' :: 'l' :: 's' :: 'e' :: _ => true
  | 'f' :: 'o' :: 'r' :: _ => true
  | 'i' :: 'n' :: _ => true
  | 'i' :: 's' :: _ => true
  | 'i' :: 'f' :: _ => true
  | 'o' :: 'r' :: _ => true
  | 'n' :: 'o' :: 't' :: _ => true
  | _ => false

/-- Checks that a number is not glued to a word. -/
def endNumber (base : String) (t : Token) (rest : Text) : Except Cause (Token × Text) :=
  match rest with
  | c :: _ =>
    if isWordPart c && !startsKeyword rest then .error (.badLiteral base) else .ok (t, rest)
  | [] => .ok (t, rest)

/-- Digits with single underscores between them; an underscore that no digit
follows is a fault. -/
def digitRun (ok : Char → Bool) (base : String) : Text → Except Cause (Text × Text)
  | '_' :: c :: rest =>
    if ok c then do
      let (ds, tail) ← digitRun ok base rest
      return (c :: ds, tail)
    else .error (.badLiteral base)
  | ['_'] => .error (.badLiteral base)
  | c :: rest =>
    if ok c then do
      let (ds, tail) ← digitRun ok base rest
      return (c :: ds, tail)
    else .ok ([], c :: rest)
  | [] => .ok ([], [])

/-- A number in base 16, 8 or 2, behind its mark. -/
def markedNumber (base : Nat) (name : String) (t : Text) : Except Cause (Token × Text) := do
  let ok (c : Char) := c.toNat < 128 && (digitValue? base c).isSome
  let body := match t with
    | '_' :: rest => rest
    | _ => t
  match body with
  | c :: _ =>
    if !ok c then
      if c.isDigit then throw (.badDigit c name) else throw (.badLiteral name)
  | [] => throw (.badLiteral name)
  let (ds, rest) ← digitRun ok name body
  match rest with
  | c :: _ => if c.isDigit then throw (.badDigit c name)
  | [] => pure ()
  endNumber name (.int (ofDigits base (ds.filterMap (digitValue? base)))) rest

/-- The exponent of a decimal, if one follows; a bare `e` is left alone. -/
def exponentRun (t : Text) : Except Cause (Option Int × Text) :=
  match t with
  | e :: rest =>
    if e == 'e' || e == 'E' then
      match rest with
      | '+' :: d :: _ => if d.isDigit then run 1 (rest.drop 1) else .ok (none, t)
      | '-' :: d :: _ => if d.isDigit then run (-1) (rest.drop 1) else .ok (none, t)
      | d :: _ => if d.isDigit then run 1 rest else .ok (none, t)
      | [] => .ok (none, t)
    else .ok (none, t)
  | [] => .ok (none, t)
where
  run (sign : Int) (t : Text) : Except Cause (Option Int × Text) := do
    let (ds, rest) ← digitRun Char.isDigit "decimal" t
    let n : Nat := (ofDigits 10 (ds.filterMap decimalValue?)).min 1000000
    return (some (sign * n), rest)

/-- A number behind its whole digits `whole`: a fraction, an exponent or an
imaginary mark may follow. -/
def decimalTail (whole : Text) (t : Text) : Except Cause (Token × Text) := do
  let (fraction, t, dotted) ← match t with
    | '.' :: rest =>
      match rest with
      | c :: _ =>
        if c.isDigit then do
          let (ds, tail) ← digitRun Char.isDigit "decimal" rest
          pure (ds, tail, true)
        else pure ([], rest, true)
      | [] => pure ([], rest, true)
    | _ => pure ([], t, false)
  let (exponent?, t) ← exponentRun t
  let digits := ofDigits 10 ((whole ++ fraction).filterMap decimalValue?)
  let x := floatOfDecimal digits (exponent?.getD 0 - fraction.length)
  match t with
  | c :: rest =>
    if c == 'j' || c == 'J' then return ← endNumber "imaginary" (.imaginary x) rest
  | [] => pure ()
  if dotted || exponent?.isSome then endNumber "decimal" (.float x) t
  -- zeros alone may be repeated
  else if whole.length > 1 && whole.head? == some '0' && whole.any (· != '0') then
    throw .leadingZeros
  else if whole.length > maxDigits then endNumber "decimal" (.hugeInt whole.length) t
  else endNumber "decimal" (.int digits) t

/-- A number at the start of a text. -/
def numberToken (t : Text) : Except Cause (Token × Text) :=
  match t with
  | '0' :: c :: rest =>
    if c == 'x' || c == 'X' then markedNumber 16 "hexadecimal" rest
    else if c == 'o' || c == 'O' then markedNumber 8 "octal" rest
    else if c == 'b' || c == 'B' then markedNumber 2 "binary" rest
    else decimal
  | _ => decimal
where
  decimal : Except Cause (Token × Text) := do
    let (whole, rest) ← match t with
      | '.' :: _ => pure ([], t)
      | _ => digitRun Char.isDigit "decimal" t
    decimalTail whole rest

/-! ## Strings -/

/-- The body of a string between single quotation marks, and the rest behind it. -/
def shortBody (quote : Char) : Text → Option (Text × Text)
  | [] => none
  | '\\' :: c :: rest => do
    let (body, tail) ← shortBody quote rest
    some ('\\' :: c :: body, tail)
  | c :: rest =>
    if c = quote then some ([], rest)
    else if c = '\n' then none
    else do
      let (body, tail) ← shortBody quote rest
      some (c :: body, tail)

/-- The body of a string between triple quotation marks, and the rest behind it. -/
def longBody (quote : Char) : Text → Option (Text × Text)
  | [] => none
  | '\\' :: c :: rest => do
    let (body, tail) ← longBody quote rest
    some ('\\' :: c :: body, tail)
  | c :: rest =>
    if c = quote && rest.take 2 = [quote, quote] then some ([], rest.drop 2)
    else do
      let (body, tail) ← longBody quote rest
      some (c :: body, tail)

/-- Number of line feeds that a string without an end runs over before it is
given up. One at the very end starts no further line. -/
def shortRun (quote : Char) : Text → Nat
  | [] => 0
  | '\\' :: c :: rest =>
    (if c = '\n' && !rest.isEmpty then 1 else 0) + shortRun quote rest
  | c :: rest => if c = '\n' then 0 else shortRun quote rest

/-- The marks in front of a string. -/
def stringMarks? (w : Text) : Option StringToken :=
  match w.map Char.toLower with
  | [] => some { body := [] }
  | ['u'] => some { body := [] }
  | ['b'] => some { body := [], isBytes := true }
  | ['r'] => some { body := [], isRaw := true }
  | ['f'] => some { body := [], isFormatted := true }
  | ['b', 'r'] | ['r', 'b'] => some { body := [], isBytes := true, isRaw := true }
  | ['f', 'r'] | ['r', 'f'] => some { body := [], isFormatted := true, isRaw := true }
  | _ => none

/-- A string at its opening quote; `line` is the current line. -/
def stringToken (marks : StringToken) (line : Nat) (t : Text) :
    Except Cause (Token × Text) :=
  match t with
  | q :: rest =>
    if rest.take 2 = [q, q] then
      match longBody q (rest.drop 2) with
      | some (body, tail) => .ok (.string { marks with body }, tail)
      | none =>
        -- a line feed at the very end starts no further line
        let body := rest.drop 2
        let breaks := body.count '\n' - if body.getLast? = some '\n' then 1 else 0
        .error (.openTripleString (line + breaks))
    else match shortBody q rest with
      | some (body, tail) => .ok (.string { marks with body }, tail)
      | none => .error (.openString (line + shortRun q rest))
  | [] => .error .invalid

/-! ## Indentation -/

/-- Where the first character of a line stands: its column with wide and with
narrow tabs, the rest of the text, and the number of continued lines. -/
structure Margin where
  wide : Nat := 0
  narrow : Nat := 0
  /-- The column in front of a continuation, which then decides. -/
  fixed : Option Nat := none
  continued : Nat := 0

/-- Measures the blanks at the start of a line. -/
def margin (m : Margin) : Text → Except Cause (Margin × Text)
  | ' ' :: rest => margin { m with wide := m.wide + 1, narrow := m.narrow + 1 } rest
  | '\t' :: rest => margin { m with wide := (m.wide / 8 + 1) * 8, narrow := m.narrow + 1 } rest
  | '\x0c' :: rest => margin { m with wide := 0, narrow := 0 } rest
  | '\\' :: '\n' :: rest =>
    if rest.isEmpty then .error .endAfterContinuation
    else
      let fixed := match m.fixed with
        | some n => some n
        | none => if m.wide = 0 then none else some m.wide
      margin { m with fixed, continued := m.continued + 1 } rest
  | '\\' :: _ => .error .afterContinuation
  | rest => .ok (m, rest)

/-- An open indentation, measured with wide and with narrow tabs. -/
structure Indent where
  wide : Nat
  narrow : Nat

/-- Tokens for the indentation of a line, and the new stack. -/
def indentation (stack : List Indent) (m : Margin) : Except Cause (List Token × List Indent) :=
  let wide := m.fixed.getD m.wide
  let narrow := m.fixed.getD m.narrow
  let top : Indent := stack.headD ⟨0, 0⟩
  if wide = top.wide then
    if narrow = top.narrow then .ok ([], stack) else .error .inconsistentTabs
  else if wide > top.wide then
    if stack.length ≥ 99 then .error .indentedTooDeep
    else if narrow ≤ top.narrow then .error .inconsistentTabs
    else .ok ([.indent], ⟨wide, narrow⟩ :: stack)
  else
    let open_ := stack.dropWhile (wide < ·.wide)
    let top : Indent := open_.headD ⟨0, 0⟩
    if wide ≠ top.wide then .error .inconsistentDedent
    else if narrow ≠ top.narrow then .error .inconsistentTabs
    else .ok (List.replicate (stack.length - open_.length) .dedent, open_)

/-! ## The scan -/

/-- The scan in the middle of a text. -/
structure Scanner where
  rest : Text
  line : Nat := 1
  /-- Open indentations, innermost first. -/
  indents : List Indent := []
  /-- Open brackets with their lines, innermost first. -/
  brackets : List (Char × Nat) := []
  lineStart : Bool := true

/-- The bracket that a closing one belongs to. -/
def openingOf (c : Char) : Char :=
  if c = ')' then '(' else if c = ']' then '[' else '\x7b'

/-- The brackets open behind an operator. -/
def trackBracket (s : Scanner) (c : Char) : Except Cause (List (Char × Nat)) :=
  if c = '(' || c = '[' || c = '\x7b' then
    if s.brackets.length ≥ 200 then .error .nestedTooDeep
    else .ok ((c, s.line) :: s.brackets)
  else if c = ')' || c = ']' || c = '\x7d' then
    match s.brackets with
    | [] => .error (.unmatched c)
    | (o, line) :: more =>
      if o = openingOf c then .ok more
      else .error (.mismatched c o (if line = s.line then none else some line))
  else .ok s.brackets

/-- Operator at the start of a text that is not empty. -/
def operatorText (t : Text) : Text :=
  match longOperators.find? fun o => o.toList.isPrefixOf t with
  | some o => o.toList
  | none => t.take 1

/-- The next token of a text that starts with neither a blank nor a line break. -/
def nextToken (s : Scanner) (c : Char) : Except Cause (Token × Text × List (Char × Nat)) := do
  if isWordStart c then
    let (word, rest) := s.rest.span isWordPart
    match rest, stringMarks? word with
    | q :: _, some marks =>
      if q = '\'' || q = '"' then
        -- a word right before a quote says how the string is meant
        let (t, rest) ← stringToken marks s.line rest
        return (t, rest, s.brackets)
    | _, _ => pure ()
    return (← wordToken word, rest, s.brackets)
  else if c.isDigit || (c = '.' && (s.rest.drop 1).head?.any Char.isDigit) then
    let (t, rest) ← numberToken s.rest
    return (t, rest, s.brackets)
  else if c = '\'' || c = '"' then
    let (t, rest) ← stringToken { body := [] } s.line s.rest
    return (t, rest, s.brackets)
  else if !isPrintable c then throw (.badCharacter c)
  else
    let o := operatorText s.rest
    let brackets ← if o.length = 1 then trackBracket s c else pure s.brackets
    return (.op (String.ofList o), s.rest.drop o.length, brackets)

/-- A character that ends a comment. -/
def notBreak (c : Char) : Bool := c != '\n'

/-- Cuts the rest of a text. The fuel is spent on characters, and `last` is the
last line of the text. -/
def scanFrom (last : Nat) : Nat → Scanner → List Lexeme × ScanEnd
  | 0, _ => ([], .complete)
  | fuel + 1, s =>
    let broken (line : Nat) (e : ScanEnd) : List Lexeme × ScanEnd :=
      ([⟨.broken, line, line, s.brackets.length⟩], e)
    let depth := s.brackets.length
    if s.lineStart then
      match margin {} s.rest with
      | .error cause =>
        -- a fault in the margin is reported where the margin ends
        let line := s.line + ((s.rest.takeWhile fun c => c == ' ' || c == '\t' || c == '\x0c' ||
          c == '\\' || c == '\n').count '\n')
        let line := min line last
        broken line (.deferred cause line s.brackets.head?)
      | .ok (m, rest) =>
        let s := { s with rest, line := s.line + m.continued, lineStart := false }
        match rest with
        | '\n' :: more =>
          scanFrom last fuel { s with rest := more, line := s.line + 1, lineStart := true }
        | '#' :: more =>
          match more.dropWhile notBreak with
          | _ :: more =>
            scanFrom last fuel { s with rest := more, line := s.line + 1, lineStart := true }
          | [] => scanFrom last fuel { s with rest := [] }
        | _ =>
          if depth > 0 then scanFrom last fuel s
          else
            -- within brackets the margin means nothing
            let line := if rest.isEmpty then last else s.line
            match indentation s.indents m with
            | .error cause => broken line (.deferred cause line none)
            | .ok (tokens, indents) =>
              let (more, e) := scanFrom last fuel { s with indents }
              (tokens.map (⟨·, line, line, 0⟩) ++ more, e)
    else
      match s.rest with
      | [] =>
        match s.brackets.head? with
        | some (b, line) => broken last (.openBracket b line)
        | none => ([⟨.finish, last, last, 0⟩], .complete)
      | c :: rest =>
        if c = ' ' || c = '\t' || c = '\x0c' then scanFrom last fuel { s with rest }
        else if c = '#' then scanFrom last fuel { s with rest := rest.dropWhile notBreak }
        else if c = '\n' then
          let next := { s with rest, line := s.line + 1, lineStart := true }
          if depth > 0 then scanFrom last fuel next
          else
            let (more, e) := scanFrom last fuel next
            (⟨.newline, s.line, s.line, 0⟩ :: more, e)
        else if c = '\\' then
          match rest with
          | '\n' :: more =>
            if more.isEmpty then
              -- a line cannot be continued by nothing
              broken s.line (.deferred .endAfterContinuation s.line s.brackets.head?)
            else scanFrom last fuel { s with rest := more, line := s.line + 1 }
          | _ => broken s.line (.deferred .afterContinuation s.line s.brackets.head?)
        else match nextToken s c with
          | .error cause => broken s.line (.fault cause s.line)
          | .ok (token, tail, brackets) =>
            let used := s.rest.take (s.rest.length - tail.length)
            let line := s.line + used.count '\n'
            let (more, e) := scanFrom last fuel { s with rest := tail, line, brackets }
            (⟨token, s.line, line, brackets.length⟩ :: more, e)

/-- Number of lines of a source text; a break at the end starts no further one. -/
def sourceLineCount (t : Text) : Nat :=
  t.count '\n' + if t.getLast? = some '\n' then 0 else 1

/-- The lexemes of a source text whose line breaks are unified. -/
def tokenize (t : Text) : Scan :=
  let (lexemes, ending) := scanFrom (sourceLineCount t) (2 * t.length + 4) { rest := t }
  ⟨lexemes, ending⟩

end Scratchpad
