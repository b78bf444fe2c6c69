import Scratchpad.Eval.Builtin
import Scratchpad.Text.Width

/-!
# Methods of texts

What `text.method(...)` computes.
-/

namespace Scratchpad

namespace Run

/-- Texts as a new list. -/
def textList (ts : List Text) : Run Value := newList (ts.map .str)

/-- An argument that must be a text. -/
def textArgument (f : String) (position : String) (v : Value) : Run Text := do
  match v with
  | .str t => return t
  | v => typeFault s!"{f}() argument {position}must be str, not {← typeName v}"

/-- The part of a text between bounds that may be left out, and where it starts. -/
def boundedPart (t : Text) (bounds : List Value) : Run (Option (Nat × Text)) := do
  let length := t.length
  let start ← match bounds with
    | [] | .none :: _ => pure 0
    | v :: _ => match ← sliceBound v with
      | none => pure 0
      | some i => pure (if i < 0 then max 0 (i + length) else i)
  let stop ← match bounds with
    | _ :: v :: _ => match ← sliceBound v with
      | none => pure (length : Int)
      | some i => pure (if i < 0 then max 0 (i + length) else min i length)
    | _ => pure (length : Int)
  if start > length then return none
  else if stop < start then return none
  else return some (start.toNat, (t.take stop.toNat).drop start.toNat)

/-- A limit where a negative number means none. -/
def limitOf (length : Nat) (v : Value) : Run Nat := do
  let n ← integer v
  return if n < 0 then length + 1 else n.toNat

/-- The position of a text in another, or -1. -/
def position (last : Bool) (f : String) (t : Text) (args : List Value) : Run Int := do
  match args with
  | .str needle :: bounds =>
    match ← boundedPart t bounds with
    | none => return -1
    | some (start, part) =>
      match if last then findLastText needle part else findText needle part with
      | some i => return (i + start : Nat)
      | none => return -1
  | v :: _ => typeFault s!"must be str, not {← typeName v}"
  | [] => typeFault s!"{f}() takes at least 1 argument (0 given)"

/-- A text split at a separator or at blanks. -/
def splitAt (last : Bool) (t : Text) (separator limit : Value) : Run Value := do
  let n ← limitOf t.length limit
  match separator with
  | .none => textList (if last then splitWordsLast n t else splitWords n t)
  | .str [] => raise (.valueError "empty separator")
  | .str s => textList (if last then splitTextLast s n t else splitText s n t)
  | v => typeFault s!"must be str or None, not {← typeName v}"

/-- The text cut in three at a separator. -/
def partitioned (last : Bool) (t : Text) (v : Value) : Run Value := do
  match v with
  | .str [] => raise (.valueError "empty separator")
  | .str s =>
    match if last then cutTextLast s t else cutText s t with
    | some (a, b) => return .tuple [.str a, .str s, .str b]
    | none =>
      if last then return .tuple [.str [], .str [], .str t]
      else return .tuple [.str t, .str [], .str []]
  | v => typeFault s!"must be str, not {← typeName v}"

/-- A text without the characters of a set at its start or end. -/
def stripped (f : String) (atStart atEnd : Bool) (t : Text) (args : List Value) : Run Value := do
  let drops ← match args with
    | [] | .none :: _ => pure isBlank
    | .str set :: _ => pure fun c => set.contains c
    | _ => typeFault s!"{f} arg must be None or str"
  let t := if atStart then stripStart drops t else t
  return .str (if atEnd then stripEnd drops t else t)

/-- Whether a text starts or ends with another, or with one of several. -/
def borders (f : String) (atEnd : Bool) (t : Text) (args : List Value) : Run Value := do
  let fits (part s : Text) : Bool := if atEnd then s.isSuffixOf part else s.isPrefixOf part
  match args with
  | [] => typeFault s!"{f}() takes at least 1 argument (0 given)"
  | v :: bounds =>
    let part? ← boundedPart t bounds
    let test (s : Text) : Bool := part?.any fun (_, part) => fits part s
    match v with
    | .str s => return .bool (test s)
    | .tuple vs =>
      let ts ← vs.mapM fun v => do
        match v with
        | .str s => pure s
        | v => typeFault s!"tuple for {f} must only contain str, not {← typeName v}"
      return .bool (ts.any test)
    | v =>
      typeFault s!"{f} first arg must be str or a tuple of str, not {← typeName v}"

/-- A text filled up to a width. -/
def filled (fill : Char → Nat → Text → Text) (t : Text) (args : List Value) : Run Value := do
  match args with
  | [w] => return .str (fill ' ' (← integer w).toNat t)
  | [w, .str [c]] => return .str (fill c (← integer w).toNat t)
  | _ :: .str _ :: _ => typeFault "The fill character must be exactly one character long"
  | _ :: v :: _ =>
    typeFault s!"The fill character must be a unicode character, not {← typeName v}"
  | [] => return .str t

end Run

/-- Texts joined by a text. -/
def Rules.joinTexts (r : Rules) (separator : Text) (v : Value) : Run Value := do
  let items ← r.itemsOr (fun _ => .typeError "can only join an iterable") v
  let texts ← items.zipIdx.mapM fun (v, i) => do
    match v with
    | .str t => pure t
    | v => .typeFault s!"sequence item {i}: expected str instance, {← Run.typeName v} found"
  return .str (unlines separator texts)

/-- Questions about a whole text that hold of no empty text. -/
def textTest? (name : String) : Option (Text → Bool) :=
  let every (p : Char → Bool) (t : Text) : Bool := !t.isEmpty && t.all p
  match name with
  | "isalnum" => some (every isAlphaNumber)
  | "isalpha" => some (every isLetter)
  | "isdecimal" => some (every isDecimal)
  | "isdigit" => some (every isDigit)
  | "isnumeric" => some (every isNumeric)
  | "isspace" => some (every isBlank)
  | "islower" => some isLowerText
  | "isupper" => some isUpperText
  | "istitle" => some isTitleText
  | "isidentifier" => some isName
  | "isprintable" => some (·.all isPrintable)
  | "isascii" => some (·.all fun c => c.toNat < 128)
  | _ => none
where
  /-- A letter or a number of some kind. -/
  isAlphaNumber (c : Char) : Bool := isLetter c || isNumeric c

/-- Changes of a whole text that take no argument. -/
def textChange? (name : String) : Option (Text → Text) :=
  match name with
  | "upper" => some upperText
  | "lower" | "casefold" => some lowerText
  | "title" => some titleText
  | "capitalize" => some capitalText
  | "swapcase" => some swapText
  | _ => none

/-- The arguments of a method of texts, where some may be given by name. -/
def Run.methodArguments (type f : String) (low high : Nat) (names : List String)
    (args : Arguments) : Run (List Value) := do
  match args.named.find? fun (n, _) => !names.contains n with
  | some (n, _) =>
    if names.isEmpty then typeFault s!"{type}.{f}() takes no keyword arguments"
    else typeFault s!"'{n}' is an invalid keyword argument for {f}()"
  | none =>
    let n := args.positional.length
    if n + args.named.length > high || n < low then
      if low = 0 && high = 0 then
        typeFault s!"{type}.{f}() takes no arguments ({n} given)"
      else if low = 1 && high = 1 then
        typeFault s!"{type}.{f}() takes exactly one argument ({n} given)"
      else if low = high then typeFault s!"{f} expected {low} argument{plural low}, got {n}"
      else if n < low then
        typeFault s!"{f} expected at least {low} argument{plural low}, got {n}"
      else typeFault s!"{f} expected at most {high} argument{plural high}, got {n}"
    else
      let named := names.drop n |>.map fun n => args.named.lookup n
      -- arguments that stand in front of a given one are filled up
      let last := (named.reverse.dropWhile Option.isNone).reverse
      return args.positional ++ last.map (·.getD .none)

/-- Calls a method of a text; `format` has a rule of its own. -/
def Rules.callText (r : Rules) (t : Text) (name : String) (args : Arguments) : Run Value := do
  let take (low high : Nat) (names : List String) : Run (List Value) :=
    Run.methodArguments "str" name low high names args
  match textTest? name, textChange? name with
  | some test, _ =>
    let _ ← take 0 0 []
    return .bool (test t)
  | _, some change =>
    let _ ← take 0 0 []
    return .str (change t)
  | none, none =>
    match name with
    | "join" => r.joinTexts t ((← take 1 1 []).headD .none)
    | "split" | "rsplit" =>
      match ← take 0 2 ["sep", "maxsplit"] with
      | [] => Run.splitAt (name == "rsplit") t .none (.int (-1))
      | [s] => Run.splitAt (name == "rsplit") t s (.int (-1))
      | s :: n :: _ => Run.splitAt (name == "rsplit") t s n
    | "splitlines" =>
      match ← take 0 1 ["keepends"] with
      | [] => Run.textList (wideLines t)
      | v :: _ =>
        Run.textList (if truth (← Run.world) v then wideLinesKept t else wideLines t)
    | "strip" => Run.stripped name true true t (← take 0 1 [])
    | "lstrip" => Run.stripped name true false t (← take 0 1 [])
    | "rstrip" => Run.stripped name false true t (← take 0 1 [])
    | "replace" =>
      match ← take 2 3 [] with
      | [old, new] =>
        let old ← Run.textArgument name "1 " old
        let new ← Run.textArgument name "2 " new
        return .str (replaceText old new (t.length + 1) t)
      | old :: new :: count :: _ =>
        let old ← Run.textArgument name "1 " old
        let new ← Run.textArgument name "2 " new
        return .str (replaceText old new (← Run.limitOf t.length count) t)
      | _ => return .str t
    | "find" | "rfind" =>
      return .int (← Run.position (name == "rfind") name t (← take 1 3 []))
    | "index" | "rindex" =>
      let i ← Run.position (name == "rindex") name t (← take 1 3 [])
      if i < 0 then .raise (.valueError "substring not found") else return .int i
    | "count" =>
      match ← take 1 3 [] with
      | .str needle :: bounds =>
        match ← Run.boundedPart t bounds with
        | none => return .int 0
        | some (_, part) => return .int (countText needle part)
      | v :: _ => .typeFault s!"must be str, not {← Run.typeName v}"
      | [] => return .int 0
    | "startswith" => Run.borders name false t (← take 1 3 [])
    | "endswith" => Run.borders name true t (← take 1 3 [])
    | "removeprefix" =>
      let s ← Run.textArgument name "" ((← take 1 1 []).headD .none)
      return .str (if s.isPrefixOf t then t.drop s.length else t)
    | "removesuffix" =>
      let s ← Run.textArgument name "" ((← take 1 1 []).headD .none)
      return .str (if s.isSuffixOf t then t.take (t.length - s.length) else t)
    | "partition" => Run.partitioned false t ((← take 1 1 []).headD .none)
    | "rpartition" => Run.partitioned true t ((← take 1 1 []).headD .none)
    | "center" => Run.filled fillBoth t (← take 1 2 [])
    | "ljust" => Run.filled fillRight t (← take 1 2 [])
    | "rjust" => Run.filled fillLeft t (← take 1 2 [])
    | "zfill" =>
      let n ← Run.integer ((← take 1 1 []).headD .none)
      return .str (fillZeros n.toNat t)
    | "expandtabs" =>
      match ← take 0 1 ["tabsize"] with
      | [] => return .str (expandTabs 8 t)
      | v :: _ => return .str (expandTabs (← Run.integer v).toNat t)
    | "encode" =>
      match ← take 0 1 ["encoding"] with
      | [] | [.str ['u', 't', 'f', '-', '8']] => return .bytes (String.ofList t).toUTF8.toList
      | _ => .raise (.notProvided "such an encoding")
    | name => .raise (.notProvided s!"the method {name}")

end Scratchpad
