import Scratchpad.Syntax.Literal
import Scratchpad.Syntax.Reader
import Scratchpad.Syntax.Tree

/-!
# Reading expressions

A `Grammar` holds the readers of the levels that occur inside other expressions.
The rules below read one expression and hand its inner expressions to a grammar,
and `grammar n` ties the knot for nestings up to depth `n`. An inner expression
stands behind at least one character that belongs to the outer one, so the length
of a text bounds the nesting in it.
-/

namespace Scratchpad

open Reader

/-- Readers for inner expressions. -/
structure Grammar where
  expression : Reader Expr
  disjunction : Reader Expr
  /-- The level below comparisons. -/
  bitwise : Reader Expr
  factor : Reader Expr
  inversion : Reader Expr
  primary : Reader Expr
  /-- The expression in a field of a formatted string. -/
  embedded : Text → Except Cause Expr

/-- A token with which an expression can begin. -/
def Token.startsExpression : Token → Bool
  | .name _ | .int _ | .hugeInt _ | .float _ | .imaginary _ | .string _ => true
  | .keyword k => ["None", "True", "False", "not", "lambda", "await"].contains k
  | .op o => ["(", "[", "\x7b", "-", "+", "~", "..."].contains o
  | _ => false

/-- A token with which an expression or a starred expression can begin. -/
def Token.startsItem (t : Token) : Bool := t.startsExpression || t.isOp "*"

/-- One item stands for itself, several or a trailing comma make a tuple. -/
def tupleOf (items : List Expr × Bool) : Expr :=
  match items with
  | ([e], false) => e
  | (es, _) => .tuple es

/-! ## Lists of expressions -/

/-- A starred expression or an expression. -/
def starExpression (g : Grammar) : Reader Expr := do
  if ← acceptOp "*" then return .starred (← g.bitwise)
  g.expression

/-- One or more expressions, starred ones included. -/
def starExpressions (g : Grammar) : Reader Expr := do
  return tupleOf (← commaList (starExpression g) (return (← token).startsItem))

/-- One or more expressions without stars. -/
def expressions (g : Grammar) : Reader Expr := do
  return tupleOf (← commaList g.expression (return (← token).startsExpression))

/-- A `yield` with its operand. -/
def yieldExpression (g : Grammar) : Reader Expr := do
  keyword "yield"
  if ← acceptKeyword "from" then return .yieldFrom (← g.expression)
  if (← token).startsItem then return .yield (some (← starExpressions g))
  return .yield none

/-- A `yield` or a list of expressions. -/
def yieldOrExpressions (g : Grammar) : Reader Expr := do
  if ← nextIsKeyword "yield" then yieldExpression g else starExpressions g

/-! ## String literals -/

/-- Splits a formatted string at the end of a replacement field's expression: the
expression's text and the rest. `nested` holds the open brackets, and `quote` the
quotation mark and its width inside a string. -/
def fieldText (fuel : Nat) (nested : List Char) (quote : Option (Char × Nat)) (t : Text) :
    Except Cause (Text × Text) :=
  match fuel, t with
  | 0, _ => .ok ([], t)
  | _ + 1, [] =>
    if quote.isSome then .error (.formatted "unterminated string")
    else match nested with
      | b :: _ => .error (.formatted s!"unmatched '{b}'")
      | [] => .ok ([], [])
  | fuel + 1, c :: rest => do
    if c = '\\' then throw (.formattedPart "a backslash")
    match quote with
    | some (q, width) =>
      if c = q then
        if width = 3 then
          if rest.take 2 = [q, q] then
            let (e, tail) ← fieldText fuel nested none (rest.drop 2)
            return (c :: q :: q :: e, tail)
          let (e, tail) ← fieldText fuel nested quote rest
          return (c :: e, tail)
        let (e, tail) ← fieldText fuel nested none rest
        return (c :: e, tail)
      let (e, tail) ← fieldText fuel nested quote rest
      return (c :: e, tail)
    | none =>
      if c = '\'' || c = '"' then
        if rest.take 2 = [c, c] then
          let (e, tail) ← fieldText fuel nested (some (c, 3)) (rest.drop 2)
          return (c :: c :: c :: e, tail)
        let (e, tail) ← fieldText fuel nested (some (c, 1)) rest
        return (c :: e, tail)
      if c = '[' || c = '\x7b' || c = '(' then
        let (e, tail) ← fieldText fuel (c :: nested) none rest
        return (c :: e, tail)
      if c = '#' then throw (.formattedPart "'#'")
      if nested.isEmpty && (c = '!' || c = ':' || c = '\x7d' || c = '=' || c = '<' || c = '>') then
        -- comparisons are part of the expression
        match rest with
        | '=' :: more =>
          if c = '!' || c = '=' || c = '<' || c = '>' then
            let (e, tail) ← fieldText fuel nested none more
            return (c :: '=' :: e, tail)
        | _ => pure ()
        if c = '<' || c = '>' then
          let (e, tail) ← fieldText fuel nested none rest
          return (c :: e, tail)
        return ([], t)
      if c = ']' || c = '\x7d' || c = ')' then
        match nested with
        | [] => throw (.formatted s!"unmatched '{c}'")
        | o :: outer =>
          if o != openingOf c then
            throw (.formatted
              s!"closing parenthesis '{c}' does not match opening parenthesis '{o}'")
          let (e, tail) ← fieldText fuel outer none rest
          return (c :: e, tail)
      let (e, tail) ← fieldText fuel nested none rest
      return (c :: e, tail)

/-- Takes the text up to a replacement field off a formatted string; doubled
braces stand for one. Inside a format text a closing brace ends the text. -/
def plainPart (isRaw inFormat : Bool) : Text → Except Cause (Text × Text)
  | [] => .ok ([], [])
  | c :: rest => do
    if c = '\x7b' then
      match rest with
      | '\x7b' :: more =>
        if inFormat then return ([], c :: rest)
        let (t, tail) ← plainPart isRaw inFormat more
        -- within a format a brace cannot be doubled
        return ('\x7b' :: t, tail)
      | _ => return ([], c :: rest)
    else if c = '\x7d' then
      if inFormat then return ([], c :: rest)
      match rest with
      | '\x7d' :: more =>
        let (t, tail) ← plainPart isRaw inFormat more
        return ('\x7d' :: t, tail)
      | _ => throw (.formatted "single '\x7d' is not allowed")
    else if c = '\\' && !isRaw then
      match rest with
      | d :: more =>
        -- a backslash does not keep a brace from being one
        if d = '\x7b' || d = '\x7d' then
          let (t, tail) ← plainPart isRaw inFormat (d :: more)
          return (c :: t, tail)
        let (t, tail) ← plainPart isRaw inFormat more
        return (c :: d :: t, tail)
      | [] => return ([c], [])
    else
      let (t, tail) ← plainPart isRaw inFormat rest
      return (c :: t, tail)

/-- The pieces of a formatted string. A format text holds pieces too, but no
deeper ones; it ends before its closing brace. -/
def formattedPieces (g : Grammar) (isRaw : Bool) :
    Nat → Nat → Text → Except Cause (List Piece × Text)
  | 0, _, t => .ok ([], t)
  | fuel + 1, depth, t => do
    let (plain, rest) ← plainPart isRaw (depth > 0) t
    let plain ← decodeText isRaw plain
    let front : List Piece := if plain.isEmpty then [] else [.text plain]
    match rest with
    | [] => return (front, [])
    | '\x7d' :: _ => return (front, rest)
    | _ :: rest =>
      if depth ≥ 2 then throw (.formatted "expressions nested too deeply")
      let (source, rest) ← fieldText rest.length [] none rest
      if rest.isEmpty then throw (.formatted "expecting '\x7d'")
      if source.all isBlank then throw (.formatted "empty expression not allowed")
      let e ← g.embedded source
      let (shown, rest) : Text × Text := match rest with
        | '=' :: more =>
          let blanks := more.takeWhile isBlank
          (source ++ '=' :: blanks, more.dropWhile isBlank)
        | _ => ([], rest)
      let (conversion, rest) ← match rest with
        | '!' :: c :: more =>
          if c = 's' || c = 'r' || c = 'a' then pure (some c, more)
          else throw (.formatted
            "invalid conversion character: expected 's', 'r', or 'a'")
        | ['!'] => throw (.formatted "expecting '\x7d'")
        | _ => pure (none, rest)
      let (format, rest) ← match rest with
        | ':' :: more => formattedPieces g isRaw fuel (depth + 1) more
        | _ => pure ([], rest)
      match rest with
      | '\x7d' :: rest =>
        let conversion :=
          -- a field that shows its source is quoted, unless it says how it is meant to be shown
          if !shown.isEmpty && conversion.isNone && format.isEmpty then some 'r' else conversion
        let label : List Piece := if shown.isEmpty then [] else [.text shown]
        let (pieces, tail) ← formattedPieces g isRaw fuel depth rest
        return (front ++ label ++ .field e conversion format :: pieces, tail)
      | _ => throw (.formatted "expecting '\x7d'")

/-- Neighbouring texts of a formatted string as one. -/
def mergeTexts : List Piece → List Piece
  | .text a :: rest =>
    match mergeTexts rest with
    | .text b :: more => .text (a ++ b) :: more
    | more => .text a :: more
  | p :: rest => p :: mergeTexts rest
  | [] => []

/-- The pieces of one string literal that is no bytes literal. -/
def literalPieces (g : Grammar) (s : StringToken) : Except Cause (List Piece) := do
  if s.isFormatted then
    let (pieces, _) ← formattedPieces g s.isRaw (s.body.length + 1) 0 s.body
    return pieces
  return [.text (← decodeText s.isRaw s.body)]

/-- Neighbouring string literals as one expression. -/
def joinLiterals (g : Grammar) (ss : List StringToken) : Except Cause Expr := do
  if ss.any (·.isBytes) then
    if !ss.all (·.isBytes) then throw .mixedBytes
    let parts ← ss.mapM fun s => decodeBytes s.isRaw s.body
    return .constant (.bytes parts.flatten)
  let parts ← ss.mapM (literalPieces g)
  let pieces := mergeTexts parts.flatten
  if ss.any (·.isFormatted) then return .formatted pieces
  match pieces with
  | [.text t] => return .constant (.str t)
  | _ => return .constant (.str [])

/-- String literals that stand side by side. -/
def strings (g : Grammar) : Reader Expr := do
  let line := (← peek).line
  let ss ← many do
    match ← token with
    | .string s =>
      advance
      return some s
    | _ => return none
  match joinLiterals g ss with
  | .ok e => return e
  | .error cause => failAt cause line

/-! ## Assignments that were meant as comparisons -/

/-- Whether a bitwise expression and no second equals sign follows. -/
def singleRightSide (g : Grammar) : Reader Bool := do
  match ← attempt? (do
    op "="
    let _ ← g.bitwise
    return (← token) : Reader Token) with
  | some (t, _) => return !(t.isOp "=" || t.isOp ":=")
  | none => return false

/-! ## Names and walrus -/

/-- Whether a display or constant starts here that may stand on the left of an
equals sign without a hint. `display` reads a bracketed expression. -/
def startsTargetDisplay (display : Reader Expr) : Reader Bool := do
  match ← token with
  | .keyword k => return ["True", "None", "False"].contains k
  | .op o =>
    if o == "(" || o == "[" then
      match ← attempt? display with
      | some (.list _, _) | some (.tuple _, _) | some (.comprehension .generator .., _) =>
        return true
      | _ => return false
    else return false
  | _ => return false

/-- Fails with a hint if the equals sign here was meant as a comparison; `start`
is where the expression in front of it began. -/
def hintComparison (g : Grammar) (display : Reader Expr) (start : Cursor) : Reader Unit := do
  let here ← get
  set start
  let line := (← peek).line
  match ← token, ← secondToken with
  | .name _, .op "=" =>
    advance
    if ← singleRightSide g then failAt .comparisonMeant line
  | _, _ =>
    if !(← startsTargetDisplay display) then
      match ← attempt? g.bitwise with
      | some (e, after) =>
        set after
        if ← singleRightSide g then failAt (.cannotAssignHere e.describe) line
      | none => pure ()
  set here

/-- An expression that may bind a name on the way. -/
def namedExpressionWith (g : Grammar) (display : Reader Expr) : Reader Expr := do
  let start ← get
  match ← token, ← secondToken with
  | .name id, .op ":=" =>
    advance
    advance
    return .walrus id (← g.expression)
  | _, _ =>
    let line := (← peek).line
    let e ← g.expression
    if ← nextIsOp ":=" then
      match ← attempt? (do advance; g.expression : Reader Expr) with
      -- the complaint is about the target only if a value follows
      | some _ => failAt (.cannotWalrus e.describe) line
      | none => unexpected
    if ← nextIsOp "=" then
      hintComparison g display start
      unexpected
    return e

/-! ## Targets and comprehensions -/

/-- Names for the items of a loop: targets up to the word `in`. -/
def loopTargets (g : Grammar) : Reader Expr := do
  let start ← get
  let target : Reader Expr := do
    if ← acceptOp "*" then return .starred (← g.primary)
    g.primary
  let read : Reader Expr := do
    let e := tupleOf (← commaList target (return (← token).startsItem))
    if (e.badTarget? .assignment).isSome || !(← nextIsKeyword "in") then unexpected
    return e
  match read start with
  -- what is no target may still be read as expressions, for a better complaint
  | .ok (e, s) =>
    set s
    return e
  | .error stop =>
    match starExpressions g start with
    | .ok (e, _) =>
      match e.badTarget? .loop with
      | some bad => failAt (.cannotAssign bad.describe) (← peek).line
      | none => throw stop
    | .error _ => throw stop

/-- The clauses of a comprehension. -/
def clauses (g : Grammar) : Reader (List Clause) := do
  many do
    let isAsync ← match ← token, ← secondToken with
      | .keyword "async", .keyword "for" =>
        advance
        pure true
      | _, _ => pure false
    if !(← acceptKeyword "for") then return none
    let target ← loopTargets g
    keyword "in"
    let source ← g.disjunction
    let conditions ← many do
      if ← acceptKeyword "if" then return some (← g.disjunction) else return none
    return some (.mk isAsync target source conditions)

/-- Whether a comprehension clause comes next. -/
def nextIsClause : Reader Bool := do
  match ← token with
  | .keyword "for" => return true
  | .keyword "async" => return true
  | _ => return false

/-! ## Brackets -/

/-- Fails at a starred expression that a clause follows. -/
def refuseStarred (e : Expr) (line : Nat) : Reader Unit := do
  match e with
  | .starred _ => failAt .unpackInComprehension line
  | _ => return ()

/-- Items of a list or set display behind the first one, up to a closing bracket. -/
def moreItems (item : Reader Expr) (first : Expr) (line : Nat) : Reader (List Expr) := do
  if ← acceptOp "," then
    if (← token).startsItem then
      let (items, _) ← commaList item (return (← token).startsItem)
      if ← nextIsClause then failAt .comprehensionParentheses line
      return first :: items
    if ← nextIsClause then failAt .comprehensionParentheses line
  return [first]

/-- A parenthesised expression, a tuple or a generator, behind its bracket.
`named` reads an expression that may bind a name. -/
def parenthesised (g : Grammar) (named : Reader Expr) : Reader Expr := do
  let line := (← peek).line
  if ← acceptOp ")" then return .tuple []
  if ← nextIsKeyword "yield" then
    let e ← yieldExpression g
    op ")"
    return e
  if ← nextIsOp "**" then
    match ← attempt? (do advance; let _ ← g.expression; nextIsOp ")" : Reader Bool) with
    | some (true, _) => fail .doubleStarredHere
    | _ => unexpected
  let item : Reader Expr := do
    if ← acceptOp "*" then return .starred (← g.bitwise)
    named
  let first ← item
  if ← nextIsClause then
    let cs ← clauses g
    refuseStarred first line
    -- a generator
    op ")"
    return .comprehension .generator none first cs
  if ← acceptOp "," then
    -- the comma makes a tuple, the brackets alone do not
    let rest ← if (← token).startsItem then
        let (items, _) ← commaList item (return (← token).startsItem)
        pure items
      else pure []
    op ")"
    return .tuple (first :: rest)
  match first with
  | .starred _ =>
    if ← nextIsOp ")" then failAt .starredHere line
    unexpected
  | _ =>
    op ")"
    return first

/-- A list display or comprehension, behind its bracket. -/
def bracketed (g : Grammar) (named : Reader Expr) : Reader Expr := do
  if ← acceptOp "]" then return .list []
  let line := (← peek).line
  let item : Reader Expr := do
    if ← acceptOp "*" then return .starred (← g.bitwise)
    named
  let first ← item
  if ← nextIsClause then
    let cs ← clauses g
    refuseStarred first line
    op "]"
    return .comprehension .list none first cs
  let items ← moreItems item first line
  op "]"
  return .list items

/-- The value of a dictionary entry, behind its colon; `line` is where the key
stands. -/
def entryValue (g : Grammar) : Reader Expr := do
  if ← nextIsOp "*" then
    match ← attempt? (do advance; g.bitwise : Reader Expr) with
    | some _ => fail .starredValue
    | none => unexpected
  if (← nextIsOp "\x7d") || (← nextIsOp ",") then fail .keyWithoutValue
  g.expression

/-- An entry of a dictionary display that is not the first one. -/
def dictItem (g : Grammar) : Reader DictItem := do
  if ← acceptOp "**" then return .unpack (← g.bitwise)
  let line := (← peek).line
  let key ← g.expression
  if !(← acceptOp ":") then failAt .keyWithoutColon line
  return .entry key (← entryValue g)

/-- Entries of a dictionary display behind the first one. -/
def moreEntries (g : Grammar) (first : DictItem) : Reader Expr := do
  let rest ← many do
    if ← acceptOp "," then
      if (← token).startsExpression || (← nextIsOp "**") then return some (← dictItem g)
      else return none
    else return none
  op "\x7d"
  return .dict (first :: rest)

/-- A dictionary or set display or comprehension, behind its brace. -/
def braced (g : Grammar) (named : Reader Expr) : Reader Expr := do
  if ← acceptOp "\x7d" then return .dict []
  let line := (← peek).line
  if ← acceptOp "**" then
    let e ← g.bitwise
    if ← nextIsClause then failAt .dictUnpackInComprehension line
    return ← moreEntries g (.unpack e)
  let item : Reader Expr := do
    if ← acceptOp "*" then return .starred (← g.bitwise)
    named
  let first ← item
  match first with
  | .starred _ => pure ()
  | _ =>
    if ← acceptOp ":" then
      let value ← entryValue g
      if ← nextIsClause then
        let cs ← clauses g
        op "\x7d"
        return .comprehension .dict (some first) value cs
      return ← moreEntries g (.entry first value)
  if ← nextIsClause then
    let cs ← clauses g
    refuseStarred first line
    op "\x7d"
    return .comprehension .set none first cs
  let items ← moreItems item first line
  op "\x7d"
  return .set items

/-- A bracketed expression at its opening bracket. -/
def displayWith (g : Grammar) (named : Reader Expr) : Reader Expr := do
  if ← acceptOp "(" then parenthesised g named
  else if ← acceptOp "[" then bracketed g named
  else if ← acceptOp "\x7b" then braced g named
  else unexpected

/-- An expression that may bind a name on the way. Whether brackets in front of an
equals sign are a display is found out without the hint. -/
def namedExpression (g : Grammar) : Reader Expr :=
  namedExpressionWith g (displayWith g g.expression)

/-- An atom: a name, a literal, or an expression in brackets. -/
def atom (g : Grammar) : Reader Expr := do
  match ← token with
  | .name s =>
    advance
    return .name s
  | .keyword k =>
    if k == "True" then
      advance
      return .constant (.bool true)
    if k == "False" then
      advance
      return .constant (.bool false)
    if k == "None" then
      advance
      return .constant .none
    unexpected
  | .int n =>
    advance
    return .constant (.int n)
  | .hugeInt digits => fail (.integerTooLong digits)
  | .float x =>
    advance
    return .constant (.float x)
  | .imaginary x =>
    advance
    return .constant (.imaginary x)
  | .string _ => strings g
  | .op o =>
    if o == "..." then
      advance
      return .constant .ellipsis
    displayWith g (namedExpression g)
  | _ => unexpected

/-! ## Calls and subscripts -/

/-- A slice or an index. -/
def sliceItem (g : Grammar) : Reader Expr := do
  if ← acceptOp "*" then return .starred (← g.bitwise)
  let bound : Reader (Option Expr) := do
    if (← token).startsExpression then return some (← g.expression) else return none
  let start ← if ← nextIsOp ":" then pure none else some <$> namedExpression g
  if ← acceptOp ":" then
    let stop ← bound
    let step ← if ← acceptOp ":" then bound else pure none
    return .slice start stop step
  match start with
  | some e => return e
  | none => unexpected

/-- What stands between the brackets of a subscript, and the closing one. -/
def subscript (g : Grammar) : Reader Expr := do
  let items ← commaList (sliceItem g) (return (← token).startsItem || (← nextIsOp ":"))
  op "]"
  match items with
  | ([.starred e], _) => return .tuple [.starred e]
  | _ => return tupleOf items

/-- How far the arguments of a call have come. -/
structure ArgumentOrder where
  named : Bool := false
  unpacked : Bool := false

/-- One argument of a call. -/
def argument (g : Grammar) (order : ArgumentOrder) : Reader (Argument × ArgumentOrder) := do
  let line := (← peek).line
  if ← nextIsOp "*" then
    if order.unpacked then failAt .unpackAfterUnpack line
    advance
    return (.unpack (← g.expression), order)
  if ← acceptOp "**" then
    return (.unpackKeywords (← g.expression), { order with unpacked := true })
  match ← token, ← secondToken with
  | .name id, .op "=" =>
    advance
    advance
    return (.keyword id (← g.expression), { order with named := true })
  | .keyword k, .op "=" =>
    if ["True", "False", "None"].contains k then failAt (.cannotAssign k) line
    unexpected
  | .name id, .op ":=" =>
    advance
    advance
    let e ← g.expression
    return (.positional (.walrus id e), order)
  | _, _ =>
    let e ← g.expression
    if ← nextIsOp "=" then failAt .keywordAssignment line
    if !(← nextIsClause) then
      -- an argument that is a generator is complained about by the caller
      if order.unpacked then failAt .positionalAfterUnpack line
      if order.named then failAt .positionalAfterKeyword line
    return (.positional e, order)

/-- The arguments of a call, behind the opening bracket, and the closing one. -/
def arguments (g : Grammar) : Reader (List Argument) := do
  if ← acceptOp ")" then return []
  let line := (← peek).line
  let (first, order) ← argument g {}
  if ← nextIsClause then
    match first with
    | .positional e =>
      let cs ← clauses g
      if ← acceptOp ")" then return [.positional (.comprehension .generator none e cs)]
      if ← nextIsOp "," then failAt .generatorParentheses line
      unexpected
    | _ => unexpected
  let step : List Argument × ArgumentOrder →
      Reader (Option (List Argument × ArgumentOrder)) := fun (found, order) => do
    if ← acceptOp "," then
      if ← nextIsOp ")" then return none
      let line := (← peek).line
      let (a, order) ← argument g order
      if ← nextIsClause then
        let _ ← clauses g
        failAt .generatorParentheses line
      return some (a :: found, order)
    else return none
  let (found, _) ← fold step ([first], order)
  op ")"
  return found.reverse

/-- A primary: an atom with attributes, calls and subscripts behind it. -/
def primaryRule (g : Grammar) : Reader Expr := do
  let e ← atom g
  fold (fun e => do
    if ← acceptOp "." then return some (.attribute e (← name))
    else if ← acceptOp "(" then return some (.call e (← arguments g))
    else if ← acceptOp "[" then return some (.subscript e (← subscript g))
    else return none) e

/-! ## Operators -/

/-- A primary, awaited or raised to a power. -/
def power (g : Grammar) : Reader Expr := do
  let base ← if ← acceptKeyword "await" then .await <$> g.primary else primaryRule g
  if ← acceptOp "**" then return .binary .pow base (← g.factor)
  return base

/-- A sign in front of a factor, or a power. -/
def factorRule (g : Grammar) : Reader Expr := do
  if ← acceptOp "-" then return .unary .negative (← g.factor)
  if ← acceptOp "+" then return .unary .positive (← g.factor)
  if ← acceptOp "~" then return .unary .invert (← g.factor)
  power g

/-- Operands with operators of one level between them, grouped to the left. -/
def leftAssociative (ops : List (String × BinaryOp)) (operand : Reader Expr) :
    Reader Expr := do
  let first ← operand
  fold (fun left => do
    match ← token with
    | .op o =>
      match ops.lookup o with
      | some b =>
        advance
        return some (.binary b left (← operand))
      | none => return none
    | _ => return none) first

/-- The level below comparisons. -/
def bitwiseRule (g : Grammar) : Reader Expr :=
  let term := leftAssociative
    [("*", .mul), ("/", .div), ("//", .floorDiv), ("%", .mod), ("@", .matMul)] (factorRule g)
  let sum := leftAssociative [("+", .add), ("-", .sub)] term
  let shift := leftAssociative [("<<", .shiftLeft), (">>", .shiftRight)] sum
  let conj := leftAssociative [("&", .bitAnd)] shift
  let xor := leftAssociative [("^", .bitXor)] conj
  leftAssociative [("|", .bitOr)] xor

/-- A comparison operator, if one comes next. -/
def compareOp? : Reader (Option CompareOp) := do
  match ← token, ← secondToken with
  | .op o, _ =>
    match [("==", CompareOp.eq), ("!=", .ne), ("<", .lt), ("<=", .le), (">", .gt),
        (">=", .ge)].lookup o with
    | some c =>
      advance
      return some c
    | none => return none
  | .keyword "in", _ =>
    advance
    return some .mem
  | .keyword "not", .keyword "in" =>
    advance
    advance
    return some .notMem
  | .keyword "is", second =>
    advance
    if second.isKeyword "not" then
      advance
      return some .isNot
    return some .is
  | _, _ => return none

/-- A comparison or a chain of them. -/
def comparison (g : Grammar) : Reader Expr := do
  let first ← bitwiseRule g
  let rest ← many do
    match ← compareOp? with
    | some c => return some (c, ← bitwiseRule g)
    | none => return none
  return if rest.isEmpty then first else .compare first rest

/-- A negation or a comparison. -/
def inversionRule (g : Grammar) : Reader Expr := do
  if ← acceptKeyword "not" then return .unary .not (← g.inversion)
  comparison g

/-- Operands joined by `and` or by `or`. -/
def joined (word : String) (build : List Expr → Expr) (operand : Reader Expr) :
    Reader Expr := do
  let first ← operand
  let rest ← many do
    if ← acceptKeyword word then return some (← operand) else return none
  return if rest.isEmpty then first else build (first :: rest)

/-- Operands joined by `or`. -/
def disjunctionRule (g : Grammar) : Reader Expr :=
  joined "or" .or (joined "and" .and (inversionRule g))

/-! ## Parameters -/

/-- The parameters read so far. -/
structure ParameterList where
  positionalOnly : List Parameter := []
  positional : List Parameter := []
  rest : Option Parameter := none
  keywordOnly : List Parameter := []
  keywords : Option Parameter := none
  /-- A star was read. -/
  starred : Bool := false

/-- One parameter; only those of definitions have annotations. -/
def parameter (g : Grammar) (annotated : Bool) : Reader Parameter := do
  let id ← name
  let declared ← if annotated then
      if ← acceptOp ":" then some <$> g.expression else pure none
    else pure none
  let default ← if ← acceptOp "=" then some <$> g.expression else pure none
  return .mk id declared default

/-- A parameter behind a star, which has no default; its annotation may be
starred. -/
def restParameter (g : Grammar) (annotated : Bool) : Reader Parameter := do
  let id ← name
  let declared ← if annotated then
      if ← acceptOp ":" then some <$> starExpression g else pure none
    else pure none
  return .mk id declared none

/-- Reads the next parameter into the list. -/
def nextParameter (g : Grammar) (annotated : Bool) (closing : String) (ps : ParameterList) :
    Reader ParameterList := do
  let line := (← peek).line
  if ps.keywords.isSome then unexpected
  if ← acceptOp "**" then
    return { ps with keywords := some (← restParameter g annotated) }
  if ← nextIsOp "/" then
    if ps.starred || !ps.positionalOnly.isEmpty || ps.positional.isEmpty then unexpected
    advance
    return { ps with positionalOnly := ps.positional, positional := [] }
  if ← nextIsOp "*" then
    if ps.starred then unexpected
    advance
    if ← nextIsOp "," then
      -- a bare star needs a name behind it
      match ← secondToken with
      | .name _ => return { ps with starred := true }
      | t =>
        if t.isOp closing || t.isOp "**" then failAt .bareStar line
        advance
        unexpected
    if ← nextIsOp closing then failAt .bareStar line
    return { ps with rest := some (← restParameter g annotated), starred := true }
  let p ← parameter g annotated
  if ps.starred then return { ps with keywordOnly := ps.keywordOnly ++ [p] }
  if p.default.isNone && (ps.positionalOnly ++ ps.positional).any (·.default.isSome) then
    failAt .defaultOrder line
  return { ps with positional := ps.positional ++ [p] }

/-- Parameters up to a closing token, which is left in place. -/
def parameters (g : Grammar) (annotated : Bool) (closing : String) : Reader Parameters := do
  if ← nextIsOp closing then return .empty
  let first ← nextParameter g annotated closing {}
  let ps ← fold (fun ps => do
    if ← acceptOp "," then
      if ← nextIsOp closing then return none
      return some (← nextParameter g annotated closing ps)
    else return none) first
  return .mk ps.positionalOnly ps.positional ps.rest ps.keywordOnly ps.keywords

/-- A function without a name. -/
def lambdaRule (g : Grammar) : Reader Expr := do
  keyword "lambda"
  let ps ← parameters g false ":"
  op ":"
  return .lambda ps (← g.expression)

/-! ## Expressions -/

/-- Words that are names in most places. -/
def softKeywords : List String := ["match", "case", "_"]

/-- Statements of old that are calls now. -/
def formerStatements : List String := ["print", "exec"]

/-- Fails with a hint if an expression stands right behind the one that began at
`start`. -/
def hintMissing (g : Grammar) (start : Cursor) : Reader Unit := do
  let here ← get
  let next ← token
  let first := start.rest.headD ⟨.finish, 0, 0, 0⟩
  let second := (start.rest.drop 1).headD ⟨.finish, 0, 0, 0⟩
  -- whether one token was read so far
  let alone := here.rest.length + 1 == start.rest.length
  if !next.startsExpression then return ()
  match first.token, alone with
  | .name f, true =>
    if formerStatements.contains f then
      match ← attempt? (starExpressions g) with
      | some _ => failAt (.missingCallParentheses f) first.line
      | none => return ()
  | _, _ => pure ()
  -- a word before a string may be a prefix that does not exist, and soft keywords may be meant
  let excluded := match first.token, second.token with
    | .name _, .string _ => true
    | .name w, _ => softKeywords.contains w
    | _, _ => false
  if excluded then return ()
  match ← attempt? g.expression with
  | some (_, after) =>
    let taken := here.rest.length - after.rest.length
    let lastDepth := ((here.rest.drop (taken - 1)).headD ⟨.finish, 0, 0, 0⟩).depth
    -- only within brackets a comma would help
    if lastDepth > 0 then
      set after
      failAt .forgottenComma first.line
  | none => return ()

/-- An expression: a function, a choice or a disjunction. -/
def expressionRule (g : Grammar) : Reader Expr := do
  if ← nextIsKeyword "lambda" then return ← lambdaRule g
  let start ← get
  let e ← disjunctionRule g
  if ← acceptKeyword "if" then
    let test ← disjunctionRule g
    if ← acceptKeyword "else" then return .conditional test e (← g.expression)
    if ← nextIsOp ":" then unexpected
    failAt .expectedElse (start.rest.headD ⟨.finish, 0, 0, 0⟩).line
  hintMissing g start
  return e

/-! ## Tying the knot -/

/-- Reads a whole scan with one reader. What the scan could not cut counts as
soon as a reader comes to it, and some of it even before. -/
def readScan {α : Type} (r : Reader α) (scan : Scan) : Except (Cause × Nat) α :=
  match r { rest := scan.lexemes } with
  | .ok (a, _) => .ok a
  | .error stop =>
    let own : Cause × Nat := (stop.cause, stop.line)
    match scan.ending with
    -- of the reader's fault and the scanner's the one that is met first is reported
    | .complete => .error own
    | .fault cause line => .error (cause, line)
    | .openBracket b line =>
      if stop.atBreak || stop.seen > line then .error (.neverClosed b, line) else .error own
    | .deferred cause line bracket =>
      if stop.atBreak then
        match cause, bracket with
        | .endAfterContinuation, some (b, opened) => .error (.neverClosed b, opened)
        | _, _ => .error (cause, line)
      else match bracket with
        | some (b, opened) =>
          if stop.seen > opened then .error (.neverClosed b, opened) else .error own
        | none => .error own

/-- The end of the text, behind any number of line ends. -/
def endOfText : Reader Unit := do
  let _ ← many do
    if ← nextIsNewline then
      advance
      return some ()
    else return none
  match ← token with
  | .finish => return ()
  | _ => unexpected

/-- The expression in a field of a formatted string, read as if it stood in
parentheses. -/
def embeddedRule (g : Grammar) (t : Text) : Except Cause Expr :=
  let scan := tokenize (unifyBreaks ('(' :: t ++ [')']))
  let whole : Reader Expr := do
    let e ← starExpressions g
    endOfText
    return e
  match readScan whole scan, scan.ending with
  | .ok e, _ => .ok e
  | .error _, .fault cause _ => .error cause
  | .error (cause, _), _ => .error (.formatted cause.message)

/-- The readers for expressions nested up to a depth. -/
def grammar : Nat → Grammar
  | 0 =>
    { expression := unexpected, disjunction := unexpected, bitwise := unexpected,
      factor := unexpected, inversion := unexpected, primary := unexpected,
      embedded := fun _ => .error .nestedTooDeep }
  | n + 1 =>
    { expression := fun s => expressionRule (grammar n) s
      disjunction := fun s => disjunctionRule (grammar n) s
      bitwise := fun s => bitwiseRule (grammar n) s
      factor := fun s => factorRule (grammar n) s
      inversion := fun s => inversionRule (grammar n) s
      primary := fun s => primaryRule (grammar n) s
      embedded := fun t => embeddedRule (grammar n) t }

end Scratchpad
