import Scratchpad.Syntax.Expression

/-!
# Reading statements

Simple statements stand on a line, separated by semicolons; compound ones have
headers with blocks. Blocks nest, and `statementsTo n` ties the knot for nestings
up to depth `n`.
-/

namespace Scratchpad

open Reader

/-- A statement with the lines it spans. -/
def located (r : Reader Stmt) : Reader Located := do
  let first := (← peek).line
  let s ← r
  return .mk first (← get).last s

/-! ## Assignments -/

/-- Operators of augmented assignments. -/
def augmentations : List (String × BinaryOp) :=
  [("+=", .add), ("-=", .sub), ("*=", .mul), ("@=", .matMul), ("/=", .div), ("//=", .floorDiv),
   ("%=", .mod), ("&=", .bitAnd), ("|=", .bitOr), ("^=", .bitXor), ("<<=", .shiftLeft),
   (">>=", .shiftRight), ("**=", .pow)]

/-- A target of an augmented or annotated assignment. -/
def Expr.isSingleTarget : Expr → Bool
  | .name _ | .attribute .. | .subscript .. => true
  | _ => false

/-- Fails with the best explanation of an equals sign behind something that is no
target. `start` is where the statement began and `first` tells that no target
stands before it. -/
def refuseTarget (g : Grammar) (start : Cursor) (first : Bool) (bad : Expr) (line : Nat) :
    Reader Unit := do
  let here ← get
  if first then
    -- the element next to the equals sign may be one of a list
    let display := displayWith g g.expression
    let element (_ : Unit) : Reader Unit := do
      let at_ ← get
      let _ ← starExpression g
      if ← nextIsOp "=" then hintComparison g display at_
    let walk : Reader Unit := do
      set start
      element ()
      let _ ← many do
        if ← acceptOp "," then
          element ()
          return some ()
        else return none
    match walk here with
    | .ok _ => pure ()
    | .error stop =>
      match stop.cause with
      | .comparisonMeant | .cannotAssignHere _ => throw stop
      | _ => pure ()
  set here
  failAt (.cannotAssign bad.describe) line

/-- Targets and value behind the first equals sign. -/
def assignment (g : Grammar) (start : Cursor) (e : Expr) (line : Nat) : Reader Stmt := do
  let check (first : Bool) (e : Expr) : Reader Unit := do
    match e with
    | .yield _ | .yieldFrom _ => fail .invalid
    | _ =>
      match e.badTarget? .assignment with
      | some bad => refuseTarget g start first bad line
      | none => return ()
  check true e
  advance
  let value ← yieldOrExpressions g
  -- what was read as the value is a further target if another sign follows
  let (targets, value) ← fold (fun (targets, value) => do
    if ← nextIsOp "=" then
      check false value
      advance
      let next ← yieldOrExpressions g
      return some (value :: targets, next)
    else return none) ([e], value)
  return .assign targets.reverse value

/-- The annotation and the optional value behind the colon. -/
def declared (g : Grammar) (e : Expr) (simple : Bool) (line : Nat) : Reader Stmt := do
  if !e.isSingleTarget then
    match ← attempt? (do advance; g.expression : Reader Expr) with
    | some _ =>
      match e with
      | .list _ => failAt (.singleTarget "list") line
      | .tuple _ => failAt (.singleTarget "tuple") line
      | _ => failAt .annotationTarget line
    | none => unexpected
  advance
  let a ← g.expression
  let value ← if ← acceptOp "=" then some <$> yieldOrExpressions g else pure none
  return .annotate e a value simple

/-- An assignment of some kind or an expression by itself. -/
def expressionStatement (g : Grammar) : Reader Stmt := do
  let start ← get
  let line := (← peek).line
  let simple := match ← token with
    | .name _ => true
    | _ => false
  let e ← yieldOrExpressions g
  if ← nextIsOp "=" then return ← assignment g start e line
  if ← nextIsOp ":" then
    match e with
    | .yield _ | .yieldFrom _ => unexpected
    | _ => return ← declared g e (simple && (match e with | .name _ => true | _ => false)) line
  match ← token with
  | .op o =>
    match augmentations.lookup o with
    | some b =>
      -- several targets cannot be changed in place
      if !e.isSingleTarget then
        match ← attempt? (do advance; yieldOrExpressions g : Reader Expr) with
        | some _ => failAt (.cannotAugment e.describe) line
        | none => unexpected
      advance
      return .augment e b (← yieldOrExpressions g)
    | none => return .expression e
  | _ => return .expression e

/-! ## Imports -/

/-- A name with dots. -/
def dottedName : Reader String := do
  let first ← name
  fold (fun s => do
    if ← acceptOp "." then return some (s ++ "." ++ (← name)) else return none) first

/-- The name behind `as`, if there is one. -/
def asName : Reader (Option String) := do
  if ← acceptKeyword "as" then some <$> name else return none

/-- Modules to import. -/
def importStatement : Reader Stmt := do
  keyword "import"
  let item : Reader Alias := do
    let n ← dottedName
    return ⟨n, ← asName⟩
  let first ← item
  let rest ← many do
    if ← acceptOp "," then return some (← item) else return none
  return .importModules (first :: rest)

/-- Names to import from a module. -/
def importFromStatement : Reader Stmt := do
  keyword "from"
  let dots ← many do
    if ← acceptOp "." then return some 1
    -- three points are one token
    else if ← acceptOp "..." then return some 3
    else return none
  let level := dots.foldl (· + ·) 0
  let module ← match ← token with
    | .name _ => some <$> dottedName
    | _ => if level > 0 then pure none else unexpected
  keyword "import"
  if ← acceptOp "*" then return .importFrom level module [⟨"*", none⟩]
  let bracket ← acceptOp "("
  let item : Reader Alias := do
    let n ← name
    return ⟨n, ← asName⟩
  let nextIsName : Reader Bool := do
    match ← token with
    | .name _ => return true
    | _ => return false
  let (names, trailing) ← commaList item nextIsName
  if bracket then op ")"
  else if trailing then
    if ← nextIsNewline then fail .trailingComma
    unexpected
  return .importFrom level module names

/-! ## Other simple statements -/

/-- Names with commas between them. -/
def nameList : Reader (List String) := do
  let first ← name
  let rest ← many do
    if ← acceptOp "," then return some (← name) else return none
  return first :: rest

/-- Whether a simple statement ends here. -/
def nextEndsSimple : Reader Bool := do
  return (← nextIsNewline) || (← nextIsOp ";")

/-- Things to delete. -/
def deleteStatement (g : Grammar) : Reader Stmt := do
  keyword "del"
  let line := (← peek).line
  let items ← commaList (starExpression g) (return (← token).startsItem)
  match (tupleOf items).badTarget? .deletion with
  | some bad => failAt (.cannotDelete bad.describe) line
  | none =>
    if !(← nextEndsSimple) then unexpected
    return .delete items.1

/-- A simple statement. -/
def simpleStatement (g : Grammar) : Reader Stmt := do
  match ← token with
  | .keyword k =>
    if k == "return" then
      advance
      if (← token).startsItem || (← nextIsKeyword "yield") then
        return .giveBack (some (← starExpressions g))
      return .giveBack none
    if k == "import" then return ← importStatement
    if k == "from" then return ← importFromStatement
    if k == "raise" then
      advance
      if (← token).startsExpression then
        let e ← g.expression
        let cause ← if ← acceptKeyword "from" then some <$> g.expression else pure none
        return .raise (some e) cause
      return .raise none none
    if k == "pass" then
      advance
      return .pass
    if k == "break" then
      advance
      return .breakLoop
    if k == "continue" then
      advance
      return .continueLoop
    if k == "del" then return ← deleteStatement g
    if k == "assert" then
      advance
      let test ← g.expression
      let message ← if ← acceptOp "," then some <$> g.expression else pure none
      return .assert test message
    if k == "global" then
      advance
      return .globalNames (← nameList)
    if k == "nonlocal" then
      advance
      return .nonlocalNames (← nameList)
    expressionStatement g
  | _ => expressionStatement g

/-- The statements of a line and its end. -/
def simpleLine (g : Grammar) : Reader Block := do
  let first ← located (simpleStatement g)
  let rest ← many do
    if ← acceptOp ";" then
      if ← nextIsNewline then return none
      return some (← located (simpleStatement g))
    else return none
  if !(← nextIsNewline) then unexpected
  advance
  return first :: rest

/-! ## Patterns -/

/-- The literal and name levels of a pattern share the readers of expressions. -/
def valuePattern (g : Grammar) : Reader Pattern := do
  match ← token, ← secondToken with
  | .name n, second =>
    if second.isOp "." || second.isOp "(" then return .value (← g.primary)
    advance
    return if n == "_" then .wildcard else .capture n
  | _, _ => return .value (← g.bitwise)

mutual

/-- A pattern with alternatives and a name behind it. -/
def pattern (g : Grammar) : Nat → Reader Pattern
  | 0 => unexpected
  | n + 1 => do
    let first ← closedPattern g n
    let rest ← many do
      if ← acceptOp "|" then return some (← closedPattern g n) else return none
    let p := if rest.isEmpty then first else .or (first :: rest)
    if ← acceptKeyword "as" then return .as p (← name)
    return p

/-- A pattern without alternatives. -/
def closedPattern (g : Grammar) : Nat → Reader Pattern
  | 0 => unexpected
  | n + 1 => do
    let item : Reader Pattern := do
      if ← acceptOp "*" then
        let w ← name
        return .star (if w == "_" then none else some w)
      pattern g n
    let more : Reader Bool := return (← token).startsItem
    if ← acceptOp "(" then
      if ← acceptOp ")" then return .sequence []
      let (items, trailing) ← commaList item more
      op ")"
      match items, trailing with
      -- brackets around one pattern only group, unless it stands for a rest
      | [.star s], false => return .sequence [.star s]
      | [p], false => return p
      | ps, _ => return .sequence ps
    if ← acceptOp "[" then
      if ← acceptOp "]" then return .sequence []
      let (items, _) ← commaList item more
      op "]"
      return .sequence items
    if ← acceptOp "\x7b" then
      let entries ← many do
        if ← nextIsOp "\x7d" then return none
        if ← acceptOp "**" then
          let rest ← name
          let _ ← acceptOp ","
          return some (none, some rest)
        let key ← g.bitwise
        op ":"
        let value ← pattern g n
        if !(← nextIsOp "\x7d") then op ","
        return some (some (key, value), none)
      op "\x7d"
      return .mapping (entries.filterMap (·.1)) (entries.findSome? (·.2))
    match ← token, ← secondToken with
    | .name _, second =>
      if second.isOp "(" || second.isOp "." then
        let first ← name
        let type ← fold (fun e => do
          if ← acceptOp "." then return some (.attribute e (← name)) else return none)
          (Expr.name first)
        if ← acceptOp "(" then
          let fields ← many do
            if ← nextIsOp ")" then return none
            let field ← match ← token, ← secondToken with
              | .name k, .op "=" =>
                advance
                advance
                pure (some k, ← pattern g n)
              | _, _ => pure (none, ← pattern g n)
            if !(← nextIsOp ")") then op ","
            return some field
          op ")"
          let named := fields.filterMap fun (k, p) => k.map (·, p)
          let positional := fields.filterMap fun (k, p) => if k.isNone then some p else none
          return .record type positional named
        return .value type
      valuePattern g
    | _, _ => valuePattern g

end

/-- The pattern of a case, where a sequence needs no brackets. -/
def casePattern (g : Grammar) : Reader Pattern := do
  let depth ← left
  let item : Reader Pattern := do
    if ← acceptOp "*" then
      let w ← name
      return .star (if w == "_" then none else some w)
    pattern g (2 * depth)
  let (items, trailing) ← commaList item (return (← token).startsItem)
  match items, trailing with
  | [.star s], _ => return .sequence [.star s]
  | [p], false => return p
  | ps, _ => return .sequence ps

/-! ## Blocks -/

/-- What stands behind a header: statements on the same line or an indented
block. `header` names the header for the complaint that the block is missing. -/
def blockWith (g : Grammar) (inner : Reader Block) (header : String) (line : Nat) :
    Reader Block := do
  if ← nextIsNewline then
    advance
    match ← token with
    | .indent =>
      advance
      let body ← inner
      match ← token with
      | .dedent =>
        advance
        return body
      | _ => unexpected
    | _ => fail (.expectedBlock header line)
  else simpleLine g

/-- The colon behind a header that may end in too few tokens. -/
def colon : Reader Unit := do
  if ← nextIsNewline then fail (.expected "':'")
  op ":"

/-- The colon behind a header that allows nothing else. -/
def strictColon : Reader Unit := do
  if !(← acceptOp ":") then fail (.expected "':'")

/-- How a header is called in a complaint. -/
def statementHeader (word : String) : String := s!"'{word}' statement"

/-- The `else` part of a statement, if there is one. -/
def elsePart (g : Grammar) (inner : Reader Block) : Reader Block := do
  let line := (← peek).line
  if ← acceptKeyword "else" then
    strictColon
    blockWith g inner (statementHeader "else") line
  else return []

/-- Branches behind the word `if` or `elif`. The fuel bounds the `elif` parts. -/
def branch (g : Grammar) (inner : Reader Block) (word : String) (line : Nat) :
    Nat → Reader Stmt
  | 0 => unexpected
  | n + 1 => do
    let test ← namedExpression g
    colon
    let body ← blockWith g inner (statementHeader word) line
    if ← nextIsKeyword "elif" then
      let first := (← peek).line
      advance
      let rest ← branch g inner "elif" first n
      return .branch test body [.mk first (← get).last rest]
    return .branch test body (← elsePart g inner)

/-- A loop while a condition holds, behind its word. -/
def whileStatement (g : Grammar) (inner : Reader Block) (line : Nat) : Reader Stmt := do
  let test ← namedExpression g
  colon
  let body ← blockWith g inner (statementHeader "while") line
  return .whileLoop test body (← elsePart g inner)

/-- A loop over items, behind its word. -/
def forStatement (g : Grammar) (inner : Reader Block) (isAsync : Bool) (line : Nat) :
    Reader Stmt := do
  let target ← loopTargets g
  keyword "in"
  let source ← starExpressions g
  colon
  let body ← blockWith g inner (statementHeader "for") line
  return .forLoop isAsync target source body (← elsePart g inner)

/-- An item of a `with` header. -/
def managed (g : Grammar) : Reader (Expr × Option Expr) := do
  let e ← g.expression
  if ← acceptKeyword "as" then
    let line := (← peek).line
    let target ← if ← acceptOp "*" then .starred <$> g.primary else g.primary
    let ends : Reader Bool := return (← nextIsOp ",") || (← nextIsOp ")") || (← nextIsOp ":")
    if (target.badTarget? .assignment).isSome || !(← ends) then
      match target.badTarget? .assignment with
      | some bad => if ← ends then failAt (.cannotAssign bad.describe) line
      | none => pure ()
      unexpected
    return (e, some target)
  return (e, none)

/-- A `with` statement, behind its word. -/
def withStatement (g : Grammar) (inner : Reader Block) (isAsync : Bool) (line : Nat) :
    Reader Stmt := do
  let startsItem : Reader Bool := return (← token).startsExpression
  let bracketed : Reader (List (Expr × Option Expr)) := do
    op "("
    let (items, _) ← commaList (managed g) startsItem
    op ")"
    op ":"
    return items
  let plain : Reader (List (Expr × Option Expr)) := do
    let first ← managed g
    let rest ← many do
      if ← acceptOp "," then return some (← managed g) else return none
    colon
    return first :: rest
  -- brackets may hold the items or belong to the first one
  let items ← if ← nextIsOp "(" then orElse bracketed plain else plain
  let body ← blockWith g inner (statementHeader "with") line
  return .manage isAsync items body

/-- One `except` part, behind its word, and whether it has a star. -/
def handler (g : Grammar) (inner : Reader Block) (line : Nat) : Reader (Handler × Bool) := do
  let grouped ← acceptOp "*"
  let word := if grouped then "except*" else "except"
  if ← acceptOp ":" then
    if grouped then fail (.expected "one or more exception types")
    return (.mk line none none (← blockWith g inner (statementHeader word) line), grouped)
  if ← nextIsNewline then
    fail (.expected (if grouped then "one or more exception types" else "':'"))
  let start := (← peek).line
  let type ← g.expression
  if ← nextIsOp "," then
    match ← attempt? (do
        advance
        -- several types without brackets are complained about if the rest reads well
        let _ ← expressions g
        let _ ← asName
        nextIsOp ":" : Reader Bool) with
    | some (true, _) => failAt .multipleExceptionTypes start
    | _ => unexpected
  let bound ← asName
  colon
  let body ← blockWith g inner (statementHeader word) line
  return (.mk line (some type) bound body, grouped)

/-- A statement that handles exceptions, behind its word. -/
def tryStatement (g : Grammar) (inner : Reader Block) (line : Nat) : Reader Stmt := do
  strictColon
  let body ← blockWith g inner (statementHeader "try") line
  let handlers ← many do
    let line := (← peek).line
    if ← acceptKeyword "except" then return some (← handler g inner line) else return none
  let orelse ← if handlers.isEmpty then pure [] else elsePart g inner
  let first := (← peek).line
  let final ← if ← acceptKeyword "finally" then
      strictColon
      blockWith g inner (statementHeader "finally") first
    else
      if handlers.isEmpty then fail .expectedHandler
      pure []
  return .attempt body (handlers.map (·.1)) orelse final (handlers.any (·.2))

/-- A function definition, behind the word `def`. -/
def defineStatement (g : Grammar) (inner : Reader Block) (isAsync : Bool)
    (decorators : List (Nat × Expr)) (line : Nat) : Reader Stmt := do
  let id ← name
  if !(← acceptOp "(") then fail (.expected "'('")
  let ps ← parameters g true ")"
  op ")"
  let returns ← if ← acceptOp "->" then some <$> g.expression else pure none
  strictColon
  let body ← blockWith g inner "function definition" line
  return .define isAsync id ps returns decorators body

/-- A class definition, behind its word. -/
def classStatement (g : Grammar) (inner : Reader Block) (decorators : List (Nat × Expr))
    (line : Nat) : Reader Stmt := do
  let id ← name
  let bases ← if ← acceptOp "(" then arguments g else pure []
  colon
  let body ← blockWith g inner "class definition" line
  return .defineClass id bases decorators body

/-- A choice by pattern, behind the word `match`. -/
def matchStatement (g : Grammar) (inner : Reader Block) (line : Nat) : Reader Stmt := do
  let subject ← do
    let items ← commaList (do
      if ← acceptOp "*" then return .starred (← g.bitwise)
      namedExpression g) (return (← token).startsItem)
    pure (tupleOf items)
  colon
  if !(← nextIsNewline) then unexpected
  advance
  match ← token with
  | .indent =>
    advance
    let cases ← many do
      let line := (← peek).line
      match ← token with
      | .name "case" =>
        advance
        let p ← casePattern g
        let guard ← if ← acceptKeyword "if" then some <$> namedExpression g else pure none
        colon
        let body ← blockWith g inner (statementHeader "case") line
        return some (.mk p guard body)
      | _ => return none
    if cases.isEmpty then unexpected
    match ← token with
    | .dedent =>
      advance
      return .choose subject cases
    | _ => unexpected
  | _ => fail (.expectedBlock (statementHeader "match") line)

/-! ## Statements -/

/-- The line on which an expression stands: brackets that only group it do not belong to
it. `stop` is the number of lexemes left behind the expression, and the fuel bounds the
groups. -/
def expressionLine (g : Grammar) : Nat → Nat → Reader Nat
  | 0, _ => return (← peek).line
  | n + 1, stop => do
    let group ← attempt? (do
      op "("
      let line ← expressionLine g n (stop + 1)
      let _ ← if ← nextIsKeyword "yield" then yieldExpression g else namedExpression g
      op ")"
      return (line, ← left) : Reader (Nat × Nat))
    match group with
    | some ((line, rest), _) => if rest = stop then return line else return (← peek).line
    | none => return (← peek).line

/-- Decorators in front of a definition, with their lines. -/
def decoratorLines (g : Grammar) : Reader (List (Nat × Expr)) := do
  many do
    if ← acceptOp "@" then
      let start ← get
      let e ← namedExpression g
      if !(← nextIsNewline) then unexpected
      let stop ← get
      set start
      let line ← expressionLine g start.rest.length stop.rest.length
      set stop
      advance
      return some (line, e)
    else return none

/-- A compound statement, if one begins here. -/
def compound? (g : Grammar) (inner : Reader Block) : Reader (Option Located) := do
  let first := (← peek).line
  let wrap (r : Reader Stmt) : Reader (Option Located) := do
    let s ← r
    return some (.mk first (← get).last s)
  if ← nextIsOp "@" then
    let ds ← decoratorLines g
    -- a decorated definition is said to stand on its own line, below the decorators
    let line := (← peek).line
    let done (r : Reader Stmt) : Reader (Option Located) := do
      let s ← r
      return some (.mk line (← get).last s)
    if ← acceptKeyword "def" then return ← done (defineStatement g inner false ds line)
    if ← acceptKeyword "class" then return ← done (classStatement g inner ds line)
    match ← token, ← secondToken with
    | .keyword "async", .keyword "def" =>
      advance
      advance
      done (defineStatement g inner true ds line)
    | _, _ => unexpected
  else match ← token, ← secondToken with
    | .keyword k, second =>
      if k == "if" then
        advance
        wrap (do branch g inner "if" first (← left))
      else if k == "while" then
        advance
        wrap (whileStatement g inner first)
      else if k == "for" then
        advance
        wrap (forStatement g inner false first)
      else if k == "try" then
        advance
        wrap (tryStatement g inner first)
      else if k == "with" then
        advance
        wrap (withStatement g inner false first)
      else if k == "def" then
        advance
        wrap (defineStatement g inner false [] first)
      else if k == "class" then
        advance
        wrap (classStatement g inner [] first)
      else if k == "async" then
        advance
        if second.isKeyword "def" then
          advance
          wrap (defineStatement g inner true [] first)
        else if second.isKeyword "for" then
          advance
          wrap (forStatement g inner true first)
        else if second.isKeyword "with" then
          advance
          wrap (withStatement g inner true first)
        else unexpected
      else return none
    | _, _ => return none

/-- A line of simple statements or a compound statement. The word `match` begins
a choice only if what follows reads as one. -/
def statement (g : Grammar) (inner : Reader Block) : Reader Block := do
  match ← compound? g inner with
  | some s => return [s]
  | none =>
    match ← token with
    | .name "match" =>
      let first := (← peek).line
      let choice : Reader Block := do
        advance
        let s ← matchStatement g inner first
        return [.mk first (← get).last s]
      orElse choice (simpleLine g)
    | _ => simpleLine g

/-- Statements up to the end of a block or of the text. -/
def statementsWith (g : Grammar) (inner : Reader Block) : Reader Block := do
  let blocks ← many do
    match ← token with
    | .dedent => return none
    | .finish => return none
    | _ => return some (← statement g inner)
  return blocks.flatten

/-- Statements with blocks nested up to a depth. -/
def statementsTo (g : Grammar) : Nat → Reader Block
  | 0 => unexpected
  | n + 1 => statementsWith g fun s => statementsTo g n s

end Scratchpad
