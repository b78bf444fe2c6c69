import Scratchpad.Text.Lines

/-!
# Syntax trees

The trees that snippets parse to. Statements carry the lines they span and
decorators the line they stand on; nothing else has a position, so two trees are
equal apart from positions when they agree after `Located` forgets its lines.
-/

namespace Scratchpad

/-- Operators in front of one operand. -/
inductive UnaryOp where
  | negative
  | positive
  | invert
  | not
deriving DecidableEq, Repr

/-- Operators between two operands. -/
inductive BinaryOp where
  | add
  | sub
  | mul
  | matMul
  | div
  | floorDiv
  | mod
  | pow
  | shiftLeft
  | shiftRight
  | bitAnd
  | bitOr
  | bitXor
deriving DecidableEq, Repr

/-- Comparisons. -/
inductive CompareOp where
  | eq
  | ne
  | lt
  | le
  | gt
  | ge
  | is
  | isNot
  | mem
  | notMem
deriving DecidableEq, Repr

/-- Displays and comprehensions by what they build. -/
inductive Collection where
  | list
  | set
  | dict
  | generator
deriving DecidableEq, Repr

/-- Literal values. -/
inductive Constant where
  | none
  | bool (b : Bool)
  | ellipsis
  | int (n : Nat)
  | float (x : Float)
  | imaginary (x : Float)
  | str (t : Text)
  | bytes (bs : List UInt8)

mutual

/-- Expressions. -/
inductive Expr where
  | constant (c : Constant)
  | name (id : String)
  /-- A formatted string. -/
  | formatted (pieces : List Piece)
  | tuple (items : List Expr)
  | list (items : List Expr)
  | set (items : List Expr)
  | dict (items : List DictItem)
  | unary (op : UnaryOp) (operand : Expr)
  | binary (op : BinaryOp) (left right : Expr)
  | and (operands : List Expr)
  | or (operands : List Expr)
  | compare (first : Expr) (rest : List (CompareOp × Expr))
  | conditional (test yes no : Expr)
  | lambda (parameters : Parameters) (body : Expr)
  | call (callee : Expr) (arguments : List Argument)
  | attribute (object : Expr) (name : String)
  | subscript (object index : Expr)
  | slice (start stop step : Option Expr)
  /-- A comprehension; a dictionary has a key in front of its element. -/
  | comprehension (kind : Collection) (key : Option Expr) (element : Expr)
      (clauses : List Clause)
  | starred (e : Expr)
  | walrus (name : String) (value : Expr)
  | await (e : Expr)
  | yield (e : Option Expr)
  | yieldFrom (e : Expr)

/-- A piece of a formatted string. -/
inductive Piece where
  | text (t : Text)
  | field (e : Expr) (conversion : Option Char) (format : List Piece)

/-- An entry of a dictionary display. -/
inductive DictItem where
  | entry (key value : Expr)
  | unpack (e : Expr)

/-- An argument of a call. -/
inductive Argument where
  | positional (e : Expr)
  | unpack (e : Expr)
  | keyword (name : String) (e : Expr)
  | unpackKeywords (e : Expr)

/-- A `for` clause of a comprehension with its conditions. -/
inductive Clause where
  | mk (isAsync : Bool) (target source : Expr) (conditions : List Expr)

/-- A parameter with its annotation and its default. -/
inductive Parameter where
  | mk (name : String) (declared default : Option Expr)

/-- The parameters of a function. -/
inductive Parameters where
  | mk (positionalOnly positional : List Parameter) (rest : Option Parameter)
      (keywordOnly : List Parameter) (keywords : Option Parameter)

end

/-- An imported name and the name it is bound to. -/
structure Alias where
  name : String
  renamed : Option String
deriving DecidableEq, Repr

/-- Patterns of a `case`. -/
inductive Pattern where
  | value (e : Expr)
  | wildcard
  | capture (name : String)
  | sequence (items : List Pattern)
  /-- The starred name of a sequence; a wildcard binds nothing. -/
  | star (name : Option String)
  | mapping (entries : List (Expr × Pattern)) (rest : Option String)
  | record (type : Expr) (positional : List Pattern) (named : List (String × Pattern))
  | or (alternatives : List Pattern)
  | as (pattern : Pattern) (name : String)

mutual

/-- Statements. -/
inductive Stmt where
  | expression (e : Expr)
  | assign (targets : List Expr) (value : Expr)
  | augment (target : Expr) (op : BinaryOp) (value : Expr)
  | annotate (target declared : Expr) (value : Option Expr) (simple : Bool)
  | delete (targets : List Expr)
  | pass
  | breakLoop
  | continueLoop
  | giveBack (value : Option Expr)
  | raise (exception cause : Option Expr)
  | globalNames (names : List String)
  | nonlocalNames (names : List String)
  | assert (test : Expr) (message : Option Expr)
  | importModules (names : List Alias)
  | importFrom (level : Nat) (module : Option String) (names : List Alias)
  | branch (test : Expr) (body orelse : List Located)
  | whileLoop (test : Expr) (body orelse : List Located)
  | forLoop (isAsync : Bool) (target source : Expr) (body orelse : List Located)
  | define (isAsync : Bool) (name : String) (parameters : Parameters) (returns : Option Expr)
      (decorators : List (Nat × Expr)) (body : List Located)
  | defineClass (name : String) (bases : List Argument) (decorators : List (Nat × Expr))
      (body : List Located)
  | attempt (body : List Located) (handlers : List Handler) (orelse final : List Located)
      (grouped : Bool)
  | manage (isAsync : Bool) (items : List (Expr × Option Expr)) (body : List Located)
  | choose (subject : Expr) (cases : List Case)

/-- A statement with its first and last line. -/
inductive Located where
  | mk (first last : Nat) (stmt : Stmt)

/-- An `except` clause, with its line. -/
inductive Handler where
  | mk (line : Nat) (type : Option Expr) (name : Option String) (body : List Located)

/-- A `case` clause. -/
inductive Case where
  | mk (pattern : Pattern) (guard : Option Expr) (body : List Located)

end

/-- Statements in order. -/
abbrev Block := List Located

namespace Located

/-- The statement. -/
def stmt : Located → Stmt
  | mk _ _ s => s

/-- The first line of the statement itself. -/
def first : Located → Nat
  | mk f _ _ => f

/-- The last line of the statement. -/
def last : Located → Nat
  | mk _ l _ => l

end Located

/-- The decorators of a definition. -/
def Stmt.decorators : Stmt → List (Nat × Expr)
  | .define _ _ _ _ ds _ => ds
  | .defineClass _ _ ds _ => ds
  | _ => []

namespace Parameter

/-- Name of a parameter. -/
def name : Parameter → String
  | mk n _ _ => n

/-- Annotation of a parameter. -/
def declared : Parameter → Option Expr
  | mk _ a _ => a

/-- Default of a parameter. -/
def default : Parameter → Option Expr
  | mk _ _ d => d

end Parameter

namespace Parameters

/-- No parameters. -/
def empty : Parameters := mk [] [] none [] none

/-- Parameters that only positions fill. -/
def positionalOnly : Parameters → List Parameter
  | mk p _ _ _ _ => p

/-- Parameters that positions and names fill. -/
def positional : Parameters → List Parameter
  | mk _ p _ _ _ => p

/-- The parameter that takes further positional arguments. -/
def rest : Parameters → Option Parameter
  | mk _ _ r _ _ => r

/-- Parameters that only names fill. -/
def keywordOnly : Parameters → List Parameter
  | mk _ _ _ k _ => k

/-- The parameter that takes further named arguments. -/
def keywords : Parameters → Option Parameter
  | mk _ _ _ _ k => k

/-- All parameters. -/
def all (p : Parameters) : List Parameter :=
  p.positionalOnly ++ p.positional ++ p.rest.toList ++ p.keywordOnly ++ p.keywords.toList

/-- Names of all parameters. -/
def names (p : Parameters) : List String := p.all.map Parameter.name

end Parameters

/-- What an expression is called in a message about assignment. -/
def Expr.describe : Expr → String
  | .attribute .. => "attribute"
  | .subscript .. => "subscript"
  | .starred _ => "starred"
  | .name _ => "name"
  | .list _ => "list"
  | .tuple _ => "tuple"
  | .lambda .. => "lambda"
  | .call .. => "function call"
  -- operators are not told apart
  | .and _ | .or _ | .binary .. | .unary .. => "expression"
  | .comprehension .generator .. => "generator expression"
  | .yield _ | .yieldFrom _ => "yield expression"
  | .await _ => "await expression"
  | .comprehension .list .. => "list comprehension"
  | .comprehension .set .. => "set comprehension"
  | .comprehension .dict .. => "dict comprehension"
  | .dict _ => "dict literal"
  | .set _ => "set display"
  | .formatted _ => "f-string expression"
  | .constant .none => "None"
  | .constant (.bool b) => if b then "True" else "False"
  | .constant .ellipsis => "ellipsis"
  | .constant _ => "literal"
  | .compare .. => "comparison"
  | .conditional .. => "conditional expression"
  | .walrus .. => "named expression"
  | .slice .. => "slice"

/-- Which expressions may stand on the left of an assignment. -/
inductive TargetKind where
  | assignment
  | deletion
  | loop
deriving DecidableEq, Repr

mutual

/-- The first part of an expression that cannot be a target. -/
def Expr.badTarget? (kind : TargetKind) : Expr → Option Expr
  | .list items => badTargetIn? kind items
  | .tuple items => badTargetIn? kind items
  | .starred e => if kind = .deletion then some (.starred e) else e.badTarget? kind
  | .compare first rest =>
    -- `for x in y` reads as a comparison when its target is taken too far
    match kind, rest with
    | .loop, (.mem, _) :: _ => first.badTarget? kind
    | .loop, _ => none
    | _, _ => some (.compare first rest)
  | .name _ => none
  | .subscript .. => none
  | .attribute .. => none
  | e => some e

/-- The first of several expressions that cannot be a target. -/
def badTargetIn? (kind : TargetKind) : List Expr → Option Expr
  | [] => none
  | e :: rest => match e.badTarget? kind with
    | some bad => some bad
    | none => badTargetIn? kind rest

end

end Scratchpad
