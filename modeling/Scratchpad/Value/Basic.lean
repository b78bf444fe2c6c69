import Scratchpad.Syntax.Tree

/-!
# Values

What running code computes with. Values that can change or that have an identity
of their own live in cells of a store, and a value then holds the place of its
cell.
-/

namespace Scratchpad

/-- The place of a cell in the store. -/
abbrev Loc := Nat

/-- Which part of a dictionary a view shows. -/
inductive ViewKind where
  | keys
  | values
  | items
deriving DecidableEq, Repr

/-- Objects of the scratchpad itself that code can reach. -/
inductive Part where
  | buffer
  | session
  | settings
  | history
  | host
  | namespace
  | evaluator
  | formatter
  | completion
  | app
deriving DecidableEq, Repr

/-- A value. -/
inductive Value where
  | none
  | ellipsis
  | notImplemented
  | bool (b : Bool)
  | int (n : Int)
  | float (x : Float)
  | str (t : Text)
  | bytes (bs : List UInt8)
  | tuple (items : List Value)
  | range (start stop step : Int)
  | slice (start stop step : Value)
  | list (loc : Loc)
  | dict (loc : Loc)
  /-- A read-only view of a dictionary. -/
  | proxy (loc : Loc)
  | view (kind : ViewKind) (loc : Loc)
  | iterator (kind : String) (loc : Loc)
  /-- A type or exception class. -/
  | type (name : String)
  | builtin (name : String)
  /-- A method of a value, or of a type that still lacks its value. -/
  | method (self : Value) (name : String)
  /-- A function that takes an object as its first argument. -/
  | bound (self function : Value)
  | function (loc : Loc)
  | exception (kind : String) (args : List Value)
  /-- An object with attributes. -/
  | object (loc : Loc)
  | part (p : Part)
  | builtinsModule
deriving Inhabited

/-- An exception on its way to a handler. -/
structure Raised where
  kind : String
  args : List Value
deriving Inhabited

/-- The exception as a value. -/
def Raised.value (e : Raised) : Value := .exception e.kind e.args

/-- What is called when a function is. -/
inductive Body where
  | block (b : Block)
  | expression (e : Expr)
  /-- Code that yields or is asynchronous: a call does not run it yet. -/
  | suspended (b : Block)

/-- A function with what it remembers of its definition. -/
structure Closure where
  name : String
  parameters : Parameters
  defaults : List (String × Value)
  body : Body
  /-- Local variables. -/
  locals : List String
  /-- Names declared global. -/
  globals : List String
  /-- Variables of the function around it. -/
  frame : Option Loc
  annotations : List (String × Value) := []
  attributes : List (String × Value) := []

/-- The variables of one call. -/
structure Frame where
  bindings : List (String × Value)
  locals : List String
  globals : List String
  parent : Option Loc
  /-- A class body looks its names up at the top level first. -/
  isClass : Bool := false

/-- Where code runs. -/
structure Env where
  /-- The variables of the scope; none at the top level. -/
  frame : Option Loc := none
  /-- The definitions around the code, as complaints write them. -/
  path : String := ""
  /-- The exception that is being handled. -/
  handled : Option Raised := none

/-- A generator between two of its items. -/
structure Suspended where
  env : Env
  element : Expr
  clauses : List Clause
  /-- The iterators of the clauses that were entered, the innermost one first. -/
  active : List Value

/-- What an iterator has still to yield. -/
inductive Source where
  | items (rest : List Value)
  | listFrom (list : Loc) (index : Nat)
  | entriesFrom (kind : ViewKind) (dict : Loc) (index size : Nat)
  | counting (next step : Int) (left : Nat)
  | zip (sources : List Value)
  | enumerate (source : Value) (next : Int)
  | map (function : Value) (sources : List Value)
  | filter (function : Value) (source : Value)
  | generator (g : Suspended)
  /-- A generator that is computing its next item. -/
  | running

/-- An object of a caller's own class, by what code can find out about it. -/
structure Guest where
  /-- Name of its class. -/
  type : String
  attributes : List (String × Value) := []
  /-- Names of methods, none of which does anything. -/
  methods : List String := []
  /-- Names of attributes that raise an exception when they are read. -/
  unreadable : List String := []
  /-- Its written form, if its class gives it one. -/
  written : Option Text := none
  /-- Its plain text if its class gives it one, or what asking for it raises. -/
  shown : Option (Except Raised Text) := none

/-- The content of a cell. -/
inductive Cell where
  | list (items : List Value)
  | dict (entries : List (Value × Value))
  | function (f : Closure)
  | frame (f : Frame)
  | iterator (s : Source)
  /-- A plain bag of attributes. -/
  | space (attributes : List (String × Value))
  /-- A class that code defined. -/
  | kind (name : String) (attributes : List (String × Value))
  /-- An object of a class that code defined, with what is bound on the object itself. -/
  | ofKind (kind : Loc) (attributes : List (String × Value))
  /-- An attribute of a class that is computed by a function each time it is read. -/
  | property (getter : Value)
  /-- An object that a caller made. -/
  | guest (g : Guest)
  /-- A text file in memory. -/
  | sink (content : Text)

/-! ## Objects of callers -/

namespace Cell

/-- An object whose text cannot be computed: asking for it raises an exception. -/
def failing (e : Raised) : Cell := .guest { type := "object", shown := some (.error e) }

/-- An object whose text cannot be computed for a reason given in words. -/
def bad (message : Text) : Cell := failing ⟨"ValueError", [.str message]⟩

/-- An object with a text of its own. -/
def shown (text : Text) : Cell := .guest { type := "object", shown := some (.ok text) }

/-- An object some of whose attributes cannot be read. -/
def touchy (names : List String) : Cell := .guest { type := "object", unreadable := names }

/-- An editing object. -/
def surface (attributes : List (String × Value)) : Cell := .guest { type := "object", attributes }

/-- The object as one of a class with a name and some methods, which may give it a written
form. -/
def ofClass (c : Cell) (type : String) (methods : List String) (written : Option Text) : Cell :=
  match c with
  | .guest g => .guest { g with type, methods, written }
  | c => c

end Cell

/-- The store. -/
abbrev Cells := Array Cell

namespace Cells

/-- The items of a list. -/
def items (cells : Cells) (loc : Loc) : List Value :=
  match cells[loc]? with
  | some (.list xs) => xs
  | _ => []

/-- The entries of a dictionary. -/
def entries (cells : Cells) (loc : Loc) : List (Value × Value) :=
  match cells[loc]? with
  | some (.dict es) => es
  | _ => []

end Cells

/-- A text as a value. -/
def Value.ofString (s : String) : Value := .str s.toList

end Scratchpad
