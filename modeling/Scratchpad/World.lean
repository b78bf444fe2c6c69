import Scratchpad.Buffer.Popup
import Scratchpad.History
import Scratchpad.Namespace
import Scratchpad.Settings

/-!
# The world of running code

Everything that a running snippet can see or change: the buffer, the history, the
scope of names, the store of values, and what it wrote. A computation ends with a
value, with an exception, or because its fuel was spent.
-/

namespace Scratchpad

/-- A note about what the scratchpad did, for whoever looks into it. -/
structure Note where
  source : String
  text : Text
deriving DecidableEq, Repr

/-- What completion knows about the editing object. -/
structure Surface where
  object : Value
  methods : List String := []
  properties : List String := []
  constants : List String := []

/-- Names offered behind a dot. -/
def Surface.memberNames (s : Surface) : List String := s.properties ++ s.constants

/-- The state of a scratchpad. -/
structure World where
  buffer : Buffer := {}
  history : History := {}
  settings : Settings := {}
  names : Namespace
  surface : Option Surface := none
  cells : Cells := #[]
  /-- What was printed outside the buffer. -/
  printed : Text := []
  /-- Notes in order. -/
  notes : List Note := []
  /-- Number of calls under way. -/
  depth : Nat := 0
  /-- The input of the program was closed. -/
  inputClosed : Bool := false
  /-- The application was asked to stop. -/
  stopped : Bool := false
  /-- What snippets bound on the parts, in order. -/
  attached : Part → List (String × Value) := fun _ => []

namespace World

/-- Adds a note. -/
def note (w : World) (source : String) (text : Text) : World :=
  { w with notes := w.notes ++ [⟨source, text⟩] }

end World

/-- How a computation ends. -/
inductive Ending (α : Type) where
  | done (a : α)
  | raised (e : Raised)
  /-- The fuel was spent; nothing is known about the result. -/
  | spent

/-- A computation in the world. -/
def Run (α : Type) : Type := World → Ending α × World

namespace Run

/-- A computation that changes nothing. -/
@[inline] def pure {α : Type} (a : α) : Run α := fun w => (.done a, w)

/-- One computation after another. -/
@[inline] def bind {α β : Type} (x : Run α) (f : α → Run β) : Run β := fun w =>
  match x w with
  | (.done a, w) => f a w
  | (.raised e, w) => (.raised e, w)
  | (.spent, w) => (.spent, w)

instance : Monad Run where
  pure := Run.pure
  bind := Run.bind

/-- Raises an exception. -/
def raise {α : Type} (e : Raised) : Run α := fun w => (.raised e, w)

/-- Gives up for lack of fuel. -/
def spend {α : Type} : Run α := fun w => (.spent, w)

/-- The world. -/
def world : Run World := fun w => (.done w, w)

/-- Changes the world. -/
def update (f : World → World) : Run Unit := fun w => (.done (), f w)

/-- Hands an exception to a handler. -/
def handle {α : Type} (x : Run α) (h : Raised → Run α) : Run α := fun w =>
  match x w with
  | (.raised e, w) => h e w
  | r => r

/-- Runs a computation and gives back the exception that it ends with, if any. -/
def attempt {α : Type} (x : Run α) : Run (Except Raised α) := fun w =>
  match x w with
  | (.done a, w) => (.done (.ok a), w)
  | (.raised e, w) => (.done (.error e), w)
  | (.spent, w) => (.spent, w)

/-- Runs `after` however a computation ends, unless for lack of fuel. -/
def finally_ {α : Type} (x : Run α) (after : Run Unit) : Run α := fun w =>
  match x w with
  | (.done a, w) => (after.bind fun _ => .pure a) w
  | (.raised e, w) => (after.bind fun _ => raise e) w
  | r => r

/-- Lifts a result that may be an exception. -/
def ofExcept {α : Type} : Except Raised α → Run α
  | .ok a => pure a
  | .error e => raise e

/-! ## The store -/

/-- The store. -/
def cells : Run Cells := fun w => (.done w.cells, w)

/-- Puts a new cell into the store. -/
def alloc (c : Cell) : Run Loc := fun w =>
  (.done w.cells.size, { w with cells := w.cells.push c })

/-- Replaces the content of a cell. -/
def store (loc : Loc) (c : Cell) : Run Unit :=
  update fun w => { w with cells := w.cells.setIfInBounds loc c }

/-- A new list. -/
def newList (items : List Value) : Run Value := return .list (← alloc (.list items))

/-- A new dictionary. -/
def newDict (entries : List (Value × Value)) : Run Value := return .dict (← alloc (.dict entries))

end Run

end Scratchpad
