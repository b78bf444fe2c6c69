import Scratchpad.Value.Kinds

/-!
# Complaints

The exceptions that operations raise by themselves, with their wording.
-/

namespace Scratchpad

namespace Raised

/-- An exception with a message. -/
def of (kind message : String) : Raised := ⟨kind, [.ofString message]⟩

/-- An operation met a value of the wrong type. -/
def typeError (message : String) : Raised := of "TypeError" message

/-- An operation met an unsuitable value. -/
def valueError (message : String) : Raised := of "ValueError" message

/-- An attribute is missing. -/
def attributeError (message : String) : Raised := of "AttributeError" message

/-- An index is outside a sequence. -/
def indexError (message : String) : Raised := of "IndexError" message

/-- A key is missing. -/
def keyError (key : Value) : Raised := ⟨"KeyError", [key]⟩

/-- A name is bound nowhere. -/
def unbound (name : String) : Raised := of "NameError" s!"name '{name}' is not defined"

/-- A local variable has no value yet. -/
def unboundLocal (name : String) : Raised :=
  of "UnboundLocalError"
    s!"cannot access local variable '{name}' where it is not associated with a value"

/-- A variable of an enclosing function has no value. -/
def unboundFree (name : String) : Raised :=
  of "NameError" <|
    s!"cannot access free variable '{name}' where it is not associated with a value " ++
    "in enclosing scope"

/-- A division by zero of some kind. -/
def zeroDivision (message : String) : Raised := of "ZeroDivisionError" message

/-- An integer has too many digits to be shown. -/
def tooManyDigits : Raised :=
  valueError <| "Exceeds the limit (4300 digits) for integer string conversion; " ++
    "use sys.set_int_max_str_digits() to increase the limit"

/-- A text has too many digits to be read as an integer. -/
def tooManyDigitsGiven (digits : Nat) : Raised :=
  valueError <| "Exceeds the limit (4300 digits) for integer string conversion: value has " ++
    s!"{digits} digits; use sys.set_int_max_str_digits() to increase the limit"

/-- An operator does not take its operands. -/
def unsupportedOperands (symbol left right : String) : Raised :=
  typeError s!"unsupported operand type(s) for {symbol}: '{left}' and '{right}'"

/-- Two values have no order. -/
def unordered (symbol left right : String) : Raised :=
  typeError s!"'{symbol}' not supported between instances of '{left}' and '{right}'"

/-- A value cannot be called. -/
def notCallable (type : String) : Raised := typeError s!"'{type}' object is not callable"

/-- A value has no items. -/
def notSubscriptable (type : String) : Raised :=
  typeError s!"'{type}' object is not subscriptable"

/-- A value cannot be iterated over. -/
def notIterable (type : String) : Raised := typeError s!"'{type}' object is not iterable"

/-- A value cannot manage a block. -/
def noManager (type : String) : Raised :=
  typeError s!"'{type}' object does not support the context manager protocol"

/-- A value cannot be a key. -/
def unhashable (type : String) : Raised := typeError s!"unhashable type: '{type}'"

/-- A value lacks an attribute. -/
def noAttribute (type name : String) : Raised :=
  attributeError s!"'{type}' object has no attribute '{name}'"

/-- Something that this scratchpad does not run. -/
def notProvided (what : String) : Raised :=
  of "NotImplementedError" s!"{what} is not available here"

/-- Calls are nested too deeply. -/
def tooDeep : Raised := of "RecursionError" "maximum recursion depth exceeded"

end Raised

end Scratchpad
