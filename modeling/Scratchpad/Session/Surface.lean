import Scratchpad.Text.Width
import Scratchpad.Value.Members
import Scratchpad.World

/-!
# The editing object

What completion offers of the editing object: its methods, its properties and its
constants. A buffer describes itself by the members of its class and by the
attributes that it holds.
-/

namespace Scratchpad

/-- Kinds of members that a class has. -/
inductive MemberKind where
  | property
  | callable
  | plain
deriving DecidableEq, Repr

/-- Properties of the class of buffers. Its other attributes without methods are held
by each buffer itself. -/
def bufferClassProperties : List String :=
  ["cursor_position", "document", "is_returnable", "text", "working_index"]

/-- Public members of the class of buffers. -/
def bufferClassMembers : List (String × MemberKind) :=
  bufferMethods.map (·, .callable) ++ bufferClassProperties.map (·, .property)

/-- Attributes that every buffer holds. -/
def bufferHeld : List String := bufferProperties.filter (!bufferClassProperties.contains ·)

/-- Whether a name is public. -/
def isPublic (name : String) : Bool := !"_".isPrefixOf name

namespace Surface

/-- Describes an object by the members of its class and the attributes it holds. -/
def ofMembers (object : Value) (members : List (String × MemberKind)) (held : List String) :
    Surface :=
  let shown := members.filter fun m => isPublic m.1
  let isConstant (m : String × MemberKind) : Bool :=
    m.2 != .property && isUpperText m.1.toList
  { object
    methods := (shown.filter fun m => m.2 == .callable && !isConstant m).map (·.1)
    properties := (shown.filter fun m => m.2 == .property).map (·.1) ++ held.filter isPublic
    constants := (shown.filter isConstant).map (·.1) }

/-- Members of a class with further attributes put over them. -/
def overrideMembers (members : List (String × MemberKind)) (attributes : List (String × Value)) :
    List (String × MemberKind) :=
  members.filter (fun m => (attributes.lookup m.1).isNone) ++
    attributes.map fun (n, v) => (n, if isCallable v then .callable else .plain)

/-- Describes a buffer of a class with further attributes, on which attributes have
been set. What the class has as a property is not held by the buffer itself. -/
def ofBuffer (classAttributes : List (String × Value)) (attributes : List String) : Surface :=
  let members := overrideMembers bufferClassMembers classAttributes
  let isProperty (n : String) : Bool := members.lookup n == some .property
  ofMembers (.part .buffer) members (bufferHeld ++ attributes.filter (!isProperty ·))

end Surface

end Scratchpad
