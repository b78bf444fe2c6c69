import Scratchpad.Value.Basic

/-!
# Built-in names and kinds

The names that every snippet can use, the classes of exceptions with their
parents, and the name of the type of a value.
-/

namespace Scratchpad

/-- Names that resolve when nothing else binds them. -/
def builtinNames : List String :=
  ["ArithmeticError", "AssertionError", "AttributeError", "BaseException", "BaseExceptionGroup",
   "BlockingIOError", "BrokenPipeError", "BufferError", "BytesWarning", "ChildProcessError",
   "ConnectionAbortedError", "ConnectionError", "ConnectionRefusedError", "ConnectionResetError",
   "DeprecationWarning", "EOFError", "Ellipsis", "EncodingWarning", "EnvironmentError",
   "Exception", "ExceptionGroup", "False", "FileExistsError", "FileNotFoundError",
   "FloatingPointError", "FutureWarning", "GeneratorExit", "IOError", "ImportError",
   "ImportWarning", "IndentationError", "IndexError", "InterruptedError", "IsADirectoryError",
   "KeyError", "KeyboardInterrupt", "LookupError", "MemoryError", "ModuleNotFoundError",
   "NameError", "None", "NotADirectoryError", "NotImplemented", "NotImplementedError", "OSError",
   "OverflowError", "PendingDeprecationWarning", "PermissionError", "ProcessLookupError",
   "RecursionError", "ReferenceError", "ResourceWarning", "RuntimeError", "RuntimeWarning",
   "StopAsyncIteration", "StopIteration", "SyntaxError", "SyntaxWarning", "SystemError",
   "SystemExit", "TabError", "TimeoutError", "True", "TypeError", "UnboundLocalError",
   "UnicodeDecodeError", "UnicodeEncodeError", "UnicodeError", "UnicodeTranslateError",
   "UnicodeWarning", "UserWarning", "ValueError", "Warning", "ZeroDivisionError",
   "__build_class__", "__debug__", "__doc__", "__import__", "__loader__", "__name__",
   "__package__", "__spec__", "abs", "aiter", "all", "anext", "any", "ascii", "bin", "bool",
   "breakpoint", "bytearray", "bytes", "callable", "chr", "classmethod", "compile", "complex",
   "copyright", "credits", "delattr", "dict", "dir", "divmod", "enumerate", "eval", "exec",
   "exit", "filter", "float", "format", "frozenset", "getattr", "globals", "hasattr", "hash",
   "help", "hex", "id", "input", "int", "isinstance", "issubclass", "iter", "len", "license",
   "list", "locals", "map", "max", "memoryview", "min", "next", "object", "oct", "open", "ord",
   "pow", "print", "property", "quit", "range", "repr", "reversed", "round", "set", "setattr",
   "slice", "sorted", "staticmethod", "str", "sum", "super", "tuple", "type", "vars", "zip"]

/-- Built-in names that are types but no exception classes. -/
def typeNames : List String :=
  ["bool", "bytearray", "bytes", "classmethod", "complex", "dict", "enumerate", "filter", "float",
   "frozenset", "int", "list", "map", "memoryview", "object", "property", "range", "reversed",
   "set", "slice", "staticmethod", "str", "super", "tuple", "type", "zip"]

/-- Exception classes with the class each one derives from. -/
def exceptionParents : List (String × String) :=
  [("BaseException", "object"), ("Exception", "BaseException"),
   ("BaseExceptionGroup", "BaseException"), ("GeneratorExit", "BaseException"),
   ("KeyboardInterrupt", "BaseException"), ("SystemExit", "BaseException"),
   ("ExceptionGroup", "Exception"), ("ArithmeticError", "Exception"),
   ("FloatingPointError", "ArithmeticError"), ("OverflowError", "ArithmeticError"),
   ("ZeroDivisionError", "ArithmeticError"), ("AssertionError", "Exception"),
   ("AttributeError", "Exception"), ("FrozenInstanceError", "AttributeError"),
   ("BufferError", "Exception"), ("EOFError", "Exception"),
   ("ImportError", "Exception"), ("ModuleNotFoundError", "ImportError"),
   ("LookupError", "Exception"), ("IndexError", "LookupError"), ("KeyError", "LookupError"),
   ("MemoryError", "Exception"), ("NameError", "Exception"), ("UnboundLocalError", "NameError"),
   ("OSError", "Exception"), ("BlockingIOError", "OSError"), ("ChildProcessError", "OSError"),
   ("ConnectionError", "OSError"), ("BrokenPipeError", "ConnectionError"),
   ("ConnectionAbortedError", "ConnectionError"), ("ConnectionRefusedError", "ConnectionError"),
   ("ConnectionResetError", "ConnectionError"), ("FileExistsError", "OSError"),
   ("FileNotFoundError", "OSError"), ("InterruptedError", "OSError"),
   ("IsADirectoryError", "OSError"), ("NotADirectoryError", "OSError"),
   ("PermissionError", "OSError"), ("ProcessLookupError", "OSError"), ("TimeoutError", "OSError"),
   ("ReferenceError", "Exception"), ("RuntimeError", "Exception"),
   ("NotImplementedError", "RuntimeError"), ("RecursionError", "RuntimeError"),
   ("StopAsyncIteration", "Exception"), ("StopIteration", "Exception"),
   ("SyntaxError", "Exception"), ("IndentationError", "SyntaxError"),
   ("TabError", "IndentationError"), ("SystemError", "Exception"), ("TypeError", "Exception"),
   ("ValueError", "Exception"), ("UnicodeError", "ValueError"),
   ("UnicodeDecodeError", "UnicodeError"), ("UnicodeEncodeError", "UnicodeError"),
   ("UnicodeTranslateError", "UnicodeError"), ("Warning", "Exception"),
   ("BytesWarning", "Warning"), ("DeprecationWarning", "Warning"), ("EncodingWarning", "Warning"),
   ("FutureWarning", "Warning"), ("ImportWarning", "Warning"),
   ("PendingDeprecationWarning", "Warning"), ("ResourceWarning", "Warning"),
   ("RuntimeWarning", "Warning"), ("SyntaxWarning", "Warning"), ("UnicodeWarning", "Warning"),
   ("UserWarning", "Warning")]

/-- Other names of one exception class. -/
def exceptionAliases : List String := ["EnvironmentError", "IOError"]

/-- The class itself and the classes it derives from. -/
def ancestors (kind : String) : List String :=
  go 8 kind
where
  go : Nat → String → List String
    | 0, _ => []
    | n + 1, k => k :: match exceptionParents.lookup k with
      | some p => go n p
      | none => []

/-- Whether an exception class derives from another, or is it. -/
def derivesFrom (kind ancestor : String) : Bool := (ancestors kind).contains ancestor

/-- Whether a name is an exception class. -/
def isExceptionName (n : String) : Bool :=
  builtinNames.contains n && (exceptionParents.lookup n).isSome

/-- Exceptions that report a fault: no exits, interrupts and the like. -/
def Raised.isFault (e : Raised) : Bool := derivesFrom e.kind "Exception"

/-- Exceptions that end a snippet and not the scratchpad: all but interrupts and
the like. -/
def Raised.isContained (e : Raised) : Bool := e.isFault || derivesFrom e.kind "SystemExit"

/-- The value of a built-in name. -/
def builtinValue? (n : String) : Option Value :=
  if n == "None" then some .none
  else if n == "True" then some (.bool true)
  else if n == "False" then some (.bool false)
  else if n == "Ellipsis" then some .ellipsis
  else if n == "NotImplemented" then some .notImplemented
  else if n == "__debug__" then some (.bool true)
  else if n == "__name__" then some (.ofString "builtins")
  else if n == "__package__" then some (.ofString "")
  else if n == "__doc__" then some (.ofString
    ("Built-in functions, exceptions, and other objects.\n\n" ++
     "Noteworthy: None is the " ++ "\x60nil' object; Ellipsis represents " ++
     "\x60...' in slices."))
  else if n == "__loader__" then some (.type "_frozen_importlib.BuiltinImporter")
  else if exceptionAliases.contains n then some (.type "OSError")
  else if typeNames.contains n || isExceptionName n then some (.type n)
  else if builtinNames.contains n then some (.builtin n)
  else none

/-! ## Types -/

/-- Name of the type of a part. -/
def Part.typeName : Part → String
  | .buffer => "Buffer"
  | .session => "ReplSession"
  | .settings => "ReplConfig"
  | .history => "HistoryLog"
  | .host => "BufferHost"
  | .namespace => "SandboxNamespace"
  | .evaluator => "Evaluator"
  | .formatter => "ResultFormatter"
  | .completion => "CompletionEngine"
  | .app => "Application"

/-- Last part of a dotted name. -/
def lastPart (name : String) : String :=
  String.ofList (name.toList.reverse.takeWhile (· != '.')).reverse

namespace Cells

/-- Name of a class that code defined, without the definitions around it. -/
def kindName (cells : Cells) (kind : Loc) : String :=
  match cells[kind]? with
  | some (.kind path _) => lastPart path
  | _ => "object"

/-- Attributes of a class that code defined. -/
def kindAttributes (cells : Cells) (kind : Loc) : List (String × Value) :=
  match cells[kind]? with
  | some (.kind _ attributes) => attributes
  | _ => []

/-- Name of the type of the object in a cell. -/
def objectType (cells : Cells) (loc : Loc) : String :=
  match cells[loc]? with
  | some (.space _) => "SimpleNamespace"
  | some (.kind ..) => "type"
  | some (.ofKind kind _) => cells.kindName kind
  | some (.property _) => "property"
  | some (.guest g) => g.type
  | some (.sink _) => "StringIO"
  | _ => "object"

end Cells

/-- Built-in values that are objects of a class of their own. -/
def specialBuiltinType? (n : String) : Option String :=
  if n == "exit" || n == "quit" then some "Quitter"
  else if n == "copyright" || n == "credits" || n == "license" then some "_Printer"
  else if n == "help" then some "_Helper"
  else if n == "__spec__" then some "ModuleSpec"
  else none

/-- Name of the type of a value. -/
def typeNameOf (cells : Cells) : Value → String
  | .none => "NoneType"
  | .ellipsis => "ellipsis"
  | .notImplemented => "NotImplementedType"
  | .bool _ => "bool"
  | .int _ => "int"
  | .float _ => "float"
  | .str _ => "str"
  | .bytes _ => "bytes"
  | .tuple _ => "tuple"
  | .range .. => "range"
  | .slice .. => "slice"
  | .list _ => "list"
  | .dict _ => "dict"
  | .proxy _ => "mappingproxy"
  | .view .keys _ => "dict_keys"
  | .view .values _ => "dict_values"
  | .view .items _ => "dict_items"
  | .iterator kind _ => kind
  | .type _ => "type"
  | .builtin n => (specialBuiltinType? n).getD "builtin_function_or_method"
  | .method (.part _) _ => "method"
  | .method (.type _) _ => "method_descriptor"
  | .method .. => "builtin_function_or_method"
  | .bound .. => "method"
  | .function _ => "function"
  | .exception kind _ => kind
  | .object loc => cells.objectType loc
  | .part p => p.typeName
  | .builtinsModule => "module"

/-- The class of a value. -/
def Cells.classOf (cells : Cells) (v : Value) : Value :=
  match v with
  | .object loc => match cells[loc]? with
    | some (.ofKind kind _) => .object kind
    | _ => .type (cells.objectType loc)
  | v => .type (typeNameOf cells v)

/-- Name of the type of a value as complaints write it. -/
def complaintTypeName (cells : Cells) (v : Value) : String :=
  let n := typeNameOf cells v
  if n == "SimpleNamespace" then "types.SimpleNamespace"
  else if n == "StringIO" then "_io.StringIO"
  else n

end Scratchpad
