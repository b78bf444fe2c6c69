import Scratchpad.Value.Kinds

/-!
# Members of values

The attribute names that each type of value has. Completion offers them, and
attribute access looks them up: those that are not data are methods.
-/

namespace Scratchpad

/-- Attribute names of a type beyond those of every object. -/
structure Members where
  own : List String
  /-- Names whose attributes cannot be called. -/
  data : List String

/-- Attribute names of every object. -/
def objectNames : List String :=
  ["__class__", "__delattr__", "__dir__", "__doc__", "__eq__", "__format__", "__ge__",
   "__getattribute__", "__getstate__", "__gt__", "__hash__", "__init__", "__init_subclass__",
   "__le__", "__lt__", "__ne__", "__new__", "__reduce__", "__reduce_ex__", "__repr__",
   "__setattr__", "__sizeof__", "__str__", "__subclasshook__"]

/-- An object with nothing of its own. -/
def plainMembers : Members := ⟨[], ["__doc__"]⟩

/-- Members of the empty value. -/
def noneMembers : Members where
  own :=
    ["__bool__"]
  data :=
    ["__doc__"]

/-- Members of integers and truth values. -/
def intMembers : Members where
  own :=
    ["__abs__", "__add__", "__and__", "__bool__", "__ceil__", "__divmod__", "__float__",
     "__floor__", "__floordiv__", "__getnewargs__", "__index__", "__int__", "__invert__",
     "__lshift__", "__mod__", "__mul__", "__neg__", "__or__", "__pos__", "__pow__", "__radd__",
     "__rand__", "__rdivmod__", "__rfloordiv__", "__rlshift__", "__rmod__", "__rmul__", "__ror__",
     "__round__", "__rpow__", "__rrshift__", "__rshift__", "__rsub__", "__rtruediv__", "__rxor__",
     "__sub__", "__truediv__", "__trunc__", "__xor__", "as_integer_ratio", "bit_count",
     "bit_length", "conjugate", "denominator", "from_bytes", "imag", "numerator", "real",
     "to_bytes"]
  data :=
    ["__doc__", "denominator", "imag", "numerator", "real"]

/-- Members of floating-point numbers. -/
def floatMembers : Members where
  own :=
    ["__abs__", "__add__", "__bool__", "__ceil__", "__divmod__", "__float__", "__floor__",
     "__floordiv__", "__getformat__", "__getnewargs__", "__int__", "__mod__", "__mul__",
     "__neg__", "__pos__", "__pow__", "__radd__", "__rdivmod__", "__rfloordiv__", "__rmod__",
     "__rmul__", "__round__", "__rpow__", "__rsub__", "__rtruediv__", "__sub__", "__truediv__",
     "__trunc__", "as_integer_ratio", "conjugate", "fromhex", "hex", "imag", "is_integer", "real"]
  data :=
    ["__doc__", "imag", "real"]

/-- Members of texts. -/
def strMembers : Members where
  own :=
    ["__add__", "__contains__", "__getitem__", "__getnewargs__", "__iter__", "__len__", "__mod__",
     "__mul__", "__rmod__", "__rmul__", "capitalize", "casefold", "center", "count", "encode",
     "endswith", "expandtabs", "find", "format", "format_map", "index", "isalnum", "isalpha",
     "isascii", "isdecimal", "isdigit", "isidentifier", "islower", "isnumeric", "isprintable",
     "isspace", "istitle", "isupper", "join", "ljust", "lower", "lstrip", "maketrans",
     "partition", "removeprefix", "removesuffix", "replace", "rfind", "rindex", "rjust",
     "rpartition", "rsplit", "rstrip", "split", "splitlines", "startswith", "strip", "swapcase",
     "title", "translate", "upper", "zfill"]
  data :=
    ["__doc__"]

/-- Members of byte strings. -/
def bytesMembers : Members where
  own :=
    ["__add__", "__bytes__", "__contains__", "__getitem__", "__getnewargs__", "__iter__",
     "__len__", "__mod__", "__mul__", "__rmod__", "__rmul__", "capitalize", "center", "count",
     "decode", "endswith", "expandtabs", "find", "fromhex", "hex", "index", "isalnum", "isalpha",
     "isascii", "isdigit", "islower", "isspace", "istitle", "isupper", "join", "ljust", "lower",
     "lstrip", "maketrans", "partition", "removeprefix", "removesuffix", "replace", "rfind",
     "rindex", "rjust", "rpartition", "rsplit", "rstrip", "split", "splitlines", "startswith",
     "strip", "swapcase", "title", "translate", "upper", "zfill"]
  data :=
    ["__doc__"]

/-- Members of lists. -/
def listMembers : Members where
  own :=
    ["__add__", "__class_getitem__", "__contains__", "__delitem__", "__getitem__", "__iadd__",
     "__imul__", "__iter__", "__len__", "__mul__", "__reversed__", "__rmul__", "__setitem__",
     "append", "clear", "copy", "count", "extend", "index", "insert", "pop", "remove", "reverse",
     "sort"]
  data :=
    ["__doc__", "__hash__"]

/-- Members of tuples. -/
def tupleMembers : Members where
  own :=
    ["__add__", "__class_getitem__", "__contains__", "__getitem__", "__getnewargs__", "__iter__",
     "__len__", "__mul__", "__rmul__", "count", "index"]
  data :=
    ["__doc__"]

/-- Members of dictionaries. -/
def dictMembers : Members where
  own :=
    ["__class_getitem__", "__contains__", "__delitem__", "__getitem__", "__ior__", "__iter__",
     "__len__", "__or__", "__reversed__", "__ror__", "__setitem__", "clear", "copy", "fromkeys",
     "get", "items", "keys", "pop", "popitem", "setdefault", "update", "values"]
  data :=
    ["__doc__", "__hash__"]

/-- Members of read-only dictionary views. -/
def proxyMembers : Members where
  own :=
    ["__class_getitem__", "__contains__", "__getitem__", "__ior__", "__iter__", "__len__",
     "__or__", "__reversed__", "__ror__", "copy", "get", "items", "keys", "values"]
  data :=
    ["__doc__", "__hash__"]

/-- Members of ranges. -/
def rangeMembers : Members where
  own :=
    ["__bool__", "__contains__", "__getitem__", "__iter__", "__len__", "__reversed__", "count",
     "index", "start", "step", "stop"]
  data :=
    ["__doc__", "start", "step", "stop"]

/-- Members of built-in functions. -/
def builtinMembers : Members where
  own :=
    ["__call__", "__module__", "__name__", "__qualname__", "__self__", "__text_signature__"]
  data :=
    ["__doc__", "__module__", "__name__", "__qualname__", "__self__", "__text_signature__"]

/-- Members of functions. -/
def functionMembers : Members where
  own :=
    ["__annotations__", "__builtins__", "__call__", "__closure__", "__code__", "__defaults__",
     "__dict__", "__get__", "__globals__", "__kwdefaults__", "__module__", "__name__",
     "__qualname__"]
  data :=
    ["__annotations__", "__builtins__", "__closure__", "__code__", "__defaults__", "__dict__",
     "__doc__", "__globals__", "__kwdefaults__", "__module__", "__name__", "__qualname__"]

/-- Members of plain attribute bags, apart from their attributes. -/
def spaceMembers : Members where
  own :=
    ["__dict__"]
  data :=
    ["__dict__", "__doc__", "__hash__"]

/-- Members of objects of a class written in code, apart from those of the class. -/
def instanceMembers : Members where
  own :=
    ["__dict__", "__module__", "__weakref__"]
  data :=
    ["__dict__", "__doc__", "__module__", "__weakref__"]

/-- Members of the session. -/
def sessionMembers : Members where
  own :=
    ["__dict__", "__module__", "__weakref__", "_print", "_replace_shown", "commit", "completion",
     "config", "evaluator", "formatter", "history", "history_next", "history_prev", "host",
     "namespace", "open", "request_completion"]
  data :=
    ["__dict__", "__doc__", "__module__", "__weakref__", "completion", "config", "evaluator",
     "formatter", "history", "host", "namespace"]

/-- Members of every exception. -/
def exceptionMembers : Members where
  own :=
    ["__cause__", "__context__", "__dict__", "__setstate__", "__suppress_context__",
     "__traceback__", "add_note", "args", "with_traceback"]
  data :=
    ["__cause__", "__context__", "__dict__", "__doc__", "__suppress_context__", "__traceback__",
     "args"]

/-- Data that classes of exceptions add, by the class that adds them. -/
def exceptionData : List (String × List String) :=
  [("AttributeError", ["name", "obj"]), ("ImportError", ["msg", "name", "path"]),
   ("NameError", ["name"]),
   ("OSError", ["characters_written", "errno", "filename", "filename2", "strerror"]),
   ("StopIteration", ["value"]),
   ("SyntaxError",
     ["end_lineno", "end_offset", "filename", "lineno", "msg", "offset", "print_file_and_line",
      "text"]),
   ("SystemExit", ["code"]),
   ("UnicodeDecodeError", ["encoding", "end", "object", "reason", "start"]),
   ("UnicodeEncodeError", ["encoding", "end", "object", "reason", "start"]),
   ("UnicodeTranslateError", ["encoding", "end", "object", "reason", "start"]),
   ("BaseExceptionGroup", ["exceptions", "message"]),
   ("ExceptionGroup", ["__module__", "__weakref__", "exceptions", "message"])]

/-- Methods of groups of exceptions. -/
def groupMethods : List String := ["__class_getitem__", "derive", "split", "subgroup"]

/-- Members of the exceptions of a class. -/
def membersOfException (kind : String) : Members :=
  let added := exceptionData.flatMap fun (k, names) => if derivesFrom kind k then names else []
  let methods :=
    if kind == "BaseExceptionGroup" || kind == "ExceptionGroup" then groupMethods else []
  ⟨exceptionMembers.own ++ added ++ methods, exceptionMembers.data ++ added⟩

/-- Members of the settings. -/
def settingsMembers : Members where
  own :=
    ["__annotations__", "__dataclass_fields__", "__dataclass_params__", "__dict__",
     "__match_args__", "__module__", "__post_init__", "__weakref__", "from_env", "indent_width",
     "max_line_width", "title", "with_overrides"]
  data :=
    ["__annotations__", "__dataclass_fields__", "__dataclass_params__", "__dict__", "__doc__",
     "__match_args__", "__module__", "__weakref__", "indent_width", "max_line_width", "title"]

/-- Members of the history. -/
def historyMembers : Members where
  own :=
    ["__annotations__", "__dataclass_fields__", "__dataclass_params__", "__dict__", "__len__",
     "__match_args__", "__module__", "__post_init__", "__weakref__", "browsing", "current",
     "entries", "lines_to_erase", "next", "pos", "prev", "record"]
  data :=
    ["__annotations__", "__dataclass_fields__", "__dataclass_params__", "__dict__", "__doc__",
     "__hash__", "__match_args__", "__module__", "__weakref__", "browsing", "entries", "pos"]

/-- Members of the buffer as the session drives it. -/
def hostMembers : Members where
  own :=
    ["__dict__", "__module__", "__weakref__", "accept_completion", "buffer", "cancel_completion",
     "column_from_position", "cursor_position", "delete_char_before_cursor",
     "delete_current_line", "get_current_line_text", "get_selection_range", "get_text_in_range",
     "insert_newline", "insert_text", "is_completion_list_active", "line_from_position",
     "move_cursor_to_line_end", "position_from_line", "select", "select_next_completion",
     "select_previous_completion", "show_completion_list", "text"]
  data :=
    ["__dict__", "__doc__", "__module__", "__weakref__", "buffer", "text"]

/-- Members of the scope of snippets. -/
def scopeMembers : Members where
  own :=
    ["__class_getitem__", "__contains__", "__delitem__", "__dict__", "__getitem__", "__ior__",
     "__iter__", "__len__", "__missing__", "__module__", "__or__", "__reversed__", "__ror__",
     "__setitem__", "__weakref__", "_host", "_iter_chain", "clear", "copy", "fromkeys", "get",
     "host", "items", "keys", "pop", "popitem", "setdefault", "update", "values", "visible_names"]
  data :=
    ["__dict__", "__doc__", "__hash__", "__module__", "__weakref__", "_host", "host"]

/-- Members of the evaluator. -/
def evaluatorMembers : Members where
  own :=
    ["__dict__", "__module__", "__weakref__", "compile", "evaluate", "filename", "namespace",
     "run"]
  data :=
    ["__dict__", "__doc__", "__module__", "__weakref__", "filename", "namespace"]

/-- Members of the formatter. -/
def formatterMembers : Members where
  own :=
    ["__dict__", "__module__", "__weakref__", "format", "indent_width", "max_line_width"]
  data :=
    ["__dict__", "__doc__", "__module__", "__weakref__", "indent_width", "max_line_width"]

/-- Members of the completion engine. -/
def completionMembers : Members where
  own :=
    ["__dict__", "__module__", "__weakref__", "_names_of", "_resolve", "candidates", "complete",
     "namespace", "surface"]
  data :=
    ["__dict__", "__doc__", "__module__", "__weakref__", "namespace", "surface"]

/-- Members of the application that snippets use. -/
def appMembers : Members where
  own :=
    ["__dict__", "__module__", "__weakref__", "exit", "is_done", "is_running", "run"]
  data :=
    ["__dict__", "__doc__", "__module__", "__weakref__", "is_done", "is_running"]

/-- Members of sets. -/
def setMembers : Members where
  own :=
    ["__and__", "__class_getitem__", "__contains__", "__iand__", "__ior__", "__isub__",
     "__iter__", "__ixor__", "__len__", "__or__", "__rand__", "__ror__", "__rsub__", "__rxor__",
     "__sub__", "__xor__", "add", "clear", "copy", "difference", "difference_update", "discard",
     "intersection", "intersection_update", "isdisjoint", "issubset", "issuperset", "pop",
     "remove", "symmetric_difference", "symmetric_difference_update", "union", "update"]
  data :=
    ["__doc__", "__hash__"]

/-- Members of sets that cannot change. -/
def frozensetMembers : Members where
  own :=
    ["__and__", "__class_getitem__", "__contains__", "__iter__", "__len__", "__or__", "__rand__",
     "__ror__", "__rsub__", "__rxor__", "__sub__", "__xor__", "copy", "difference",
     "intersection", "isdisjoint", "issubset", "issuperset", "symmetric_difference", "union"]
  data :=
    ["__doc__"]

/-- Members of complex numbers. -/
def complexMembers : Members where
  own :=
    ["__abs__", "__add__", "__bool__", "__complex__", "__getnewargs__", "__mul__", "__neg__",
     "__pos__", "__pow__", "__radd__", "__rmul__", "__rpow__", "__rsub__", "__rtruediv__",
     "__sub__", "__truediv__", "conjugate", "imag", "real"]
  data :=
    ["__doc__", "imag", "real"]

/-- Members of byte strings that can change. -/
def bytearrayMembers : Members where
  own :=
    ["__add__", "__alloc__", "__contains__", "__delitem__", "__getitem__", "__iadd__", "__imul__",
     "__iter__", "__len__", "__mod__", "__mul__", "__rmod__", "__rmul__", "__setitem__", "append",
     "capitalize", "center", "clear", "copy", "count", "decode", "endswith", "expandtabs",
     "extend", "find", "fromhex", "hex", "index", "insert", "isalnum", "isalpha", "isascii",
     "isdigit", "islower", "isspace", "istitle", "isupper", "join", "ljust", "lower", "lstrip",
     "maketrans", "partition", "pop", "remove", "removeprefix", "removesuffix", "replace",
     "reverse", "rfind", "rindex", "rjust", "rpartition", "rsplit", "rstrip", "split",
     "splitlines", "startswith", "strip", "swapcase", "title", "translate", "upper", "zfill"]
  data :=
    ["__doc__", "__hash__"]

/-- Members of views of memory. -/
def memoryviewMembers : Members where
  own :=
    ["__delitem__", "__enter__", "__exit__", "__getitem__", "__iter__", "__len__", "__setitem__",
     "c_contiguous", "cast", "contiguous", "f_contiguous", "format", "hex", "itemsize", "nbytes",
     "ndim", "obj", "readonly", "release", "shape", "strides", "suboffsets", "tobytes", "tolist",
     "toreadonly"]
  data :=
    ["__doc__", "c_contiguous", "contiguous", "f_contiguous", "format", "itemsize", "nbytes",
     "ndim", "obj", "readonly", "shape", "strides", "suboffsets"]

/-- Members of slices. -/
def sliceMembers : Members where
  own :=
    ["indices", "start", "step", "stop"]
  data :=
    ["__doc__", "__hash__", "start", "step", "stop"]

/-- Members of views of keys and of entries. -/
def keysMembers : Members where
  own :=
    ["__and__", "__contains__", "__iter__", "__len__", "__or__", "__rand__", "__reversed__",
     "__ror__", "__rsub__", "__rxor__", "__sub__", "__xor__", "isdisjoint", "mapping"]
  data :=
    ["__doc__", "__hash__", "mapping"]

/-- Members of views of values. -/
def valuesMembers : Members where
  own :=
    ["__iter__", "__len__", "__reversed__", "mapping"]
  data :=
    ["__doc__", "mapping"]

/-- Members of the type of types. -/
def typeMembers : Members where
  own :=
    ["__abstractmethods__", "__annotations__", "__base__", "__bases__", "__basicsize__",
     "__call__", "__dict__", "__dictoffset__", "__flags__", "__instancecheck__", "__itemsize__",
     "__module__", "__mro__", "__name__", "__or__", "__prepare__", "__qualname__", "__ror__",
     "__subclasscheck__", "__subclasses__", "__text_signature__", "__weakrefoffset__", "mro"]
  data :=
    ["__abstractmethods__", "__annotations__", "__bases__", "__basicsize__", "__dict__",
     "__dictoffset__", "__doc__", "__flags__", "__itemsize__", "__module__", "__mro__",
     "__name__", "__qualname__", "__text_signature__", "__weakrefoffset__"]

/-- Members of computed attributes. -/
def propertyMembers : Members where
  own :=
    ["__delete__", "__get__", "__isabstractmethod__", "__set__", "__set_name__", "deleter",
     "fdel", "fget", "fset", "getter", "setter"]
  data :=
    ["__doc__", "__isabstractmethod__", "fdel", "fget", "fset"]

/-- Members of functions that a class only holds. -/
def staticmethodMembers : Members where
  own :=
    ["__call__", "__dict__", "__func__", "__get__", "__isabstractmethod__", "__wrapped__"]
  data :=
    ["__dict__", "__doc__", "__func__", "__isabstractmethod__", "__wrapped__"]

/-- Members of functions that take the class. -/
def classmethodMembers : Members where
  own :=
    ["__dict__", "__func__", "__get__", "__isabstractmethod__", "__wrapped__"]
  data :=
    ["__dict__", "__doc__", "__func__", "__isabstractmethod__", "__wrapped__"]

/-- Members of views of a base class. -/
def superMembers : Members where
  own :=
    ["__get__", "__self__", "__self_class__", "__thisclass__"]
  data :=
    ["__doc__", "__self__", "__self_class__", "__thisclass__"]

/-- Members of generators. -/
def generatorMembers : Members where
  own :=
    ["__del__", "__iter__", "__name__", "__next__", "__qualname__", "close", "gi_code",
     "gi_frame", "gi_running", "gi_suspended", "gi_yieldfrom", "send", "throw"]
  data :=
    ["__doc__", "__name__", "__qualname__", "gi_code", "gi_frame", "gi_running", "gi_suspended",
     "gi_yieldfrom"]

/-- Members of a function with the object that it belongs to. -/
def boundMembers : Members where
  own :=
    ["__call__", "__func__", "__self__"]
  data :=
    ["__doc__", "__self__"]

/-- Members of a method of a type that still lacks its value. -/
def descriptorMembers : Members where
  own :=
    ["__call__", "__get__", "__name__", "__objclass__", "__qualname__", "__text_signature__"]
  data :=
    ["__doc__", "__name__", "__qualname__", "__text_signature__"]

/-! ## Members by value -/

/-- Members of text files in memory. -/
def sinkMembers : Members where
  own :=
    ["__del__", "__dict__", "__enter__", "__exit__", "__iter__", "__next__", "__setstate__",
     "_checkClosed", "_checkReadable", "_checkSeekable", "_checkWritable", "close", "closed",
     "detach", "encoding", "errors", "fileno", "flush", "getvalue", "isatty", "line_buffering",
     "newlines", "read", "readable", "readline", "readlines", "seek", "seekable", "tell",
     "truncate", "writable", "write", "writelines"]
  data :=
    ["__dict__", "__doc__", "closed", "encoding", "errors", "line_buffering", "newlines"]

/-- Members of the iterators of a kind. -/
def membersOfIterator (kind : String) : Members :=
  let further := match kind with
    | "generator" => generatorMembers.own
    | "enumerate" => ["__class_getitem__"]
    | "map" | "filter" => []
    | "zip" => ["__setstate__"]
    | "dict_keyiterator" | "dict_valueiterator" | "dict_itemiterator"
    | "dict_reversekeyiterator" => ["__length_hint__"]
    | _ => ["__length_hint__", "__setstate__"]
  let data := if kind == "generator" then generatorMembers.data else ["__doc__"]
  ⟨["__iter__", "__next__"] ++ further, data⟩

/-- Members of the values of a built-in type. -/
def membersOfType (name : String) : Members :=
  match name with
  | "int" | "bool" => intMembers
  | "float" => floatMembers
  | "complex" => complexMembers
  | "str" => strMembers
  | "bytes" => bytesMembers
  | "bytearray" => bytearrayMembers
  | "memoryview" => memoryviewMembers
  | "list" => listMembers
  | "tuple" => tupleMembers
  | "dict" => dictMembers
  | "set" => setMembers
  | "frozenset" => frozensetMembers
  | "mappingproxy" => proxyMembers
  | "range" => rangeMembers
  | "slice" => sliceMembers
  | "dict_keys" | "dict_items" => keysMembers
  | "dict_values" => valuesMembers
  | "NoneType" => noneMembers
  | "NotImplementedType" => ⟨["__bool__"], ["__doc__"]⟩
  | "type" => typeMembers
  | "property" => propertyMembers
  | "staticmethod" => staticmethodMembers
  | "classmethod" => classmethodMembers
  | "super" => superMembers
  | "function" => functionMembers
  | "method" => boundMembers
  | "enumerate" | "map" | "filter" | "zip" | "reversed" => membersOfIterator name
  | n => if (exceptionParents.lookup n).isSome then membersOfException n else plainMembers

/-- Members of a part. -/
def Part.members : Part → Members
  | .buffer => plainMembers
  | .session => sessionMembers
  | .settings => settingsMembers
  | .history => historyMembers
  | .host => hostMembers
  | .namespace => scopeMembers
  | .evaluator => evaluatorMembers
  | .formatter => formatterMembers
  | .completion => completionMembers
  | .app => appMembers

/-- Members of the object in a cell, apart from the attributes that the cell holds and
those of a class that code defined. -/
def membersOfObject (cells : Cells) (loc : Loc) : Members :=
  match cells[loc]? with
  | some (.space _) => spaceMembers
  | some (.kind ..) | some (.ofKind ..) => instanceMembers
  | some (.guest g) => { instanceMembers with own := instanceMembers.own ++ g.methods }
  | some (.property _) => propertyMembers
  | some (.sink _) => sinkMembers
  | _ => plainMembers

/-- Members of a value, apart from the attributes that its cell holds. A type has
the members of its values. -/
def membersOf (cells : Cells) (v : Value) : Members :=
  match v with
  | .type n => membersOfType n
  | .builtin _ => builtinMembers
  | .method (.type _) _ => descriptorMembers
  | .method (.part _) _ => boundMembers
  | .method .. => builtinMembers
  | .exception kind _ => membersOfException kind
  | .iterator kind _ => membersOfIterator kind
  | .object loc => membersOfObject cells loc
  | .part p => p.members
  | v => membersOfType (typeNameOf cells v)

/-- Whether a value that is no object can be called. -/
def isCallable : Value → Bool
  | .type _ | .method .. | .bound .. | .function _ => true
  | .builtin n => n != "__spec__"
  | _ => false

/-- Whether a value can be called. Of the objects those can that are classes, or whose class
says how. -/
def canBeCalled (cells : Cells) : Value → Bool
  | .object loc => match cells[loc]? with
    | some (.kind ..) => true
    | some (.ofKind kind _) => ((cells.kindAttributes kind).lookup "__call__").isSome
    | _ => false
  | v => isCallable v

/-- Attribute names of the editing buffer that are methods. -/
def bufferMethods : List String :=
  ["append_to_history", "apply_completion", "apply_search", "auto_down", "auto_up",
   "cancel_completion", "complete_next", "complete_previous", "copy_selection", "cursor_down",
   "cursor_left", "cursor_right", "cursor_up", "cut_selection", "delete", "delete_before_cursor",
   "document_for_search", "exit_selection", "get_search_position", "go_to_completion",
   "go_to_history", "history_backward", "history_forward", "insert_line_above",
   "insert_line_below", "insert_text", "join_next_line", "join_selected_lines",
   "load_history_if_not_yet_loaded", "newline", "open_in_editor", "paste_clipboard_data", "redo",
   "reset", "save_to_undo_stack", "set_document", "start_completion",
   "start_history_lines_completion", "start_selection", "swap_characters_before_cursor",
   "transform_current_line", "transform_lines", "transform_region", "undo", "validate",
   "validate_and_handle", "yank_last_arg", "yank_nth_arg"]

/-- Attribute names of the editing buffer that are no methods. -/
def bufferProperties : List String :=
  ["accept_handler", "auto_suggest", "complete_state", "complete_while_typing", "completer",
   "cursor_position", "document", "document_before_paste", "enable_history_search", "history",
   "history_search_text", "is_returnable", "max_number_of_completions", "multiline",
   "multiple_cursor_positions", "name", "on_completions_changed", "on_cursor_position_changed",
   "on_suggestion_set", "on_text_changed", "on_text_insert", "preferred_column", "read_only",
   "selection_state", "suggestion", "tempfile", "tempfile_suffix", "text", "text_width",
   "validate_while_typing", "validation_error", "validation_state", "validator", "working_index",
   "yank_nth_arg_state"]

end Scratchpad
