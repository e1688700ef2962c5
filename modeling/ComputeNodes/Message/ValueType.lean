/-
The types of values, and what a value of each of them has.

A field of a message may ask a value for anything its type has: features, operations, and the
operations behind signs.  A type also has whatever the types above it have.  This file is the
table of these types, with their names and what they say about themselves; what the parts of a
value are is worked out from it in `Message/Part.lean`.
-/

namespace ComputeNodes.Message

/-- What is known about a type. -/
structure ValueType where
  name : String
  /-- The names of the types above, nearest first. -/
  above : List String
  /-- What the type says about itself. -/
  doc : Option String := none
  /-- Operations that a sign stands for. -/
  signs : List String := []
  operations : List String := []
  /-- Operations of the type itself rather than of its values. -/
  ofType : List String := []
  functions : List String := []
  features : List String := []
  /-- Features that are kept inside the value. -/
  members : List String := []
  /-- What the types above have and this one has not. -/
  empty : List String := []
  deriving DecidableEq, Repr

namespace ValueType

/-- The names in a text. -/
def words (s : String) : List String := s.splitOn " "

/-- What all types have in common. -/
def any : ValueType :=
  { name := "object"
    above := []
    doc := some <|
      "The base class of the class hierarchy.\n" ++
      "\n" ++
      "When called, it accepts no arguments and returns a new featureless\n" ++
      "instance that has no instance attributes and cannot be given any.\n"
    signs := words <|
      "__delattr__ __eq__ __ge__ __getattribute__ __gt__ __hash__ __init__ __le__ __lt__ " ++
      "__ne__ __repr__ __setattr__ __str__"
    operations := words <|
      "__dir__ __format__ __getstate__ __reduce__ __reduce_ex__ __sizeof__"
    ofType := words <|
      "__init_subclass__ __subclasshook__"
    functions := words <|
      "__new__"
    features := words <|
      "__class__" }

/-- The type of types. -/
def type : ValueType :=
  { name := "type"
    above := ["object"]
    doc := some <|
      "type(object) -> the object's type\n" ++
      "type(name, bases, dict, **kwds) -> a new type"
    signs := words <|
      "__call__ __delattr__ __getattribute__ __init__ __or__ __repr__ __ror__ __setattr__"
    operations := words <|
      "__dir__ __instancecheck__ __sizeof__ __subclasscheck__ __subclasses__ mro"
    ofType := words <|
      "__prepare__"
    functions := words <|
      "__new__"
    features := words <|
      "__abstractmethods__ __annotations__ __bases__ __dict__ __doc__ __module__ __name__ " ++
      "__qualname__ __text_signature__"
    members := words <|
      "__base__ __basicsize__ __dictoffset__ __flags__ __itemsize__ __mro__ " ++
      "__weakrefoffset__" }

/-- The type of nothing. -/
def null : ValueType :=
  { name := "NoneType"
    above := ["object"]
    signs := words <|
      "__bool__ __repr__"
    functions := words <|
      "__new__" }

/-- Truth values. -/
def bool : ValueType :=
  { name := "bool"
    above := ["int", "object"]
    doc := some <|
      "bool(x) -> bool\n" ++
      "\n" ++
      "Returns True when the argument x is true, False otherwise.\n" ++
      "The builtins True and False are the only two instances of the class bool.\n" ++
      "The class bool is a subclass of the class int, and cannot be subclassed."
    signs := words <|
      "__and__ __or__ __rand__ __repr__ __ror__ __rxor__ __xor__"
    functions := words <|
      "__new__" }

/-- Whole numbers. -/
def int : ValueType :=
  { name := "int"
    above := ["object"]
    doc := some <|
      "int([x]) -> integer\n" ++
      "int(x, base=10) -> integer\n" ++
      "\n" ++
      "Convert a number or string to an integer, or return 0 if no arguments\n" ++
      "are given.  If x is a number, return x.__int__().  For floating point\n" ++
      "numbers, this truncates towards zero.\n" ++
      "\n" ++
      "If x is not a number or if base is given, then x must be a string,\n" ++
      "bytes, or bytearray instance representing an integer literal in the\n" ++
      "given base.  The literal can be preceded by '+' or '-' and be surrounded\n" ++
      "by whitespace.  The base defaults to 10.  Valid bases are 0 and 2-36.\n" ++
      "Base 0 means to interpret the base from the string as an integer literal.\n" ++
      ">>> int('0b100', base=0)\n" ++
      "4"
    signs := words <|
      "__abs__ __add__ __and__ __bool__ __divmod__ __eq__ __float__ __floordiv__ __ge__ " ++
      "__getattribute__ __gt__ __hash__ __index__ __int__ __invert__ __le__ __lshift__ " ++
      "__lt__ __mod__ __mul__ __ne__ __neg__ __or__ __pos__ __pow__ __radd__ __rand__ " ++
      "__rdivmod__ __repr__ __rfloordiv__ __rlshift__ __rmod__ __rmul__ __ror__ __rpow__ " ++
      "__rrshift__ __rshift__ __rsub__ __rtruediv__ __rxor__ __sub__ __truediv__ __xor__"
    operations := words <|
      "__ceil__ __floor__ __format__ __getnewargs__ __round__ __sizeof__ __trunc__ " ++
      "as_integer_ratio bit_count bit_length conjugate to_bytes"
    ofType := words <|
      "from_bytes"
    functions := words <|
      "__new__"
    features := words <|
      "denominator imag numerator real" }

/-- Doubles. -/
def float : ValueType :=
  { name := "float"
    above := ["object"]
    doc := some <|
      "Convert a string or number to a floating point number, if possible."
    signs := words <|
      "__abs__ __add__ __bool__ __divmod__ __eq__ __float__ __floordiv__ __ge__ " ++
      "__getattribute__ __gt__ __hash__ __int__ __le__ __lt__ __mod__ __mul__ __ne__ " ++
      "__neg__ __pos__ __pow__ __radd__ __rdivmod__ __repr__ __rfloordiv__ __rmod__ " ++
      "__rmul__ __rpow__ __rsub__ __rtruediv__ __sub__ __truediv__"
    operations := words <|
      "__ceil__ __floor__ __format__ __getnewargs__ __round__ __trunc__ as_integer_ratio " ++
      "conjugate hex is_integer"
    ofType := words <|
      "__getformat__ fromhex"
    functions := words <|
      "__new__"
    features := words <|
      "imag real" }

/-- Texts. -/
def text : ValueType :=
  { name := "str"
    above := ["object"]
    doc := some <|
      "str(object='') -> str\n" ++
      "str(bytes_or_buffer[, encoding[, errors]]) -> str\n" ++
      "\n" ++
      "Create a new string object from the given object. If encoding or\n" ++
      "errors is specified, then the object must expose a data buffer\n" ++
      "that will be decoded using the given encoding and error handler.\n" ++
      "Otherwise, returns the result of object.__str__() (if defined)\n" ++
      "or repr(object).\n" ++
      "encoding defaults to sys.getdefaultencoding().\n" ++
      "errors defaults to 'strict'."
    signs := words <|
      "__add__ __contains__ __eq__ __ge__ __getattribute__ __getitem__ __gt__ __hash__ " ++
      "__iter__ __le__ __len__ __lt__ __mod__ __mul__ __ne__ __repr__ __rmod__ __rmul__ " ++
      "__str__"
    operations := words <|
      "__format__ __getnewargs__ __sizeof__ capitalize casefold center count encode " ++
      "endswith expandtabs find format format_map index isalnum isalpha isascii isdecimal " ++
      "isdigit isidentifier islower isnumeric isprintable isspace istitle isupper join " ++
      "ljust lower lstrip partition removeprefix removesuffix replace rfind rindex rjust " ++
      "rpartition rsplit rstrip split splitlines startswith strip swapcase title translate " ++
      "upper zfill"
    functions := words <|
      "__new__ maketrans" }

/-- Lists. -/
def list : ValueType :=
  { name := "list"
    above := ["object"]
    doc := some <|
      "Built-in mutable sequence.\n" ++
      "\n" ++
      "If no argument is given, the constructor creates a new empty list.\n" ++
      "The argument must be an iterable if specified."
    signs := words <|
      "__add__ __contains__ __delitem__ __eq__ __ge__ __getattribute__ __gt__ __iadd__ " ++
      "__imul__ __init__ __iter__ __le__ __len__ __lt__ __mul__ __ne__ __repr__ __rmul__ " ++
      "__setitem__"
    operations := words <|
      "__getitem__ __reversed__ __sizeof__ append clear copy count extend index insert pop " ++
      "remove reverse sort"
    ofType := words <|
      "__class_getitem__"
    functions := words <|
      "__new__"
    empty := ["__hash__"] }

/-- Tables. -/
def table : ValueType :=
  { name := "dict"
    above := ["object"]
    doc := some <|
      "dict() -> new empty dictionary\n" ++
      "dict(mapping) -> new dictionary initialized from a mapping object's\n" ++
      "    (key, value) pairs\n" ++
      "dict(iterable) -> new dictionary initialized as if via:\n" ++
      "    d = \x7b\x7d\n" ++
      "    for k, v in iterable:\n" ++
      "        d[k] = v\n" ++
      "dict(**kwargs) -> new dictionary initialized with the name=value pairs\n" ++
      "    in the keyword argument list.  For example:  dict(one=1, two=2)"
    signs := words <|
      "__delitem__ __eq__ __ge__ __getattribute__ __gt__ __init__ __ior__ __iter__ __le__ " ++
      "__len__ __lt__ __ne__ __or__ __repr__ __ror__ __setitem__"
    operations := words <|
      "__contains__ __getitem__ __reversed__ __sizeof__ clear copy get items keys pop " ++
      "popitem setdefault update values"
    ofType := words <|
      "__class_getitem__ fromkeys"
    functions := words <|
      "__new__"
    empty := ["__hash__"] }

/-- Fixed rows of things. -/
def tuple : ValueType :=
  { name := "tuple"
    above := ["object"]
    doc := some <|
      "Built-in immutable sequence.\n" ++
      "\n" ++
      "If no argument is given, the constructor returns an empty tuple.\n" ++
      "If iterable is specified the tuple is initialized from iterable's items.\n" ++
      "\n" ++
      "If the argument is a tuple, the return value is the same object."
    signs := words <|
      "__add__ __contains__ __eq__ __ge__ __getattribute__ __getitem__ __gt__ __hash__ " ++
      "__iter__ __le__ __len__ __lt__ __mul__ __ne__ __repr__ __rmul__"
    operations := words <|
      "__getnewargs__ count index"
    ofType := words <|
      "__class_getitem__"
    functions := words <|
      "__new__" }

/-- Operations that belong to a value. -/
def operation : ValueType :=
  { name := "builtin_function_or_method"
    above := ["object"]
    signs := words <|
      "__call__ __eq__ __ge__ __getattribute__ __gt__ __hash__ __le__ __lt__ __ne__ " ++
      "__repr__"
    operations := words <|
      "__reduce__"
    features := words <|
      "__doc__ __name__ __qualname__ __self__ __text_signature__"
    members := words <|
      "__module__" }

/-- Operations that a sign stands for, such as adding, and that belong to a value. -/
def signOperation : ValueType :=
  { name := "method-wrapper"
    above := ["object"]
    signs := words <|
      "__call__ __eq__ __ge__ __getattribute__ __gt__ __hash__ __le__ __lt__ __ne__ " ++
      "__repr__"
    operations := words <|
      "__reduce__"
    features := words <|
      "__doc__ __name__ __objclass__ __qualname__ __text_signature__"
    members := words <|
      "__self__" }

/-- Operations that belong to no value yet. -/
def looseOperation : ValueType :=
  { name := "method_descriptor"
    above := ["object"]
    signs := words <|
      "__call__ __get__ __getattribute__ __repr__"
    operations := words <|
      "__reduce__"
    features := words <|
      "__doc__ __qualname__ __text_signature__"
    members := words <|
      "__name__ __objclass__" }

/-- Operations that a sign stands for and that belong to no value yet. -/
def looseSign : ValueType :=
  { name := "wrapper_descriptor"
    above := ["object"]
    signs := words <|
      "__call__ __get__ __getattribute__ __repr__"
    operations := words <|
      "__reduce__"
    features := words <|
      "__doc__ __qualname__ __text_signature__"
    members := words <|
      "__name__ __objclass__" }

/-- Features that belong to no value yet. -/
def looseFeature : ValueType :=
  { name := "getset_descriptor"
    above := ["object"]
    signs := words <|
      "__delete__ __get__ __getattribute__ __repr__ __set__"
    features := words <|
      "__doc__ __qualname__"
    members := words <|
      "__name__ __objclass__" }

/-- Features inside a value that belong to no value yet. -/
def looseMember : ValueType :=
  { name := "member_descriptor"
    above := ["object"]
    signs := words <|
      "__delete__ __get__ __getattribute__ __repr__ __set__"
    operations := words <|
      "__reduce__"
    features := words <|
      "__doc__ __qualname__"
    members := words <|
      "__name__ __objclass__" }

/-- Types with a mark of what their items are. -/
def marked : ValueType := { name := "types.GenericAlias", above := ["object"] }

/-- All types. -/
def all : List ValueType :=
  [any, type, null, bool, int, float, text, list, table, tuple, operation, signOperation,
    looseOperation, looseSign, looseFeature, looseMember, marked]

/-- The type of a name. -/
def named (name : String) : ValueType :=
  (all.find? (·.name == name)).getD { name, above := ["object"] }

/-- A type and the types above it, nearest first. -/
def line (t : ValueType) : List ValueType := t :: t.above.map named

/-- Whether a type itself, and not one above it, has something of that name. -/
def has (t : ValueType) (name : String) : Bool :=
  t.signs.contains name || t.operations.contains name || t.ofType.contains name
    || t.functions.contains name || t.features.contains name || t.members.contains name
    || t.empty.contains name

/-- The nearest type that has something of that name. -/
def owner? (t : ValueType) (name : String) : Option ValueType := t.line.find? (·.has name)

end ValueType

end ComputeNodes.Message
