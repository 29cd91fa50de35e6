import Conformance.Document.Value

/-!
# Kinds of things in templates

A field of a template can go from a value to its kind and to the members that the kind has. The
tables here list the members of each kind, one table for each sort of member; a kind also has the
members of its ancestors, of which the nearest one counts.
-/

namespace Conformance.Template

inductive Kind where
  | object
  | type
  | null
  | bool
  | int
  | float
  | str
  | list
  | map
  | tuple
  /-- Operations of one thing. -/
  | operation
  | boundSlot
  /-- Methods as members of their kind. -/
  | method
  | slot
  | property
  | field
  | application
  deriving DecidableEq, Repr

namespace Kind

def label : Kind → String
  | object => "object"
  | type => "type"
  | null => "NoneType"
  | bool => "bool"
  | int => "int"
  | float => "float"
  | str => "str"
  | list => "list"
  | map => "dict"
  | tuple => "tuple"
  | operation => "builtin_function_or_method"
  | boundSlot => "method-wrapper"
  | method => "method_descriptor"
  | slot => "wrapper_descriptor"
  | property => "getset_descriptor"
  | field => "member_descriptor"
  | application => "types.GenericAlias"

def home : Kind → String
  | application => "types"
  | _ => "builtins"

def name : Kind → String
  | application => "GenericAlias"
  | k => k.label

/-- A kind and its ancestors, the nearest first. -/
def lineage : Kind → List Kind
  | object => [object]
  | bool => [bool, int, object]
  | k => [k, object]

/-- The kind of a value; those that no message is filled with count as plain objects. -/
def ofValue : Value → Kind
  | .null => null
  | .bool _ => bool
  | .int _ => int
  | .float _ => float
  | .nan _ => float
  | .str _ => str
  | .list _ => list
  | .tuple _ => tuple
  | .map _ => map
  | .knot _ v => ofValue v
  | _ => object

def isGeneric : Kind → Bool
  | type => true
  | list => true
  | map => true
  | tuple => true
  | _ => false

def methods : Kind → String
  | object => "__reduce_ex__ __reduce__ __getstate__ __format__ __sizeof__ __dir__"
  | type => "mro __subclasses__ __instancecheck__ __subclasscheck__ __dir__ __sizeof__"
  | int =>
    "conjugate bit_length bit_count to_bytes as_integer_ratio __trunc__ __floor__ __ceil__ " ++
    "__round__ __getnewargs__ __format__ __sizeof__"
  | float =>
    "conjugate __trunc__ __floor__ __ceil__ __round__ as_integer_ratio hex is_integer " ++
    "__getnewargs__ __format__"
  | str =>
    "encode replace split rsplit join capitalize casefold title center count expandtabs find " ++
    "partition index ljust lower lstrip rfind rindex rjust rstrip rpartition splitlines strip " ++
    "swapcase translate upper startswith endswith removeprefix removesuffix isascii islower " ++
    "isupper istitle isspace isdecimal isdigit isnumeric isalpha isalnum isidentifier " ++
    "isprintable zfill format format_map __format__ __sizeof__ __getnewargs__"
  | list =>
    "__getitem__ __reversed__ __sizeof__ clear copy append insert extend pop remove index count " ++
    "reverse sort"
  | map =>
    "__getitem__ __contains__ __sizeof__ get setdefault pop popitem keys items values update " ++
    "clear copy __reversed__"
  | tuple => "__getnewargs__ index count"
  | _ => ""

/-- The operations of a kind that signs and built-in functions stand for. -/
def slots : Kind → String
  | object =>
    "__repr__ __hash__ __str__ __getattribute__ __setattr__ __delattr__ __lt__ __le__ __eq__ " ++
    "__ne__ __gt__ __ge__ __init__"
  | type => "__repr__ __call__ __getattribute__ __setattr__ __delattr__ __init__ __or__ __ror__"
  | null => "__repr__ __bool__"
  | bool => "__repr__ __and__ __rand__ __xor__ __rxor__ __or__ __ror__"
  | int =>
    "__repr__ __hash__ __getattribute__ __lt__ __le__ __eq__ __ne__ __gt__ __ge__ __add__ " ++
    "__radd__ __sub__ __rsub__ __mul__ __rmul__ __mod__ __rmod__ __divmod__ __rdivmod__ __pow__ " ++
    "__rpow__ __neg__ __pos__ __abs__ __bool__ __invert__ __lshift__ __rlshift__ __rshift__ " ++
    "__rrshift__ __and__ __rand__ __xor__ __rxor__ __or__ __ror__ __int__ __float__ " ++
    "__floordiv__ __rfloordiv__ __truediv__ __rtruediv__ __index__"
  | float =>
    "__repr__ __hash__ __getattribute__ __lt__ __le__ __eq__ __ne__ __gt__ __ge__ __add__ " ++
    "__radd__ __sub__ __rsub__ __mul__ __rmul__ __mod__ __rmod__ __divmod__ __rdivmod__ __pow__ " ++
    "__rpow__ __neg__ __pos__ __abs__ __bool__ __int__ __float__ __floordiv__ __rfloordiv__ " ++
    "__truediv__ __rtruediv__"
  | str =>
    "__repr__ __hash__ __str__ __getattribute__ __lt__ __le__ __eq__ __ne__ __gt__ __ge__ " ++
    "__iter__ __mod__ __rmod__ __len__ __getitem__ __add__ __mul__ __rmul__ __contains__"
  | list =>
    "__repr__ __getattribute__ __lt__ __le__ __eq__ __ne__ __gt__ __ge__ __iter__ __init__ " ++
    "__len__ __setitem__ __delitem__ __add__ __mul__ __rmul__ __contains__ __iadd__ __imul__"
  | map =>
    "__repr__ __getattribute__ __lt__ __le__ __eq__ __ne__ __gt__ __ge__ __iter__ __init__ " ++
    "__or__ __ror__ __ior__ __len__ __setitem__ __delitem__"
  | tuple =>
    "__repr__ __hash__ __getattribute__ __lt__ __le__ __eq__ __ne__ __gt__ __ge__ __iter__ " ++
    "__len__ __getitem__ __add__ __mul__ __rmul__ __contains__"
  | operation => "__call__"
  | boundSlot => "__call__"
  | method => "__call__"
  | slot => "__call__"
  | _ => ""

/-- The parts of a thing of a kind that are worked out when they are asked for. -/
def properties : Kind → String
  | object => "__class__"
  | type =>
    "__name__ __qualname__ __bases__ __module__ __abstractmethods__ __dict__ __text_signature__ " ++
    "__annotations__"
  | int => "real imag numerator denominator"
  | float => "real imag"
  | _ => ""

def fields : Kind → String
  | type =>
    "__basicsize__ __itemsize__ __flags__ __weakrefoffset__ __base__ __dictoffset__ __mro__"
  | _ => ""

def shared : Kind → String
  | object => "__new__ __subclasshook__ __init_subclass__"
  | type => "__new__ __prepare__"
  | null => "__new__"
  | bool => "__new__"
  | int => "__new__ from_bytes"
  | float => "__new__ fromhex __getformat__"
  | str => "__new__ maketrans"
  | list => "__new__ __class_getitem__"
  | map => "__new__ fromkeys __class_getitem__"
  | tuple => "__new__ __class_getitem__"
  | _ => ""

/-- The operations that a kind has taken away. -/
def voids : Kind → String
  | list => "__hash__"
  | map => "__hash__"
  | _ => ""

def account? : Kind → Option String
  | object =>
    some (
      "The base class of the class hierarchy.\n\n" ++
      "When called, it accepts no arguments and returns a new featureless\n" ++
      "instance that has no instance attributes and cannot be given any.\n")
  | type =>
    some (
      "type(object) -> the object's type\n" ++
      "type(name, bases, dict, **kwds) -> a new type")
  | bool =>
    some (
      "bool(x) -> bool\n\n" ++
      "Returns True when the argument x is true, False otherwise.\n" ++
      "The builtins True and False are the only two instances of the class bool.\n" ++
      "The class bool is a subclass of the class int, and cannot be subclassed.")
  | int =>
    some (
      "int([x]) -> integer\n" ++
      "int(x, base=10) -> integer\n\n" ++
      "Convert a number or string to an integer, or return 0 if no arguments\n" ++
      "are given.  If x is a number, return x.__int__().  For floating point\n" ++
      "numbers, this truncates towards zero.\n\n" ++
      "If x is not a number or if base is given, then x must be a string,\n" ++
      "bytes, or bytearray instance representing an integer literal in the\n" ++
      "given base.  The literal can be preceded by '+' or '-' and be surrounded\n" ++
      "by whitespace.  The base defaults to 10.  Valid bases are 0 and 2-36.\n" ++
      "Base 0 means to interpret the base from the string as an integer literal.\n" ++
      ">>> int('0b100', base=0)\n" ++
      "4")
  | float =>
    some "Convert a string or number to a floating point number, if possible."
  | str =>
    some (
      "str(object='') -> str\n" ++
      "str(bytes_or_buffer[, encoding[, errors]]) -> str\n\n" ++
      "Create a new string object from the given object. If encoding or\n" ++
      "errors is specified, then the object must expose a data buffer\n" ++
      "that will be decoded using the given encoding and error handler.\n" ++
      "Otherwise, returns the result of object.__str__() (if defined)\n" ++
      "or repr(object).\n" ++
      "encoding defaults to sys.getdefaultencoding().\n" ++
      "errors defaults to 'strict'.")
  | list =>
    some (
      "Built-in mutable sequence.\n\n" ++
      "If no argument is given, the constructor creates a new empty list.\n" ++
      "The argument must be an iterable if specified.")
  | map =>
    some (
      "dict() -> new empty dictionary\n" ++
      "dict(mapping) -> new dictionary initialized from a mapping object's\n" ++
      "\x20   (key, value) pairs\n" ++
      "dict(iterable) -> new dictionary initialized as if via:\n" ++
      "\x20   d = \x7b\x7d\n" ++
      "\x20   for k, v in iterable:\n" ++
      "\x20       d[k] = v\n" ++
      "dict(**kwargs) -> new dictionary initialized with the name=value pairs\n" ++
      "\x20   in the keyword argument list.  For example:  dict(one=1, two=2)")
  | tuple =>
    some (
      "Built-in immutable sequence.\n\n" ++
      "If no argument is given, the constructor returns an empty tuple.\n" ++
      "If iterable is specified the tuple is initialized from iterable's items.\n\n" ++
      "If the argument is a tuple, the return value is the same object.")
  | _ => none

end Kind

inductive Member where
  | method
  | slot
  | property
  | field
  | shared
  | void
  deriving DecidableEq, Repr

def memberTables : List (Member × (Kind → String)) :=
  [(.method, Kind.methods), (.slot, Kind.slots), (.property, Kind.properties),
   (.field, Kind.fields), (.shared, Kind.shared), (.void, Kind.voids)]

def Kind.ownMember? (k : Kind) (name : String) : Option Member :=
  memberTables.findSome? fun (sort, table) =>
    if ((table k).splitOn " ").contains name then some sort else none

def Kind.member? (k : Kind) (name : String) : Option (Kind × Member) :=
  k.lineage.findSome? fun owner => (owner.ownMember? name).map (owner, ·)

end Conformance.Template
