import TypeReach.Classes.Contents

/-!
# What standard classes say that they are

Most standard classes come with a text about themselves, and so do the forms of hints. Some classes
also have a text about what they are called with.
-/

namespace TypeReach.Classes.Standard

/-- The texts of standard classes about themselves. -/
private def documentationRows : List (String × String) :=
  [("ArithmeticError", "Base class for arithmetic errors."),
   ("AssertionError", "Assertion failed."),
   ("AttributeError", "Attribute not found."),
   ("BaseException", "Common base class for all exceptions"),
   ("BaseExceptionGroup", "A combination of multiple unrelated exceptions."),
   ("BlockingIOError", "I/O operation would block."),
   ("BrokenPipeError", "Broken pipe."),
   ("BufferError", "Buffer error."),
   ("BytesWarning",
    "Base class for warnings about bytes and buffer related problems, mostly\nrelated to "
      ++ "conversion from str or comparing to str."),
   ("ChildProcessError", "Child process error."),
   ("ConnectionAbortedError", "Connection aborted."),
   ("ConnectionError", "Connection error."),
   ("ConnectionRefusedError", "Connection refused."),
   ("ConnectionResetError", "Connection reset."),
   ("DeprecationWarning", "Base class for warnings about deprecated features."),
   ("EOFError", "Read beyond end of file."),
   ("EncodingWarning", "Base class for warnings about encodings."),
   ("Exception", "Common base class for all non-exit exceptions."),
   ("FileExistsError", "File already exists."),
   ("FileNotFoundError", "File not found."),
   ("FloatingPointError", "Floating point operation failed."),
   ("FutureWarning",
    "Base class for warnings about constructs that will change semantically\nin the future."),
   ("GeneratorExit", "Request that a generator exit."),
   ("ImportError", "Import can't find module, or can't find name in module."),
   ("ImportWarning", "Base class for warnings about probable mistakes in module imports"),
   ("IndentationError", "Improper indentation."),
   ("IndexError", "Sequence index out of range."),
   ("InterruptedError", "Interrupted by signal."),
   ("IsADirectoryError", "Operation doesn't work on directories."),
   ("KeyError", "Mapping key not found."),
   ("KeyboardInterrupt", "Program interrupted by user."),
   ("LookupError", "Base class for lookup errors."),
   ("MemoryError", "Out of memory."),
   ("ModuleNotFoundError", "Module not found."),
   ("NameError", "Name not found globally."),
   ("NotADirectoryError", "Operation only works on directories."),
   ("NotImplementedError", "Method or function hasn't been implemented yet."),
   ("OSError", "Base class for I/O related errors."),
   ("OverflowError", "Result too large to be represented."),
   ("PendingDeprecationWarning",
    "Base class for warnings about features which will be deprecated\nin the future."),
   ("PermissionError", "Not enough permissions."),
   ("ProcessLookupError", "Process not found."),
   ("RecursionError", "Recursion limit exceeded."),
   ("ReferenceError", "Weak ref proxy used after referent went away."),
   ("ResourceWarning", "Base class for warnings about resource usage."),
   ("RuntimeError", "Unspecified run-time error."),
   ("RuntimeWarning", "Base class for warnings about dubious runtime behavior."),
   ("StopAsyncIteration", "Signal the end from iterator.__anext__()."),
   ("StopIteration", "Signal the end from iterator.__next__()."),
   ("SyntaxError", "Invalid syntax."),
   ("SyntaxWarning", "Base class for warnings about dubious syntax."),
   ("SystemError",
    "Internal error in the Python interpreter.\n\nPlease report this to the Python maintainer, "
      ++ "along with the traceback,\nthe Python version, and the hardware/OS platform and "
      ++ "version."),
   ("SystemExit", "Request to exit from the interpreter."),
   ("TabError", "Improper mixture of spaces and tabs."),
   ("TimeoutError", "Timeout expired."),
   ("TypeError", "Inappropriate argument type."),
   ("UnboundLocalError", "Local name referenced but not bound to a value."),
   ("UnicodeDecodeError", "Unicode decoding error."),
   ("UnicodeEncodeError", "Unicode encoding error."),
   ("UnicodeError", "Unicode related error."),
   ("UnicodeTranslateError", "Unicode translation error."),
   ("UnicodeWarning",
    "Base class for warnings about Unicode related problems, mostly\nrelated to conversion "
      ++ "problems."),
   ("UserWarning", "Base class for warnings generated by user code."),
   ("ValueError", "Inappropriate argument value (of correct type)."),
   ("Warning", "Base class for warning categories."),
   ("ZeroDivisionError", "Second argument to a division or modulo operation was zero."),
   ("bool",
    "bool(x) -> bool\n\nReturns True when the argument x is true, False otherwise.\nThe builtins "
      ++ "True and False are the only two instances of the class bool.\nThe class bool is a "
      ++ "subclass of the class int, and cannot be subclassed."),
   ("bytearray",
    "bytearray(iterable_of_ints) -> bytearray\nbytearray(string, encoding[, errors]) -> "
      ++ "bytearray\nbytearray(bytes_or_buffer) -> mutable copy of bytes_or_buffer\n"
      ++ "bytearray(int) -> bytes array of size given by the parameter initialized with null "
      ++ "bytes\nbytearray() -> empty bytes array\n\nConstruct a mutable bytearray object from:\n"
      ++ "  - an iterable yielding integers in range(256)\n  - a text string encoded using the "
      ++ "specified encoding\n  - a bytes or a buffer object\n  - any object implementing the "
      ++ "buffer API.\n  - an integer"),
   ("bytes",
    "bytes(iterable_of_ints) -> bytes\nbytes(string, encoding[, errors]) -> bytes\n"
      ++ "bytes(bytes_or_buffer) -> immutable copy of bytes_or_buffer\nbytes(int) -> bytes "
      ++ "object of size given by the parameter initialized with null bytes\nbytes() -> empty "
      ++ "bytes object\n\nConstruct an immutable array of bytes from:\n  - an iterable yielding "
      ++ "integers in range(256)\n  - a text string encoded using the specified encoding\n  - "
      ++ "any object implementing the buffer API.\n  - an integer"),
   ("classmethod",
    "classmethod(function) -> method\n\nConvert a function to be a class method.\n\nA class "
      ++ "method receives the class as implicit first argument,\njust like an instance method "
      ++ "receives the instance.\nTo declare a class method, use this idiom:\n\n  class C:\n     "
      ++ " @classmethod\n      def f(cls, arg1, arg2, argN):\n          ...\n\nIt can be called "
      ++ "either on the class (e.g. C.f()) or on an instance\n(e.g. C().f()).  The instance is "
      ++ "ignored except for its class.\nIf a class method is called for a derived class, the "
      ++ "derived class\nobject is passed as the implied first argument.\n\nClass methods are "
      ++ "different than C++ or Java static methods.\nIf you want those, see the staticmethod "
      ++ "builtin."),
   ("code", "Create a code object.  Not for the faint of heart."),
   ("complex",
    "Create a complex number from a real part and an optional imaginary part.\n\nThis is "
      ++ "equivalent to (real + imag*1j) where imag defaults to 0."),
   ("dict",
    "dict() -> new empty dictionary\ndict(mapping) -> new dictionary initialized from a mapping "
      ++ "object's\n    (key, value) pairs\ndict(iterable) -> new dictionary initialized as if "
      ++ "via:\n    d = \x7b\x7d\n    for k, v in iterable:\n        d[k] = v\ndict(**kwargs) -> "
      ++ "new dictionary initialized with the name=value pairs\n    in the keyword argument "
      ++ "list.  For example:  dict(one=1, two=2)"),
   ("enumerate",
    "Return an enumerate object.\n\n  iterable\n    an object supporting iteration\n\nThe "
      ++ "enumerate object yields pairs containing a count (from start, which\ndefaults to zero) "
      ++ "and a value yielded by the iterable argument.\n\nenumerate is useful for obtaining an "
      ++ "indexed list:\n    (0, seq[0]), (1, seq[1]), (2, seq[2]), ..."),
   ("filter",
    "filter(function or None, iterable) --> filter object\n\nReturn an iterator yielding those "
      ++ "items of iterable for which function(item)\nis true. If function is None, return the "
      ++ "items that are true."),
   ("float", "Convert a string or number to a floating point number, if possible."),
   ("frozenset",
    "frozenset() -> empty frozenset object\nfrozenset(iterable) -> frozenset object\n\nBuild an "
      ++ "immutable unordered collection of unique elements."),
   ("function",
    "Create a function object.\n\n  code\n    a code object\n  globals\n    the globals "
      ++ "dictionary\n  name\n    a string that overrides the name from the code object\n  "
      ++ "argdefs\n    a tuple that specifies the default argument values\n  closure\n    a "
      ++ "tuple that supplies the bindings for free variables"),
   ("int",
    "int([x]) -> integer\nint(x, base=10) -> integer\n\nConvert a number or string to an "
      ++ "integer, or return 0 if no arguments\nare given.  If x is a number, return "
      ++ "x.__int__().  For floating point\nnumbers, this truncates towards zero.\n\nIf x is not "
      ++ "a number or if base is given, then x must be a string,\nbytes, or bytearray instance "
      ++ "representing an integer literal in the\ngiven base.  The literal can be preceded by "
      ++ "'+' or '-' and be surrounded\nby whitespace.  The base defaults to 10.  Valid bases "
      ++ "are 0 and 2-36.\nBase 0 means to interpret the base from the string as an integer "
      ++ "literal.\n>>> int('0b100', base=0)\n4"),
   ("list",
    "Built-in mutable sequence.\n\nIf no argument is given, the constructor creates a new empty "
      ++ "list.\nThe argument must be an iterable if specified."),
   ("map",
    "map(func, *iterables) --> map object\n\nMake an iterator that computes the function using "
      ++ "arguments from\neach of the iterables.  Stops when the shortest iterable is exhausted."),
   ("memoryview", "Create a new memoryview object which references the given object."),
   ("method", "Create a bound instance method object."),
   ("module",
    "Create a module object.\n\nThe name must be a string; the optional doc argument can have "
      ++ "any type."),
   ("object",
    "The base class of the class hierarchy.\n\nWhen called, it accepts no arguments and returns "
      ++ "a new featureless\ninstance that has no instance attributes and cannot be given any.\n"),
   ("property",
    "Property attribute.\n\n  fget\n    function to be used for getting an attribute value\n  "
      ++ "fset\n    function to be used for setting an attribute value\n  fdel\n    function to "
      ++ "be used for del'ing an attribute\n  doc\n    docstring\n\nTypical use is to define a "
      ++ "managed attribute x:\n\nclass C(object):\n    def getx(self): return self._x\n    def "
      ++ "setx(self, value): self._x = value\n    def delx(self): del self._x\n    x = "
      ++ "property(getx, setx, delx, \"I'm the 'x' property.\")\n\nDecorators make defining new "
      ++ "properties or modifying existing ones easy:\n\nclass C(object):\n    @property\n    "
      ++ "def x(self):\n        \"I am the 'x' property.\"\n        return self._x\n    "
      ++ "@x.setter\n    def x(self, value):\n        self._x = value\n    @x.deleter\n    def "
      ++ "x(self):\n        del self._x"),
   ("range",
    "range(stop) -> range object\nrange(start, stop[, step]) -> range object\n\nReturn an object "
      ++ "that produces a sequence of integers from start (inclusive)\nto stop (exclusive) by "
      ++ "step.  range(i, j) produces i, i+1, i+2, ..., j-1.\nstart defaults to 0, and stop is "
      ++ "omitted!  range(4) produces 0, 1, 2, 3.\nThese are exactly the valid indices for a "
      ++ "list of 4 elements.\nWhen step is given, it specifies the increment (or decrement)."),
   ("reversed", "Return a reverse iterator over the values of the given sequence."),
   ("set",
    "set() -> new empty set object\nset(iterable) -> new set object\n\nBuild an unordered "
      ++ "collection of unique elements."),
   ("slice",
    "slice(stop)\nslice(start, stop[, step])\n\nCreate a slice object.  This is used for "
      ++ "extended slicing (e.g. a[0:10:2])."),
   ("staticmethod",
    "staticmethod(function) -> method\n\nConvert a function to be a static method.\n\nA static "
      ++ "method does not receive an implicit first argument.\nTo declare a static method, use "
      ++ "this idiom:\n\n     class C:\n         @staticmethod\n         def f(arg1, arg2, "
      ++ "argN):\n             ...\n\nIt can be called either on the class (e.g. C.f()) or on an "
      ++ "instance\n(e.g. C().f()). Both the class and the instance are ignored, and\nneither is "
      ++ "passed implicitly as the first argument to the method.\n\nStatic methods in Python are "
      ++ "similar to those found in Java or C++.\nFor a more advanced concept, see the "
      ++ "classmethod builtin."),
   ("str",
    "str(object='') -> str\nstr(bytes_or_buffer[, encoding[, errors]]) -> str\n\nCreate a new "
      ++ "string object from the given object. If encoding or\nerrors is specified, then the "
      ++ "object must expose a data buffer\nthat will be decoded using the given encoding and "
      ++ "error handler.\nOtherwise, returns the result of object.__str__() (if defined)\nor "
      ++ "repr(object).\nencoding defaults to sys.getdefaultencoding().\nerrors defaults to "
      ++ "'strict'."),
   ("super",
    "super() -> same as super(__class__, <first argument>)\nsuper(type) -> unbound super object\n"
      ++ "super(type, obj) -> bound super object; requires isinstance(obj, type)\nsuper(type, "
      ++ "type2) -> bound super object; requires issubclass(type2, type)\nTypical use to call a "
      ++ "cooperative superclass method:\nclass C(B):\n    def meth(self, arg):\n        "
      ++ "super().meth(arg)\nThis works for class methods too:\nclass C(B):\n    @classmethod\n  "
      ++ "  def cmeth(cls, arg):\n        super().cmeth(arg)\n"),
   ("tuple",
    "Built-in immutable sequence.\n\nIf no argument is given, the constructor returns an empty "
      ++ "tuple.\nIf iterable is specified the tuple is initialized from iterable's items.\n\nIf "
      ++ "the argument is a tuple, the return value is the same object."),
   ("type", "type(object) -> the object's type\ntype(name, bases, dict, **kwds) -> a new type"),
   ("zip",
    "zip(*iterables, strict=False) --> Yield tuples until an input is exhausted.\n\n   >>> "
      ++ "list(zip('abcdefg', range(3), range(4)))\n   [('a', 0, 0), ('b', 1, 1), ('c', 2, 2)]\n"
      ++ "\nThe zip object yields n-length tuples, where n is the number of iterables\npassed as "
      ++ "positional arguments to zip().  The i-th element in every tuple\ncomes from the i-th "
      ++ "iterable argument to zip().  This continues until the\nshortest argument is "
      ++ "exhausted.\n\nIf strict is true and one of the arguments is exhausted before the "
      ++ "others,\nraise a ValueError."),
   ("collections.OrderedDict", "Dictionary that remembers insertion order"),
   ("collections.defaultdict",
    "defaultdict(default_factory=None, /, [...]) --> dict with default factory\n\nThe default "
      ++ "factory is called without arguments to produce\na new value when a key is not present, "
      ++ "in __getitem__ only.\nA defaultdict compares equal to a dict with the same items.\nAll "
      ++ "remaining arguments are treated the same as if they were\npassed to the dict "
      ++ "constructor, including keyword arguments.\n"),
   ("collections.deque",
    "deque([iterable[, maxlen]]) --> deque object\n\nA list-like sequence optimized for data "
      ++ "accesses near its endpoints."),
   ("types.GenericAlias",
    "Represent a PEP 585 generic type\n\nE.g. for t = list[int], t.__origin__ is list and "
      ++ "t.__args__ is (int,)."),
   ("types.UnionType", "Represent a PEP 604 union type\n\nE.g. for int | str"),
   ("collections.ChainMap",
    " A ChainMap groups multiple dicts (or other mappings) together\n    to create a single, "
      ++ "updateable view.\n\n    The underlying mappings are stored in a list.  That list is "
      ++ "public and can\n    be accessed or updated using the *maps* attribute.  There is no "
      ++ "other\n    state.\n\n    Lookups search the underlying mappings successively until a "
      ++ "key is found.\n    In contrast, writes, updates, and deletions only operate on the "
      ++ "first\n    mapping.\n\n    "),
   ("collections.Counter",
    "Dict subclass for counting hashable items.  Sometimes called a bag\n    or multiset.  "
      ++ "Elements are stored as dictionary keys and their counts\n    are stored as dictionary "
      ++ "values.\n\n    >>> c = Counter('abcdeabcdabcaba')  # count elements from a string\n\n  "
      ++ "  >>> c.most_common(3)                # three most common elements\n    [('a', 5), "
      ++ "('b', 4), ('c', 3)]\n    >>> sorted(c)                       # list all unique "
      ++ "elements\n    ['a', 'b', 'c', 'd', 'e']\n    >>> ''.join(sorted(c.elements()))   # "
      ++ "list elements with repetitions\n    'aaaaabbbbcccdde'\n    >>> sum(c.values())         "
      ++ "        # total of all counts\n    15\n\n    >>> c['a']                          # "
      ++ "count of letter 'a'\n    5\n    >>> for elem in 'shazam':           # update counts "
      ++ "from an iterable\n    ...     c[elem] += 1                # by adding 1 to each "
      ++ "element's count\n    >>> c['a']                          # now there are seven 'a'\n   "
      ++ " 7\n    >>> del c['b']                      # remove all 'b'\n    >>> c['b']           "
      ++ "               # now there are zero 'b'\n    0\n\n    >>> d = Counter('simsalabim')    "
      ++ "   # make another counter\n    >>> c.update(d)                     # add in the second "
      ++ "counter\n    >>> c['a']                          # now there are nine 'a'\n    9\n\n   "
      ++ " >>> c.clear()                       # empty the counter\n    >>> c\n    Counter()\n\n "
      ++ "   Note:  If a count is set to zero or reduced to zero, it will remain\n    in the "
      ++ "counter until the entry is deleted or the counter is cleared:\n\n    >>> c = "
      ++ "Counter('aaabbc')\n    >>> c['b'] -= 2                     # reduce the count of 'b' "
      ++ "by two\n    >>> c.most_common()                 # 'b' is still in, but its count is "
      ++ "zero\n    [('a', 3), ('c', 1), ('b', 0)]\n\n    "),
   ("collections.UserList", "A more or less complete user-defined wrapper around list objects."),
   ("collections.abc.Mapping",
    "A Mapping is a generic container for associating key/value\n    pairs.\n\n    This class "
      ++ "provides concrete generic implementations of all\n    methods except for __getitem__, "
      ++ "__iter__, and __len__.\n    "),
   ("collections.abc.MutableMapping",
    "A MutableMapping is a generic container for associating\n    key/value pairs.\n\n    This "
      ++ "class provides concrete generic implementations of all\n    methods except for "
      ++ "__getitem__, __setitem__, __delitem__,\n    __iter__, and __len__.\n    "),
   ("collections.abc.MutableSequence",
    "All the operations on a read-write sequence.\n\n    Concrete subclasses must provide "
      ++ "__new__ or __init__,\n    __getitem__, __setitem__, __delitem__, __len__, and "
      ++ "insert().\n    "),
   ("collections.abc.Sequence",
    "All the operations on a read-only sequence.\n\n    Concrete subclasses must override "
      ++ "__new__ or __init__,\n    __getitem__, and __len__.\n    "),
   ("typing.Any",
    "Special type indicating an unconstrained type.\n\n    - Any is compatible with every type.\n"
      ++ "    - Any assumed to have all methods.\n    - All values assumed to be instances of "
      ++ "Any.\n\n    Note that all the above statements are true from the point of view of\n    "
      ++ "static type checkers. At runtime, Any should not be used with instance\n    checks.\n  "
      ++ "  "),
   ("typing.ForwardRef", "Internal wrapper to hold a forward reference."),
   ("typing.Generic",
    "Abstract base class for generic types.\n\n    A generic type is typically declared by "
      ++ "inheriting from\n    this class parameterized with one or more type variables.\n    "
      ++ "For example, a generic mapping type might be defined as::\n\n      class "
      ++ "Mapping(Generic[KT, VT]):\n          def __getitem__(self, key: KT) -> VT:\n           "
      ++ "   ...\n          # Etc.\n\n    This class can then be used as follows::\n\n      def "
      ++ "lookup_name(mapping: Mapping[KT, VT], key: KT, default: VT) -> VT:\n          try:\n   "
      ++ "           return mapping[key]\n          except KeyError:\n              return "
      ++ "default\n    "),
   ("typing.TypeVar",
    "Type variable.\n\n    Usage::\n\n      T = TypeVar('T')  # Can be anything\n      A = "
      ++ "TypeVar('A', str, bytes)  # Must be str or bytes\n\n    Type variables exist primarily "
      ++ "for the benefit of static type\n    checkers.  They serve as the parameters for "
      ++ "generic types as well\n    as for generic function definitions.  See class Generic for "
      ++ "more\n    information on generic types.  Generic functions work as follows:\n\n      "
      ++ "def repeat(x: T, n: int) -> List[T]:\n          '''Return a list containing n "
      ++ "references to x.'''\n          return [x]*n\n\n      def longest(x: A, y: A) -> A:\n   "
      ++ "       '''Return the longest of two strings.'''\n          return x if len(x) >= "
      ++ "len(y) else y\n\n    The latter example's signature is essentially the overloading\n   "
      ++ " of (str, str) -> str and (bytes, bytes) -> bytes.  Also note\n    that if the "
      ++ "arguments are instances of some subclass of str,\n    the return type is still plain "
      ++ "str.\n\n    At runtime, isinstance(x, T) and issubclass(C, T) will raise TypeError.\n\n"
      ++ "    Type variables defined with covariant=True or contravariant=True\n    can be used "
      ++ "to declare covariant or contravariant generic types.\n    See PEP 484 for more "
      ++ "details. By default generic types are invariant\n    in all type variables.\n\n    "
      ++ "Type variables can be introspected. e.g.:\n\n      T.__name__ == 'T'\n      "
      ++ "T.__constraints__ == ()\n      T.__covariant__ == False\n      T.__contravariant__ = "
      ++ "False\n      A.__constraints__ == (str, bytes)\n\n    Note that only type variables "
      ++ "defined in global scope can be pickled.\n    "),
   ("typing._AnnotatedAlias",
    "Runtime representation of an annotated type.\n\n    At its core 'Annotated[t, dec1, dec2, "
      ++ "...]' is an alias for the type 't'\n    with extra annotations. The alias behaves like "
      ++ "a normal typing alias.\n    Instantiating is the same as instantiating the underlying "
      ++ "type; binding\n    it to types is also the same.\n\n    The metadata itself is stored "
      ++ "in a '__metadata__' attribute as a tuple.\n    "),
   ("typing._BaseGenericAlias",
    "The central part of the internal API.\n\n    This represents a generic version of type "
      ++ "'origin' with type arguments 'params'.\n    There are two kind of these aliases: user "
      ++ "defined and special. The special ones\n    are wrappers around builtin collections and "
      ++ "ABCs in collections.abc. These must\n    have 'name' always set. If 'inst' is False, "
      ++ "then the alias can't be instantiated;\n    this is used by e.g. typing.List and "
      ++ "typing.Dict.\n    "),
   ("typing._BoundVarianceMixin",
    "Mixin giving __init__ bound and variance arguments.\n\n    This is used by TypeVar and "
      ++ "ParamSpec, which both employ the notions of\n    a type 'bound' (restricting type "
      ++ "arguments to be a subtype of some\n    specified type) and type 'variance' "
      ++ "(determining subtype relations between\n    generic types).\n    "),
   ("typing._Final", "Mixin to prohibit subclassing."),
   ("typing._Immutable", "Mixin to indicate that object should not be copied."),
   ("typing._NotIterable",
    "Mixin to prevent iteration, without being compatible with Iterable.\n\n    That is, we "
      ++ "could do::\n\n        def __iter__(self): raise TypeError()\n\n    But this would make "
      ++ "users of this mixin duck type-compatible with\n    collections.abc.Iterable - "
      ++ "isinstance(foo, Iterable) would be True.\n\n    Luckily, we can instead prevent "
      ++ "iteration by setting __iter__ to None, which\n    is treated specially.\n    "),
   ("typing._PickleUsingNameMixin", "Mixin enabling pickling based on self.__name__.")]

/-- The texts of the forms of hints about themselves. -/
private def formRows : List (String × String) :=
  [("ClassVar",
    "Special type construct to mark class variables.\n\n    An annotation wrapped in ClassVar "
      ++ "indicates that a given\n    attribute is intended to be used as a class variable and\n "
      ++ "   should not be set on instances of that class.\n\n    Usage::\n\n        class "
      ++ "Starship:\n            stats: ClassVar[dict[str, int]] = \x7b\x7d # class variable\n   "
      ++ "         damage: int = 10                     # instance variable\n\n    ClassVar "
      ++ "accepts only types and cannot be further subscribed.\n\n    Note that ClassVar is not "
      ++ "a class itself, and should not\n    be used with isinstance() or issubclass().\n    "),
   ("Final",
    "Special typing construct to indicate final names to type checkers.\n\n    A final name "
      ++ "cannot be re-assigned or overridden in a subclass.\n\n    For example::\n\n        "
      ++ "MAX_SIZE: Final = 9000\n        MAX_SIZE += 1  # Error reported by type checker\n\n    "
      ++ "    class Connection:\n            TIMEOUT: Final[int] = 10\n\n        class "
      ++ "FastConnector(Connection):\n            TIMEOUT = 1  # Error reported by type checker\n"
      ++ "\n    There is no runtime checking of these properties.\n    "),
   ("Union",
    "Union type; Union[X, Y] means either X or Y.\n\n    On Python 3.10 and higher, the | "
      ++ "operator\n    can also be used to denote unions;\n    X | Y means the same thing to "
      ++ "the type checker as Union[X, Y].\n\n    To define a union, use e.g. Union[int, str]. "
      ++ "Details:\n    - The arguments must be types and there must be at least one.\n    - "
      ++ "None as an argument is a special case and is replaced by\n      type(None).\n    - "
      ++ "Unions of unions are flattened, e.g.::\n\n        assert Union[Union[int, str], float] "
      ++ "== Union[int, str, float]\n\n    - Unions of a single argument vanish, e.g.::\n\n      "
      ++ "  assert Union[int] == int  # The constructor actually returns int\n\n    - Redundant "
      ++ "arguments are skipped, e.g.::\n\n        assert Union[int, str, int] == Union[int, "
      ++ "str]\n\n    - When comparing unions, the argument order is ignored, e.g.::\n\n        "
      ++ "assert Union[int, str] == Union[str, int]\n\n    - You cannot subclass or instantiate "
      ++ "a union.\n    - You can use Optional[X] as a shorthand for Union[X, None].\n    "),
   ("Literal",
    "Special typing form to define literal types (a.k.a. value types).\n\n    This form can be "
      ++ "used to indicate to type checkers that the corresponding\n    variable or function "
      ++ "parameter has a value equivalent to the provided\n    literal (or one of several "
      ++ "literals)::\n\n        def validate_simple(data: Any) -> Literal[True]:  # always "
      ++ "returns True\n            ...\n\n        MODE = Literal['r', 'rb', 'w', 'wb']\n        "
      ++ "def open_helper(file: str, mode: MODE) -> str:\n            ...\n\n        "
      ++ "open_helper('/some/path', 'r')  # Passes type check\n        "
      ++ "open_helper('/other/path', 'typo')  # Error in type checker\n\n    Literal[...] cannot "
      ++ "be subclassed. At runtime, an arbitrary value\n    is allowed as type argument to "
      ++ "Literal[...], but type checkers may\n    impose restrictions.\n    ")]

/-- The standard classes with a text about what they are called with. -/
private def signatureRows : List (String × String) :=
  [("code",
    "(argcount, posonlyargcount, kwonlyargcount, nlocals, stacksize,\n     flags, codestring, "
      ++ "constants, names, varnames, filename, name,\n     qualname, firstlineno, linetable, "
      ++ "exceptiontable, freevars=(),\n     cellvars=(), /)"),
   ("complex", "(real=0, imag=0)"),
   ("enumerate", "(iterable, start=0)"),
   ("float", "(x=0, /)"),
   ("function", "(code, globals, name=None, argdefs=None, closure=None)"),
   ("list", "(iterable=(), /)"),
   ("memoryview", "(object)"),
   ("method", "(function, instance, /)"),
   ("module", "(name, doc=None)"),
   ("object", "()"),
   ("property", "(fget=None, fset=None, fdel=None, doc=None)"),
   ("reversed", "(sequence, /)"),
   ("tuple", "(iterable=(), /)")]

/-- The text of a standard class about itself, if it has one. -/
def documentation? (module name : String) : Option String :=
  documentationRows.lookup (keyOf module name)

/-- The text of a form about itself. -/
def formDocumentation (f : Form) : String :=
  (formRows.lookup f.name).getD ""

/-- The text of a standard class about what it is called with, if it has one. -/
def signature? (module name : String) : Option String :=
  signatureRows.lookup (keyOf module name)

end TypeReach.Classes.Standard
