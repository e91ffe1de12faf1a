import TypeReach.Classes.Object
import TypeReach.Classes.Order
import TypeReach.Text.Cut

/-!
# What standard classes hold

Each built-in class has bases, and names with something under them. The names stand in the order in
which the class holds them.
-/

namespace TypeReach.Classes

/-- What stands under a name in a standard class. -/
inductive Held where
  /-- A function of the objects of the class. -/
  | method
  /-- A function behind an operator or another construct. -/
  | operation
  /-- A value that is computed when it is read. -/
  | computed
  /-- A value that an object has a place for. -/
  | stored
  /-- A function of the class. -/
  | classMethod
  /-- A function that gets no object. -/
  | static
  /-- A function that can also be called by itself. -/
  | function
  /-- A function that the class has as a method. -/
  | bound
  /-- A value that a function computes when it is read. -/
  | property
  /-- Nothing at all, which hides what ancestors have. -/
  | nothing
  deriving DecidableEq, Repr, Inhabited

namespace Standard

/-- The sign of what stands under a name. -/
private def heldOf : Char → Held
  | '.' => .method
  | '=' => .operation
  | '@' => .computed
  | '#' => .stored
  | '%' => .classMethod
  | '!' => .static
  | ':' => .function
  | '$' => .bound
  | '^' => .property
  | _ => .nothing

/-- The standard classes with their bases and the names in them. A name has a sign in front. -/
private def rows : List (String × String × String) :=
  [("ArithmeticError", "Exception",
    "!__new__ =__init__"),
   ("AssertionError", "Exception",
    "!__new__ =__init__"),
   ("AttributeError", "Exception",
    "=__str__ =__init__ #name #obj"),
   ("BaseException", "object",
    "!__new__ =__repr__ =__str__ =__getattribute__ =__setattr__ =__delattr__ =__init__ "
      ++ ".__reduce__ .__setstate__ .with_traceback .add_note #__suppress_context__ @__dict__ "
      ++ "@args @__traceback__ @__context__ @__cause__"),
   ("BaseExceptionGroup", "BaseException",
    "!__new__ =__str__ =__init__ %__class_getitem__ .derive .split .subgroup #message "
      ++ "#exceptions"),
   ("BlockingIOError", "OSError",
    "=__init__"),
   ("BrokenPipeError", "ConnectionError",
    "=__init__"),
   ("BufferError", "Exception",
    "!__new__ =__init__"),
   ("BytesWarning", "Warning",
    "!__new__ =__init__"),
   ("ChildProcessError", "OSError",
    "=__init__"),
   ("ConnectionAbortedError", "ConnectionError",
    "=__init__"),
   ("ConnectionError", "OSError",
    "=__init__"),
   ("ConnectionRefusedError", "ConnectionError",
    "=__init__"),
   ("ConnectionResetError", "ConnectionError",
    "=__init__"),
   ("DeprecationWarning", "Warning",
    "!__new__ =__init__"),
   ("EOFError", "Exception",
    "!__new__ =__init__"),
   ("EncodingWarning", "Warning",
    "!__new__ =__init__"),
   ("Exception", "BaseException",
    "!__new__ =__init__"),
   ("ExceptionGroup", "BaseExceptionGroup Exception",
    "@__weakref__"),
   ("FileExistsError", "OSError",
    "=__init__"),
   ("FileNotFoundError", "OSError",
    "=__init__"),
   ("FloatingPointError", "ArithmeticError",
    "!__new__ =__init__"),
   ("FutureWarning", "Warning",
    "!__new__ =__init__"),
   ("GeneratorExit", "BaseException",
    "!__new__ =__init__"),
   ("ImportError", "Exception",
    "=__str__ =__init__ .__reduce__ #msg #name #path"),
   ("ImportWarning", "Warning",
    "!__new__ =__init__"),
   ("IndentationError", "SyntaxError",
    "=__init__"),
   ("IndexError", "LookupError",
    "!__new__ =__init__"),
   ("InterruptedError", "OSError",
    "=__init__"),
   ("IsADirectoryError", "OSError",
    "=__init__"),
   ("KeyError", "LookupError",
    "=__str__ =__init__"),
   ("KeyboardInterrupt", "BaseException",
    "!__new__ =__init__"),
   ("LookupError", "Exception",
    "!__new__ =__init__"),
   ("MemoryError", "Exception",
    "!__new__ =__init__"),
   ("ModuleNotFoundError", "ImportError",
    "=__init__"),
   ("NameError", "Exception",
    "=__str__ =__init__ #name"),
   ("NoneType", "object",
    "!__new__ =__repr__ =__bool__"),
   ("NotADirectoryError", "OSError",
    "=__init__"),
   ("NotImplementedError", "RuntimeError",
    "!__new__ =__init__"),
   ("NotImplementedType", "object",
    "!__new__ =__repr__ =__bool__ .__reduce__"),
   ("OSError", "Exception",
    "!__new__ =__str__ =__init__ .__reduce__ #errno #strerror #filename #filename2 "
      ++ "@characters_written"),
   ("OverflowError", "ArithmeticError",
    "!__new__ =__init__"),
   ("PendingDeprecationWarning", "Warning",
    "!__new__ =__init__"),
   ("PermissionError", "OSError",
    "=__init__"),
   ("ProcessLookupError", "OSError",
    "=__init__"),
   ("RecursionError", "RuntimeError",
    "!__new__ =__init__"),
   ("ReferenceError", "Exception",
    "!__new__ =__init__"),
   ("ResourceWarning", "Warning",
    "!__new__ =__init__"),
   ("RuntimeError", "Exception",
    "!__new__ =__init__"),
   ("RuntimeWarning", "Warning",
    "!__new__ =__init__"),
   ("StopAsyncIteration", "Exception",
    "!__new__ =__init__"),
   ("StopIteration", "Exception",
    "=__init__ #value"),
   ("SyntaxError", "Exception",
    "=__str__ =__init__ #msg #filename #lineno #offset #text #end_lineno #end_offset "
      ++ "#print_file_and_line"),
   ("SyntaxWarning", "Warning",
    "!__new__ =__init__"),
   ("SystemError", "Exception",
    "!__new__ =__init__"),
   ("SystemExit", "BaseException",
    "=__init__ #code"),
   ("TabError", "IndentationError",
    "=__init__"),
   ("TimeoutError", "OSError",
    "=__init__"),
   ("TypeError", "Exception",
    "!__new__ =__init__"),
   ("UnboundLocalError", "NameError",
    "=__init__"),
   ("UnicodeDecodeError", "UnicodeError",
    "!__new__ =__str__ =__init__ #encoding #object #start #end #reason"),
   ("UnicodeEncodeError", "UnicodeError",
    "!__new__ =__str__ =__init__ #encoding #object #start #end #reason"),
   ("UnicodeError", "ValueError",
    "!__new__ =__init__"),
   ("UnicodeTranslateError", "UnicodeError",
    "!__new__ =__str__ =__init__ #encoding #object #start #end #reason"),
   ("UnicodeWarning", "Warning",
    "!__new__ =__init__"),
   ("UserWarning", "Warning",
    "!__new__ =__init__"),
   ("ValueError", "Exception",
    "!__new__ =__init__"),
   ("Warning", "Exception",
    "!__new__ =__init__"),
   ("ZeroDivisionError", "ArithmeticError",
    "!__new__ =__init__"),
   ("bool", "int",
    "!__new__ =__repr__ =__and__ =__rand__ =__xor__ =__rxor__ =__or__ =__ror__"),
   ("builtin_function_or_method", "object",
    "=__repr__ =__hash__ =__call__ =__getattribute__ =__lt__ =__le__ =__eq__ =__ne__ "
      ++ "=__gt__ =__ge__ .__reduce__ @__doc__ @__name__ @__qualname__ @__self__ "
      ++ "@__text_signature__"),
   ("bytearray", "object",
    "!__new__ =__repr__ =__str__ =__getattribute__ =__lt__ =__le__ =__eq__ =__ne__ =__gt__ "
      ++ "=__ge__ =__iter__ =__init__ =__mod__ =__rmod__ =__len__ =__getitem__ =__setitem__ "
      ++ "=__delitem__ =__add__ =__mul__ =__rmul__ =__contains__ =__iadd__ =__imul__ .__alloc__ "
      ++ ".__reduce__ .__reduce_ex__ .__sizeof__ .append .capitalize .center .clear .copy .count "
      ++ ".decode .endswith .expandtabs .extend .find %fromhex .hex .index .insert .isalnum "
      ++ ".isalpha .isascii .isdigit .islower .isspace .istitle .isupper .join .ljust .lower "
      ++ ".lstrip !maketrans .partition .pop .remove .replace .removeprefix .removesuffix "
      ++ ".reverse .rfind .rindex .rjust .rpartition .rsplit .rstrip .split .splitlines "
      ++ ".startswith .strip .swapcase .title .translate .upper .zfill -__hash__"),
   ("bytes", "object",
    "!__new__ =__repr__ =__hash__ =__str__ =__getattribute__ =__lt__ =__le__ =__eq__ "
      ++ "=__ne__ =__gt__ =__ge__ =__iter__ =__mod__ =__rmod__ =__len__ =__getitem__ =__add__ "
      ++ "=__mul__ =__rmul__ =__contains__ .__getnewargs__ .__bytes__ .capitalize .center .count "
      ++ ".decode .endswith .expandtabs .find %fromhex .hex .index .isalnum .isalpha .isascii "
      ++ ".isdigit .islower .isspace .istitle .isupper .join .ljust .lower .lstrip !maketrans "
      ++ ".partition .replace .removeprefix .removesuffix .rfind .rindex .rjust .rpartition "
      ++ ".rsplit .rstrip .split .splitlines .startswith .strip .swapcase .title .translate "
      ++ ".upper .zfill"),
   ("classmethod", "object",
    "!__new__ =__repr__ =__get__ =__init__ #__func__ #__wrapped__ @__isabstractmethod__ "
      ++ "@__dict__"),
   ("classmethod_descriptor", "object",
    "=__repr__ =__call__ =__getattribute__ =__get__ #__objclass__ #__name__ @__doc__ "
      ++ "@__qualname__ @__text_signature__"),
   ("code", "object",
    "!__new__ =__repr__ =__hash__ =__getattribute__ =__lt__ =__le__ =__eq__ =__ne__ =__gt__ "
      ++ "=__ge__ .__sizeof__ .co_lines .co_positions .replace ._varname_from_oparg #co_argcount "
      ++ "#co_posonlyargcount #co_kwonlyargcount #co_stacksize #co_flags #co_nlocals #co_consts "
      ++ "#co_names #co_filename #co_name #co_qualname #co_firstlineno #co_linetable "
      ++ "#co_exceptiontable @co_lnotab @_co_code_adaptive @co_varnames @co_cellvars "
      ++ "@co_freevars @co_code"),
   ("complex", "object",
    "!__new__ =__repr__ =__hash__ =__getattribute__ =__lt__ =__le__ =__eq__ =__ne__ =__gt__ "
      ++ "=__ge__ =__add__ =__radd__ =__sub__ =__rsub__ =__mul__ =__rmul__ =__pow__ =__rpow__ "
      ++ "=__neg__ =__pos__ =__abs__ =__bool__ =__truediv__ =__rtruediv__ .conjugate "
      ++ ".__complex__ .__getnewargs__ .__format__ #real #imag"),
   ("dict", "object",
    "!__new__ =__repr__ -__hash__ =__getattribute__ =__lt__ =__le__ =__eq__ =__ne__ =__gt__ "
      ++ "=__ge__ =__iter__ =__init__ =__or__ =__ror__ =__ior__ =__len__ .__getitem__ "
      ++ "=__setitem__ =__delitem__ .__contains__ .__sizeof__ .get .setdefault .pop .popitem "
      ++ ".keys .items .values .update %fromkeys .clear .copy .__reversed__ %__class_getitem__"),
   ("ellipsis", "object",
    "!__new__ =__repr__ =__getattribute__ .__reduce__"),
   ("enumerate", "object",
    "!__new__ =__getattribute__ =__iter__ =__next__ .__reduce__ %__class_getitem__"),
   ("filter", "object",
    "!__new__ =__getattribute__ =__iter__ =__next__ .__reduce__"),
   ("float", "object",
    "!__new__ =__repr__ =__hash__ =__getattribute__ =__lt__ =__le__ =__eq__ =__ne__ =__gt__ "
      ++ "=__ge__ =__add__ =__radd__ =__sub__ =__rsub__ =__mul__ =__rmul__ =__mod__ =__rmod__ "
      ++ "=__divmod__ =__rdivmod__ =__pow__ =__rpow__ =__neg__ =__pos__ =__abs__ =__bool__ "
      ++ "=__int__ =__float__ =__floordiv__ =__rfloordiv__ =__truediv__ =__rtruediv__ .conjugate "
      ++ ".__trunc__ .__floor__ .__ceil__ .__round__ .as_integer_ratio %fromhex .hex .is_integer "
      ++ ".__getnewargs__ %__getformat__ .__format__ @real @imag"),
   ("frozenset", "object",
    "!__new__ =__repr__ =__hash__ =__getattribute__ =__lt__ =__le__ =__eq__ =__ne__ =__gt__ "
      ++ "=__ge__ =__iter__ =__sub__ =__rsub__ =__and__ =__rand__ =__xor__ =__rxor__ =__or__ "
      ++ "=__ror__ =__len__ .__contains__ .copy .difference .intersection .isdisjoint .issubset "
      ++ ".issuperset .__reduce__ .__sizeof__ .symmetric_difference .union %__class_getitem__"),
   ("function", "object",
    "!__new__ =__repr__ =__call__ =__get__ #__closure__ #__doc__ #__globals__ #__builtins__ "
      ++ "@__code__ @__defaults__ @__kwdefaults__ @__annotations__ @__dict__ @__name__ "
      ++ "@__qualname__"),
   ("generator", "object",
    "=__repr__ =__getattribute__ =__iter__ =__next__ =__del__ .send .throw .close "
      ++ ".__sizeof__ #gi_code @__name__ @__qualname__ @gi_yieldfrom @gi_running @gi_frame "
      ++ "@gi_suspended"),
   ("getset_descriptor", "object",
    "=__repr__ =__getattribute__ =__get__ =__set__ =__delete__ #__objclass__ #__name__ "
      ++ "@__doc__ @__qualname__"),
   ("int", "object",
    "!__new__ =__repr__ =__hash__ =__getattribute__ =__lt__ =__le__ =__eq__ =__ne__ =__gt__ "
      ++ "=__ge__ =__add__ =__radd__ =__sub__ =__rsub__ =__mul__ =__rmul__ =__mod__ =__rmod__ "
      ++ "=__divmod__ =__rdivmod__ =__pow__ =__rpow__ =__neg__ =__pos__ =__abs__ =__bool__ "
      ++ "=__invert__ =__lshift__ =__rlshift__ =__rshift__ =__rrshift__ =__and__ =__rand__ "
      ++ "=__xor__ =__rxor__ =__or__ =__ror__ =__int__ =__float__ =__floordiv__ =__rfloordiv__ "
      ++ "=__truediv__ =__rtruediv__ =__index__ .conjugate .bit_length .bit_count .to_bytes "
      ++ "%from_bytes .as_integer_ratio .__trunc__ .__floor__ .__ceil__ .__round__ "
      ++ ".__getnewargs__ .__format__ .__sizeof__ @real @imag @numerator @denominator"),
   ("list", "object",
    "!__new__ =__repr__ -__hash__ =__getattribute__ =__lt__ =__le__ =__eq__ =__ne__ =__gt__ "
      ++ "=__ge__ =__iter__ =__init__ =__len__ .__getitem__ =__setitem__ =__delitem__ =__add__ "
      ++ "=__mul__ =__rmul__ =__contains__ =__iadd__ =__imul__ .__reversed__ .__sizeof__ .clear "
      ++ ".copy .append .insert .extend .pop .remove .index .count .reverse .sort "
      ++ "%__class_getitem__"),
   ("map", "object",
    "!__new__ =__getattribute__ =__iter__ =__next__ .__reduce__"),
   ("mappingproxy", "object",
    "!__new__ =__repr__ =__str__ =__getattribute__ =__lt__ =__le__ =__eq__ =__ne__ =__gt__ "
      ++ "=__ge__ =__iter__ =__or__ =__ror__ =__ior__ =__len__ =__getitem__ =__contains__ .get "
      ++ ".keys .values .items .copy %__class_getitem__ .__reversed__ -__hash__"),
   ("member_descriptor", "object",
    "=__repr__ =__getattribute__ =__get__ =__set__ =__delete__ .__reduce__ #__objclass__ "
      ++ "#__name__ @__doc__ @__qualname__"),
   ("memoryview", "object",
    "!__new__ =__repr__ =__hash__ =__getattribute__ =__lt__ =__le__ =__eq__ =__ne__ =__gt__ "
      ++ "=__ge__ =__iter__ =__len__ =__getitem__ =__setitem__ =__delitem__ .release .tobytes "
      ++ ".hex .tolist .cast .toreadonly .__enter__ .__exit__ @obj @nbytes @readonly @itemsize "
      ++ "@format @ndim @shape @strides @suboffsets @c_contiguous @f_contiguous @contiguous"),
   ("method", "object",
    "!__new__ =__repr__ =__hash__ =__call__ =__getattribute__ =__setattr__ =__delattr__ "
      ++ "=__lt__ =__le__ =__eq__ =__ne__ =__gt__ =__ge__ .__reduce__ #__func__ #__self__ "
      ++ "@__doc__"),
   ("method-wrapper", "object",
    "=__repr__ =__hash__ =__call__ =__getattribute__ =__lt__ =__le__ =__eq__ =__ne__ "
      ++ "=__gt__ =__ge__ .__reduce__ #__self__ @__objclass__ @__name__ @__qualname__ @__doc__ "
      ++ "@__text_signature__"),
   ("method_descriptor", "object",
    "=__repr__ =__call__ =__getattribute__ =__get__ .__reduce__ #__objclass__ #__name__ "
      ++ "@__doc__ @__qualname__ @__text_signature__"),
   ("module", "object",
    "!__new__ =__repr__ =__getattribute__ =__setattr__ =__delattr__ =__init__ .__dir__ "
      ++ "#__dict__ @__annotations__"),
   ("object", "",
    "!__new__ =__repr__ =__hash__ =__str__ =__getattribute__ =__setattr__ =__delattr__ "
      ++ "=__lt__ =__le__ =__eq__ =__ne__ =__gt__ =__ge__ =__init__ .__reduce_ex__ .__reduce__ "
      ++ ".__getstate__ %__subclasshook__ %__init_subclass__ .__format__ .__sizeof__ .__dir__ "
      ++ "@__class__"),
   ("property", "object",
    "!__new__ =__getattribute__ =__get__ =__set__ =__delete__ =__init__ .getter .setter "
      ++ ".deleter .__set_name__ #fget #fset #fdel #__doc__ @__isabstractmethod__"),
   ("range", "object",
    "!__new__ =__repr__ =__hash__ =__getattribute__ =__lt__ =__le__ =__eq__ =__ne__ =__gt__ "
      ++ "=__ge__ =__iter__ =__bool__ =__len__ =__getitem__ =__contains__ .__reversed__ "
      ++ ".__reduce__ .count .index #start #stop #step"),
   ("reversed", "object",
    "!__new__ =__getattribute__ =__iter__ =__next__ .__length_hint__ .__reduce__ .__setstate__"),
   ("set", "object",
    "!__new__ =__repr__ -__hash__ =__getattribute__ =__lt__ =__le__ =__eq__ =__ne__ =__gt__ "
      ++ "=__ge__ =__iter__ =__init__ =__sub__ =__rsub__ =__and__ =__rand__ =__xor__ =__rxor__ "
      ++ "=__or__ =__ror__ =__isub__ =__iand__ =__ixor__ =__ior__ =__len__ .__contains__ .add "
      ++ ".clear .copy .discard .difference .difference_update .intersection "
      ++ ".intersection_update .isdisjoint .issubset .issuperset .pop .__reduce__ .remove "
      ++ ".__sizeof__ .symmetric_difference .symmetric_difference_update .union .update "
      ++ "%__class_getitem__"),
   ("slice", "object",
    "!__new__ =__repr__ -__hash__ =__getattribute__ =__lt__ =__le__ =__eq__ =__ne__ =__gt__ "
      ++ "=__ge__ .indices .__reduce__ #start #stop #step"),
   ("staticmethod", "object",
    "!__new__ =__repr__ =__call__ =__get__ =__init__ #__func__ #__wrapped__ "
      ++ "@__isabstractmethod__ @__dict__"),
   ("str", "object",
    "!__new__ =__repr__ =__hash__ =__str__ =__getattribute__ =__lt__ =__le__ =__eq__ "
      ++ "=__ne__ =__gt__ =__ge__ =__iter__ =__mod__ =__rmod__ =__len__ =__getitem__ =__add__ "
      ++ "=__mul__ =__rmul__ =__contains__ .encode .replace .split .rsplit .join .capitalize "
      ++ ".casefold .title .center .count .expandtabs .find .partition .index .ljust .lower "
      ++ ".lstrip .rfind .rindex .rjust .rstrip .rpartition .splitlines .strip .swapcase "
      ++ ".translate .upper .startswith .endswith .removeprefix .removesuffix .isascii .islower "
      ++ ".isupper .istitle .isspace .isdecimal .isdigit .isnumeric .isalpha .isalnum "
      ++ ".isidentifier .isprintable .zfill .format .format_map .__format__ !maketrans "
      ++ ".__sizeof__ .__getnewargs__"),
   ("super", "object",
    "!__new__ =__repr__ =__getattribute__ =__get__ =__init__ #__thisclass__ #__self__ "
      ++ "#__self_class__"),
   ("tuple", "object",
    "!__new__ =__repr__ =__hash__ =__getattribute__ =__lt__ =__le__ =__eq__ =__ne__ =__gt__ "
      ++ "=__ge__ =__iter__ =__len__ =__getitem__ =__add__ =__mul__ =__rmul__ =__contains__ "
      ++ ".__getnewargs__ .index .count %__class_getitem__"),
   ("type", "object",
    "!__new__ =__repr__ =__call__ =__getattribute__ =__setattr__ =__delattr__ =__init__ "
      ++ "=__or__ =__ror__ .mro .__subclasses__ %__prepare__ .__instancecheck__ "
      ++ ".__subclasscheck__ .__dir__ .__sizeof__ #__basicsize__ #__itemsize__ #__flags__ "
      ++ "#__weakrefoffset__ #__base__ #__dictoffset__ #__mro__ @__name__ @__qualname__ "
      ++ "@__bases__ @__abstractmethods__ @__dict__ @__doc__ @__text_signature__ "
      ++ "@__annotations__"),
   ("wrapper_descriptor", "object",
    "=__repr__ =__call__ =__getattribute__ =__get__ .__reduce__ #__objclass__ #__name__ "
      ++ "@__doc__ @__qualname__ @__text_signature__"),
   ("zip", "object",
    "!__new__ =__getattribute__ =__iter__ =__next__ .__reduce__ .__setstate__"),
   ("collections.OrderedDict", "dict",
    "=__repr__ =__lt__ =__le__ =__eq__ =__ne__ =__gt__ =__ge__ =__iter__ =__init__ =__or__ "
      ++ "=__ror__ =__ior__ =__setitem__ =__delitem__ %fromkeys .__sizeof__ .__reduce__ "
      ++ ".setdefault .pop .popitem .keys .values .items .update .clear .copy .__reversed__ "
      ++ ".move_to_end @__dict__ -__hash__"),
   ("collections.defaultdict", "dict",
    "=__repr__ =__getattribute__ =__init__ =__or__ =__ror__ .__missing__ .copy .__copy__ "
      ++ ".__reduce__ %__class_getitem__ #default_factory"),
   ("collections.deque", "object",
    "!__new__ =__repr__ -__hash__ =__getattribute__ =__lt__ =__le__ =__eq__ =__ne__ =__gt__ "
      ++ "=__ge__ =__iter__ =__init__ =__len__ =__add__ =__mul__ =__rmul__ =__getitem__ "
      ++ "=__setitem__ =__delitem__ =__contains__ =__iadd__ =__imul__ .append .appendleft .clear "
      ++ ".__copy__ .copy .count .extend .extendleft .index .insert .pop .popleft .__reduce__ "
      ++ ".remove .__reversed__ .reverse .rotate .__sizeof__ %__class_getitem__ @maxlen"),
   ("types.GenericAlias", "object",
    "!__new__ =__repr__ =__hash__ =__call__ =__getattribute__ =__lt__ =__le__ =__eq__ "
      ++ "=__ne__ =__gt__ =__ge__ =__iter__ =__or__ =__ror__ =__getitem__ .__mro_entries__ "
      ++ ".__instancecheck__ .__subclasscheck__ .__reduce__ .__dir__ #__origin__ #__args__ "
      ++ "#__unpacked__ @__parameters__ @__typing_unpacked_tuple_args__"),
   ("types.UnionType", "object",
    "=__repr__ =__hash__ =__getattribute__ =__lt__ =__le__ =__eq__ =__ne__ =__gt__ =__ge__ "
      ++ "=__or__ =__ror__ =__getitem__ #__args__ @__parameters__"),
   ("collections.ChainMap", "collections.abc.MutableMapping",
    ":__init__ :__missing__ :__getitem__ :get :__len__ :__iter__ :__contains__ :__bool__ "
      ++ ":__repr__ $fromkeys :copy :__copy__ :new_child ^parents :__setitem__ :__delitem__ "
      ++ ":popitem :pop :clear :__ior__ :__or__ :__ror__ @__dict__ @__weakref__"),
   ("collections.Counter", "dict",
    ":__init__ :__missing__ :total :most_common :elements $fromkeys :update :subtract :copy "
      ++ ":__reduce__ :__delitem__ :__repr__ :__eq__ :__ne__ :__le__ :__lt__ :__ge__ :__gt__ "
      ++ ":__add__ :__sub__ :__or__ :__and__ :__pos__ :__neg__ :_keep_positive :__iadd__ "
      ++ ":__isub__ :__ior__ :__iand__ @__dict__ @__weakref__ -__hash__"),
   ("collections.UserDict", "collections.abc.MutableMapping",
    ":__init__ :__len__ :__getitem__ :__setitem__ :__delitem__ :__iter__ :__contains__ "
      ++ ":__repr__ :__or__ :__ror__ :__ior__ :__copy__ :copy $fromkeys @__dict__ @__weakref__"),
   ("collections.UserList", "collections.abc.MutableSequence",
    ":__init__ :__repr__ :__lt__ :__le__ :__eq__ :__gt__ :__ge__ :_UserList__cast "
      ++ ":__contains__ :__len__ :__getitem__ :__setitem__ :__delitem__ :__add__ :__radd__ "
      ++ ":__iadd__ :__mul__ :__rmul__ :__imul__ :__copy__ :append :insert :pop :remove :clear "
      ++ ":copy :count :index :reverse :sort :extend @__dict__ @__weakref__ -__hash__"),
   ("collections.UserString", "collections.abc.Sequence",
    ":__init__ :__str__ :__repr__ :__int__ :__float__ :__complex__ :__hash__ "
      ++ ":__getnewargs__ :__eq__ :__lt__ :__le__ :__gt__ :__ge__ :__contains__ :__len__ "
      ++ ":__getitem__ :__add__ :__radd__ :__mul__ :__rmul__ :__mod__ :__rmod__ :capitalize "
      ++ ":casefold :center :count :removeprefix :removesuffix :encode :endswith :expandtabs "
      ++ ":find :format :format_map :index :isalpha :isalnum :isascii :isdecimal :isdigit "
      ++ ":isidentifier :islower :isnumeric :isprintable :isspace :istitle :isupper :join :ljust "
      ++ ":lower :lstrip !maketrans :partition :replace :rfind :rindex :rjust :rpartition "
      ++ ":rstrip :split :rsplit :splitlines :startswith :strip :swapcase :title :translate "
      ++ ":upper :zfill @__dict__ @__weakref__"),
   ("collections.abc.Callable", "object",
    ":__call__ $__subclasshook__ $__class_getitem__"),
   ("collections.abc.Collection",
    "collections.abc.Sized collections.abc.Iterable collections.abc.Container",
    "$__subclasshook__"),
   ("collections.abc.Container", "object",
    ":__contains__ $__subclasshook__ $__class_getitem__"),
   ("collections.abc.Iterable", "object",
    ":__iter__ $__subclasshook__ $__class_getitem__"),
   ("collections.abc.Mapping", "collections.abc.Collection",
    ":__getitem__ :get :__contains__ :keys :items :values :__eq__ -__reversed__ -__hash__"),
   ("collections.abc.MutableMapping", "collections.abc.Mapping",
    ":__setitem__ :__delitem__ :pop :popitem :clear :update :setdefault"),
   ("collections.abc.MutableSequence", "collections.abc.Sequence",
    ":__setitem__ :__delitem__ :insert :append :clear :reverse :extend :pop :remove :__iadd__"),
   ("collections.abc.Reversible", "collections.abc.Iterable",
    ":__reversed__ $__subclasshook__"),
   ("collections.abc.Sequence", "collections.abc.Reversible collections.abc.Collection",
    ":__getitem__ :__iter__ :__contains__ :__reversed__ :index :count"),
   ("collections.abc.Sized", "object",
    ":__len__ $__subclasshook__"),
   ("typing.Any", "object",
    "@__dict__ @__weakref__"),
   ("typing.ForwardRef", "typing._Final",
    ":__init__ :_evaluate :__eq__ :__hash__ :__or__ :__ror__ :__repr__ #__forward_arg__ "
      ++ "#__forward_code__ #__forward_evaluated__ #__forward_is_argument__ "
      ++ "#__forward_is_class__ #__forward_module__ #__forward_value__"),
   ("typing.Generic", "object",
    "$__class_getitem__ $__init_subclass__"),
   ("typing.TypeVar",
    "typing._Final typing._Immutable typing._BoundVarianceMixin typing._PickleUsingNameMixin",
    ":__init__ :__typing_subst__ @__dict__"),
   ("typing._AnnotatedAlias", "typing._NotIterable typing._GenericAlias",
    ":__init__ :copy_with :__repr__ :__reduce__ :__eq__ :__hash__ :__getattr__ @__dict__ "
      ++ "@__weakref__"),
   ("typing._AnyMeta", "type",
    ":__instancecheck__ :__repr__"),
   ("typing._BaseGenericAlias", "typing._Final",
    ":__init__ :__call__ :__mro_entries__ :__getattr__ :__setattr__ :__instancecheck__ "
      ++ ":__subclasscheck__ :__dir__ @__dict__"),
   ("typing._BoundVarianceMixin", "object",
    ":__init__ :__or__ :__ror__ :__repr__ @__dict__ @__weakref__"),
   ("typing._CallableGenericAlias", "typing._NotIterable typing._GenericAlias",
    ":__repr__ :__reduce__ @__dict__ @__weakref__"),
   ("typing._Final", "object",
    "$__init_subclass__ @__weakref__"),
   ("typing._GenericAlias", "typing._BaseGenericAlias",
    ":__init__ :__eq__ :__hash__ :__or__ :__ror__ :__getitem__ :_determine_new_args "
      ++ ":_make_substitution :copy_with :__repr__ :__reduce__ :__mro_entries__ :__iter__"),
   ("typing._Immutable", "object",
    ":__copy__ :__deepcopy__"),
   ("typing._LiteralGenericAlias", "typing._GenericAlias",
    ":__eq__ :__hash__"),
   ("typing._LiteralSpecialForm", "typing._SpecialForm",
    ":__getitem__ @__dict__"),
   ("typing._NotIterable", "object",
    "-__iter__"),
   ("typing._PickleUsingNameMixin", "object",
    ":__reduce__ @__dict__ @__weakref__"),
   ("typing._SpecialForm", "typing._Final typing._NotIterable",
    ":__init__ :__getattr__ :__mro_entries__ :__repr__ :__reduce__ :__call__ :__or__ "
      ++ ":__ror__ :__instancecheck__ :__subclasscheck__ :__getitem__ #_getitem #_name"),
   ("typing._UnpackGenericAlias", "typing._GenericAlias",
    ":__repr__ :__getitem__ ^__typing_unpacked_tuple_args__ ^__typing_is_unpacked_typevartuple__ "
      ++ "@__dict__ @__weakref__"),
   ("abc.ABCMeta", "type",
    ":__new__ :register :__instancecheck__ :__subclasscheck__ :_dump_registry "
      ++ ":_abc_registry_clear :_abc_caches_clear"),
   ("typing._UnionGenericAlias", "typing._NotIterable typing._GenericAlias",
    ":copy_with :__eq__ :__hash__ :__repr__ :__instancecheck__ :__subclasscheck__ "
      ++ ":__reduce__ @__dict__ @__weakref__")]

/-- The words of a text with blanks between them. -/
private def words (s : String) : List String :=
  (Text.cutAt ' ' s).filter (· != "")

/-- The name of a standard class, with its module unless it is built in. -/
def keyOf (module name : String) : String :=
  if module == "builtins" then name else module ++ "." ++ name

/-- The names of the bases of a standard class. -/
private def baseNames (key : String) : List String :=
  match rows.lookup key with
  | some (bases, _) => words bases
  | none => if key == "object" then [] else ["object"]

/-- A standard class and its ancestors by their keys, in at most `n` generations. -/
private def orderWithin : Nat → String → List String
  | 0, key => [key]
  | n + 1, key => key :: ((orderAbove (baseNames key) (orderWithin n)).toOption.getD [])

/-- The class with a key. -/
private def classOfKey (key : String) : ClassId :=
  match Text.cutAt '.' key with
  | [name] => .builtin name
  | parts => .standard (".".intercalate parts.dropLast) (parts.getLastD "")

/-- The bases of a standard class. -/
def bases (module name : String) : List ClassId :=
  (baseNames (keyOf module name)).map classOfKey

/-- A standard class and its ancestors, in order. No chain of bases has more than eight classes. -/
def order (module name : String) : List ClassId :=
  .standard module name :: ((orderWithin 8 (keyOf module name)).drop 1).map classOfKey

/-- The names in a standard class, each with what stands under it. -/
def contents (module name : String) : List (String × Held) :=
  match rows.lookup (keyOf module name) with
  | some (_, entries) => (words entries).map fun word =>
      (String.ofList (word.toList.drop 1), heldOf (word.toList.headD ' '))
  | none => []

/-- What stands under a name in a standard class itself. -/
def held? (module className name : String) : Option Held :=
  (contents module className).lookup name

end Standard

end TypeReach.Classes
