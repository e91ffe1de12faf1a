import TypeReach.Classes.Object

/-!
# Standard names

What is there without being declared: the built-in classes, functions and constants, the standard
modules by name, and the few of them whose contents are known.
-/

namespace TypeReach.Classes.Standard

/-- The names of the built-in classes. -/
def classNames : List String :=
  ["ArithmeticError", "AssertionError", "AttributeError", "BaseException", "BaseExceptionGroup",
   "BlockingIOError", "BrokenPipeError", "BufferError", "BytesWarning", "ChildProcessError",
   "ConnectionAbortedError", "ConnectionError", "ConnectionRefusedError", "ConnectionResetError",
   "DeprecationWarning", "EOFError", "EncodingWarning", "Exception", "ExceptionGroup",
   "FileExistsError", "FileNotFoundError", "FloatingPointError", "FutureWarning", "GeneratorExit",
   "ImportError", "ImportWarning", "IndentationError", "IndexError", "InterruptedError",
   "IsADirectoryError", "KeyError", "KeyboardInterrupt", "LookupError", "MemoryError",
   "ModuleNotFoundError", "NameError", "NotADirectoryError", "NotImplementedError", "OSError",
   "OverflowError", "PendingDeprecationWarning", "PermissionError", "ProcessLookupError",
   "RecursionError", "ReferenceError", "ResourceWarning", "RuntimeError", "RuntimeWarning",
   "StopAsyncIteration", "StopIteration", "SyntaxError", "SyntaxWarning", "SystemError",
   "SystemExit", "TabError", "TimeoutError", "TypeError", "UnboundLocalError",
   "UnicodeDecodeError", "UnicodeEncodeError", "UnicodeError", "UnicodeTranslateError",
   "UnicodeWarning", "UserWarning", "ValueError", "Warning", "ZeroDivisionError", "bool",
   "bytearray", "bytes", "classmethod", "complex", "dict", "enumerate", "filter", "float",
   "frozenset", "int", "list", "map", "memoryview", "object", "property", "range", "reversed",
   "set", "slice", "staticmethod", "str", "super", "tuple", "type", "zip"]

/-- The built-in classes that no class can be below. -/
def finalNames : List String :=
  ["NoneType", "NotImplementedType", "bool", "builtin_function_or_method", "ellipsis", "function",
   "memoryview", "method", "range", "slice"]

/-- Whether no class can be below a class. -/
def isFinal : ClassId → Bool
  | .standard "builtins" name => finalNames.contains name
  | .standard "types" name => name == "UnionType"
  | _ => false

/-- The built-in classes whose objects are laid out otherwise than those of their bases. -/
def layoutNames : List String :=
  ["AttributeError", "BaseException", "BaseExceptionGroup", "ImportError", "NameError", "OSError",
   "StopIteration", "SyntaxError", "SystemExit", "UnicodeDecodeError", "UnicodeEncodeError",
   "UnicodeTranslateError", "bytearray", "bytes", "classmethod", "complex", "dict", "enumerate",
   "filter", "float", "frozenset", "int", "list", "map", "property", "reversed", "set",
   "staticmethod", "str", "super", "tuple", "type", "zip"]

/-- Whether objects of a class are laid out otherwise than those of its bases. -/
def hasLayout : ClassId → Bool
  | .standard "builtins" name => layoutNames.contains name || finalNames.contains name
  | .standard "collections" name => ["OrderedDict", "defaultdict", "deque"].contains name
  | .standard "types" name => ["GenericAlias", "UnionType"].contains name
  | _ => false

/-- The names of the built-in functions. -/
def functionNames : List String :=
  ["__build_class__", "__import__", "abs", "aiter", "all", "anext", "any", "ascii", "bin",
   "breakpoint", "callable", "chr", "compile", "delattr", "dir", "divmod", "eval", "exec",
   "format", "getattr", "globals", "hasattr", "hash", "hex", "id", "input", "isinstance",
   "issubclass", "iter", "len", "locals", "max", "min", "next", "oct", "open", "ord", "pow",
   "print", "repr", "round", "setattr", "sorted", "sum", "vars"]

/-- A built-in function. -/
def function (name : String) : Object :=
  .feature (.builtin "builtin_function_or_method") none name

/-- The function that counts what a row of objects holds. -/
def routine : Object := function "len"

/-- What a built-in name stands for. -/
def builtin? (name : String) : Option Object :=
  if classNames.contains name then some (.cls (.builtin name))
  else if functionNames.contains name then some (function name)
  else match name with
    | "None" => some .null
    | "True" => some (.bool true)
    | "False" => some (.bool false)
    | "__debug__" => some (.bool true)
    | "Ellipsis" => some .rest
    | "NotImplemented" => some (.thing (.builtin "NotImplementedType"))
    | "EnvironmentError" => some (.cls (.builtin "OSError"))
    | "IOError" => some (.cls (.builtin "OSError"))
    | "exit" | "quit" => some (.thing (.standard "_sitebuiltins" "Quitter"))
    | "copyright" | "credits" | "license" => some (.thing (.standard "_sitebuiltins" "_Printer"))
    | "help" => some (.thing (.standard "_sitebuiltins" "_Helper"))
    | _ => none

/-- The value that a standard class has under a name. -/
def classValue? (module className name : String) : Option Object :=
  match module, className, name with
  | "typing", "Generic", "__slots__" | "collections.abc", _, "__slots__" => some (.tuple [])
  | "typing", "Generic", "_is_protocol" => some (.bool false)
  | _, _, _ => none

/-- The names of the standard modules, without the packages that they are in. -/
def moduleHeads : List String :=
  ["__future__", "_abc", "_aix_support", "_ast", "_asyncio", "_bisect", "_blake2",
   "_bootsubprocess", "_bz2", "_codecs", "_codecs_cn", "_codecs_hk", "_codecs_iso2022",
   "_codecs_jp", "_codecs_kr", "_codecs_tw", "_collections", "_collections_abc", "_compat_pickle",
   "_compression", "_contextvars", "_crypt", "_csv", "_ctypes", "_curses", "_curses_panel",
   "_datetime", "_dbm", "_decimal", "_elementtree", "_frozen_importlib",
   "_frozen_importlib_external", "_functools", "_gdbm", "_hashlib", "_heapq", "_imp", "_io",
   "_json", "_locale", "_lsprof", "_lzma", "_markupbase", "_md5", "_msi", "_multibytecodec",
   "_multiprocessing", "_opcode", "_operator", "_osx_support", "_overlapped", "_pickle",
   "_posixshmem", "_posixsubprocess", "_py_abc", "_pydecimal", "_pyio", "_queue", "_random",
   "_scproxy", "_sha1", "_sha256", "_sha3", "_sha512", "_signal", "_sitebuiltins", "_socket",
   "_sqlite3", "_sre", "_ssl", "_stat", "_statistics", "_string", "_strptime", "_struct",
   "_symtable", "_thread", "_threading_local", "_tkinter", "_tokenize", "_tracemalloc", "_typing",
   "_uuid", "_warnings", "_weakref", "_weakrefset", "_winapi", "_zoneinfo", "abc", "aifc",
   "antigravity", "argparse", "array", "ast", "asynchat", "asyncio", "asyncore", "atexit",
   "audioop", "base64", "bdb", "binascii", "bisect", "builtins", "bz2", "cProfile", "calendar",
   "cgi", "cgitb", "chunk", "cmath", "cmd", "code", "codecs", "codeop", "collections", "colorsys",
   "compileall", "concurrent", "configparser", "contextlib", "contextvars", "copy", "copyreg",
   "crypt", "csv", "ctypes", "curses", "dataclasses", "datetime", "dbm", "decimal", "difflib",
   "dis", "distutils", "doctest", "email", "encodings", "ensurepip", "enum", "errno",
   "faulthandler", "fcntl", "filecmp", "fileinput", "fnmatch", "fractions", "ftplib", "functools",
   "gc", "genericpath", "getopt", "getpass", "gettext", "glob", "graphlib", "grp", "gzip",
   "hashlib", "heapq", "hmac", "html", "http", "idlelib", "imaplib", "imghdr", "imp", "importlib",
   "inspect", "io", "ipaddress", "itertools", "json", "keyword", "lib2to3", "linecache", "locale",
   "logging", "lzma", "mailbox", "mailcap", "marshal", "math", "mimetypes", "mmap", "modulefinder",
   "msilib", "msvcrt", "multiprocessing", "netrc", "nis", "nntplib", "nt", "ntpath", "nturl2path",
   "numbers", "opcode", "operator", "optparse", "os", "ossaudiodev", "pathlib", "pdb", "pickle",
   "pickletools", "pipes", "pkgutil", "platform", "plistlib", "poplib", "posix", "posixpath",
   "pprint", "profile", "pstats", "pty", "pwd", "py_compile", "pyclbr", "pydoc", "pydoc_data",
   "pyexpat", "queue", "quopri", "random", "re", "readline", "reprlib", "resource", "rlcompleter",
   "runpy", "sched", "secrets", "select", "selectors", "shelve", "shlex", "shutil", "signal",
   "site", "smtpd", "smtplib", "sndhdr", "socket", "socketserver", "spwd", "sqlite3", "sre_compile",
   "sre_constants", "sre_parse", "ssl", "stat", "statistics", "string", "stringprep", "struct",
   "subprocess", "sunau", "symtable", "sys", "sysconfig", "syslog", "tabnanny", "tarfile",
   "telnetlib", "tempfile", "termios", "textwrap", "this", "threading", "time", "timeit", "tkinter",
   "token", "tokenize", "tomllib", "trace", "traceback", "tracemalloc", "tty", "turtle",
   "turtledemo", "types", "typing", "unicodedata", "unittest", "urllib", "uu", "uuid", "venv",
   "warnings", "wave", "weakref", "webbrowser", "winreg", "winsound", "wsgiref", "xdrlib", "xml",
   "xmlrpc", "zipapp", "zipfile", "zipimport", "zlib", "zoneinfo"]

/-- The part of a module name before its first dot. -/
def head (module : String) : String :=
  String.ofList (module.toList.takeWhile (· != '.'))

/-- Whether a module is standard, judged by the part of its name before the first dot. -/
def isStandard (module : String) : Bool :=
  moduleHeads.contains (head module)

/-- The standard modules that can be imported here. -/
def importable : List String :=
  ["builtins", "collections", "json", "typing", "types", "abc", "_thread", "xml"]

/-- The ones of these that hold other modules. -/
def packages : List String := ["collections", "json", "xml"]

/-- The classes of the module of containers. -/
def containerNames : List String :=
  ["ChainMap", "Counter", "OrderedDict", "UserDict", "UserList", "UserString", "defaultdict",
   "deque"]

/-- What a name stands for in a standard module. -/
def nameIn? (module name : String) : Option Object :=
  match module with
  | "builtins" => builtin? name
  | "collections" =>
    if containerNames.contains name then some (.cls (.standard "collections" name))
    else if name == "namedtuple" then some (.feature (.builtin "function") none name)
    else if name == "abc" then some (.thing (.builtin "module"))
    else none
  | "types" =>
    if name == "NoneType" then some Object.nullClass
    else if ["GenericAlias", "UnionType"].contains name then some (.cls (.standard "types" name))
    else none
  | "typing" =>
    match name with
    | "Any" => some .anything
    | "Generic" | "TypeVar" | "ForwardRef" => some (.cls (.standard "typing" name))
    | "ClassVar" => some (.bare .classWide)
    | "Final" => some (.bare .final)
    | "Union" => some (.bare .union)
    | "Literal" => some (.bare .literal)
    | _ => none
  | _ => none

end TypeReach.Classes.Standard
