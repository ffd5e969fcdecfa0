import Colloquy.Value.Method

/-!
# Members of values

Which members a value has besides its elements: data such as the real part of a number, fields of
records, and methods. `lookup` is the tolerant access that accessors and destructuring use: what is
not there is `None`.
-/

namespace Colloquy

def namesIn (text : String) : List String := (Text.wordsOf text).map String.ofList

def commonMethods : List String := namesIn
  "__dir__ __format__ __getstate__ __init_subclass__ __new__ __reduce__ __reduce_ex__ __sizeof__
   __subclasshook__ __delattr__ __eq__ __ge__ __getattribute__ __gt__ __init__ __le__ __lt__ __ne__
   __repr__ __setattr__ __str__"

def textMethods : List String := namesIn
  "capitalize casefold center count encode endswith expandtabs find format format_map index isalnum
   isalpha isascii isdecimal isdigit isidentifier islower isnumeric isprintable isspace istitle
   isupper join ljust lower lstrip maketrans partition removeprefix removesuffix replace rfind
   rindex rjust rpartition rsplit rstrip split splitlines startswith strip swapcase title translate
   upper zfill __add__ __contains__ __getitem__ __getnewargs__ __hash__ __iter__ __len__ __mod__
   __mul__ __rmod__ __rmul__"

def bytesMethods : List String := namesIn
  "capitalize center count decode endswith expandtabs find fromhex hex index isalnum isalpha isascii
   isdigit islower isspace istitle isupper join ljust lower lstrip maketrans partition removeprefix
   removesuffix replace rfind rindex rjust rpartition rsplit rstrip split splitlines startswith strip
   swapcase title translate upper zfill __add__ __bytes__ __contains__ __getitem__ __getnewargs__
   __hash__ __iter__ __len__ __mod__ __mul__ __rmod__ __rmul__"

def intMethods : List String := namesIn
  "as_integer_ratio bit_count bit_length conjugate from_bytes to_bytes __abs__ __add__
   __and__ __bool__ __ceil__ __divmod__ __float__ __floor__ __floordiv__ __getnewargs__ __hash__
   __index__ __int__ __invert__ __lshift__ __mod__ __mul__ __neg__ __or__ __pos__ __pow__ __radd__
   __rand__ __rdivmod__ __rfloordiv__ __rlshift__ __rmod__ __rmul__ __ror__ __round__ __rpow__
   __rrshift__ __rshift__ __rsub__ __rtruediv__ __rxor__ __sub__ __truediv__ __trunc__ __xor__"

def floatMethods : List String := namesIn
  "as_integer_ratio conjugate fromhex hex is_integer __abs__ __add__ __bool__ __ceil__ __divmod__
   __float__ __floor__ __floordiv__ __getformat__ __getnewargs__ __hash__ __int__ __mod__ __mul__
   __neg__ __pos__ __pow__ __radd__ __rdivmod__ __rfloordiv__ __rmod__ __rmul__ __round__ __rpow__
   __rsub__ __rtruediv__ __sub__ __truediv__ __trunc__"

def listMethods : List String := namesIn
  "append clear copy count extend index insert pop remove reverse sort __add__ __class_getitem__
   __contains__ __delitem__ __getitem__ __iadd__ __imul__ __iter__ __len__ __mul__ __reversed__
   __rmul__ __setitem__"

def tupleMethods : List String := namesIn
  "count index __add__ __class_getitem__ __contains__ __getitem__ __getnewargs__ __hash__ __iter__
   __len__ __mul__ __rmul__"

def dictMethods : List String := namesIn
  "clear copy fromkeys get items keys pop popitem setdefault update values __class_getitem__
   __contains__ __delitem__ __getitem__ __ior__ __iter__ __len__ __or__ __reversed__ __ror__
   __setitem__"

def accessorMethods : List String := namesIn
  "attr item get apply call gt gte lt lte equals not_equals is_truthy is_falsy is_none is_string
   is_list is_dict is_number add sub mul div pow __call__ __repr__ __init__"

/-- Methods of safe text besides those of texts. -/
def markupMethods : List String := namesIn "striptags unescape escape __html__"

/-- Methods that are functions of their type rather than operators. -/
def plainDunders : List String := namesIn
  "__dir__ __format__ __getstate__ __init_subclass__ __new__ __reduce__ __reduce_ex__ __sizeof__
   __subclasshook__ __getnewargs__ __ceil__ __floor__ __round__ __trunc__ __getformat__
   __class_getitem__ __reversed__ __bytes__ __complex__"

namespace Value

def methodNames : Value → List String
  | .str _ => textMethods
  | .markup _ => textMethods ++ markupMethods
  | .bytes _ => bytesMethods
  | .bool _ | .int _ => intMethods
  | .float _ => floatMethods
  | .complex .. => namesIn "conjugate __abs__ __add__ __bool__ __complex__ __getnewargs__ __hash__ __mul__
      __neg__ __pos__ __pow__ __radd__ __rmul__ __rpow__ __rsub__ __rtruediv__ __sub__ __truediv__"
  | .list .. => listMethods
  | .tuple _ => tupleMethods
  | .dict .. => dictMethods
  | .range .. => namesIn "count index __bool__ __contains__ __getitem__ __hash__ __iter__ __len__ __reversed__"
  | .view .values .. => namesIn "__hash__ __iter__ __len__ __reversed__"
  | .view .. => namesIn "isdisjoint __and__ __contains__ __iter__ __len__ __or__ __rand__ __reversed__
      __ror__ __rsub__ __rxor__ __sub__ __xor__"
  | .moment _ => namesIn "ctime isocalendar isoformat isoweekday replace strftime timetuple toordinal weekday
      __add__ __hash__ __radd__ __rsub__ __sub__"
  | .accessor .. => accessorMethods
  | .none => namesIn "__bool__ __hash__"
  | _ => []

/-- What types of the language say about themselves, line by line. What handlers, methods and objects of libraries say
is left out. -/
def docLines? : Value → Option (List String)
  | .bool _ => some
      ["bool(x) -> bool", "", "Returns True when the argument x is true, False otherwise.",
       "The builtins True and False are the only two instances of the class bool.",
       "The class bool is a subclass of the class int, and cannot be subclassed."]
  | .int _ => some
      ["int([x]) -> integer", "int(x, base=10) -> integer", "",
       "Convert a number or string to an integer, or return 0 if no arguments",
       "are given.  If x is a number, return x.__int__().  For floating point",
       "numbers, this truncates towards zero.", "",
       "If x is not a number or if base is given, then x must be a string,",
       "bytes, or bytearray instance representing an integer literal in the",
       "given base.  The literal can be preceded by '+' or '-' and be surrounded",
       "by whitespace.  The base defaults to 10.  Valid bases are 0 and 2-36.",
       "Base 0 means to interpret the base from the string as an integer literal.", ">>> int('0b100', base=0)", "4"]
  | .float _ => some ["Convert a string or number to a floating point number, if possible."]
  | .complex .. => some
      ["Create a complex number from a real part and an optional imaginary part.", "",
       "This is equivalent to (real + imag*1j) where imag defaults to 0."]
  | .str _ => some
      ["str(object='') -> str", "str(bytes_or_buffer[, encoding[, errors]]) -> str", "",
       "Create a new string object from the given object. If encoding or",
       "errors is specified, then the object must expose a data buffer",
       "that will be decoded using the given encoding and error handler.",
       "Otherwise, returns the result of object.__str__() (if defined)", "or repr(object).",
       "encoding defaults to sys.getdefaultencoding().", "errors defaults to 'strict'."]
  | .bytes _ => some
      ["bytes(iterable_of_ints) -> bytes", "bytes(string, encoding[, errors]) -> bytes",
       "bytes(bytes_or_buffer) -> immutable copy of bytes_or_buffer",
       "bytes(int) -> bytes object of size given by the parameter initialized with null bytes",
       "bytes() -> empty bytes object", "", "Construct an immutable array of bytes from:",
       "  - an iterable yielding integers in range(256)", "  - a text string encoded using the specified encoding",
       "  - any object implementing the buffer API.", "  - an integer"]
  | .list .. => some
      ["Built-in mutable sequence.", "", "If no argument is given, the constructor creates a new empty list.",
       "The argument must be an iterable if specified."]
  | .tuple _ => some
      ["Built-in immutable sequence.", "", "If no argument is given, the constructor returns an empty tuple.",
       "If iterable is specified the tuple is initialized from iterable's items.", "",
       "If the argument is a tuple, the return value is the same object."]
  | .dict .. => some
      ["dict() -> new empty dictionary", "dict(mapping) -> new dictionary initialized from a mapping object's",
       "    (key, value) pairs", "dict(iterable) -> new dictionary initialized as if via:", "    d = \x7b\x7d",
       "    for k, v in iterable:", "        d[k] = v",
       "dict(**kwargs) -> new dictionary initialized with the name=value pairs",
       "    in the keyword argument list.  For example:  dict(one=1, two=2)"]
  | .set _ => some
      ["set() -> new empty set object", "set(iterable) -> new set object", "",
       "Build an unordered collection of unique elements."]
  | .moment m =>
    if m.clock.isNone then some ["date(year, month, day) --> date object"]
    else some
      ["datetime(year, month, day[, hour[, minute[, second[, microsecond[,tzinfo]]]]])", "",
       "The year, month and day arguments are required. tzinfo may be None, or an",
       "instance of a tzinfo subclass. The remaining arguments may be ints.", ""]
  | .range .. => some
      ["range(stop) -> range object", "range(start, stop[, step]) -> range object", "",
       "Return an object that produces a sequence of integers from start (inclusive)",
       "to stop (exclusive) by step.  range(i, j) produces i, i+1, i+2, ..., j-1.",
       "start defaults to 0, and stop is omitted!  range(4) produces 0, 1, 2, 3.",
       "These are exactly the valid indices for a list of 4 elements.",
       "When step is given, it specifies the increment (or decrement)."]
  | .accessor .. => some ["A composable ``(vars) -> value`` function."]
  | _ => Option.none

def dataMember? (v : Value) (name : String) : Option Value :=
  match v, name with
  | .bool b, "real" | .bool b, "numerator" => some (.int (if b then 1 else 0))
  | .bool _, "imag" => some (.int 0)
  | .bool _, "denominator" => some (.int 1)
  | .int n, "real" | .int n, "numerator" => some (.int n)
  | .int _, "imag" => some (.int 0)
  | .int _, "denominator" => some (.int 1)
  | .float x, "real" => some (.float x)
  | .float _, "imag" => some (.float 0.0)
  | .complex re _, "real" => some (.float re)
  | .complex _ im, "imag" => some (.float im)
  | .range start _ _, "start" => some (.int start)
  | .range _ stop _, "stop" => some (.int stop)
  | .range _ _ step, "step" => some (.int step)
  | .moment m, "year" => some (.int m.year)
  | .moment m, "month" => some (.int m.month)
  | .moment m, "day" => some (.int m.day)
  | .function f, "__name__" | .function f, "name" => some (.str f.name)
  | .function f, "is_async" => some (.bool f.suspends)
  | .builtin b, "__name__" => some (.str b.name)
  | .negated param, "param" => some param
  | .signal s, "value" => some (.str s.name)
  | .signal .break, "name" => some (.str "BREAK")
  | .signal .continue, "name" => some (.str "CONTINUE")
  | .jump path _, "path" => some path
  | .jump _ vars, "vars" => some vars
  | .str _, "__class__" | .markup _, "__class__" => some (.builtin .str)
  | .int _, "__class__" => some (.builtin .int)
  | .dict .., "__class__" => some (.builtin .dict)
  | _, "__class__" => some (.object "type")
  | .none, "__doc__" | .view .., "__doc__" => some .none
  | v, "__doc__" => v.docLines?.map fun lines => .str ("\n".intercalate lines)
  | _, _ => Option.none

def keepsExtras : ModelKind → Bool
  | .action | .item | .textMessage | .imageMessage | .listMessage | .carouselMessage | .messageData => true
  | _ => false

def memberNamed? (v : Value) (name : String) : Option Value :=
  match v with
  | .model kind fields extras =>
    match fields.lookup name with
    | some w => some w
    | Option.none =>
      match extras.lookup name with
      | some w => some w
      | Option.none =>
        if name == "model_extra" then
          some (if keepsExtras kind then .record extras else .none)
        else Option.none
  | v =>
    match dataMember? v name with
    | some w => some w
    | Option.none =>
      if v.methodNames.contains name || commonMethods.contains name then some (.method v name) else Option.none

def memberNamed (v : Value) (name : String) : Outcome Value :=
  match v.memberNamed? name with
  | some w => .ok w
  | Option.none => .error .missingMember

/-- Name of the type of a value, methods told apart by how they are bound. -/
def kindName : Value → String
  | .method (.accessor ..) _ => "method"
  | .method receiver name =>
    if name.startsWith "__" && !plainDunders.contains name &&
        !(match receiver, name with
          | .dict .., "__contains__" | .dict .., "__getitem__" | .list .., "__getitem__" => true
          | _, _ => false) then "method-wrapper"
    else "builtin_function_or_method"
  | v => v.typeName

/-- Tolerant access to a member of a mapping, a sequence or any other value. -/
def lookup (v key : Value) : Outcome Value :=
  match v with
  | .none => .ok .none
  | .dict _ entries =>
    if key.hashable then .ok (.ofOption (Entries.get? entries key)) else .error .wrongType
  | .list .. | .tuple _ | .bytes _ | .range .. =>
    match toInteger key with
    | .ok i => .ok (.ofOption (v.at? i))
    | .error .overflow => .error .overflow
    | .error _ => .ok .none
  | v =>
    match key.text? with
    | some name => .ok (.ofOption (v.memberNamed? name))
    | Option.none => .ok .none

end Value

end Colloquy
