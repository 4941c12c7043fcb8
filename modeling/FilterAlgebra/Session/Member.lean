import FilterAlgebra.Hierarchy.Standing
import FilterAlgebra.Text.Search

/-!
# Members of native classes

A native class is one whose objects do not consist of attributes. It keeps members:
operators and methods, which become functions when they are asked of an object, and
fields, which show a part of an object. Every member tells its class and its name.
-/

set_option autoImplicit false

namespace FilterAlgebra

/-- The sorts of members of native classes. -/
inductive MemberSort where
  | operator
  | method
  /-- A function that the class itself is asked for. -/
  | ofClass
  /-- A field that is worked out when it is asked for. -/
  | field
  /-- A field that is kept. -/
  | part
  deriving DecidableEq

/-- A member of a native class. -/
structure Member where
  sort : MemberSort
  owner : ClassId
  name : String
  deriving DecidableEq

namespace Member

/-- The class of a member. -/
def type (m : Member) : StandingClass :=
  match m.sort with
  | .operator => .operator
  | .method => .nativeMethod
  | .ofClass => .nativeFunction
  | .field => .nativeField
  | .part => .nativeMember

/-- The class of what a member becomes when it is asked of an object. -/
def boundType (m : Member) : StandingClass :=
  match m.sort with
  | .operator => .boundOperator
  | _ => .nativeFunction

/-- The inspection form of a member, given the name of its class. -/
def inspect (m : Member) (owner : String) : String :=
  let ofObjects := " '" ++ m.name ++ "' of '" ++ owner ++ "' objects>"
  match m.sort with
  | .operator => "<slot wrapper" ++ ofObjects
  | .method => "<method" ++ ofObjects
  | .ofClass => "<built-in method " ++ m.name ++ " of type object>"
  | .field => "<attribute" ++ ofObjects
  | .part => "<member" ++ ofObjects

/-- The inspection form of a member that is asked of an object of a class. -/
def inspectBound (m : Member) (className : String) : String :=
  match m.sort with
  | .operator => "<method-wrapper '" ++ m.name ++ "' of " ++ className ++ " object>"
  | _ => "<built-in method " ++ m.name ++ " of " ++ className ++ " object>"

/-- Whether a member shows a part of an object. -/
def isShown (m : Member) : Bool :=
  m.sort = .field || m.sort = .part

/-- Words that are separated by blanks. -/
def words (text : String) : List String :=
  (Search.split [' '] text.length text.toList).map String.ofList

namespace BuiltIn

/-- The operators of a built-in class. -/
def operators : SemanticType → List String
  | .object => words <|
    "__repr__ __hash__ __str__ __getattribute__ __setattr__ __delattr__ __lt__ __le__ __eq__ " ++
    "__ne__ __gt__ __ge__ __init__"
  | .int => words <|
    "__repr__ __hash__ __getattribute__ __lt__ __le__ __eq__ __ne__ __gt__ __ge__ __add__ " ++
    "__radd__ __sub__ __rsub__ __mul__ __rmul__ __mod__ __rmod__ __divmod__ __rdivmod__ __pow__ " ++
    "__rpow__ __neg__ __pos__ __abs__ __bool__ __invert__ __lshift__ __rlshift__ __rshift__ " ++
    "__rrshift__ __and__ __rand__ __xor__ __rxor__ __or__ __ror__ __int__ __float__ " ++
    "__floordiv__ __rfloordiv__ __truediv__ __rtruediv__ __index__"
  | .str => words <|
    "__repr__ __hash__ __str__ __getattribute__ __lt__ __le__ __eq__ __ne__ __gt__ __ge__ " ++
    "__iter__ __mod__ __rmod__ __len__ __getitem__ __add__ __mul__ __rmul__ __contains__"
  | .float => words <|
    "__repr__ __hash__ __getattribute__ __lt__ __le__ __eq__ __ne__ __gt__ __ge__ __add__ " ++
    "__radd__ __sub__ __rsub__ __mul__ __rmul__ __mod__ __rmod__ __divmod__ __rdivmod__ __pow__ " ++
    "__rpow__ __neg__ __pos__ __abs__ __bool__ __int__ __float__ __floordiv__ __rfloordiv__ " ++
    "__truediv__ __rtruediv__"
  | .bool => words "__repr__ __and__ __rand__ __xor__ __rxor__ __or__ __ror__"
  | .bytes => words <|
    "__repr__ __hash__ __str__ __getattribute__ __lt__ __le__ __eq__ __ne__ __gt__ __ge__ " ++
    "__iter__ __mod__ __rmod__ __len__ __getitem__ __add__ __mul__ __rmul__ __contains__"
  | .tuple => words <|
    "__repr__ __hash__ __getattribute__ __lt__ __le__ __eq__ __ne__ __gt__ __ge__ __iter__ " ++
    "__len__ __getitem__ __add__ __mul__ __rmul__ __contains__"
  | .list => words <|
    "__repr__ __getattribute__ __lt__ __le__ __eq__ __ne__ __gt__ __ge__ __iter__ __init__ " ++
    "__len__ __setitem__ __delitem__ __add__ __mul__ __rmul__ __contains__ __iadd__ __imul__"
  | .dict => words <|
    "__repr__ __getattribute__ __lt__ __le__ __eq__ __ne__ __gt__ __ge__ __iter__ __init__ " ++
    "__or__ __ror__ __ior__ __len__ __setitem__ __delitem__"
  | .decimal => words <|
    "__repr__ __hash__ __str__ __getattribute__ __lt__ __le__ __eq__ __ne__ __gt__ __ge__ " ++
    "__add__ __radd__ __sub__ __rsub__ __mul__ __rmul__ __mod__ __rmod__ __divmod__ __rdivmod__ " ++
    "__pow__ __rpow__ __neg__ __pos__ __abs__ __bool__ __int__ __float__ __floordiv__ " ++
    "__rfloordiv__ __truediv__ __rtruediv__"
  | .none => words "__repr__ __bool__"
  | _ => []

/-- The methods of a built-in class. -/
def methods : SemanticType → List String
  | .object => words "__reduce_ex__ __reduce__ __getstate__ __format__ __sizeof__ __dir__"
  | .int => words <|
    "conjugate bit_length bit_count to_bytes as_integer_ratio __trunc__ __floor__ __ceil__ " ++
    "__round__ __getnewargs__ __format__ __sizeof__"
  | .str => words <|
    "encode replace split rsplit join capitalize casefold title center count expandtabs find " ++
    "partition index ljust lower lstrip rfind rindex rjust rstrip rpartition splitlines strip " ++
    "swapcase translate upper startswith endswith removeprefix removesuffix isascii islower " ++
    "isupper istitle isspace isdecimal isdigit isnumeric isalpha isalnum isidentifier " ++
    "isprintable zfill format format_map __format__ __sizeof__ __getnewargs__"
  | .float => words <|
    "conjugate __trunc__ __floor__ __ceil__ __round__ as_integer_ratio hex is_integer " ++
    "__getnewargs__ __format__"
  | .bytes => words <|
    "__getnewargs__ __bytes__ capitalize center count decode endswith expandtabs find hex index " ++
    "isalnum isalpha isascii isdigit islower isspace istitle isupper join ljust lower lstrip " ++
    "partition replace removeprefix removesuffix rfind rindex rjust rpartition rsplit rstrip " ++
    "split splitlines startswith strip swapcase title translate upper zfill"
  | .tuple => words "__getnewargs__ index count"
  | .list => words <|
    "__getitem__ __reversed__ __sizeof__ clear copy append insert extend pop remove index count " ++
    "reverse sort"
  | .dict => words <|
    "__getitem__ __contains__ __sizeof__ get setdefault pop popitem keys items values update " ++
    "clear copy __reversed__"
  | .decimal => words <|
    "exp ln log10 next_minus next_plus normalize to_integral to_integral_exact " ++
    "to_integral_value sqrt compare compare_signal max max_mag min min_mag next_toward quantize " ++
    "remainder_near fma is_canonical is_finite is_infinite is_nan is_qnan is_snan is_signed " ++
    "is_zero is_normal is_subnormal adjusted canonical conjugate radix copy_abs copy_negate " ++
    "logb logical_invert number_class to_eng_string compare_total compare_total_mag copy_sign " ++
    "same_quantum logical_and logical_or logical_xor rotate scaleb shift as_tuple " ++
    "as_integer_ratio __copy__ __deepcopy__ __format__ __reduce__ __round__ __ceil__ __floor__ " ++
    "__trunc__ __complex__ __sizeof__"
  | _ => []

/-- The functions that a built-in class itself is asked for. -/
def ofClass : SemanticType → List String
  | .object => words "__new__ __subclasshook__ __init_subclass__"
  | .int => words "__new__ from_bytes"
  | .str => words "__new__ maketrans"
  | .float => words "__new__ fromhex __getformat__"
  | .bool => words "__new__"
  | .bytes => words "__new__ fromhex maketrans"
  | .tuple => words "__new__ __class_getitem__"
  | .list => words "__new__ __class_getitem__"
  | .dict => words "__new__ fromkeys __class_getitem__"
  | .decimal => words "__new__ from_float"
  | .none => words "__new__"
  | _ => []

/-- The fields of a built-in class. -/
def fields : SemanticType → List String
  | .object => words "__class__"
  | .int => words "real imag numerator denominator"
  | .float => words "real imag"
  | .decimal => words "real imag"
  | _ => []

end BuiltIn

namespace Standing

/-- The operators of a standing class. -/
def operators : StandingClass → List String
  | .classOfClasses => words <|
    "__repr__ __call__ __getattribute__ __setattr__ __delattr__ __init__ __or__ __ror__"
  | .function => words "__repr__ __call__ __get__"
  | .method => words <|
    "__repr__ __hash__ __call__ __getattribute__ __setattr__ __delattr__ __lt__ __le__ __eq__ " ++
    "__ne__ __gt__ __ge__"
  | .nativeFunction => words <|
    "__repr__ __hash__ __call__ __getattribute__ __lt__ __le__ __eq__ __ne__ __gt__ __ge__"
  | .nativeMethod => words "__repr__ __call__ __getattribute__ __get__"
  | .operator => words "__repr__ __call__ __getattribute__ __get__"
  | .boundOperator => words <|
    "__repr__ __hash__ __call__ __getattribute__ __lt__ __le__ __eq__ __ne__ __gt__ __ge__"
  | .nativeField => words "__repr__ __getattribute__ __get__ __set__ __delete__"
  | .nativeMember => words "__repr__ __getattribute__ __get__ __set__ __delete__"
  | .listing => words <|
    "__repr__ __str__ __getattribute__ __lt__ __le__ __eq__ __ne__ __gt__ __ge__ __iter__ " ++
    "__or__ __ror__ __ior__ __len__ __getitem__ __contains__"
  | .containerAlias => words <|
    "__repr__ __hash__ __call__ __getattribute__ __lt__ __le__ __eq__ __ne__ __gt__ __ge__ " ++
    "__iter__ __or__ __ror__ __getitem__"
  | .frozenSet => words <|
    "__repr__ __hash__ __getattribute__ __lt__ __le__ __eq__ __ne__ __gt__ __ge__ __iter__ " ++
    "__sub__ __rsub__ __and__ __rand__ __xor__ __rxor__ __or__ __ror__ __len__"
  | .mutableSet => words <|
    "__repr__ __getattribute__ __lt__ __le__ __eq__ __ne__ __gt__ __ge__ __iter__ __init__ " ++
    "__sub__ __rsub__ __and__ __rand__ __xor__ __rxor__ __or__ __ror__ __isub__ __iand__ " ++
    "__ixor__ __ior__ __len__"
  | _ => []

/-- The methods of a standing class. -/
def methods : StandingClass → List String
  | .classOfClasses => words "mro __subclasses__ __instancecheck__ __subclasscheck__ __dir__ __sizeof__"
  | .method => words "__reduce__"
  | .nativeFunction => words "__reduce__"
  | .nativeMethod => words "__reduce__"
  | .operator => words "__reduce__"
  | .boundOperator => words "__reduce__"
  | .nativeMember => words "__reduce__"
  | .listing => words "get keys values items copy __reversed__"
  | .containerAlias => words "__mro_entries__ __instancecheck__ __subclasscheck__ __reduce__ __dir__"
  | .frozenSet => words <|
    "__contains__ copy difference intersection isdisjoint issubset issuperset __reduce__ " ++
    "__sizeof__ symmetric_difference union"
  | .mutableSet => words <|
    "__contains__ add clear copy discard difference difference_update intersection " ++
    "intersection_update isdisjoint issubset issuperset pop __reduce__ remove __sizeof__ " ++
    "symmetric_difference symmetric_difference_update union update"
  | _ => []

/-- The functions that a standing class itself is asked for. -/
def ofClass : StandingClass → List String
  | .classOfClasses => words "__new__ __prepare__"
  | .function => words "__new__"
  | .method => words "__new__"
  | .listing => words "__new__ __class_getitem__"
  | .containerAlias => words "__new__"
  | .frozenSet => words "__new__ __class_getitem__"
  | .mutableSet => words "__new__ __class_getitem__"
  | _ => []

/-- The fields of a standing class that are worked out. -/
def fields : StandingClass → List String
  | .classOfClasses => words <|
    "__name__ __qualname__ __bases__ __module__ __abstractmethods__ __dict__ __doc__ " ++
    "__text_signature__ __annotations__"
  | .function => words <|
    "__code__ __defaults__ __kwdefaults__ __annotations__ __dict__ __name__ __qualname__"
  | .method => words "__doc__"
  | .nativeFunction => words "__doc__ __name__ __qualname__ __self__ __text_signature__"
  | .nativeMethod => words "__doc__ __qualname__ __text_signature__"
  | .operator => words "__doc__ __qualname__ __text_signature__"
  | .boundOperator => words "__objclass__ __name__ __qualname__ __doc__ __text_signature__"
  | .nativeField => words "__doc__ __qualname__"
  | .nativeMember => words "__doc__ __qualname__"
  | .containerAlias => words "__parameters__ __typing_unpacked_tuple_args__"
  | _ => []

/-- The fields of a standing class that are kept. -/
def parts : StandingClass → List String
  | .classOfClasses => words <|
    "__basicsize__ __itemsize__ __flags__ __weakrefoffset__ __base__ __dictoffset__ __mro__"
  | .function => words "__closure__ __doc__ __globals__ __module__ __builtins__"
  | .method => words "__func__ __self__"
  | .nativeFunction => words "__module__"
  | .nativeMethod => words "__objclass__ __name__"
  | .operator => words "__objclass__ __name__"
  | .boundOperator => words "__self__"
  | .nativeField => words "__objclass__ __name__"
  | .nativeMember => words "__objclass__ __name__"
  | .containerAlias => words "__origin__ __args__ __unpacked__"
  | _ => []

end Standing

/-- Members of one sort, each under its name. -/
def named (sort : MemberSort) (owner : ClassId) (names : List String) : Table Member :=
  names.map fun name => (name, ⟨sort, owner, name⟩)

/-- The members of a built-in class. -/
def ofBuiltIn (owner : ClassId) (t : SemanticType) : Table Member :=
  named .operator owner (BuiltIn.operators t) ++ named .method owner (BuiltIn.methods t) ++
    named .ofClass owner (BuiltIn.ofClass t) ++ named .field owner (BuiltIn.fields t)

/-- The members of a standing class. -/
def ofStanding (c : StandingClass) : Table Member :=
  named .operator c.id (Standing.operators c) ++ named .method c.id (Standing.methods c) ++
    named .ofClass c.id (Standing.ofClass c) ++ named .field c.id (Standing.fields c) ++
    named .part c.id (Standing.parts c)

end Member

end FilterAlgebra
