import FilterAlgebra.Session.Function

/-!
# Descriptions of classes and functions

Classes and functions say what they are for. What they say can be asked for like any
other attribute, line breaks and indentation included.
-/

set_option autoImplicit false

namespace FilterAlgebra

namespace Documentation

/-- Lines one below the other. -/
def lines (texts : List String) : String :=
  "\n".intercalate texts

/-- What a built-in class says of itself. -/
def ofBuiltIn : SemanticType → Option String
  | .object => some <| lines
    ["The base class of the class hierarchy.",
     "",
     "When called, it accepts no arguments and returns a new featureless",
     "instance that has no instance attributes and cannot be given any.",
     ""]
  | .int => some <| lines
    ["int([x]) -> integer",
     "int(x, base=10) -> integer",
     "",
     "Convert a number or string to an integer, or return 0 if no arguments",
     "are given.  If x is a number, return x.__int__().  For floating point",
     "numbers, this truncates towards zero.",
     "",
     "If x is not a number or if base is given, then x must be a string,",
     "bytes, or bytearray instance representing an integer literal in the",
     "given base.  The literal can be preceded by '+' or '-' and be surrounded",
     "by whitespace.  The base defaults to 10.  Valid bases are 0 and 2-36.",
     "Base 0 means to interpret the base from the string as an integer literal.",
     ">>> int('0b100', base=0)",
     "4"]
  | .str => some <| lines
    ["str(object='') -> str",
     "str(bytes_or_buffer[, encoding[, errors]]) -> str",
     "",
     "Create a new string object from the given object. If encoding or",
     "errors is specified, then the object must expose a data buffer",
     "that will be decoded using the given encoding and error handler.",
     "Otherwise, returns the result of object.__str__() (if defined)",
     "or repr(object).",
     "encoding defaults to sys.getdefaultencoding().",
     "errors defaults to 'strict'."]
  | .float => some <| "Convert a string or number to a floating point number, if possible."
  | .bool => some <| lines
    ["bool(x) -> bool",
     "",
     "Returns True when the argument x is true, False otherwise.",
     "The builtins True and False are the only two instances of the class bool.",
     "The class bool is a subclass of the class int, and cannot be subclassed."]
  | .bytes => some <| lines
    ["bytes(iterable_of_ints) -> bytes",
     "bytes(string, encoding[, errors]) -> bytes",
     "bytes(bytes_or_buffer) -> immutable copy of bytes_or_buffer",
     "bytes(int) -> bytes object of size given by the parameter initialized with null bytes",
     "bytes() -> empty bytes object",
     "",
     "Construct an immutable array of bytes from:",
     "  - an iterable yielding integers in range(256)",
     "  - a text string encoded using the specified encoding",
     "  - any object implementing the buffer API.",
     "  - an integer"]
  | .tuple => some <| lines
    ["Built-in immutable sequence.",
     "",
     "If no argument is given, the constructor returns an empty tuple.",
     "If iterable is specified the tuple is initialized from iterable's items.",
     "",
     "If the argument is a tuple, the return value is the same object."]
  | .list => some <| lines
    ["Built-in mutable sequence.",
     "",
     "If no argument is given, the constructor creates a new empty list.",
     "The argument must be an iterable if specified."]
  | .dict => some <| lines
    ["dict() -> new empty dictionary",
     "dict(mapping) -> new dictionary initialized from a mapping object's",
     "    (key, value) pairs",
     "dict(iterable) -> new dictionary initialized as if via:",
     "    d = \x7b\x7d",
     "    for k, v in iterable:",
     "        d[k] = v",
     "dict(**kwargs) -> new dictionary initialized with the name=value pairs",
     "    in the keyword argument list.  For example:  dict(one=1, two=2)"]
  | .decimal => some <| lines
    ["Construct a new Decimal object. 'value' can be an integer, string, tuple,",
     "or another Decimal object. If no value is given, return Decimal('0'). The",
     "context does not affect the conversion and is only passed to determine if",
     "the InvalidOperation trap is active.",
     "",
     ""]
  | _ => none

/-- What a standing class says of itself. -/
def ofClass : StandingClass → Option String
  | .abstractBase => some <| lines
    ["Helper class that provides a standard way to create an ABC using",
     "    inheritance.",
     "    "]
  | .generic => some <| lines
    ["Abstract base class for generic types.",
     "",
     "    A generic type is typically declared by inheriting from",
     "    this class parameterized with one or more type variables.",
     "    For example, a generic mapping type might be defined as::",
     "",
     "      class Mapping(Generic[KT, VT]):",
     "          def __getitem__(self, key: KT) -> VT:",
     "              ...",
     "          # Etc.",
     "",
     "    This class can then be used as follows::",
     "",
     "      def lookup_name(mapping: Mapping[KT, VT], key: KT, default: VT) -> VT:",
     "          try:",
     "              return mapping[key]",
     "          except KeyError:",
     "              return default",
     "    "]
  | .expression => some <| lines
    ["",
     "    Base class for all filter expressions.",
     "",
     "    ``T`` is the semantic type the node stands for (int, str, bool, ...).",
     "    It is a phantom parameter for static checkers; ``semantic_type`` carries",
     "    the same information at runtime so operators can reject mismatched",
     "    operands while the expression is being built.",
     "    "]
  | .literal => some <| lines
    ["",
     "    A raw value already rendered to query text.",
     "",
     "    Capabilities produce these when converting bare Python values; the",
     "    ``integer`` and ``string`` helpers build them explicitly.",
     "    "]
  | .binary => some <| lines
    ["",
     "    Two expressions joined by an operator symbol.",
     "",
     "    The operands' own semantic types are erased here; only their ability to",
     "    render is used. Type agreement between operands is checked by the",
     "    operator functions that build these nodes.",
     "",
     "    Example:",
     "        BinaryOpExpr(Integer(\"id\"), \"=\", integer(1)).render()  # \"(id = 1)\"",
     "    "]
  | .capability => some <| lines
    ["Capability converting a bare ``T`` into an ``Expression[T]``.",
     "",
     "    Subclasses set ``semantic_type`` and ``source_schema`` and implement",
     "    ``format``.",
     "",
     "    Example:",
     "        class DecimalExpressable(Expressable[Decimal]):",
     "            semantic_type = Decimal",
     "            source_schema = core_schema.decimal_schema(strict=True)",
     "",
     "            def format(self, value: Decimal) -> str:",
     "                return str(value)",
     "    "]
  | .adapter => some <| "Capability converting a value of source shape ``S`` to ``Expression[T]``."
  | .rawAdapter => some <| "Raw ``T`` to ``Expression[T]``, delegating to an Expressable."
  | .identityAdapter => some <| "``Expression[T]`` to itself."
  | .bundle => some <| "The set of conversion capabilities active while a filter is built."
  | .adapterSet => some <| "The unified capabilities active while a filter is built."
  | .style => some <| lines
    ["Options controlling how raw values are rendered by capabilities.",
     "",
     "    The defaults render text as ``'value'`` with no escaping of embedded",
     "    quotes.",
     "",
     "    Args:",
     "        quote_char: Delimiter placed around text values",
     "        escape_quotes: Double any ``quote_char`` found inside text values",
     "",
     "    Example:",
     "        config = FilterConfig(escape_quotes=True)",
     "        Person.filter(lambda s, p: s.eq(p.name, \"O'Brien\"), config=config)",
     "        # (name = 'O''Brien')",
     "    "]
  | .enumeration => some <| lines
    ["",
     "    Create a collection of name/value pairs.",
     "",
     "    Example enumeration:",
     "",
     "    >>> class Color(Enum):",
     "    ...     RED = 1",
     "    ...     BLUE = 2",
     "    ...     GREEN = 3",
     "",
     "    Access them by:",
     "",
     "    - attribute access::",
     "",
     "    >>> Color.RED",
     "    <Color.RED: 1>",
     "",
     "    - value lookup:",
     "",
     "    >>> Color(1)",
     "    <Color.RED: 1>",
     "",
     "    - name lookup:",
     "",
     "    >>> Color['RED']",
     "    <Color.RED: 1>",
     "",
     "    Enumerations can be iterated over, and know how many members they have:",
     "",
     "    >>> len(Color)",
     "    3",
     "",
     "    >>> list(Color)",
     "    [<Color.RED: 1>, <Color.BLUE: 2>, <Color.GREEN: 3>]",
     "",
     "    Methods can be added to enumerations, and members can have their own",
     "    attributes -- see the documentation for details.",
     "    "]
  | .plainEnumeration => some <| lines
    ["",
     "    Only changes the repr(), leaving str() and format() to the mixed-in type.",
     "    "]
  | .integerEnumeration => some <| lines
    ["",
     "    Enum where members are also (and must be) ints",
     "    "]
  | .textEnumeration => some <| lines
    ["",
     "    Enum where members are also (and must be) strings",
     "    "]
  | .classOfClasses => some <| lines
    ["type(object) -> the object's type",
     "type(name, bases, dict, **kwds) -> a new type"]
  | .abstractClasses => some <| lines
    ["Metaclass for defining Abstract Base Classes (ABCs).",
     "",
     "        Use this metaclass to create an ABC.  An ABC can be subclassed",
     "        directly, and then acts as a mix-in class.  You can also register",
     "        unrelated concrete classes (even built-in classes) and unrelated",
     "        ABCs as 'virtual subclasses' -- these and their descendants will",
     "        be considered subclasses of the registering ABC by the built-in",
     "        issubclass() function, but the registering ABC won't show up in",
     "        their MRO (Method Resolution Order) nor will method",
     "        implementations defined by the registering ABC be callable (not",
     "        even via super()).",
     "        "]
  | .enumerationClasses => some <| lines
    ["",
     "    Metaclass for Enum",
     "    "]
  | .function => some <| lines
    ["Create a function object.",
     "",
     "  code",
     "    a code object",
     "  globals",
     "    the globals dictionary",
     "  name",
     "    a string that overrides the name from the code object",
     "  argdefs",
     "    a tuple that specifies the default argument values",
     "  closure",
     "    a tuple that supplies the bindings for free variables"]
  | .method => some <| "Create a bound instance method object."
  | .containerAlias => some <| lines
    ["Represent a PEP 585 generic type",
     "",
     "E.g. for t = list[int], t.__origin__ is list and t.__args__ is (int,)."]
  | .frozenSet => some <| lines
    ["frozenset() -> empty frozenset object",
     "frozenset(iterable) -> frozenset object",
     "",
     "Build an immutable unordered collection of unique elements."]
  | .mutableSet => some <| lines
    ["set() -> new empty set object",
     "set(iterable) -> new set object",
     "",
     "Build an unordered collection of unique elements."]
  | .typeVariable => some <| lines
    ["Type variable.",
     "",
     "    Usage::",
     "",
     "      T = TypeVar('T')  # Can be anything",
     "      A = TypeVar('A', str, bytes)  # Must be str or bytes",
     "",
     "    Type variables exist primarily for the benefit of static type",
     "    checkers.  They serve as the parameters for generic types as well",
     "    as for generic function definitions.  See class Generic for more",
     "    information on generic types.  Generic functions work as follows:",
     "",
     "      def repeat(x: T, n: int) -> List[T]:",
     "          '''Return a list containing n references to x.'''",
     "          return [x]*n",
     "",
     "      def longest(x: A, y: A) -> A:",
     "          '''Return the longest of two strings.'''",
     "          return x if len(x) >= len(y) else y",
     "",
     "    The latter example's signature is essentially the overloading",
     "    of (str, str) -> str and (bytes, bytes) -> bytes.  Also note",
     "    that if the arguments are instances of some subclass of str,",
     "    the return type is still plain str.",
     "",
     "    At runtime, isinstance(x, T) and issubclass(C, T) will raise TypeError.",
     "",
     "    Type variables defined with covariant=True or contravariant=True",
     "    can be used to declare covariant or contravariant generic types.",
     "    See PEP 484 for more details. By default generic types are invariant",
     "    in all type variables.",
     "",
     "    Type variables can be introspected. e.g.:",
     "",
     "      T.__name__ == 'T'",
     "      T.__constraints__ == ()",
     "      T.__covariant__ == False",
     "      T.__contravariant__ = False",
     "      A.__constraints__ == (str, bytes)",
     "",
     "    Note that only type variables defined in global scope can be pickled.",
     "    "]
  | .propertySet => some <| lines
    ["Base class for a group of properties.",
     "",
     "    Properties are declared as class attributes and collected when the",
     "    subclass is created, including those inherited from parent sets. The",
     "    class itself is the receiver handed to filter build functions.",
     "",
     "    Example:",
     "        class Users(PropertySet):",
     "            id = Integer(\"id\")",
     "            name = Text(\"name\")",
     "",
     "        Users.filter(lambda s, u: s.eq(u.id, 1)).render()  # \"(id = 1)\"",
     "    "]
  | .property => some <| lines
    ["Base class for a named field of a given semantic type.",
     "",
     "    Properties are declared once, usually as class attributes of a",
     "    PropertySet, and never change afterwards.",
     "",
     "    Example:",
     "        class Users(PropertySet):",
     "            id = Integer(\"id\")",
     "            name = Text(\"name\")",
     "    "]
  | .integerProperty => some <| "Integer-valued property."
  | .textProperty => some <| "Text-valued property."
  | .doubleProperty => some <| "Floating point property."
  | .booleanProperty => some <| "Boolean property. Usable directly as a filter."
  | .integerCapability => some <| "Integers, rendered in decimal."
  | .textCapability => some <| lines
    ["Strings, rendered between quotes.",
     "",
     "    Args:",
     "        config: Quoting options; the default uses single quotes, no escaping",
     "    "]
  | .doubleCapability => some <| "Floats, rendered with repr. Not part of the default bundle."
  | _ => none

/-- What a function says of itself. -/
def ofFunction (f : Function) : Option String :=
  match f.owner, f.action with
  | .capability, .register => some <| "Compile the source schema once per capability class."
  | .capability, .format => some <| "Render an accepted value as query text."
  | .capability, .accepts => some <| "Check whether this capability can convert value."
  | .capability, .asExpression => some <| lines
    ["Convert a raw value into a literal expression.",
     "",
     "        Args:",
     "            value: Raw Python value",
     "",
     "        Returns:",
     "            Literal expression of this capability's semantic type",
     "",
     "        Raises:",
     "            UnsupportedConversionError: If the value is not accepted",
     "        "]
  | .capability, .unify => some <| "Adapt this capability to the unified raw-or-node form."
  | .style, .quote => some <| "Wrap a text value in quotes, escaping if enabled."
  | .expression, .render => some <| lines
    ["",
     "        Render this expression to its textual query form.",
     "",
     "        Must be pure: repeated calls return the same string.",
     "",
     "        Returns:",
     "            Fully parenthesized query text",
     "        "]
  | .expression, .conjoinWith => some <| "Join two filters: ``left & right``."
  | .expression, .conjoinAfter =>
    some <| "Reflected join, only reached when the left operand is not an expression."
  | .propertySet, .register => some <| "Collect Property attributes when a subclass is created."
  | .propertySet, .properties => some <| "Get the declared properties keyed by attribute name."
  | .propertySet, .filter .plain => some <| "Build a filter over this set with ``filter_``."
  | .propertySet, .filter .unified => some <| "Build a filter over this set with ``filter2``."
  | .bundle, .capabilityFor => some <| lines
    ["Get the capability converting raw values to semantic_type.",
     "",
     "        Raises:",
     "            UnsupportedConversionError: If no such capability is active",
     "        "]
  | .bundle, .lift => some <| lines
    ["Turn value into an expression.",
     "",
     "        Expressions are returned unchanged. Raw values are converted by the",
     "        capability for semantic_type, or by the first capability accepting",
     "        them when no type is given.",
     "",
     "        Args:",
     "            value: Raw value or expression",
     "            semantic_type: Required semantic type, if known",
     "",
     "        Returns:",
     "            Expression for value",
     "",
     "        Raises:",
     "            UnsupportedConversionError: If value cannot become an expression",
     "                of the required type",
     "        "]
  | .bundle, .equate => some <| lines
    ["Equality between expressions or raw values of one semantic type.",
     "",
     "        A raw value facing an expression is converted to the expression's",
     "        type and rendered on the right: ``eq(1, id)`` gives ``(id = 1)``.",
     "        "]
  | .bundle, .conjoin => some <| "Join two filters with ``and``. Needs no capability."
  | .adapter, .accepts => some <| "Check whether value has this capability's source shape."
  | .adapter, .toExpression => some <| "Convert an accepted value."
  | .adapterSet, .targetTypes => some <| "Semantic types reachable through this scope, in registration order."
  | .adapterSet, .resolve => some <| "Find the capability converting value to target_type, if any."
  | .adapterSet, .equateUnified => some <| lines
    ["Equality between two operands convertible to one common type.",
     "",
     "        Raises:",
     "            UnsupportedConversionError: If no active type accepts both operands",
     "        "]
  | .adapterSet, .conjoinUnified => some <| lines
    ["Join two operands convertible to filters.",
     "",
     "        Raises:",
     "            UnsupportedConversionError: If either operand is not convertible",
     "                to a boolean expression",
     "        "]
  | _, _ => none

end Documentation

end FilterAlgebra
