import FilterAlgebra.Session.Attributes

/-!
# What sessions start from

Before the first step the classes that are always there are filled: each keeps the
functions that it defines, the members of a native class, what it says of itself, and
the values that are the same for all its objects, such as the semantic type of a
property and the form of what a capability accepts. `Session.initial` is the session
with all of that and nothing else.
-/

set_option autoImplicit false

namespace FilterAlgebra

namespace StandardCapability

/-- A mapping of names as a value. -/
def mapping (entries : Table Value) : Value :=
  .dict (entries.map fun (name, _) => .str name) (entries.map (·.2))

/-- What every form ends with: nothing is converted. -/
def strictness : Table Value :=
  [("strict", .bool true)]

/-- The form of what a capability accepts, if it has a form of its own. -/
def form? : StandardCapability → Option Value
  | integer => some integerForm
  | text _ => some textForm
  | double => some <| mapping
    [("type", .str "chain"),
     ("steps", .list
       [mapping [("type", .str "is-instance"), ("cls", .type .float)],
        mapping ([("type", .str "float"), ("allow_inf_nan", .bool false)] ++ strictness)])]
  | hexInteger => none
  | evenInteger => some <| mapping ([("type", .str "int"), ("multiple_of", .int 2)] ++ strictness)
  | shortText _ => some <| mapping
    ([("type", .str "str"), ("max_length", .int 3), ("min_length", .int 1)] ++ strictness)
  | boolean => some <| mapping ([("type", .str "bool")] ++ strictness)
  | decimal => some <| mapping ([("type", .str "decimal")] ++ strictness)
  | pair => some <| mapping
    ([("type", .str "tuple"), ("items_schema", .list [integerForm, textForm])] ++ strictness)
where
  /-- The form of integers. -/
  integerForm : Value := mapping ([("type", .str "int")] ++ strictness)
  /-- The form of texts. -/
  textForm : Value := mapping ([("type", .str "str")] ++ strictness)

end StandardCapability

namespace StandingClass

/-- What the functions do that every class of nodes defines for itself. -/
def recordActions : List Action :=
  [.setUp, .inspect, .sameAs, .hash, .refuseChange, .refuseDeletion]

/-- What the functions do that a class defines. -/
def actions : StandingClass → List Action
  | expression => [.render, .display, .conjoinWith, .conjoinAfter]
  | property => [.checkName, .render] ++ recordActions
  | integerProperty | textProperty | doubleProperty | booleanProperty | decimalProperty => recordActions
  | literal | binary | call => .render :: recordActions
  | capability => [.register, .format, .validate, .accepts, .asExpression, .unify, .inspect]
  | textCapability => [.setUp, .format, .inspect]
  | integerCapability | doubleCapability | hexIntegerCapability | evenIntegerCapability
  | booleanCapability | decimalCapability | pairCapability => [.format]
  | adapter => [.accepts, .toExpression]
  | rawAdapter | identityAdapter => [.setUp, .accepts, .toExpression, .inspect]
  | adapterSet => [.setUp, .targetTypes, .resolve, .combine, .equateUnified, .conjoinUnified, .inspect]
  | bundle => [.setUp, .capabilityFor, .lift, .equate, .conjoin, .inspect]
  | propertySet => [.register, .properties, .filter .plain, .filter .unified]
  | style => [.quote, .hash]
  | model => [.setUp, .inspect, .display, .sameAs, .refuseChange, .refuseDeletion]
  | enumeration => [.setUp, .inspect, .display, .hash]
  | customInt | customText | customFloat => [.inspect]
  | _ => []

/-- The names of further functions that a class defines. -/
def otherFunctions : StandingClass → List String
  | generic => ["__class_getitem__", "__init_subclass__"]
  | model =>
    Action.ofModelClasses ++
      ["__copy__", "__deepcopy__", "__getattr__", "__getstate__", "__setstate__", "__iter__",
       "__pretty__", "__repr_args__", "__repr_name__", "__repr_str__", "__rich_repr__", "copy", "dict",
       "json", "model_copy", "model_dump", "model_dump_json", "model_post_init"]
  | enumeration =>
    ["_generate_next_value_", "_missing_", "__dir__", "__format__", "__reduce_ex__", "__deepcopy__",
     "__copy__"]
  | customText => ["replace"]
  | abstractClasses =>
    ["register", "__instancecheck__", "__subclasscheck__", "_dump_registry", "_abc_registry_clear",
     "_abc_caches_clear"]
  | enumerationClasses =>
    ["__bool__", "__call__", "__contains__", "__delattr__", "__dir__", "__getattr__", "__getitem__",
     "__iter__", "__len__", "__repr__", "__reversed__", "__setattr__", "_create_", "_convert_"]
  | _ => []

/-- The functions that a class defines. -/
def functions (c : StandingClass) : List Function :=
  (c.actions ++ c.otherFunctions.map Action.other).map fun action => ⟨c, action⟩

/-- The fields in which the objects of a class keep the attributes that they have of their own, and
what refers to them without keeping them. -/
def openFields : StandingClass → List String
  | expression | capability | adapter | bundle | adapterSet | propertySet | enumeration
  | textEnumeration | customText | customFloat => [Attribute.all, Attribute.weakReference]
  | model | integerEnumeration | customInt => [Attribute.all]
  | style => [Attribute.weakReference]
  | _ => []

/-- The members that a class keeps. -/
def members (c : StandingClass) : Table Member :=
  Member.ofStanding c ++ (c.openFields.map fun name => (name, ⟨.field, c.id, name⟩)) ++
    match c with
    | enumeration => ["name", "value"].map fun name => (name, ⟨.field, c.id, name⟩)
    | enumerationClasses => [("__members__", ⟨.field, c.id, "__members__"⟩)]
    | integerEnumeration =>
      [(Action.name .display, ⟨.operator, builtIn .int, Action.name .inspect⟩),
       ("__format__", ⟨.method, builtIn .int, "__format__"⟩)]
    | textEnumeration =>
      [(Action.name .display, ⟨.operator, builtIn .str, Action.name .display⟩),
       ("__format__", ⟨.method, builtIn .str, "__format__"⟩)]
    | validator =>
      ["validate_python", "isinstance_python", "validate_json", "validate_strings", "validate_assignment",
        "get_default_value"].map fun name => (name, ⟨.method, c.id, name⟩)
    | _ => []

/-- What the objects of a class cannot do without a class below. -/
def missing? : StandingClass → Option (List String)
  | expression => some [Action.name .render]
  | capability => some [Action.name .format]
  | adapter => some [Action.name .accepts, Action.name .toExpression]
  | c =>
    match c.ownClass? with
    | some abstractClasses | some modelClasses => some []
    | _ => none

/-- The names of the types that a class leaves open. -/
def parameters? : StandingClass → Option (List String)
  | expression | property | literal | binary | capability | rawAdapter | identityAdapter => some ["~T"]
  | adapter => some ["~S", "~T"]
  | integerProperty | textProperty | doubleProperty | booleanProperty | decimalProperty | call
  | integerCapability | textCapability | doubleCapability | hexIntegerCapability | evenIntegerCapability
  | shortTextCapability | booleanCapability | decimalCapability | pairCapability => some []
  | _ => none

/-- What a class says of the attributes of its objects, each name with a class or with words. -/
def annotations : StandingClass → Table (Sum SemanticType String)
  | expression => [typed]
  | property => [shared, ("name", .inl .str)]
  | integerProperty | textProperty | doubleProperty | booleanProperty | decimalProperty => [shared]
  | literal => [typed, ("text", .inl .str)]
  | binary => [("left", .inr anyNode), ("op", .inl .str), ("right", .inr anyNode), typed]
  | adapter => [("target_type", .inr "<class 'type'>")]
  | style =>
    [("quote_char", .inr "typing.Literal[\"'\", '\"']"), ("escape_quotes", .inl .bool)]
  | propertySet => [("_properties", .inr "'ClassVar[Mapping[str, Property[Any]]]'")]
  | _ => []
where
  /-- Every object has a type of its own. -/
  typed : String × Sum SemanticType String := (Attribute.semanticType, .inr "<class 'type'>")
  /-- All objects have one type. -/
  shared : String × Sum SemanticType String := (Attribute.semanticType, .inr "typing.ClassVar[type]")
  /-- Any node. -/
  anyNode : String := "typed_filter.expressions.base.Expression[typing.Any]"

/-- The inspection form of the options with which a class of nodes was made. -/
def recordShown : String :=
  "_DataclassParams(init=True,repr=True,eq=True,order=False,unsafe_hash=False,frozen=True)"

/-- The options of a style, each with the inspection form of what is said of it. -/
def optionsShown : Table String :=
  [(QuoteStyle.markOption, "FieldInfo(annotation=Literal[\"'\", '\"'], required=False, default=\"'\")"),
   (QuoteStyle.doubledOption, "FieldInfo(annotation=bool, required=False, default=False)")]

/-- The named values of a class. -/
def namedValues : StandingClass → List Value
  | color => [Color.red, Color.blue].map Value.color
  | tag => [Tag.a, Tag.q].map fun t => .text (.tag t)
  | _ => []

/-- Whether objects of a class are never keys. -/
def isUnhashable (c : StandingClass) : Bool :=
  c = listing || c = mutableSet || c = model

end StandingClass

/-- Whether objects of a built-in class are never keys. -/
def SemanticType.isUnhashable (t : SemanticType) : Bool :=
  t = list || t = dict

namespace SessionM

mutual

/-- An object for a value, with objects for its parts. -/
def newValue : Value → SessionM Ref
  | .list items => do newObject (.list (← newValues items)) []
  | .tuple items => do newTuple (← newValues items)
  | .dict keys values => do
    let keys ← newValues keys
    newObject (.dict (keys.zip (← newValues values))) []
  | .type t => typeObject t
  | v => newAtom v

/-- Objects for some values. -/
def newValues : List Value → SessionM (List Ref)
  | [] => return []
  | v :: rest => do
    let first ← newValue v
    return first :: (← newValues rest)

end

/-- An object of which only the inspection form is known. -/
def newToken (type : StandingClass) (shown : String) : SessionM Ref :=
  newObject (.token type shown) []

/-- Makes objects for all entries of a table. -/
def newEntries {α : Type} (make : α → SessionM Ref) (table : Table α) : SessionM (Table Ref) :=
  table.mapM fun (name, a) => do return (name, ← make a)

/-- What a class says of itself, or nothing. -/
def newDescription (text? : Option String) : SessionM Ref :=
  match text? with
  | some text => newText text
  | none => absent

/-- What a class says of one of the attributes of its objects. -/
def newAnnotation : Sum SemanticType String → SessionM Ref
  | .inl t => typeObject t
  | .inr shown => newToken .genericAlias shown

/-- What a class of nodes keeps for those who take its objects apart. -/
def recordEntries (c : StandingClass) : SessionM (Table Ref) := do
  match c.fields? with
  | some fields => return [
      ("__match_args__", ← newTuple (← fields.mapM newText)),
      ("__dataclass_params__", ← newToken .recordOptions StandingClass.recordShown)]
  | none => return []

/-- What a capability class keeps besides functions: the type, the form of what it accepts and the
test for it. -/
def capabilityEntries (c : StandingClass) : SessionM (Table Ref) := do
  match c.capability?.bind fun served => served.form?.map fun form => (served, form) with
  | some (served, form) => return [
      ("source_schema", ← newValue form),
      (Attribute.validator, ← newObject (.validator (.ofCatalogue served)) [])]
  | none => return []

/-- What the class of a new kind of capabilities keeps as its semantic type: what it does not say
itself it has from the class above. -/
def typeEntries (c : StandingClass) : SessionM (Table Ref) := do
  if c = .hexIntegerCapability || c = .shortTextCapability then return []
  else
    match c.type? with
    | some t => return [(Attribute.semanticType, ← typeObject t)]
    | none => return []

/-- A named value with its attributes, the place of the value among those of its class given. -/
def newNamed (type : Ref) (v : Value) (place : Nat) : SessionM (Table Ref) := do
  match v.naming with
  | some (name, content) =>
    let r ← newAtom v
    let attributes ← newEntries newValue [("_value_", content), ("_name_", .str name)]
    modifyCell r fun cell => { cell with
      attributes := attributes ++ [("__objclass__", type)] }
    putAttribute r "_sort_order_" (← newAtom (.int place))
    return [(name, r)]
  | none => return []

/-- What a class of named values keeps: the values by their names, and lists of them. -/
def namedEntries (c : StandingClass) : SessionM (Table Ref) := do
  if c.namedValues.isEmpty then return []
  else
    let type ← classObject c.id
    let members := (← c.namedValues.zipIdx.mapM fun (v, place) => newNamed type v place).flatten
    let byValue ← c.namedValues.mapM fun v => do
      return (← newValue ((v.naming.map (·.2)).getD .none), ← newAtom v)
    let held := ((← get).hierarchy.holds c.id).getD Hierarchy.objectId
    return members ++ [
      ("_member_names_", ← newObject (.list (← members.mapM fun (name, _) => newText name)) []),
      ("_member_map_", ← newMapping members),
      ("_value2member_map_", ← newObject (.dict byValue) []),
      ("_member_type_", ← classObject held)]

/-- What a class keeps to say which functions a class below has to define, and which types it
leaves open. -/
def openEntries (c : StandingClass) : SessionM (Table Ref) := do
  let missing ← match c.missing? with
    | some names => pure [("__abstractmethods__", ← newCollection (← names.mapM newText))]
    | none => pure []
  match c.parameters? with
  | some names =>
    return missing ++ [("__parameters__", ← newTuple (← names.mapM (newToken .typeVariable)))]
  | none => return missing

/-- The functions of all named values that a class puts before those of what the values stand for. -/
def sharedEntries (names : List String) : SessionM (Table Ref) := do
  let s ← get
  return names.filterMap fun name => (s.own? StandingClass.enumeration.id name).map fun r => (name, r)

/-- What single classes keep besides. -/
def furtherEntries : StandingClass → SessionM (Table Ref)
  | .integerEnumeration | .textEnumeration => sharedEntries [Action.name .inspect, "__reduce_ex__"]
  | .abstractBase => do return [("__slots__", ← newTuple [])]
  | .generic => do return [("__slots__", ← newTuple []), ("_is_protocol", ← newAtom (.bool false))]
  | .model => do return [
      ("model_config", ← newMapping []), ("model_fields", ← newMapping []),
      ("model_computed_fields", ← newMapping []), ("model_extra", ← absent)]
  | .style => do return [
      ("model_config", ← newValue (StandardCapability.mapping
        [("frozen", .bool true), ("extra", .str "forbid")])),
      ("model_fields", ← newMapping (← newEntries (newToken .optionRecord) StandingClass.optionsShown))]
  | _ => return []

/-- What a standing class keeps besides functions and members. -/
def standingEntries (c : StandingClass) : SessionM (Table Ref) := do
  let home ← if isFixed c.id then pure [] else do pure [(Attribute.home, ← newText c.home)]
  let annotations ← if c.annotations.isEmpty then pure [] else do
    pure [("__annotations__", ← newMapping (← newEntries newAnnotation c.annotations))]
  let unhashable ← if c.isUnhashable then do pure [(Action.name .hash, ← absent)] else pure []
  return home ++ [(Attribute.description, ← newDescription (Documentation.ofClass c))] ++ annotations ++
    unhashable ++ (← typeEntries c) ++ (← recordEntries c) ++ (← capabilityEntries c) ++
    (← namedEntries c) ++ (← openEntries c) ++ (← furtherEntries c)

/-- What a built-in class keeps besides members. -/
def builtInEntries (t : SemanticType) : SessionM (Table Ref) := do
  let unhashable ← if t.isUnhashable then do pure [(Action.name .hash, ← absent)] else pure []
  let home ← if t = .decimal then do pure [(Attribute.home, ← newText "decimal")] else pure []
  return home ++ [(Attribute.description, ← newDescription (Documentation.ofBuiltIn t))] ++ unhashable

/-- Adds attributes to those that a class keeps. -/
def fill (id : ClassId) (kept : Table Ref) : SessionM Unit := do
  setHierarchy ((← get).hierarchy.modify id fun record =>
    { record with own := record.own ++ kept.map fun (name, r) => (name, .declared r) })

/-- Fills a built-in class. -/
def fillBuiltIn (id : ClassId) (t : SemanticType) : SessionM Unit := do
  let members ← newEntries (fun m => newObject (.member m) []) (Member.ofBuiltIn id t)
  fill id (members ++ (← builtInEntries t))

/-- Fills a standing class. -/
def fillStanding (c : StandingClass) : SessionM Unit := do
  let functions ← c.functions.mapM fun f => do return (f.action.name, ← newObject (.function f) [])
  let members ← newEntries (fun m => newObject (.member m) []) c.members
  fill c.id (functions ++ members ++ (← standingEntries c))

/-- Fills all classes that are there before any is defined. -/
def fillAll : SessionM Unit := do
  fillBuiltIn Hierarchy.objectId .object
  Hierarchy.builtIns.forM fun (id, t) => fillBuiltIn id t
  (StandingClass.added ++ [StandingClass.propertySet]).forM fillStanding
  let _ ← collectedObject Hierarchy.rootId []
  let _ ← defaultStyle
  return ()

/-- The session that a computation leaves behind. -/
def left (p : SessionM Unit) (s : Session) : Session :=
  (p.run.run s).2

end SessionM

/-- The session before the first step. -/
def Session.initial : Session :=
  SessionM.fillAll.left {}

end FilterAlgebra
