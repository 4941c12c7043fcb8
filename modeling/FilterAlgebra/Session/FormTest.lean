import FilterAlgebra.Capability.Form.Scalar
import FilterAlgebra.Session.Calling
import FilterAlgebra.Session.Equality
import FilterAlgebra.Session.Prelude

/-!
# Tests by forms

An object is tested by a form part by part. What passes is the object itself where
nothing had to be read or shaped, and a new one otherwise. Issues are reported with the
place in which they lie; of several forms to choose from the one that fits best counts,
and if none fits the issues with each of them are reported under its title.
-/

set_option autoImplicit false

namespace FilterAlgebra

/-- The issues of an outcome, moved to a place. -/
def Form.issuesIn {α : Type} (place : Place) (verdict : Verdict α) : List Issue :=
  (Validation.issuesOf verdict).map fun issue => { issue with place := place :: issue.place }

/-- How far a container is out of bounds, if it is. -/
def Form.lengthIssue? (lengths : Lengths) (what : String) (length : Nat) : Option Expectation :=
  let measured := Measured.container what (some length)
  match lengths.most, lengths.least with
  | some most, _ => if most < length then some (.maxLength measured most) else least?
  | none, _ => least?
where
  /-- The lower bound, if it is not reached. -/
  least? : Option Expectation :=
    lengths.least.bind fun least =>
      if length < least then some (.minLength (.container what (some length)) least) else none

namespace SessionM

/-- What passed a test. -/
abbrev Passed := Verdict (Fitting Ref)

/-- What passed the test of a single value: the object itself if nothing became of it. -/
def passedValue {α : Type} (r : Ref) (wrap : α → Value) (verdict : Verdict (Fitting α)) :
    SessionM Passed := do
  match verdict with
  | .error issues => return .error issues
  | .ok ⟨a, fit⟩ =>
    let isKept : Bool := match fit, (← valueOf r), wrap a with
      | .exact, .text t, .text u => t = u
      | .exact, _, _ => true
      | _, _, _ => false
    return .ok ⟨← if isKept then pure r else newAtom (wrap a), fit⟩

/-- What passed a test that only asks a question of an object. -/
def passedIf (holds : Bool) (r : Ref) (expected : Expectation) : Passed :=
  if holds then .ok ⟨r, .exact⟩ else Form.unmet expected

/-- Whether a class is another one or below it. -/
def isOfType (s : Session) (id : ClassId) (type : SemanticType) : Bool :=
  (Hierarchy.classId? type).any (s.hierarchy.lineage id).contains

/-- Whether an object is a class below another one. -/
def isSubclass (s : Session) (r : Ref) (type : SemanticType) : Bool :=
  match s.content r with
  | .type id => isOfType s id type
  | _ => false

/-- The items of an object that counts as a list or a tuple, and how well it fits. -/
def sequenceOf? (r : Ref) (strict : Bool) (ofTuples : Bool) : SessionM (Option (Fitting (List Ref))) := do
  let s ← get
  let fit := if (s.below? r).isSome then Fit.below else .exact
  match s.content r, ofTuples, strict with
  | .list items, false, _ | .tuple items, true, _ => return some ⟨items, fit⟩
  | _, _, true | .atom _, _, _ | .dict _, _, _ | .listing _, _, _ | .classListing _, _, _ => return none
  | _, _, false => tryCatch (do return some ⟨← itemsOf r, .readable⟩) fun _ => return none

/-- The items of an object that counts as a set, and how well it fits. -/
def collectionOf? (r : Ref) (strict : Bool) (frozen : Bool) : SessionM (Option (Fitting (List Ref))) := do
  let s ← get
  match s.content r, strict with
  | .collection isFrozen items, _ =>
    if frozen = isFrozen then return some ⟨items, if (s.below? r).isSome then Fit.below else .exact⟩
    else return if strict then none else some ⟨items, .readable⟩
  | .list items, false | .tuple items, false => return some ⟨items, .readable⟩
  | _, _ => return none

/-- The entries of an object that counts as a mapping, and how well it fits. -/
def mappingOf? (r : Ref) (strict : Bool) : SessionM (Option (Fitting (List (Ref × Ref)))) := do
  let s ← get
  match s.content r, strict with
  | .dict entries, _ => return some ⟨entries, if (s.below? r).isSome then Fit.below else .exact⟩
  | _, true => return none
  | _, false => return (← entriesOf? r).map fun entries => ⟨entries, .readable⟩

/-- What items passed as, in a new object, unless some of them have issues. -/
def passedItems (fit : Fit) (verdicts : List Passed) (make : List Ref → SessionM Ref) : SessionM Passed := do
  let issues := (verdicts.zipIdx.map fun (verdict, i) => Form.issuesIn (.index i) verdict).flatten
  if issues.isEmpty then
    let passed := verdicts.filterMap Except.toOption
    let r ← make (passed.map Fitting.content)
    return .ok ⟨r, (passed.map Fitting.fit).foldl Fit.worse fit⟩
  else return .error issues

/-- The place of an entry in a mapping. -/
def keyPlace (key : Ref) : SessionM Place := do
  let v ← valueOf key
  match v.text?, v.index? with
  | some name, _ => return .field name
  | none, some (.ofNat i) => return .index i
  | none, _ => return .field (← (v.inspect : SessionM String))

/-- The best one of some fitting objects, the first of several. -/
def bestOf : List (Fitting Ref) → Option (Fitting Ref)
  | [] => none
  | first :: rest =>
    match bestOf rest with
    | some other => if other.fit.betterThan first.fit then some other else some first
    | none => some first

/-- What passed as one of several forms, each with its title: the best fit, or the first one. If none
passed, the issues with all of them. -/
def chosen (best : Bool) (verdicts : List (String × Passed)) : Passed :=
  let passed := verdicts.filterMap (·.2.toOption)
  match if best then bestOf passed else passed.head? with
  | some fitting => .ok fitting
  | none => .error (verdicts.flatMap fun (title, verdict) => Form.issuesIn (.field title) verdict)

/-- The object that a value in a form refers to. -/
def objectOf (v : Value) : SessionM Ref :=
  match v with
  | .object h | .derived h _ => return h.serial
  | v => newValue v

/-- What a function makes of an object. What it complains about as a wrong value is an issue. -/
def appliedTo (call : Caller) (function : Value) (r : Ref) : SessionM Passed :=
  tryCatch (do return .ok ⟨← call (← objectOf function) { positional := [r] }, .exact⟩) fun setback =>
    match setback.failure with
    | .invalid issues => return .error issues
    | .fault f =>
      if [FaultKind.value, .decoding, .encoding].contains f.kind then
        return Form.unmet (.unrefused true f.message)
      else throw setback
    | _ => throw setback

/-- What passed as the fields of a record, under their names, and what else is kept; unless there are
issues. -/
def passedRecord (fit : Fit) (tested : List (String × Passed)) (kept : List (Ref × Ref))
    (issues : List Issue) : SessionM Passed := do
  let issues := tested.flatMap (fun (name, verdict) => Form.issuesIn (.field name) verdict) ++ issues
  if !issues.isEmpty then return .error issues
  else
    let passed := tested.filterMap fun (name, verdict) => verdict.toOption.map fun p => (name, p)
    let entries ← passed.mapM fun (name, p) => do return (← newText name, p.content)
    let made ← newObject (.dict (entries ++ kept)) []
    return .ok ⟨made, (passed.map (·.2.fit)).foldl Fit.worse fit⟩

/-- The entries of a mapping that are none of the fields of a record, and their issues. -/
def otherEntries (others : OtherNames) (known : List String) (entries : List (Ref × Ref)) :
    SessionM (List (Ref × Ref) × List Issue) := do
  if others = .dropped then return ([], [])
  else
    let s ← get
    let unknown := entries.filter fun (key, _) => !(s.text? key).any fun t => known.contains t.content
    let issues ← unknown.filterMapM fun (key, _) => do
      match s.text? key, others with
      | none, _ => return some ⟨[← keyPlace key], .textKeys⟩
      | some t, .forbidden => return some ⟨[.field t.content], .knownField⟩
      | some _, _ => return none
    return (if others = .kept then unknown else [], issues)

/-- Whether an object can show attributes in the place of entries: only one of a class that is not
built in. -/
def showsFields (s : Session) (r : Ref) : Bool :=
  (s.madeOf? r).any fun id => (Hierarchy.builtIn? id).isNone

/-- The tag of an object, if it has one; nothing at all if it is no object to take a tag from. -/
def tagOf? (name : String) (r : Ref) : SessionM (Option (Option Ref)) := do
  let s ← get
  match s.content r with
  | .dict entries | .listing entries => return some ((s.namedEntries entries).get? name)
  | _ =>
    if showsFields s r then return some (← tryCatch (some <$> attributeOf r name) fun _ => return none)
    else return none

section Calls

variable (call : Caller)

mutual

/-- Tests an object by a form. -/
def testByForm : Form → Ref → SessionM Passed
  | .anything, r => return .ok ⟨r, .readable⟩
  | .absent, r => do return passedIf ((← get).isNone r) r .absent
  | .truth strict, r => do passedValue r .bool (Form.testTruth strict (← valueOf r))
  | .integer strict bounds, r => do passedValue r .int (Form.testBoundedInteger strict bounds (← valueOf r))
  | .float strict finite bounds, r => do
    passedValue r .float (Form.testBoundedFloat strict finite bounds (← valueOf r))
  | .decimal strict finite bounds digits, r => do
    passedValue r .decimal (Form.testBoundedDecimal strict finite bounds digits (← valueOf r))
  | .text strict shape, r => do passedValue r .str (Form.testShaped strict shape (← valueOf r))
  | .bytes strict lengths, r => do
    let tested := Form.testBytes strict (← valueOf r)
    passedValue r .bytes (Form.withinLengths lengths .bytes List.length tested)
  | .oneOf expected, r => do passedValue r id (Form.testExpected expected (← valueOf r))
  | .named strict asNumber type shown values, r => do
    let s ← get
    if Hierarchy.classId? type = some (s.classOf r) then return .ok ⟨r, .exact⟩
    else if strict then return Form.unmet (.instanceOf shown)
    else
      let v ← valueOf r
      let stands := fun (content : Value) =>
        if asNumber then (Form.testInteger false v).toOption.any fun n => content.index? = some n.content
        else Form.isExpected v content
      match values.find? fun (_, content, _) => stands content with
      | some (named, _, _) => return .ok ⟨← objectOf named, .readable⟩
      | none => return Form.unmet (.named (Form.alternatives (values.map (·.2.2))))
  | .instanceOf type shown, r => do
    let s ← get
    return passedIf (isOfType s (s.classOf r) type) r (.instanceOf shown)
  | .subclassOf type shown, r => do return passedIf (isSubclass (← get) r type) r (.subclassOf shown)
  | .callable, r => do return passedIf ((← get).isCallable r) r .callable
  | .optional form, r => do if (← get).isNone r then return .ok ⟨r, .exact⟩ else testByForm form r
  | .chain steps, r => testBySteps steps ⟨r, .exact⟩
  | .choice best choices, r => do return chosen best (← testByEach choices r)
  | .list strict item lengths, r => do
    match ← sequenceOf? r strict false with
    | none => return Form.unmet .list
    | some ⟨items, fit⟩ =>
      let verdicts ← items.mapM (testByForm item)
      match Form.lengthIssue? lengths "List" items.length with
      | some expected =>
        if verdicts.all Except.isOk || lengths.most.any (· < items.length) then return Form.unmet expected
        else passedItems fit verdicts newTuple
      | none => passedItems fit verdicts fun items => newObject (.list items) []
  | .tuple strict items repeated lengths, r => do
    match ← sequenceOf? r strict true with
    | none => return Form.unmet .tuple
    | some ⟨given, fit⟩ =>
      let verdicts ← testItems items 0 repeated given
      let expected := verdicts.length
      match Form.lengthIssue? lengths "Tuple" given.length with
      | some expected => return Form.unmet expected
      | none =>
        if expected < given.length then
          return Form.unmet (.maxLength (.container "Tuple" (some given.length)) expected)
        else passedItems fit verdicts newTuple
  | .mapping strict key value lengths, r => do
    match ← mappingOf? r strict with
    | none => return Form.unmet .mapping
    | some ⟨entries, fit⟩ =>
      let verdicts ← entries.mapM fun (k, v) => do
        return (← keyPlace k, ← testByForm key k, ← testByForm value v)
      let issues := verdicts.flatMap fun (place, k, v) =>
        (Form.issuesIn (.field "[key]") k).map (fun issue => { issue with place := place :: issue.place }) ++
          Form.issuesIn place v
      if !issues.isEmpty then return .error issues
      else
        match Form.lengthIssue? lengths "Dictionary" entries.length with
        | some expected => return Form.unmet expected
        | none =>
          let passed := verdicts.filterMap fun (_, k, v) =>
            match k, v with
            | .ok k, .ok v => some (k, v)
            | _, _ => none
          let made ← newObject (.dict (passed.map fun (k, v) => (k.content, v.content))) []
          return .ok ⟨made, (passed.map fun (k, v) => k.fit.worse v.fit).foldl Fit.worse fit⟩
  | .set frozen strict item lengths, r => do
    match ← collectionOf? r strict frozen with
    | none => return Form.unmet (.set frozen)
    | some ⟨items, fit⟩ =>
      let verdicts ← items.mapM (testByForm item)
      let passed := (verdicts.filterMap Except.toOption).map Fitting.content
      let distinct ← ((← get).distinct passed : SessionM (List Ref))
      let word := if frozen then "Frozenset" else "Set"
      match lengths.most.filter (· < distinct.length) with
      | some most => return Form.unmet (.maxLength (.container word none) most)
      | none =>
        match lengths.least.filter (distinct.length < ·) with
        | some least =>
          if verdicts.all Except.isOk then
            return Form.unmet (.minLength (.container word (some distinct.length)) least)
          else passedItems fit verdicts newTuple
        | none =>
          passedItems fit verdicts fun _ =>
            if frozen then newCollection distinct else newObject (.collection false distinct) []
  | .record strict fields forms others, r => do
    match ← mappingOf? r strict with
    | none => return Form.unmet .mapping
    | some ⟨entries, fit⟩ =>
      let tested ← testFields fields forms ((← get).namedEntries entries)
      let (kept, issues) ← otherEntries others (fields.map RecordField.name) entries
      passedRecord fit tested kept issues
  | .byTag name tags forms, r => do
    match ← tagOf? name r with
    | none => return Form.unmet .tagged
    | some none => return Form.unmet (.tagUnder ("'" ++ name ++ "'"))
    | some (some tag) =>
      let v ← valueOf tag
      match ← testByTag v (tags.map (·.1)) forms r with
      | some verdict => return verdict
      | none =>
        let shown ← (v.display : SessionM String)
        return Form.unmet (.knownTag shown ("'" ++ name ++ "'") (", ".intercalate (tags.map (·.2))))
  | .worded issue form, r => do
    match ← testByForm form r with
    | .ok passed => return .ok passed
    | .error _ => return Form.unmet issue
  | .orElse default onIssues form, r => do
    match ← testByForm form r, default.filter fun _ => onIssues with
    | .error _, some v => return .ok ⟨← objectOf v, .readable⟩
    | verdict, _ => return verdict
  | .withFunction .alone function _ _, r => appliedTo call function r
  | .withFunction .before function _ form, r => do
    match ← appliedTo call function r with
    | .ok passed => testByForm form passed.content
    | .error issues => return .error issues
  | .withFunction .after function _ form, r => do
    match ← testByForm form r with
    | .ok passed => appliedTo call function passed.content
    | .error issues => return .error issues
  | .titled _ form, r => testByForm form r

/-- Tests items by the forms of their places, the first of which is given. The repeated form is that of
all items which the others leave. -/
def testItems : List Form → Nat → Option Nat → List Ref → SessionM (List Passed)
  | [], _, _, _ => return []
  | form :: rest, place, repeated, given => do
    if repeated = some place then
      let count := given.length - rest.length
      let verdicts ← (given.take count).mapM (testByForm form)
      return verdicts ++ (← testItems rest (place + 1) repeated (given.drop count))
    else
      match given with
      | [] => return Form.unmet .present :: (← testItems rest (place + 1) repeated [])
      | r :: others => do
        let verdict ← testByForm form r
        return verdict :: (← testItems rest (place + 1) repeated others)

/-- Tests the fields of a record by their forms, given what stands under which name. A field that is
missing has an issue only if it is required. -/
def testFields : List RecordField → List Form → Table Ref → SessionM (List (String × Passed))
  | field :: fields, form :: forms, given => do
    match given.get? field.name, form with
    | some r, form => do
      let verdict ← testByForm form r
      return (field.name, verdict) :: (← testFields fields forms given)
    | none, .orElse (some v) _ _ => do
      let verdict : Passed := .ok ⟨← objectOf v, .exact⟩
      return (field.name, verdict) :: (← testFields fields forms given)
    | none, _ => do
      let rest ← testFields fields forms given
      return if field.required then (field.name, Form.unmet .present) :: rest else rest
  | _, _, _ => return []

/-- Tests an object by the form of its tag, if there is one of that tag. Issues are reported in the place
of the tag. -/
def testByTag (tag : Value) : List Value → List Form → Ref → SessionM (Option Passed)
  | known :: tags, form :: forms, r => do
    if Form.isExpected tag known then
      let place := match known.text?, known.index? with
        | none, some (.ofNat i) => Place.index i
        | _, _ => .field (Form.wordsOf known)
      match ← testByForm form r with
      | .ok passed => return some (.ok passed)
      | verdict => return some (.error (Form.issuesIn place verdict))
    else testByTag tag tags forms r
  | _, _, _ => return none

/-- Tests an object by one form after another, each of what the one before let pass. -/
def testBySteps : List Form → Fitting Ref → SessionM Passed
  | [], passed => return .ok passed
  | form :: rest, passed => do
    match ← testByForm form passed.content with
    | .ok next => testBySteps rest ⟨next.content, passed.fit.worse next.fit⟩
    | .error issues => return .error issues

/-- Tests an object by each of some forms. -/
def testByEach : List Form → Ref → SessionM (List (String × Passed))
  | [], _ => return []
  | form :: rest, r => do
    let verdict ← testByForm form r
    return (form.title, verdict) :: (← testByEach rest r)

end

end Calls

end SessionM

end FilterAlgebra
