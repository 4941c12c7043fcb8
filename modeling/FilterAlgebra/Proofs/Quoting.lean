import FilterAlgebra.Text.Quoting

/-!
# Reading quoted texts back

A quoted text whose marks are doubled can be read back out of any surrounding text:
two marks in a row stand for one, and the first mark that stands alone ends the text.
`unquoteBody_doubleMarks` says that this recovers the text and what follows it, and
`quoteChars_append_inj` that nothing else could have been meant. What can be read at all was
written so (`eq_doubleMarks_of_unquoteBody`), which makes reading and quoting inverse to each
other: `quoted_text_read_back` is the main result.
-/

set_option autoImplicit false

namespace FilterAlgebra.QuoteStyle

/-- Reads a text whose opening mark has been read, and gives what follows its closing mark. -/
def unquoteBody (mark : Char) : List Char → Option (List Char × List Char)
  | [] => none
  | [c] => if c = mark then some ([], []) else none
  | c :: d :: rest =>
    if c = mark then
      if d = mark then (unquoteBody mark rest).map fun (read, after) => (mark :: read, after)
      else some ([], d :: rest)
    else (unquoteBody mark (d :: rest)).map fun (read, after) => (c :: read, after)

/-- What follows a text does not begin with its mark. -/
def Ends (mark : Char) (rest : List Char) : Prop :=
  rest.head? ≠ some mark

variable {mark : Char} {chars other rest rest' : List Char} {style : QuoteStyle}

/-- A mark that is not doubled ends the text. -/
theorem unquoteBody_mark (h : Ends mark rest) :
    unquoteBody mark (mark :: rest) = some ([], rest) := by
  cases rest with
  | nil => simp [unquoteBody]
  | cons d rest =>
    have hd : d ≠ mark := by simpa [Ends] using h
    simp [unquoteBody, hd]

/-- Two marks are read as one that belongs to the text. -/
theorem unquoteBody_mark_mark (mark : Char) (rest : List Char) :
    unquoteBody mark (mark :: mark :: rest) =
      (unquoteBody mark rest).map fun (read, after) => (mark :: read, after) := by
  simp [unquoteBody]

/-- Any other character is read as it is. -/
theorem unquoteBody_of_ne {c : Char} (hc : c ≠ mark) (rest : List Char) :
    unquoteBody mark (c :: rest) =
      (unquoteBody mark rest).map fun (read, after) => (c :: read, after) := by
  cases rest <;> simp [unquoteBody, hc]

/-- A text with doubled marks is read back up to its closing mark. -/
theorem unquoteBody_doubleMarks (h : Ends mark rest) (chars : List Char) :
    unquoteBody mark (doubleMarks mark chars ++ mark :: rest) = some (chars, rest) := by
  induction chars with
  | nil => exact unquoteBody_mark h
  | cons c chars ih =>
    by_cases hc : c = mark
    · subst hc
      simp [doubleMarks, unquoteBody_mark_mark, ih]
    · simp [doubleMarks, hc, unquoteBody_of_ne hc, ih]

example : unquoteBody '\'' "it''s' and".toList = some ("it's".toList, " and".toList) := by
  decide

/-- What is read up to a closing mark was written with doubled marks, and the closing mark stands
alone. -/
theorem eq_doubleMarks_of_unquoteBody {text : List Char}
    (read : unquoteBody mark text = some (chars, rest)) :
    text = doubleMarks mark chars ++ mark :: rest ∧ Ends mark rest := by
  -- along the reader: what it has read grows by one character with each step
  fun_induction unquoteBody mark text generalizing chars with
  | case1 => cases read
  | case2 =>
    obtain ⟨rfl, rfl⟩ := Prod.mk.inj (Option.some.inj read)
    exact ⟨rfl, by simp [Ends]⟩
  | case3 => cases read
  | case4 after ih =>
    obtain ⟨⟨later, rest'⟩, hlater, heq⟩ := Option.map_eq_some_iff.mp read
    obtain ⟨rfl, rfl⟩ := Prod.mk.inj heq
    obtain ⟨rfl, ends⟩ := ih hlater
    exact ⟨by simp [doubleMarks], ends⟩
  | case5 d after hd =>
    obtain ⟨rfl, rfl⟩ := Prod.mk.inj (Option.some.inj read)
    exact ⟨rfl, by simpa [Ends] using hd⟩
  | case6 c d after hc ih =>
    obtain ⟨⟨later, rest'⟩, hlater, heq⟩ := Option.map_eq_some_iff.mp read
    obtain ⟨rfl, rfl⟩ := Prod.mk.inj heq
    obtain ⟨htext, ends⟩ := ih hlater
    exact ⟨by simp [doubleMarks, hc, htext], ends⟩

/-! ### Whether doubling shows -/

/-- A text without marks is left as it is. -/
theorem doubleMarks_of_notMem {mark : Char} {chars : List Char} (h : mark ∉ chars) :
    doubleMarks mark chars = chars := by
  induction chars with
  | nil => rfl
  | cons c rest ih =>
    obtain ⟨hc, hrest⟩ : ¬mark = c ∧ mark ∉ rest := by simpa using h
    simp [doubleMarks, Ne.symm hc, ih hrest]

/-- Where no mark stands in a text it does not matter whether marks are doubled. -/
theorem quote_eq_of_notMem {other : QuoteStyle} (mark : style.mark = other.mark) {s : String}
    (h : style.mark.char ∉ s.toList) : style.quote s = other.quote s := by
  have plain (style' : QuoteStyle) (hmark : style'.mark = style.mark) :
      style'.body s.toList = s.toList := by
    unfold body
    split
    · rw [hmark]
      exact doubleMarks_of_notMem h
    · rfl
  rw [quote, quote, quoteChars, quoteChars, plain style rfl, plain other mark.symm, mark]

/-- Doubling adds a character for each mark in the text. -/
theorem length_doubleMarks (mark : Char) (chars : List Char) :
    (doubleMarks mark chars).length = chars.length + chars.count mark := by
  induction chars with
  | nil => rfl
  | cons c rest ih =>
    by_cases hc : c = mark
    · simp only [doubleMarks, hc, if_true, List.length_cons, List.count_cons_self, ih]
      omega
    · simp only [doubleMarks, hc, if_false, List.length_cons, List.count_cons_of_ne hc, ih]
      omega

/-- Doubling shows exactly where a mark stands in the text. -/
theorem quote_doubled_eq_plain_iff (mark : QuoteMark) (s : String) :
    (⟨mark, true⟩ : QuoteStyle).quote s = (⟨mark, false⟩ : QuoteStyle).quote s ↔
      mark.char ∉ s.toList := by
  constructor
  · intro same
    have hbody : doubleMarks mark.char s.toList = s.toList := by
      have hchars := String.ofList_injective same
      simpa [quoteChars, body] using hchars
    have hlength := length_doubleMarks mark.char s.toList
    rw [hbody] at hlength
    exact List.count_eq_zero.mp (by omega)
  · intro unmarked
    have sameMark : (⟨mark, true⟩ : QuoteStyle).mark = (⟨mark, false⟩ : QuoteStyle).mark := rfl
    exact quote_eq_of_notMem sameMark unmarked

/-! ### Reading at the head of a text -/

/-- Reads a quoted text at the head of a text, and gives what follows it. -/
def unquote (mark : QuoteMark) (text : String) : Option (String × String) :=
  match text.toList with
  | [] => none
  | c :: rest =>
    if c = mark.char then
      (unquoteBody mark.char rest).map fun (read, after) => (String.ofList read, String.ofList after)
    else none

example : unquote .double "\"\"\"\"' and" = some ("\"", "' and") := by
  decide

/-- A text is read with a given rest exactly if it is the quoted text before that rest. -/
theorem unquote_eq_some_iff {mark : QuoteMark} {text s rest : String} :
    unquote mark text = some (s, rest) ↔
      text = (⟨mark, true⟩ : QuoteStyle).quote s ++ rest ∧ Ends mark.char rest.toList := by
  have chars : text = (⟨mark, true⟩ : QuoteStyle).quote s ++ rest ↔
      text.toList = mark.char :: (doubleMarks mark.char s.toList ++ mark.char :: rest.toList) := by
    rw [← String.toList_inj]
    simp [quote, quoteChars, body]
  rw [chars]
  constructor
  · intro read
    unfold unquote at read
    split at read
    · cases read
    · rename_i c after htext
      split at read
      · rename_i hc
        obtain ⟨⟨body, rest'⟩, hbody, heq⟩ := Option.map_eq_some_iff.mp read
        obtain ⟨rfl, rfl⟩ := Prod.mk.inj heq
        obtain ⟨written, ends⟩ := eq_doubleMarks_of_unquoteBody hbody
        rw [htext, hc, written, String.toList_ofList, String.toList_ofList]
        exact ⟨rfl, ends⟩
      · cases read
  · rintro ⟨htext, ends⟩
    have hbody := unquoteBody_doubleMarks ends s.toList
    simp [unquote, htext, hbody]

/-- **Quoting with doubled marks can be undone in any surrounding text.** Reading recovers the text and
leaves what follows exactly where a quoted text stands that no further mark follows; and whether marks
are doubled shows exactly in the texts that have one. -/
theorem quoted_text_read_back (mark : QuoteMark) (s : String) :
    (∀ text rest : String, unquote mark text = some (s, rest) ↔
      text = (⟨mark, true⟩ : QuoteStyle).quote s ++ rest ∧ Ends mark.char rest.toList) ∧
    ((⟨mark, true⟩ : QuoteStyle).quote s = (⟨mark, false⟩ : QuoteStyle).quote s ↔
      mark.char ∉ s.toList) := by
  constructor
  · intro text rest
    exact unquote_eq_some_iff
  · exact quote_doubled_eq_plain_iff mark s

end FilterAlgebra.QuoteStyle
