import FilterAlgebra.Proofs.Requests

/-!
# Styles as objects

Between quotation marks a text is put by a style, which is an object with two options.
To double the marks it asks the text itself to replace each of them by two, which is a
search for occurrences of a part. What comes out is the text that
`QuoteStyle.quote` describes character by character: `quote_makes`.
-/

set_option autoImplicit false

namespace FilterAlgebra

namespace Search

/-- Cutting gives at least one piece. -/
theorem cut_ne_nil {α : Type} [BEq α] (part : List α) (skip limit : Nat) (piece whole : List α) :
    cut part skip limit piece whole ≠ [] := by
  fun_induction cut part skip limit piece whole <;> simp_all

/-- Where single marks are cut out and two are put in the place of each, marks are doubled. -/
theorem intercalate_cut (mark : Char) {limit : Nat} {chars : List Char} (enough : chars.length ≤ limit)
    (piece : List Char) :
    [mark, mark].intercalate (cut [mark] 0 limit piece chars) =
      piece.reverse ++ QuoteStyle.doubleMarks mark chars := by
  induction chars generalizing limit piece with
  | nil => simp [cut, QuoteStyle.doubleMarks]
  | cons c rest ih =>
    have positive : 0 < limit := Nat.lt_of_lt_of_le (by simp) enough
    have enough' : rest.length ≤ limit - 1 := by
      rw [List.length_cons] at enough
      omega
    by_cases same : c = mark
    · subst same
      have step : cut [c] 0 limit piece (c :: rest) = piece.reverse :: cut [c] 0 (limit - 1) [] rest := by
        simp [cut, positive]
      obtain ⟨first, others, pieces⟩ : ∃ first others, cut [c] 0 (limit - 1) [] rest = first :: others :=
        List.exists_cons_of_ne_nil (cut_ne_nil [c] 0 (limit - 1) [] rest)
      have later := ih enough' []
      rw [pieces] at later
      rw [step, pieces, List.intercalate_cons_cons, later]
      simp [QuoteStyle.doubleMarks]
    · have step : cut [mark] 0 limit piece (c :: rest) = cut [mark] 0 limit (c :: piece) rest := by
        simp [cut, Ne.symm same]
      rw [step, ih (by omega) (c :: piece)]
      simp [QuoteStyle.doubleMarks, same]

/-- Replacing each mark by two doubles the marks. -/
theorem replaceFirst_mark (mark : Char) (chars : List Char) :
    replaceFirst [mark] [mark, mark] (chars.length + 1) chars = QuoteStyle.doubleMarks mark chars := by
  simp only [replaceFirst, split, List.isEmpty_cons, Bool.false_eq_true, if_false]
  exact intercalate_cut mark (Nat.le_succ _) []

end Search

/-- A text with each mark replaced by two is the text with its marks doubled. -/
theorem Value.replace_mark (mark : Char) (t : String) :
    (Value.str t).writingMember? "replace" [.str mark.toString, .str (mark.toString ++ mark.toString)] =
      some (Value.reply (.str (String.ofList (QuoteStyle.doubleMarks mark t.toList)))) := by
  have one : mark.toString.toList = [mark] := by simp
  have two : (mark.toString ++ mark.toString).toList = [mark, mark] := by simp
  have replaced : Value.ofCharacters.replaceParts t.toList
      [.str mark.toString, .str (mark.toString ++ mark.toString)] =
        Value.reply (.str (String.ofList (QuoteStyle.doubleMarks mark t.toList))) := by
    rw [← Search.replaceFirst_mark]
    simp only [Writing.replaceParts, Writing.part, Value.ofCharacters, Value.characters?, Value.text?, Value.held,
      Text.content, Option.map_some, Fault.ofOption, one, two]
    rfl
  show Value.textMember? t "replace" _ = _
  simp only [Value.textMember?, Writing.sharedMember?, replaced]

/-- A text between two marks, the marks inside doubled or not. -/
theorem QuoteStyle.quote_eq (style : QuoteStyle) (t : String) :
    style.quote t = style.mark.char.toString ++ String.ofList (style.body t.toList) ++ style.mark.char.toString := by
  rw [← String.toList_inj]
  simp [QuoteStyle.quote, QuoteStyle.quoteChars]

namespace Session

variable {s s' : Session} {r : Ref}

/-- A plain object with a value for its content is the value. -/
theorem IsPlain.value_eq {v : Value} (h : s.IsPlain r (.atom v)) : s.value r = v := by
  rw [value_eq_contentValue h.below?_eq, Snapshot.contentValue, h.content_eq]

/-- A plain object with a value for its content is no node. -/
theorem IsPlain.isNode_eq {v : Value} (h : s.IsPlain r (.atom v)) : s.isNode r = false := by
  rw [isNode, madeOf?, h.content_eq, h.below?_eq]
  rfl

end Session

namespace SessionM

variable {s : Session} {r : Ref} (call : Caller)

/-- What looking at a plain object gives. -/
theorem runIn_valueOf {v : Value} (h : s.IsPlain r (.atom v)) : (valueOf r).runIn s = (.ok v, s) := by
  rw [← h.value_eq]
  rfl

/-- What a plain object comes to as a truth value is what its value comes to. -/
theorem runIn_truthOf {v : Value} (h : s.IsPlain r (.atom v)) : (truthOf r).runIn s = (.ok v.truth, s) := by
  rw [truthOf, runIn_get_bind, h.content_eq, runIn_bind_of_ok (runIn_valueOf h)]
  rfl

/-- A plain text appears in texts as it is. -/
theorem runIn_displayOf {t : String} (h : s.IsPlain r (.atom (.str t))) :
    (displayOf call r).runIn s = (.ok t, s) := by
  rw [displayOf, runIn_get_bind, h.isNode_eq]
  simp only [Bool.false_eq_true, if_false]
  rw [runIn_bind_of_ok (runIn_valueOf h)]
  rfl

/-- The member of texts that replaces parts takes what is replaced and what comes in its place. -/
theorem replace_takes (fullName : String) :
    (⟨.method, StandingClass.builtIn .str, "replace"⟩ : Member).intake.complaint? "replace" fullName 2 = none := by
  have ofTexts : Hierarchy.builtIn? (StandingClass.builtIn .str) = some .str := by decide
  have intake : (⟨.method, StandingClass.builtIn .str, "replace"⟩ : Member).intake = .expecting 2 3 := by
    simp only [Member.intake, ofTexts, Intake.ofMethod]
  rw [intake]
  rfl

/-- Replacing parts of a text is left to its value. -/
theorem runIn_performMember_replace {text old new : Ref} {t : Text} (content : s.content text = .atom (.text t)) :
    (performMember call ⟨.method, StandingClass.builtIn .str, "replace"⟩ text { positional := [old, new] }).runIn s =
      (callOfValue ⟨.method, StandingClass.builtIn .str, "replace"⟩ text [old, new]).runIn s := by
  have notOfObjects : StandingClass.builtIn .str ≠ Hierarchy.objectId := by decide
  rw [performMember, runIn_get_bind, content]
  simp [notOfObjects]

/-- A text replaces each mark in itself by two. -/
theorem replace_makes (order : s.InOrder) {n : Nat} {text old new : Ref} {t : String} {mark : Char}
    (isText : s.IsPlain text (.atom (.str t))) (isOld : s.IsPlain old (.atom (.str mark.toString)))
    (isNew : s.IsPlain new (.atom (.str (mark.toString ++ mark.toString)))) :
    Makes (fun s' r => s'.IsPlain r (.atom (.str (String.ofList (QuoteStyle.doubleMarks mark t.toList))))) s
      (ask (callWithin (n + 1)) text "replace" [old, new]) := by
  have classOf : s.classOf text = StandingClass.builtIn .str := by
    rw [Session.classOf, isText.below?_eq, isText.content_eq]
    rfl
  have keeps : s.Keeps (s.classOf text) "replace" (.member ⟨.method, StandingClass.builtIn .str, "replace"⟩) := by
    rw [classOf]
    exact order.replacing
  obtain ⟨s', comesTo⟩ := ask_comesTo (n := n) order isText.lt (isText.content_eq ▸ rfl) (isText.attribute?_eq _)
    keeps rfl (by decide) [old, new]
  have order' := comesTo.1.order
  have extended := comesTo.1.extended
  refine comesTo.makes ?_
  have isText' := isText.extended extended
  have values : ([old, new].mapM valueOf).runIn s' =
      (.ok [.str mark.toString, .str (mark.toString ++ mark.toString)], s') :=
    runIn_mapM (.cons (runIn_valueOf (isOld.extended extended))
      (.cons (runIn_valueOf (isNew.extended extended)) .nil))
  have performed : (callMember (callWithin n) ⟨.method, StandingClass.builtIn .str, "replace"⟩ text
      { positional := [old, new] }).runIn s' =
        (newText (String.ofList (QuoteStyle.doubleMarks mark t.toList))).runIn s' := by
    rw [runIn_callMember _ _ _ replace_takes, runIn_performMember_replace _ isText'.content_eq]
    unfold callOfValue
    rw [runIn_bind_of_ok (runIn_valueOf isText'), runIn_bind_of_ok values]
    have noOperator : Comparison.ofName? "replace" = none := by decide
    have noInteger : StandingClass.builtIn .str ≠ StandingClass.builtIn .int := by decide
    simp only [noOperator, noInteger, if_false, Value.replace_mark, Option.some_or]
    rfl
  unfold Makes
  rw [performed]
  exact newText_makes order' _

/-- A style puts a text between its marks, the marks inside doubled if it says so. -/
theorem quote_makes (order : s.InOrder) {n : Nat} {style text : Ref} {chosen : QuoteStyle} {t : String}
    (isStyle : s.IsStyle style chosen) (isText : s.IsPlain text (.atom (.str t))) :
    Makes (fun s' r => s'.IsPlain r (.atom (.str (chosen.quote t)))) s
      (quote (callWithin (n + 1)) style text) := by
  obtain ⟨mark, doubled, object, isMark, isDoubled⟩ := isStyle
  have direct : (s.content style).isDirect = true := object.content_eq ▸ rfl
  have ownDoubled : (attributeOf style QuoteStyle.doubledOption).runIn s = (.ok doubled, s) :=
    runIn_attributeOf_own direct (by decide) (object.attribute?_eq _)
  have ownMark : ∀ {s'}, s.ExtendedBy s' → (attributeOf style QuoteStyle.markOption).runIn s' = (.ok mark, s') :=
    fun extended => by
      have object' := object.extended extended
      exact runIn_attributeOf_own (object'.content_eq ▸ rfl) (by decide) (object'.attribute?_eq _)
  have around : ∀ s₁ body, s.ExtendedBy s₁ → s₁.InOrder →
      s₁.IsPlain body (.atom (.str (String.ofList (chosen.body t.toList)))) →
      Makes (fun s' r => s'.IsPlain r (.atom (.str (chosen.quote t)))) s₁ (do
        let mark ← displayOf (callWithin (n + 1)) (← attributeOf style QuoteStyle.markOption)
        newText (mark ++ (← displayOf (callWithin (n + 1)) body) ++ mark)) := by
    intro s₁ body extended order₁ isBody
    refine Makes.read (ownMark extended) (Makes.read (runIn_displayOf _ (isMark.extended extended)) ?_)
    refine Makes.read (runIn_displayOf _ isBody) ?_
    rw [QuoteStyle.quote_eq]
    exact newText_makes order₁ _
  unfold quote
  refine Makes.read ownDoubled (Makes.read (runIn_truthOf isDoubled) ?_)
  cases both : chosen.doubled with
  | true =>
    simp only [Value.truth]
    refine Makes.read (ownMark (.refl s)) (Makes.read (runIn_displayOf _ isMark) ?_)
    refine (newText_makes order _).bind fun s₁ new extended order₁ isNew => ?_
    refine (replace_makes order₁ (isText.extended extended) (isMark.extended extended) isNew).bind
      fun s₂ body extended' order₂ isBody => ?_
    refine around s₂ body (extended.trans extended') order₂ ?_
    simpa only [QuoteStyle.body, both, if_true] using isBody
  | false =>
    simp only [Value.truth, pure_bind]
    refine around s text (.refl s) order ?_
    simpa only [QuoteStyle.body, both, Bool.false_eq_true, if_false, String.ofList_toList] using isText

end SessionM

end FilterAlgebra
