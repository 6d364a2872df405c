import ChatAssistant.Proofs.Encyclopedia.Query

/-!
# Queries of whole words

Announcements are struck out wherever they stand, inside of words as well, and what is left of such
a word counts as words of their own.  So a query is made of pieces of the words of the question.  If
every announcement stands apart from the words around it, the pieces are whole words, but for the
punctuation that is dropped at the end.

* `Apart.strikes` — striking one of them out leaves the others apart, and brings up no new ones;
* `Kept.strikes` — it leaves whole words;
* `words_query` — what the words of a query are.
-/

namespace ChatAssistant
namespace Encyclopedia

variable {p s t question : Text} {c : Char} {all us vs ws : List Text}

/-! ## Statements -/

/-- The words of the query are words of the question in lower case, in their order; behind the last
of them there may have been punctuation. -/
def KeepsWords (question : Text) : Prop :=
  ∀ front last, Text.words (query question) = front ++ [last] →
    ∃ marks : Text, (∀ c ∈ marks, isClosing c = true) ∧
      (front ++ [last ++ marks]).Sublist (Text.words (Text.lowercase question))

/-- There is nothing in the text but punctuation and then blanks. -/
def isEnding (s : Text) : Bool := Text.isBlankText (s.dropWhile isClosing)

/-- Announcements stand apart from the words around them: in front of each there is a blank or
nothing, and behind it the same, or the punctuation at the end of the text. -/
def Apart (s : Text) : Prop :=
  ∀ p ∈ announcements, ∀ before behind : Text, s = before ++ (p ++ behind) →
    (∀ c ∈ before.getLast?, Text.isBlank c = true) ∧
      ((∀ c ∈ behind.head?, Text.isBlank c = true) ∨ isEnding behind = true)

/-- Every place in the text is looked at for an announcement that does not stand apart. -/
def isApart (s : Text) : Bool :=
  announcements.all fun p => (List.range (s.length + 1)).all fun k =>
    !p.isPrefixOf (s.drop k) ||
      ((s.take k).getLast?.all Text.isBlank &&
        ((s.drop (k + p.length)).head?.all Text.isBlank || isEnding (s.drop (k + p.length))))

theorem isApart_iff : isApart s = true ↔ Apart s := by
  simp only [isApart, List.all_eq_true, Bool.or_eq_true, Bool.and_eq_true, Bool.not_eq_true',
    Option.all_eq_true]
  constructor
  · rintro h p hp before behind rfl
    have hk : before.length ∈ List.range ((before ++ (p ++ behind)).length + 1) := by
      rw [List.mem_range, List.length_append]
      omega
    have hplace := (h p hp before.length hk).resolve_left (by simp)
    simpa [← List.drop_drop] using hplace
  · intro h p hp k hk
    rw [or_iff_not_imp_left, Bool.not_eq_false]
    intro hprefix
    obtain ⟨behind, hbehind⟩ := List.isPrefixOf_iff_prefix.1 hprefix
    have hsplit : s = s.take k ++ (p ++ behind) := by rw [hbehind, List.take_append_drop]
    have hrest : s.drop (k + p.length) = behind := by
      rw [← List.drop_drop, ← hbehind, List.drop_left]
    rw [hrest]
    exact h p hp (s.take k) behind hsplit

instance (s : Text) : Decidable (Apart s) :=
  decidable_of_iff (isApart s = true) isApart_iff

/-! ## Strikes -/

theorem exists_of_isEnding (h : isEnding s = true) :
    ∃ marks gap : Text, s = marks ++ gap ∧ (∀ c ∈ marks, isClosing c = true) ∧
      Text.isBlankText gap = true :=
  ⟨s.takeWhile isClosing, s.dropWhile isClosing, List.takeWhile_append_dropWhile.symm,
    fun _ => List.mem_takeWhile_imp, h⟩

theorem not_isEnding (hc : c ∈ s) (hblank : Text.isBlank c = false)
    (hclosing : isClosing c = false) : ¬ isEnding s = true := by
  intro h
  obtain ⟨marks, gap, rfl, hmarks, hgap⟩ := exists_of_isEnding h
  rcases List.mem_append.1 hc with hc | hc
  · rw [hmarks c hc] at hclosing
    cases hclosing
  · rw [List.all_eq_true.1 hgap c hc] at hblank
    cases hblank

/-- Where a phrase that stood apart is struck out, the others still stand apart, and no new one
comes up. -/
theorem Apart.strikes (h : Apart s) (hstep : Text.Strikes announcements s t) : Apart t := by
  cases hstep with
  | @out p hp before behind =>
      have hfront := (h p hp before behind rfl).1
      intro q hq before' behind' heq
      rcases Text.occurrence_cases heq with ⟨m, rfl, rfl⟩ | ⟨m, rfl, rfl⟩ | ⟨x, y, rfl, rfl, rfl⟩
      · -- behind the space
        obtain ⟨hbefore, hbehind⟩ := h q hq (before ++ (p ++ m)) behind' (by simp)
        refine ⟨fun c hc => ?_, hbehind⟩
        rcases List.eq_nil_or_concat m with rfl | ⟨m, d, rfl⟩
        · obtain rfl : ' ' = c := by simpa using hc
          exact Text.isBlank_space
        · rw [List.concat_eq_append, ← List.cons_append, ← List.append_assoc,
            List.getLast?_concat] at hc
          cases hc
          exact hbefore c (by simp [← List.append_assoc])
      · -- in front of it
        obtain ⟨hbefore, hbehind⟩ := h q hq before' (m ++ (p ++ behind)) (by simp)
        refine ⟨hbefore, .inl fun c hc => ?_⟩
        cases m with
        | nil =>
            cases hc
            exact Text.isBlank_space
        | cons d m =>
            cases hc
            obtain ⟨a, rest, rfl, hblank, hclosing⟩ := exists_letter_cons hp
            exact (hbehind.resolve_right (not_isEnding (by simp) hblank hclosing)) _ rfl
      · -- a phrase with this space would have two blanks in a row, or start with one
        exfalso
        have htidy := tidy_of_mem_announcements hq
        rcases List.eq_nil_or_concat x with rfl | ⟨x, d, rfl⟩
        · have hspace := htidy.front ' ' rfl
          rw [Text.isBlank_space] at hspace
          cases hspace
        · have hd : Text.isBlank d = true := hfront d (by simp [← List.append_assoc])
          have hgap : Text.isBlankText [d, ' '] = true := by
            simp [Text.isBlankText, hd, Text.isBlank_space]
          have htwo := Text.Tidy.gap_eq (s := x) (t := y) (by simpa using htidy) hgap (by simp)
          simp at htwo

/-! ## Words -/

/-- The words are words of the whole text, but the last of them may be punctuation. -/
def Kept (all ws : List Text) : Prop :=
  ws.Sublist all ∨
    ∃ front marks, ws = front ++ [marks] ∧ front.Sublist all ∧ ∀ c ∈ marks, isClosing c = true

namespace Kept

theorem of_sublist (h : Kept all ws) (hsub : vs.Sublist ws) : Kept all vs := by
  rcases h with h | ⟨front, marks, rfl, hfront, hmarks⟩
  · exact .inl (hsub.trans h)
  · obtain ⟨us, last, rfl, hus, hlast⟩ := List.sublist_append_iff.1 hsub
    cases hlast with
    | cons _ hnil =>
        rw [List.sublist_nil.1 hnil, List.append_nil]
        exact .inl (hus.trans hfront)
    | cons_cons _ hnil =>
        rw [List.sublist_nil.1 hnil]
        exact .inr ⟨us, marks, rfl, hus.trans hfront, hmarks⟩

/-- All words but the last are words of the whole text. -/
theorem sublist_of_append (h : Kept all (us ++ vs)) (hne : vs ≠ []) : us.Sublist all := by
  rcases h with h | ⟨front, marks, heq, hfront, -⟩
  · exact (List.sublist_append_left us vs).trans h
  · rcases List.eq_nil_or_concat vs with rfl | ⟨vs, v, rfl⟩
    · exact absurd rfl hne
    · rw [List.concat_eq_append, ← List.append_assoc] at heq
      obtain ⟨rfl, -⟩ := List.append_inj' heq rfl
      exact (List.sublist_append_left us vs).trans hfront

end Kept

/-- Where a phrase that stands apart is struck out, whole words are left out. -/
theorem Kept.strikes (h : Kept all (Text.words s)) (hapart : Apart s)
    (hstep : Text.Strikes announcements s t) : Kept all (Text.words t) := by
  cases hstep with
  | @out p hp before behind =>
      obtain ⟨hbefore, hbehind⟩ := hapart p hp before behind rfl
      rw [Text.words_append_of_getLast? hbefore] at h
      rw [Text.words_append_blank Text.isBlank_space]
      rcases hbehind with hhead | hclose
      · rw [Text.words_append_of_head? hhead] at h
        exact h.of_sublist ((List.sublist_append_right _ _).append_left _)
      · -- the announcement ends in the last word, of which only punctuation is left
        obtain ⟨a, rest, rfl, hblank, -⟩ := exists_letter_cons hp
        have hfront := h.sublist_of_append (Text.words_ne_nil (c := a) (by simp) hblank)
        obtain ⟨marks, gap, rfl, hmarks, hgap⟩ := exists_of_isEnding hclose
        have hhead : ∀ c ∈ gap.head?, Text.isBlank c = true := fun c hc =>
          List.all_eq_true.1 hgap c (List.mem_of_mem_head? hc)
        rw [Text.words_append_of_head? hhead, Text.words_of_isBlankText hgap, List.append_nil]
        by_cases hne : marks = []
        · rw [hne, Text.words_nil, List.append_nil]
          exact .inl hfront
        · have hword : Text.IsWord marks := ⟨hne, fun c hc => isBlank_of_isClosing (hmarks c hc)⟩
          exact .inr ⟨_, marks, congrArg _ hword.words_eq, hfront, hmarks⟩

/-- Wherever the announcements stand apart, what is left has its words from the question. -/
theorem kept_bare (h : Apart (Text.lowercase question)) :
    Kept (Text.words (Text.lowercase question)) (Text.words (bare question)) := by
  have hrun := (struck_bare question).invariant
    (P := fun t => Apart t ∧ Kept (Text.words (Text.lowercase question)) (Text.words t))
    (fun s t hstep ⟨hapart, hkept⟩ => ⟨hapart.strikes hstep, hkept.strikes hapart hstep⟩)
    ⟨h, .inl (List.Sublist.refl _)⟩
  exact hrun.2

theorem Closes.pieces (h : Closes us vs) : Text.Pieces us vs := by
  cases h with
  | none => exact .refl []
  | @cut front last marks hmarks hlast hne =>
      exact (Text.Pieces.refl front).append (.take [] last marks (.done _))
  | lost hmarks => exact .of_sublist (List.sublist_append_left _ _)

/-- Dropping punctuation at the end leaves whole words, but for that punctuation. -/
theorem Closes.exists_sublist (h : Closes ws (us ++ [t])) (hkept : Kept all ws) :
    ∃ marks : Text, (∀ c ∈ marks, isClosing c = true) ∧ (us ++ [t ++ marks]).Sublist all := by
  generalize hvs : us ++ [t] = vs at h
  cases h with
  | none => simp at hvs
  | @cut front last marks hmarks hlast hne =>
      obtain ⟨rfl, hsame⟩ := List.append_inj' hvs rfl
      cases hsame
      refine ⟨marks, hmarks, ?_⟩
      rcases hkept with hkept | ⟨front, close, heq, -, hclose⟩
      · exact hkept
      · obtain ⟨-, hsame⟩ := List.append_inj' heq rfl
        cases hsame
        exact absurd hclose (not_forall_isClosing hlast hne)
  | @lost marks hmarks =>
      refine ⟨[], by simp, ?_⟩
      rw [List.append_nil, hvs]
      exact hkept.sublist_of_append (List.cons_ne_nil _ _)

/-- The words of a query are those that are left of the question when announcements are struck out
and punctuation is dropped at the end.  They are pieces of words of the question, in their order and
without overlaps, and where the announcements stand apart, they are whole words. -/
theorem words_query (question : Text) :
    (∃ left : Text, Text.Struck announcements (Text.lowercase question) left ∧
        Closes (Text.words left) (Text.words (query question))) ∧
      Text.Pieces (Text.words (Text.lowercase question)) (Text.words (query question)) ∧
      (Apart (Text.lowercase question) → KeepsWords question) := by
  refine ⟨⟨bare question, struck_bare question, closes_query question⟩,
    (struck_bare question).pieces.trans (closes_query question).pieces, ?_⟩
  intro hapart front last hwords
  have hcloses := closes_query question
  rw [hwords] at hcloses
  exact hcloses.exists_sublist (kept_bare hapart)

example : Apart (Text.lowercase "Кто такой  Пушкин!".toList) := by
  decide +kernel

/-- The announcement is found with the first letter of a longer word for its last one. -/
theorem query_cuts_preposition : ¬ KeepsWords "расскажи об атоме".toList := by
  have hwords : Text.words (query "расскажи об атоме".toList) =
      ["б".toList] ++ ["атоме".toList] := by decide +kernel
  have hnone : "б".toList ∉ Text.words (Text.lowercase "расскажи об атоме".toList) := by
    decide +kernel
  intro h
  obtain ⟨marks, -, hkept⟩ := h _ _ hwords
  exact hnone (hkept.subset (by simp))

end Encyclopedia
end ChatAssistant
