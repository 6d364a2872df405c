import ChatAssistant.Proofs.Text.Words
import Mathlib.Data.List.Chain

/-!
# Tidy texts

All the blanks of a tidy text are single spaces between its words.  Collapsing makes any text tidy
and leaves a tidy text as it is, so a tidy text is its words with spaces between them, and what is
said of such a text can be said of its words.

* `tidy_collapse`, `Tidy.collapse_eq` — tidy texts are the collapsed texts;
* `words_spaced_append`, `Tidy.getLast?_eq` — the words of a tidy text and its end;
* `isInfix_of_isInfix_collapse` — a phrase without spaces lies in one word;
* `pair_isInfix_collapse` — a phrase of two words lies where one word ends and the next begins.
-/

namespace ChatAssistant
namespace Text

variable {c : Char} {s t gap word rest x y : Text} {ws front : List Text}

/-- All the blanks in the text are spaces, and they stand one at a time and between words. -/
structure Tidy (s : Text) : Prop where
  front : ∀ c ∈ s.head?, isBlank c = false
  back : ∀ c ∈ s.getLast?, isBlank c = false
  single : s.IsChain fun c d => isBlank c = false ∨ isBlank d = false
  spaces : ∀ c ∈ s, isBlank c = true → c = ' '

theorem tidy_word (hword : ∀ c ∈ word, isBlank c = false) : Tidy word where
  front c hc := hword c (List.mem_of_mem_head? hc)
  back c hc := hword c (List.mem_of_getLast? hc)
  single := (List.pairwise_of_forall_mem_list fun c hc _ _ => .inl (hword c hc)).isChain
  spaces c hc hblank := by
    rw [hword c hc] at hblank
    cases hblank

namespace Tidy

/-- A word in front of a tidy text, with a space between them. -/
theorem word_append (h : Tidy rest) (hrest : rest ≠ [])
    (hword : ∀ c ∈ word, isBlank c = false) (hne : word ≠ []) : Tidy (word ++ ' ' :: rest) where
  front c hc := by
    rw [List.head?_append_of_ne_nil _ hne] at hc
    exact (tidy_word hword).front c hc
  back c hc := by
    rw [List.getLast?_append_of_ne_nil _ (List.cons_ne_nil _ _),
      List.getLast?_cons_of_ne_nil hrest] at hc
    exact h.back c hc
  single := by
    refine (tidy_word hword).single.append (h.single.cons ?_) ?_
    · exact fun c hc => .inr (h.front c hc)
    · exact fun c hc d _ => .inl ((tidy_word hword).back c hc)
  spaces c hc hblank := by
    rcases List.mem_append.1 hc with hc | hc
    · exact (tidy_word hword).spaces c hc hblank
    · rcases List.mem_cons.1 hc with rfl | hc
      · rfl
      · exact h.spaces c hc hblank

/-- What goes on behind the blanks in a tidy text is tidy. -/
theorem of_append_right (h : Tidy (s ++ t)) (ht : ∀ c ∈ t.head?, isBlank c = false) : Tidy t where
  front := ht
  back c hc := h.back c (by
    rw [List.getLast?_append_of_ne_nil _ (List.ne_nil_of_mem (List.mem_of_getLast? hc))]
    exact hc)
  single := h.single.right_of_append
  spaces c hc := h.spaces c (List.mem_append_right _ hc)

theorem front_of_append (h : Tidy (s ++ t)) : ∀ c ∈ s.head?, isBlank c = false := by
  intro c hc
  refine h.front c ?_
  rw [List.head?_append_of_ne_nil _ (List.ne_nil_of_mem (List.mem_of_mem_head? hc))]
  exact hc

/-- What stands in front of the blanks in a tidy text is tidy. -/
theorem of_append_left (h : Tidy (s ++ t)) (hs : ∀ c ∈ s.getLast?, isBlank c = false) : Tidy s where
  front := h.front_of_append
  back := hs
  single := h.single.left_of_append
  spaces c hc := h.spaces c (List.mem_append_left _ hc)

/-- Between two words of a tidy text there is one space. -/
theorem gap_eq (h : Tidy (s ++ (gap ++ t))) (hgap : isBlankText gap = true) (hne : gap ≠ []) :
    gap = [' '] := by
  have hblank : ∀ c ∈ gap, isBlank c = true := List.all_eq_true.1 hgap
  have hsingle := h.single.right_of_append.left_of_append
  cases gap with
  | nil => exact absurd rfl hne
  | cons c gap =>
      obtain rfl : c = ' ' := h.spaces c (by simp) (hblank c List.mem_cons_self)
      cases gap with
      | nil => rfl
      | cons d gap =>
          have hd : isBlank d = true := hblank d (by simp)
          rcases hsingle.rel with hfalse | hfalse
          · rw [isBlank_space] at hfalse
            cases hfalse
          · rw [hd] at hfalse
            cases hfalse

end Tidy

theorem Worded.intercalate_ne_nil (h : Worded s ws) (hne : ws ≠ []) :
    [' '].intercalate ws ≠ [] := by
  intro hnil
  have hwords := h.intercalate.words_eq
  rw [hnil, words_nil] at hwords
  exact hne hwords.symm

theorem Worded.tidy (h : Worded s ws) : Tidy ([' '].intercalate ws) := by
  induction h with
  | blank => exact tidy_word (by simp)
  | @word gap word rest ws hgap hword hne hrest h ih =>
      cases ws with
      | nil => simpa using tidy_word hword
      | cons next ws =>
          have htidy := ih.word_append (h.intercalate_ne_nil (List.cons_ne_nil _ _)) hword hne
          simpa using htidy

/-- Whatever the blanks of a text, collapsing leaves nothing to tidy up. -/
theorem tidy_collapse (s : Text) : Tidy (collapse s) :=
  (worded_words s).tidy

theorem dropWhile_blanks_word (hgap : isBlankText gap = true)
    (hword : ∀ c ∈ word, isBlank c = false) (hne : word ≠ []) (rest : Text) :
    (gap ++ (word ++ rest)).dropWhile isBlank = word ++ rest := by
  rw [List.dropWhile_append_of_pos (List.all_eq_true.1 hgap)]
  cases word with
  | nil => exact absurd rfl hne
  | cons c word => exact List.dropWhile_cons_of_neg (by simp [hword c List.mem_cons_self])

/-- A text that is tidy but for the blanks in front of it is made of its words. -/
theorem Worded.dropWhile_eq (h : Worded s ws) (htidy : Tidy (s.dropWhile isBlank)) :
    s.dropWhile isBlank = [' '].intercalate ws := by
  induction h with
  | blank hgap => exact List.dropWhile_eq_nil_iff.2 (List.all_eq_true.1 hgap)
  | @word gap word rest ws hgap hword hne hrest h ih =>
      rw [dropWhile_blanks_word hgap hword hne] at htidy ⊢
      cases h with
      | blank hrest' =>
          -- blanks at the end would not be tidy
          have hnil : rest = [] := by
            rcases List.eq_nil_or_concat rest with hnil | ⟨front, c, rfl⟩
            · exact hnil
            · have hc : isBlank c = true := List.all_eq_true.1 hrest' c (by simp)
              rw [htidy.back c (by simp)] at hc
              cases hc
          simp [hnil]
      | @word gap' next rest' ws hgap' hnext hne' hrest' h =>
          have hfirst : ∀ c ∈ (next ++ rest').head?, isBlank c = false := by
            intro c hc
            rw [List.head?_append_of_ne_nil _ hne'] at hc
            exact hnext c (List.mem_of_mem_head? hc)
          -- the word has ended, so there is a gap, and in a tidy text it is one space
          have hsome : gap' ≠ [] := by
            rintro rfl
            obtain ⟨c, next, rfl⟩ := List.exists_cons_of_ne_nil hne'
            have hc : isBlank c = true := hrest c rfl
            rw [hfirst c rfl] at hc
            cases hc
          obtain rfl : gap' = [' '] := htidy.gap_eq hgap' hsome
          rw [dropWhile_blanks_word hgap' hnext hne'] at ih
          have hmore := ih (Tidy.of_append_right (s := word ++ [' ']) (by simpa using htidy) hfirst)
          rw [hmore, List.intercalate_cons_cons, List.append_assoc]

theorem dropWhile_isBlank_eq_self (h : ∀ c ∈ s.head?, isBlank c = false) :
    s.dropWhile isBlank = s := by
  cases s with
  | nil => rfl
  | cons c s => exact List.dropWhile_cons_of_neg (by simp [h c rfl])

/-- Collapsing leaves a tidy text as it is. -/
theorem Tidy.collapse_eq (h : Tidy s) : collapse s = s := by
  have hdrop : s.dropWhile isBlank = s := dropWhile_isBlank_eq_self h.front
  have heq := (worded_words s).dropWhile_eq (by rwa [hdrop])
  rw [hdrop] at heq
  exact heq.symm

/-! ## Words with spaces between them -/

/-- The text is one word. -/
structure IsWord (w : Text) : Prop where
  ne : w ≠ []
  solid : ∀ c ∈ w, isBlank c = false

theorem Worded.isWord (h : Worded s ws) : ∀ w ∈ ws, IsWord w := by
  induction h with
  | blank => simp
  | word hgap hword hne hrest h ih => exact List.forall_mem_cons.2 ⟨⟨hne, hword⟩, ih⟩

theorem isWord_of_mem_words (h : word ∈ words s) : IsWord word :=
  (worded_words s).isWord word h

theorem IsWord.words_eq (h : IsWord word) : words word = [word] := by
  have hwords : words (word ++ []) = word :: words [] := words_word_append h.solid h.ne (by simp)
  rwa [List.append_nil, words_nil] at hwords

/-- The words with a space behind each of them. -/
def spaced (ws : List Text) : Text := ws.flatMap (· ++ [' '])

theorem intercalate_concat (front : List Text) (word : Text) :
    [' '].intercalate (front ++ [word]) = spaced front ++ word := by
  induction front with
  | nil => simp [spaced]
  | cons w front ih =>
      obtain ⟨next, more, hmore⟩ := List.exists_cons_of_ne_nil (l := front ++ [word]) (by simp)
      rw [List.cons_append, hmore, List.intercalate_cons_cons, ← hmore, ih]
      simp [spaced]

theorem words_spaced_append (hfront : ∀ w ∈ front, IsWord w) (t : Text) :
    words (spaced front ++ t) = front ++ words t := by
  induction front with
  | nil => rfl
  | cons w front ih =>
      have hw : IsWord w := hfront w List.mem_cons_self
      have hsplit : spaced (w :: front) ++ t = w ++ ' ' :: (spaced front ++ t) := by simp [spaced]
      rw [hsplit, words_append_blank isBlank_space, hw.words_eq,
        ih fun v hv => hfront v (List.mem_cons_of_mem _ hv)]
      rfl

theorem collapse_of_words (h : words s = front ++ [word]) : collapse s = spaced front ++ word := by
  rw [collapse, h, intercalate_concat]

/-- A tidy text ends as its last word does. -/
theorem Tidy.getLast?_eq (h : Tidy s) (hwords : words s = front ++ [word]) :
    s.getLast? = word.getLast? := by
  have hword : IsWord word := isWord_of_mem_words (s := s) (by simp [hwords])
  calc
    s.getLast? = (collapse s).getLast? := by rw [h.collapse_eq]
    _ = (spaced front ++ word).getLast? := by rw [collapse_of_words hwords]
    _ = word.getLast? := List.getLast?_append_of_ne_nil _ hword.ne

/-- There is nothing to trim at the front of what is left of a tidy text. -/
theorem Tidy.trim_of_append (h : Tidy (s ++ t)) : trim s = dropEndWhile isBlank s := by
  show dropEndWhile isBlank (s.dropWhile isBlank) = dropEndWhile isBlank s
  rw [dropWhile_isBlank_eq_self h.front_of_append]

/-- Trimming leaves a tidy text as it is. -/
theorem Tidy.trim_eq (h : Tidy s) : trim s = s := by
  rw [Tidy.trim_of_append (t := []) (by rwa [List.append_nil])]
  exact dropEndWhile_eq_self fun c hc => by simp [h.back c hc]

theorem Tidy.eq_nil (h : Tidy s) (hwords : words s = []) : s = [] := by
  rw [← h.collapse_eq, collapse, hwords]
  rfl

/-! ## Phrases in tidy texts -/

/-- A phrase without spaces lies on one side of a space. -/
theorem isInfix_append_space (hx : ' ' ∉ x) :
    x <:+: s ++ ' ' :: t ↔ x <:+: s ∨ x <:+: t := by
  constructor
  · intro h
    rcases List.infix_append_iff.1 h with h | h | ⟨u, v, rfl, hu, hv⟩
    · exact .inl h
    · rcases List.infix_cons_iff.1 h with h | h
      · cases x with
        | nil => exact .inl List.nil_infix
        | cons c x =>
            obtain ⟨rfl, -⟩ := List.cons_prefix_cons.1 h
            exact absurd List.mem_cons_self hx
      · exact .inr h
    · cases v with
      | nil => exact .inl (by simpa using hu.isInfix)
      | cons c v =>
          obtain ⟨rfl, -⟩ := List.cons_prefix_cons.1 hv
          exact absurd (by simp) hx
  · rintro (h | h)
    · exact h.trans (List.prefix_append _ _).isInfix
    · exact h.trans ((List.suffix_cons _ _).trans (List.suffix_append _ _)).isInfix

/-- A phrase of two words has its space where the text has it, or lies behind that one. -/
theorem pair_isInfix_append_space (hs : ' ' ∉ s) (hx : ' ' ∉ x) (hy : ' ' ∉ y) :
    x ++ ' ' :: y <:+: s ++ ' ' :: t ↔ (x <:+ s ∧ y <+: t) ∨ x ++ ' ' :: y <:+: t := by
  have hspace : ' ' ∈ x ++ ' ' :: y := by simp
  constructor
  · intro h
    rcases List.infix_append_iff.1 h with h | h | ⟨u, v, huv, hu, hv⟩
    · exact absurd (h.subset hspace) hs
    · rcases List.infix_cons_iff.1 h with h | h
      · cases x with
        | nil => exact .inl ⟨List.nil_suffix, (List.cons_prefix_cons.1 h).2⟩
        | cons c x =>
            obtain ⟨rfl, -⟩ := List.cons_prefix_cons.1 h
            exact absurd List.mem_cons_self hx
      · exact .inr h
    · cases v with
      | nil =>
          rw [List.append_nil] at huv
          exact absurd (hu.subset (huv ▸ hspace)) hs
      | cons c v =>
          obtain ⟨rfl, hv'⟩ := List.cons_prefix_cons.1 hv
          obtain ⟨rfl, -, rfl⟩ := (List.append_cons_inj_of_notMem hx hy).1 huv
          exact .inl ⟨hu, hv'⟩
  · rintro (⟨⟨front, rfl⟩, ⟨back, rfl⟩⟩ | h)
    · exact ⟨front, back, by simp⟩
    · exact h.trans ((List.suffix_cons _ _).trans (List.suffix_append _ _)).isInfix

theorem IsWord.not_mem_space (h : IsWord word) : ' ' ∉ word := by
  intro hmem
  have hblank := h.solid ' ' hmem
  rw [isBlank_space] at hblank
  cases hblank

/-- A phrase without spaces lies in one of the words. -/
theorem isInfix_intercalate (hx : ' ' ∉ x) (hne : x ≠ []) (h : x <:+: [' '].intercalate ws) :
    ∃ w ∈ ws, x <:+: w := by
  induction ws with
  | nil => exact absurd (List.eq_nil_of_infix_nil (by simpa using h)) hne
  | cons w ws ih =>
      cases ws with
      | nil => exact ⟨w, List.mem_cons_self, by simpa using h⟩
      | cons next ws =>
          rw [List.intercalate_cons_cons, List.append_assoc, List.singleton_append,
            isInfix_append_space hx] at h
          rcases h with h | h
          · exact ⟨w, List.mem_cons_self, h⟩
          · obtain ⟨v, hv, h⟩ := ih h
            exact ⟨v, List.mem_cons_of_mem _ hv, h⟩

/-- Collapsing brings in no phrase without spaces. -/
theorem isInfix_of_isInfix_collapse (hx : ' ' ∉ x) (hne : x ≠ []) (h : x <:+: collapse s) :
    x <:+: s := by
  obtain ⟨w, hw, hxw⟩ := isInfix_intercalate hx hne h
  rw [words_eq_runs] at hw
  exact hxw.trans (runs_isInfix hw)

/-- The words start as the first one does. -/
theorem isPrefix_intercalate (hy : ' ' ∉ y) :
    y <+: [' '].intercalate (word :: ws) ↔ y <+: word := by
  cases ws with
  | nil => simp
  | cons next ws =>
      rw [List.intercalate_cons_cons, List.append_assoc, List.singleton_append]
      constructor
      · intro h
        rcases List.prefix_or_prefix_of_prefix h (List.prefix_append _ _) with h' | ⟨more, rfl⟩
        · exact h'
        · -- if it went on, it would go on with the space
          rw [List.prefix_append_right_inj] at h
          cases more with
          | nil => simp
          | cons c more =>
              obtain ⟨rfl, -⟩ := List.cons_prefix_cons.1 h
              exact absurd (by simp) hy
      · exact fun h => h.trans (List.prefix_append _ _)

/-- A phrase of two words lies where one word ends with the first and the next begins with the
second of them. -/
theorem pair_isInfix_intercalate (hws : ∀ w ∈ ws, IsWord w) (hx : ' ' ∉ x) (hy : ' ' ∉ y) :
    x ++ ' ' :: y <:+: [' '].intercalate ws ↔ ∃ u v, [u, v] <:+: ws ∧ x <:+ u ∧ y <+: v := by
  have hspace : ' ' ∈ x ++ ' ' :: y := by simp
  induction ws with
  | nil => simp
  | cons w ws ih =>
      have hw : ' ' ∉ w := (hws w List.mem_cons_self).not_mem_space
      cases ws with
      | nil =>
          have hnone : ¬ x ++ ' ' :: y <:+: [' '].intercalate [w] := fun h =>
            hw (by simpa using h.subset hspace)
          refine iff_of_false hnone ?_
          rintro ⟨u, v, h, -, -⟩
          simpa using h.length_le
      | cons next ws =>
          have hmore := ih fun w hw => hws w (List.mem_cons_of_mem _ hw)
          rw [List.intercalate_cons_cons, List.append_assoc, List.singleton_append,
            pair_isInfix_append_space hw hx hy, isPrefix_intercalate hy]
          refine (or_congr_right hmore).trans ?_
          constructor
          · rintro (⟨hxw, hyn⟩ | ⟨u, v, huv, hxu, hyv⟩)
            · exact ⟨w, next, ⟨[], ws, rfl⟩, hxw, hyn⟩
            · exact ⟨u, v, huv.trans (List.suffix_cons _ _).isInfix, hxu, hyv⟩
          · rintro ⟨u, v, huv, hxu, hyv⟩
            rcases List.infix_cons_iff.1 huv with huv | huv
            · obtain ⟨rfl, hnext⟩ := List.cons_prefix_cons.1 huv
              obtain ⟨rfl, -⟩ := List.cons_prefix_cons.1 hnext
              exact .inl ⟨hxu, hyv⟩
            · exact .inr ⟨u, v, huv, hxu, hyv⟩

theorem pair_isInfix_collapse (hx : ' ' ∉ x) (hy : ' ' ∉ y) :
    x ++ ' ' :: y <:+: collapse s ↔ ∃ u v, [u, v] <:+: words s ∧ x <:+ u ∧ y <+: v :=
  pair_isInfix_intercalate (fun _ => isWord_of_mem_words) hx hy

end Text
end ChatAssistant
