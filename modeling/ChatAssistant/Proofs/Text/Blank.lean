import ChatAssistant.Text.Blank
import Mathlib.Data.List.TakeWhile

/-!
# Texts without their blanks

Trimming takes characters away at the ends and nowhere else, and the first word of a text is what
stands between its first blanks and the next ones.
-/

namespace ChatAssistant
namespace Text

variable {p : Char → Bool} {s rest : Text} {c : Char}

/-! ## Stops -/

/-- Nothing is taken beyond a character that is not to be taken. -/
theorem takeWhile_append_cons (hc : ¬ p c = true) (s rest : Text) :
    (s ++ c :: rest).takeWhile p = s.takeWhile p := by
  have hstop : (c :: rest).takeWhile p = [] := List.takeWhile_cons_of_neg hc
  rw [List.takeWhile_append]
  split
  · rename_i hall
    rw [hstop, List.append_nil]
    exact ((List.takeWhile_prefix p).eq_of_length hall).symm
  · rfl

/-- Nothing is dropped beyond a character that is not to be dropped. -/
theorem dropWhile_append_cons (hc : ¬ p c = true) (s rest : Text) :
    (s ++ c :: rest).dropWhile p = s.dropWhile p ++ c :: rest := by
  rw [List.dropWhile_append]
  split
  · rename_i hempty
    rw [List.isEmpty_iff.1 hempty]
    exact List.dropWhile_cons_of_neg hc
  · rfl

/-- Where all that is dropped would be taken, it makes no difference which comes first. -/
theorem takeWhile_dropWhile {q : Char → Bool} (h : ∀ c, q c = true → p c = true) (s : Text) :
    (s.dropWhile q).takeWhile p = (s.takeWhile p).dropWhile q := by
  induction s with
  | nil => rfl
  | cons c s ih =>
      by_cases hq : q c = true
      · rw [List.dropWhile_cons_of_pos hq, List.takeWhile_cons_of_pos (h c hq),
          List.dropWhile_cons_of_pos hq, ih]
      · rw [List.dropWhile_cons_of_neg hq]
        by_cases hp : p c = true
        · rw [List.takeWhile_cons_of_pos hp, List.dropWhile_cons_of_neg hq]
        · rw [List.takeWhile_cons_of_neg hp]
          rfl

/-! ## Ends -/

/-- What is dropped at the end of a text satisfies the condition, all of it. -/
theorem exists_dropEndWhile_append (p : Char → Bool) (s : Text) :
    ∃ tail : Text, s = dropEndWhile p s ++ tail ∧ ∀ c ∈ tail, p c = true := by
  refine ⟨(s.reverse.takeWhile p).reverse, ?_, ?_⟩
  · have hreverse : s.reverse.takeWhile p ++ s.reverse.dropWhile p = s.reverse :=
      List.takeWhile_append_dropWhile
    calc
      s = s.reverse.reverse := (List.reverse_reverse s).symm
      _ = (s.reverse.takeWhile p ++ s.reverse.dropWhile p).reverse := by rw [hreverse]
      _ = dropEndWhile p s ++ (s.reverse.takeWhile p).reverse := List.reverse_append
  · intro c hc
    exact List.mem_takeWhile_imp (List.mem_reverse.1 hc)

/-- What is left of a text does not end with a character that is dropped at the end. -/
theorem not_of_getLast?_dropEndWhile (p : Char → Bool) (s : Text) :
    ∀ c ∈ (dropEndWhile p s).getLast?, ¬ p c = true := by
  intro c hc
  have hhead := List.head?_dropWhile_not p s.reverse
  unfold dropEndWhile at hc
  rw [List.getLast?_reverse] at hc
  rw [hc] at hhead
  simpa using hhead

/-- Stripping takes characters away at the ends, and only those that satisfy the condition. -/
theorem exists_stripWhile (p : Char → Bool) (s : Text) :
    ∃ lead tail : Text, s = lead ++ (stripWhile p s ++ tail) ∧ (∀ c ∈ lead, p c = true) ∧
      ∀ c ∈ tail, p c = true := by
  obtain ⟨tail, htail, hdropped⟩ := exists_dropEndWhile_append p (s.dropWhile p)
  refine ⟨s.takeWhile p, tail, ?_, fun c hc => List.mem_takeWhile_imp hc, hdropped⟩
  calc
    s = s.takeWhile p ++ s.dropWhile p := List.takeWhile_append_dropWhile.symm
    _ = s.takeWhile p ++ (stripWhile p s ++ tail) := congrArg (s.takeWhile p ++ ·) htail

/-- What is left of a text does not start with a character that is stripped. -/
theorem not_of_head?_stripWhile (p : Char → Bool) (s : Text) :
    ∀ c ∈ (stripWhile p s).head?, ¬ p c = true := by
  intro c hc
  obtain ⟨tail, htail, -⟩ := exists_dropEndWhile_append p (s.dropWhile p)
  have hfirst : (s.dropWhile p).head? = some c :=
    calc
      (s.dropWhile p).head? = (stripWhile p s ++ tail).head? := congrArg List.head? htail
      _ = some c := by rw [List.head?_append, Option.mem_def.1 hc, Option.some_or]
  have hhead := List.head?_dropWhile_not p s
  rw [hfirst] at hhead
  simpa using hhead

/-- What is left between the ends is a part of the text. -/
theorem stripWhile_isInfix (p : Char → Bool) (s : Text) : stripWhile p s <:+: s := by
  obtain ⟨lead, tail, hs, -, -⟩ := exists_stripWhile p s
  exact ⟨lead, tail, by rw [List.append_assoc]; exact hs.symm⟩

/-- Only characters of the kind that is stripped are lost. -/
theorem mem_stripWhile (hc : p c = false) (h : c ∈ s) : c ∈ stripWhile p s := by
  obtain ⟨lead, tail, hs, hlead, htail⟩ := exists_stripWhile p s
  have hkept {margin : Text} (hmargin : ∀ c ∈ margin, p c = true) : c ∉ margin := by
    intro hmem
    rw [hmargin c hmem] at hc
    cases hc
  rw [hs, List.mem_append, List.mem_append] at h
  rcases h with h | h | h
  · exact absurd h (hkept hlead)
  · exact h
  · exact absurd h (hkept htail)

/-- A first character that is to stay does stay. -/
theorem dropEndWhile_cons (hc : ¬ p c = true) (s : Text) :
    dropEndWhile p (c :: s) = c :: dropEndWhile p s := by
  unfold dropEndWhile
  rw [List.reverse_cons, List.dropWhile_append]
  split
  · rename_i hempty
    rw [List.isEmpty_iff.1 hempty, List.dropWhile_cons_of_neg hc]
    rfl
  · rw [List.reverse_append]
    rfl

/-- What is to stay at the end does stay, and so does all before it. -/
theorem dropEndWhile_append {tail : Text} (h : ∀ c ∈ tail, ¬ p c = true) (hne : tail ≠ [])
    (s : Text) : dropEndWhile p (s ++ tail) = s ++ tail := by
  have hlast : tail.dropLast ++ [tail.getLast hne] = tail := List.dropLast_concat_getLast hne
  have hc : ¬ p (tail.getLast hne) = true := h _ (List.getLast_mem hne)
  rw [← hlast, ← List.append_assoc]
  unfold dropEndWhile
  rw [List.reverse_concat, List.dropWhile_cons_of_neg hc, List.reverse_cons, List.reverse_reverse]

/-- Nothing is dropped of a text that ends with a character that is to stay. -/
theorem dropEndWhile_eq_self (h : ∀ c ∈ s.getLast?, ¬ p c = true) : dropEndWhile p s = s := by
  rcases List.eq_nil_or_concat s with rfl | ⟨front, c, rfl⟩
  · rfl
  · have hc : ∀ d ∈ [c], ¬ p d = true := by simpa using h
    rw [List.concat_eq_append]
    exact dropEndWhile_append hc (List.cons_ne_nil _ _) front

/-- What is to be dropped behind a text is dropped. -/
theorem dropEndWhile_append_of_pos {tail : Text} (h : ∀ c ∈ tail, p c = true) (s : Text) :
    dropEndWhile p (s ++ tail) = dropEndWhile p s := by
  unfold dropEndWhile
  rw [List.reverse_append, List.dropWhile_append_of_pos]
  exact fun c hc => h c (List.mem_reverse.1 hc)

/-! ## Blanks -/

/-- Without the blanks at its front a text starts with `c` exactly if blanks are all that stands
before it. -/
theorem dropWhile_isBlank_eq_cons_iff (hc : isBlank c = false) :
    s.dropWhile isBlank = c :: rest ↔
      ∃ blanks : Text, isBlankText blanks = true ∧ s = blanks ++ c :: rest := by
  constructor
  · intro h
    refine ⟨s.takeWhile isBlank, ?_, ?_⟩
    · exact List.all_eq_true.2 fun d hd => List.mem_takeWhile_imp hd
    · rw [← h, List.takeWhile_append_dropWhile]
  · rintro ⟨blanks, hblanks, rfl⟩
    rw [List.dropWhile_append_of_pos (List.all_eq_true.1 hblanks)]
    exact List.dropWhile_cons_of_neg (by rw [hc]; decide)

/-- A text with nothing but blanks is trimmed to nothing. -/
theorem trim_of_nil (h : s.dropWhile isBlank = []) : trim s = [] := by
  show dropEndWhile isBlank (s.dropWhile isBlank) = []
  rw [h]
  rfl

/-- Behind a first character that is no blank, only the end of a text is trimmed. -/
theorem trim_of_cons (hc : isBlank c = false) (h : s.dropWhile isBlank = c :: rest) :
    trim s = c :: dropEndWhile isBlank rest := by
  have hneg : ¬ isBlank c = true := by
    rw [hc]
    decide
  calc
    trim s = dropEndWhile isBlank (s.dropWhile isBlank) := rfl
    _ = dropEndWhile isBlank (c :: rest) := by rw [h]
    _ = c :: dropEndWhile isBlank rest := dropEndWhile_cons hneg rest

/-- What is left of a text without the blanks at its front does not start with one. -/
theorem isBlank_of_dropWhile (h : s.dropWhile isBlank = c :: rest) : isBlank c = false := by
  have hhead := List.head?_dropWhile_not isBlank s
  rw [h] at hhead
  exact hhead

/-- The first word of a text. -/
theorem headD_words (s : Text) :
    (words s).headD [] = (s.dropWhile isBlank).takeWhile (!isBlank ·) := by
  rw [words]
  split
  · rename_i h
    rw [h]
    rfl
  · rename_i c rest h
    have hc : (!isBlank c) = true := by simp [isBlank_of_dropWhile h]
    rw [h]
    exact (List.takeWhile_cons_of_pos (p := (!isBlank ·)) hc).symm

end Text

end ChatAssistant
