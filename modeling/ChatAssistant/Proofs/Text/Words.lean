import ChatAssistant.Proofs.Text.Blank
import ChatAssistant.Text.Substring

/-!
# Words and runs

Runs and words are found one after the other, by what a text starts with.  Blanks around a text are
no part of its words.

A text and its collapsed form have the same words in the same order.  `Worded` says word by word
which words a text has, and what is kept from word to word is the same for both by induction on it.

Texts in a row have their words in a row, but for one word at the seam that has a part in each of
them (`words_append_cases`), and without it if there is a blank on one side.
-/

namespace ChatAssistant
namespace Text

variable {p : Char → Bool} {c : Char} {s t gap word rest short : Text}

/-! ## Characters -/

-- All characters there are can be searched too, so the instances of lists have to come first.

instance (priority := high) decidableForallMem (s : Text) (P : Char → Prop) [DecidablePred P] :
    Decidable (∀ c ∈ s, P c) :=
  List.decidableBAll P s

instance (priority := high) decidableExistsMem (s : Text) (P : Char → Prop) [DecidablePred P] :
    Decidable (∃ c ∈ s, P c) :=
  List.decidableBEx P s

/-! ## Runs -/

/-- The runs of a text depend on nothing before the first of them. -/
theorem runs_congr (h : s.dropWhile (!p ·) = t.dropWhile (!p ·)) : runs p s = runs p t := by
  rw [runs, runs]
  split
  · rename_i hnil
    rw [← h, hnil]
  · rename_i hcons
    rw [← h, hcons]

theorem runs_nil (p : Char → Bool) : runs p [] = [] := by
  rw [runs]
  rfl

theorem runs_cons_of_neg (hc : p c = false) (s : Text) : runs p (c :: s) = runs p s := by
  apply runs_congr
  simp [hc]

theorem runs_cons_of_pos (hc : p c = true) (s : Text) :
    runs p (c :: s) = (c :: s.takeWhile p) :: runs p (s.dropWhile p) := by
  have hdrop : (c :: s).dropWhile (!p ·) = c :: s := by simp [hc]
  rw [runs]
  split
  · rename_i hnil
    rw [hdrop] at hnil
    cases hnil
  · rename_i hcons
    rw [hdrop] at hcons
    cases hcons
    rfl

/-- Nothing in front of the runs of a text that belongs to no run changes them. -/
theorem runs_append_of_neg (hs : ∀ c ∈ s, p c = false) (t : Text) : runs p (s ++ t) = runs p t := by
  induction s with
  | nil => rfl
  | cons c s ih =>
      rw [List.cons_append, runs_cons_of_neg (hs c List.mem_cons_self)]
      exact ih fun d hd => hs d (List.mem_cons_of_mem _ hd)

/-- A text that is all one run. -/
theorem runs_of_pos (hs : ∀ c ∈ s, p c = true) (hne : s ≠ []) : runs p s = [s] := by
  cases s with
  | nil => exact absurd rfl hne
  | cons c s =>
      have hs' : ∀ d ∈ s, p d = true := fun d hd => hs d (List.mem_cons_of_mem _ hd)
      rw [runs_cons_of_pos (hs c List.mem_cons_self), List.takeWhile_eq_self_iff.2 hs',
        List.dropWhile_eq_nil_iff.2 hs', runs_nil]

/-- A run in front of a text ends at the first character that belongs to none. -/
theorem runs_append_of_pos (hs : ∀ c ∈ s, p c = true) (hrest : ∀ c ∈ rest.head?, p c = false) :
    runs p (s ++ rest) = [s].filter (!·.isEmpty) ++ runs p rest := by
  cases s with
  | nil => rfl
  | cons c s =>
      have hs' : ∀ d ∈ s, p d = true := fun d hd => hs d (List.mem_cons_of_mem _ hd)
      have hstop : rest.takeWhile p = [] ∧ rest.dropWhile p = rest := by
        cases rest with
        | nil => exact ⟨rfl, rfl⟩
        | cons d rest => simp [hrest d rfl]
      rw [List.cons_append, runs_cons_of_pos (hs c List.mem_cons_self),
        List.takeWhile_append_of_pos hs', List.dropWhile_append_of_pos hs', hstop.1, hstop.2,
        List.append_nil]
      rfl

/-- The runs of a text are parts of it. -/
theorem runs_isInfix {run : Text} (h : run ∈ runs p s) : run <:+: s := by
  fun_induction runs p s with
  | case1 => cases h
  | case2 s c r hs ih =>
      have hrest : c :: r <:+: s := hs ▸ (List.dropWhile_suffix _).isInfix
      rcases List.mem_cons.1 h with rfl | h
      · have hrun : c :: r.takeWhile p <+: c :: r :=
          List.prefix_cons_inj c |>.2 (List.takeWhile_prefix p)
        exact hrun.isInfix.trans hrest
      · have hbehind : r.dropWhile p <:+: c :: r :=
          ((List.dropWhile_suffix p).trans (List.suffix_cons c r)).isInfix
        exact ((ih h).trans hbehind).trans hrest

/-- The runs of a text have nothing in them but what they are runs of. -/
theorem of_mem_runs {run : Text} (h : run ∈ runs p s) : ∀ c ∈ run, p c = true := by
  fun_induction runs p s with
  | case1 => cases h
  | case2 s c r hs ih =>
      rcases List.mem_cons.1 h with rfl | h
      · intro d hd
        rcases List.mem_cons.1 hd with rfl | hd
        · have hhead := List.head?_dropWhile_not (!p ·) s
          rw [hs] at hhead
          simpa using hhead
        · exact List.mem_takeWhile_imp hd
      · exact ih h

/-- Whatever there can be runs of in a text lies in one of them. -/
theorem exists_mem_runs (hc : p c = true) (h : c ∈ s) : ∃ run ∈ runs p s, c ∈ run := by
  have hkept {t : Text} (ht : c ∈ t) : c ∈ t.dropWhile (!p ·) := by
    rw [← List.takeWhile_append_dropWhile (p := (!p ·)) (l := t), List.mem_append] at ht
    refine ht.resolve_left fun hmem => ?_
    have hnot := List.mem_takeWhile_imp hmem
    simp [hc] at hnot
  fun_induction runs p s with
  | case1 s hs =>
      have hmem := hkept h
      rw [hs] at hmem
      cases hmem
  | case2 s d r hs ih =>
      have hmem := hkept h
      rw [hs, ← List.takeWhile_append_dropWhile (p := p) (l := r), ← List.cons_append,
        List.mem_append] at hmem
      rcases hmem with hmem | hmem
      · exact ⟨_, List.mem_cons_self, hmem⟩
      · obtain ⟨run, hrun, hmem⟩ := ih hmem
        exact ⟨run, List.mem_cons_of_mem _ hrun, hmem⟩

/-! ## Words -/

theorem isBlank_space : isBlank ' ' = true := by
  decide

/-- The words of a text depend on nothing before the first of them. -/
theorem words_congr (h : s.dropWhile isBlank = t.dropWhile isBlank) : words s = words t := by
  rw [words, words]
  split
  · rename_i hnil
    rw [← h, hnil]
  · rename_i hcons
    rw [← h, hcons]

theorem words_nil : words [] = [] := by
  rw [words]
  rfl

theorem words_of_isBlankText (h : isBlankText s = true) : words s = [] := by
  have hdrop : s.dropWhile isBlank = [] := List.dropWhile_eq_nil_iff.2 (List.all_eq_true.1 h)
  calc
    words s = words [] := words_congr hdrop
    _ = [] := words_nil

/-- The words of a text are the runs of what is not blank. -/
theorem words_eq_runs (s : Text) : words s = runs (!isBlank ·) s := by
  fun_induction words s with
  | case1 s hs =>
      rw [runs_congr (t := []), runs_nil]
      simpa using hs
  | case2 s c r hs ih =>
      have hc : (!isBlank c) = true := by simp [isBlank_of_dropWhile hs]
      rw [runs_congr (t := c :: r), runs_cons_of_pos hc, ih]
      simp [hs, isBlank_of_dropWhile hs]

theorem words_ne_nil (hc : c ∈ s) (hblank : isBlank c = false) : words s ≠ [] := by
  obtain ⟨run, hrun, -⟩ := exists_mem_runs (p := (!isBlank ·)) (by simp [hblank]) hc
  rw [words_eq_runs]
  exact List.ne_nil_of_mem hrun

/-- Blanks in front of the first word are passed over. -/
theorem words_blanks_append (h : isBlankText gap = true) (s : Text) :
    words (gap ++ s) = words s :=
  words_congr (List.dropWhile_append_of_pos (List.all_eq_true.1 h))

/-- A word in front of a text ends at the first blank. -/
theorem words_word_append (hword : ∀ c ∈ word, isBlank c = false) (hne : word ≠ [])
    (hrest : ∀ c ∈ rest.head?, isBlank c = true) : words (word ++ rest) = word :: words rest := by
  cases word with
  | nil => exact absurd rfl hne
  | cons d word =>
      have hd : ¬ isBlank d = true := by simp [hword d List.mem_cons_self]
      have hall : ∀ c ∈ word, (!isBlank c) = true := by
        intro c hc
        simp [hword c (List.mem_cons_of_mem _ hc)]
      have htake : rest.takeWhile (!isBlank ·) = [] := by
        cases rest with
        | nil => rfl
        | cons c rest => simp [hrest c rfl]
      have hdrop : rest.dropWhile (!isBlank ·) = rest := by
        cases rest with
        | nil => rfl
        | cons c rest => simp [hrest c rfl]
      rw [words]
      split
      · rename_i hnil
        rw [List.cons_append, List.dropWhile_cons_of_neg hd] at hnil
        cases hnil
      · rename_i hcons
        rw [List.cons_append, List.dropWhile_cons_of_neg hd] at hcons
        cases hcons
        rw [List.takeWhile_append_of_pos hall, List.dropWhile_append_of_pos hall, htake, hdrop,
          List.append_nil]

/-- The text has these words, each behind blanks that may be missing for the first. -/
inductive Worded : Text → List Text → Prop where
  | blank {gap : Text} (hgap : isBlankText gap = true) : Worded gap []
  | word {gap word rest : Text} {ws : List Text} (hgap : isBlankText gap = true)
      (hword : ∀ c ∈ word, isBlank c = false) (hne : word ≠ [])
      (hrest : ∀ c ∈ rest.head?, isBlank c = true) (h : Worded rest ws) :
      Worded (gap ++ (word ++ rest)) (word :: ws)

theorem worded_words (s : Text) : Worded s (words s) := by
  fun_induction words s with
  | case1 s hs => exact .blank (List.all_eq_true.2 (List.dropWhile_eq_nil_iff.1 hs))
  | case2 s c r hs ih =>
      have hc : isBlank c = false := isBlank_of_dropWhile hs
      have hsplit : s = s.takeWhile isBlank ++
          (c :: r.takeWhile (!isBlank ·) ++ r.dropWhile (!isBlank ·)) := by
        rw [List.cons_append, List.takeWhile_append_dropWhile, ← hs,
          List.takeWhile_append_dropWhile]
      rw [hsplit]
      refine .word ?_ ?_ (by simp) ?_ ih
      · exact List.all_eq_true.2 fun d hd => List.mem_takeWhile_imp hd
      · intro d hd
        rcases List.mem_cons.1 hd with rfl | hd
        · exact hc
        · simpa using List.mem_takeWhile_imp hd
      · intro d hd
        have hhead := List.head?_dropWhile_not (!isBlank ·) r
        rw [hd] at hhead
        simpa using hhead

namespace Worded

variable {ws : List Text}

theorem words_eq (h : Worded s ws) : words s = ws := by
  induction h with
  | blank hgap => exact words_of_isBlankText hgap
  | @word gap word rest ws hgap hword hne hrest h ih =>
      calc
        words (gap ++ (word ++ rest)) = words (word ++ rest) := words_blanks_append hgap _
        _ = word :: words rest := words_word_append hword hne hrest
        _ = word :: ws := by rw [ih]

/-- Blanks in front of a text are no part of its words. -/
theorem blanks_append (h : Worded s ws) (hgap : isBlankText gap = true) :
    Worded (gap ++ s) ws := by
  have hboth {more : Text} (hmore : isBlankText more = true) :
      isBlankText (gap ++ more) = true := by
    unfold isBlankText at *
    rw [List.all_append, hgap, hmore]
    rfl
  cases h with
  | blank hs => exact .blank (hboth hs)
  | word hgap' hword hne hrest h =>
      rw [← List.append_assoc]
      exact .word (hboth hgap') hword hne hrest h

/-- Blanks behind a text are no part of its words. -/
theorem append_blanks (h : Worded s ws) (hgap : isBlankText gap = true) :
    Worded (s ++ gap) ws := by
  have hfirst : ∀ c ∈ gap.head?, isBlank c = true := by
    intro c hc
    exact List.all_eq_true.1 hgap c (List.mem_of_mem_head? hc)
  induction h with
  | blank hs => exact (Worded.blank hgap).blanks_append hs
  | @word gap' word rest ws hgap' hword hne hrest h ih =>
      rw [List.append_assoc, List.append_assoc]
      refine .word hgap' hword hne ?_ ih
      cases rest with
      | nil => exact hfirst
      | cons d rest => exact hrest

/-- Texts with a blank between them keep their words. -/
theorem append {us : List Text} (h : Worded s ws) (hc : isBlank c = true) (h' : Worded t us) :
    Worded (s ++ c :: t) (ws ++ us) := by
  have hblank : isBlankText [c] = true := by simp [isBlankText, hc]
  induction h with
  | blank hgap => exact (h'.blanks_append hblank).blanks_append hgap
  | @word gap word rest ws hgap hword hne hrest h ih =>
      rw [List.append_assoc, List.append_assoc]
      refine .word hgap hword hne ?_ ih
      cases rest with
      | nil =>
          rintro d ⟨⟩
          exact hc
      | cons d rest => exact hrest

/-- Words with a space between neighbours are the words of the text that they make. -/
theorem intercalate (h : Worded s ws) : Worded ([' '].intercalate ws) ws := by
  have hspace : isBlankText [' '] = true := by decide
  induction h with
  | blank hgap => exact .blank rfl
  | @word gap word rest ws hgap hword hne hrest h ih =>
      have hfront : isBlankText [] = true := rfl
      cases ws with
      | nil =>
          have hlast : Worded ([] ++ (word ++ [])) [word] :=
            .word hfront hword hne (by simp) (.blank hfront)
          simpa using hlast
      | cons next ws =>
          have hmore : Worded ([] ++ (word ++ ([' '] ++ [' '].intercalate (next :: ws))))
              (word :: next :: ws) :=
            .word hfront hword hne (by simp [isBlank_space]) (ih.blanks_append hspace)
          simpa using hmore

/-- The words of a text in a row are the text without its blanks. -/
theorem flatten_eq (h : Worded s ws) : ws.flatten = s.filter (!isBlank ·) := by
  have hnone {gap : Text} (hgap : isBlankText gap = true) : gap.filter (!isBlank ·) = [] := by
    rw [List.filter_eq_nil_iff]
    intro c hc
    simp [List.all_eq_true.1 hgap c hc]
  induction h with
  | blank hgap => exact (hnone hgap).symm
  | @word gap word rest ws hgap hword hne hrest h ih =>
      have hall : word.filter (!isBlank ·) = word := by
        rw [List.filter_eq_self]
        intro c hc
        simp [hword c hc]
      calc
        (word :: ws).flatten = word ++ rest.filter (!isBlank ·) := by rw [List.flatten_cons, ih]
        _ = (gap ++ (word ++ rest)).filter (!isBlank ·) := by
            rw [List.filter_append, List.filter_append, hnone hgap, hall, List.nil_append]

end Worded

/-- A blank divides a text into texts with words of their own. -/
theorem words_append_blank (hc : isBlank c = true) (s t : Text) :
    words (s ++ c :: t) = words s ++ words t :=
  ((worded_words s).append hc (worded_words t)).words_eq

theorem words_blank_cons (hc : isBlank c = true) (s : Text) : words (c :: s) = words s := by
  have hwords := words_append_blank hc [] s
  rwa [words_nil] at hwords

theorem words_append_of_head? (h : ∀ c ∈ t.head?, isBlank c = true) (s : Text) :
    words (s ++ t) = words s ++ words t := by
  cases t with
  | nil => rw [List.append_nil, words_nil, List.append_nil]
  | cons c t => rw [words_append_blank (h c rfl), words_blank_cons (h c rfl)]

theorem words_append_of_getLast? (h : ∀ c ∈ s.getLast?, isBlank c = true) (t : Text) :
    words (s ++ t) = words s ++ words t := by
  rcases List.eq_nil_or_concat s with rfl | ⟨s, c, rfl⟩
  · rw [List.nil_append, words_nil, List.nil_append]
  · have hc : isBlank c = true := h c (by simp)
    rw [List.concat_eq_append, List.append_assoc, List.singleton_append, words_append_blank hc,
      words_append_blank hc, words_nil, List.append_nil]

/-- A text that does not start with a blank starts with a word. -/
theorem exists_word_append (h : ¬ ∀ c ∈ s.head?, isBlank c = true) :
    ∃ word rest : Text, s = word ++ rest ∧ (∀ c ∈ word, isBlank c = false) ∧ word ≠ [] ∧
      ∀ c ∈ rest.head?, isBlank c = true := by
  refine ⟨s.takeWhile (!isBlank ·), s.dropWhile (!isBlank ·), ?_, ?_, ?_, ?_⟩
  · exact List.takeWhile_append_dropWhile.symm
  · intro c hc
    simpa using List.mem_takeWhile_imp hc
  · cases s with
    | nil => exact absurd (by simp) h
    | cons c s => simpa using h
  · intro c hc
    have hhead := List.head?_dropWhile_not (!isBlank ·) s
    rw [hc] at hhead
    simpa using hhead

/-- Texts in a row have their words in a row, or one word has a part in both of them. -/
theorem words_append_cases (s t : Text) :
    words (s ++ t) = words s ++ words t ∨
      ∃ front u v back, words s = front ++ [u] ∧ words t = v :: back ∧
        words (s ++ t) = front ++ (u ++ v) :: back := by
  have h := worded_words s
  generalize words s = ws at h
  induction h with
  | blank hgap => exact .inl (words_blanks_append hgap t)
  | @word gap word rest ws hgap hword hne hrest h ih =>
      rw [List.append_assoc, words_blanks_append hgap, List.append_assoc]
      cases rest with
      | cons c rest =>
          have hfirst : words (word ++ (c :: rest ++ t)) = word :: words (c :: rest ++ t) :=
            words_word_append hword hne hrest
          rw [hfirst]
          rcases ih with hwords | ⟨front, u, v, back, rfl, ht, hwords⟩
          · exact .inl (congrArg (word :: ·) hwords)
          · exact .inr ⟨word :: front, u, v, back, rfl, ht, congrArg (word :: ·) hwords⟩
      | nil =>
          obtain rfl : ws = [] := h.words_eq.symm.trans words_nil
          rw [List.nil_append]
          by_cases hhead : ∀ c ∈ t.head?, isBlank c = true
          · exact .inl (words_word_append hword hne hhead)
          · -- the word goes on
            obtain ⟨more, t, rfl, hmore, hmore', ht⟩ := exists_word_append hhead
            have hboth : ∀ c ∈ word ++ more, isBlank c = false :=
              List.forall_mem_append.2 ⟨hword, hmore⟩
            refine .inr ⟨[], word, more, words t, rfl, words_word_append hmore hmore' ht, ?_⟩
            rw [← List.append_assoc]
            exact words_word_append hboth (List.append_ne_nil_of_left_ne_nil hne _) ht

/-! ## Collapsed texts -/

/-- Collapsing the blanks of a text leaves its words as they are. -/
theorem words_collapse (s : Text) : words (collapse s) = words s :=
  (worded_words s).intercalate.words_eq

/-- Only blanks are lost, and only blanks are new. -/
theorem filter_collapse (s : Text) :
    (collapse s).filter (!isBlank ·) = s.filter (!isBlank ·) := by
  calc
    (collapse s).filter (!isBlank ·) = (words (collapse s)).flatten :=
        (worded_words (collapse s)).flatten_eq.symm
    _ = (words s).flatten := by rw [words_collapse]
    _ = s.filter (!isBlank ·) := (worded_words s).flatten_eq

theorem mem_collapse_iff (hc : isBlank c = false) : c ∈ collapse s ↔ c ∈ s := by
  have hfilter (t : Text) : c ∈ t.filter (!isBlank ·) ↔ c ∈ t := by simp [hc]
  rw [← hfilter, filter_collapse, hfilter]

/-- Collapsing leaves as much in a text as there was before. -/
theorem countP_collapse (s : Text) :
    (collapse s).countP (!isBlank ·) = s.countP (!isBlank ·) := by
  rw [List.countP_eq_length_filter, List.countP_eq_length_filter, filter_collapse]

theorem collapse_collapse (s : Text) : collapse (collapse s) = collapse s := by
  rw [collapse, words_collapse]
  rfl

/-- A text and its trimmed form have the same words. -/
theorem words_trim (s : Text) : words (trim s) = words s := by
  obtain ⟨tail, htail, hblank⟩ := exists_dropEndWhile_append isBlank (s.dropWhile isBlank)
  have hworded := (worded_words (trim s)).append_blanks (List.all_eq_true.2 hblank)
  calc
    words (trim s) = words (trim s ++ tail) := hworded.words_eq.symm
    _ = words (s.dropWhile isBlank) := by rw [htail]; rfl
    _ = words (s.takeWhile isBlank ++ s.dropWhile isBlank) :=
        (words_blanks_append (List.all_takeWhile ..) _).symm
    _ = words s := by rw [List.takeWhile_append_dropWhile]

end Text
end ChatAssistant
