import ChatAssistant.Expr.Token
import ChatAssistant.Proofs.Text.Words

/-!
# The division into tokens, place by place

Every character of an expression is a blank, part of a number, or a sign, and never two of these.
So the division into tokens is read off the front of a text: blanks are passed over, a run of digits
and points is taken whole, and a sign is taken alone, unless it is the first of two stars.

Where no number and no pair of stars extends from one part of a text into the next, the text has the
tokens of its parts in a row (`tokens_append`).  So it is at every blank, and a text has the tokens
of its words, one word after the other (`tokens_eq_foldr`).
-/

namespace ChatAssistant
namespace Expr

open Text (isBlank isBlankText)
open Decimal (isLiteralChar)

variable {c b : Char} {r s rest run : Text} {t : Token}

/-! ## Kinds of characters -/

/-- The characters of numbers. -/
theorem mem_of_isLiteralChar (h : isLiteralChar c = true) : c ∈ "0123456789.".toList := by
  unfold isLiteralChar Text.isDigit at h
  simp only [Bool.or_eq_true, Bool.and_eq_true, decide_eq_true_eq, beq_iff_eq] at h
  rcases h with ⟨hlow, hhigh⟩ | rfl
  · have hlow' : 48 ≤ c.toNat := hlow
    have hhigh' : c.toNat ≤ 57 := hhigh
    have hall : ∀ n ∈ List.range 58, 48 ≤ n → Char.ofNat n ∈ "0123456789.".toList := by decide
    have hmem := hall c.toNat (List.mem_range.2 (by omega)) hlow'
    rwa [Char.ofNat_toNat] at hmem
  · decide

theorem isBlank_of_isLiteralChar (h : isLiteralChar c = true) : isBlank c = false := by
  have hall : ∀ d ∈ "0123456789.".toList, isBlank d = false := by decide
  exact hall c (mem_of_isLiteralChar h)

theorem isAllowed_of_isLiteralChar (h : isLiteralChar c = true) : isAllowed c = true := by
  have hall : ∀ d ∈ "0123456789.".toList, isAllowed d = true := by decide
  exact hall c (mem_of_isLiteralChar h)

/-- The characters that are tokens alone. -/
theorem mem_of_ofChar? (h : Token.ofChar? c = some t) : c ∈ "+-*/^()".toList := by
  unfold Token.ofChar? at h
  split at h
  all_goals first
    | decide
    | cases h

theorem isBlank_of_ofChar? (h : Token.ofChar? c = some t) : isBlank c = false := by
  have hall : ∀ d ∈ "+-*/^()".toList, isBlank d = false := by decide
  exact hall c (mem_of_ofChar? h)

theorem isLiteralChar_of_ofChar? (h : Token.ofChar? c = some t) : isLiteralChar c = false := by
  have hall : ∀ d ∈ "+-*/^()".toList, isLiteralChar d = false := by decide
  exact hall c (mem_of_ofChar? h)

theorem isLiteralChar_of_isBlank (h : isBlank c = true) : isLiteralChar c = false := by
  cases hc : isLiteralChar c with
  | false => rfl
  | true =>
      rw [isBlank_of_isLiteralChar hc] at h
      cases h

/-- There is no other kind of character in an expression. -/
theorem isAllowed_cases (h : isAllowed c = true) :
    isBlank c = true ∨ isLiteralChar c = true ∨ ∃ t, Token.ofChar? c = some t := by
  unfold isAllowed at h
  rw [Bool.or_eq_true] at h
  rcases h with hblank | hmem
  · exact .inl hblank
  · have hall : ∀ d ∈ alphabet, isLiteralChar d = true ∨ (Token.ofChar? d).isSome = true := by
      decide
    rcases hall c (List.contains_iff_mem.1 hmem) with hliteral | hsign
    · exact .inr (.inl hliteral)
    · exact .inr (.inr (Option.isSome_iff_exists.1 hsign))

/-! ## The front of a text -/

theorem tokens_nil : tokens [] = .ok [] := by
  rw [tokens]

theorem tokens_two_stars (r : Text) : tokens ('*' :: '*' :: r) = (tokens r).map (.caret :: ·) := by
  rw [tokens]

/-- A blank in front means nothing. -/
theorem tokens_blank (hc : isBlank c = true) (r : Text) : tokens (c :: r) = tokens r := by
  rw [tokens, if_pos hc]
  -- it is not the first of two stars
  rintro r' rfl -
  exact absurd hc (by decide)

/-- A run of digits and points in front is taken whole. -/
theorem tokens_run (hc : isLiteralChar c = true) (r : Text) :
    tokens (c :: r) =
      match Decimal.ofRun? (c :: r.takeWhile isLiteralChar) with
      | some d => (tokens (r.dropWhile isLiteralChar)).map (.number d :: ·)
      | none => .error (.malformedNumber (c :: r.takeWhile isLiteralChar)) := by
  have hblank : ¬ isBlank c = true := by
    rw [isBlank_of_isLiteralChar hc]
    decide
  have hstars : ∀ r', c = '*' → r = '*' :: r' → False := by
    rintro r' rfl -
    exact absurd hc (by decide)
  exact (tokens.eq_3 c r hstars).trans ((if_neg hblank).trans (if_pos hc))

/-- A sign in front is taken alone. -/
theorem tokens_sign (hc : Token.ofChar? c = some t) (hr : c = '*' → r.head? ≠ some '*') :
    tokens (c :: r) = (tokens r).map (t :: ·) := by
  have hblank : ¬ isBlank c = true := by
    rw [isBlank_of_ofChar? hc]
    decide
  have hliteral : ¬ isLiteralChar c = true := by
    rw [isLiteralChar_of_ofChar? hc]
    decide
  rw [tokens, if_neg hblank, if_neg hliteral, hc]
  rintro r' rfl rfl
  exact hr rfl rfl

/-- Any number of blanks in front means nothing. -/
theorem tokens_blanks_append {gap : Text} (h : isBlankText gap = true) (s : Text) :
    tokens (gap ++ s) = tokens s := by
  induction gap with
  | nil => rfl
  | cons c gap ih =>
      unfold isBlankText at h
      rw [List.all_cons, Bool.and_eq_true] at h
      calc
        tokens (c :: gap ++ s) = tokens (gap ++ s) := tokens_blank h.1 _
        _ = tokens s := ih h.2

theorem tokens_of_isBlankText {gap : Text} (h : isBlankText gap = true) : tokens gap = .ok [] := by
  have hgap := tokens_blanks_append h []
  rwa [List.append_nil, tokens_nil] at hgap

/-! ## Division -/

/-- The tokens of two parts of a text, in a row. -/
def inRow (front : Except Error (List Token)) (back : Except Error (List Token)) :
    Except Error (List Token) :=
  front.bind fun ts => back.map (ts ++ ·)

theorem inRow_map_cons (t : Token) (front back : Except Error (List Token)) :
    inRow (front.map (t :: ·)) back = (inRow front back).map (t :: ·) := by
  cases front with
  | error e => rfl
  | ok ts =>
      cases back with
      | error e => rfl
      | ok us => rfl

/-- Two parts of a text make tokens if both of them do. -/
theorem exists_of_inRow {front back : Except Error (List Token)} {ts : List Token}
    (h : inRow front back = .ok ts) :
    ∃ us vs, front = .ok us ∧ back = .ok vs ∧ us ++ vs = ts := by
  cases front with
  | error e => cases h
  | ok us =>
      cases back with
      | error e => cases h
      | ok vs =>
          cases h
          exact ⟨us, vs, rfl, rfl, rfl⟩

/-- No token extends from the first text into the second: they do not share a number or a pair of
stars. -/
def Divided (s r : Text) : Prop :=
  ∀ c ∈ s.getLast?, ∀ d ∈ r.head?,
    ¬ (isLiteralChar c = true ∧ isLiteralChar d = true) ∧ ¬ (c = '*' ∧ d = '*')

theorem Divided.of_cons (h : Divided (c :: s) r) : Divided s r := by
  intro d hd
  cases s with
  | nil => cases hd
  | cons c' s => exact h d hd

/-- A run at the end of the first text ends there. -/
theorem Divided.takeWhile_append (h : Divided (c :: s) r) (hc : isLiteralChar c = true) :
    (s ++ r).takeWhile isLiteralChar = s.takeWhile isLiteralChar ∧
      (s ++ r).dropWhile isLiteralChar = s.dropWhile isLiteralChar ++ r := by
  cases hrest : s.dropWhile isLiteralChar with
  | cons d rest =>
      have hne : ¬ (s.takeWhile isLiteralChar).length = s.length := by
        intro hlength
        have hall := (List.takeWhile_prefix isLiteralChar).eq_of_length hlength
        rw [List.takeWhile_eq_self_iff, ← List.dropWhile_eq_nil_iff, hrest] at hall
        cases hall
      rw [List.takeWhile_append, List.dropWhile_append, if_neg hne, hrest]
      exact ⟨rfl, rfl⟩
  | nil =>
      have hall : ∀ d ∈ c :: s, isLiteralChar d = true := by
        intro d hd
        rcases List.mem_cons.1 hd with rfl | hd
        · exact hc
        · exact List.dropWhile_eq_nil_iff.1 hrest d hd
      have hs : ∀ d ∈ s, isLiteralChar d = true := fun d hd => hall d (List.mem_cons_of_mem _ hd)
      rw [List.takeWhile_append_of_pos hs, List.dropWhile_append_of_pos hs,
        List.takeWhile_eq_self_iff.2 hs]
      cases r with
      | nil => exact ⟨List.append_nil s, rfl⟩
      | cons d r =>
          -- the character in front of `d` belongs to the run
          have hlast := List.getLast?_eq_some_getLast (List.cons_ne_nil c s)
          have hd : ¬ isLiteralChar d = true := fun hd =>
            (h _ hlast d rfl).1 ⟨hall _ (List.getLast_mem _), hd⟩
          rw [List.takeWhile_cons_of_neg hd, List.dropWhile_cons_of_neg hd]
          exact ⟨List.append_nil s, rfl⟩

/-- The tokens of a divided text are those of its parts. -/
theorem tokens_append (h : Divided s r) : tokens (s ++ r) = inRow (tokens s) (tokens r) := by
  fun_induction tokens s with
  | case1 =>
      rw [List.nil_append]
      cases tokens r <;> rfl
  | case2 s ih =>
      rw [List.cons_append, List.cons_append, tokens_two_stars, ih h.of_cons.of_cons,
        inRow_map_cons]
  | case3 c s hstars hc ih =>
      rw [List.cons_append, tokens_blank hc, ih h.of_cons]
  | case4 c s hstars _ hc run d hd ih =>
      obtain ⟨htake, hdrop⟩ := h.takeWhile_append hc
      have hrest : Divided (s.dropWhile isLiteralChar) r := by
        intro c' hc'
        have hlast : c' ∈ s.getLast? := by
          rw [← List.takeWhile_append_dropWhile (p := isLiteralChar) (l := s),
            List.getLast?_append, hc']
          rfl
        exact h.of_cons c' hlast
      rw [List.cons_append, tokens_run hc, htake, hd, hdrop]
      show (tokens (s.dropWhile isLiteralChar ++ r)).map _ = _
      rw [ih hrest, inRow_map_cons]
  | case5 c s hstars _ hc run hd =>
      rw [List.cons_append, tokens_run hc, (h.takeWhile_append hc).1, hd]
      rfl
  | case6 c s hstars _ _ t hc ih =>
      have hnext : c = '*' → (s ++ r).head? ≠ some '*' := by
        intro hstar hhead
        cases s with
        | nil => exact (h c rfl '*' hhead).2 ⟨hstar, rfl⟩
        | cons c' s' =>
            cases hhead
            exact hstars s' hstar rfl
      rw [List.cons_append, tokens_sign hc hnext, ih h.of_cons, inRow_map_cons]
  | case7 c s hstars hblank hrun hc =>
      have hstar : c ≠ '*' := by
        rintro rfl
        cases hc
      rw [List.cons_append, tokens, if_neg hblank, if_neg hrun, hc]
      · rfl
      · intro r' h
        exact absurd h hstar

/-- No token extends over a blank. -/
theorem tokens_append_blank (hb : isBlank b = true) (s r : Text) :
    tokens (s ++ b :: r) = inRow (tokens s) (tokens r) := by
  have hdivided : Divided s (b :: r) := by
    intro c _ d hd
    cases hd
    refine ⟨fun hliteral => ?_, fun hstar => ?_⟩
    · rw [isLiteralChar_of_isBlank hb] at hliteral
      cases hliteral.2
    · rw [hstar.2] at hb
      exact absurd hb (by decide)
  rw [tokens_append hdivided, tokens_blank hb]

/-- The tokens of a text are those of its words. -/
theorem tokens_eq_foldr (s : Text) :
    tokens s = ((Text.words s).map tokens).foldr inRow (.ok []) := by
  have h := Text.worded_words s
  generalize Text.words s = ws at h
  induction h with
  | blank hgap => exact tokens_of_isBlankText hgap
  | @word gap word rest ws hgap hword hne hrest h ih =>
      rw [tokens_blanks_append hgap, List.map_cons, List.foldr_cons, ← ih]
      cases rest with
      | nil =>
          rw [List.append_nil, tokens_nil]
          cases tokens word with
          | error e => rfl
          | ok ts => simp [inRow, Except.bind, Except.map]
      | cons b rest =>
          have hb : isBlank b = true := hrest b rfl
          rw [tokens_append_blank hb, tokens_blank hb]

/-- Blanks between words mean nothing, and neither do those around them. -/
theorem tokens_congr {t : Text} (h : Text.words s = Text.words t) : tokens s = tokens t := by
  rw [tokens_eq_foldr, h, ← tokens_eq_foldr]

end Expr
end ChatAssistant
