import ChatAssistant.Proofs.Expr.Screening

/-!
# Points at the ends of a text

A point is part of a number, and it may be its first or its last character.  What becomes of the
tokens of a text when a point is put at one of its ends, or taken away there?

* At the end, a point that belongs to a number may go (`tokens_of_append`), and behind a digit of a
  number without a point one may be put (`tokens_append_point`).  Anywhere else a point at the end
  is a lone one, and no number (`tokens_append_lone_point`).
* At the front, a point may go as well, but the number is another one without it
  (`exists_tokens_of_point_cons`).

A text with a value has a digit in it and is made of characters of expressions only
(`hasDigit_of_evaluate`, `isAllowed_of_evaluate`), and its value depends on its tokens alone
(`evaluate_congr`).
-/

namespace ChatAssistant
namespace Expr

open Text (isBlank)
open Decimal (isLiteralChar)

variable {c : Char} {s t r run tail : Text} {ts : List Token} {d : Decimal}

/-! ## Runs -/

theorem ofRun?_of_digits (h : ∀ c ∈ run, Text.isDigit c = true) (hne : run ≠ []) :
    Decimal.ofRun? run = some (Decimal.ofParts run []) := by
  have htake : run.takeWhile Text.isDigit = run := List.takeWhile_eq_self_iff.2 h
  have hdrop : run.dropWhile Text.isDigit = [] := List.dropWhile_eq_nil_iff.2 h
  simp [Decimal.ofRun?, htake, hdrop, hne]

/-- A point behind digits belongs to their number. -/
theorem ofRun?_append_point (h : ∀ c ∈ run, Text.isDigit c = true) (hne : run ≠ []) :
    Decimal.ofRun? (run ++ ['.']) = some (Decimal.ofParts run []) := by
  have hpoint : ¬ Text.isDigit '.' = true := by decide
  have htake : (run ++ ['.']).takeWhile Text.isDigit = run := by
    rw [List.takeWhile_append_of_pos h, List.takeWhile_cons_of_neg hpoint, List.append_nil]
  have hdrop : (run ++ ['.']).dropWhile Text.isDigit = ['.'] := by
    rw [List.dropWhile_append_of_pos h, List.dropWhile_cons_of_neg hpoint]
  simp [Decimal.ofRun?, htake, hdrop, hne]

/-- A number that ends with a point is the same without it. -/
theorem ofRun?_of_append_point (h : Decimal.ofRun? (run ++ ['.']) = some d) :
    Decimal.ofRun? run = some d := by
  by_cases hall : ∀ c ∈ run, Text.isDigit c = true
  · cases hrun : run with
    | nil =>
        rw [hrun] at h
        cases h
    | cons c rest =>
        have hne : run ≠ [] := by simp [hrun]
        rw [ofRun?_append_point hall hne] at h
        rw [← hrun, ofRun?_of_digits hall hne, h]
  · -- there is a point in front of this one
    cases hrest : run.dropWhile Text.isDigit with
    | nil => exact absurd (List.dropWhile_eq_nil_iff.1 hrest) hall
    | cons p fraction =>
        have hdrop : (run ++ ['.']).dropWhile Text.isDigit = p :: (fraction ++ ['.']) := by
          rw [List.dropWhile_append, hrest]
          rfl
        have hpoint : Text.isDigit '.' = false := by decide
        simp [Decimal.ofRun?, hdrop, hpoint] at h

/-- Behind the point that a number starts with there are digits, and nothing else. -/
theorem digits_of_point_cons (h : Decimal.ofRun? ('.' :: run) = some d) :
    (∀ c ∈ run, Text.isDigit c = true) ∧ run ≠ [] := by
  have hpoint : ¬ Text.isDigit '.' = true := by decide
  have htake : ('.' :: run).takeWhile Text.isDigit = [] := List.takeWhile_cons_of_neg hpoint
  have hdrop : ('.' :: run).dropWhile Text.isDigit = '.' :: run := List.dropWhile_cons_of_neg hpoint
  simp only [Decimal.ofRun?, htake, hdrop] at h
  split at h
  · rename_i hfraction
    simpa using hfraction
  · cases h

/-! ## A point at the end -/

theorem tokens_literal (h : ∀ c ∈ run, isLiteralChar c = true) (hne : run ≠ []) :
    tokens run =
      match Decimal.ofRun? run with
      | some d => .ok [.number d]
      | none => .error (.malformedNumber run) := by
  cases run with
  | nil => exact absurd rfl hne
  | cons c run =>
      have hrun : ∀ d ∈ run, isLiteralChar d = true := fun d hd => h d (List.mem_cons_of_mem _ hd)
      rw [tokens_run (h c List.mem_cons_self), List.takeWhile_eq_self_iff.2 hrun,
        List.dropWhile_eq_nil_iff.2 hrun, tokens_nil]
      rfl

/-- A text is divided in front of the run at its end, whatever run stands there. -/
theorem divided_dropEndWhile (s : Text) (hr : ∀ c ∈ r.head?, isLiteralChar c = true) :
    Divided (Text.dropEndWhile isLiteralChar s) r := by
  intro c hc d hd
  refine ⟨fun h => ?_, ?_⟩
  · exact Text.not_of_getLast?_dropEndWhile isLiteralChar s c hc h.1
  · rintro ⟨-, rfl⟩
    exact absurd (hr '*' hd) (by decide)

/-- The tokens of a text are those in front of the run at its end, and this run; with more of the
run, or less of it, the tokens in front are the same. -/
theorem exists_run_append (s : Text) : ∃ front run : Text,
    s = front ++ run ∧ (∀ c ∈ front.getLast?, ¬ isLiteralChar c = true) ∧
      (∀ c ∈ run, isLiteralChar c = true) ∧
      ∀ other : Text, (∀ c ∈ other, isLiteralChar c = true) →
        tokens (front ++ other) = inRow (tokens front) (tokens other) := by
  obtain ⟨run, hs, hrun⟩ := Text.exists_dropEndWhile_append isLiteralChar s
  refine ⟨_, run, hs, Text.not_of_getLast?_dropEndWhile isLiteralChar s, hrun, ?_⟩
  intro other hother
  exact tokens_append (divided_dropEndWhile s fun c hc => hother c (List.mem_of_mem_head? hc))

/-- A lone point is no number. -/
theorem tokens_point : tokens ['.'] = .error (.malformedNumber ['.']) :=
  tokens_literal (by decide) (by decide)

theorem isLiteralChar_of_mem_append_point (h : ∀ c ∈ run, isLiteralChar c = true) :
    ∀ c ∈ run ++ ['.'], isLiteralChar c = true := by
  intro c hc
  rcases List.mem_append.1 hc with hc | hc
  · exact h c hc
  · obtain rfl := List.mem_singleton.1 hc
    decide

/-- If a text with a point at its end can be divided into tokens, the point belongs to a number, and
this number is the same without it. -/
theorem tokens_of_append_point (h : tokens (s ++ ['.']) = .ok ts) : tokens s = .ok ts := by
  obtain ⟨front, run, rfl, -, hrun, htokens⟩ := exists_run_append s
  have hrun' := isLiteralChar_of_mem_append_point hrun
  rw [List.append_assoc, htokens _ hrun', tokens_literal hrun' (by simp)] at h
  rw [htokens run hrun]
  obtain ⟨us, vs, hus, hvs, rfl⟩ := exists_of_inRow h
  cases hvalue : Decimal.ofRun? (run ++ ['.']) with
  | none =>
      rw [hvalue] at hvs
      cases hvs
  | some d =>
      have hsame := ofRun?_of_append_point hvalue
      have hne : run ≠ [] := by
        rintro rfl
        cases hsame
      rw [hvalue] at h
      rwa [tokens_literal hrun hne, hsame]

/-- Blanks and points that a text ends with can go, if it can be divided into tokens at all. -/
theorem tokens_of_append (htail : ∀ c ∈ tail, (isBlank c || c == '.') = true)
    (h : tokens (s ++ tail) = .ok ts) : tokens s = .ok ts := by
  induction tail generalizing s with
  | nil => rwa [List.append_nil] at h
  | cons c tail ih =>
      have hshort : tokens (s ++ [c]) = .ok ts := by
        refine ih (fun d hd => htail d (List.mem_cons_of_mem _ hd)) ?_
        rwa [List.append_assoc]
      rcases Bool.or_eq_true_iff.1 (htail c List.mem_cons_self) with hblank | hpoint
      · rw [tokens_append_blank hblank, tokens_nil] at hshort
        obtain ⟨us, vs, hus, hvs, rfl⟩ := exists_of_inRow hshort
        cases hvs
        rwa [List.append_nil]
      · obtain rfl := beq_iff_eq.1 hpoint
        exact tokens_of_append_point hshort

/-- The last character of the text is a digit. -/
def EndsInDigit (s : Text) : Prop := ∃ c ∈ s.getLast?, Text.isDigit c = true

/-- A point behind a number without a point belongs to that number. -/
theorem tokens_append_point (hpoint : '.' ∉ s) (hend : EndsInDigit s) :
    tokens (s ++ ['.']) = tokens s := by
  obtain ⟨front, run, rfl, hfront, hrun, htokens⟩ := exists_run_append s
  have hdigits : ∀ c ∈ run, Text.isDigit c = true := by
    intro c hc
    have hliteral := hrun c hc
    have hne : c ≠ '.' := by
      rintro rfl
      exact hpoint (List.mem_append_right _ hc)
    simpa [isLiteralChar, hne] using hliteral
  have hne : run ≠ [] := by
    rintro rfl
    obtain ⟨c, hc, hdigit⟩ := hend
    rw [List.append_nil] at hc
    exact hfront c hc (by simp [isLiteralChar, hdigit])
  have hrun' := isLiteralChar_of_mem_append_point hrun
  rw [List.append_assoc, htokens _ hrun', htokens run hrun, tokens_literal hrun' (by simp),
    tokens_literal hrun hne, ofRun?_append_point hdigits hne, ofRun?_of_digits hdigits hne]

/-- A point behind anything else is a lone one. -/
theorem tokens_append_lone_point (hpoint : '.' ∉ s) (hend : ¬ EndsInDigit s)
    (h : tokens s = .ok ts) : tokens (s ++ ['.']) = .error (.malformedNumber ['.']) := by
  have hdivided : Divided s ['.'] := by
    intro c hc d hd
    cases hd
    refine ⟨?_, fun hstar => absurd hstar.2 (by decide)⟩
    rintro ⟨hliteral, -⟩
    have hne : c ≠ '.' := by
      rintro rfl
      exact hpoint (List.mem_of_getLast? hc)
    exact hend ⟨c, hc, by simpa [isLiteralChar, hne] using hliteral⟩
  rw [tokens_append hdivided, h, tokens_point]
  rfl

/-! ## A point at the front -/

theorem tokens_dropWhile (s : Text) : tokens (s.dropWhile isBlank) = tokens s := by
  calc
    tokens (s.dropWhile isBlank) = tokens (s.takeWhile isBlank ++ s.dropWhile isBlank) :=
        (tokens_blanks_append (List.all_takeWhile ..) _).symm
    _ = tokens s := by rw [List.takeWhile_append_dropWhile]

/-- What is made of a result is a result only if there was one. -/
theorem exists_of_map {α β : Type} {f : α → β} {x : Except Error α} {b : β}
    (h : x.map f = .ok b) : ∃ a, x = .ok a ∧ f a = b := by
  cases x with
  | error e => cases h
  | ok a =>
      cases h
      exact ⟨a, rfl, rfl⟩

/-- What stands behind a point at the front starts with a digit, and can be divided into tokens if
the point does not keep the text from it. -/
theorem exists_tokens_of_point_cons (h : tokens ('.' :: r) = .ok ts) :
    (∃ c ∈ r.head?, Text.isDigit c = true) ∧ ∃ us, tokens r = .ok us := by
  rw [tokens_run (by decide)] at h
  cases hvalue : Decimal.ofRun? ('.' :: r.takeWhile isLiteralChar) with
  | none =>
      rw [hvalue] at h
      cases h
  | some d =>
      rw [hvalue] at h
      obtain ⟨hdigits, hne⟩ := digits_of_point_cons hvalue
      cases r with
      | nil => exact absurd rfl hne
      | cons c r =>
          have hc : isLiteralChar c = true := by
            by_contra hc
            exact hne (List.takeWhile_cons_of_neg hc)
          rw [List.takeWhile_cons_of_pos hc] at hdigits hne
          refine ⟨⟨c, rfl, hdigits c List.mem_cons_self⟩, ?_⟩
          rw [tokens_run hc, ofRun?_of_digits hdigits hne]
          rw [List.dropWhile_cons_of_pos hc] at h
          obtain ⟨us, hus, -⟩ := exists_of_map h
          rw [hus]
          exact ⟨_, rfl⟩

/-! ## Texts with a value -/

theorem isAllowed_of_parse {x : Expr Decimal} (h : parse s = .ok x) :
    ∀ c ∈ s, isAllowed c = true := by
  cases hfind : s.find? (!isAllowed ·) with
  | some c =>
      rw [parse_of_foreign hfind] at h
      cases h
  | none =>
      intro c hc
      simpa using List.find?_eq_none.1 hfind c hc

theorem exists_tokens_of_parse {x : Expr Decimal} (h : parse s = .ok x) :
    ∃ ts, tokens s = .ok ts ∧ ofTokens ts = .ok x := by
  rw [parse_of_allowed (isAllowed_of_parse h)] at h
  cases hts : tokens s with
  | error e =>
      rw [hts] at h
      cases h
  | ok ts =>
      rw [hts] at h
      exact ⟨ts, rfl, h⟩

mutual

/-- Every derivation of a sum has a number in it. -/
theorem Grammar.Sum.exists_number (d : Grammar.Sum) : ∃ n, Token.number n ∈ d.tokens := by
  match d with
  | .mk head tail =>
      obtain ⟨n, hn⟩ := head.exists_number
      exact ⟨n, List.mem_append_left _ hn⟩

theorem Grammar.Product.exists_number (d : Grammar.Product) :
    ∃ n, Token.number n ∈ d.tokens := by
  match d with
  | .mk head tail =>
      obtain ⟨n, hn⟩ := head.exists_number
      exact ⟨n, List.mem_append_left _ hn⟩

theorem Grammar.Signed.exists_number (d : Grammar.Signed) : ∃ n, Token.number n ∈ d.tokens := by
  match d with
  | .sign sign operand =>
      obtain ⟨n, hn⟩ := operand.exists_number
      exact ⟨n, List.mem_cons_of_mem _ hn⟩
  | .power power => exact power.exists_number

theorem Grammar.Power.exists_number (d : Grammar.Power) : ∃ n, Token.number n ∈ d.tokens := by
  match d with
  | .plain base => exact base.exists_number
  | .raised base exponent =>
      obtain ⟨n, hn⟩ := base.exists_number
      exact ⟨n, List.mem_append_left _ hn⟩

theorem Grammar.Primary.exists_number (d : Grammar.Primary) :
    ∃ n, Token.number n ∈ d.tokens := by
  match d with
  | .number n => exact ⟨n, List.mem_singleton_self _⟩
  | .bracketed inner =>
      obtain ⟨n, hn⟩ := inner.exists_number
      exact ⟨n, List.mem_cons_of_mem _ (List.mem_append_left _ hn)⟩

end

/-- There is a digit in every number. -/
theorem exists_digit_of_ofRun? (h : Decimal.ofRun? run = some d) :
    ∃ c ∈ run, Text.isDigit c = true := by
  have hwhole {c : Char} (hc : c ∈ run.takeWhile Text.isDigit) :
      ∃ c ∈ run, Text.isDigit c = true :=
    ⟨c, (List.takeWhile_sublist _).mem hc, List.mem_takeWhile_imp hc⟩
  unfold Decimal.ofRun? at h
  cases hdigits : run.takeWhile Text.isDigit with
  | cons c whole => exact hwhole (hdigits ▸ List.mem_cons_self)
  | nil =>
      cases hrest : run.dropWhile Text.isDigit with
      | nil => simp [hdigits, hrest] at h
      | cons p fraction =>
          -- then there are digits behind the point
          cases fraction with
          | nil => simp [hdigits, hrest] at h
          | cons c fraction =>
              have hc : c ∈ run.dropWhile Text.isDigit := by simp [hrest]
              refine ⟨c, (List.dropWhile_sublist _).mem hc, ?_⟩
              simp only [hdigits, hrest, List.all_cons] at h
              split at h
              · rename_i hfraction
                simp only [Bool.and_eq_true] at hfraction
                exact hfraction.1.1
              · cases h

/-- A text with a number among its tokens has a digit in it. -/
theorem exists_digit_of_tokens {n : Decimal} (h : tokens s = .ok ts) (hn : Token.number n ∈ ts) :
    ∃ c ∈ s, Text.isDigit c = true := by
  fun_induction tokens s generalizing ts with
  | case1 =>
      cases h
      cases hn
  | case2 r ih =>
      obtain ⟨us, hus, rfl⟩ := exists_of_map h
      obtain ⟨c, hc, hdigit⟩ := ih hus (List.mem_of_ne_of_mem (by simp) hn)
      exact ⟨c, by simp [hc], hdigit⟩
  | case3 c r _ hc ih =>
      obtain ⟨d, hd, hdigit⟩ := ih h hn
      exact ⟨d, List.mem_cons_of_mem _ hd, hdigit⟩
  | case4 c r _ _ hc run d hd =>
      obtain ⟨e, he, hdigit⟩ := exists_digit_of_ofRun? hd
      refine ⟨e, ?_, hdigit⟩
      rcases List.mem_cons.1 he with rfl | he
      · exact List.mem_cons_self
      · exact List.mem_cons_of_mem _ ((List.takeWhile_sublist _).mem he)
  | case5 => cases h
  | case6 c r _ _ _ t hc ih =>
      obtain ⟨us, hus, rfl⟩ := exists_of_map h
      have ht : Token.number n ≠ t := by
        rintro rfl
        unfold Token.ofChar? at hc
        split at hc <;> cases hc
      obtain ⟨d, hd, hdigit⟩ := ih hus (List.mem_of_ne_of_mem ht hn)
      exact ⟨d, List.mem_cons_of_mem _ hd, hdigit⟩
  | case7 => cases h

section Values

variable {α : Type} [Arithmetic α] {v : α}

theorem exists_parse_of_evaluate (h : evaluate s = .ok v) : ∃ x, parse s = .ok x := by
  cases hx : parse s with
  | error e =>
      unfold evaluate at h
      rw [hx] at h
      cases h
  | ok x => exact ⟨x, rfl⟩

theorem isAllowed_of_evaluate (h : evaluate s = .ok v) : ∀ c ∈ s, isAllowed c = true := by
  obtain ⟨x, hx⟩ := exists_parse_of_evaluate h
  exact isAllowed_of_parse hx

theorem exists_tokens_of_evaluate (h : evaluate s = .ok v) : ∃ ts, tokens s = .ok ts := by
  obtain ⟨x, hx⟩ := exists_parse_of_evaluate h
  obtain ⟨ts, hts, -⟩ := exists_tokens_of_parse hx
  exact ⟨ts, hts⟩

theorem hasDigit_of_evaluate (h : evaluate s = .ok v) : Text.hasDigit s = true := by
  obtain ⟨x, hx⟩ := exists_parse_of_evaluate h
  obtain ⟨ts, hts, hread⟩ := exists_tokens_of_parse hx
  obtain ⟨-, d, rfl, -⟩ := ofTokens_eq_ok_iff.1 hread
  obtain ⟨n, hn⟩ := d.exists_number
  exact List.any_eq_true.2 (exists_digit_of_tokens hts hn)

/-- The value of an expression depends on nothing but its tokens. -/
theorem evaluate_congr (hs : ∀ c ∈ s, isAllowed c = true) (ht : ∀ c ∈ t, isAllowed c = true)
    (h : tokens s = tokens t) : (evaluate s : Except Error α) = evaluate t := by
  unfold evaluate
  rw [parse_of_allowed hs, parse_of_allowed ht, h]

end Values

end Expr
end ChatAssistant
