import ChatAssistant.Proofs.Question.Bare
import ChatAssistant.Proofs.Question.Fragment
import ChatAssistant.Proofs.Text.Tidy

/-!
# Where there are digits there is an expression

An expression is found in every text with a digit and in no other, since no step on the way loses
the digits or brings new ones in.  What is found is tidy.  It can be refused for one of its
characters only if it was announced by a phrase: all the other ways to find an expression look at
nothing but characters of expressions.

* `hasDigit_replaceWords` — digits stay where words are replaced;
* `longestRun?_eq_none` — the last resort fails for want of digits only;
* `isAllowed_of_run` — what is found without a phrase;
* `extract?_of_digits` — which texts an expression is found in, and what it is like.
-/

namespace ChatAssistant
namespace Question

variable {c d : Char} {s part x : Text}

/-! ## Digits -/

/-- Digits have one form. -/
theorem mem_lowercase_of_isDigit (hdigit : Text.isDigit d = true) (h : d ∈ s) :
    d ∈ Text.lowercase s := by
  have hliteral : Decimal.isLiteralChar d = true := by simp [Decimal.isLiteralChar, hdigit]
  have hstays := stays_of_isAllowed (Expr.isAllowed_of_isLiteralChar hliteral)
  have hform : d ∈ Text.forms d := by
    rw [Text.forms_of_stays hstays]
    exact List.mem_singleton_self d
  exact Text.mem_lowercase h hstays.2 hform

/-- Replacing words neither loses digits nor brings any in. -/
theorem hasDigit_replaceWords (part : Text) :
    Text.hasDigit (replaceWords part) = Text.hasDigit part := by
  have hsigma : ∀ c ∈ ['ς', 'σ'], Text.isDigit c = false := by decide
  have hwords : ∀ w ∈ wordOperators, ∀ c ∈ w.1, Text.isDigit c = false := by decide
  rw [Bool.eq_iff_iff]
  constructor
  · exact hasDigit_of_replaceWords
  · intro h
    obtain ⟨d, hd, hdigit⟩ := List.any_eq_true.1 h
    have hother {t : Text} (ht : ∀ c ∈ t, Text.isDigit c = false) : d ∉ t := fun hmem =>
      Bool.false_ne_true ((ht d hmem).symm.trans hdigit)
    have hkept := mem_replaceWords (mem_lowercase_of_isDigit hdigit hd) (isBlank_of_isDigit hdigit)
      (hother hsigma) fun w hw => hother (hwords w hw)
    exact List.any_eq_true.2 ⟨d, hkept, hdigit⟩

/-! ## Runs -/

theorem longest?_ne_none {texts : List Text} (h : texts ≠ []) : longest? texts ≠ none := by
  -- whatever was best before, one is the best after the last text
  have hlast : texts.dropLast ++ [texts.getLast h] = texts := List.dropLast_concat_getLast h
  unfold longest?
  rw [← hlast, List.foldl_concat]
  split
  · simp
  · split
    · simp
    · simp

/-- Only a text without digits has no run with a digit. -/
theorem longestRun?_eq_none (h : longestRun? s = none) : Text.hasDigit s = false := by
  rw [Bool.eq_false_iff]
  intro hdigits
  obtain ⟨d, hd, hdigit⟩ := List.any_eq_true.1 hdigits
  have hrunChar : isRunChar d = true := by simp [isRunChar, hdigit]
  obtain ⟨run, hrun, hmem⟩ := Text.exists_mem_runs hrunChar hd
  have hstripped : Text.hasDigit (Text.stripWhile isMargin run) = true := by
    rw [hasDigit_stripWhile]
    exact List.any_eq_true.2 ⟨d, hmem, hdigit⟩
  have hkept := List.mem_filter.2 ⟨List.mem_map_of_mem hrun, hstripped⟩
  exact longest?_ne_none (List.ne_nil_of_mem hkept) h

theorem hasDigit_of_longestRun? (h : longestRun? s = some part) : Text.hasDigit part = true :=
  List.of_mem_filter (mem_of_longest? h)

theorem hasDigit_of_runBeforeEquals? (h : runBeforeEquals? s = some part) :
    Text.hasDigit part = true := by
  fun_induction runBeforeEquals? s with
  | case1 => cases h
  | case2 s c r hs run rest hrun =>
      obtain rfl := Option.some.inj h
      rw [Bool.and_eq_true] at hrun
      exact hrun.1
  | case3 s c r hs run rest hrun ih => exact ih h

theorem isRunChar_of_runBeforeEquals? (h : runBeforeEquals? s = some part) :
    ∀ c ∈ part, isRunChar c = true := by
  fun_induction runBeforeEquals? s with
  | case1 => cases h
  | case2 s c r hs run rest hrun =>
      obtain rfl := Option.some.inj h
      intro d hd
      rcases List.mem_cons.1 hd with rfl | hd
      · have hhead := List.head?_dropWhile_not (!isRunChar ·) s
        rw [hs] at hhead
        simpa using hhead
      · exact List.mem_takeWhile_imp hd
  | case3 s c r hs run rest hrun ih => exact ih h

theorem isRunChar_of_longestRun? (h : longestRun? s = some part) :
    ∀ c ∈ part, isRunChar c = true := by
  obtain ⟨run, hrun, rfl⟩ := List.mem_map.1 (List.mem_of_mem_filter (mem_of_longest? h))
  intro c hc
  exact Text.of_mem_runs hrun c (Text.mem_of_mem_stripWhile hc)

/-! ## Characters -/

theorem isAllowed_of_isRunChar (h : isRunChar c = true) : Expr.isAllowed c = true := by
  have hsigns : ∀ c ∈ "+-*/^().".toList, Expr.isAllowed c = true := by decide
  simp only [isRunChar, Bool.or_eq_true, List.contains_iff_mem] at h
  rcases h with (hdigit | hblank) | hsign
  · exact Expr.isAllowed_of_isLiteralChar (by simp [Decimal.isLiteralChar, hdigit])
  · exact isAllowed_iff.2 (.inl hblank)
  · exact hsigns c hsign

/-- There are no words in a run, so nothing but its blanks changes. -/
theorem isAllowed_of_run (h : ∀ c ∈ part, isRunChar c = true) :
    ∀ c ∈ replaceWords part, Expr.isAllowed c = true := by
  have hallowed : ∀ c ∈ part, Expr.isAllowed c = true := fun c hc => isAllowed_of_isRunChar (h c hc)
  intro c hc
  rw [replaceWords_of_symbols fun c hc => isSymbol_of_isAllowed (hallowed c hc)] at hc
  cases hblank : Text.isBlank c with
  | true => exact isAllowed_iff.2 (.inl hblank)
  | false => exact hallowed c ((Text.mem_collapse_iff hblank).1 hc)

/-! ## What is found -/

theorem hasDigit_of_extract? (h : extract? s = some x) : Text.hasDigit x = true := by
  rcases extract?_cases h with ⟨t, -, part, -, hx⟩ | ⟨part, hpart | hpart, rfl⟩
  · exact (eq_of_withDigit? hx).2
  · rw [hasDigit_replaceWords, hasDigit_of_runBeforeEquals? hpart]
  · rw [hasDigit_replaceWords, hasDigit_of_longestRun? hpart]

theorem extract?_eq_none_iff : extract? s = none ↔ Text.hasDigit s = false := by
  constructor
  · intro h
    unfold extract? at h
    rw [Option.or_eq_none_iff, Option.or_eq_none_iff, Option.map_eq_none_iff] at h
    exact longestRun?_eq_none h.2.2
  · intro h
    rw [Option.eq_none_iff_forall_ne_some]
    intro x hx
    -- its digits are digits of the text
    obtain ⟨part, hpart, rfl⟩ := extract?_isInfix hx
    have hpartDigit := hasDigit_of_replaceWords (hasDigit_of_extract? hx)
    obtain ⟨d, hd, hdigit⟩ := List.any_eq_true.1 hpartDigit
    have hdigits : Text.hasDigit s = true := List.any_eq_true.2 ⟨d, hpart.subset hd, hdigit⟩
    rw [h] at hdigits
    cases hdigits

theorem tidy_of_extract? (h : extract? s = some x) : Text.Tidy x := by
  obtain ⟨part, -, rfl⟩ := extract?_isInfix h
  exact Text.tidy_collapse _

/-- What is found was announced, or it has nothing in it but characters of expressions. -/
theorem announced_or_isAllowed (h : extract? s = some x) :
    (∃ t ∈ triggers, ∃ part, t.announced? s = some part ∧ x = replaceWords part) ∨
      ∀ c ∈ x, Expr.isAllowed c = true := by
  rcases extract?_cases h with ⟨t, ht, part, hpart, hx⟩ | ⟨part, hpart | hpart, rfl⟩
  · exact .inl ⟨t, ht, part, hpart, (eq_of_withDigit? hx).1⟩
  · exact .inr (isAllowed_of_run (isRunChar_of_runBeforeEquals? hpart))
  · exact .inr (isAllowed_of_run (isRunChar_of_longestRun? hpart))

/-- An expression is found exactly in the texts with a digit, and then it has a digit and is tidy.
Where no phrase announces anything, all its characters are those of expressions, so one that is
refused for a character stood behind a phrase. -/
theorem extract?_of_digits (s : Text) :
    (extract? s = none ↔ Text.hasDigit s = false) ∧
      (∀ x, extract? s = some x → Text.hasDigit x = true ∧ Text.Tidy x) ∧
      ((∀ t ∈ triggers, t.announced? s = none) →
        ∀ x, extract? s = some x → Expr.checkCharacters x = .ok ()) ∧
      ∀ (α : Type) [Arithmetic α] (x : Text) (c : Char), extract? s = some x →
        (Expr.evaluate x : Except Expr.Error α) = .error (.invalidCharacter c) →
        ∃ t ∈ triggers, ∃ part, t.announced? s = some part ∧ x = replaceWords part := by
  refine ⟨extract?_eq_none_iff, ?_, ?_, ?_⟩
  · intro x hx
    exact ⟨hasDigit_of_extract? hx, tidy_of_extract? hx⟩
  · intro hnone x hx
    rcases announced_or_isAllowed hx with ⟨t, ht, part, hpart, -⟩ | hallowed
    · rw [hnone t ht] at hpart
      cases hpart
    · exact Expr.checkCharacters_of_isAllowed hallowed
  · intro α _ x c hx he
    rcases announced_or_isAllowed hx with hannounced | hallowed
    · exact hannounced
    · obtain ⟨before, after, rfl, -, hforeign⟩ := (Expr.evaluate_eq_invalidCharacter_iff α).1 he
      rw [hallowed c (by simp)] at hforeign
      cases hforeign

example :
    (∀ t ∈ triggers, t.announced? "ну а 3 или 15 * 4 - 1 тогда".toList = none) ∧
      extract? "ну а 3 или 15 * 4 - 1 тогда".toList = some "15 * 4 - 1".toList := by
  decide +kernel

end Question
end ChatAssistant
