import ChatAssistant.Proofs.Question.Bare
import ChatAssistant.Proofs.Question.Fragment

/-!
# Equations that are not solved

A hint is the last resort: before it is given, the expression of the text is evaluated, whatever
kind of problem the text is.  An equation that is not solved has its hint for an answer only if
nothing in it can be evaluated.  Otherwise the answer is the value of a part of it, which lies on
one side of its equals sign and does not have the unknown.

* `Valued` — what is evaluated in a text, and its value;
* `exists_part_of_valued` — the part of the text that it is;
* `answer_of_unsolved` — what is left when the solver of equations declines;
* `help_iff_not_valued` — when the hint is given, and what is answered without it.
-/

namespace ChatAssistant

namespace Question

variable {s x : Text}

/-- Expressions are found with their blanks collapsed. -/
theorem collapse_of_extract? (h : extract? s = some x) : Text.collapse x = x := by
  obtain ⟨part, -, rfl⟩ := extract?_isInfix h
  exact Text.collapse_collapse _

end Question

namespace Problem

variable {α : Type} [Arithmetic α] {s x : Text} {v : α}

/-- The expression of the text is `x`, and its value is `v`. -/
structure Valued (s x : Text) (v : α) : Prop where
  found : Question.extract? s = some x
  value : Expr.evaluate x = .ok v

/-! ## The part that is evaluated -/

/-- A text with a character that has no place in an expression has no value. -/
theorem not_mem_of_evaluate {d : Char} (h : Expr.evaluate x = .ok v)
    (hd : Expr.isAllowed d = false) : d ∉ x := by
  intro hmem
  rw [Expr.isAllowed_of_evaluate h d hmem] at hd
  cases hd

/-- The part of a text that is evaluated lies on one side of an equals sign, and the unknown is not
in it. -/
theorem exists_part_of_valued (h : Valued s x v) :
    ∃ part : Text, part <:+: s ∧ x = Question.replaceWords part ∧ '=' ∉ part ∧
      mentionsUnknown (Text.lowercase part) = false := by
  obtain ⟨part, hpart, rfl⟩ := Question.extract?_isInfix h.found
  -- each of these would be kept, and then there would be no value
  have habsent {d : Char} (hd : d ∈ ['=', 'x', 'х']) : d ∉ Text.lowercase part := by
    have hall : ∀ d ∈ ['=', 'x', 'х'], Expr.isAllowed d = false ∧ Text.isBlank d = false ∧
        d ∉ ['ς', 'σ'] ∧ ∀ w ∈ Question.wordOperators, d ∉ w.1 := by decide
    obtain ⟨hforeign, hblank, hsigma, hwords⟩ := hall d hd
    intro hmem
    exact not_mem_of_evaluate h.value hforeign (Question.mem_replaceWords hmem hblank hsigma hwords)
  refine ⟨part, hpart, rfl, ?_, ?_⟩
  · intro hmem
    have hform : '=' ∈ Text.forms '=' := by decide +kernel
    exact habsent (by simp) (Text.mem_lowercase hmem (by decide) hform)
  · unfold mentionsUnknown
    rw [Bool.eq_false_iff, ne_eq, Text.containsAny_iff]
    rintro ⟨phrase, hphrase, hcontains⟩
    have hunknown : ∀ phrase ∈ ["x".toList, "х".toList], ∃ d ∈ ['=', 'x', 'х'], d ∈ phrase := by
      decide
    obtain ⟨d, hd, hmem⟩ := hunknown phrase hphrase
    exact habsent hd ((Text.contains_iff.1 hcontains).subset hmem)

theorem hasDigit_of_valued (h : Valued s x v) : Text.hasDigit s = true := by
  obtain ⟨part, hpart, rfl⟩ := Question.extract?_isInfix h.found
  have hdigit := Question.hasDigit_of_replaceWords (Expr.hasDigit_of_evaluate h.value)
  obtain ⟨d, hd, hd'⟩ := List.any_eq_true.1 hdigit
  exact List.any_eq_true.2 ⟨d, hpart.subset hd, hd'⟩

/-! ## Without a solution -/

theorem evaluateIn_of_valued (h : Valued s x v) : evaluateIn α s = .ok (solved x v) := by
  have hcollapse := Question.collapse_of_extract? h.found
  exact evaluateIn_of_found (by rw [hcollapse, h.found]) (by rw [hcollapse, h.value])

theorem exists_failure_of_not_valued (h : ¬ ∃ x, ∃ v : α, Valued s x v) :
    ∃ failure, evaluateIn α s = .error failure := by
  unfold evaluateIn
  split
  · exact ⟨_, rfl⟩
  · rename_i x hx
    split
    · exact ⟨_, rfl⟩
    · rename_i v hv
      exact absurd ⟨x, v, hx, hv⟩ h

/-- When the solver of equations declines, the expression of the text is tried, and then there is
nothing left but the hint. -/
theorem answer_of_unsolved (hgated : Kind.gated (Text.lowercase s) = [.equation])
    (hunsolved : solveLinear? α s = none) :
    (∀ text, evaluateIn α s = .ok text → answer α s = text) ∧
      ∀ failure, evaluateIn α s = .error failure → Kind.help? .equation = some (answer α s) := by
  have hnone : Kind.answer? α .equation s = none := by
    show (solveLinear? α s).map (fun solution => block .equation solution.toText) = none
    rw [hunsolved]
    rfl
  unfold answer
  simp only [hgated, List.findSome?_cons, List.findSome?_nil, hnone]
  constructor
  · intro text htext
    rw [htext]
  · intro failure hfailure
    rw [hfailure]
    cases failure <;> rfl

/-- The hint is no solution: their first characters differ. -/
theorem help?_ne_solved (x : Text) (v : α) : Kind.help? .equation ≠ some (solved x v) := by
  intro h
  have hhint : (Kind.help? .equation).bind List.head? = some '📐' := by decide
  have hsolved : (some (solved x v)).bind List.head? = some '🧮' := rfl
  rw [h, hsolved] at hhint
  exact absurd hhint (by decide)

/-- An equation that is no other kind of problem and that is not solved has its hint for an answer
exactly if nothing in it can be evaluated, and in particular if there is no digit in it.  Otherwise
the answer is the value of a part of it without the equals sign and without the unknown. -/
theorem help_iff_not_valued (hgated : Kind.gated (Text.lowercase s) = [.equation])
    (hunsolved : solveLinear? α s = none) :
    (Kind.help? .equation = some (answer α s) ↔ ¬ ∃ x, ∃ v : α, Valued s x v) ∧
      (∀ x, ∀ v : α, Valued s x v → answer α s = solved x v ∧
        ∃ part : Text, part <:+: s ∧ x = Question.replaceWords part ∧ '=' ∉ part ∧
          mentionsUnknown (Text.lowercase part) = false) ∧
      (Text.hasDigit s = false → Kind.help? .equation = some (answer α s)) := by
  obtain ⟨hevaluated, hfailed⟩ := answer_of_unsolved hgated hunsolved
  have hvalued {x : Text} {v : α} (h : Valued s x v) : answer α s = solved x v :=
    hevaluated _ (evaluateIn_of_valued h)
  have hhint (h : ¬ ∃ x, ∃ v : α, Valued s x v) : Kind.help? .equation = some (answer α s) := by
    obtain ⟨failure, hfailure⟩ := exists_failure_of_not_valued h
    exact hfailed failure hfailure
  refine ⟨⟨?_, hhint⟩, fun x v h => ⟨hvalued h, exists_part_of_valued h⟩, ?_⟩
  · rintro hhelp ⟨x, v, h⟩
    rw [hvalued h] at hhelp
    exact help?_ne_solved x v hhelp
  · intro hdigits
    apply hhint
    rintro ⟨x, v, h⟩
    rw [hasDigit_of_valued h] at hdigits
    cases hdigits

/-- What stands behind the equals sign breaks off, so there is a hint. -/
theorem help_with_broken_sum :
    Kind.gated (Text.lowercase "x = 5 +".toList) = [.equation] ∧
      solveLinear? Float "x = 5 +".toList = none ∧
      Kind.help? .equation = some (answer Float "x = 5 +".toList) := by
  have hgated : Kind.gated (Text.lowercase "x = 5 +".toList) = [.equation] := by decide +kernel
  have hunsolved : solveLinear? Float "x = 5 +".toList = none := by
    rw [← Option.isNone_iff_eq_none]
    decide +kernel
  have hfound : Question.extract? "x = 5 +".toList = some "5 +".toList := by decide +kernel
  have hbroken : (Expr.evaluate "5 +".toList : Except Expr.Error Float) =
      .error .unexpectedEnd := by decide +kernel
  refine ⟨hgated, hunsolved, (help_iff_not_valued hgated hunsolved).1.2 ?_⟩
  rintro ⟨x, v, h⟩
  obtain rfl : "5 +".toList = x := Option.some.inj (hfound.symm.trans h.found)
  have hvalue := h.value
  rw [hbroken] at hvalue
  cases hvalue

/-- An equation without a first factor, and one without a second number, are not solved.  The
answers are values of what stands on one side. -/
theorem sides_are_evaluated :
    Kind.gated (Text.lowercase "x + 5 = 15".toList) = [.equation] ∧
      (solveLinear? Float "x + 5 = 15".toList).isNone = true ∧
      answer Float "x + 5 = 15".toList = "🧮 **Решение:**\n\n`+ 5 = 5`".toList ∧
      Kind.gated (Text.lowercase "2x = 4".toList) = [.equation] ∧
      (solveLinear? Float "2x = 4".toList).isNone = true ∧
      answer Float "2x = 4".toList = "🧮 **Решение:**\n\n`4 = 4`".toList := by
  decide +kernel

end Problem
end ChatAssistant
