import ChatAssistant.Problem.Answer
import ChatAssistant.Proofs.Intent

/-!
# Problems that are not taken for problems

A question reaches the solvers only if the classifier calls it math, and each kind of problem has a
gate of its own.  The two tables of phrases differ: `%`, `степен`, `tan` and `cot` open a gate
without being math phrases.  This file says exactly which questions that costs: those which hold no
math phrase, although a kind whose gate they open has an answer for them.

* `Kind.strayPhrases` — the phrases of a gate that the classifier does not know;
* `Kind.Overlooked` — the questions of a kind that end up elsewhere, in terms of their numbers;
* `solvable_is_math_iff` — a kind's solvable questions are math if and only if not overlooked.
-/

namespace ChatAssistant
namespace Problem

variable {lower question : Text}

/-! ## Gates and deciding phrases -/

namespace Kind

/-- The phrases that open the gate of a kind and are no math phrases. -/
def strayPhrases : Kind → List Text
  | howMuch | equation => []
  | powerRoot => ["степен".toList]
  | percentage => ["%".toList]
  | trigonometry => ["tan".toList, "cot".toList]

theorem gate_of_stray (kind : Kind) (h : Text.containsAny kind.strayPhrases lower = true) :
    kind.gate lower = true := by
  cases kind with
  | howMuch => simp [strayPhrases, Text.containsAny] at h
  | equation => simp [strayPhrases, Text.containsAny] at h
  | powerRoot => exact Text.containsAny_mono (by decide) h
  | percentage => exact Text.containsAny_mono (by decide) h
  | trigonometry => exact Text.containsAny_mono (by decide) h

/-- Every phrase of a gate is a math phrase or a stray one. -/
theorem containsAny_of_gate (kind : Kind) (h : kind.gate lower = true) :
    Text.containsAny (Intent.mathPhrases ++ kind.strayPhrases) lower = true := by
  cases kind with
  | howMuch => exact Text.containsAny_of_mem (by decide) h
  | equation =>
      -- The second way through this gate asks for an unknown too; the equals sign alone decides.
      simp only [gate, Bool.or_eq_true, Bool.and_eq_true] at h
      rcases h with h | ⟨h, _⟩
      · exact Text.containsAny_of_mem (by decide) h
      · exact Text.containsAny_of_mem (by decide) h
  | powerRoot => exact Text.containsAny_mono (by decide) h
  | percentage => exact Text.containsAny_mono (by decide) h
  | trigonometry => exact Text.containsAny_mono (by decide) h

/-- Without a math phrase, a gate is open for its stray phrases only. -/
theorem gate_eq_of_no_math (kind : Kind)
    (hm : Text.containsAny Intent.mathPhrases lower = false) :
    kind.gate lower = Text.containsAny kind.strayPhrases lower := by
  rw [Bool.eq_iff_iff]
  constructor
  · intro h
    have h' := kind.containsAny_of_gate h
    rwa [Text.containsAny_append, hm, Bool.false_or] at h'
  · exact kind.gate_of_stray

end Kind

/-! ## Solvers on questions without a math phrase -/

section Solvers

variable (α : Type) [Arithmetic α]

/-- Only the last branch of the solver is left: a power of the first two numbers. -/
theorem solvePowerRoot?_isSome_iff
    (hm : Text.containsAny Intent.mathPhrases (Text.lowercase question) = false)
    (hs : Text.containsAny Kind.powerRoot.strayPhrases (Text.lowercase question) = true) :
    (solvePowerRoot? α question).isSome = true ↔
      ∃ base exponent rest, integers α question = base :: exponent :: rest ∧
        Arithmetic.isFinite (Arithmetic.pow base exponent) = true := by
  have hroot : Text.containsAny ["корень".toList, "√".toList] (Text.lowercase question) = false :=
    Text.containsAny_eq_false (by decide) hm
  have hsquare : Text.contains "квадрат".toList (Text.lowercase question) = false :=
    Text.contains_eq_false (by decide) hm
  have hpower : Text.containsAny ["степен".toList, "^".toList] (Text.lowercase question) = true :=
    Text.containsAny_mono (by decide) hs
  simp only [solvePowerRoot?, hroot, hsquare, hpower, Bool.false_eq_true, if_false, if_true]
  rcases integers α question with _ | ⟨base, _ | ⟨exponent, rest⟩⟩
  · simp
  · simp
  · constructor
    · intro h
      exact ⟨base, exponent, rest, rfl, by simpa [finiteResult?] using h⟩
    · rintro ⟨_, _, _, hn, hf⟩
      cases hn
      simp [finiteResult?, hf]

/-- A stray name always names a function, so the solver lacks at most the number. -/
theorem solve?_trigonometry_isSome_iff
    (hs : Text.containsAny Kind.trigonometry.strayPhrases (Text.lowercase question) = true) :
    (Kind.trigonometry.solve? α question).isSome = true ↔ decimals α question ≠ [] := by
  have hname : (TrigFunction.detect? (Text.lowercase question)).isSome = true := by
    rw [TrigFunction.detect?, Option.isSome_map, List.find?_isSome]
    rcases Text.containsAny_iff.1 hs with ⟨name, hn, hc⟩
    rcases List.mem_cons.1 hn with rfl | hn
    · exact ⟨(.tan, ["tg".toList, "tan".toList, "тангенс".toList]), by decide,
        Text.containsAny_of_mem (by decide) hc⟩
    · obtain rfl := List.mem_singleton.1 hn
      exact ⟨(.cot, ["ctg".toList, "cot".toList, "котангенс".toList]), by decide,
        Text.containsAny_of_mem (by decide) hc⟩
  rcases Option.isSome_iff_exists.1 hname with ⟨f, hf⟩
  cases hd : decimals α question with
  | nil => simp [Kind.solve?, solveTrigonometry?, hf, hd]
  | cons angle rest => simp [Kind.solve?, solveTrigonometry?, hf, hd]

end Solvers

/-! ## Overlooked questions -/

/-- A question of a kind that the solver of the kind has an answer for and that holds no math
phrase.  Equations and expressions in words always hold one. -/
def Kind.Overlooked (α : Type) [Arithmetic α] (kind : Kind) (question : Text) : Prop :=
  Text.containsAny Intent.mathPhrases (Text.lowercase question) = false ∧
    Text.containsAny kind.strayPhrases (Text.lowercase question) = true ∧
    match kind with
    | .howMuch => False
    | .equation => False
    | .powerRoot =>
        ∃ base exponent rest, integers α question = base :: exponent :: rest ∧
          Arithmetic.isFinite (Arithmetic.pow base exponent) = true
    | .percentage => (solvePercentage? α question).isSome = true
    | .trigonometry => decimals α question ≠ []

/-- Apart from expressions in words, a kind has an answer exactly if its solver has a solution. -/
theorem Kind.answer?_isSome (α : Type) [Arithmetic α] (kind : Kind) (hk : kind ≠ .howMuch) :
    (kind.answer? α question).isSome = (kind.solve? α question).isSome := by
  cases kind with
  | howMuch => exact absurd rfl hk
  | _ => simp [Kind.answer?]

/-- Where the classifier finds nothing, the overlooked questions are those with an open gate and an
answer. -/
theorem overlooked_iff (α : Type) [Arithmetic α] (kind : Kind)
    (hm : Text.containsAny Intent.mathPhrases (Text.lowercase question) = false) :
    kind.Overlooked α question ↔
      kind.gate (Text.lowercase question) = true ∧ (kind.answer? α question).isSome = true := by
  unfold Kind.Overlooked
  rw [kind.gate_eq_of_no_math hm]
  simp only [hm, true_and]
  refine and_congr_right fun hs => ?_
  cases kind with
  | howMuch => simp [Kind.strayPhrases, Text.containsAny] at hs
  | equation => simp [Kind.strayPhrases, Text.containsAny] at hs
  | powerRoot =>
      rw [Kind.answer?_isSome α _ (by decide), Kind.solve?, solvePowerRoot?_isSome_iff α hm hs]
  | percentage => rw [Kind.answer?_isSome α _ (by decide), Kind.solve?]
  | trigonometry =>
      rw [Kind.answer?_isSome α _ (by decide), solve?_trigonometry_isSome_iff α hs]

/-- A question that some kind can answer is taken for math, except where it is overlooked. -/
theorem solvable_is_math_iff (α : Type) [Arithmetic α] (kind : Kind) (question : Text) :
    (kind.gate (Text.lowercase question) = true → (kind.answer? α question).isSome = true →
        (Intent.classify question).intent = .math) ↔
      ¬ kind.Overlooked α question := by
  cases hm : Text.containsAny Intent.mathPhrases (Text.lowercase question) with
  | true => simp [Intent.classify_eq_math_iff, Kind.Overlooked, hm]
  | false =>
      have hne := Intent.classify_ne_math_iff.2 hm
      rw [overlooked_iff α kind hm, not_and]
      constructor
      · intro h hg ha
        exact hne (h hg ha)
      · intro h hg ha
        exact absurd ha (h hg)

/-- The first example in the hint on percentages is itself overlooked: its solver has the answer,
and the question counts as one about nothing. -/
theorem percentage_example_is_general :
    Kind.percentage.gate (Text.lowercase "15% от 200".toList) = true ∧
      (Kind.percentage.answer? Float "15% от 200".toList).isSome = true ∧
      (Intent.classify "15% от 200".toList).intent = .general := by
  decide +kernel

end Problem
end ChatAssistant
