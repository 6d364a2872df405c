import ChatAssistant.Problem.Linear
import ChatAssistant.Proofs.Number.Sign
import ChatAssistant.Proofs.Problem.Numbers
import ChatAssistant.Proofs.Question.Extraction

/-!
# Equations with and without blanks

An equation may be written in one go or with blanks around its sign and its equals sign.  The solver
takes the first three numbers of either text, and a sign belongs to a number only if nothing stands
in between: among blanks `+` and `-` are both passed over.  A plus sign is no loss, but where a
minus sign is, another equation is solved.

* `Equation`, `tight`, `spaced` — an equation and the two ways to write it;
* `signedNumbers_tight`, `signedNumbers_spaced` — the numbers that are read;
* `Understood`, `Misread` — the text has the numbers and the root of the equation, and when not;
* `understood_iff_not_misread` — blanks make a difference for these equations and no others.
-/

namespace ChatAssistant
namespace Problem

open Decimal (Literal isLiteralChar)

/-- The equation `a·x + b = c`, or `a·x - b = c`, as it is written. -/
structure Equation where
  a : Literal
  minus : Bool
  b : Literal
  c : Literal
  unknown : Char
  mem_unknown : unknown ∈ ['x', 'х']

/-- The machine number that a literal stands for. -/
def numberOf (l : Literal) : Float := Binary64.toFloat l.value

/-- The root that is shown for the numbers `a`, `b` and `c`, if one is. -/
def rootOf? : List Float → Option Float
  | a :: b :: c :: _ =>
      if a == 0 then none else if ((c - b) / a).isFinite then some ((c - b) / a) else none
  | _ => none

/-- The root in the solution of an equation. -/
def Solution.root? {α : Type} : Solution α → Option α
  | .linear _ _ _ _ x => some x
  | _ => none

/-- The root that the solver finds in a text. -/
def root? (s : Text) : Option Float := (solveLinear? Float s).bind Solution.root?

theorem root?_eq {s : Text} (h : mentionsUnknown (Text.lowercase s) = true) :
    root? s = rootOf? (signedNumbers Float s) := by
  unfold root? solveLinear?
  rw [h]
  simp only [Bool.not_true, Bool.false_eq_true, if_false]
  match signedNumbers Float s with
  | [] | [_] | [_, _] => rfl
  | a :: b :: c :: rest =>
      show Option.bind (if (a == 0) = true then none
        else if ((c - b) / a).isFinite = true then some (Solution.linear s a b c ((c - b) / a))
        else none) Solution.root? =
        if (a == 0) = true then none
        else if ((c - b) / a).isFinite = true then some ((c - b) / a) else none
      split
      · rfl
      · split <;> rfl

namespace Equation

variable (q : Equation)

/-- The equation with `gap` around its sign and its equals sign. -/
def written (gap : Text) : Text :=
  q.a.text ++ q.unknown :: (gap ++ signChar q.minus ::
    (gap ++ (q.b.text ++ (gap ++ '=' :: (gap ++ q.c.text)))))

def tight : Text := q.written []

def spaced : Text := q.written [' ']

/-- The same equation with a plus sign. -/
def withPlus : Equation := { q with minus := false }

/-- The second number, with its sign. -/
def signed : Float := if q.minus then -numberOf q.b else numberOf q.b

/-- The numbers of the equation, unless one of them is too large. -/
def numbers : List Float := allFinite Float [numberOf q.a, q.signed, numberOf q.c]

/-- No number is too large. -/
def IsFinite : Prop := ∀ l ∈ [q.a, q.b, q.c], (numberOf l).isFinite = true

/-! ## What is read -/

theorem clear_unknown (s : Text) : Clear (q.unknown :: s) := by
  have hall : ∀ c ∈ ['x', 'х'], isLiteralChar c = false := by decide
  exact clear_cons (hall q.unknown q.mem_unknown)

theorem occurrences_unknown (s : Text) :
    occurrences signedAt? (q.unknown :: s) = occurrences signedAt? s := by
  have hall : ∀ c ∈ ['x', 'х'], (c ≠ '-' ∧ c ≠ '+') ∧ isLiteralChar c = false := by decide
  obtain ⟨hsign, hliteral⟩ := hall q.unknown q.mem_unknown
  exact occurrences_clear hsign hliteral s

theorem occurrences_last (l : Literal) :
    occurrences signedAt? l.text = [⟨false, l.value⟩] := by
  have hlast := occurrences_literal l clear_nil
  rwa [List.append_nil, occurrences_nil] at hlast

theorem occurrences_tight :
    occurrences signedAt? q.tight =
      [⟨false, q.a.value⟩, ⟨q.minus, q.b.value⟩, ⟨false, q.c.value⟩] := by
  have hequals : IsNoSign '=' := ⟨by decide, by decide⟩
  unfold tight written
  simp only [List.nil_append]
  rw [occurrences_literal q.a (q.clear_unknown _), q.occurrences_unknown,
    occurrences_signed q.minus q.b (clear_cons (by decide)),
    occurrences_clear hequals (by decide), occurrences_last]

theorem occurrences_spaced :
    occurrences signedAt? q.spaced =
      [⟨false, q.a.value⟩, ⟨false, q.b.value⟩, ⟨false, q.c.value⟩] := by
  have hequals : IsNoSign '=' := ⟨by decide, by decide⟩
  have hspace : IsNoSign ' ' := ⟨by decide, by decide⟩
  have hblank (s : Text) : occurrences signedAt? (' ' :: s) = occurrences signedAt? s :=
    occurrences_clear hspace (by decide) s
  unfold spaced written
  simp only [List.cons_append, List.nil_append]
  rw [occurrences_literal q.a (q.clear_unknown _), q.occurrences_unknown, hblank,
    occurrences_lone_sign q.minus (clear_cons (by decide)), hblank,
    occurrences_literal q.b (clear_cons (by decide)), hblank,
    occurrences_clear hequals (by decide), hblank, occurrences_last]

theorem signedNumbers_tight : signedNumbers Float q.tight = q.numbers := by
  unfold signedNumbers
  rw [q.occurrences_tight]
  rfl

/-- Among blanks no sign is read. -/
theorem signedNumbers_spaced : signedNumbers Float q.spaced = q.withPlus.numbers := by
  unfold signedNumbers
  rw [q.occurrences_spaced]
  rfl

theorem mentionsUnknown_written (gap : Text) :
    mentionsUnknown (Text.lowercase (q.written gap)) = true := by
  have hfront : ∀ c ∈ q.a.text ++ [q.unknown], Text.Stays c := by
    have hall : ∀ c ∈ ['x', 'х'], Text.Stays c := by decide +kernel
    intro c hc
    rcases List.mem_append.1 hc with hc | hc
    · exact Question.stays_of_isAllowed
        (Expr.isAllowed_of_isLiteralChar (q.a.isLiteralChar_of_mem hc))
    · obtain rfl := List.mem_singleton.1 hc
      exact hall q.unknown q.mem_unknown
  have hsplit : ∃ behind, q.written gap = (q.a.text ++ [q.unknown]) ++ behind := by
    unfold written
    exact ⟨_, by rw [List.append_assoc, List.singleton_append]⟩
  obtain ⟨behind, hbehind⟩ := hsplit
  obtain ⟨lower, hlower⟩ := Text.exists_lowercase_append hfront behind
  have hphrase : [q.unknown] ∈ ["x".toList, "х".toList] := by
    have hall : ∀ c ∈ ['x', 'х'], [c] ∈ ["x".toList, "х".toList] := by decide
    exact hall q.unknown q.mem_unknown
  unfold mentionsUnknown Text.containsAny
  rw [hbehind, hlower, List.any_eq_true]
  exact ⟨[q.unknown], hphrase, Text.contains_iff.2 ⟨q.a.text, lower, rfl⟩⟩

/-! ## What is understood -/

/-- The text has the numbers of the equation, and the root that is shown for them. -/
structure Understood (s : Text) : Prop where
  numbers : List.Forall₂ (fun x y => (x == y) = true) q.numbers (signedNumbers Float s)
  root : root? s = rootOf? q.numbers

/-- The minus sign is passed over although it makes a difference. -/
def Misread : Prop := q.minus = true ∧ q.IsFinite ∧ (numberOf q.b == 0) = false

theorem isFinite_signed : q.signed.isFinite = (numberOf q.b).isFinite := by
  unfold signed
  split
  · exact Binary64.isFinite_neg _
  · rfl

theorem all_isFinite_iff :
    [numberOf q.a, q.signed, numberOf q.c].all Arithmetic.isFinite = true ↔ q.IsFinite := by
  have hfinite (x : Float) : Arithmetic.isFinite x = x.isFinite := rfl
  unfold IsFinite
  simp [hfinite, q.isFinite_signed]

theorem numbers_of_isFinite (h : q.IsFinite) :
    q.numbers = [numberOf q.a, q.signed, numberOf q.c] :=
  if_pos (q.all_isFinite_iff.2 h)

theorem numbers_of_not_isFinite (h : ¬ q.IsFinite) : q.numbers = [] :=
  if_neg fun hall => h (q.all_isFinite_iff.1 hall)

/-- A text with the numbers of an equation in it is understood. -/
theorem understood_of_numbers {s : Text} (hunknown : mentionsUnknown (Text.lowercase s) = true)
    (h : signedNumbers Float s = q.numbers) : q.Understood s := by
  constructor
  · rw [h]
    by_cases hfinite : q.IsFinite
    · have hsigned : q.signed.isFinite = true := by
        rw [q.isFinite_signed]
        exact hfinite q.b (by simp)
      rw [q.numbers_of_isFinite hfinite]
      exact .cons (Binary64.beq_self_of_isFinite (hfinite q.a (by simp)))
        (.cons (Binary64.beq_self_of_isFinite hsigned)
          (.cons (Binary64.beq_self_of_isFinite (hfinite q.c (by simp))) .nil))
    · rw [q.numbers_of_not_isFinite hfinite]
      exact .nil
  · rw [root?_eq hunknown, h]

/-- Where a minus sign is passed over, the equation is understood only if the second number is a
zero. -/
theorem understood_spaced_of_minus (hfinite : q.IsFinite) (hminus : q.minus = true) :
    q.Understood q.spaced ↔ (numberOf q.b == 0) = true := by
  have hunsigned (l : Literal) : Binary64.Unsigned (numberOf l).toModel.unpack :=
    Binary64.unsigned_toFloat l.value
  have hread : signedNumbers Float q.spaced = [numberOf q.a, numberOf q.b, numberOf q.c] :=
    q.signedNumbers_spaced.trans (q.withPlus.numbers_of_isFinite hfinite)
  have hnumbers : q.numbers = [numberOf q.a, -numberOf q.b, numberOf q.c] := by
    rw [q.numbers_of_isFinite hfinite, signed, if_pos hminus]
  have hiff := Binary64.neg_beq_self_iff (hunsigned q.b)
  constructor
  · intro h
    have hsame := h.numbers
    rw [hread, hnumbers] at hsame
    cases hsame with
    | cons _ hsame =>
        cases hsame with
        | cons hb _ => exact hiff.1 hb
  · intro hzero
    constructor
    · rw [hread, hnumbers]
      exact .cons (Binary64.beq_self_of_isFinite (hfinite q.a (by simp)))
        (.cons (hiff.2 hzero)
          (.cons (Binary64.beq_self_of_isFinite (hfinite q.c (by simp))) .nil))
    · have hroot : root? q.spaced = rootOf? (signedNumbers Float q.spaced) :=
        root?_eq (q.mentionsUnknown_written [' '])
      rw [hroot, hread, hnumbers]
      simp only [rootOf?, Binary64.sub_neg_of_zero (hunsigned q.c) hzero]

theorem understood_spaced_iff : q.Understood q.spaced ↔ ¬ q.Misread := by
  have hunknown := q.mentionsUnknown_written [' ']
  by_cases hfinite : q.IsFinite
  · cases hminus : q.minus with
    | true =>
        rw [q.understood_spaced_of_minus hfinite hminus]
        simp [Misread, hminus, hfinite]
    | false =>
        have hplus : q.withPlus.numbers = q.numbers := by
          unfold numbers signed
          rw [hminus]
          rfl
        have hgood : ¬ q.Misread := by
          rintro ⟨hminus', -⟩
          rw [hminus] at hminus'
          cases hminus'
        exact iff_of_true (q.understood_of_numbers hunknown (q.signedNumbers_spaced.trans hplus))
          hgood
  · have hnone : q.withPlus.numbers = q.numbers := by
      rw [q.numbers_of_not_isFinite hfinite, q.withPlus.numbers_of_not_isFinite hfinite]
    exact iff_of_true (q.understood_of_numbers hunknown (q.signedNumbers_spaced.trans hnone))
      fun hmisread => hfinite hmisread.2.1

/-- Written in one go an equation is understood, and with blanks around its signs it is understood
as the equation with a plus sign.  That is another equation exactly if the sign is a minus sign in
front of a number other than zero and no number of the equation is too large. -/
theorem understood_iff_not_misread (q : Equation) :
    q.Understood q.tight ∧ q.withPlus.Understood q.spaced ∧
      (q.Understood q.spaced ↔ ¬ q.Misread) := by
  refine ⟨?_, ?_, q.understood_spaced_iff⟩
  · exact q.understood_of_numbers (q.mentionsUnknown_written []) q.signedNumbers_tight
  · exact q.withPlus.understood_of_numbers (q.mentionsUnknown_written [' ']) q.signedNumbers_spaced

/-- With blanks in it, `3x - 6 = 9` is solved as `3x + 6 = 9`. -/
theorem three_minus_six_misread :
    signedNumbers Float "3x-6=9".toList = [3, -6, 9] ∧
    signedNumbers Float "3x - 6 = 9".toList = [3, 6, 9] ∧
    (solveLinear? Float "3x-6=9".toList).map Solution.toText =
      some "Уравнение: 3x-6=9\nРешение: x = (9 - -6) / 3 = 5".toList ∧
    (solveLinear? Float "3x - 6 = 9".toList).map Solution.toText =
      some "Уравнение: 3x - 6 = 9\nРешение: x = (9 - 6) / 3 = 1".toList := by
  decide +kernel

end Equation

end Problem
end ChatAssistant
