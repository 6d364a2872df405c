import ChatAssistant.Problem.Trigonometry
import ChatAssistant.Proofs.Number.Sign
import ChatAssistant.Proofs.Problem.Numbers
import ChatAssistant.Proofs.Question.Extraction

/-!
# Trigonometry of negative angles

The angle is the first number of a text, and the reader of it starts at a digit.  A minus sign in
front of it is passed over, and so is a point, so the function of `-30` degrees is shown as that of
`30`.

* `fromDigit` — what is read of a literal, from its first digit on;
* `NegativeAngle` — a function of a negative angle as it is written;
* `solveTrigonometry?_text` — the solution is that of the angle without its sign;
* `reported_iff_not_misread` — only a zero and an angle that is too large do no harm.
-/

namespace ChatAssistant

open Decimal (Literal isLiteralChar)

namespace Problem

variable {c : Char} {s rest : Text}

/-! ## The first digit -/

/-- What is read of a literal: a point in front of all its digits is left out. -/
def fromDigit (l : Literal) : Decimal :=
  if l.whole = [] then Decimal.ofParts (l.fraction.getD []) [] else l.value

theorem coefficient_fromDigit (l : Literal) :
    (fromDigit l).coefficient = l.value.coefficient := by
  unfold fromDigit Literal.value Decimal.ofParts
  split
  · rename_i hwhole
    simp [hwhole]
  · rfl

theorem decimalAt?_of_neg (hc : Text.isDigit c = false) (s : Text) :
    decimalAt? (c :: s) = none := by
  simp [decimalAt?, hc]

/-- There are no numbers where there are no digits. -/
theorem occurrences_decimalAt?_append {front : Text} (h : ∀ c ∈ front, Text.isDigit c = false)
    (s : Text) : occurrences decimalAt? (front ++ s) = occurrences decimalAt? s := by
  induction front with
  | nil => rfl
  | cons c front ih =>
      rw [List.cons_append, occurrences_of_none (decimalAt?_of_neg (h c List.mem_cons_self) _)]
      exact ih fun d hd => h d (List.mem_cons_of_mem _ hd)

theorem occurrences_decimalAt?_literal (l : Literal) (hrest : Clear rest) :
    occurrences decimalAt? (l.text ++ rest) = fromDigit l :: occurrences decimalAt? rest := by
  obtain ⟨whole, fraction, hdigits, hne⟩ := l
  have hwhole : ∀ c ∈ whole, Text.isDigit c = true := fun c hc =>
    hdigits c (List.mem_append_left _ hc)
  have hpoint (s : Text) : occurrences decimalAt? ('.' :: s) = occurrences decimalAt? s :=
    occurrences_of_none (decimalAt?_of_neg (by decide) s)
  cases fraction with
  | none =>
      have hne' : whole ≠ [] := by simpa using hne
      have hread := occurrences_append_of_some hne' (decimalAt?_whole hwhole hne' hrest) le_rfl
      simpa [Literal.text, Literal.value, fromDigit, hne'] using hread
  | some fraction =>
      have hfraction : ∀ c ∈ fraction, Text.isDigit c = true := fun c hc =>
        hdigits c (List.mem_append_right _ hc)
      by_cases hempty : whole = []
      · -- the point is passed over, and what stands behind it is a number of its own
        have hne' : fraction ≠ [] := by simpa [hempty] using hne
        have hread := occurrences_append_of_some hne' (decimalAt?_whole hfraction hne' hrest) le_rfl
        simpa [Literal.text, fromDigit, hempty, hpoint] using hread
      · have hat := decimalAt?_fraction hwhole hempty hfraction hrest
        split at hat
        · -- the point belongs to no number
          rename_i hnil
          have hread := occurrences_append_of_some hempty hat (by simp [hnil])
          rw [hpoint] at hread
          simpa [Literal.text, Literal.value, fromDigit, hempty, hnil] using hread
        · have hread := occurrences_append_of_some hempty hat (by simp; omega)
          simpa [Literal.text, Literal.value, fromDigit, hempty] using hread

/-! ## Negative angles -/

/-- A function of a negative angle, as it is written. -/
structure NegativeAngle where
  function : TrigFunction
  names : List Text
  mem_trigNames : (function, names) ∈ trigNames
  name : Text
  mem_names : name ∈ names
  degrees : Literal
  bracketed : Bool

namespace NegativeAngle

variable (a : NegativeAngle)

/-- What stands between the name and the literal. -/
def sign : Text := if a.bracketed then "(-".toList else " -".toList

/-- What stands behind the literal. -/
def closing : Text := if a.bracketed then ")".toList else []

def text : Text := a.name ++ (a.sign ++ (a.degrees.text ++ a.closing))

/-- The angle that is read. -/
def angle : Float := Binary64.toFloat (fromDigit a.degrees)

/-- The solution is that of the negative angle, and shows its sign unless the angle is a zero. -/
def Reported (x : Solution Float) : Prop :=
  ∃ angle, x = .trigonometric a.function angle (a.function.value? (Arithmetic.radians angle)) ∧
    (-Binary64.toFloat a.degrees.value == angle) = true ∧
    (a.degrees.value.coefficient ≠ 0 → (Arithmetic.toText angle).head? = some '-')

/-- The angle is no zero, and what is read of it is not too large. -/
structure Misread : Prop where
  fits : a.angle.isFinite = true
  nonzero : a.degrees.value.coefficient ≠ 0

/-! ## What is read -/

theorem isAllowed_behind_name : ∀ c ∈ a.sign ++ (a.degrees.text ++ a.closing),
    Expr.isAllowed c = true := by
  have hsign : ∀ c ∈ a.sign, Expr.isAllowed c = true := by
    unfold sign
    cases a.bracketed <;> decide
  have hclosing : ∀ c ∈ a.closing, Expr.isAllowed c = true := by
    unfold closing
    cases a.bracketed <;> decide
  simp only [List.forall_mem_append]
  exact ⟨hsign, fun c hc => Expr.isAllowed_of_isLiteralChar (a.degrees.isLiteralChar_of_mem hc),
    hclosing⟩

theorem lowercase_text : Text.lowercase a.text = a.text := by
  have hall : ∀ f ∈ trigNames, ∀ n ∈ f.2, ∀ c ∈ n, Text.Stays c := by decide +kernel
  have hname := hall _ a.mem_trigNames _ a.mem_names
  apply Text.lowercase_eq_self
  unfold text
  rw [List.forall_mem_append]
  exact ⟨hname, fun c hc => Question.stays_of_isAllowed (a.isAllowed_behind_name c hc)⟩

/-- Names are made of letters, so a name is looked for in the name only. -/
theorem detect?_text : TrigFunction.detect? (Text.lowercase a.text) = some a.function := by
  have hdetect : ∀ f ∈ trigNames, ∀ n ∈ f.2, TrigFunction.detect? n = some f.1 := by decide
  have hletters : ∀ f ∈ trigNames, ∀ n ∈ f.2, n ≠ [] ∧ ∀ c ∈ n, Expr.isAllowed c = false := by
    decide
  have hsame : ∀ f ∈ trigNames, Text.containsAny f.2 a.text = Text.containsAny f.2 a.name := by
    intro f hf
    refine Text.containsAny_congr fun n hn => ?_
    obtain ⟨hne, hforeign⟩ := hletters f hf n hn
    have hback : ∀ c ∈ a.sign ++ (a.degrees.text ++ a.closing), c ∉ n :=
      Text.not_mem_of_forall a.isAllowed_behind_name hforeign
    have hbetween : Text.contains n ([] ++ (a.name ++ (a.sign ++ (a.degrees.text ++ a.closing)))) =
        Text.contains n a.name := Text.contains_between hne (by simp) hback a.name
    exact hbetween
  -- so the whole text names the function that its first part names
  rw [a.lowercase_text, ← hdetect _ a.mem_trigNames _ a.mem_names]
  unfold TrigFunction.detect?
  rw [List.find?_congr hsame]

theorem decimals_text (α : Type) [Arithmetic α] :
    decimals α a.text = allFinite α [Arithmetic.ofDecimal (fromDigit a.degrees)] := by
  have hall : ∀ f ∈ trigNames, ∀ n ∈ f.2, ∀ c ∈ n, Text.isDigit c = false := by decide
  have hname := hall _ a.mem_trigNames _ a.mem_names
  have hsign : ∀ c ∈ a.sign, Text.isDigit c = false := by
    unfold sign
    cases a.bracketed <;> decide
  have hclosing : Clear a.closing := by
    unfold closing
    split
    · exact clear_cons (by decide)
    · exact clear_nil
  have hrest : occurrences decimalAt? a.closing = [] := by
    have hdigits : ∀ c ∈ a.closing, Text.isDigit c = false := by
      unfold closing
      cases a.bracketed <;> decide
    have hnone := occurrences_decimalAt?_append hdigits []
    rwa [List.append_nil, occurrences_nil] at hnone
  unfold decimals text
  rw [occurrences_decimalAt?_append hname, occurrences_decimalAt?_append hsign,
    occurrences_decimalAt?_literal a.degrees hclosing, hrest]
  rfl

/-- The solution is that of the angle as it is read, without its sign. -/
theorem solveTrigonometry?_text :
    solveTrigonometry? Float a.text =
      if a.angle.isFinite then
        some (.trigonometric a.function a.angle (a.function.value? (Arithmetic.radians a.angle)))
      else none := by
  have hread : (decimals Float a.text).head? = if a.angle.isFinite then some a.angle else none := by
    rw [a.decimals_text Float, allFinite, List.all_cons, List.all_nil, Bool.and_true]
    show List.head? (if a.angle.isFinite = true then [a.angle] else []) = _
    split <;> rfl
  unfold solveTrigonometry?
  rw [a.detect?_text, hread]
  split <;> rfl

/-! ## What is reported -/

theorem angle_of_zero (h : a.degrees.value.coefficient = 0) : a.angle = 0 :=
  Binary64.toFloat_of_coefficient ((coefficient_fromDigit a.degrees).trans h)

/-- A solution for the angle as it is read is one for the negative angle only if both are zeros. -/
theorem reported_iff :
    a.Reported (.trigonometric a.function a.angle
        (a.function.value? (Arithmetic.radians a.angle))) ↔
      a.degrees.value.coefficient = 0 := by
  constructor
  · rintro ⟨angle, hx, hsame, hsign⟩
    obtain rfl := (Solution.trigonometric.inj hx).2.1
    by_contra hnonzero
    have hzero : (a.angle == 0) = true :=
      ((Binary64.neg_beq_iff (Binary64.unsigned_toFloat _) (Binary64.unsigned_toFloat _)).1 hsame).2
    -- a zero is shown without a sign
    have hshown := hsign hnonzero
    rw [Binary64.toText_of_zero hzero] at hshown
    exact absurd hshown (by decide)
  · intro hzero
    refine ⟨a.angle, rfl, ?_, fun hnonzero => absurd hzero hnonzero⟩
    rw [a.angle_of_zero hzero, Binary64.toFloat_of_coefficient hzero]
    decide +kernel

theorem reported_all_iff :
    (∀ x ∈ solveTrigonometry? Float a.text, a.Reported x) ↔ ¬ a.Misread := by
  have hsolved := a.solveTrigonometry?_text
  constructor
  · rintro h ⟨hfits, hnonzero⟩
    rw [if_pos hfits] at hsolved
    exact hnonzero (a.reported_iff.1 (h _ hsolved))
  · intro h x hx
    by_cases hfits : a.angle.isFinite = true
    · rw [hsolved, if_pos hfits] at hx
      cases hx
      by_contra hwrong
      exact h ⟨hfits, fun hzero => hwrong (a.reported_iff.2 hzero)⟩
    · rw [hsolved, if_neg hfits] at hx
      cases hx

end NegativeAngle

/-- A function of a negative angle is solved for the angle as it is read, which has no sign.  That
is a wrong solution exactly if the angle is no zero and what is read of it is not too large. -/
theorem reported_iff_not_misread (a : NegativeAngle) :
    solveTrigonometry? Float a.text =
        (if a.angle.isFinite then
          some (.trigonometric a.function a.angle (a.function.value? (Arithmetic.radians a.angle)))
        else none) ∧
      ((∀ x ∈ solveTrigonometry? Float a.text, a.Reported x) ↔ ¬ a.Misread) :=
  ⟨a.solveTrigonometry?_text, a.reported_all_iff⟩

/-- The sine of minus thirty degrees is that of thirty, and the cosine of minus sixty that of sixty.
The angle is shown without the sign. -/
theorem sine_of_minus_thirty :
    solveTrigonometry? Float "sin -30".toList =
        some (.trigonometric .sin 30 (some (Float.sin (Arithmetic.radians 30)))) ∧
      solveTrigonometry? Float "cos(-60)".toList =
        some (.trigonometric .cos 60 (some (Float.cos (Arithmetic.radians 60)))) ∧
      Arithmetic.toText (30 : Float) = "30".toList := by
  have hsine : TrigFunction.detect? (Text.lowercase "sin -30".toList) = some .sin ∧
      decimals Float "sin -30".toList = [30] := by decide +kernel
  have hcosine : TrigFunction.detect? (Text.lowercase "cos(-60)".toList) = some .cos ∧
      decimals Float "cos(-60)".toList = [60] := by decide +kernel
  refine ⟨?_, ?_, by decide +kernel⟩
  · unfold solveTrigonometry?
    rw [hsine.1, hsine.2]
    rfl
  · unfold solveTrigonometry?
    rw [hcosine.1, hcosine.2]
    rfl

end Problem
end ChatAssistant
