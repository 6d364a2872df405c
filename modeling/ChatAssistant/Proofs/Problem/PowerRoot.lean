import ChatAssistant.Problem.PowerRoot
import ChatAssistant.Proofs.Problem.Numbers
import ChatAssistant.Proofs.Question.Extraction

/-!
# Powers and roots of decimal literals

The solver for powers and roots takes the runs of digits of a text for its numbers.  The digits on
the two sides of a point are two runs, so of a literal like `2.5` the whole part is taken and the
digits behind the point are the next number.

* `occurrences_integerAt?` — the numbers are the runs of digits;
* `PowerTask`, `pieces` — the ways to pose a power or a root, and the runs of a literal;
* `solvePowerRoot?_text` — the solution is that of the first runs of the literals;
* `faithful_iff_not_misread` — which tasks are solved for other numbers than they show.
-/

namespace ChatAssistant

open Decimal (Literal isLiteralChar)

namespace Decimal.Literal

/-- The runs of digits of a literal: in front of its point and behind it. -/
def pieces (l : Literal) : List Text := [l.whole, l.fraction.getD []].filter (!·.isEmpty)

/-- There are no digits behind a point. -/
def IsWhole (l : Literal) : Prop := l.fraction.getD [] = []

theorem pieces_of_isWhole {l : Literal} (h : l.IsWhole) : l.pieces = [l.whole] := by
  have hne : l.whole ≠ [] := by
    have hdigits := l.ne_nil
    rwa [h, List.append_nil] at hdigits
  unfold pieces
  rw [h]
  simp [hne]

theorem value_of_isWhole {l : Literal} (h : l.IsWhole) : l.value = ofParts l.whole [] := by
  unfold value
  rw [h]

/-- In front of something else a literal has its runs of digits. -/
theorem runs_text_append (l : Literal) {rest : Text}
    (hrest : ∀ c ∈ rest.head?, Text.isDigit c = false) :
    Text.runs Text.isDigit (l.text ++ rest) = l.pieces ++ Text.runs Text.isDigit rest := by
  obtain ⟨whole, fraction, hdigits, hne⟩ := l
  have hwhole : ∀ c ∈ whole, Text.isDigit c = true := fun c hc =>
    hdigits c (List.mem_append_left _ hc)
  cases fraction with
  | none =>
      have hruns := Text.runs_append_of_pos hwhole hrest
      simpa [text, pieces, List.filter_cons] using hruns
  | some fraction =>
      have hfraction : ∀ c ∈ fraction, Text.isDigit c = true := fun c hc =>
        hdigits c (List.mem_append_right _ hc)
      have hpoint : ∀ c ∈ ('.' :: (fraction ++ rest)).head?, Text.isDigit c = false := by
        intro c hc
        cases hc
        decide
      calc
        Text.runs Text.isDigit (text ⟨whole, some fraction, hdigits, hne⟩ ++ rest) =
            Text.runs Text.isDigit (whole ++ '.' :: (fraction ++ rest)) := by simp [text]
        _ = [whole].filter (!·.isEmpty) ++ Text.runs Text.isDigit (fraction ++ rest) := by
            rw [Text.runs_append_of_pos hwhole hpoint, Text.runs_cons_of_neg (by decide)]
        _ = [whole].filter (!·.isEmpty) ++ ([fraction].filter (!·.isEmpty) ++
              Text.runs Text.isDigit rest) := by
            rw [Text.runs_append_of_pos hfraction hrest]
        _ = _ := by
            rw [← List.append_assoc, ← List.filter_append]
            rfl

end Decimal.Literal

namespace Problem

variable {c : Char} {s : Text}

/-! ## Runs of digits -/

theorem integerAt?_of_neg (hc : Text.isDigit c = false) (s : Text) :
    integerAt? (c :: s) = none := by
  simp [integerAt?, hc]

theorem integerAt?_of_pos (hc : Text.isDigit c = true) (s : Text) :
    integerAt? (c :: s) =
      some (Decimal.ofParts (c :: s.takeWhile Text.isDigit) [], s.dropWhile Text.isDigit) := by
  simp [integerAt?, hc]

/-- The numbers of a text are its runs of digits. -/
theorem occurrences_integerAt? (s : Text) :
    occurrences integerAt? s = (Text.runs Text.isDigit s).map (Decimal.ofParts · []) := by
  induction hn : s.length using Nat.strong_induction_on generalizing s with
  | _ n ih =>
      cases s with
      | nil => rw [occurrences_nil, Text.runs_nil, List.map_nil]
      | cons c s =>
          cases hc : Text.isDigit c with
          | false =>
              rw [occurrences_of_none (integerAt?_of_neg hc s), Text.runs_cons_of_neg hc]
              exact ih s.length (by simp [← hn]) s rfl
          | true =>
              have hlen := Text.length_dropWhile_le Text.isDigit s
              rw [occurrences_of_some (integerAt?_of_pos hc s) hlen, Text.runs_cons_of_pos hc,
                List.map_cons]
              refine congrArg (_ :: ·) (ih _ ?_ _ rfl)
              rw [← hn, List.length_cons]
              omega

/-! ## Tasks -/

theorem finiteResult?_eq_some_iff {α : Type} [Arithmetic α] {a : α} {f : α → Solution α}
    {x : Solution α} :
    finiteResult? a f = some x ↔ Arithmetic.isFinite a = true ∧ x = f a := by
  unfold finiteResult?
  rw [Option.ite_none_right_eq_some, Option.some_inj]
  exact and_congr_right' eq_comm

/-- The numbers that a solution is computed from. -/
def Solution.operands {α : Type} : Solution α → List α
  | .linear _ a b c _ => [a, b, c]
  | .squareRoot n _ | .cubeRoot n _ | .square n _ => [n]
  | .power base exponent _ => [base, exponent]
  | .percentOf percent whole _ => [percent, whole]
  | .proportion part whole _ => [part, whole]
  | .trigonometric _ angle _ => [angle]

/-- A power or a root as it is posed. -/
inductive PowerTask where
  | power (base exponent : Literal)
  | square (n : Literal)
  | squareRoot (n : Literal)
  | cubeRoot (n : Literal)

namespace PowerTask

/-- The literal in front of the words, if there is one. -/
def front : PowerTask → Text
  | power base _ => base.text
  | square _ | squareRoot _ | cubeRoot _ => []

def words : PowerTask → Text
  | power _ _ => " в степени ".toList
  | square _ => "квадрат ".toList
  | squareRoot _ => "корень из ".toList
  | cubeRoot _ => "кубический корень из ".toList

/-- The ways to pose a power or a root. -/
def phrasings : List Text :=
  [" в степени ".toList, "квадрат ".toList, "корень из ".toList, "кубический корень из ".toList]

/-- The literal behind the words. -/
def back : PowerTask → Literal
  | power _ n | square n | squareRoot n | cubeRoot n => n

def text (t : PowerTask) : Text := t.front ++ (t.words ++ t.back.text)

def literals : PowerTask → List Literal
  | power base exponent => [base, exponent]
  | square n | squareRoot n | cubeRoot n => [n]

/-- The runs of digits in the literals, as numbers. -/
def runs (t : PowerTask) : List Decimal :=
  (t.literals.flatMap Literal.pieces).map (Decimal.ofParts · [])

/-- The runs that are taken for the literals: as many as there are literals. -/
def taken (t : PowerTask) : List Decimal := t.runs.take t.literals.length

variable (α : Type) [Arithmetic α]

/-- The solution of the task for the first of these numbers. -/
def solution? : PowerTask → List α → Option (Solution α)
  | power _ _, a :: b :: _ => finiteResult? (Arithmetic.pow a b) (.power a b)
  | square _, a :: _ => finiteResult? (Arithmetic.mul a a) (.square a)
  | squareRoot _, a :: _ => some (.squareRoot a (Arithmetic.sqrt a))
  | cubeRoot _, a :: _ => some (.cubeRoot a (Arithmetic.cbrt a))
  | _, _ => none

/-! ## What is read -/

variable (t : PowerTask)

theorem isLiteralChar_of_mem_front : ∀ c ∈ t.front, isLiteralChar c = true := by
  intro c hc
  cases t with
  | power base _ => exact base.isLiteralChar_of_mem hc
  | square _ => cases hc
  | squareRoot _ => cases hc
  | cubeRoot _ => cases hc

theorem words_mem_phrasings : t.words ∈ phrasings := by
  cases t with
  | power _ _ => exact .head _
  | square _ => exact .tail _ (.head _)
  | squareRoot _ => exact .tail _ (.tail _ (.head _))
  | cubeRoot _ => exact .tail _ (.tail _ (.tail _ (.head _)))

/-- The words are all in lower case. -/
theorem lowercase_text : Text.lowercase t.text = t.text := by
  have hall : ∀ w ∈ phrasings, ∀ c ∈ w, Text.Stays c := by decide +kernel
  have hwords := hall t.words t.words_mem_phrasings
  have hliteral {c : Char} (hc : isLiteralChar c = true) : Text.Stays c :=
    Question.stays_of_isAllowed (Expr.isAllowed_of_isLiteralChar hc)
  apply Text.lowercase_eq_self
  simp only [text, List.forall_mem_append]
  exact ⟨fun c hc => hliteral (t.isLiteralChar_of_mem_front c hc), hwords,
    fun c hc => hliteral (t.back.isLiteralChar_of_mem hc)⟩

/-- A phrase without digits and points is looked for in the words only. -/
theorem contains_text {phrase : Text} (hne : phrase ≠ [])
    (h : ∀ c ∈ phrase, isLiteralChar c = false) :
    Text.contains phrase t.text = Text.contains phrase t.words := by
  have hback : ∀ c ∈ t.back.text, isLiteralChar c = true := fun c hc =>
    t.back.isLiteralChar_of_mem hc
  exact Text.contains_between hne (Text.not_mem_of_forall t.isLiteralChar_of_mem_front h)
    (Text.not_mem_of_forall hback h) t.words

theorem integers_text :
    integers α t.text = allFinite α (t.runs.map Arithmetic.ofDecimal) := by
  have hall : ∀ w ∈ phrasings, ∀ c ∈ w, Text.isDigit c = false := by decide
  have hwords := hall t.words t.words_mem_phrasings
  have hback : Text.runs Text.isDigit (t.words ++ t.back.text) = t.back.pieces := by
    have hnil : Text.runs Text.isDigit (t.back.text ++ []) =
        t.back.pieces ++ Text.runs Text.isDigit [] := t.back.runs_text_append (by simp)
    rw [Text.runs_append_of_neg hwords]
    simpa [Text.runs_nil] using hnil
  have hruns : Text.runs Text.isDigit t.text = t.literals.flatMap Literal.pieces := by
    unfold text
    cases t with
    | power base exponent =>
        have hspace : ∀ c ∈ ((power base exponent).words ++
            (power base exponent).back.text).head?, Text.isDigit c = false := by
          intro c hc
          cases hc
          decide
        rw [front, base.runs_text_append hspace, hback]
        simp [literals, back]
    | square n => simpa [front, literals, back] using hback
    | squareRoot n => simpa [front, literals, back] using hback
    | cubeRoot n => simpa [front, literals, back] using hback
  unfold integers runs
  rw [occurrences_integerAt?, hruns]

/-- The solver does the task for the first numbers that it finds. -/
theorem solvePowerRoot?_text :
    solvePowerRoot? α t.text = t.solution? α (allFinite α (t.runs.map Arithmetic.ofDecimal)) := by
  have hany (phrases : List Text)
      (h : ∀ p ∈ phrases, p ≠ [] ∧ ∀ c ∈ p, isLiteralChar c = false) :
      Text.containsAny phrases t.text = Text.containsAny phrases t.words :=
    Text.containsAny_congr fun p hp => t.contains_text (h p hp).1 (h p hp).2
  have hroot := hany ["корень".toList, "√".toList] (by decide)
  have hpower := hany ["степен".toList, "^".toList] (by decide)
  have hcube : Text.contains "кубич".toList t.text = Text.contains "кубич".toList t.words :=
    t.contains_text (by decide) (by decide)
  have hsquare : Text.contains "квадрат".toList t.text = Text.contains "квадрат".toList t.words :=
    t.contains_text (by decide) (by decide)
  -- which branch is taken is a matter of the words, which are fixed
  unfold solvePowerRoot?
  simp only [t.lowercase_text, t.integers_text α, hroot, hcube, hsquare, hpower]
  generalize allFinite α (t.runs.map Arithmetic.ofDecimal) = numbers
  cases numbers with
  | nil => cases t <;> rfl
  | cons n others =>
      cases t with
      | power base exponent => cases others <;> rfl
      | square n => rfl
      | squareRoot n => rfl
      | cubeRoot n => rfl

/-! ## What is shown -/

/-- The text of a literal's number in an answer. -/
def shown (d : Decimal) : Text := Arithmetic.toText (Arithmetic.ofDecimal d : α)

/-- Whatever solution is found, it shows the literals for its operands. -/
def Faithful : Prop :=
  ∀ x ∈ solvePowerRoot? α t.text,
    x.operands.map Arithmetic.toText = t.literals.map fun l => shown α l.value

/-- There is a solution for the runs that are taken, and they are not shown as the literals are. -/
structure Misread : Prop where
  fits : ∀ d ∈ t.runs, Arithmetic.isFinite (Arithmetic.ofDecimal d : α) = true
  solved : (t.solution? α (t.taken.map Arithmetic.ofDecimal)).isSome = true
  differs : t.taken.map (shown α) ≠ t.literals.map fun l => shown α l.value

/-- Only as many numbers are used as there are literals. -/
theorem solution?_take (numbers : List α) :
    t.solution? α (numbers.take t.literals.length) = t.solution? α numbers := by
  cases t with
  | power base exponent =>
      match numbers with
      | [] => rfl
      | [_] => rfl
      | _ :: _ :: _ => rfl
  | square n => cases numbers <;> rfl
  | squareRoot n => cases numbers <;> rfl
  | cubeRoot n => cases numbers <;> rfl

/-- A solution shows the numbers that it is computed from. -/
theorem operands_of_solution? {numbers : List α} {x : Solution α}
    (h : t.solution? α numbers = some x) : x.operands = numbers.take t.literals.length := by
  cases t with
  | power base exponent =>
      match numbers with
      | [] => cases h
      | [_] => cases h
      | _ :: _ :: _ => rw [(finiteResult?_eq_some_iff.1 h).2]; rfl
  | square n =>
      cases numbers with
      | nil => cases h
      | cons _ _ => rw [(finiteResult?_eq_some_iff.1 h).2]; rfl
  | squareRoot n =>
      cases numbers with
      | nil => cases h
      | cons _ _ => cases h; rfl
  | cubeRoot n =>
      cases numbers with
      | nil => cases h
      | cons _ _ => cases h; rfl

theorem solution?_nil : t.solution? α [] = none := by
  cases t <;> rfl

/-- Unless a number is too large, what is taken is what the solution is computed from. -/
theorem solvePowerRoot?_taken
    (h : ∀ d ∈ t.runs, Arithmetic.isFinite (Arithmetic.ofDecimal d : α) = true) :
    solvePowerRoot? α t.text = t.solution? α (t.taken.map Arithmetic.ofDecimal) := by
  have hall : (t.runs.map (Arithmetic.ofDecimal (α := α))).all Arithmetic.isFinite = true := by
    rw [List.all_map, List.all_eq_true]
    exact h
  rw [t.solvePowerRoot?_text α, allFinite, if_pos hall, taken, List.map_take, t.solution?_take α]

theorem solvePowerRoot?_eq_none
    (h : ¬ ∀ d ∈ t.runs, Arithmetic.isFinite (Arithmetic.ofDecimal d : α) = true) :
    solvePowerRoot? α t.text = none := by
  have hall : ¬ (t.runs.map (Arithmetic.ofDecimal (α := α))).all Arithmetic.isFinite = true := by
    rw [List.all_map, List.all_eq_true]
    exact h
  rw [t.solvePowerRoot?_text α, allFinite, if_neg hall, t.solution?_nil α]

theorem shown_operands {x : Solution α}
    (h : t.solution? α (t.taken.map Arithmetic.ofDecimal) = some x) :
    x.operands.map Arithmetic.toText = t.taken.map (shown α) := by
  have htaken : (t.taken.map (Arithmetic.ofDecimal (α := α))).take t.literals.length =
      t.taken.map Arithmetic.ofDecimal := by
    rw [taken, List.map_take, List.take_take, min_self]
  rw [t.operands_of_solution? α h, htaken, List.map_map]
  rfl

theorem faithful_iff : t.Faithful α ↔ ¬ t.Misread α := by
  constructor
  · rintro h ⟨hfits, hsolved, hdiffers⟩
    obtain ⟨x, hx⟩ := Option.isSome_iff_exists.1 hsolved
    have hfound := t.solvePowerRoot?_taken α hfits
    exact hdiffers ((t.shown_operands α hx).symm.trans (h x (hfound.trans hx)))
  · intro h x hx
    by_cases hfits : ∀ d ∈ t.runs, Arithmetic.isFinite (Arithmetic.ofDecimal d : α) = true
    · have hsolved : t.solution? α (t.taken.map Arithmetic.ofDecimal) = some x :=
        (t.solvePowerRoot?_taken α hfits).symm.trans hx
      rw [t.shown_operands α hsolved]
      by_contra hdiffers
      exact h ⟨hfits, by rw [hsolved]; rfl, hdiffers⟩
    · rw [t.solvePowerRoot?_eq_none α hfits] at hx
      cases hx

/-- Of literals without digits behind a point all is taken. -/
theorem not_misread_of_isWhole (h : ∀ l ∈ t.literals, l.IsWhole) : ¬ t.Misread α := by
  have hruns : t.runs = t.literals.map Literal.value := by
    calc
      t.runs = t.literals.flatMap fun l => l.pieces.map (Decimal.ofParts · []) := List.map_flatMap
      _ = t.literals.flatMap fun l => [l.value] := List.flatMap_congr fun l hl => by
          rw [Literal.pieces_of_isWhole (h l hl), Literal.value_of_isWhole (h l hl)]
          rfl
      _ = t.literals.map Literal.value := List.map_eq_flatMap.symm
  have htaken : t.taken = t.literals.map Literal.value := by
    rw [taken, hruns]
    exact List.take_of_length_le (by rw [List.length_map])
  rintro ⟨-, -, hdiffers⟩
  apply hdiffers
  rw [htaken, List.map_map]
  rfl

end PowerTask

/-- A power or a root is solved for the first runs of digits in it.  They are shown as its literals
are unless the numbers are found small enough and one of them differs from its literal, which no
literal without digits behind a point does. -/
theorem faithful_iff_not_misread (α : Type) [Arithmetic α] (t : PowerTask) :
    solvePowerRoot? α t.text = t.solution? α (allFinite α (t.runs.map Arithmetic.ofDecimal)) ∧
      (t.Faithful α ↔ ¬ t.Misread α) ∧
      ((∀ l ∈ t.literals, l.IsWhole) → t.Faithful α) :=
  ⟨t.solvePowerRoot?_text α, t.faithful_iff α,
    fun h => (t.faithful_iff α).2 (t.not_misread_of_isWhole α h)⟩

/-- The square of two and a half is that of two, and its power is one of two to the fifth. -/
theorem two_and_a_half_squared :
    (solvePowerRoot? Float "квадрат 2.5".toList).map Solution.toText =
      some "Квадрат числа 2 = 4".toList ∧
    integers Float "2.5 в степени 2".toList = [2, 5, 2] ∧
    (Arithmetic.toText (2.5 : Float)) = "2.5".toList := by
  decide +kernel

end Problem
end ChatAssistant
