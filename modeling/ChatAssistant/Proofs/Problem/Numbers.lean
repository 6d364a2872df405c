import ChatAssistant.Problem.Numbers
import ChatAssistant.Proofs.Expr.Printing

/-!
# Signed literals in running text

The reader of signed literals takes what it can at every place and goes on behind it.  In front of
anything else a literal is read as a whole, up to a point at its end that nothing follows, and a
sign belongs to it only if nothing stands in between.

* `openDecimalAt?_literal` — what is read of a literal, and what is left;
* `occurrences_literal`, `occurrences_signed` — the next number is the literal, with its sign;
* `occurrences_clear`, `occurrences_lone_sign` — there is no number at this place.
-/

namespace ChatAssistant
namespace Problem

open Decimal (Literal isLiteralChar)

variable {c : Char} {s rest whole fraction : Text}

/-- There is nothing at the start that a literal could go on with. -/
def Clear (s : Text) : Prop := ∀ c ∈ s.head?, isLiteralChar c = false

theorem clear_nil : Clear [] := by
  intro c hc
  cases hc

theorem clear_cons (h : isLiteralChar c = false) : Clear (c :: s) := by
  intro d hd
  cases hd
  exact h

/-! ## Literals at the start of a text -/

/-- Digits in front of something else. -/
theorem digits_append (digits : Text) (hdigits : ∀ c ∈ digits, Text.isDigit c = true)
    (hrest : ∀ c ∈ rest.head?, Text.isDigit c = false) :
    (digits ++ rest).takeWhile Text.isDigit = digits ∧
      (digits ++ rest).dropWhile Text.isDigit = rest := by
  rw [List.takeWhile_append_of_pos hdigits, List.dropWhile_append_of_pos hdigits]
  cases rest with
  | nil => exact ⟨List.append_nil digits, rfl⟩
  | cons c rest =>
      have hc : ¬ Text.isDigit c = true := by
        rw [hrest c rfl]
        decide
      rw [List.takeWhile_cons_of_neg hc, List.dropWhile_cons_of_neg hc]
      exact ⟨List.append_nil digits, rfl⟩

theorem Clear.not_isDigit (h : Clear s) : ∀ c ∈ s.head?, Text.isDigit c = false := by
  intro c hc
  have hliteral := h c hc
  unfold isLiteralChar at hliteral
  exact (Bool.or_eq_false_iff.1 hliteral).1

theorem Clear.takeWhile_isDigit (h : Clear s) : s.takeWhile Text.isDigit = [] :=
  (digits_append [] (by simp) h.not_isDigit).1

theorem openDecimalAt?_of_clear (h : Clear s) : openDecimalAt? s = none := by
  unfold openDecimalAt?
  split
  · exact absurd (h '.' rfl) (by decide)
  · simp only [decimalAt?, h.takeWhile_isDigit]
    rfl

theorem openDecimalAt?_point (h : Clear s) : openDecimalAt? ('.' :: s) = none := by
  simp only [openDecimalAt?, h.takeWhile_isDigit]
  rfl

/-- In front of a digit no point is looked for. -/
theorem openDecimalAt?_digits (hwhole : ∀ c ∈ whole, Text.isDigit c = true) (hne : whole ≠ []) :
    openDecimalAt? (whole ++ s) = decimalAt? (whole ++ s) := by
  cases whole with
  | nil => exact absurd rfl hne
  | cons d whole =>
      have hd := hwhole d List.mem_cons_self
      rw [List.cons_append]
      unfold openDecimalAt?
      split
      · rename_i heq
        cases heq
        exact absurd hd (by decide)
      · rfl

theorem decimalAt?_whole (hwhole : ∀ c ∈ whole, Text.isDigit c = true) (hne : whole ≠ [])
    (hrest : Clear rest) :
    decimalAt? (whole ++ rest) = some (Decimal.ofParts whole [], rest) := by
  obtain ⟨htake, hdrop⟩ := digits_append whole hwhole hrest.not_isDigit
  have hne' : whole.isEmpty = false := by simp [hne]
  unfold decimalAt?
  simp only [htake, hdrop, hne', Bool.false_eq_true, if_false]
  split
  · exact absurd (hrest '.' rfl) (by decide)
  · rfl

theorem decimalAt?_fraction (hwhole : ∀ c ∈ whole, Text.isDigit c = true) (hne : whole ≠ [])
    (hfraction : ∀ c ∈ fraction, Text.isDigit c = true) (hrest : Clear rest) :
    decimalAt? (whole ++ '.' :: (fraction ++ rest)) =
      if fraction = [] then some (Decimal.ofParts whole [], '.' :: rest)
      else some (Decimal.ofParts whole fraction, rest) := by
  have hpoint : ∀ c ∈ ('.' :: (fraction ++ rest)).head?, Text.isDigit c = false := by
    intro c hc
    cases hc
    decide
  obtain ⟨htake, hdrop⟩ := digits_append whole hwhole hpoint
  obtain ⟨htake', hdrop'⟩ := digits_append fraction hfraction hrest.not_isDigit
  have hne' : whole.isEmpty = false := by simp [hne]
  unfold decimalAt?
  simp only [htake, hdrop, htake', hdrop', hne', Bool.false_eq_true, if_false, List.isEmpty_iff]
  split
  · rename_i hnil
    rw [hnil, List.nil_append]
  · rfl

/-- Of a literal in front of something else everything is read but a point at the end. -/
theorem openDecimalAt?_literal (l : Literal) (hrest : Clear rest) :
    ∃ read point : Text, l.text = read ++ point ∧ read ≠ [] ∧ (point = [] ∨ point = ['.']) ∧
      openDecimalAt? (l.text ++ rest) = some (l.value, point ++ rest) := by
  obtain ⟨whole, fraction, hdigits, hne⟩ := l
  have hwhole : ∀ c ∈ whole, Text.isDigit c = true := fun c hc =>
    hdigits c (List.mem_append_left _ hc)
  cases fraction with
  | none =>
      have hne' : whole ≠ [] := by simpa using hne
      refine ⟨whole, [], rfl, hne', .inl rfl, ?_⟩
      simp only [Literal.text, Literal.value, Option.elim, Option.getD, List.append_nil,
        List.nil_append]
      rw [openDecimalAt?_digits hwhole hne', decimalAt?_whole hwhole hne' hrest]
  | some fraction =>
      have hfraction : ∀ c ∈ fraction, Text.isDigit c = true := fun c hc =>
        hdigits c (List.mem_append_right _ hc)
      simp only [Literal.text, Literal.value, Option.elim, Option.getD, List.append_assoc,
        List.cons_append]
      by_cases hempty : whole = []
      · -- the point is the first character
        have hne' : fraction ≠ [] := by simpa [hempty] using hne
        obtain ⟨htake, hdrop⟩ := digits_append fraction hfraction hrest.not_isDigit
        refine ⟨'.' :: fraction, [], by simp [hempty], by simp, .inl rfl, ?_⟩
        rw [hempty, List.nil_append]
        simp [openDecimalAt?, htake, hdrop, hne']
      · rw [openDecimalAt?_digits hwhole hempty, decimalAt?_fraction hwhole hempty hfraction hrest]
        split
        · rename_i hnil
          exact ⟨whole, ['.'], by rw [hnil], hempty, .inr rfl, by rw [hnil]; rfl⟩
        · exact ⟨whole ++ '.' :: fraction, [], by simp, by simp, .inl rfl, rfl⟩

/-! ## One place after the other -/

section Occurrences

variable {β : Type} {at? : Text → Option (β × Text)} {item : β}

theorem occurrences_nil (at? : Text → Option (β × Text)) : occurrences at? [] = [] := by
  rw [occurrences]

theorem occurrences_of_none (h : at? (c :: s) = none) :
    occurrences at? (c :: s) = occurrences at? s := by
  rw [occurrences, h]

theorem occurrences_of_some (h : at? (c :: s) = some (item, rest)) (hlen : rest.length ≤ s.length) :
    occurrences at? (c :: s) = item :: occurrences at? rest := by
  rw [occurrences, h]
  exact if_pos hlen

/-- Behind an item at the front the search goes on with the rest. -/
theorem occurrences_append_of_some {front : Text} (hne : front ≠ [])
    (h : at? (front ++ s) = some (item, rest)) (hlen : rest.length ≤ s.length) :
    occurrences at? (front ++ s) = item :: occurrences at? rest := by
  cases front with
  | nil => exact absurd rfl hne
  | cons c front =>
      have hbehind : rest.length ≤ (front ++ s).length := by
        rw [List.length_append]
        omega
      exact occurrences_of_some h hbehind

end Occurrences

/-- The sign in front of a literal. -/
def signChar (minus : Bool) : Char := if minus then '-' else '+'

/-- A character is no sign. -/
def IsNoSign (c : Char) : Prop := c ≠ '-' ∧ c ≠ '+'

theorem signedAt?_sign (minus : Bool) (s : Text) :
    signedAt? (signChar minus :: s) =
      (openDecimalAt? s).map fun p => (⟨minus, p.1⟩, p.2) := by
  cases minus <;> rfl

theorem signedAt?_of_isNoSign (h : IsNoSign c) (s : Text) :
    signedAt? (c :: s) = (openDecimalAt? (c :: s)).map fun p => (⟨false, p.1⟩, p.2) := by
  unfold signedAt?
  split
  · rename_i heq
    cases heq
    exact absurd rfl h.1
  · rename_i heq
    cases heq
    exact absurd rfl h.2
  · rfl

theorem isNoSign_of_isLiteralChar (h : isLiteralChar c = true) : IsNoSign c := by
  constructor <;>
  · rintro rfl
    exact absurd h (by decide)

/-- Nothing starts at a character that neither a sign nor a literal starts with. -/
theorem occurrences_clear (hsign : IsNoSign c) (h : isLiteralChar c = false) (s : Text) :
    occurrences signedAt? (c :: s) = occurrences signedAt? s := by
  apply occurrences_of_none
  rw [signedAt?_of_isNoSign hsign, openDecimalAt?_of_clear (clear_cons h)]
  rfl

/-- Nothing starts at a sign without a literal right behind it. -/
theorem occurrences_lone_sign (minus : Bool) (h : Clear s) :
    occurrences signedAt? (signChar minus :: s) = occurrences signedAt? s := by
  apply occurrences_of_none
  rw [signedAt?_sign, openDecimalAt?_of_clear h]
  rfl

/-- A point that is left over starts nothing. -/
theorem occurrences_point {point : Text} (hpoint : point = [] ∨ point = ['.']) (h : Clear s) :
    occurrences signedAt? (point ++ s) = occurrences signedAt? s := by
  rcases hpoint with rfl | rfl
  · rfl
  · apply occurrences_of_none
    show signedAt? ('.' :: s) = none
    rw [signedAt?_of_isNoSign ⟨by decide, by decide⟩, openDecimalAt?_point h]
    rfl

theorem occurrences_literal (l : Literal) (hrest : Clear rest) :
    occurrences signedAt? (l.text ++ rest) = ⟨false, l.value⟩ :: occurrences signedAt? rest := by
  obtain ⟨read, point, htext, hread, hpoint, hat⟩ := openDecimalAt?_literal l hrest
  have hsigned : signedAt? (l.text ++ rest) = some (⟨false, l.value⟩, point ++ rest) := by
    cases hl : l.text with
    | nil => exact absurd hl l.text_ne_nil
    | cons d digits =>
        have hd : isLiteralChar d = true := l.isLiteralChar_of_mem (hl ▸ List.mem_cons_self)
        rw [hl] at hat
        rw [List.cons_append, signedAt?_of_isNoSign (isNoSign_of_isLiteralChar hd)]
        exact congrArg (Option.map _) hat
  rw [htext, List.append_assoc] at hsigned ⊢
  rw [occurrences_append_of_some hread hsigned le_rfl, occurrences_point hpoint hrest]

/-- A sign right in front of a literal belongs to it. -/
theorem occurrences_signed (minus : Bool) (l : Literal) (hrest : Clear rest) :
    occurrences signedAt? (signChar minus :: (l.text ++ rest)) =
      ⟨minus, l.value⟩ :: occurrences signedAt? rest := by
  obtain ⟨read, point, htext, -, hpoint, hat⟩ := openDecimalAt?_literal l hrest
  have hsigned : signedAt? (signChar minus :: (l.text ++ rest)) =
      some (⟨minus, l.value⟩, point ++ rest) := by
    rw [signedAt?_sign, hat]
    rfl
  rw [occurrences_of_some hsigned (by simp [htext]), occurrences_point hpoint hrest]

end Problem
end ChatAssistant
