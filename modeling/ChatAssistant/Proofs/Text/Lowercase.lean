import ChatAssistant.Proofs.Text.Utf8
import ChatAssistant.Proofs.Text.Words
import ChatAssistant.Text.CaseFold
import ChatAssistant.Text.Lowercase

/-!
# Text that is in lower case already

Lower-casing leaves a text as it is if it leaves each of its characters, and then a text that goes
on behind it starts with it all the same: whatever follows, the form of a character depends on its
neighbours only if it is a capital sigma.  Blanks have no case, neither for this nor for matching
without regard to case, and nothing but a digit becomes a digit.
-/

namespace ChatAssistant
namespace Text

variable {c : Char} {s : Text}

/-- Lower-casing leaves the character as it is, wherever it stands. -/
def Stays (c : Char) : Prop := lowercaseChar c = [c] ∧ c ≠ capitalSigma

instance (c : Char) : Decidable (Stays c) := inferInstanceAs (Decidable (_ ∧ _))

/-- A character in none of the ranges of the table has no other form. -/
theorem lowercaseChar_of_forall (hdotted : c.toNat ≠ 0x130)
    (h : ∀ r ∈ lowercaseRanges, c.toNat < r.first ∨ r.last < c.toNat) :
    lowercaseChar c = [c] := by
  have hnone : lowercaseRanges.find? (fun r => r.first ≤ c.toNat && c.toNat ≤ r.last) = none := by
    rw [List.find?_eq_none]
    intro r hr hin
    simp only [Bool.and_eq_true, decide_eq_true_eq] at hin
    rcases h r hr with hlt | hlt
    · omega
    · omega
  unfold lowercaseChar
  rw [if_neg hdotted, hnone]

theorem exists_range_of_isBlank (h : isBlank c = true) :
    ∃ b ∈ blankRanges, b.1 ≤ c.toNat ∧ c.toNat ≤ b.2 := by
  obtain ⟨b, hb, hin⟩ := List.any_eq_true.1 h
  simp only [Bool.and_eq_true, decide_eq_true_eq] at hin
  exact ⟨b, hb, hin⟩

/-- No range of the table meets a range of blanks. -/
theorem stays_of_isBlank (h : isBlank c = true) : Stays c := by
  have hapart : ∀ b ∈ blankRanges, (b.2 < 0x130 ∨ 0x130 < b.1) ∧ (b.2 < 0x3A3 ∨ 0x3A3 < b.1) ∧
      ∀ r ∈ lowercaseRanges, b.2 < r.first ∨ r.last < b.1 := by decide +kernel
  obtain ⟨b, hb, hin⟩ := exists_range_of_isBlank h
  obtain ⟨hdotted, hsigma, hranges⟩ := hapart b hb
  refine ⟨lowercaseChar_of_forall (by omega) ?_, ?_⟩
  · intro r hr
    have hr' := hranges r hr
    omega
  · rintro rfl
    have hvalue : capitalSigma.toNat = 0x3A3 := by decide
    omega

/-- Text that stays in front stays whatever follows it. -/
theorem exists_lowercaseAfter_append (h : ∀ c ∈ s, Stays c) (afterCased : Bool) (rest : Text) :
    ∃ afterCased',
      lowercaseAfter afterCased (s ++ rest) = s ++ lowercaseAfter afterCased' rest := by
  induction s generalizing afterCased with
  | nil => exact ⟨afterCased, rfl⟩
  | cons c s ih =>
      obtain ⟨hform, hsigma⟩ := h c List.mem_cons_self
      obtain ⟨afterCased', hs⟩ := ih (fun d hd => h d (List.mem_cons_of_mem _ hd))
        (if isCaseIgnorable c then afterCased else isCased c)
      refine ⟨afterCased', ?_⟩
      rw [List.cons_append, lowercaseAfter, if_neg hsigma, hform, hs]
      rfl

theorem exists_lowercase_append (h : ∀ c ∈ s, Stays c) (rest : Text) :
    ∃ lower, lowercase (s ++ rest) = s ++ lower := by
  obtain ⟨afterCased', hs⟩ := exists_lowercaseAfter_append h false rest
  exact ⟨_, hs⟩

theorem lowercase_eq_self (h : ∀ c ∈ s, Stays c) : lowercase s = s := by
  obtain ⟨afterCased', hs⟩ := exists_lowercaseAfter_append h false []
  calc
    lowercase s = lowercaseAfter false (s ++ []) := by rw [List.append_nil]; rfl
    _ = s ++ lowercaseAfter afterCased' [] := hs
    _ = s := List.append_nil s

/-! ## Forms -/

/-- The forms that a character can take in lower case. -/
def forms (c : Char) : Text := if c = capitalSigma then ['ς', 'σ'] else lowercaseChar c

theorem forms_of_stays (h : Stays c) : forms c = [c] := by
  rw [forms, if_neg h.2, h.1]

theorem exists_mem_of_mem_lowercaseAfter {afterCased : Bool} {d : Char}
    (h : d ∈ lowercaseAfter afterCased s) : ∃ c ∈ s, d ∈ forms c := by
  induction s generalizing afterCased with
  | nil => cases h
  | cons c s ih =>
      rw [lowercaseAfter] at h
      rcases List.mem_append.1 h with h | h
      · refine ⟨c, List.mem_cons_self, ?_⟩
        unfold forms
        split
        · rename_i hsigma
          rw [if_pos hsigma] at h
          split at h
          · obtain rfl := List.mem_singleton.1 h
            decide
          · obtain rfl := List.mem_singleton.1 h
            decide
        · rename_i hsigma
          rwa [if_neg hsigma] at h
      · obtain ⟨b, hb, hform⟩ := ih h
        exact ⟨b, List.mem_cons_of_mem _ hb, hform⟩

/-- What stands in a text in lower case is a form of something in the text. -/
theorem exists_mem_of_mem_lowercase {d : Char} (h : d ∈ lowercase s) : ∃ c ∈ s, d ∈ forms c :=
  exists_mem_of_mem_lowercaseAfter h

theorem mem_lowercaseAfter {afterCased : Bool} {d : Char} (hc : c ∈ s) (hsigma : c ≠ capitalSigma)
    (hd : d ∈ forms c) : d ∈ lowercaseAfter afterCased s := by
  induction s generalizing afterCased with
  | nil => cases hc
  | cons b s ih =>
      rw [lowercaseAfter]
      rcases List.mem_cons.1 hc with rfl | hc
      · rw [forms, if_neg hsigma] at hd
        rw [if_neg hsigma]
        exact List.mem_append_left _ hd
      · exact List.mem_append_right _ (ih hc)

/-- But for capital sigma, the form of a character does not depend on where it stands. -/
theorem mem_lowercase {d : Char} (hc : c ∈ s) (hsigma : c ≠ capitalSigma) (hd : d ∈ forms c) :
    d ∈ lowercase s :=
  mem_lowercaseAfter hc hsigma hd

theorem lowercaseChar_ne_nil (c : Char) : lowercaseChar c ≠ [] := by
  unfold lowercaseChar
  split
  · exact List.cons_ne_nil _ _
  · split
    · split <;> exact List.cons_ne_nil _ _
    · exact List.cons_ne_nil _ _

/-- Nothing but the empty text is empty in lower case. -/
theorem lowercase_eq_nil_iff : lowercase s = [] ↔ s = [] := by
  constructor
  · intro h
    cases s with
    | nil => rfl
    | cons c rest =>
        unfold lowercase at h
        rw [lowercaseAfter] at h
        have hform := (List.append_eq_nil_iff.1 h).1
        split at hform
        · split at hform <;> cases hform
        · exact absurd hform (lowercaseChar_ne_nil c)
  · rintro rfl
    exact lowercase_nil

theorem toNat_of_isDigit (h : isDigit c = true) : 48 ≤ c.toNat ∧ c.toNat ≤ 57 := by
  simp only [isDigit, Bool.and_eq_true, decide_eq_true_eq] at h
  exact ⟨h.1, h.2⟩

/-- A value that is no character's stands for the zero character. -/
theorem ofNat_of_not_isValidChar {n : Nat} (h : ¬ n.isValidChar) : Char.ofNat n = Char.ofNat 0 := by
  unfold Char.ofNat
  rw [dif_neg h, dif_pos (by decide)]
  rfl

theorem le_of_isDigit_ofNat {n : Nat} (h : isDigit (Char.ofNat n) = true) : n ≤ 57 := by
  have hbounds := toNat_of_isDigit h
  by_cases hvalid : n.isValidChar
  · rw [Utf8.toNat_ofNat hvalid] at hbounds
    exact hbounds.2
  · rw [ofNat_of_not_isValidChar hvalid] at hbounds
    exact absurd hbounds.1 (by decide)

/-- The forms in the table lie beyond the digits. -/
theorem isDigit_shift {r : CaseRange} (hr : r ∈ lowercaseRanges) (hc : r.first ≤ c.toNat) :
    isDigit (Char.ofNat (c.toNat + r.shift).toNat) = false := by
  have hbeyond : ∀ r ∈ lowercaseRanges, 57 < (r.first : Int) + r.shift := by decide +kernel
  have hr' := hbeyond r hr
  rw [Bool.eq_false_iff]
  intro hdigit
  have hbound := le_of_isDigit_ofNat hdigit
  omega

/-- No character but a digit has a digit for its form. -/
theorem eq_of_isDigit_of_mem_lowercaseChar {d : Char} (hd : d ∈ lowercaseChar c)
    (hdigit : isDigit d = true) : d = c := by
  unfold lowercaseChar at hd
  split at hd
  · have hall : ∀ d ∈ ['i', Char.ofNat 0x307], isDigit d = false := by decide
    rw [hall d hd] at hdigit
    cases hdigit
  · split at hd
    · rename_i r hfound
      have hin := List.find?_some hfound
      simp only [Bool.and_eq_true, decide_eq_true_eq] at hin
      split at hd
      · obtain rfl := List.mem_singleton.1 hd
        rw [isDigit_shift (List.mem_of_find?_eq_some hfound) hin.1] at hdigit
        cases hdigit
      · exact List.mem_singleton.1 hd
    · exact List.mem_singleton.1 hd

/-- Lower-casing brings no digits into a text. -/
theorem mem_of_isDigit_of_mem_lowercase {d : Char} (h : d ∈ lowercase s)
    (hdigit : isDigit d = true) : d ∈ s := by
  obtain ⟨c, hc, hform⟩ := exists_mem_of_mem_lowercase h
  unfold forms at hform
  split at hform
  · have hall : ∀ d ∈ ['ς', 'σ'], isDigit d = false := by decide
    rw [hall d hform] at hdigit
    cases hdigit
  · rwa [eq_of_isDigit_of_mem_lowercaseChar hform hdigit]

/-! ## A second time -/

/-- The value is none of a letter that has another form. -/
theorem stays_ofNat {n : Nat} (hdotted : n ≠ 0x130) (hsigma : n ≠ 0x3A3)
    (h : ∀ r ∈ lowercaseRanges, r.first ≤ n → n ≤ r.last → (n - r.first) % r.stride ≠ 0) :
    Stays (Char.ofNat n) := by
  by_cases hvalid : n.isValidChar
  · have hvalue : (Char.ofNat n).toNat = n := Utf8.toNat_ofNat hvalid
    constructor
    · unfold lowercaseChar
      rw [hvalue, if_neg hdotted]
      split
      · rename_i r hfound
        have hin := List.find?_some hfound
        simp only [Bool.and_eq_true, decide_eq_true_eq] at hin
        rw [if_neg (h r (List.mem_of_find?_eq_some hfound) hin.1 hin.2)]
      · rfl
    · intro heq
      rw [heq] at hvalue
      exact hsigma hvalue.symm
  · rw [ofNat_of_not_isValidChar hvalid]
    decide +kernel

/-- The forms of the first range of letters reach into the second range. -/
def meets (r r' : CaseRange) : Bool :=
  Nat.ble r'.first (r.last + r.shift).toNat && Nat.ble (r.first + r.shift).toNat r'.last

/-- The forms in the table have no other forms themselves: where the forms of a range of letters lie
in a second range, they fall between the letters of that one. -/
theorem stays_shift {r : CaseRange} (hr : r ∈ lowercaseRanges) (hfirst : r.first ≤ c.toNat)
    (hlast : c.toNat ≤ r.last) (hstride : (c.toNat - r.first) % r.stride = 0) :
    Stays (Char.ofNat (c.toNat + r.shift).toNat) := by
  have hbeyond : ∀ r ∈ lowercaseRanges, 0 ≤ (r.first : Int) + r.shift ∧
      (r.last + r.shift < 0x130 ∨ 0x130 < r.first + r.shift) ∧
      (r.last + r.shift < 0x3A3 ∨ 0x3A3 < r.first + r.shift) := by decide +kernel
  -- Few pairs of ranges meet, and only those are worth a second look.
  have hbetween : ∀ r ∈ lowercaseRanges, ∀ r' ∈ lowercaseRanges.filter (meets r),
      r'.stride = 2 ∧ (r.stride = 2 ∨ r.first = r.last) ∧
        ((r.first + r.shift).toNat + r'.first) % 2 = 1 := by decide +kernel
  obtain ⟨hpositive, hdotted, hsigma⟩ := hbeyond r hr
  apply stays_ofNat
  · omega
  · omega
  · intro r' hr' hfirst' hlast'
    have hmeets : meets r r' = true := by
      simp only [meets, Bool.and_eq_true, Nat.ble_eq]
      omega
    obtain ⟨hstride', hstep, hodd⟩ := hbetween r hr r' (List.mem_filter.2 ⟨hr', hmeets⟩)
    rw [hstride']
    rcases hstep with hstep | hstep
    · rw [hstep] at hstride
      omega
    · omega

/-- A form has no other form. -/
theorem stays_of_mem_forms {d : Char} (h : d ∈ forms c) : Stays d := by
  unfold forms at h
  split at h
  · have hall : ∀ d ∈ ['ς', 'σ'], Stays d := by decide +kernel
    exact hall d h
  · rename_i hsigma
    have hself (hform : lowercaseChar c = [c]) (hd : d ∈ [c]) : Stays d := by
      obtain rfl := List.mem_singleton.1 hd
      exact ⟨hform, hsigma⟩
    unfold lowercaseChar at h hself
    split at h
    · have hall : ∀ d ∈ ['i', Char.ofNat 0x307], Stays d := by decide +kernel
      exact hall d h
    · rename_i hdotted
      rw [if_neg hdotted] at hself
      split at h
      · rename_i r hfound
        have hin := List.find?_some hfound
        simp only [Bool.and_eq_true, decide_eq_true_eq] at hin
        rw [hfound] at hself
        dsimp only at hself
        split at h
        · rename_i hstride
          obtain rfl := List.mem_singleton.1 h
          exact stays_shift (List.mem_of_find?_eq_some hfound) hin.1 hin.2 hstride
        · rename_i hstride
          exact hself (if_neg hstride) h
      · rename_i hnone
        rw [hnone] at hself
        exact hself rfl h

theorem stays_of_mem_lowercase {d : Char} (h : d ∈ lowercase s) : Stays d := by
  obtain ⟨c, -, hform⟩ := exists_mem_of_mem_lowercase h
  exact stays_of_mem_forms hform

/-! ## Case folding -/

/-- The only characters that fold to others lie in two ranges. -/
theorem foldCase_of_outside (hcapital : c.toNat < 0x400 ∨ 0x42F < c.toNat)
    (hold : c.toNat < 0x1C80 ∨ 0x1C86 < c.toNat) : foldCase c = c := by
  have hfirst : ¬ (0x410 ≤ c.toNat ∧ c.toNat ≤ 0x42F) := by omega
  have hsecond : ¬ (0x400 ≤ c.toNat ∧ c.toNat ≤ 0x40F) := by omega
  simp only [foldCase, Bool.and_eq_true, decide_eq_true_eq, if_neg hfirst, if_neg hsecond]
  split
  all_goals first
    | omega
    | rfl

theorem foldCase_of_isBlank (h : isBlank c = true) : foldCase c = c := by
  have hapart : ∀ b ∈ blankRanges, (b.2 < 0x400 ∨ 0x42F < b.1) ∧ (b.2 < 0x1C80 ∨ 0x1C86 < b.1) := by
    decide
  obtain ⟨b, hb, hin⟩ := exists_range_of_isBlank h
  have hb' := hapart b hb
  exact foldCase_of_outside (by omega) (by omega)

end Text
end ChatAssistant
