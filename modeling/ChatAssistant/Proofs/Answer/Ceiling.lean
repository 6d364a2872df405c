import ChatAssistant.Answer.Length

/-!
# The ceiling of answers

An answer that is cut ends in the notice, so it is never empty, and under a ceiling with room for
the notice it never exceeds the ceiling: it fills it, with as much of the answer as leaves room for
the notice (`cut_enforceCeiling`).

Under a second ceiling an answer is cut as if it had been under the smaller of the two from the
start (`enforceCeiling_min`).  That holds for ceilings without room for the notice as well: there
the notice is all that is left of an answer, and cutting the notice gives the notice.
-/

namespace ChatAssistant
namespace Answer

variable {ceiling : Nat} {answer : Text}

theorem length_truncationNotice : truncationNotice.length = 26 := by
  decide +kernel

theorem length_enforceCeiling_le (h : truncationNotice.length ≤ ceiling) :
    (enforceCeiling ceiling answer).length ≤ ceiling := by
  rw [enforceCeiling]
  split
  · assumption
  · rw [List.length_append, List.length_take]
    omega

/-- An answer under the ceiling is not cut. -/
theorem enforceCeiling_of_le (h : answer.length ≤ ceiling) :
    enforceCeiling ceiling answer = answer :=
  if_pos h

/-- With more room than the notice takes, the start of an answer is never cut off. -/
theorem head?_enforceCeiling (h : truncationNotice.length < ceiling) :
    (enforceCeiling ceiling answer).head? = answer.head? := by
  rw [enforceCeiling]
  split
  · rfl
  · -- what is left of a long answer holds at least one of its characters
    have hroom : ceiling - truncationNotice.length ≠ 0 := by omega
    cases answer with
    | nil => simp at *
    | cons c rest =>
        obtain ⟨n, hn⟩ := Nat.exists_eq_succ_of_ne_zero hroom
        rw [hn, List.take_succ_cons]
        rfl

/-! ## Cut answers -/

theorem enforceCeiling_of_lt (h : ceiling < answer.length) :
    enforceCeiling ceiling answer =
      answer.take (ceiling - truncationNotice.length) ++ truncationNotice :=
  if_neg (Nat.not_le.2 h)

/-- A cut answer is as long as its ceiling or as the notice. -/
theorem length_enforceCeiling_of_lt (h : ceiling < answer.length) :
    (enforceCeiling ceiling answer).length = max ceiling truncationNotice.length := by
  rw [enforceCeiling_of_lt h, List.length_append, List.length_take]
  omega

/-- What an answer under a ceiling with room for the notice is. -/
structure Cut (ceiling : Nat) (answer shown : Text) : Prop where
  within : shown.length ≤ ceiling
  whole : answer.length ≤ ceiling → shown = answer
  full : ceiling < answer.length → shown.length = ceiling
  /-- The start that is kept holds every other start that leaves room for the notice. -/
  longest : ceiling < answer.length → ∃ kept, kept <+: answer ∧ shown = kept ++ truncationNotice ∧
    ∀ start, start <+: answer → (start ++ truncationNotice).length ≤ ceiling → start <+: kept

theorem cut_enforceCeiling (h : truncationNotice.length ≤ ceiling) (answer : Text) :
    Cut ceiling answer (enforceCeiling ceiling answer) where
  within := length_enforceCeiling_le h
  whole := enforceCeiling_of_le
  full hlong := by rw [length_enforceCeiling_of_lt hlong, Nat.max_eq_left h]
  longest hlong := by
    refine ⟨_, List.take_prefix _ answer, enforceCeiling_of_lt hlong, ?_⟩
    intro start hstart hroom
    rw [List.length_append] at hroom
    exact List.prefix_take_iff.2 ⟨hstart, by omega⟩

/-! ## Two ceilings -/

/-- What one ceiling leaves of an answer is cut under another one as the answer itself is under the
smaller of the two. -/
theorem enforceCeiling_min (c₁ c₂ : Nat) (answer : Text) :
    enforceCeiling c₂ (enforceCeiling c₁ answer) = enforceCeiling (min c₁ c₂) answer := by
  by_cases hfits : answer.length ≤ c₁
  · rw [enforceCeiling_of_le hfits]
    by_cases hle : c₂ ≤ c₁
    · rw [Nat.min_eq_right hle]
    · -- neither ceiling cuts
      have hlarger : answer.length ≤ c₂ := by omega
      rw [Nat.min_eq_left (by omega), enforceCeiling_of_le hlarger, enforceCeiling_of_le hfits]
  · have hlong : c₁ < answer.length := Nat.lt_of_not_le hfits
    have hlength := length_enforceCeiling_of_lt hlong
    by_cases hroom : (enforceCeiling c₁ answer).length ≤ c₂
    · -- the second ceiling has room for what the first one left
      rw [enforceCeiling_of_le hroom, Nat.min_eq_left (by omega)]
    · have hcut : c₂ < (enforceCeiling c₁ answer).length := Nat.lt_of_not_le hroom
      have hboth : min c₁ c₂ < answer.length := by omega
      rw [enforceCeiling_of_lt hcut, enforceCeiling_of_lt hboth, enforceCeiling_of_lt hlong]
      by_cases hnotice : c₁ ≤ truncationNotice.length
      · -- Neither ceiling has room for more than the notice.
        have hsecond : c₂ - truncationNotice.length = 0 := by omega
        have hmin : min c₁ c₂ - truncationNotice.length = 0 := by omega
        rw [hsecond, hmin, List.take_zero, List.take_zero]
      · -- The second ceiling cuts inside of what the first one kept of the answer.
        have hless : c₂ - truncationNotice.length ≤ c₁ - truncationNotice.length := by omega
        have hinside : c₂ - truncationNotice.length ≤
            (answer.take (c₁ - truncationNotice.length)).length := by
          rw [List.length_take]
          omega
        have hmin : min c₁ c₂ = c₂ := Nat.min_eq_right (by omega)
        rw [List.take_append_of_le_length hinside, List.take_take, hmin, Nat.min_eq_left hless]

/-- What fits a ceiling, cut or not, is not cut by it again. -/
theorem enforceCeiling_self (ceiling : Nat) (answer : Text) :
    enforceCeiling ceiling (enforceCeiling ceiling answer) = enforceCeiling ceiling answer := by
  rw [enforceCeiling_min, Nat.min_self]

theorem enforceCeiling_ne_nil (h : answer ≠ []) : enforceCeiling ceiling answer ≠ [] := by
  rw [enforceCeiling]
  split
  · exact h
  · intro hnil
    have hlen := congrArg List.length hnil
    rw [List.length_append, length_truncationNotice] at hlen
    simp at hlen

end Answer
end ChatAssistant
