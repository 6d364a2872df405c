import ChatAssistant.Text.Blank

/-!
# Texts inside texts

Searching a text for a phrase and replacing every occurrence of a phrase. Occurrences are taken
from the left and do not overlap. The main statement is `contains_iff`: the search succeeds exactly
if the phrase is an infix.
-/

namespace ChatAssistant
namespace Text

def contains (phrase : Text) : Text → Bool
  | [] => phrase.isEmpty
  | c :: r => phrase.isPrefixOf (c :: r) || contains phrase r

def containsAny (phrases : List Text) (s : Text) : Bool := phrases.any (contains · s)

theorem contains_iff {phrase s : Text} : contains phrase s = true ↔ phrase <:+: s := by
  induction s with
  | nil => simp [contains]
  | cons c r ih => simp [contains, ih, List.infix_cons_iff]

/-- `replaceFrom phrase new skip s` skips the first `skip` characters of `s`, which belong to an
occurrence already replaced, and goes on with the rest. -/
def replaceFrom (phrase new : Text) : Nat → Text → Text
  | _, [] => []
  | k + 1, _ :: r => replaceFrom phrase new k r
  | 0, c :: r =>
    if phrase.isPrefixOf (c :: r) then new ++ replaceFrom phrase new (phrase.length - 1) r
    else c :: replaceFrom phrase new 0 r

/-- `s` with each occurrence of the non-empty `phrase` replaced by `new`. -/
def replaceAll (phrase new s : Text) : Text := replaceFrom phrase new 0 s

theorem replaceAll_of_not_contains {phrase new s : Text} (h : contains phrase s = false) :
    replaceAll phrase new s = s := by
  induction s with
  | nil => rfl
  | cons c r ih =>
    simp only [contains, Bool.or_eq_false_iff] at h
    have := ih h.2
    simp_all [replaceAll, replaceFrom]

/-- The maximal runs of characters of `s` that satisfy `p`. -/
def runs (p : Char → Bool) (s : Text) : List Text :=
  match _h : s.dropWhile (!p ·) with
  | [] => []
  | c :: r => (c :: r.takeWhile p) :: runs p (r.dropWhile p)
termination_by s.length
decreasing_by
  have h₁ := length_dropWhile_le (!p ·) s
  have h₂ := length_dropWhile_le p r
  rw [_h, List.length_cons] at h₁
  omega

end Text
end ChatAssistant
