import ChatAssistant.Proofs.Text.Substring
import ChatAssistant.Question.Intent

/-!
# The phrase that decides

`Intent.classify` searches the groups of phrases in order.  This file reads the search as a
statement about the text: a question is math exactly if its lower-case form holds a math phrase,
and about the encyclopedia exactly if it holds none of those and one of the other group.
-/

namespace ChatAssistant
namespace Intent

/-- The intent depends on nothing but the two tables. -/
theorem decideLowercase_intent (lower : Text) :
    (decideLowercase lower).intent =
      if Text.containsAny mathPhrases lower then .math
      else if Text.containsAny encyclopediaPhrases lower then .encyclopedia
      else .general := by
  have hany (phrases : List Text) :
      Text.containsAny phrases lower = (phrases.find? (Text.contains · lower)).isSome := by
    rw [Bool.eq_iff_iff, List.find?_isSome, Text.containsAny_iff]
  rw [hany, hany]
  cases hm : mathPhrases.find? (Text.contains · lower) with
  | some p => simp [decideLowercase, groups, hm]
  | none =>
      cases he : encyclopediaPhrases.find? (Text.contains · lower) with
      | some p => simp [decideLowercase, groups, hm, he]
      | none => simp [decideLowercase, groups, hm, he]

variable {question : Text}

theorem classify_eq_math_iff :
    (classify question).intent = .math ↔
      Text.containsAny mathPhrases (Text.lowercase question) = true := by
  rw [classify, decideLowercase_intent]
  cases Text.containsAny mathPhrases (Text.lowercase question) with
  | true => simp
  | false => cases Text.containsAny encyclopediaPhrases (Text.lowercase question) <;> simp

theorem classify_ne_math_iff :
    (classify question).intent ≠ .math ↔
      Text.containsAny mathPhrases (Text.lowercase question) = false := by
  rw [ne_eq, classify_eq_math_iff, Bool.not_eq_true]

end Intent
end ChatAssistant
