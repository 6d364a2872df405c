import ChatAssistant.Proofs.Intent
import ChatAssistant.Proofs.Text.Neighbours

/-!
# What stands around a question

A question that is about something is not made to be about less by what is written around it: no
deciding phrase holds a sigma, so none is lost to a change of the forms in lower case, and the
groups of phrases keep their order.

* `Earliest`, `Decides` — which phrase decides, told from the tables alone;
* `Outranks` — what the intent of a text says about the intents of its parts;
* `classify_surrounded` — every decision is of this kind, and outranks those about the parts.
-/

namespace ChatAssistant
namespace Intent

variable {lower : Text}

/-! ## The phrase that decides -/

/-- The first of `phrases` that stands in the text. -/
def Earliest (phrases : List Text) (lower phrase : Text) : Prop :=
  ∃ before behind, phrases = before ++ phrase :: behind ∧ phrase <:+: lower ∧
    ∀ p ∈ before, ¬ p <:+: lower

/-- The decision for a text in lower case: by the first phrase of the first group that has one in
the text. -/
inductive Decides (lower : Text) : Decision → Prop where
  | math {phrase : Text} (hp : Earliest mathPhrases lower phrase) :
      Decides lower ⟨.math, some phrase⟩
  | encyclopedia {phrase : Text} (hm : ∀ p ∈ mathPhrases, ¬ p <:+: lower)
      (hp : Earliest encyclopediaPhrases lower phrase) :
      Decides lower ⟨.encyclopedia, some phrase⟩
  | general (hm : ∀ p ∈ mathPhrases, ¬ p <:+: lower)
      (he : ∀ p ∈ encyclopediaPhrases, ¬ p <:+: lower) : Decides lower ⟨.general, none⟩

theorem earliest_of_find? {phrases : List Text} {phrase : Text}
    (h : phrases.find? (Text.contains · lower) = some phrase) :
    Earliest phrases lower phrase := by
  obtain ⟨hfound, before, behind, hphrases, hbefore⟩ := List.find?_eq_some_iff_append.1 h
  refine ⟨before, behind, hphrases, Text.contains_iff.1 hfound, ?_⟩
  intro p hp hin
  have hnot := hbefore p hp
  rw [Text.contains_iff.2 hin] at hnot
  cases hnot

theorem not_infix_of_find? {phrases : List Text}
    (h : phrases.find? (Text.contains · lower) = none) : ∀ p ∈ phrases, ¬ p <:+: lower := by
  intro p hp hin
  exact List.find?_eq_none.1 h p hp (Text.contains_iff.2 hin)

theorem decides_decideLowercase (lower : Text) : Decides lower (decideLowercase lower) := by
  cases hm : mathPhrases.find? (Text.contains · lower) with
  | some phrase =>
      have hdecision : decideLowercase lower = ⟨.math, some phrase⟩ := by
        simp [decideLowercase, groups, hm]
      rw [hdecision]
      exact .math (earliest_of_find? hm)
  | none =>
      have hnone := not_infix_of_find? hm
      cases he : encyclopediaPhrases.find? (Text.contains · lower) with
      | some phrase =>
          have hdecision : decideLowercase lower = ⟨.encyclopedia, some phrase⟩ := by
            simp [decideLowercase, groups, hm, he]
          rw [hdecision]
          exact .encyclopedia hnone (earliest_of_find? he)
      | none =>
          have hdecision : decideLowercase lower = ⟨.general, none⟩ := by
            simp [decideLowercase, groups, hm, he]
          rw [hdecision]
          exact .general hnone (not_infix_of_find? he)

/-! ## Parts of a text -/

/-- What the intent of a text says about the intent of one of its parts. -/
structure Outranks (whole part : Intent) : Prop where
  of_math : part = .math → whole = .math
  of_encyclopedia : part = .encyclopedia → whole = .math ∨ whole = .encyclopedia
  general : whole = .general → part = .general

theorem sigmaless_of_mem_mathPhrases : ∀ p ∈ mathPhrases, Text.Sigmaless p := by decide

theorem sigmaless_of_mem_encyclopediaPhrases : ∀ p ∈ encyclopediaPhrases, Text.Sigmaless p := by
  decide

/-- The phrases that a part holds decide the intent of the whole, unless it holds better ones. -/
theorem outranks_of_containsAny {whole part : Text}
    (hm : Text.containsAny mathPhrases part = true → Text.containsAny mathPhrases whole = true)
    (he : Text.containsAny encyclopediaPhrases part = true →
      Text.containsAny encyclopediaPhrases whole = true) :
    Outranks (decideLowercase whole).intent (decideLowercase part).intent := by
  rw [decideLowercase_intent, decideLowercase_intent]
  by_cases hpart : Text.containsAny mathPhrases part = true
  · rw [if_pos hpart, if_pos (hm hpart)]
    exact ⟨fun _ => rfl, nofun, nofun⟩
  · rw [if_neg hpart]
    by_cases hpart' : Text.containsAny encyclopediaPhrases part = true
    · rw [if_pos hpart', if_pos (he hpart')]
      split
      · exact ⟨nofun, fun _ => .inl rfl, nofun⟩
      · exact ⟨nofun, fun _ => .inr rfl, nofun⟩
    · rw [if_neg hpart']
      exact ⟨nofun, nofun, fun _ => rfl⟩

/-- A question is decided by the first phrase of the first group that has one in it, and whatever is
written around it, its intent stays or gives way to a better one. -/
theorem classify_surrounded (question : Text) :
    Decides (Text.lowercase question) (classify question) ∧
      ∀ front back : Text,
        Outranks (classify (front ++ question ++ back)).intent (classify question).intent := by
  refine ⟨decides_decideLowercase _, fun front back => outranks_of_containsAny ?_ ?_⟩
  · intro hm
    exact Text.containsAny_lowercase_append sigmaless_of_mem_mathPhrases hm front back
  · intro he
    exact Text.containsAny_lowercase_append sigmaless_of_mem_encyclopediaPhrases he front back

/-- A letter behind a sigma changes its form, and the phrase in front is found as before. -/
example :
    Text.lowercase "это ΣΣ".toList = "это σς".toList ∧
      Text.lowercase "это ΣΣИ".toList = "это σσи".toList ∧
      (classify "это ΣΣ".toList).intent = .encyclopedia ∧
      (classify "это ΣΣИ".toList).intent = .encyclopedia := by
  decide +kernel

end Intent
end ChatAssistant
