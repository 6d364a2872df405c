import ChatAssistant.Proofs.Text.Lowercase
import ChatAssistant.Proofs.Text.Substring

/-!
# Lower case among neighbours

Lower-casing looks beyond a character in one case only: a capital sigma takes one of two small forms
by what stands around it.  So whatever is written around a text, its form in lower case stays the
same but for the forms of sigma, and a phrase that holds neither of them cannot be hidden.

* `map_oneSigma_lowercase` — with the small forms of sigma taken for one, each character has a form
  of its own;
* `Sigmaless`, `contains_lowercase_eq` — phrases for which this makes no difference;
* `contains_lowercase_append` — such a phrase is still found when the text has neighbours.
-/

namespace ChatAssistant
namespace Text

variable {phrase s : Text}

/-! ## Both forms of sigma taken for one -/

/-- The character, with the small forms of sigma taken for one. -/
def oneSigma (c : Char) : Char := if c = 'ς' then 'σ' else c

/-- The form of a character in lower case, with the small forms of sigma taken for one. -/
def looseForm (c : Char) : Text :=
  if c = capitalSigma then ['σ'] else (lowercaseChar c).map oneSigma

theorem map_oneSigma_lowercaseAfter (afterCased : Bool) (s : Text) :
    (lowercaseAfter afterCased s).map oneSigma = s.flatMap looseForm := by
  induction s generalizing afterCased with
  | nil => rfl
  | cons c s ih =>
      rw [lowercaseAfter, List.map_append, ih, List.flatMap_cons]
      congr 1
      unfold looseForm
      -- only the form of a capital sigma hangs on its neighbours
      by_cases hsigma : c = capitalSigma
      · rw [if_pos hsigma, if_pos hsigma]
        split
        · decide
        · decide
      · rw [if_neg hsigma, if_neg hsigma]

theorem map_oneSigma_lowercase (s : Text) : (lowercase s).map oneSigma = s.flatMap looseForm :=
  map_oneSigma_lowercaseAfter false s

/-! ## Phrases without sigma -/

/-- The phrase holds no small sigma. -/
def Sigmaless (phrase : Text) : Prop := 'σ' ∉ phrase ∧ 'ς' ∉ phrase

instance (phrase : Text) : Decidable (Sigmaless phrase) := inferInstanceAs (Decidable (_ ∧ _))

theorem map_oneSigma_eq_self (h : 'ς' ∉ s) : s.map oneSigma = s := by
  have hsame : ∀ c ∈ s, oneSigma c = c := by
    intro c hc
    refine if_neg ?_
    rintro rfl
    exact h hc
  calc
    s.map oneSigma = s.map id := List.map_congr_left hsame
    _ = s := List.map_id s

/-- A text that comes out without sigma had none in it. -/
theorem Sigmaless.of_map (h : Sigmaless (s.map oneSigma)) : s.map oneSigma = s := by
  apply map_oneSigma_eq_self
  intro hfinal
  have hsmall : oneSigma 'ς' = 'σ' := by decide
  exact h.1 (hsmall ▸ List.mem_map_of_mem hfinal)

theorem Sigmaless.contains_map_oneSigma (h : Sigmaless phrase) (s : Text) :
    contains phrase (s.map oneSigma) = contains phrase s := by
  rw [Bool.eq_iff_iff, contains_iff, contains_iff, List.infix_map_iff]
  constructor
  · rintro ⟨part, hpart, rfl⟩
    rwa [h.of_map]
  · intro hpart
    exact ⟨phrase, hpart, (map_oneSigma_eq_self h.2).symm⟩

/-- A phrase without sigma is looked for in forms that hang on no neighbours. -/
theorem Sigmaless.contains_lowercase_eq (h : Sigmaless phrase) (s : Text) :
    contains phrase (lowercase s) = contains phrase (s.flatMap looseForm) := by
  rw [← h.contains_map_oneSigma (lowercase s), map_oneSigma_lowercase]

/-- What is found in a text is found whatever stands around it. -/
theorem Sigmaless.contains_lowercase_append (h : Sigmaless phrase)
    (hs : contains phrase (lowercase s) = true) (front back : Text) :
    contains phrase (lowercase (front ++ s ++ back)) = true := by
  rw [h.contains_lowercase_eq, contains_iff] at hs ⊢
  have hinner : s.flatMap looseForm <:+: (front ++ s ++ back).flatMap looseForm := by
    rw [List.flatMap_append, List.flatMap_append]
    exact List.infix_append _ _ _
  exact hs.trans hinner

/-- So is one of several phrases. -/
theorem containsAny_lowercase_append {phrases : List Text} (h : ∀ p ∈ phrases, Sigmaless p)
    (hs : containsAny phrases (lowercase s) = true) (front back : Text) :
    containsAny phrases (lowercase (front ++ s ++ back)) = true := by
  obtain ⟨p, hp, hfound⟩ := containsAny_iff.1 hs
  exact containsAny_of_mem hp ((h p hp).contains_lowercase_append hfound front back)

end Text
end ChatAssistant
