import ChatAssistant.Proofs.Answer.Ceiling
import ChatAssistant.Proofs.Assistant.Provenance

/-!
# Answers are cut once

An answer is cut on its way into the memory, and what is found there later is shown as it is.  That
is enough: what was cut under a ceiling is not changed by the same ceiling again, so no call, in
whatever order the steps of calls come, finds a remembered answer that is still to be cut
(`System.Sound.uncut`).
-/

namespace ChatAssistant
namespace Assistant

open Answer (enforceCeiling truncationNotice Cut)

variable {limits : Limits} {question answer : Text}

/-- What may be remembered is not changed by the ceiling. -/
theorem Rememberable.uncut (h : Rememberable limits question answer) :
    enforceCeiling limits.maxAnswer answer = answer := by
  obtain ⟨request, text, _, rfl⟩ := h
  exact Answer.enforceCeiling_self limits.maxAnswer text

namespace System

variable {s : System}

theorem Sound.uncut (hs : Sound limits s) (e : Text × Text) (he : e ∈ s.cache.entries) :
    enforceCeiling limits.maxAnswer e.2 = e.2 :=
  (hs.rememberable e he).uncut

end System

/-- Two ceilings in a row come to the smaller of them, so that one ceiling in a row with itself, and
with the one that a remembered answer has passed, changes nothing.  Under a ceiling with room for
the notice a text is kept if it fits, and else filled up to the ceiling with the longest start
that leaves room for the notice. -/
theorem answers_cut_once (text : Text) :
    (∀ c₁ c₂, enforceCeiling c₂ (enforceCeiling c₁ text) = enforceCeiling (min c₁ c₂) text) ∧
    (∀ c, enforceCeiling c (enforceCeiling c text) = enforceCeiling c text) ∧
    (∀ limits history s, System.initial.run limits history = some s →
      ∀ e ∈ s.cache.entries, enforceCeiling limits.maxAnswer e.2 = e.2) ∧
    ∀ c, truncationNotice.length ≤ c → Cut c text (enforceCeiling c text) := by
  refine ⟨fun c₁ c₂ => Answer.enforceCeiling_min c₁ c₂ text,
    fun c => Answer.enforceCeiling_self c text, ?_, fun c hc => Answer.cut_enforceCeiling hc text⟩
  intro limits history s hrun
  have hs : System.Sound limits s := System.sound_initial.run hrun
  exact hs.uncut

/-- An article over the ceiling, asked for twice. -/
def longArticleHistory : List System.Event :=
  [.arrive "что такое атом".toList, .move 0 .look, .move 0 (.handle (Fin.last 2)),
    .move 0 (.resume (.found ⟨"Атом".toList, List.replicate 300 'а', "атом".toList⟩)),
    .move 0 .finish, .arrive "что такое атом".toList, .move 1 .look]

theorem answers_cut_once_long_article :
    ∃ s, System.initial.run ⟨100, 500⟩ longArticleHistory = some s ∧
      s.cache.entries.map (·.2.length) = [100] ∧
      (∀ e ∈ s.cache.entries, enforceCeiling 100 e.2 = e.2) ∧
      truncationNotice.length ≤ 100 ∧
      Cut 100 (List.replicate 300 'а') (enforceCeiling 100 (List.replicate 300 'а')) := by
  have hrun : (System.initial.run ⟨100, 500⟩ longArticleHistory).map
      (·.cache.entries.map (·.2.length)) = some [100] := by decide +kernel
  have hroom : truncationNotice.length ≤ 100 := by decide +kernel
  obtain ⟨s, h, hlengths⟩ := Option.map_eq_some_iff.1 hrun
  have hlaw := answers_cut_once (List.replicate 300 'а')
  exact ⟨s, h, hlengths, hlaw.2.2.1 _ _ s h, hroom, hlaw.2.2.2 100 hroom⟩

end Assistant
end ChatAssistant
