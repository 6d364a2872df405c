import ChatAssistant.Cache

/-!
# What the memory holds after a store

`Cache.store` either replaces the answer of a question or adds the question at the end.  So every
entry afterwards is the stored one or an old one, and the list of remembered questions only grows at
its end.
-/

namespace ChatAssistant
namespace Cache

variable {cache : Cache} {question answer q a : Text} {entries : List (Text × Text)}

/-! ## Entries -/

theorem eq_or_mem_of_mem_insert {e : Text × Text} (h : e ∈ insert question answer entries) :
    e = (question, answer) ∨ e ∈ entries := by
  induction entries with
  | nil => exact .inl (List.mem_singleton.1 h)
  | cons e' rest ih =>
      obtain ⟨k, b⟩ := e'
      rw [insert] at h
      split at h
      · rename_i hk
        rcases List.mem_cons.1 h with rfl | h
        · exact .inl (by rw [hk])
        · exact .inr (List.mem_cons_of_mem _ h)
      · rcases List.mem_cons.1 h with rfl | h
        · exact .inr List.mem_cons_self
        · rcases ih h with h | h
          · exact .inl h
          · exact .inr (List.mem_cons_of_mem _ h)

theorem eq_or_mem_of_mem_store {e : Text × Text} (h : e ∈ (cache.store question answer).entries) :
    e = (question, answer) ∨ e ∈ cache.entries :=
  eq_or_mem_of_mem_insert h

/-- A remembered answer is that of an entry. -/
theorem mem_of_lookup? (h : cache.lookup? q = some a) : (q, a) ∈ cache.entries := by
  rcases List.lookup_eq_some_iff.1 h with ⟨before, behind, hsplit, _⟩
  rw [hsplit]
  exact List.mem_append_right _ List.mem_cons_self

/-! ## Questions -/

/-- The remembered questions, in the order of their first answers. -/
def questions (cache : Cache) : List Text := cache.entries.map (·.1)

theorem map_fst_insert :
    (insert question answer entries).map (·.1) =
      if question ∈ entries.map (·.1) then entries.map (·.1)
      else entries.map (·.1) ++ [question] := by
  induction entries with
  | nil => rfl
  | cons e rest ih =>
      obtain ⟨k, b⟩ := e
      by_cases hk : k = question
      · simp [insert, hk]
      · have hne : question ≠ k := fun h => hk h.symm
        simp only [insert, hk, if_false, List.map_cons, ih, List.mem_cons, hne, false_or]
        split <;> rfl

/-- A new question goes to the end; a known one stays where it is. -/
theorem questions_store :
    (cache.store question answer).questions =
      if question ∈ cache.questions then cache.questions else cache.questions ++ [question] :=
  map_fst_insert

theorem size_eq (cache : Cache) : cache.size = cache.questions.length :=
  (List.length_map _).symm

/-- The remembered questions are those with an answer. -/
theorem mem_questions_iff : q ∈ cache.questions ↔ ∃ a, cache.lookup? q = some a := by
  constructor
  · intro hq
    cases ha : cache.lookup? q with
    | some a => exact ⟨a, rfl⟩
    | none =>
        rcases List.mem_map.1 hq with ⟨e, he, rfl⟩
        have hne := List.lookup_eq_none_iff.1 ha e he
        rw [bne_self_eq_false] at hne
        cases hne
  · rintro ⟨a, ha⟩
    exact List.mem_map_of_mem (mem_of_lookup? ha)

/-- No question is remembered twice. -/
theorem nodup_questions_store (h : cache.questions.Nodup) :
    (cache.store question answer).questions.Nodup := by
  rw [questions_store]
  split
  · exact h
  · rename_i hnew
    rw [List.nodup_append]
    refine ⟨h, by simp, ?_⟩
    intro a ha b hb hab
    rw [List.mem_singleton.1 hb] at hab
    exact hnew (hab ▸ ha)

/-- Storing never drops a question. -/
theorem questions_prefix_store : cache.questions <+: (cache.store question answer).questions := by
  rw [questions_store]
  split
  · exact List.prefix_refl _
  · exact List.prefix_append _ _

end Cache
end ChatAssistant
