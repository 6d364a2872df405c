import ChatAssistant.Proofs.Cache
import ChatAssistant.Proofs.Supervisor.Session
import Mathlib.Data.List.Dedup

/-!
# What a session remembers

However questions come in, and whatever the encyclopedia does from call to call: the first lasting
answer to a question is the answer to it from then on, without another request, and until then each
call makes the request of the question anew.

* `Recalls` — the invariant of the memory with respect to the visits so far, kept by each visit
  (`Recalls.served`) and so by any number of them (`Recalls.leads`);
* `remembers_first_lasting` — what follows for every session.
-/

namespace ChatAssistant
namespace Supervisor

open Assistant (Requests)

/-! ## Statements about visits -/

/-- The visit gets the answer of the other one from memory. -/
structure Visit.Repeats (v u : Visit) : Prop where
  answer : ∃ text, u.answer = some text ∧ v.answer = some text
  queries : v.queries = []
  memory : v.after = v.before

/-- The questions that got lasting answers, each once. -/
def settled (log : List Visit) : List Text :=
  ((log.filter fun v => v.Lasting).map (·.question)).dedup

theorem mem_settled_iff {log : List Visit} {question : Text} :
    question ∈ settled log ↔ ∃ v ∈ log, v.question = question ∧ v.Lasting := by
  simp only [settled, List.mem_dedup, List.mem_map, List.mem_filter, decide_eq_true_eq]
  constructor
  · rintro ⟨v, ⟨hv, hl⟩, hq⟩
    exact ⟨v, hv, hq, hl⟩
  · rintro ⟨v, hv, hq, hl⟩
    exact ⟨v, ⟨hv, hl⟩, hq⟩

/-! ## The invariant -/

/-- The memory holds the questions with lasting answers, and for each the answer that all its
lasting visits got. -/
structure Recalls (log : List Visit) (cache : Cache) : Prop where
  nodup : cache.questions.Nodup
  questions : ∀ q, q ∈ cache.questions ↔ ∃ v ∈ log, v.question = q ∧ v.Lasting
  answers : ∀ v ∈ log, v.Lasting →
    ∃ text, v.answer = some text ∧ cache.lookup? v.question = some text

variable {log : List Visit} {cache : Cache} {u v : Visit}

theorem recalls_fresh : Recalls [] Cache.empty where
  nodup := List.nodup_nil
  questions := by
    intro q
    simp [Cache.questions, Cache.empty]
  answers := by
    intro v hv
    cases hv

/-- The length of the memory is the number of questions with lasting answers. -/
theorem Recalls.size_eq (h : Recalls log cache) : cache.size = (settled log).length := by
  rw [cache.size_eq]
  have hperm : cache.questions.Perm (settled log) :=
    (List.perm_ext_iff_of_nodup h.nodup (List.nodup_dedup _)).2 fun q =>
      (h.questions q).trans mem_settled_iff.symm
  exact hperm.length_eq

/-- A visit that changes nothing keeps the invariant if its question is settled by its answer, or if
it is not lasting. -/
theorem Recalls.unchanged (h : Recalls log cache)
    (hv : v.Lasting → ∃ text, v.answer = some text ∧ cache.lookup? v.question = some text) :
    Recalls (log ++ [v]) cache where
  nodup := h.nodup
  questions := by
    intro q
    rw [h.questions q]
    constructor
    · rintro ⟨u, hu, hq, hl⟩
      exact ⟨u, List.mem_append_left _ hu, hq, hl⟩
    · rintro ⟨u, hu, hq, hl⟩
      rcases List.mem_append.1 hu with hu | hu
      · exact ⟨u, hu, hq, hl⟩
      · obtain rfl := List.mem_singleton.1 hu
        -- The question was in the memory, so an earlier visit to it was lasting.
        obtain ⟨text, _, hc⟩ := hv hl
        have hmem : q ∈ cache.questions := Cache.mem_questions_iff.2 ⟨text, hq ▸ hc⟩
        exact (h.questions q).1 hmem
  answers := by
    intro u hu hl
    rcases List.mem_append.1 hu with hu | hu
    · exact h.answers u hu hl
    · rw [List.mem_singleton.1 hu] at hl ⊢
      exact hv hl

/-- A visit keeps the invariant. -/
theorem Recalls.served (h : Recalls log v.before) (hv : v.Served) :
    Recalls (log ++ [v]) v.after := by
  cases hv with
  | remembered hc => exact h.unchanged fun _ => ⟨_, rfl, hc⟩
  | passing hc hl hq answer => exact h.unchanged fun hlasting => absurd hlasting hl
  | @lasting question limit world cache queries hc hl hq text =>
      constructor
      · exact Cache.nodup_questions_store h.nodup
      · intro q
        have hstore : q ∈ (cache.store question text).questions ↔
            q = question ∨ q ∈ cache.questions := by
          simp only [Cache.mem_questions_iff, Cache.lookup?_store]
          split
          · simp [*]
          · simp [*]
        rw [hstore, h.questions q]
        constructor
        · rintro (rfl | ⟨u, hu, hq, hlu⟩)
          · exact ⟨_, List.mem_append_right _ List.mem_cons_self, rfl, hl⟩
          · exact ⟨u, List.mem_append_left _ hu, hq, hlu⟩
        · rintro ⟨u, hu, hq, hlu⟩
          rcases List.mem_append.1 hu with hu | hu
          · exact .inr ⟨u, hu, hq, hlu⟩
          · rw [List.mem_singleton.1 hu] at hq
            exact .inl hq.symm
      · intro u hu hlu
        rw [Cache.lookup?_store]
        rcases List.mem_append.1 hu with hu | hu
        · -- An old lasting visit was to another question: this one was not in the memory.
          obtain ⟨a, ha, hca⟩ := h.answers u hu hlu
          have hne : u.question ≠ question := by
            rintro rfl
            rw [hc] at hca
            cases hca
          rw [if_neg hne]
          exact ⟨a, ha, hca⟩
        · rw [List.mem_singleton.1 hu]
          exact ⟨text, rfl, if_pos rfl⟩

/-- Visits that lead from one memory to another keep the invariant. -/
theorem Recalls.leads {log' : List Visit} {cache' : Cache} (h : Recalls log cache)
    (hl : Leads cache log' cache') (hs : ∀ u ∈ log', u.Served) :
    Recalls (log ++ log') cache' := by
  induction log' generalizing log cache with
  | nil =>
      cases hl
      rw [List.append_nil]
      exact h
  | cons u rest ih =>
      obtain ⟨rfl, hrest⟩ := hl
      have hu := h.served (hs u List.mem_cons_self)
      have hnext := ih hu hrest fun w hw => hs w (List.mem_cons_of_mem _ hw)
      rwa [List.append_assoc] at hnext

/-! ## One visit -/

/-- After a lasting visit to its question, a visit repeats its answer. -/
theorem Recalls.repeats (h : Recalls log v.before) (hv : v.Served) (hu : u ∈ log)
    (hq : u.question = v.question) (hl : u.Lasting) : v.Repeats u := by
  obtain ⟨text, ha, hc⟩ := h.answers u hu hl
  rw [hq] at hc
  cases hv with
  | remembered hr =>
      have htext : _ = text := Option.some.inj (hr.symm.trans hc)
      exact ⟨⟨text, ha, by rw [htext]⟩, rfl, rfl⟩
  | lasting hn => exact absurd (hn.symm.trans hc) (by simp)
  | passing hn => exact absurd (hn.symm.trans hc) (by simp)

/-! ## Sessions -/

/-- In every session, with any mix of entries and whatever each call meets: after the first lasting
answer to a question all later calls for it repeat this answer, without a request and without a
change to the memory; before it, each call makes exactly the request of its question; and the memory
has as many entries as questions got lasting answers, after each visit and at the end.  No other
requests are made. -/
theorem remembers_first_lasting (setup : Setup) (hd : 0 < setup.deadline) (steps : List Step) :
    (∀ before v after, visits setup fresh steps = before ++ v :: after →
      (∀ u ∈ before, u.question = v.question → u.Lasting → v.Repeats u) ∧
        ((∀ u ∈ before, u.question = v.question → ¬ u.Lasting) →
          Requests v.question v.queries) ∧
        v.after.size = (settled (before ++ [v])).length) ∧
      (session setup fresh steps).supervisor.cache.size =
        (settled (visits setup fresh steps)).length ∧
      (session setup fresh steps).queries = (visits setup fresh steps).flatMap (·.queries) := by
  have hall := session_accounts hd fresh steps
  refine ⟨?_, (recalls_fresh.leads hall.leads hall.served).size_eq, hall.queries⟩
  intro before v after hsplit
  have hleads := hall.leads
  have hserved := hall.served
  rw [hsplit] at hleads hserved
  have hv : v.Served := hserved v (List.mem_append_right _ List.mem_cons_self)
  have hbefore : Recalls before v.before :=
    recalls_fresh.leads hleads.before fun u hu => hserved u (List.mem_append_left _ hu)
  refine ⟨?_, ?_, (hbefore.served hv).size_eq⟩
  · intro u hu hq hl
    exact hbefore.repeats hv hu hq hl
  · intro hnew
    exact requests_of_visits hd hsplit rfl hnew

/-! ## A session with a failed request -/

/-- An encyclopedia that ends every request in one way. -/
def steadyWorld (outcome : Encyclopedia.Outcome) (pick : Answer.Pick) : Assistant.World where
  lookup _ := ⟨0, outcome⟩
  pick := pick

/-- A query whose first request fails and whose second one succeeds, on three ways, and a greeting
on the console, twice, with other suggestions at hand. -/
def mixedSteps : List Step :=
  [⟨.process "что такое атом".toList,
      fun _ => steadyWorld (.failed (.lookupFailed [])) (Fin.last 2)⟩,
    ⟨.message "Анна".toList "что такое атом".toList, fun _ => steadyWorld .missing (Fin.last 2)⟩,
    ⟨.ask "что такое атом".toList, fun _ => steadyWorld .crashed (Fin.last 2)⟩,
    ⟨.console [104, 105, 10, 104, 105, 10],
      fun n => steadyWorld .missing ⟨n % 3, Nat.mod_lt n (by decide)⟩⟩]

theorem remembers_first_lasting_mixed :
    0 < usualSetup.deadline ∧
      (visits usualSetup fresh mixedSteps).map (fun v => (v.queries, decide v.Lasting)) =
        [(["атом".toList], false), (["атом".toList], true), ([], false), ([], true), ([], true)] ∧
      ((∀ before v after, visits usualSetup fresh mixedSteps = before ++ v :: after →
        (∀ u ∈ before, u.question = v.question → u.Lasting → v.Repeats u) ∧
          ((∀ u ∈ before, u.question = v.question → ¬ u.Lasting) →
            Requests v.question v.queries) ∧
          v.after.size = (settled (before ++ [v])).length) ∧
        (session usualSetup fresh mixedSteps).supervisor.cache.size =
          (settled (visits usualSetup fresh mixedSteps)).length ∧
        (session usualSetup fresh mixedSteps).queries =
          (visits usualSetup fresh mixedSteps).flatMap (·.queries)) := by
  have hd : 0 < usualSetup.deadline := by decide
  refine ⟨hd, ?_, remembers_first_lasting usualSetup hd mixedSteps⟩
  decide +kernel

end Supervisor
end ChatAssistant
