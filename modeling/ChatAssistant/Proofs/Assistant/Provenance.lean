import ChatAssistant.Proofs.Assistant.Interleaving
import ChatAssistant.Proofs.Cache

/-!
# Where remembered answers come from

However the steps of calls are mixed, and whichever of them are given up or brought down, the memory
holds for each question only what some call for this very question has replied, and only replies
that rest on no failed request.

* `Legitimate` — the texts that may be remembered for a question;
* `System.Sound` — the invariant: every task got where it is by the handler of its own question, and
  every entry was stored by a task that is still on record;
* `System.provenance` — what follows for every run, from the invariant and from `run_induction`.
-/

namespace ChatAssistant
namespace Assistant

open Encyclopedia (Outcome)

/-! ## Legitimate texts -/

/-- The text may be remembered for the question, given the request that was made for it. -/
inductive Legitimate (limits : Limits) (question : Text) : Option Request → Text → Prop where
  | math (hi : (Intent.classify question).intent = .math) :
      Legitimate limits question none (Problem.answer Float question)
  | general (hi : (Intent.classify question).intent = .general) {text : Text}
      (ht : text ∈ Answer.suggestions question) : Legitimate limits question none text
  | usage (hi : (Intent.classify question).intent = .encyclopedia)
      (hq : Encyclopedia.query question = []) :
      Legitimate limits question none Encyclopedia.usageHint
  | found (hi : (Intent.classify question).intent = .encyclopedia)
      (hq : Encyclopedia.query question ≠ []) (article : Encyclopedia.Article) :
      Legitimate limits question (some ⟨Encyclopedia.query question, .found article⟩)
        (article.toText limits.summary)
  | missing (hi : (Intent.classify question).intent = .encyclopedia)
      (hq : Encyclopedia.query question ≠ []) :
      Legitimate limits question (some ⟨Encyclopedia.query question, .missing⟩)
        (Encyclopedia.notFoundText (Encyclopedia.query question))

variable {limits : Limits} {cache cache' : Cache} {question a text : Text}
  {request : Option Request} {reply : Reply}

theorem mem_suggestions (question : Text) (pick : Answer.Pick) :
    Answer.suggestion question pick ∈ Answer.suggestions question :=
  List.mem_map_of_mem (List.mem_finRange pick)

/-- Replies that are to be remembered are legitimate. -/
theorem Handled.legitimate :
    Handled limits question request (.lasting text) → Legitimate limits question request text := by
  intro h
  cases h with
  | math hi => exact .math hi
  | general hi pick => exact .general hi (mem_suggestions question pick)
  | noQuery hi hq => exact .usage hi hq
  | @looked hi hq outcome _ hr =>
      cases outcome with
      | found article =>
          cases hr
          exact .found hi hq article
      | missing =>
          cases hr
          exact .missing hi hq
      | failed fault =>
          -- a failed request is told in passing, or not at all
          have hpassing := Option.some.inj hr
          split at hpassing
          · cases hpassing
          · cases hpassing
      | crashed => cases hr

/-- Legitimate texts are replies of the handler. -/
theorem Legitimate.handled (h : Legitimate limits question request text) :
    Handled limits question request (.lasting text) := by
  cases h with
  | math hi => exact .math hi
  | general hi ht =>
      obtain ⟨pick, _, rfl⟩ := List.mem_map.1 ht
      exact .general hi pick
  | usage hi hq => exact .noQuery hi hq
  | found hi hq article => exact .looked hi hq rfl
  | missing hi hq => exact .looked hi hq rfl

/-- A problem has one legitimate text. -/
theorem Legitimate.eq_answer (h : Legitimate limits question request text)
    (hm : (Intent.classify question).intent = .math) : text = Problem.answer Float question := by
  cases h with
  | math => rfl
  | general hi => exact absurd (hi.symm.trans hm) (by decide)
  | usage hi => exact absurd (hi.symm.trans hm) (by decide)
  | found hi => exact absurd (hi.symm.trans hm) (by decide)
  | missing hi => exact absurd (hi.symm.trans hm) (by decide)

/-! ## The invariant -/

/-- The answer is a legitimate text for the question, under the ceiling. -/
def Rememberable (limits : Limits) (question answer : Text) : Prop :=
  ∃ request text, Legitimate limits question request text ∧
    answer = Answer.enforceCeiling limits.maxAnswer text

/-- The task got where it is by the handler of its own question, or by an answer to that question
in the memory. -/
inductive Task.Sound (limits : Limits) : Task → Prop where
  | arrived (q : Text) : Sound limits ⟨q, .arrived, none⟩
  | remembered {q a : Text} (h : Rememberable limits q a) : Sound limits ⟨q, .remembered a, none⟩
  | missed (q : Text) : Sound limits ⟨q, .missed, none⟩
  | waiting {q : Text} (h : Asks q) : Sound limits ⟨q, .waiting (Encyclopedia.query q), none⟩
  | replied {q : Text} {r : Option Request} {reply : Reply} (h : Handled limits q r reply) :
      Sound limits ⟨q, .replied reply, r⟩
  | finished {q : Text} {r : Option Request} {reply : Reply} (h : Handled limits q r reply) :
      Sound limits ⟨q, .finished reply, r⟩
  | lost (q : Text) (r : Option Request) : Sound limits ⟨q, .lost, r⟩

/-- The task has stored the entry. -/
def Task.Stored (limits : Limits) (t : Task) (e : Text × Text) : Prop :=
  ∃ text, t = ⟨e.1, .finished (.lasting text), t.request⟩ ∧
    e.2 = Answer.enforceCeiling limits.maxAnswer text

variable {t t' : Task} {m : Move}

theorem Task.Sound.legitimate {e : Text × Text} (hs : t.Sound limits) (h : t.Stored limits e) :
    ∃ text, t.question = e.1 ∧ t.phase = .finished (.lasting text) ∧
      Legitimate limits e.1 t.request text ∧ e.2 = Answer.enforceCeiling limits.maxAnswer text := by
  rcases h with ⟨text, ht, he⟩
  rw [ht] at hs
  cases hs with
  | finished hh => exact ⟨text, by rw [ht], by rw [ht], hh.legitimate, he⟩

/-- A step keeps a task sound if all that it can find in the memory is rememberable. -/
theorem Task.Sound.moved (hs : t.Sound limits)
    (hcache : ∀ e ∈ cache.entries, Rememberable limits e.1 e.2) :
    Moved limits cache m t t' cache' → t'.Sound limits := by
  intro h
  cases h with
  | remembered hc =>
      cases hs
      exact .remembered (hcache _ (Cache.mem_of_lookup? hc))
  | missed =>
      cases hs
      exact .missed _
  | handled hr =>
      cases hs
      exact .replied hr
  | asked ha =>
      cases hs
      exact .waiting ha
  | resumed hr =>
      cases hs with
      | waiting ha => exact .replied (ha.handled hr)
  | finished =>
      cases hs with
      | replied hr => exact .finished hr
  | crashed => exact .lost _ _
  | gaveUp => exact .lost _ _

/-- A step stores one entry at most, and then it is its own. -/
theorem Moved.stored {e : Text × Text} (h : Moved limits cache m t t' cache')
    (he : e ∈ cache'.entries) : e ∈ cache.entries ∨ t'.Stored limits e := by
  cases h with
  | @finished q request reply =>
      cases reply with
      | lasting text =>
          rcases Cache.eq_or_mem_of_mem_store he with rfl | he
          · exact .inr ⟨text, rfl, rfl⟩
          · exact .inl he
      | passing text => exact .inl he
      | failure => exact .inl he
  | _ => exact .inl he

theorem Moved.questions_prefix (h : Moved limits cache m t t' cache') :
    cache.questions <+: cache'.questions := by
  cases h with
  | @finished q request reply =>
      cases reply with
      | lasting text => exact Cache.questions_prefix_store
      | passing text => exact List.prefix_refl _
      | failure => exact List.prefix_refl _
  | _ => exact List.prefix_refl _

namespace System

variable {s s' : System} {event : Event} {history : List Event}

/-- Every task is sound, and every entry was stored by one of them. -/
structure Sound (limits : Limits) (s : System) : Prop where
  tasks : ∀ t ∈ s.tasks, t.Sound limits
  entries : ∀ e ∈ s.cache.entries, ∃ t ∈ s.tasks, t.Stored limits e

theorem sound_initial : Sound limits initial where
  tasks := by
    intro t ht
    cases ht
  entries := by
    intro e he
    cases he

theorem Sound.rememberable (hs : Sound limits s) (e : Text × Text) (he : e ∈ s.cache.entries) :
    Rememberable limits e.1 e.2 := by
  rcases hs.entries e he with ⟨t, ht, hst⟩
  rcases (hs.tasks t ht).legitimate hst with ⟨text, _, _, hl, ha⟩
  exact ⟨t.request, text, hl, ha⟩

/-- A task that has stored its answer stays on record: no step is its own. -/
theorem stored_mem_set {tasks : List Task} {number : Nat} {u : Task} {e : Text × Text}
    (hu : u ∈ tasks) (hst : u.Stored limits e) (ht : tasks[number]? = some t)
    (hm : Moved limits cache m t t' cache') : u ∈ tasks.set number t' := by
  rcases List.mem_iff_getElem?.1 hu with ⟨k, hk⟩
  have hne : number ≠ k := by
    rintro rfl
    rcases hst with ⟨text, hfin, _⟩
    have hut : u = t := Option.some.inj (hk.symm.trans ht)
    exact hm.ne_finished (.lasting text) (by rw [← hut, hfin])
  exact List.mem_iff_getElem?.2 ⟨k, by rw [List.getElem?_set_ne hne, hk]⟩

theorem Sound.step (hs : Sound limits s) (h : s.step limits event = some s') : Sound limits s' := by
  rcases step_cases h with ⟨question, rfl⟩ | ⟨number, m, t, t', cache, ht, hm, rfl⟩
  · -- A new task changes neither the memory nor the other tasks.
    constructor
    · intro u hu
      rcases List.mem_append.1 hu with hu | hu
      · exact hs.tasks u hu
      · rw [List.mem_singleton.1 hu]
        exact .arrived question
    · intro e he
      rcases hs.entries e he with ⟨u, hu, hst⟩
      exact ⟨u, List.mem_append_left _ hu, hst⟩
  · -- A step changes one task, and it may store an entry of this task.
    have hmem : t ∈ s.tasks := List.mem_of_getElem? ht
    have hnumber : number < s.tasks.length := (List.getElem?_eq_some_iff.1 ht).1
    constructor
    · intro u hu
      rcases List.mem_or_eq_of_mem_set hu with hu | rfl
      · exact hs.tasks u hu
      · exact (hs.tasks t hmem).moved hs.rememberable hm
    · intro e he
      rcases hm.stored he with he | hst
      · rcases hs.entries e he with ⟨u, hu, hst⟩
        exact ⟨u, stored_mem_set hu hst ht hm, hst⟩
      · exact ⟨t', List.mem_set hnumber t', hst⟩

theorem Sound.run (hs : Sound limits s) (h : s.run limits history = some s') : Sound limits s' :=
  run_induction Sound.step hs h

/-! ## Runs -/

/-- Questions with an answer keep one, whatever happens. -/
theorem questions_prefix_run (h : s.run limits history = some s') :
    s.cache.questions <+: s'.cache.questions := by
  refine run_induction (P := fun r => s.cache.questions <+: r.cache.questions) ?_
    (List.prefix_refl _) h
  intro r r' event hr hstep
  rcases step_cases hstep with ⟨question, rfl⟩ | ⟨number, m, t, t', cache, _, hm, rfl⟩
  · exact hr
  · exact hr.trans hm.questions_prefix

/-- A call for a problem returns its answer under the ceiling. -/
theorem Sound.answer_math (hs : Sound limits s) (ht : t ∈ s.tasks)
    (ha : t.answer? limits = some a) (hm : (Intent.classify t.question).intent = .math) :
    a = Answer.enforceCeiling limits.maxAnswer (Problem.answer Float t.question) := by
  have hsound := hs.tasks t ht
  cases hsound with
  | remembered h =>
      -- The reply of some other call, but to the same question.
      rcases h with ⟨request, text, hl, rfl⟩
      cases ha
      rw [hl.eq_answer hm]
  | finished h =>
      -- Its own reply: the only handler for a problem is the one for problems.
      cases ha
      rw [h.shown_eq]
      cases h with
      | math => rfl
      | general hi => exact absurd (hi.symm.trans hm) (by decide)
      | noQuery hi => exact absurd (hi.symm.trans hm) (by decide)
      | looked hi => exact absurd (hi.symm.trans hm) (by decide)
  | _ => cases ha

/-- After any run from the start, every entry was stored by a call for its question whose reply was
legitimate, with a request that succeeded if there was one; the questions in the memory are the
first of those in the memory after any further run; and calls for problems return their answers
under the ceiling. -/
theorem provenance (h : initial.run limits history = some s) :
    (∀ q a, (q, a) ∈ s.cache.entries → ∃ t ∈ s.tasks, ∃ text,
      t.question = q ∧ t.phase = .finished (.lasting text) ∧
        Legitimate limits q t.request text ∧ a = Answer.enforceCeiling limits.maxAnswer text) ∧
      (∀ future s', s.run limits future = some s' → s.cache.questions <+: s'.cache.questions) ∧
      ∀ t ∈ s.tasks, ∀ a, t.answer? limits = some a →
        (Intent.classify t.question).intent = .math →
          a = Answer.enforceCeiling limits.maxAnswer (Problem.answer Float t.question) := by
  have hs : Sound limits s := sound_initial.run h
  refine ⟨?_, fun future s' hf => questions_prefix_run hf, ?_⟩
  · intro q a he
    rcases hs.entries (q, a) he with ⟨t, ht, hst⟩
    exact ⟨t, ht, (hs.tasks t ht).legitimate hst⟩
  · intro t ht a ha hm
    exact hs.answer_math ht ha hm

/-- Calls for one problem and for one query, twice each and mixed; a request for the query fails and
a later one brings its task down. -/
def mixedHistory : List Event :=
  [.arrive "2+2".toList, .arrive "что такое атом".toList, .arrive "2+2".toList, .move 0 .look,
    .move 1 .look, .move 2 .look, .move 1 (.handle (Fin.last 2)), .move 2 (.handle (Fin.last 2)),
    .arrive "что такое атом".toList, .move 3 .look, .move 3 (.handle (Fin.last 2)),
    .move 2 .finish, .move 1 (.resume (.failed (.lookupFailed []))),
    .move 0 (.handle (Fin.last 2)), .move 1 .finish, .arrive "что такое атом".toList,
    .move 4 .look, .move 4 (.handle (Fin.last 2)),
    .move 3 (.resume (.found ⟨"Атом".toList, "Частица.".toList, "атом".toList⟩)), .move 0 .finish,
    .move 4 (.resume .crashed), .move 3 .finish, .arrive "2+2".toList, .move 5 .giveUp]

theorem provenance_mixed :
    ∃ s, initial.run ⟨100, 50⟩ mixedHistory = some s ∧
      s.cache.questions = ["2+2".toList, "что такое атом".toList] ∧
      (∀ q a, (q, a) ∈ s.cache.entries → ∃ t ∈ s.tasks, ∃ text,
        t.question = q ∧ t.phase = .finished (.lasting text) ∧
          Legitimate ⟨100, 50⟩ q t.request text ∧ a = Answer.enforceCeiling 100 text) ∧
        (∀ future s', s.run ⟨100, 50⟩ future = some s' →
          s.cache.questions <+: s'.cache.questions) ∧
        ∀ t ∈ s.tasks, ∀ a, t.answer? ⟨100, 50⟩ = some a →
          (Intent.classify t.question).intent = .math →
            a = Answer.enforceCeiling 100 (Problem.answer Float t.question) := by
  have hrun : (initial.run ⟨100, 50⟩ mixedHistory).map (·.cache.questions) =
      some ["2+2".toList, "что такое атом".toList] := by decide +kernel
  rcases Option.map_eq_some_iff.1 hrun with ⟨s, h, hquestions⟩
  exact ⟨s, h, hquestions, provenance h⟩

end System
end Assistant
end ChatAssistant
