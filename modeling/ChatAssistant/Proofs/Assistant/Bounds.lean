import ChatAssistant.Config
import ChatAssistant.Proofs.Assistant.Replies
import ChatAssistant.Proofs.Cache

/-!
# The length of answers

Under a configuration that was accepted, every answer is shown under the ceiling, whether it is new
or remembered, with one exception: the apology is not cut.  It has 117 characters, and ceilings from
100 on are accepted, so under the ceilings in between a fault that is no failed lookup leads to an
answer that is too long.

* `Bounded` — the invariant of the memory, kept by every call (`Bounded.answer`) and hence by every
  session (`Bounded.after`);
* `length_of_answer` — no answer is empty, and which ones are too long.
-/

namespace ChatAssistant

/-! ## Accepted configurations -/

/-- What is accepted passes all checks. -/
theorem Config.isValid_of_ofSource {source : Config.Source} {config : Config}
    (h : Config.ofSource source = .ok config) (field : Config.Field) :
    field.isValid config = true := by
  rw [Config.ofSource] at h
  cases hr : Config.read source with
  | error e =>
      rw [hr] at h
      cases h
  | ok c =>
      rw [hr] at h
      have hsplit : (if c.invalidFields.isEmpty then .ok c else .error (.invalid c.invalidFields) :
          Except Config.Error Config) = .ok config := h
      split at hsplit
      · rename_i hempty
        cases hsplit
        have hall : ∀ f ∈ Config.Field.all, f.isValid config = true := by
          simpa [Config.invalidFields, List.filter_eq_nil_iff] using hempty
        exact hall field (by cases field <;> decide)
      · cases hsplit

theorem Config.le_maxAnswer_of_ofSource {source : Config.Source} {config : Config}
    (h : Config.ofSource source = .ok config) : 100 ≤ config.maxAnswer := by
  have hv := Config.isValid_of_ofSource h .maxAnswer
  simp only [Config.Field.isValid, Bool.and_eq_true, decide_eq_true_eq] at hv
  exact hv.1

namespace Assistant

open Encyclopedia (Outcome)

variable {limits : Limits} {world : World} {cache : Cache} {question : Text}
  {request : Option Request} {reply : Reply}

/-! ## Replies -/

theorem length_apology : apology.length = 117 := by
  decide +kernel

/-- The request of a question ends in a fault that is no failed lookup. -/
def Faulty (world : World) (question : Text) : Prop :=
  Asks question ∧ ∃ fault, (world.lookup (Encyclopedia.query question)).outcome = .failed fault ∧
    Encyclopedia.faultMessage? fault = none

theorem Reply.ofOutcome_eq_failure_iff {query : Text} {outcome : Outcome} :
    Reply.ofOutcome limits query outcome = some .failure ↔
      ∃ fault, outcome = .failed fault ∧ Encyclopedia.faultMessage? fault = none := by
  cases outcome with
  | found article => simp [Reply.ofOutcome]
  | missing => simp [Reply.ofOutcome]
  | crashed => simp [Reply.ofOutcome]
  | failed fault =>
      cases hm : Encyclopedia.faultMessage? fault <;> simp [Reply.ofOutcome, hm]

/-- The length of an answer is at least one and at most the ceiling. -/
def Within (limits : Limits) (a : Text) : Prop := 1 ≤ a.length ∧ a.length ≤ limits.maxAnswer

theorem within_enforceCeiling {s : Text} (hroom : 100 ≤ limits.maxAnswer) (hs : s ≠ []) :
    Within limits (Answer.enforceCeiling limits.maxAnswer s) := by
  constructor
  · exact List.length_pos_iff.2 (Answer.enforceCeiling_ne_nil hs)
  · refine Answer.length_enforceCeiling_le ?_
    rw [Answer.length_truncationNotice]
    omega

/-- Every reply but a failure is shown within the bounds. -/
theorem Handled.within (hroom : 100 ≤ limits.maxAnswer)
    (h : Handled limits question request reply) (hf : reply ≠ .failure) :
    Within limits (reply.shown limits) := by
  rw [h.shown_eq]
  cases reply with
  | lasting s => exact within_enforceCeiling hroom (h.text_ne_nil rfl)
  | passing s => exact within_enforceCeiling hroom (h.text_ne_nil rfl)
  | failure => exact absurd rfl hf

theorem Handled.ne_failure (h : Handled limits question none reply) : reply ≠ .failure := by
  rintro rfl
  cases h

/-! ## The memory -/

/-- Every remembered answer is within the bounds. -/
def Bounded (limits : Limits) (cache : Cache) : Prop := ∀ e ∈ cache.entries, Within limits e.2

theorem bounded_empty : Bounded limits .empty := by
  intro e he
  cases he

theorem Bounded.remember (hb : Bounded limits cache) (hroom : 100 ≤ limits.maxAnswer)
    (h : Handled limits question request reply) :
    Bounded limits (reply.remember limits question cache) := by
  cases reply with
  | lasting s =>
      intro e he
      rcases Cache.eq_or_mem_of_mem_store he with rfl | he
      · exact within_enforceCeiling hroom (h.text_ne_nil rfl)
      · exact hb e he
  | passing s => exact hb
  | failure => exact hb

/-- One call keeps the invariant, however its request ends. -/
theorem Bounded.answer (hb : Bounded limits cache) (hroom : 100 ≤ limits.maxAnswer)
    (world : World) (question : Text) :
    Bounded limits (answer limits world cache question).cache := by
  have hcall := called_answer limits world cache question
  generalize Assistant.answer limits world cache question = call at hcall ⊢
  cases hcall with
  | remembered hc => exact hb
  | handled hc hr => exact hb.remember hroom hr
  | looked hc ha hr => exact hb.remember hroom (ha.handled hr)
  | crashed hc ha ho => exact hb

/-! ## Sessions -/

/-- A question and what its call meets. -/
structure Ask where
  question : Text
  world : World

/-- The memory after some questions, one after the other. -/
def after (limits : Limits) : Cache → List Ask → Cache
  | cache, [] => cache
  | cache, ask :: rest => after limits (answer limits ask.world cache ask.question).cache rest

/-- A session keeps the invariant: each of its calls does. -/
theorem Bounded.after (hroom : 100 ≤ limits.maxAnswer) (asks : List Ask)
    (hb : Bounded limits cache) : Bounded limits (after limits cache asks) := by
  induction asks generalizing cache with
  | nil => exact hb
  | cons ask rest ih => exact ih (hb.answer hroom ask.world ask.question)

/-- Whatever was asked before, a question gets an answer unless its request brings the call down.
The answer is not empty, and it exceeds the ceiling exactly if it is the apology for a fault that is
no failed lookup and the ceiling is less than the length of the apology. -/
theorem length_of_answer {source : Config.Source} {config : Config}
    (hc : Config.ofSource source = .ok config) (history : List Ask) (ask : Ask)
    (hup : (ask.world.lookup (Encyclopedia.query ask.question)).outcome ≠ .crashed) :
    ∃ a, (answer config.limits ask.world (after config.limits .empty history)
        ask.question).answer = some a ∧
      1 ≤ a.length ∧
      (a.length ≤ config.maxAnswer ↔
        ¬ (config.maxAnswer < 117 ∧ Faulty ask.world ask.question ∧
          (after config.limits .empty history).lookup? ask.question = none)) := by
  have hroom : 100 ≤ config.limits.maxAnswer := Config.le_maxAnswer_of_ofSource hc
  have hb : Bounded config.limits (after config.limits .empty history) :=
    Bounded.after hroom history bounded_empty
  generalize after config.limits .empty history = cache at hb ⊢
  have hcall := called_answer config.limits ask.world cache ask.question
  generalize Assistant.answer config.limits ask.world cache ask.question = call at hcall ⊢
  cases hcall with
  | @remembered a hl =>
      -- The question has an answer, so the last condition fails.
      have hw : Within config.limits a := hb _ (Cache.mem_of_lookup? hl)
      refine ⟨a, rfl, hw.1, ?_⟩
      simp [hl, show a.length ≤ config.maxAnswer from hw.2]
  | @handled hl reply hr =>
      -- Without a request nothing is faulty.
      have hw := hr.within hroom hr.ne_failure
      refine ⟨_, rfl, hw.1, ?_⟩
      have hnot : ¬ Faulty ask.world ask.question := fun hf => hr.not_asks hf.1
      simp [hnot, show (reply.shown config.limits).length ≤ config.maxAnswer from hw.2]
  | @looked hl ha reply hr =>
      by_cases hf : reply = .failure
      · -- the one reply that is shown as it is
        subst hf
        have hfaulty : Faulty ask.world ask.question := ⟨ha, Reply.ofOutcome_eq_failure_iff.1 hr⟩
        refine ⟨apology, rfl, by rw [length_apology]; omega, ?_⟩
        simp [hl, hfaulty, length_apology]
      · -- a reply under the ceiling, and then the request was not faulty
        have hw := (ha.handled hr).within hroom hf
        refine ⟨_, rfl, hw.1, ?_⟩
        have hnot : ¬ Faulty ask.world ask.question := by
          rintro ⟨_, hfault⟩
          exact hf (Option.some.inj (hr.symm.trans (Reply.ofOutcome_eq_failure_iff.2 hfault)))
        simp [hnot, show (reply.shown config.limits).length ≤ config.maxAnswer from hw.2]
  | crashed hl ha ho => exact absurd ho hup

/-! ## The least ceiling -/

/-- Settings with the least ceiling that is accepted. -/
def tightSource : Config.Source := fun key =>
  [("MAX_ANSWER_CHARS".toList, "100".toList), ("TELEGRAM_API_URL".toList, "chat:/".toList),
    ("WIKIPEDIA_API_URL".toList, "wiki:/".toList),
    ("WIKIPEDIA_PAGE_URL".toList, "wiki:/".toList)].lookup key

def tightConfig : Config :=
  { Config.initial with
    maxAnswer := 100
    chatUrl := "chat:/".toList
    encyclopediaUrl := "wiki:/".toList
    articleUrl := "wiki:/".toList }

theorem tightSource_accepted : Config.ofSource tightSource = .ok tightConfig := by
  have h : (Config.ofSource tightSource).toOption = some tightConfig := by decide +kernel
  cases hc : Config.ofSource tightSource with
  | error e =>
      rw [hc] at h
      cases h
  | ok config =>
      rw [hc] at h
      exact congrArg Except.ok (Option.some.inj h)

/-- An encyclopedia that fails in a way of its own. -/
def faultyWorld : World where
  lookup _ := ⟨0, .failed (.internal "boom".toList)⟩
  pick := Fin.last 2

theorem length_of_answer_tight :
    Config.ofSource tightSource = .ok tightConfig ∧
      (faultyWorld.lookup (Encyclopedia.query "что такое атом".toList)).outcome ≠ .crashed ∧
      ∃ a, (answer tightConfig.limits faultyWorld
          (after tightConfig.limits .empty [⟨"привет".toList, faultyWorld⟩])
          "что такое атом".toList).answer = some a ∧
        1 ≤ a.length ∧
        (a.length ≤ tightConfig.maxAnswer ↔
          ¬ (tightConfig.maxAnswer < 117 ∧ Faulty faultyWorld "что такое атом".toList ∧
            (after tightConfig.limits .empty [⟨"привет".toList, faultyWorld⟩]).lookup?
              "что такое атом".toList = none)) := by
  have hup : (faultyWorld.lookup (Encyclopedia.query "что такое атом".toList)).outcome ≠ .crashed :=
    Encyclopedia.Outcome.noConfusion
  exact ⟨tightSource_accepted, hup, length_of_answer tightSource_accepted _ ⟨_, faultyWorld⟩ hup⟩

/-- Under the least ceiling the apology is too long. -/
theorem apology_exceeds_ceiling :
    Config.ofSource tightSource = .ok tightConfig ∧
      ∃ a, (answer tightConfig.limits faultyWorld .empty "что такое атом".toList).answer = some a ∧
        tightConfig.maxAnswer < a.length := by
  refine ⟨tightSource_accepted, apology, by decide +kernel, ?_⟩
  rw [length_apology]
  decide

end Assistant
end ChatAssistant
