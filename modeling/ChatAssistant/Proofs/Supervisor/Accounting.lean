import ChatAssistant.Proofs.Assistant.Provenance
import ChatAssistant.Proofs.Supervisor.Delivery

/-!
# Every question is answered once

Whatever comes in between, each question that the loop takes gets one answer, its own; and the count
of answers is right whenever somebody looks at it.

* `Counted` — the count is that of the jobs with a settled answer, so it is never behind the answers
  that went out, and a report is never behind those that went out before it;
* `Computed`, `Honest` — each answer is what the call for its own question has come to; the failure
  text stands only for a call that was brought down or took too long;
* `Job.rank` — each job takes six steps at most, and as long as its response is not out it can take
  one;
* `accounted_of_run` — together.
-/

namespace ChatAssistant
namespace Service

open Assistant (Handled Limits Move Rememberable Reply Request Task)

variable {terms : Terms} {s s' : Service} {event : Event} {history : List Event} {job : Job}
  {number : Nat} {limits : Limits} {question text : Text}

/-! ## The count -/

/-- The answer is settled. -/
def Job.isFinished (job : Job) : Bool := job.stage ≠ .working

/-- The response is out. -/
def Job.isDelivered (job : Job) : Bool :=
  match job.stage with
  | .delivered _ => true
  | .working | .settled _ => false

/-- The response is the answer to a question. -/
def Response.isAnswer : Response → Bool
  | .answer _ => true
  | .report _ | .fault _ => false

/-- A job comes to its answer, by its call or by its time. -/
def Event.isCompletion : Event → Bool
  | .complete _ | .expire _ => true
  | .send _ | .receive | .move _ _ | .deliver _ | .close => false

/-- The number of answers among some responses. -/
def answers (responses : List (Nat × Response)) : Nat := responses.countP (·.2.isAnswer)

/-- The count of answers is right, and so was every report of it. -/
structure Counted (s : Service) : Prop where
  processed : s.processed = s.jobs.countP Job.isFinished
  answers : answers s.responses = s.jobs.countP Job.isDelivered
  reports : ∀ (place ticket : Nat) (report : Status.Report),
    s.responses[place]? = some (ticket, .report report) →
      Service.answers (s.responses.take place) ≤ report.processed

theorem counted_initial : Counted initial := ⟨rfl, rfl, nofun⟩

/-- With one entry replaced, a count changes by that entry alone. -/
theorem countP_set_add {α : Type} {xs : List α} {x y : α} (p : α → Bool)
    (hx : xs[number]? = some x) :
    (xs.set number y).countP p + (if p x then 1 else 0) =
      xs.countP p + (if p y then 1 else 0) := by
  obtain ⟨hnumber, rfl⟩ := List.getElem?_eq_some_iff.1 hx
  have hle := List.boole_getElem_le_countP (p := p) hnumber
  rw [List.countP_set hnumber]
  omega

/-- Responses can follow if each report among them counts all answers up to then. -/
theorem Counted.reports_append {more : List (Nat × Response)} (hc : Counted s)
    (hm : ∀ (ticket : Nat) (report : Status.Report), (ticket, .report report) ∈ more →
      Service.answers (s.responses ++ more) ≤ report.processed)
    {place ticket : Nat} {report : Status.Report}
    (h : (s.responses ++ more)[place]? = some (ticket, .report report)) :
    Service.answers ((s.responses ++ more).take place) ≤ report.processed := by
  by_cases hp : place < s.responses.length
  · rw [List.getElem?_append_left hp] at h
    rw [List.take_append_of_le_length (Nat.le_of_lt hp)]
    exact hc.reports place ticket report h
  · rw [List.getElem?_append_right (Nat.le_of_not_lt hp)] at h
    have hle := (List.take_sublist place (s.responses ++ more)).countP_le (p := (·.2.isAnswer))
    exact Nat.le_trans hle (hm ticket report (List.mem_of_getElem? h))

theorem answers_concat (responses : List (Nat × Response)) (ticket : Nat) (response : Response) :
    Service.answers (responses ++ [(ticket, response)]) =
      Service.answers responses + if response.isAnswer then 1 else 0 := by
  simp [Service.answers, List.countP_append]

/-- Nothing that is thrown away is answered. -/
theorem answers_losses (responses : List (Nat × Response)) (queue : List Letter) :
    Service.answers (responses ++ queue.filterMap (Letter.loss? terms)) =
      Service.answers responses := by
  have hnone : (queue.filterMap (Letter.loss? terms)).countP (·.2.isAnswer) = 0 := by
    rw [List.countP_eq_zero]
    intro loss hloss
    obtain ⟨letter, _, hl⟩ := List.mem_filterMap.1 hloss
    rw [eq_of_loss? hl]
    nofun
  rw [Service.answers, List.countP_append, hnone]
  rfl

theorem isDelivered_le_isFinished (jobs : List Job) :
    jobs.countP Job.isDelivered ≤ jobs.countP Job.isFinished := by
  refine List.countP_mono_left fun job _ hd => ?_
  unfold Job.isDelivered at hd
  split at hd
  · rename_i text hstage
    simp [Job.isFinished, hstage]
  · cases hd
  · cases hd

/-- No answer goes out before it is counted. -/
theorem Counted.answers_le (hc : Counted s) : Service.answers s.responses ≤ s.processed := by
  rw [hc.answers, hc.processed]
  exact isDelivered_le_isFinished s.jobs

/-- A job at the same stage counts the same. -/
theorem countP_set_of_eq {p : Job → Bool} (hj : s.jobs[number]? = some job) (next : Job)
    (hp : p next = p job) : (s.jobs.set number next).countP p = s.jobs.countP p := by
  have h := countP_set_add (y := next) p hj
  rw [hp] at h
  exact Nat.add_right_cancel h

/-- A job that comes to count adds one. -/
theorem countP_set_of_true {p : Job → Bool} (hj : s.jobs[number]? = some job) (next : Job)
    (hp : p job = false) (hn : p next = true) :
    (s.jobs.set number next).countP p = s.jobs.countP p + 1 := by
  have h := countP_set_add (y := next) p hj
  rw [hp, hn] at h
  exact h

theorem Counted.step (hc : Counted s) (h : Stepped terms s event s') : Counted s' := by
  cases h with
  | sent message hl => exact ⟨hc.processed, hc.answers, hc.reports⟩
  | refused message hl =>
      refine ⟨hc.processed, ?_, fun place ticket report => hc.reports_append ?_⟩
      · exact (answers_concat _ _ _).trans hc.answers
      · intro ticket report hmem
        cases List.mem_singleton.1 hmem
  | @began ticket content rest hl hq =>
      have hfinished : (s.jobs ++ [Job.start ticket content]).countP Job.isFinished =
          s.jobs.countP Job.isFinished := by
        simp [List.countP_append, Job.start, Job.isFinished]
      have hdelivered : (s.jobs ++ [Job.start ticket content]).countP Job.isDelivered =
          s.jobs.countP Job.isDelivered := by
        simp [List.countP_append, Job.start, Job.isDelivered]
      exact ⟨hc.processed.trans hfinished.symm, hc.answers.trans hdelivered.symm, hc.reports⟩
  | @reported ticket rest hl hq =>
      refine ⟨hc.processed, ?_, fun place ticket report => hc.reports_append ?_⟩
      · exact (answers_concat _ _ _).trans hc.answers
      · -- The report shows the count as it is, and that is not behind the answers.
        intro ticket' report hmem
        cases List.mem_singleton.1 hmem
        exact Nat.le_trans (Nat.le_of_eq (answers_concat _ _ _)) hc.answers_le
  | ended hl hq => exact ⟨hc.processed, hc.answers, hc.reports⟩
  | @moved number m job task cache hj ha hm =>
      have hfinished := countP_set_of_eq (p := Job.isFinished) hj { job with task := task } rfl
      have hdelivered := countP_set_of_eq (p := Job.isDelivered) hj { job with task := task } rfl
      exact ⟨hc.processed.trans hfinished.symm, hc.answers.trans hdelivered.symm, hc.reports⟩
  | @settled number event job text ht hj hw =>
      have hfinished := countP_set_of_true (p := Job.isFinished) hj
        { job with stage := .settled text } (by simp [Job.isFinished, hw]) rfl
      have hdelivered := countP_set_of_eq (p := Job.isDelivered) hj
        { job with stage := .settled text } (by simp [Job.isDelivered, hw])
      exact ⟨(congrArg (· + 1) hc.processed).trans hfinished.symm,
        hc.answers.trans hdelivered.symm, hc.reports⟩
  | @delivered number job text hj hd =>
      have hfinished := countP_set_of_eq (p := Job.isFinished) hj
        { job with stage := .delivered text } (by simp [Job.isFinished, hd])
      have hdelivered := countP_set_of_true (p := Job.isDelivered) hj
        { job with stage := .delivered text } (by simp [Job.isDelivered, hd]) rfl
      refine ⟨hc.processed.trans hfinished.symm, ?_, fun place ticket report =>
        hc.reports_append ?_⟩
      · exact (answers_concat _ _ _).trans
          ((congrArg (· + 1) hc.answers).trans hdelivered.symm)
      · intro ticket report hmem
        cases List.mem_singleton.1 hmem
  | closed hl =>
      refine ⟨hc.processed, (answers_losses _ _).trans hc.answers,
        fun place ticket report => hc.reports_append ?_⟩
      intro ticket report hmem
      obtain ⟨letter, _, hl⟩ := List.mem_filterMap.1 hmem
      cases eq_of_loss? hl

theorem processed_step (h : Stepped terms s event s') :
    s'.processed = s.processed + if event.isCompletion then 1 else 0 := by
  cases h with
  | settled ht => cases ht <;> rfl
  | _ => rfl

/-- The count is the number of completions. -/
theorem processed_of_run (h : initial.run terms history = some s) :
    s.processed = history.countP Event.isCompletion := by
  refine run_induction_history (P := fun past s => s.processed = past.countP Event.isCompletion)
    ?_ rfl h
  intro past s s' event hs hstep
  calc
    s'.processed = s.processed + if event.isCompletion then 1 else 0 := processed_step hstep
    _ = past.countP Event.isCompletion + if event.isCompletion then 1 else 0 := by rw [hs]
    _ = (past ++ [event]).countP Event.isCompletion := by
      rw [List.countP_append, List.countP_singleton]

/-! ## The answers -/

/-- The text is the answer of the job with this number to its question, by what has happened: the
reply of the handler, an answer to the same question from the memory, or the failure text, if the
request of the call brought it down or its time was over. -/
inductive Computed (limits : Limits) (history : List Event) (number : Nat) (question : Text) :
    Text → Prop where
  | expired (he : .expire number ∈ history) :
      Computed limits history number question Supervisor.failureText
  | crashed (hc : .complete number ∈ history) (hm : .move number (.resume .crashed) ∈ history) :
      Computed limits history number question Supervisor.failureText
  | remembered {text : Text} (hc : .complete number ∈ history)
      (hm : .move number .look ∈ history) (hr : Rememberable limits question text) :
      Computed limits history number question text
  /-- If there was a request, it is the one whose outcome came in for this job. -/
  | replied {request : Option Request} {reply : Reply} (hc : .complete number ∈ history)
      (hm : ∀ r ∈ request, .move number (.resume r.outcome) ∈ history)
      (hh : Handled limits question request reply) :
      Computed limits history number question (reply.shown limits)

/-- The answer that was settled. -/
def Stage.text? : Stage → Option Text
  | .settled text | .delivered text => some text
  | .working => none

/-- Where the job stands goes back to steps of its own, and what was settled is the answer to its
question. -/
structure Job.Honest (limits : Limits) (past : List Event) (number : Nat) (job : Job) : Prop where
  looked : ∀ a, job.task.phase = .remembered a → .move number .look ∈ past
  resumed : ∀ r ∈ job.task.request, .move number (.resume r.outcome) ∈ past
  /-- A call that is lost before its answer is settled was brought down by its request. -/
  crashed : job.stage = .working → job.task.phase = .lost →
    .move number (.resume .crashed) ∈ past
  settled : ∀ text, job.stage.text? = some text →
    Computed limits past number job.task.question text

/-- All calls go the way of their own questions, and so does what was settled. -/
structure Honest (limits : Limits) (past : List Event) (s : Service) : Prop where
  calls : Assistant.System.Sound limits s.calls
  jobs : ∀ (number : Nat) (job : Job), s.jobs[number]? = some job → job.Honest limits past number

section Answers

variable {past : List Event}

theorem Computed.mono (h : Computed limits past number question text) (event : Event) :
    Computed limits (past ++ [event]) number question text := by
  have hkeep {e : Event} (he : e ∈ past) : e ∈ past ++ [event] := List.mem_append_left _ he
  cases h with
  | expired he => exact .expired (hkeep he)
  | crashed hc hm => exact .crashed (hkeep hc) (hkeep hm)
  | remembered hc hm hr => exact .remembered (hkeep hc) (hkeep hm) hr
  | replied hc hm hh => exact .replied (hkeep hc) (fun r hr => hkeep (hm r hr)) hh

theorem Job.Honest.mono (h : job.Honest limits past number) (event : Event) :
    job.Honest limits (past ++ [event]) number where
  looked a ha := List.mem_append_left _ (h.looked a ha)
  resumed r hr := List.mem_append_left _ (h.resumed r hr)
  crashed hw hl := List.mem_append_left _ (h.crashed hw hl)
  settled text ht := (h.settled text ht).mono event

theorem Job.honest_start (ticket : Nat) (content : Text) :
    (Job.start ticket content).Honest limits past number :=
  ⟨nofun, nofun, nofun, nofun⟩

/-- A call that has come to its end was answered for its own question. -/
theorem Job.Honest.computed (h : job.Honest limits past number) (hs : job.task.Sound limits)
    (hw : job.stage = .working) (ht : job.Settles limits number event text) :
    Computed limits (past ++ [event]) number job.task.question text := by
  cases ht with
  | expired => exact .expired List.mem_concat_self
  | completed ht =>
      have hc : Event.complete number ∈ past ++ [.complete number] := List.mem_concat_self
      replace h := h.mono (.complete number)
      obtain ⟨ticket, task, stage⟩ := job
      unfold Job.verdict? at ht
      dsimp only at hs ht
      cases hs with
      | remembered hr =>
          cases ht
          exact .remembered hc (h.looked _ rfl) hr
      | finished hh =>
          cases ht
          exact .replied hc h.resumed hh
      | lost =>
          cases ht
          exact .crashed hc (h.crashed hw rfl)
      | _ => cases ht

/-- A step of the call is on record. -/
theorem Job.Honest.moved (h : job.Honest limits past number) {m : Move} {cache cache' : Cache}
    {task : Task} (ha : job.stage.allows m = true)
    (hm : Assistant.Moved limits cache m job.task task cache') :
    Job.Honest limits (past ++ [.move number m]) number { job with task := task } := by
  have hnow : Event.move number m ∈ past ++ [.move number m] := List.mem_concat_self
  have hold := h.mono (.move number m)
  refine ⟨?_, ?_, ?_, ?_⟩
  · intro a hphase
    rw [← hm.eq_look hphase]
    exact hnow
  · intro r hr
    rcases hm.request_cases hr with hr | rfl
    · exact hold.resumed r hr
    · exact hnow
  · intro hw hphase
    rcases hm.lost_cases hphase with rfl | rfl
    · exact hnow
    · -- as long as its answer is awaited, a call is not given up
      have hw' : job.stage = .working := hw
      rw [hw'] at ha
      cases ha
  · intro text ht
    rw [hm.question_eq]
    exact hold.settled text ht

theorem honest_initial : Honest limits [] initial := ⟨Assistant.System.sound_initial, nofun⟩

/-- To the calls, an event is one of their own, or it is nothing. -/
theorem calls_step (h : Stepped terms s event s') :
    s'.calls = s.calls ∨
      ∃ own, Assistant.System.step terms.setup.limits s.calls own = some s'.calls := by
  cases h with
  | @began ticket content rest hl hq =>
      refine .inr ⟨.arrive content, ?_⟩
      simp [calls, Assistant.System.step, Job.start]
  | @moved number m job task cache hj ha hm =>
      refine .inr ⟨.move number m, ?_⟩
      simp [calls, Assistant.System.step, hj, hm, List.map_set]
  | @settled number event job text ht hj hw =>
      have hjobs := map_set_of_eq (f := Job.task) hj { job with stage := .settled text } rfl
      exact .inl (congrArg (Assistant.System.mk s.cache) hjobs)
  | @delivered number job text hj hd =>
      have hjobs := map_set_of_eq (f := Job.task) hj { job with stage := .delivered text } rfl
      exact .inl (congrArg (Assistant.System.mk s.cache) hjobs)
  | _ => exact .inl rfl

/-- Where one job is replaced, it is the only one that has to be looked at. -/
theorem Honest.jobs_set (hh : Honest limits past s) {next : Job}
    (hn : next.Honest limits (past ++ [event]) number) :
    ∀ (place : Nat) (job : Job), (s.jobs.set number next)[place]? = some job →
      job.Honest limits (past ++ [event]) place := by
  intro place job hjob
  by_cases hp : number = place
  · subst hp
    obtain ⟨hlt, hnext⟩ := List.getElem?_eq_some_iff.1 hjob
    rw [List.getElem_set_self] at hnext
    exact hnext ▸ hn
  · rw [List.getElem?_set_ne hp] at hjob
    exact (hh.jobs place job hjob).mono event

theorem Honest.step (hh : Honest terms.setup.limits past s) (h : Stepped terms s event s') :
    Honest terms.setup.limits (past ++ [event]) s' := by
  have hcalls : Assistant.System.Sound terms.setup.limits s'.calls := by
    rcases calls_step h with hsame | ⟨own, hown⟩
    · rw [hsame]
      exact hh.calls
    · exact hh.calls.step hown
  refine ⟨hcalls, ?_⟩
  have hold (number : Nat) (job : Job) (hj : s.jobs[number]? = some job) :
      job.Honest terms.setup.limits (past ++ [event]) number := (hh.jobs number job hj).mono event
  cases h with
  | @began ticket content rest hl hq =>
      intro number job hjob
      by_cases hp : number < s.jobs.length
      · rw [List.getElem?_append_left hp] at hjob
        exact hold number job hjob
      · rw [List.getElem?_append_right (Nat.le_of_not_lt hp)] at hjob
        rw [List.mem_singleton.1 (List.mem_of_getElem? hjob)]
        exact Job.honest_start ticket content
  | @moved number m job task cache hj ha hm =>
      have hmoved := Assistant.Task.moved_of_move hm
      exact hh.jobs_set ((hh.jobs number job hj).moved ha hmoved)
  | @settled number event job text ht hj hw =>
      have hsound : job.task.Sound terms.setup.limits :=
        hh.calls.tasks _ (List.mem_map_of_mem (List.mem_of_getElem? hj))
      have hjob := hold number job hj
      refine hh.jobs_set ⟨hjob.looked, hjob.resumed, nofun, ?_⟩
      intro text' htext
      cases htext
      exact (hh.jobs number job hj).computed hsound hw ht
  | @delivered number job text hj hd =>
      have hjob := hold number job hj
      refine hh.jobs_set ⟨hjob.looked, hjob.resumed, nofun, ?_⟩
      intro text' htext
      cases htext
      exact hjob.settled text (by rw [hd]; rfl)
  | _ => exact hold

theorem honest_of_run (h : initial.run terms history = some s) :
    Honest terms.setup.limits history s :=
  run_induction_history Honest.step honest_initial h

end Answers

/-! ## The steps of a job -/

/-- The steps that an answer still has to take. -/
def Stage.rank : Stage → Nat
  | .working => 2
  | .settled _ => 1
  | .delivered _ => 0

/-- The steps that the job can still take, at most. -/
def Job.rank (job : Job) : Nat := job.task.phase.rank + job.stage.rank

/-- The steps that the job with this number can still take, at most; all of them if there is no such
job yet. -/
def left (s : Service) (number : Nat) : Nat := (s.jobs[number]?).elim 6 Job.rank

section Places

variable {α : Type} {xs more : List α} {x y : α} {f : α → Nat} {k : Nat}

/-- New entries with the value of a missing one change no value. -/
theorem elim_getElem?_append (h : ∀ x ∈ more, f x = k) (place : Nat) :
    ((xs ++ more)[place]?).elim k f = (xs[place]?).elim k f := by
  by_cases hp : place < xs.length
  · rw [List.getElem?_append_left hp]
  · have hle := Nat.le_of_not_lt hp
    rw [List.getElem?_append_right hle, List.getElem?_eq_none hle]
    cases hx : more[place - xs.length]? with
    | none => rfl
    | some x => exact h x (List.mem_of_getElem? hx)

/-- An entry with a smaller value makes the value at its own place smaller, and no other. -/
theorem elim_getElem?_set (hx : xs[number]? = some x) (hf : f y < f x) (place : Nat) :
    ((xs.set number y)[place]?).elim k f + (if some number = some place then 1 else 0) ≤
      (xs[place]?).elim k f := by
  by_cases hn : number = place
  · subst hn
    have hlt := (List.getElem?_eq_some_iff.1 hx).1
    rw [List.getElem?_set_self hlt, hx, if_pos rfl]
    exact hf
  · rw [List.getElem?_set_ne hn, if_neg fun h => hn (Option.some.inj h)]
    exact Nat.le_refl _

end Places

/-- Each step of a job brings it nearer to its end, and no other event takes it away. -/
theorem left_step (h : Stepped terms s event s') (number : Nat) :
    s'.left number + (if event.job? = some number then 1 else 0) ≤ s.left number := by
  cases h with
  | began hl hq =>
      refine Nat.le_of_eq (elim_getElem?_append (fun job hjob => ?_) number)
      rw [List.mem_singleton.1 hjob]
      rfl
  | @moved number' m job task cache hj ha hm =>
      have hrank := (Assistant.Task.moved_of_move hm).rank_lt
      have hlt : Job.rank { job with task := task } < job.rank := Nat.add_lt_add_right hrank _
      exact elim_getElem?_set hj hlt number
  | @settled number' event job text ht hj hw =>
      have hlt : Job.rank { job with stage := .settled text } < job.rank := by
        simp [Job.rank, Stage.rank, hw]
      rw [ht.job?_eq]
      exact elim_getElem?_set hj hlt number
  | @delivered number' job text hj hd =>
      have hlt : Job.rank { job with stage := .delivered text } < job.rank := by
        simp [Job.rank, Stage.rank, hd]
      exact elim_getElem?_set hj hlt number
  | _ => exact Nat.le_refl _

/-- Each job takes six steps at most. -/
theorem steps_of_run (h : initial.run terms history = some s) (number : Nat) :
    history.countP (·.job? = some number) ≤ 6 := by
  have hstart : initial.left number ≤ 6 := Nat.le_refl 6
  have hrun : s.left number + history.countP (·.job? = some number) ≤ 6 := by
    refine run_induction_history (s := initial)
      (P := fun past s => s.left number + past.countP (·.job? = some number) ≤ 6) ?_ hstart h
    intro past s s' event hs hstep
    have hleft := left_step hstep number
    rw [List.countP_append, List.countP_singleton]
    simp only [decide_eq_true_eq]
    omega
  exact Nat.le_trans (Nat.le_add_left _ _) hrun

/-- As long as the response to its question is not out, a job can take a step. -/
theorem exists_step_of_job (hj : s.jobs[number]? = some job) (hd : job.stage.responses = []) :
    ∃ event, event.job? = some number ∧ (s.step terms event).isSome = true := by
  cases hstage : job.stage with
  | working => exact ⟨.expire number, rfl, by simp [Service.step, hj, hstage]⟩
  | settled text => exact ⟨.deliver number, rfl, by simp [Service.step, hj, hstage]⟩
  | delivered text =>
      rw [hstage] at hd
      cases hd

/-! ## Together -/

/-- The job with this number attends to the question with this ticket. -/
structure Attends (terms : Terms) (history : List Event) (s : Service) (ticket : Nat)
    (content : Text) (number : Nat) : Prop where
  letter : (s.jobs[number]?).map Job.letter = some ⟨ticket, .question content⟩
  steps : history.countP (·.job? = some number) ≤ 6
  /-- The response is still to come, and the job can go on; or it is out, once, and right. -/
  response :
    s.responsesTo ticket = [] ∧
        (∃ event, event.job? = some number ∧ (s.step terms event).isSome = true) ∨
      ∃ text, s.responsesTo ticket = [.answer text] ∧
        Computed terms.setup.limits history number content text

/-- All that was taken is accounted for, in the responses and in the count. -/
structure Accounted (terms : Terms) (history : List Event) (s : Service) : Prop where
  /-- Nothing is taken twice. -/
  tickets : (s.taken.map (·.ticket)).Nodup
  /-- Each question that was taken has a job, for as many steps as it needs, and one response. -/
  questions : ∀ ticket content, ⟨ticket, .question content⟩ ∈ s.taken →
    s.messages[ticket]? = some (.question content) ∧
      ∃ number, Attends terms history s ticket content number
  /-- Nobody else gets an answer. -/
  answered : ∀ ticket text, .answer text ∈ s.responsesTo ticket →
    ∃ content, ⟨ticket, .question content⟩ ∈ s.taken
  /-- There are no other jobs. -/
  jobs : s.jobs.map Job.letter = s.taken.filter Letter.isQuestion
  /-- The count is that of the jobs with a settled answer, however it was settled. -/
  finished : s.processed = s.jobs.countP Job.isFinished
  completed : s.processed = history.countP Event.isCompletion
  processed_le : s.processed ≤ s.taken.length
  /-- Each report counts at least the answers that went out before it. -/
  reports : ∀ (place ticket : Nat) (report : Status.Report),
    s.responses[place]? = some (ticket, .report report) →
      answers (s.responses.take place) ≤ report.processed

/-- The answer of a job is out once it can take no more steps, and it is an answer to its own
question. -/
theorem attends_of_job (ha : Addressed s) (h : initial.run terms history = some s) {ticket : Nat}
    {content : Text} (hj : s.jobs[number]? = some job)
    (hl : job.letter = ⟨ticket, .question content⟩) :
    Attends terms history s ticket content number := by
  have hsteps := steps_of_run h number
  have hresponses := ha.jobs job (List.mem_of_getElem? hj)
  have hsettled := ((honest_of_run h).jobs number job hj).settled
  obtain ⟨ticket', task, stage⟩ := job
  cases hl
  refine ⟨by rw [hj]; rfl, hsteps, ?_⟩
  cases stage with
  | working => exact .inl ⟨hresponses, exists_step_of_job hj rfl⟩
  | settled text => exact .inl ⟨hresponses, exists_step_of_job hj rfl⟩
  | delivered text => exact .inr ⟨text, hresponses, hsettled text rfl⟩

/-- After any history, with any number of callers and in any order of their messages, of the loop
and of the steps of all jobs, everything is accounted for. -/
theorem accounted_of_run (h : initial.run terms history = some s) : Accounted terms history s := by
  obtain ⟨hs, ha⟩ := ordered_addressed_of_run h
  have hc : Counted s := run_induction Counted.step counted_initial h
  refine ⟨?_, ?_, fun ticket text => ha.exists_question hs, hs.jobs, hc.processed,
    processed_of_run h, ?_, hc.reports⟩
  · have hnodup : (s.letters.map (·.ticket)).Nodup := by
      rw [tickets_eq_range]
      exact List.nodup_range
    exact hnodup.sublist (hs.taken.sublist.map _)
  · intro ticket content htaken
    obtain ⟨number, job, hj, hl⟩ := hs.exists_job htaken
    exact ⟨mem_letters_iff.1 (hs.mem_letters htaken), number, attends_of_job ha h hj hl⟩
  · calc
      s.processed = s.jobs.countP Job.isFinished := hc.processed
      _ ≤ s.jobs.length := List.countP_le_length
      _ = (s.taken.filter Letter.isQuestion).length := by rw [← hs.jobs, List.length_map]
      _ ≤ s.taken.length := List.length_filter_le _ _

/-- Four questions and two reports: one job comes to its end, one is brought down by its request,
one takes too long, and the last one finds its answer in the memory. -/
def busyHistory : List Event :=
  [.send (.question "что такое атом".toList), .send .status,
    .send (.question "что такое кварк".toList), .receive, .move 0 .look,
    .send (.question "что такое атом".toList), .receive, .receive, .move 0 (.handle (Fin.last 2)),
    .move 1 .look, .receive, .move 0 (.resume .missing), .move 0 .finish, .expire 2,
    .move 1 (.handle (Fin.last 2)), .complete 0, .move 1 (.resume .crashed), .deliver 0,
    .complete 1, .send .status, .move 2 .look, .receive, .deliver 1,
    .send (.question "что такое атом".toList), .receive, .move 3 .look, .complete 3, .deliver 3,
    .deliver 2]

/-- What is said of an atom that is not found. -/
def missingAtom : Text :=
  ("🔍 По запросу 'атом' ничего не найдено в Wikipedia.\n\nПопробуйте:\n" ++
    "• Другие формулировки\n• Английские термины\n• Более общие запросы").toList

theorem accounted_of_run_busy :
    ∃ s, initial.run ⟨Supervisor.usualSetup, 64, []⟩ busyHistory = some s ∧
      (s.processed, s.responses.map (·.1), s.taken.map (·.ticket)) =
        (4, [1, 0, 4, 2, 5, 3], [0, 1, 2, 3, 4, 5]) ∧
      [0, 2, 3, 5].map s.responsesTo =
        [[.answer missingAtom],
          [.answer "❌ Внутренняя ошибка бота. Попробуйте ещё раз.".toList],
          [.answer "❌ Внутренняя ошибка бота. Попробуйте ещё раз.".toList],
          [.answer missingAtom]] ∧
      Accounted ⟨Supervisor.usualSetup, 64, []⟩ busyHistory s := by
  have hrun : (initial.run ⟨Supervisor.usualSetup, 64, []⟩ busyHistory).map
      (fun s => ((s.processed, s.responses.map (·.1), s.taken.map (·.ticket)),
        [0, 2, 3, 5].map s.responsesTo)) =
      some ((4, [1, 0, 4, 2, 5, 3], [0, 1, 2, 3, 4, 5]),
        [[.answer missingAtom],
          [.answer "❌ Внутренняя ошибка бота. Попробуйте ещё раз.".toList],
          [.answer "❌ Внутренняя ошибка бота. Попробуйте ещё раз.".toList],
          [.answer missingAtom]]) := by decide +kernel
  obtain ⟨s, h, hshown⟩ := Option.map_eq_some_iff.1 hrun
  obtain ⟨hcounts, htexts⟩ := Prod.mk.inj hshown
  exact ⟨s, h, hcounts, htexts, accounted_of_run h⟩

end Service
end ChatAssistant
