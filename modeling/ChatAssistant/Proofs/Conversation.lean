import ChatAssistant.Proofs.Command
import ChatAssistant.Proofs.Supervisor.Shutdown

/-!
# No message is dropped in silence

Whether a message gets a reply is decided by its characters alone, whatever state the service is in
and whatever becomes of the request that the message leads to.  What is said then is never an empty
text.

* `Conversation.Ignored`, `Conversation.IsQuestion` — the messages that nothing is said to, and
  those that go to the assistant;
* `Conversation.Heard`, `Conversation.heard_course` — what the first half of a conversation makes of
  a message;
* `Service.Computed.ne_nil`, `Service.shown_response_ne_nil` — no answer and no response is empty;
* `Service.Attentive`, `Service.attentive_of_run` — what comes of messages in any state.
-/

namespace ChatAssistant

open Assistant (Handled Limits Request Reply)

/-! ## Texts that are shown -/

theorem Command.greeting_ne_nil (firstName : Text) : greeting firstName ≠ [] :=
  Text.append_literal_ne_nil (by decide) _

theorem Status.Report.toText_ne_nil (r : Status.Report) : r.toText ≠ [] := by
  -- behind the last label there is only the count
  apply List.append_ne_nil_of_left_ne_nil
  exact Text.append_literal_ne_nil (by decide) _

theorem Supervisor.failureText_ne_nil : Supervisor.failureText ≠ [] :=
  Text.literal_ne_nil (by decide)

/-! ## What is made of a message -/

namespace Conversation

variable {firstName message : Text} {result : Except Fault Text}

/-- Nothing is said to the message: it is blank, or it calls for something that there is not. -/
def Ignored (message : Text) : Prop :=
  Text.isBlankText message = true ∨
    Command.Slashed message ∧ ¬ Command.Calls "start".toList message ∧
      ¬ Command.Calls "status".toList message

/-- The message goes to the assistant. -/
def IsQuestion (message : Text) : Prop :=
  ¬ Text.isBlankText message = true ∧ ¬ Command.Slashed message

/-- What the first half of a conversation makes of a message. -/
inductive Heard (firstName message : Text) : Course → Prop where
  | start (h : Command.Calls "start".toList message) :
      Heard firstName message (.reply (some (Command.greeting firstName)))
  | status (h : Command.Calls "status".toList message) : Heard firstName message .report
  | ignored (h : Ignored message) : Heard firstName message (.reply none)
  /-- A question is passed on as it is. -/
  | question (h : IsQuestion message) : Heard firstName message (.question message)

theorem heard_course (firstName message : Text) :
    Heard firstName message (course firstName message) := by
  have hmeant := Command.meant_ofText message
  unfold course
  cases hc : Command.ofText message with
  | start =>
      rw [hc] at hmeant
      cases hmeant with
      | start h => exact .start h
  | status =>
      rw [hc] at hmeant
      cases hmeant with
      | status h => exact .status h
  | unknown name =>
      rw [hc] at hmeant
      cases hmeant with
      | unknown hs hstart hstatus => exact .ignored (.inr ⟨hs, hstart, hstatus⟩)
  | question q =>
      rw [hc] at hmeant
      cases hmeant with
      | question hs =>
          dsimp only
          split
          · rename_i hblank
            exact .ignored (.inl hblank)
          · rename_i hblank
            exact .question ⟨hblank, hs⟩

/-- A message that calls for something is not blank. -/
theorem not_isBlankText_of_slashed (h : Command.Slashed message) :
    ¬ Text.isBlankText message = true := by
  intro hblank
  obtain ⟨rest, hrest⟩ := Command.slashed_iff.1 h
  have hnil : message.dropWhile Text.isBlank = [] :=
    List.dropWhile_eq_nil_iff.2 (List.all_eq_true.1 hblank)
  rw [hrest] at hnil
  cases hnil

/-- Each message is heard in one way: nothing is said to it, or it is a question, or it calls for
one of the two commands. -/
theorem not_ignored_of_calls {name : Text} (h : Command.Calls name message)
    (hname : name = "start".toList ∨ name = "status".toList) :
    ¬ Ignored message ∧ ¬ IsQuestion message := by
  have hs := h.slashed
  refine ⟨?_, fun hq => hq.2 hs⟩
  rintro (hblank | ⟨_, hstart, hstatus⟩)
  · exact not_isBlankText_of_slashed hs hblank
  · rcases hname with rfl | rfl
    · exact hstart h
    · exact hstatus h

theorem Ignored.not_isQuestion (h : Ignored message) : ¬ IsQuestion message := by
  rintro ⟨hblank, hs⟩
  rcases h with h | ⟨h, _⟩
  · exact hblank h
  · exact hs h

/-- Whatever comes back in between, a conversation ends without a reply exactly if nothing is said
to its message. -/
theorem finish_eq_none_iff :
    (course firstName message).finish result = none ↔ Ignored message := by
  have hheard := heard_course firstName message
  generalize course firstName message = c at hheard
  cases hheard with
  | start h =>
      have hnot := (not_ignored_of_calls h (.inl rfl)).1
      exact ⟨nofun, fun hi => absurd hi hnot⟩
  | status h =>
      have hnot := (not_ignored_of_calls h (.inr rfl)).1
      exact ⟨nofun, fun hi => absurd hi hnot⟩
  | ignored h => exact ⟨fun _ => h, fun _ => rfl⟩
  | question h => exact ⟨nofun, fun hi => absurd h hi.not_isQuestion⟩

/-- If no empty text comes back, no empty text is the reply. -/
theorem finish_ne_nil (hr : shown result ≠ []) :
    (course firstName message).finish result ≠ some [] := by
  have hheard := heard_course firstName message
  generalize course firstName message = c at hheard
  cases hheard with
  | start h => exact fun hnil => Command.greeting_ne_nil firstName (Option.some.inj hnil)
  | status h => exact fun hnil => hr (Option.some.inj hnil)
  | ignored h => nofun
  | question h => exact fun hnil => hr (Option.some.inj hnil)

/-- What goes out between the halves of a conversation: a question as it is, or the wish for a
report. -/
theorem message?_eq_some_iff {m : Service.Message} :
    (course firstName message).message? = some m ↔
      (IsQuestion message ∧ m = .question message) ∨
        (Command.Calls "status".toList message ∧ m = .status) := by
  have hheard := heard_course firstName message
  generalize course firstName message = c at hheard
  cases hheard with
  | start h =>
      refine ⟨nofun, ?_⟩
      rintro (⟨hq, _⟩ | ⟨hstatus, _⟩)
      · exact absurd hq (not_ignored_of_calls h (.inl rfl)).2
      · exact absurd (h.name_eq hstatus (by decide) (by decide)) (by decide)
  | status h =>
      constructor
      · intro hm
        exact .inr ⟨h, (Option.some.inj hm).symm⟩
      · rintro (⟨hq, _⟩ | ⟨_, rfl⟩)
        · exact absurd hq (not_ignored_of_calls h (.inr rfl)).2
        · rfl
  | ignored h =>
      refine ⟨nofun, ?_⟩
      rintro (⟨hq, _⟩ | ⟨hstatus, _⟩)
      · exact absurd hq h.not_isQuestion
      · exact absurd h (not_ignored_of_calls hstatus (.inr rfl)).1
  | question h =>
      constructor
      · intro hm
        exact .inl ⟨h, (Option.some.inj hm).symm⟩
      · rintro (⟨_, rfl⟩ | ⟨hstatus, _⟩)
        · rfl
        · exact absurd h (not_ignored_of_calls hstatus (.inr rfl)).2

/-- What leads to a message is not passed over. -/
theorem not_ignored_of_message? {m : Service.Message}
    (h : (course firstName message).message? = some m) : ¬ Ignored message := by
  intro hi
  rcases message?_eq_some_iff.1 h with ⟨hq, _⟩ | ⟨hstatus, _⟩
  · exact hi.not_isQuestion hq
  · exact (not_ignored_of_calls hstatus (.inr rfl)).1 hi

end Conversation

namespace Service

variable {s : Service} {terms : Terms} {history : List Event} {limits : Limits} {number : Nat}
  {question text : Text}

theorem rememberable_ne_nil (h : Assistant.Rememberable limits question text) : text ≠ [] := by
  obtain ⟨request, long, hl, rfl⟩ := h
  have hne := hl.handled.shown_ne_nil
  rw [hl.handled.shown_eq] at hne
  exact hne

/-- No answer to a question is empty. -/
theorem Computed.ne_nil (h : Computed limits history number question text) : text ≠ [] := by
  cases h with
  | expired => exact Supervisor.failureText_ne_nil
  | crashed => exact Supervisor.failureText_ne_nil
  | remembered _ _ hr => exact rememberable_ne_nil hr
  | replied _ _ hh => exact hh.shown_ne_nil

/-! ## Answers of the supervisor -/

/-- The memory of a service holds no empty answer. -/
theorem Honest.entry_ne_nil (hh : Honest limits history s) {e : Text × Text}
    (he : e ∈ s.cache.entries) : e.2 ≠ [] :=
  rememberable_ne_nil (hh.calls.rememberable e he)

end Service

namespace Assistant

variable {limits : Limits} {world : World} {cache : Cache} {question a : Text}

/-- If no empty answer is remembered, no call ends with one. -/
theorem answer_ne_nil (hc : ∀ e ∈ cache.entries, e.2 ≠ [])
    (h : (answer limits world cache question).answer = some a) : a ≠ [] := by
  have hcalled := called_answer limits world cache question
  generalize answer limits world cache question = call at hcalled h
  cases hcalled with
  | remembered hl =>
      cases h
      exact hc _ (Cache.mem_of_lookup? hl)
  | handled _ hr =>
      cases h
      exact hr.shown_ne_nil
  | looked _ ha hr =>
      cases h
      exact (ha.handled hr).shown_ne_nil
  | crashed => cases h

end Assistant

namespace Supervisor

variable {s : Supervisor}

/-- If no empty answer is remembered, no question gets one. -/
theorem shown_process_ne_nil (hc : ∀ e ∈ s.cache.entries, e.2 ≠ []) (setup : Setup)
    (world : Assistant.World) (question : Text) :
    Conversation.shown (s.process setup world question).result ≠ [] := by
  by_cases ho : s.isOpen = true
  · rw [process_of_open ho]
    simp only [Conversation.shown, answerInTime]
    split
    · exact failureText_ne_nil
    · split
      · exact failureText_ne_nil
      · cases ha : (Assistant.answer setup.limits world s.cache question).answer with
        | none => exact failureText_ne_nil
        | some a => exact Assistant.answer_ne_nil hc ha
  · rw [process_of_closed ho]
    exact failureText_ne_nil

theorem shown_status_ne_nil (s : Supervisor) (setup : Setup) :
    Conversation.shown ((s.status setup).map Status.Report.toText) ≠ [] := by
  unfold status
  split
  · exact Status.Report.toText_ne_nil _
  · exact failureText_ne_nil

end Supervisor

/-! ## Conversations with nothing else going on -/

namespace Conversation

variable {s : Supervisor} {firstName message : Text}

/-- A conversation ends with what comes back from the supervisor, and no empty text does. -/
theorem exists_finish (hc : ∀ e ∈ s.cache.entries, e.2 ≠ []) (setup : Setup)
    (world : Assistant.World) (firstName message : Text) :
    ∃ result, shown result ≠ [] ∧
      (respond setup world s firstName message).result =
        (course firstName message).finish result := by
  rw [respond_eq_course]
  cases course firstName message with
  | reply text => exact ⟨.error Supervisor.closed, Supervisor.failureText_ne_nil, rfl⟩
  | report => exact ⟨_, Supervisor.shown_status_ne_nil s setup, rfl⟩
  | question q => exact ⟨_, Supervisor.shown_process_ne_nil hc setup world q, rfl⟩

theorem course_of_isQuestion (h : IsQuestion message) (firstName : Text) :
    course firstName message = .question message := by
  have hheard := heard_course firstName message
  generalize course firstName message = c at hheard
  cases hheard with
  | start hcalls => exact absurd h (not_ignored_of_calls hcalls (.inl rfl)).2
  | status hcalls => exact absurd h (not_ignored_of_calls hcalls (.inr rfl)).2
  | ignored hi => exact absurd h hi.not_isQuestion
  | question _ => rfl

theorem respond_of_isQuestion (h : IsQuestion message) (setup : Setup) (world : Assistant.World)
    (s : Supervisor) (firstName : Text) :
    respond setup world s firstName message =
      (s.process setup world message).map fun result => some (shown result) := by
  rw [respond_eq_course, course_of_isQuestion h]
  rfl

theorem respond_of_not_isQuestion (h : ¬ IsQuestion message) (setup : Setup)
    (world : Assistant.World) (s : Supervisor) (firstName : Text) :
    (respond setup world s firstName message).supervisor = s ∧
      (respond setup world s firstName message).queries = [] := by
  rw [respond_eq_course]
  have hheard := heard_course firstName message
  generalize course firstName message = c at hheard
  cases hheard with
  | question hq => exact absurd hq h
  | _ => exact ⟨rfl, rfl⟩

end Conversation

/-! ## Any state of the service -/

namespace Service

open Conversation (Ignored IsQuestion course resultOf)

variable {terms : Terms} {s s' : Service} {event : Event} {history : List Event}

/-- No response is shown as an empty text. -/
theorem shown_response_ne_nil (h : initial.run terms history = some s) {ticket : Nat}
    {response : Response} (hr : response ∈ s.responsesTo ticket) :
    Conversation.shown (resultOf response) ≠ [] := by
  obtain ⟨hs, ha⟩ := ordered_addressed_of_run h
  cases response with
  | report r => exact r.toText_ne_nil
  | fault f => exact Supervisor.failureText_ne_nil
  | answer text =>
      obtain ⟨content, htaken⟩ := ha.exists_question hs hr
      obtain ⟨number, job, hj, hl⟩ := hs.exists_job htaken
      have hattends := attends_of_job ha h hj hl
      rcases hattends.response with ⟨hnone, _⟩ | ⟨answer, hanswer, hcomputed⟩
      · rw [hnone] at hr
        cases hr
      · rw [hanswer] at hr
        cases List.mem_singleton.1 hr
        exact hcomputed.ne_nil

/-- Only a step of a job touches the memory or the count. -/
theorem exists_job_of_touched (h : Stepped terms s event s')
    (hne : s'.cache ≠ s.cache ∨ s'.processed ≠ s.processed) :
    ∃ number job, event.job? = some number ∧ s.jobs[number]? = some job := by
  cases h with
  | moved hj => exact ⟨_, _, rfl, hj⟩
  | settled ht hj => exact ⟨_, _, ht.job?_eq, hj⟩
  | delivered hj => exact ⟨_, _, rfl, hj⟩
  | _ =>
      rcases hne with hcache | hprocessed
      · exact absurd rfl hcache
      · exact absurd rfl hprocessed

/-- What comes of messages while the service is in this state. -/
structure Attentive (terms : Terms) (s : Service) : Prop where
  /-- With nothing else going on, a message has no reply exactly if nothing is said to it, whatever
  the request comes to. -/
  silent : ∀ world firstName message,
    (Conversation.respond terms.setup world s.view firstName message).result = none ↔
      Ignored message
  spoken : ∀ world firstName message,
    (Conversation.respond terms.setup world s.view firstName message).result ≠ some []
  /-- A question goes to the assistant as it is. -/
  question : ∀ world firstName message, IsQuestion message →
    Conversation.respond terms.setup world s.view firstName message =
      (s.view.process terms.setup world message).map fun result =>
        some (Conversation.shown result)
  /-- No other message leaves a trace. -/
  other : ∀ world firstName message, ¬ IsQuestion message →
    (Conversation.respond terms.setup world s.view firstName message).supervisor = s.view ∧
      (Conversation.respond terms.setup world s.view firstName message).queries = []
  /-- Among others, a message is passed on only if it is a question, and then as it is, or calls for
  a report. -/
  sent : ∀ firstName message m, (course firstName message).message? = some m ↔
    (IsQuestion message ∧ m = .question message) ∨
      (Command.Calls "status".toList message ∧ m = .status)
  /-- So it has no reply exactly if nothing is said to it, whatever the response is. -/
  finished : ∀ ticket, ∀ response ∈ s.responsesTo ticket, ∀ firstName message,
    ((course firstName message).finish (resultOf response) = none ↔ Ignored message) ∧
      (course firstName message).finish (resultOf response) ≠ some []
  /-- Nor does it hang on whether there is a response: any fault will do in its place. -/
  unanswered : ∀ fault firstName message,
    ((course firstName message).finish (.error fault) = none ↔ Ignored message) ∧
      (course firstName message).finish (.error fault) ≠ some []
  /-- Each job works on a question that was sent, as it was sent. -/
  verbatim : ∀ job ∈ s.jobs, s.messages[job.ticket]? = some (.question job.task.question)
  /-- Nothing but a step of a job touches the memory or the count. -/
  touched : ∀ event s', s.step terms event = some s' →
    (s'.cache ≠ s.cache ∨ s'.processed ≠ s.processed) →
      ∃ number job, event.job? = some number ∧ s.jobs[number]? = some job

/-- After any history, with any questions at work and before or after a shutdown, it depends on the
characters of a message alone whether there is a reply, and no reply is empty. -/
theorem attentive_of_run (h : initial.run terms history = some s) : Attentive terms s := by
  obtain ⟨hs, ha⟩ := ordered_addressed_of_run h
  have hh : Honest terms.setup.limits history s := honest_of_run h
  have hcache : ∀ e ∈ s.view.cache.entries, e.2 ≠ [] := fun e he => hh.entry_ne_nil he
  constructor
  case silent =>
    intro world firstName message
    obtain ⟨result, _, hresult⟩ :=
      Conversation.exists_finish hcache terms.setup world firstName message
    rw [hresult]
    exact Conversation.finish_eq_none_iff
  case spoken =>
    intro world firstName message
    obtain ⟨result, hshown, hresult⟩ :=
      Conversation.exists_finish hcache terms.setup world firstName message
    rw [hresult]
    exact Conversation.finish_ne_nil hshown
  case question =>
    exact fun world firstName message hq =>
      Conversation.respond_of_isQuestion hq terms.setup world s.view firstName
  case other =>
    exact fun world firstName message hq =>
      Conversation.respond_of_not_isQuestion hq terms.setup world s.view firstName
  case sent => exact fun firstName message m => Conversation.message?_eq_some_iff
  case finished =>
    intro ticket response hr firstName message
    have hshown := shown_response_ne_nil h hr
    exact ⟨Conversation.finish_eq_none_iff, Conversation.finish_ne_nil hshown⟩
  case unanswered =>
    intro fault firstName message
    have hshown : Conversation.shown (.error fault) ≠ [] := Supervisor.failureText_ne_nil
    exact ⟨Conversation.finish_eq_none_iff, Conversation.finish_ne_nil hshown⟩
  case verbatim =>
    intro job hjob
    exact mem_letters_iff.1 (hs.mem_letters (hs.mem_of_job hjob))
  case touched => exact fun event s' hstep hne => exists_job_of_touched (stepped_of_step hstep) hne

/-- A question between blanks, two reports and another question, and the end of the service before
the first answer is out. -/
def chattyHistory : List Event :=
  [.send (.question "  2+2 ".toList), .send .status, .receive, .move 0 .look, .receive,
    .send .shutdown, .move 0 (.handle (Fin.last 2)), .receive, .send (.question "?".toList),
    .move 0 .finish, .complete 0, .close, .deliver 0, .send .status]

theorem attentive_of_run_mixed :
    ∃ s, initial.run ⟨Supervisor.usualSetup, 64, []⟩ chattyHistory = some s ∧
      (s.loop, s.processed, s.responses.map (·.1), s.cache.questions) =
        (.stopped, 1, [1, 3, 0, 4], ["  2+2 ".toList]) ∧
      Attentive ⟨Supervisor.usualSetup, 64, []⟩ s := by
  have hrun : (initial.run ⟨Supervisor.usualSetup, 64, []⟩ chattyHistory).map
      (fun s => (s.loop, s.processed, s.responses.map (·.1), s.cache.questions)) =
        some (.stopped, 1, [1, 3, 0, 4], ["  2+2 ".toList]) := by decide +kernel
  obtain ⟨s, h, hcounts⟩ := Option.map_eq_some_iff.1 hrun
  exact ⟨s, h, hcounts, attentive_of_run h⟩

end Service
end ChatAssistant
