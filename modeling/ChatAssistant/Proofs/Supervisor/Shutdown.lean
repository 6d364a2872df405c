import ChatAssistant.Conversation
import ChatAssistant.Proofs.Supervisor.Accounting

/-!
# The end of the supervisor

A shutdown stands in the channel like any other message, and what comes of the others is decided by
their places alone.  What was taken before it gets its response, even if its job is at work for long
after the end; what stands behind it, or comes when the channel is gone, gets a fault, and leaves no
trace in the memory or in the count.

* `Behind` — the places behind a shutdown;
* `Conversation.course`, `Conversation.Course.finish` — a conversation in two halves, with the
  response of the supervisor between them;
* `Divided`, `divided_of_run` — what comes of each message, and what the conversations show of it.
-/

namespace ChatAssistant

open Service (Message Response)

/-! ## Conversations in two halves -/

namespace Conversation

/-- What a text asks of the supervisor. -/
inductive Course where
  /-- Nothing: there is a reply at once, or none at all. -/
  | reply (text : Option Text)
  | report
  | question (q : Text)
  deriving DecidableEq, Repr

/-- The first half of a conversation, before the supervisor has its say. -/
def course (firstName text : Text) : Course :=
  match Command.ofText text with
  | .start => .reply (some (Command.greeting firstName))
  | .status => .report
  | .unknown _ => .reply none
  | .question q => if Text.isBlankText q then .reply none else .question q

/-- The message that goes out between the halves. -/
def Course.message? : Course → Option Message
  | .reply _ => none
  | .report => some .status
  | .question q => some (.question q)

/-- No text leads to a shutdown. -/
theorem Course.ne_shutdown {c : Course} {m : Message} (h : c.message? = some m) :
    m ≠ .shutdown := by
  cases c with
  | reply text => cases h
  | report =>
      cases h
      nofun
  | question q =>
      cases h
      nofun

/-- The second half, with the result that comes back. -/
def Course.finish (result : Except Fault Text) : Course → Option Text
  | .reply text => text
  | .report | .question _ => some (shown result)

/-- The result in a response. -/
def resultOf : Response → Except Fault Text
  | .answer text => .ok text
  | .report r => .ok r.toText
  | .fault f => .error f

/-- The reply to a text if the supervisor has nothing but a fault: a greeting goes on as ever, and
whatever needs the supervisor fails. -/
def closedReply (firstName text : Text) : Option Text :=
  match Command.ofText text with
  | .start => some (Command.greeting firstName)
  | .status => some Supervisor.failureText
  | .unknown _ => none
  | .question q => if Text.isBlankText q then none else some Supervisor.failureText

/-- A conversation is its two halves, with the result of the supervisor between them. -/
theorem respond_eq_course (setup : Setup) (world : Assistant.World) (s : Supervisor)
    (firstName text : Text) :
    respond setup world s firstName text =
      match course firstName text with
      | .reply text => ⟨text, s, []⟩
      | .report => ⟨Course.report.finish ((s.status setup).map Status.Report.toText), s, []⟩
      | .question q =>
          (s.process setup world q).map fun result => (Course.question q).finish result := by
  unfold respond course
  cases Command.ofText text with
  | question q =>
      dsimp only
      split
      · rfl
      · rfl
  | _ => rfl

/-- A conversation in which a fault comes back ends with the reply for it. -/
theorem finish_fault (firstName text : Text) (f : Fault) :
    (course firstName text).finish (.error f) = closedReply firstName text := by
  unfold course closedReply
  cases Command.ofText text with
  | question q =>
      dsimp only
      split
      · rfl
      · rfl
  | _ => rfl

/-- The replies of a supervisor that takes no messages any more. -/
theorem respond_of_closed {s : Supervisor} (ho : ¬ s.isOpen = true) (setup : Setup)
    (world : Assistant.World) (firstName text : Text) :
    respond setup world s firstName text = ⟨closedReply firstName text, s, []⟩ := by
  have hstatus : s.status setup = .error Supervisor.closed := if_neg ho
  have hprocess := Supervisor.process_of_closed ho setup world
  rw [respond_eq_course, ← finish_fault firstName text Supervisor.closed]
  cases course firstName text with
  | reply text => rfl
  | report =>
      dsimp only
      rw [hstatus]
      rfl
  | question q =>
      dsimp only
      rw [hprocess q]
      rfl

end Conversation

namespace Service

open Assistant (Task)
open Conversation (course closedReply resultOf)

variable {terms : Terms} {s s' : Service} {event : Event} {history : List Event}
  {letter : Letter} {job : Job} {number : Nat}

/-! ## Places in the channel -/

/-- A shutdown was sent before the message at this place. -/
def Behind (s : Service) (ticket : Nat) : Prop :=
  ∃ earlier, earlier < ticket ∧ s.messages[earlier]? = some .shutdown

theorem getElem?_letters (s : Service) (place : Nat) :
    s.letters[place]? = (s.messages[place]?).map (Letter.mk place) := by
  rw [letters, List.getElem?_mapIdx]

/-- What was taken has its place in the channel as its ticket. -/
theorem Ordered.ticket_eq {place : Nat} (hs : Ordered s) (h : s.taken[place]? = some letter) :
    letter.ticket = place := by
  obtain ⟨rest, hrest⟩ := hs.taken
  have hplace := (List.getElem?_eq_some_iff.1 h).1
  have hletters : s.letters[place]? = some letter := by
    rw [← hrest, List.getElem?_append_left hplace, h]
  rw [getElem?_letters] at hletters
  obtain ⟨message, _, rfl⟩ := Option.map_eq_some_iff.1 hletters
  rfl

theorem Ordered.mem_taken_iff (hs : Ordered s) :
    letter ∈ s.taken ↔ letter ∈ s.letters ∧ letter.ticket < s.taken.length := by
  constructor
  · intro h
    obtain ⟨place, hplace⟩ := List.mem_iff_getElem?.1 h
    refine ⟨hs.mem_letters h, ?_⟩
    rw [hs.ticket_eq hplace]
    exact (List.getElem?_eq_some_iff.1 hplace).1
  · rintro ⟨h, hlt⟩
    obtain ⟨rest, hrest⟩ := hs.taken
    have hletters : s.letters[letter.ticket]? = some letter := by
      rw [getElem?_letters, mem_letters_iff.1 h]
      rfl
    rw [← hrest, List.getElem?_append_left hlt] at hletters
    exact List.mem_of_getElem? hletters

/-- A shutdown that was taken is the last letter that was taken. -/
theorem Ordered.length_of_shutdown {ticket : Nat} (hs : Ordered s)
    (h : ⟨ticket, .shutdown⟩ ∈ s.taken) :
    s.loop ≠ .running ∧ s.taken.length = ticket + 1 := by
  have hl : s.loop ≠ .running := fun hl => hs.running hl _ h rfl
  refine ⟨hl, ?_⟩
  obtain ⟨before, last, htaken, hbefore⟩ := hs.ended hl
  have hlast : s.taken[before.length]? = some ⟨last, .shutdown⟩ := by
    rw [htaken]
    exact List.getElem?_concat_length
  have hlength := hs.ticket_eq hlast
  rw [htaken] at h
  rcases List.mem_append.1 h with h | h
  · exact absurd rfl (hbefore _ h)
  · cases List.mem_singleton.1 h
    rw [htaken, List.length_append]
    exact congrArg (· + 1) hlength.symm

/-- Nothing behind a shutdown is taken. -/
theorem Ordered.not_behind (hs : Ordered s) (h : letter ∈ s.taken) : ¬ s.Behind letter.ticket := by
  rintro ⟨earlier, hlt, hearlier⟩
  have hletter := (hs.mem_taken_iff.1 h).2
  have hshutdown : ⟨earlier, .shutdown⟩ ∈ s.taken :=
    hs.mem_taken_iff.2 ⟨mem_letters_iff.2 hearlier, Nat.lt_trans hlt hletter⟩
  have hlength := (hs.length_of_shutdown hshutdown).2
  omega

/-- Once the loop has come to its end, all was taken but what is behind a shutdown. -/
theorem Ordered.mem_taken_of_not_behind (hs : Ordered s) (hl : s.loop ≠ .running)
    (h : letter ∈ s.letters) (hb : ¬ s.Behind letter.ticket) : letter ∈ s.taken := by
  obtain ⟨before, ticket, htaken, _⟩ := hs.ended hl
  have hshutdown : ⟨ticket, .shutdown⟩ ∈ s.taken := by
    rw [htaken]
    exact List.mem_append_right _ List.mem_cons_self
  have hlength := (hs.length_of_shutdown hshutdown).2
  refine hs.mem_taken_iff.2 ⟨h, ?_⟩
  by_contra hge
  exact hb ⟨ticket, by omega, mem_letters_iff.1 (hs.mem_letters hshutdown)⟩

theorem taken_step (h : Stepped terms s event s') :
    s'.taken.length = s.taken.length + if event = .receive then 1 else 0 := by
  cases h with
  | began => exact List.length_append
  | reported => exact List.length_append
  | ended => exact List.length_append
  | settled ht => cases ht <;> rfl
  | _ => rfl

/-- The loop takes one letter at a time. -/
theorem taken_of_run (h : initial.run terms history = some s) :
    s.taken.length = history.count .receive := by
  refine run_induction_history (P := fun past s => s.taken.length = past.count .receive) ?_ rfl h
  intro past s s' event hs hstep
  have htaken := taken_step hstep
  rw [htaken, hs, List.count_append, List.count_singleton]
  simp only [beq_iff_eq]

/-- As long as the loop runs, it has not come to any shutdown. -/
theorem Ordered.length_le_of_running {earlier : Nat} (hs : Ordered s) (hl : s.loop = .running)
    (h : s.messages[earlier]? = some .shutdown) : s.taken.length ≤ earlier := by
  by_contra hlt
  have hshutdown : ⟨earlier, .shutdown⟩ ∈ s.taken :=
    hs.mem_taken_iff.2 ⟨mem_letters_iff.2 h, Nat.lt_of_not_le hlt⟩
  exact (hs.length_of_shutdown hshutdown).1 hl

/-- As long as the channel is there, what is behind a shutdown is not the last word: the loop can
take a letter, or the channel can go. -/
theorem Ordered.exists_step {ticket : Nat} (hs : Ordered s) (hb : s.Behind ticket)
    (hl : s.loop ≠ .stopped) :
    ∃ event ∈ [Event.receive, .close], (s.step terms event).isSome = true := by
  cases hloop : s.loop with
  | running =>
      have hline := hs.line hl
      cases hq : s.queue with
      | nil =>
          -- With nothing left in the channel the shutdown was taken.
          obtain ⟨earlier, _, hearlier⟩ := hb
          have hletter : ⟨earlier, .shutdown⟩ ∈ s.letters := mem_letters_iff.2 hearlier
          rw [← hline, hq, List.append_nil] at hletter
          exact absurd hloop (hs.length_of_shutdown hletter).1
      | cons letter rest =>
          refine ⟨.receive, List.mem_cons_self, ?_⟩
          simp [Service.step, hloop, hq]
  | stopping =>
      refine ⟨.close, List.mem_cons_of_mem _ List.mem_cons_self, ?_⟩
      simp [Service.step, hloop]
  | stopped => exact absurd hloop hl

/-- What is behind a shutdown has no response as long as the channel is there. -/
theorem Addressed.responsesTo_of_behind {ticket : Nat} (ha : Addressed s) (hs : Ordered s)
    (hb : s.Behind ticket) (hl : s.loop ≠ .stopped) : s.responsesTo ticket = [] := by
  by_cases ht : ticket < s.messages.length
  · have hletter : ⟨ticket, s.messages[ticket]⟩ ∈ s.letters :=
      mem_letters_iff.2 (List.getElem?_eq_getElem ht)
    have hline := hs.line hl
    rw [← hline] at hletter
    rcases List.mem_append.1 hletter with htaken | hqueue
    · exact absurd hb (hs.not_behind htaken)
    · exact ha.queued _ hqueue
  · exact ha.unsent ticket (Nat.le_of_not_lt ht)

/-- What is behind a shutdown gets a fault with the end of the channel. -/
theorem Addressed.fault_of_behind {ticket : Nat} {message : Message} (ha : Addressed s)
    (hs : Ordered s) (h : ⟨ticket, message⟩ ∈ s.letters) (hb : s.Behind ticket)
    (hm : message ≠ .shutdown) (hl : s.loop = .stopped) :
    ∃ detail, s.responsesTo ticket = [.fault (.unavailable detail)] := by
  have hnot : ⟨ticket, message⟩ ∉ s.taken := fun htaken => hs.not_behind htaken hb
  rcases ha.lost hl _ h hnot with ⟨hshutdown, _⟩ | hfault
  · exact absurd hshutdown hm
  · exact hfault

/-! ## What comes of each message -/

/-- A shutdown divides the messages into those that are dealt with and those that are lost. -/
structure Divided (terms : Terms) (history : List Event) (s : Service) : Prop where
  /-- What is behind a shutdown is never taken. -/
  taken : ∀ letter ∈ s.taken, ¬ s.Behind letter.ticket
  /-- Once the loop has come to its end, all else was taken. -/
  rest : s.loop ≠ .running → ∀ letter ∈ s.letters, ¬ s.Behind letter.ticket → letter ∈ s.taken
  /-- What was taken gets its response, whether the loop still runs or not. -/
  questions : ∀ ticket content, ⟨ticket, .question content⟩ ∈ s.taken →
    ∃ number, Attends terms history s ticket content number
  reports : ∀ ticket, ⟨ticket, .status⟩ ∈ s.taken →
    ∃ report, s.responsesTo ticket = [.report report]
  /-- Only jobs for letters that were taken are counted. -/
  counted : s.processed = s.jobs.countP Job.isFinished ∧ ∀ job ∈ s.jobs, job.letter ∈ s.taken
  /-- Each answer in the memory was put there by a job for a letter that was taken. -/
  cached : ∀ entry ∈ s.cache.entries, ∃ job ∈ s.jobs, job.letter ∈ s.taken ∧
    job.task.Stored terms.setup.limits entry
  /-- What is behind a shutdown waits as long as there is a channel; the loop can take a letter
  then, or the channel can go. -/
  waiting : ∀ ticket, s.Behind ticket → s.loop ≠ .stopped →
    s.responsesTo ticket = [] ∧
      ∃ event ∈ [Event.receive, .close], (s.step terms event).isSome = true
  /-- The loop runs for no more letters than there are before a shutdown. -/
  nearer : ∀ (earlier : Nat), s.messages[earlier]? = some .shutdown → s.loop = .running →
    history.count .receive ≤ earlier
  /-- Without a channel, what is behind a shutdown has got a fault and nothing else. -/
  lost : ∀ ticket message, ⟨ticket, message⟩ ∈ s.letters → s.Behind ticket →
    message ≠ .shutdown → s.loop = .stopped →
      ∃ detail, s.responsesTo ticket = [.fault (.unavailable detail)]
  /-- In a conversation the fault shows as the failure text. -/
  shown : ∀ firstName text message ticket,
    (course firstName text).message? = some message → ⟨ticket, message⟩ ∈ s.letters →
      s.Behind ticket → s.loop = .stopped →
        (s.responsesTo ticket).map (fun r => (course firstName text).finish (resultOf r)) =
          [closedReply firstName text]
  /-- A text that leads to no message has the same reply as ever. -/
  atOnce : ∀ firstName text, (course firstName text).message? = none →
    course firstName text = .reply (closedReply firstName text)
  /-- So it is for all that comes in after the end. -/
  later : s.loop ≠ .running → ∀ world firstName text,
    Conversation.respond terms.setup world s.view firstName text =
      ⟨closedReply firstName text, s.view, []⟩

/-- After any history, with shutdowns at any places among the messages and any jobs still at work,
the messages are divided by the first shutdown. -/
theorem divided_of_run (h : initial.run terms history = some s) : Divided terms history s := by
  obtain ⟨hs, ha⟩ := ordered_addressed_of_run h
  have hc : Counted s := run_induction Counted.step counted_initial h
  have hh : Honest terms.setup.limits history s := honest_of_run h
  have htaken := taken_of_run h
  constructor
  case taken => exact fun letter hletter => hs.not_behind hletter
  case rest => exact fun hl letter hletter hb => hs.mem_taken_of_not_behind hl hletter hb
  case questions =>
    intro ticket content hmem
    obtain ⟨number, job, hj, hl⟩ := hs.exists_job hmem
    exact ⟨number, attends_of_job ha h hj hl⟩
  case reports => exact fun ticket hmem => ha.taken _ hmem
  case counted => exact ⟨hc.processed, fun job hjob => hs.mem_of_job hjob⟩
  case cached =>
    intro entry hentry
    obtain ⟨task, htask, hstored⟩ := hh.calls.entries entry hentry
    obtain ⟨job, hjob, rfl⟩ := List.mem_map.1 htask
    exact ⟨job, hjob, hs.mem_of_job hjob, hstored⟩
  case waiting =>
    exact fun ticket hb hl => ⟨ha.responsesTo_of_behind hs hb hl, hs.exists_step hb hl⟩
  case nearer =>
    intro earlier hearlier hl
    rw [← htaken]
    exact hs.length_le_of_running hl hearlier
  case lost => exact fun ticket message hletter hb hm hl => ha.fault_of_behind hs hletter hb hm hl
  case shown =>
    intro firstName text message ticket hm hletter hb hl
    have hne := Conversation.Course.ne_shutdown hm
    obtain ⟨detail, hfault⟩ := ha.fault_of_behind hs hletter hb hne hl
    rw [hfault]
    exact congrArg (fun text => [text]) (Conversation.finish_fault firstName text _)
  case atOnce =>
    intro firstName text hm
    have hfinish := Conversation.finish_fault firstName text Supervisor.closed
    cases hcourse : course firstName text with
    | reply text =>
        rw [hcourse] at hfinish
        exact congrArg Conversation.Course.reply hfinish
    | report =>
        rw [hcourse] at hm
        cases hm
    | question q =>
        rw [hcourse] at hm
        cases hm
  case later =>
    intro hl world firstName text
    have ho : ¬ s.view.isOpen = true := by simpa [view] using hl
    exact Conversation.respond_of_closed ho terms.setup world firstName text

/-- A question and a report, a shutdown, and a question and a report behind it; a question that
still finds the channel, and one that does not; the answer to the first one comes last. -/
def lastHistory : List Event :=
  [.send (.question "что такое атом".toList), .send .status, .send .shutdown, .receive,
    .send (.question "что такое кварк".toList), .move 0 .look, .receive, .send .status, .receive,
    .move 0 (.handle (Fin.last 2)), .send (.question "что такое атом".toList), .close,
    .send (.question "что такое атом".toList), .move 0 (.resume .missing), .move 0 .finish,
    .complete 0, .deliver 0]

theorem divided_of_run_last :
    ∃ s, initial.run ⟨Supervisor.usualSetup, 64, []⟩ lastHistory = some s ∧
      (s.processed, s.responses.map (·.1), s.taken.map (·.ticket), s.cache.questions) =
        (1, [1, 3, 4, 5, 6, 0], [0, 1, 2], ["что такое атом".toList]) ∧
      Divided ⟨Supervisor.usualSetup, 64, []⟩ lastHistory s := by
  have hrun : (initial.run ⟨Supervisor.usualSetup, 64, []⟩ lastHistory).map
      (fun s => (s.processed, s.responses.map (·.1), s.taken.map (·.ticket), s.cache.questions)) =
        some (1, [1, 3, 4, 5, 6, 0], [0, 1, 2], ["что такое атом".toList]) := by
    decide +kernel
  obtain ⟨s, h, hcounts⟩ := Option.map_eq_some_iff.1 hrun
  exact ⟨s, h, hcounts, divided_of_run h⟩

end Service
end ChatAssistant
