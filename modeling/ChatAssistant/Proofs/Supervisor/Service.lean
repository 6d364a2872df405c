import ChatAssistant.Proofs.Assistant.Interleaving
import ChatAssistant.Proofs.Supervisor.Session

/-!
# The supervisor at work

Callers send their messages at any time and from anywhere.  A channel of limited room keeps them in
order for the loop of the supervisor, which takes one after the other and never waits: a question
gets a job of its own, a report is made at once, and a shutdown ends the loop.  The jobs go on side
by side, each with its call of the assistant and with a deadline, and they outlive the loop; the
channel does not, and what is left in it is thrown away with it.

* `Service.step`, `Service.run` — one event at a time, in any order in which they can happen;
* `Service.Stepped` — all that an event can do;
* `Service.run_process`, `Service.run_status`, `Service.run_shutdown`, `Service.step_refused` — with
  nothing else going on, a message comes to what `Supervisor` says of it.

Counting an answer and sending it are steps of their own.  A deadline may pass at any time before
the answer is settled: how long things take is not said here.
-/

namespace ChatAssistant

namespace Service

open Assistant (Limits Move Task)

/-! ## Messages and responses -/

/-- What a caller can send. -/
inductive Message where
  | question (content : Text)
  | status
  | shutdown
  deriving DecidableEq, Repr

/-- What a caller can get back. -/
inductive Response where
  | answer (text : Text)
  | report (r : Status.Report)
  | fault (f : Fault)
  deriving DecidableEq, Repr

/-- A message on its way.  The ticket is the address of its response. -/
structure Letter where
  ticket : Nat
  message : Message
  deriving DecidableEq, Repr

/-- What the service builds on. -/
structure Terms where
  setup : Setup
  /-- The number of letters that the channel holds. -/
  capacity : Nat
  /-- What the channel says of a letter that was thrown away. -/
  thrownAway : Text

/-! ## Jobs -/

/-- How far the answer to a question has come. -/
inductive Stage where
  | working
  /-- The answer is settled and counted. -/
  | settled (text : Text)
  /-- The response is out. -/
  | delivered (text : Text)
  deriving DecidableEq, Repr

/-- The work on one question. -/
structure Job where
  ticket : Nat
  /-- The call of the assistant. -/
  task : Task
  stage : Stage
  deriving DecidableEq, Repr

/-- A job for a question that was just taken. -/
def Job.start (ticket : Nat) (content : Text) : Job := ⟨ticket, ⟨content, .arrived, none⟩, .working⟩

/-- The letter that the job is for. -/
def Job.letter (job : Job) : Letter := ⟨job.ticket, .question job.task.question⟩

/-- The steps that the call may take.  It is given up once its answer is settled without it, and up
to that moment it may still go on. -/
def Stage.allows : Stage → Move → Bool
  | .working, .giveUp => false
  | _, _ => true

/-- The answer of a call that has come to its end: the one that it returns, or the failure text if
it was brought down. -/
def Job.verdict? (limits : Limits) (job : Job) : Option Text :=
  match job.task.phase with
  | .lost => some Supervisor.failureText
  | _ => job.task.answer? limits

/-- The loop that takes the letters. -/
inductive Loop where
  | running
  /-- No more letters are taken, but the channel is still there. -/
  | stopping
  | stopped
  deriving DecidableEq, Repr

end Service

open Service in
/-- All that is going on. -/
structure Service where
  cache : Cache
  /-- The questions with a settled answer. -/
  processed : Nat
  loop : Loop
  /-- The letters in the channel, in the order in which they were sent. -/
  queue : List Letter
  jobs : List Job
  /-- All letters that the loop has taken, in this order. -/
  taken : List Letter
  /-- All messages that were ever sent.  The place of a message is its ticket. -/
  messages : List Message
  /-- All responses that went out, with their tickets, in this order. -/
  responses : List (Nat × Response)
  deriving DecidableEq, Repr

namespace Service

open Assistant (Limits Move Task)

/-- Before the first message. -/
def initial : Service := ⟨.empty, 0, .running, [], [], [], [], []⟩

/-- The supervisor that callers see. -/
def view (s : Service) : Supervisor := ⟨s.cache, s.processed, decide (s.loop = .running)⟩

/-- The calls of the assistant. -/
def calls (s : Service) : Assistant.System := ⟨s.cache, s.jobs.map (·.task)⟩

/-! ## Events -/

inductive Event where
  | send (message : Message)
  /-- The loop takes the next letter. -/
  | receive
  /-- The call of the job with this number takes a step. -/
  | move (number : Nat) (m : Move)
  /-- The call of the job has come to its end, and its answer is settled. -/
  | complete (number : Nat)
  /-- The time of the job is over, and its answer is settled. -/
  | expire (number : Nat)
  | deliver (number : Nat)
  /-- The channel is thrown away. -/
  | close
  deriving DecidableEq, Repr

/-- The job whose step the event is. -/
def Event.job? : Event → Option Nat
  | .move number _ | .complete number | .expire number | .deliver number => some number
  | .send _ | .receive | .close => none

/-- A response goes out. -/
def respond (s : Service) (ticket : Nat) (response : Response) : Service :=
  { s with responses := s.responses ++ [(ticket, response)] }

/-- What the loop does with a letter. -/
def accept (terms : Terms) (letter : Letter) (s : Service) : Service :=
  match letter.message with
  | .question content => { s with jobs := s.jobs ++ [.start letter.ticket content] }
  | .status =>
      s.respond letter.ticket <| .report <|
        Status.report s.cache.size terms.setup.endpoint terms.setup.startedAt s.processed
  | .shutdown => { s with loop := .stopping }

/-- The answer of a job is settled, and counted. -/
def settle (s : Service) (number : Nat) (job : Job) (text : Text) : Service :=
  { s with
    processed := s.processed + 1
    jobs := s.jobs.set number { job with stage := .settled text } }

/-- The response to a letter that is thrown away; nobody waits for one to a shutdown. -/
def Letter.loss? (terms : Terms) (letter : Letter) : Option (Nat × Response) :=
  match letter.message with
  | .shutdown => none
  | .question _ | .status => some (letter.ticket, .fault (.unavailable terms.thrownAway))

/-- The service after an event; none if the event cannot happen. -/
def step (terms : Terms) (s : Service) : Event → Option Service
  | .send message =>
      let ticket := s.messages.length
      let sent := { s with messages := s.messages ++ [message] }
      if s.loop = .stopped then some (sent.respond ticket (.fault Supervisor.closed))
      else if s.queue.length < terms.capacity then
        some { sent with queue := s.queue ++ [⟨ticket, message⟩] }
      else none
  | .receive =>
      match s.loop, s.queue with
      | .running, letter :: rest =>
          some (accept terms letter { s with queue := rest, taken := s.taken ++ [letter] })
      | _, _ => none
  | .move number m =>
      match s.jobs[number]? with
      | some job =>
          if job.stage.allows m then
            (job.task.move terms.setup.limits s.cache m).map fun next =>
              { s with cache := next.2, jobs := s.jobs.set number { job with task := next.1 } }
          else none
      | none => none
  | .complete number =>
      match s.jobs[number]? with
      | some job =>
          if job.stage = .working then
            (job.verdict? terms.setup.limits).map (s.settle number job)
          else none
      | none => none
  | .expire number =>
      match s.jobs[number]? with
      | some job =>
          if job.stage = .working then some (s.settle number job Supervisor.failureText) else none
      | none => none
  | .deliver number =>
      match s.jobs[number]? with
      | some job =>
          match job.stage with
          | .settled text =>
              let next := { job with stage := .delivered text }
              some <| respond { s with jobs := s.jobs.set number next } job.ticket (.answer text)
          | .working | .delivered _ => none
      | none => none
  | .close =>
      if s.loop = .stopping then
        some { s with
          loop := .stopped
          queue := []
          responses := s.responses ++ s.queue.filterMap (Letter.loss? terms) }
      else none

/-- The service after some events, in this order; none if one of them cannot happen. -/
def run (terms : Terms) : Service → List Event → Option Service
  | s, [] => some s
  | s, event :: rest => (s.step terms event).bind fun s' => run terms s' rest

variable {terms : Terms} {s s' : Service} {event : Event} {history : List Event}

/-! ## What an event can do -/

/-- What settles the answer of a job: the end of its call, or its time. -/
inductive Job.Settles (limits : Limits) (job : Job) (number : Nat) : Event → Text → Prop where
  | completed {text : Text} (h : job.verdict? limits = some text) :
      Settles limits job number (.complete number) text
  | expired : Settles limits job number (.expire number) Supervisor.failureText

theorem Job.Settles.job?_eq {job : Job} {limits : Limits} {number : Nat} {text : Text}
    (h : job.Settles limits number event text) : event.job? = some number := by
  cases h <;> rfl

/-- All that an event can do. -/
inductive Stepped (terms : Terms) (s : Service) : Event → Service → Prop where
  | sent (message : Message) (hl : s.loop ≠ .stopped) :
      Stepped terms s (.send message)
        { s with
          messages := s.messages ++ [message]
          queue := s.queue ++ [⟨s.messages.length, message⟩] }
  | refused (message : Message) (hl : s.loop = .stopped) :
      Stepped terms s (.send message)
        (respond { s with messages := s.messages ++ [message] } s.messages.length
          (.fault Supervisor.closed))
  | began {ticket : Nat} {content : Text} {rest : List Letter} (hl : s.loop = .running)
      (hq : s.queue = ⟨ticket, .question content⟩ :: rest) :
      Stepped terms s .receive
        { s with
          queue := rest
          taken := s.taken ++ [⟨ticket, .question content⟩]
          jobs := s.jobs ++ [.start ticket content] }
  | reported {ticket : Nat} {rest : List Letter} (hl : s.loop = .running)
      (hq : s.queue = ⟨ticket, .status⟩ :: rest) :
      Stepped terms s .receive
        (respond { s with queue := rest, taken := s.taken ++ [⟨ticket, .status⟩] } ticket
          (.report (Status.report s.cache.size terms.setup.endpoint terms.setup.startedAt
            s.processed)))
  | ended {ticket : Nat} {rest : List Letter} (hl : s.loop = .running)
      (hq : s.queue = ⟨ticket, .shutdown⟩ :: rest) :
      Stepped terms s .receive
        { s with queue := rest, taken := s.taken ++ [⟨ticket, .shutdown⟩], loop := .stopping }
  | moved {number : Nat} {m : Move} {job : Job} {task : Task} {cache : Cache}
      (hj : s.jobs[number]? = some job) (ha : job.stage.allows m = true)
      (hm : job.task.move terms.setup.limits s.cache m = some (task, cache)) :
      Stepped terms s (.move number m)
        { s with cache := cache, jobs := s.jobs.set number { job with task := task } }
  | settled {number : Nat} {event : Event} {job : Job} {text : Text}
      (ht : job.Settles terms.setup.limits number event text) (hj : s.jobs[number]? = some job)
      (hw : job.stage = .working) : Stepped terms s event (s.settle number job text)
  | delivered {number : Nat} {job : Job} {text : Text} (hj : s.jobs[number]? = some job)
      (hs : job.stage = .settled text) :
      Stepped terms s (.deliver number)
        (respond { s with jobs := s.jobs.set number { job with stage := .delivered text } }
          job.ticket (.answer text))
  | closed (hl : s.loop = .stopping) :
      Stepped terms s .close
        { s with
          loop := .stopped
          queue := []
          responses := s.responses ++ s.queue.filterMap (Letter.loss? terms) }

theorem stepped_of_step (h : s.step terms event = some s') : Stepped terms s event s' := by
  cases event with
  | send message =>
      simp only [step] at h
      split at h
      · rename_i hl
        cases h
        exact .refused message hl
      · rename_i hl
        split at h
        · cases h
          exact .sent message hl
        · cases h
  | receive =>
      simp only [step] at h
      split at h
      · rename_i letter rest hl hq
        cases h
        obtain ⟨ticket, message⟩ := letter
        cases message with
        | question content => exact .began hl hq
        | status => exact .reported hl hq
        | shutdown => exact .ended hl hq
      · cases h
  | move number m =>
      simp only [step] at h
      split at h
      · rename_i job hj
        split at h
        · rename_i ha
          obtain ⟨⟨task, cache⟩, hm, rfl⟩ := Option.map_eq_some_iff.1 h
          exact .moved hj ha hm
        · cases h
      · cases h
  | complete number =>
      simp only [step] at h
      split at h
      · rename_i job hj
        split at h
        · rename_i hw
          obtain ⟨text, ht, rfl⟩ := Option.map_eq_some_iff.1 h
          exact .settled (.completed ht) hj hw
        · cases h
      · cases h
  | expire number =>
      simp only [step] at h
      split at h
      · rename_i job hj
        split at h
        · rename_i hw
          cases h
          exact .settled .expired hj hw
        · cases h
      · cases h
  | deliver number =>
      simp only [step] at h
      split at h
      · rename_i job hj
        split at h
        · rename_i text hs
          cases h
          exact .delivered hj hs
        · cases h
        · cases h
      · cases h
  | close =>
      simp only [step] at h
      split at h
      · rename_i hl
        cases h
        exact .closed hl
      · cases h

/-- What each step keeps of the state and of all that has happened so far, every run keeps. -/
theorem run_induction_history {P : List Event → Service → Prop}
    (hstep : ∀ {past : List Event} {s s' : Service} {event : Event}, P past s →
      Stepped terms s event s' → P (past ++ [event]) s')
    (hs : P [] s) (h : s.run terms history = some s') : P history s' := by
  induction history generalizing s P with
  | nil =>
      cases h
      exact hs
  | cons event rest ih =>
      obtain ⟨next, hnext, hrest⟩ := Option.bind_eq_some_iff.1 h
      have hfirst : P [event] next := hstep hs (stepped_of_step hnext)
      -- From here on the past begins with this event.
      exact ih (P := fun past => P (event :: past)) hstep hfirst hrest

/-- What each step keeps, every run keeps. -/
theorem run_induction {P : Service → Prop}
    (hstep : ∀ {s s' : Service} {event : Event}, P s → Stepped terms s event s' → P s')
    (hs : P s) (h : s.run terms history = some s') : P s' :=
  run_induction_history (P := fun _ => P) hstep hs h

/-- A message that cannot be sent waits for the loop, which can take a letter or come to its end. -/
theorem exists_step_of_full {message : Message} (hcap : 0 < terms.capacity)
    (h : s.step terms (.send message) = none) :
    ∃ event ∈ [Event.receive, .close], (s.step terms event).isSome = true := by
  simp only [step] at h
  split at h
  · cases h
  · rename_i hl
    split at h
    · cases h
    · rename_i hfull
      cases hloop : s.loop with
      | running =>
          refine ⟨.receive, List.mem_cons_self, ?_⟩
          cases hq : s.queue with
          | nil =>
              rw [hq] at hfull
              exact absurd hcap hfull
          | cons letter rest => simp [step, hloop, hq]
      | stopping =>
          refine ⟨.close, List.mem_cons_of_mem _ List.mem_cons_self, ?_⟩
          simp [step, hloop]
      | stopped => exact absurd hloop hl

/-! ## Messages and responses stay -/

/-- Messages and responses only come to be more. -/
structure Grows (s s' : Service) : Prop where
  messages : s.messages <+: s'.messages
  responses : s.responses <+: s'.responses

theorem grows_of_stepped (h : Stepped terms s event s') : Grows s s' := by
  cases h with
  | sent => exact ⟨List.prefix_append _ _, List.prefix_rfl⟩
  | refused => exact ⟨List.prefix_append _ _, List.prefix_append _ _⟩
  | reported => exact ⟨List.prefix_rfl, List.prefix_append _ _⟩
  | delivered => exact ⟨List.prefix_rfl, List.prefix_append _ _⟩
  | closed => exact ⟨List.prefix_rfl, List.prefix_append _ _⟩
  | _ => exact ⟨List.prefix_rfl, List.prefix_rfl⟩

theorem Grows.getElem?_messages {ticket : Nat} {message : Message} (h : Grows s s')
    (hm : s.messages[ticket]? = some message) : s'.messages[ticket]? = some message := by
  have hlt := (List.getElem?_eq_some_iff.1 hm).1
  obtain ⟨more, hmore⟩ := h.messages
  rw [← hmore, List.getElem?_append_left hlt, hm]

/-- A message that was sent is there, with its ticket. -/
theorem messages_of_send {message : Message} (h : s.step terms (.send message) = some s') :
    s'.messages = s.messages ++ [message] := by
  cases stepped_of_step h with
  | sent => rfl
  | refused => rfl
  | settled ht => cases ht

/-! ## A message alone -/

section Alone

variable {jobs : List Job}

/-- The call of the job that came last goes on alone, and all else stays as it is. -/
theorem run_moves_last (s : Service) (job : Job) {moves : List Move} {task : Task} {cache : Cache}
    (h : job.task.moves terms.setup.limits s.cache moves = some (task, cache))
    (hw : job.stage = .working) (hg : Move.giveUp ∉ moves) (rest : List Event) :
    run terms { s with jobs := jobs ++ [job] } (moves.map (.move jobs.length) ++ rest) =
      run terms { s with cache := cache, jobs := jobs ++ [{ job with task := task }] } rest := by
  induction moves generalizing s job with
  | nil =>
      cases h
      rfl
  | cons m others ih =>
      obtain ⟨⟨next, nextCache⟩, hm, hrest⟩ := Option.bind_eq_some_iff.1 h
      have hallows : job.stage.allows m = true := by
        rw [hw]
        cases m with
        | giveUp => exact absurd List.mem_cons_self hg
        | _ => rfl
      have hstep : step terms { s with jobs := jobs ++ [job] } (.move jobs.length m) =
          some { s with cache := nextCache, jobs := jobs ++ [{ job with task := next }] } := by
        simp [step, hallows, hm]
      rw [List.map_cons, List.cons_append, run, hstep, Option.bind_some]
      exact ih { s with cache := nextCache } { job with task := next } hrest hw
        fun hmem => hg (List.mem_cons_of_mem _ hmem)

/-- Once the answer of the job that came last is settled, it goes out. -/
theorem run_settled_last (s : Service) (job : Job) (text : Text)
    (h : step terms { s with jobs := jobs ++ [job] } event =
      some (settle { s with jobs := jobs ++ [job] } jobs.length job text)) :
    run terms { s with jobs := jobs ++ [job] } [event, .deliver jobs.length] =
      some (respond
        { s with
          processed := s.processed + 1
          jobs := jobs ++ [{ job with stage := .delivered text }] }
        job.ticket (.answer text)) := by
  rw [run, h, Option.bind_some, run]
  simp [run, step, settle, respond]

/-- The service after a message was sent and taken at once, without what the loop does with it. -/
def passed (s : Service) (message : Message) : Service :=
  { s with
    taken := s.taken ++ [⟨s.messages.length, message⟩]
    messages := s.messages ++ [message] }

/-- A message that is sent to an idle service is taken at once. -/
theorem run_passed (hcap : 0 < terms.capacity) (hl : s.loop = .running) (hq : s.queue = [])
    (message : Message) (rest : List Event) :
    s.run terms (.send message :: .receive :: rest) =
      run terms (accept terms ⟨s.messages.length, message⟩ (s.passed message)) rest := by
  simp [run, step, passed, hcap, hl, hq]

theorem verdict?_of_ends {task : Task} {question : Text} {answer : Option Text} {limits : Limits}
    (h : task.Ends limits question answer) (ticket : Nat) (stage : Stage) :
    Job.verdict? limits ⟨ticket, task, stage⟩ = some (answer.getD Supervisor.failureText) := by
  cases answer with
  | none =>
      have hlost := h.lost rfl
      simp [Job.verdict?, hlost]
  | some a =>
      have ha := h.answer_eq
      unfold Job.verdict?
      split
      · rename_i hlost
        have hphase : task.phase = .lost := hlost
        rw [Task.answer?, hphase] at ha
        cases ha
      · exact ha

/-- The service after a question was answered, with nothing else going on. -/
def answered (s : Service) (content : Text) (cache : Cache) (task : Task) (text : Text) : Service :=
  { s.passed (.question content) with
    cache := cache
    processed := s.processed + 1
    jobs := s.jobs ++ [⟨s.messages.length, task, .delivered text⟩]
    responses := s.responses ++ [(s.messages.length, .answer text)] }

/-- A question with nothing else going on gets the reply that the supervisor gives, and leaves the
supervisor in the same state. -/
theorem run_process (world : Assistant.World) (hcap : 0 < terms.capacity) (hl : s.loop = .running)
    (hq : s.queue = []) (content : Text) :
    ∃ events cache task text,
      s.run terms (.send (.question content) :: .receive :: events) =
          some (s.answered content cache task text) ∧
        (s.answered content cache task text).view =
          (s.view.process terms.setup world content).supervisor ∧
        (s.view.process terms.setup world content).result = .ok text := by
  have ho : s.view.isOpen = true := by simp [view, hl]
  -- The answer is not awaited: the job expires before its call has done anything.
  have hlate : s.run terms (.send (.question content) :: .receive ::
      [.expire s.jobs.length, .deliver s.jobs.length]) =
        some (s.answered content s.cache ⟨content, .arrived, none⟩ Supervisor.failureText) := by
    rw [run_passed hcap hl hq]
    refine run_settled_last (s.passed (.question content)) (.start s.messages.length content)
      Supervisor.failureText ?_
    simp [step, passed, Job.start]
  rw [Supervisor.process_of_open ho]
  unfold Supervisor.answerInTime
  by_cases hd : terms.setup.deadline = 0
  · simp only [hd, if_true]
    exact ⟨_, _, _, _, hlate, rfl, rfl⟩
  · by_cases hdelay : terms.setup.deadline ≤
        (Assistant.answer terms.setup.limits world s.view.cache content).delay
    · simp only [hd, hdelay, if_true, if_false]
      exact ⟨_, _, _, _, hlate, rfl, rfl⟩
    · simp only [hd, hdelay, if_false]
      -- The answer is in time: its call goes through all its steps.
      obtain ⟨moves, task, hmoves, hends, hgiveUp⟩ :=
        Assistant.Task.moves_alone terms.setup.limits world s.cache content
      have hverdict := verdict?_of_ends hends s.messages.length .working
      have hrun : s.run terms (.send (.question content) :: .receive ::
          (moves.map (.move s.jobs.length) ++
            [.complete s.jobs.length, .deliver s.jobs.length])) =
          some (s.answered content
            (Assistant.answer terms.setup.limits world s.cache content).cache task
            ((Assistant.answer terms.setup.limits world s.cache content).answer.getD
              Supervisor.failureText)) := by
        rw [run_passed hcap hl hq]
        refine (run_moves_last (s.passed (.question content)) (.start s.messages.length content)
          hmoves rfl hgiveUp _).trans ?_
        refine run_settled_last
          { s.passed (.question content) with
            cache := (Assistant.answer terms.setup.limits world s.cache content).cache }
          ⟨s.messages.length, task, .working⟩ _ ?_
        simp [step, passed, hverdict]
      exact ⟨_, _, _, _, hrun, rfl, rfl⟩

/-- A report with nothing else going on is the one that the supervisor makes. -/
theorem run_status (hcap : 0 < terms.capacity) (hl : s.loop = .running) (hq : s.queue = []) :
    ∃ report,
      s.view.status terms.setup = .ok report ∧
        s.run terms [.send .status, .receive] =
          some ((s.passed .status).respond s.messages.length (.report report)) := by
  have ho : s.view.isOpen = true := by simp [view, hl]
  refine ⟨_, if_pos ho, ?_⟩
  rw [run_passed hcap hl hq]
  rfl

/-- The end of the supervisor, with nothing else going on, closes it. -/
theorem run_shutdown (hcap : 0 < terms.capacity) (hl : s.loop = .running) (hq : s.queue = []) :
    s.run terms [.send .shutdown, .receive, .close] =
        some { s.passed .shutdown with loop := .stopped } ∧
      s.view.shutdown.result = .ok () ∧
      ({ s.passed .shutdown with loop := .stopped } : Service).view =
        s.view.shutdown.supervisor := by
  have ho : s.view.isOpen = true := by simp [view, hl]
  have hshutdown : s.view.shutdown = ⟨.ok (), { s.view with isOpen := false }, []⟩ := if_pos ho
  refine ⟨?_, by rw [hshutdown], by rw [hshutdown]; rfl⟩
  rw [run_passed hcap hl hq]
  simp [run, step, accept, passed, hq]

/-- After its end a message gets the fault that the supervisor gives, and changes nothing. -/
theorem step_refused (hl : s.loop = .stopped) (message : Message) :
    ∃ s', s.step terms (.send message) = some s' ∧ s'.view = s.view ∧
      s'.responses = s.responses ++ [(s.messages.length, .fault Supervisor.closed)] ∧
      (∀ world question, s.view.process terms.setup world question =
        ⟨.error Supervisor.closed, s.view, []⟩) ∧
      s.view.status terms.setup = .error Supervisor.closed ∧
      s.view.shutdown = ⟨.error Supervisor.closed, s.view, []⟩ := by
  have ho : ¬ s.view.isOpen = true := by simp [view, hl]
  exact ⟨_, if_pos hl, rfl, rfl, Supervisor.process_of_closed ho _, if_neg ho, if_neg ho⟩

end Alone

end Service
end ChatAssistant
