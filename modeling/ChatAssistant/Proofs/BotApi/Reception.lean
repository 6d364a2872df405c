import ChatAssistant.Proofs.BotApi.Feed
import ChatAssistant.Proofs.Supervisor.Shutdown

/-!
# Updates side by side

A bot does not wait for the work on an update: each update of a batch gets a handler of its own, and
the handlers go on side by side, with each other and with the supervisor, while the bot asks for the
next batch.  A handler hears its message, asks the supervisor if need be, and sends the reply; at
each of these points it may have to wait while others go on.

* `Handler.work` — one step of a handler;
* `Reception.step`, `Reception.run` — one event at a time, in any order in which they can happen;
* `Worked`, `Reception.Stepped` — all that a step can do;
* `Reception.exists_run_poll` — with nothing else going on, a poll and the handlers that it starts
  come to what `Bot.poll` says.

The requests of the polls themselves are not in the traffic, which is about replies only.
-/

namespace ChatAssistant

open Conversation (Course course resultOf)

/-- The fault of a response that did not come in time. -/
def Supervisor.overdue : Fault :=
  .overdue "Actor operation timed out: deadline has elapsed".toList

namespace BotApi

/-! ## Handlers -/

/-- How far the work on an update has come.  A reply stands with the chat that it goes to. -/
inductive Stage where
  | fresh
  /-- The response of the supervisor is awaited, in the middle of a conversation. -/
  | waiting (chat : Int64) (c : Course)
  /-- There is nothing to say. -/
  | silent
  | ready (reply : Int64 × Text)
  /-- The reply is on its way, to the address of the call. -/
  | sending (url : Url) (reply : Int64 × Text)
  /-- The reply is on its way once more, without markup. -/
  | resending (reply : Int64 × Text)
  /-- There is nothing left to do for the reply. -/
  | done (reply : Int64 × Text)
  deriving DecidableEq, Repr

/-- What follows the end of a conversation. -/
def Stage.ofReply : Option (Int64 × Text) → Stage
  | none => .silent
  | some reply => .ready reply

/-- The work on one update. -/
structure Handler where
  update : Update
  /-- The ticket of its message to the supervisor, once there is one. -/
  ticket : Option Nat
  stage : Stage
  deriving DecidableEq, Repr

/-- A handler that was just started. -/
def Handler.start (u : Update) : Handler := ⟨u, none, .fresh⟩

/-- The handler at the end of a conversation, after what came in in the middle of it. -/
def Handler.conclude (h : Handler) (chat : Int64) (c : Course) (result : Except Fault Text) :
    Handler :=
  { h with stage := .ofReply ((c.finish result).map (chat, ·)) }

/-- What goes over the network for a reply. -/
inductive Act where
  | sent (request : Http.Request)
  | ended (e : Http.Exchange)
  deriving DecidableEq, Repr

def Act.request? : Act → Option Http.Request
  | .sent request => some request
  | .ended _ => none

/-- The steps of a handler. -/
inductive Move where
  /-- The message is heard. -/
  | begin
  /-- The response of the supervisor comes in. -/
  | hear (response : Service.Response)
  /-- The response is awaited no longer. -/
  | giveUp
  /-- The reply is sent. -/
  | send
  /-- The exchange that is under way comes to its end. -/
  | finish (e : Http.Exchange)
  deriving DecidableEq, Repr

/-- The effect of a step of a handler. -/
structure Work where
  service : Service
  handler : Handler
  acts : List Act

/-- The effect of one step of a handler; none if it cannot take this step. -/
def Handler.work (terms : Service.Terms) (bot : Bot) (s : Service) (h : Handler) (m : Move) :
    Option Work :=
  match h.stage, m with
  | .fresh, .begin =>
      match h.update.incoming? with
      | none => some ⟨s, { h with stage := .silent }, []⟩
      | some (chat, name, text) =>
          let c := course name text
          match c.message? with
          | none =>
              -- nothing is asked, so the end does not hang on what comes in
              some ⟨s, h.conclude chat c (.error Supervisor.closed), []⟩
          | some message =>
              (s.step terms (.send message)).map fun s' =>
                ⟨s', { h with ticket := some s.messages.length, stage := .waiting chat c }, []⟩
  | .waiting chat c, .hear response =>
      h.ticket.bind fun ticket =>
        if (ticket, response) ∈ s.responses then
          some ⟨s, h.conclude chat c (resultOf response), []⟩
        else none
  | .waiting chat c, .giveUp => some ⟨s, h.conclude chat c (.error Supervisor.overdue), []⟩
  | .ready reply, .send =>
      match bot.call "sendMessage" with
      | .error _ => some ⟨s, { h with stage := .done reply }, []⟩
      | .ok url =>
          some ⟨s, { h with stage := .sending url reply },
            [.sent (messageRequest url reply.1 reply.2 true)]⟩
  | .sending url reply, .finish e =>
      if refusesMarkup e then
        some ⟨s, { h with stage := .resending reply },
          [.ended e, .sent (messageRequest url reply.1 reply.2 false)]⟩
      else some ⟨s, { h with stage := .done reply }, [.ended e]⟩
  | .resending reply, .finish e => some ⟨s, { h with stage := .done reply }, [.ended e]⟩
  | _, _ => none

/-- All that a step of a handler can do. -/
inductive Worked (terms : Service.Terms) (bot : Bot) (s : Service) (h : Handler) :
    Move → Work → Prop where
  | passed (hs : h.stage = .fresh) (hi : h.update.incoming? = none) :
      Worked terms bot s h .begin ⟨s, { h with stage := .silent }, []⟩
  | answered {chat : Int64} {name text : Text} (hs : h.stage = .fresh)
      (hi : h.update.incoming? = some (chat, name, text))
      (hm : (course name text).message? = none) :
      Worked terms bot s h .begin
        ⟨s, h.conclude chat (course name text) (.error Supervisor.closed), []⟩
  | asked {chat : Int64} {name text : Text} {message : Service.Message} {s' : Service}
      (hs : h.stage = .fresh) (hi : h.update.incoming? = some (chat, name, text))
      (hm : (course name text).message? = some message)
      (hsend : s.step terms (.send message) = some s') :
      Worked terms bot s h .begin
        ⟨s', { h with
          ticket := some s.messages.length
          stage := .waiting chat (course name text) }, []⟩
  | heard {chat : Int64} {c : Course} {ticket : Nat} {response : Service.Response}
      (hs : h.stage = .waiting chat c) (ht : h.ticket = some ticket)
      (hr : (ticket, response) ∈ s.responses) :
      Worked terms bot s h (.hear response) ⟨s, h.conclude chat c (resultOf response), []⟩
  | gaveUp {chat : Int64} {c : Course} (hs : h.stage = .waiting chat c) :
      Worked terms bot s h .giveUp ⟨s, h.conclude chat c (.error Supervisor.overdue), []⟩
  | unsent {reply : Int64 × Text} {e : Url.Error} (hs : h.stage = .ready reply)
      (hcall : bot.call "sendMessage" = .error e) :
      Worked terms bot s h .send ⟨s, { h with stage := .done reply }, []⟩
  | sent {reply : Int64 × Text} {url : Url} (hs : h.stage = .ready reply)
      (hcall : bot.call "sendMessage" = .ok url) :
      Worked terms bot s h .send
        ⟨s, { h with stage := .sending url reply },
          [.sent (messageRequest url reply.1 reply.2 true)]⟩
  | refused {url : Url} {reply : Int64 × Text} {e : Http.Exchange}
      (hs : h.stage = .sending url reply) (he : refusesMarkup e = true) :
      Worked terms bot s h (.finish e)
        ⟨s, { h with stage := .resending reply },
          [.ended e, .sent (messageRequest url reply.1 reply.2 false)]⟩
  | ended {url : Url} {reply : Int64 × Text} {e : Http.Exchange}
      (hs : h.stage = .sending url reply) (he : ¬ refusesMarkup e = true) :
      Worked terms bot s h (.finish e) ⟨s, { h with stage := .done reply }, [.ended e]⟩
  | endedAgain {reply : Int64 × Text} {e : Http.Exchange} (hs : h.stage = .resending reply) :
      Worked terms bot s h (.finish e) ⟨s, { h with stage := .done reply }, [.ended e]⟩

variable {terms : Service.Terms} {bot : Bot} {s s' : Service} {h : Handler} {m : Move} {w : Work}

theorem worked_of_work (hw : h.work terms bot s m = some w) : Worked terms bot s h m w := by
  unfold Handler.work at hw
  split at hw
  · rename_i hs
    split at hw
    · rename_i hi
      cases hw
      exact .passed hs hi
    · rename_i chat name text hi
      dsimp only at hw
      split at hw
      · rename_i hm
        cases hw
        exact .answered hs hi hm
      · rename_i message hm
        obtain ⟨s', hsend, rfl⟩ := Option.map_eq_some_iff.1 hw
        exact .asked hs hi hm hsend
  · rename_i chat c response hs
    obtain ⟨ticket, ht, hw⟩ := Option.bind_eq_some_iff.1 hw
    split at hw
    · rename_i hr
      cases hw
      exact .heard hs ht hr
    · cases hw
  · rename_i hs
    cases hw
    exact .gaveUp hs
  · rename_i reply hs
    split at hw
    · rename_i hcall
      cases hw
      exact .unsent hs hcall
    · rename_i hcall
      cases hw
      exact .sent hs hcall
  · rename_i hs
    split at hw
    · rename_i he
      cases hw
      exact .refused hs he
    · rename_i he
      cases hw
      exact .ended hs he
  · rename_i hs
    cases hw
    exact .endedAgain hs
  · cases hw

/-- Each of these steps can be taken. -/
theorem Worked.work_eq (hw : Worked terms bot s h m w) : h.work terms bot s m = some w := by
  unfold Handler.work
  cases hw with
  | passed hs hi => simp only [hs, hi]
  | answered hs hi hm => simp only [hs, hi, hm]
  | asked hs hi hm hsend => simp only [hs, hi, hm, hsend, Option.map_some]
  | heard hs ht hr => simp only [hs, ht, hr, Option.bind_some, if_true]
  | gaveUp hs => simp only [hs]
  | unsent hs hcall => simp only [hs, hcall]
  | sent hs hcall => simp only [hs, hcall]
  | refused hs he => simp only [hs, he, if_true]
  | ended hs he => simp only [hs, he, Bool.false_eq_true, if_false]
  | endedAgain hs => simp only [hs]

/-! ## All handlers -/

/-- All that is going on between the chat service and the supervisor. -/
structure Reception where
  service : Service
  /-- The number to go on from. -/
  offset : Int64
  /-- The handlers in the order of their start.  The number of a handler is its place. -/
  handlers : List Handler
  /-- All that went over the network for replies, with the numbers of the handlers, in order. -/
  traffic : List (Nat × Act)
  deriving DecidableEq, Repr

namespace Reception

/-- Before the first poll. -/
def initial (offset : Int64) : Reception := ⟨.initial, offset, [], []⟩

/-- What went over the network for one handler. -/
def actsOf (r : Reception) (number : Nat) : List Act :=
  (r.traffic.filter (·.1 = number)).map (·.2)

/-! ## Events -/

inductive Event where
  /-- The supervisor goes on, for this bot or for anybody else. -/
  | serve (event : Service.Event)
  /-- The bot asks for updates, and starts a handler for each one. -/
  | poll (network : Http.Network)
  /-- The handler with this number takes a step. -/
  | work (number : Nat) (m : Move)

/-- The handler whose step the event is. -/
def Event.number? : Event → Option Nat
  | .work number _ => some number
  | .serve _ | .poll _ => none

/-- What is going on after an event; none if the event cannot happen. -/
def step (terms : Service.Terms) (bot : Bot) (r : Reception) : Event → Option Reception
  | .serve event => (r.service.step terms event).map fun s => { r with service := s }
  | .poll network =>
      let updates := bot.batch network r.offset
      some { r with
        offset := advance r.offset updates
        handlers := r.handlers ++ updates.map .start }
  | .work number m =>
      (r.handlers[number]?).bind fun h =>
        (h.work terms bot r.service m).map fun w =>
          { r with
            service := w.service
            handlers := r.handlers.set number w.handler
            traffic := r.traffic ++ w.acts.map (number, ·) }

/-- What is going on after some events, in this order; none if one of them cannot happen. -/
def run (terms : Service.Terms) (bot : Bot) : Reception → List Event → Option Reception
  | r, [] => some r
  | r, event :: rest => (r.step terms bot event).bind fun r' => run terms bot r' rest

variable {terms : Service.Terms} {bot : Bot} {r r' : Reception} {event : Event}
  {history : List Event}

theorem step_work {number : Nat} {h : Handler} {m : Move} {w : Work}
    (hh : r.handlers[number]? = some h) (hw : h.work terms bot r.service m = some w) :
    r.step terms bot (.work number m) =
      some { r with
        service := w.service
        handlers := r.handlers.set number w.handler
        traffic := r.traffic ++ w.acts.map (number, ·) } := by
  rw [step, hh, Option.bind_some, hw]
  rfl

/-! ## What an event can do -/

/-- All that an event can do. -/
inductive Stepped (terms : Service.Terms) (bot : Bot) (r : Reception) :
    Event → Reception → Prop where
  | served {event : Service.Event} {s : Service} (hs : r.service.step terms event = some s) :
      Stepped terms bot r (.serve event) { r with service := s }
  | polled (network : Http.Network) :
      Stepped terms bot r (.poll network)
        { r with
          offset := advance r.offset (bot.batch network r.offset)
          handlers := r.handlers ++ (bot.batch network r.offset).map .start }
  | worked {number : Nat} {h : Handler} {m : Move} {w : Work} (hh : r.handlers[number]? = some h)
      (hw : h.work terms bot r.service m = some w) :
      Stepped terms bot r (.work number m)
        { r with
          service := w.service
          handlers := r.handlers.set number w.handler
          traffic := r.traffic ++ w.acts.map (number, ·) }

theorem stepped_of_step (h : r.step terms bot event = some r') : Stepped terms bot r event r' := by
  cases event with
  | serve event =>
      obtain ⟨s, hs, rfl⟩ := Option.map_eq_some_iff.1 h
      exact .served hs
  | poll network =>
      cases h
      exact .polled network
  | work number m =>
      obtain ⟨handler, hh, hwork⟩ := Option.bind_eq_some_iff.1 h
      obtain ⟨w, hw, rfl⟩ := Option.map_eq_some_iff.1 hwork
      exact .worked hh hw

/-- What each step keeps of the state and of all that has happened so far, every run keeps. -/
theorem run_induction {P : List Event → Reception → Prop}
    (hstep : ∀ {past : List Event} {r r' : Reception} {event : Event}, P past r →
      Stepped terms bot r event r' → P (past ++ [event]) r')
    (hr : P [] r) (h : r.run terms bot history = some r') : P history r' := by
  induction history generalizing r P with
  | nil =>
      cases h
      exact hr
  | cons event rest ih =>
      obtain ⟨next, hnext, hrest⟩ := Option.bind_eq_some_iff.1 h
      have hfirst : P [event] next := hstep hr (stepped_of_step hnext)
      -- From here on the past begins with this event.
      exact ih (P := fun past => P (event :: past)) hstep hfirst hrest

/-! ## Updates alone -/

/-- The supervisor waits for messages, or there is none any more. -/
structure Idle (s : Service) : Prop where
  loop : s.loop ≠ .stopping
  queue : s.queue = []

/-- A message that is sent with nothing else going on gets this result, and leaves the supervisor in
this state. -/
def Responds (terms : Service.Terms) (s : Service) (message : Service.Message)
    (result : Except Fault Text) (supervisor : Supervisor) : Prop :=
  ∃ sent events s' response,
    s.step terms (.send message) = some sent ∧ sent.run terms events = some s' ∧ Idle s' ∧
      s'.view = supervisor ∧ (s.messages.length, response) ∈ s'.responses ∧
      resultOf response = result

theorem responds_of_stopped {s : Service} (hq : s.queue = []) (hl : s.loop = .stopped)
    (message : Service.Message) :
    Responds terms s message (.error Supervisor.closed) s.view := by
  have hne : s.loop ≠ .stopping := by
    rw [hl]
    nofun
  exact ⟨_, [], _, .fault Supervisor.closed, if_pos hl, rfl, ⟨hne, hq⟩, rfl,
    List.mem_append_right _ List.mem_cons_self, rfl⟩

theorem responds_question {s : Service} (world : Assistant.World) (hcap : 0 < terms.capacity)
    (hs : Idle s) (content : Text) :
    Responds terms s (.question content) (s.view.process terms.setup world content).result
      (s.view.process terms.setup world content).supervisor := by
  cases hl : s.loop with
  | stopping => exact absurd hl hs.loop
  | stopped =>
      have ho : ¬ s.view.isOpen = true := by simp [Service.view, hl]
      rw [Supervisor.process_of_closed ho]
      exact responds_of_stopped hs.queue hl _
  | running =>
      obtain ⟨events, cache, task, text, hrun, hview, hresult⟩ :=
        Service.run_process world hcap hl hs.queue content
      obtain ⟨sent, hsent, hrest⟩ := Option.bind_eq_some_iff.1 hrun
      exact ⟨sent, _, _, .answer text, hsent, hrest, ⟨hs.loop, hs.queue⟩, hview,
        List.mem_append_right _ List.mem_cons_self, hresult.symm⟩

theorem responds_status {s : Service} (hcap : 0 < terms.capacity) (hs : Idle s) :
    Responds terms s .status ((s.view.status terms.setup).map Status.Report.toText) s.view := by
  cases hl : s.loop with
  | stopping => exact absurd hl hs.loop
  | stopped =>
      have ho : ¬ s.view.isOpen = true := by simp [Service.view, hl]
      have hstatus : s.view.status terms.setup = .error Supervisor.closed := if_neg ho
      rw [hstatus]
      exact responds_of_stopped hs.queue hl _
  | running =>
      obtain ⟨report, hreport, hrun⟩ := Service.run_status hcap hl hs.queue
      obtain ⟨sent, hsent, hrest⟩ := Option.bind_eq_some_iff.1 hrun
      rw [hreport]
      exact ⟨sent, _, _, .report report, hsent, hrest, ⟨hs.loop, hs.queue⟩, rfl,
        List.mem_append_right _ List.mem_cons_self, rfl⟩

/-- With nothing else going on, what is sent in the middle of a conversation gets the result that
the conversation goes on with. -/
theorem exists_responds {s : Service} {message : Service.Message} {name text : Text}
    (world : Assistant.World) (hcap : 0 < terms.capacity) (hs : Idle s)
    (hm : (course name text).message? = some message) :
    ∃ result,
      Responds terms s message result
          (Conversation.respond terms.setup world s.view name text).supervisor ∧
        (Conversation.respond terms.setup world s.view name text).result =
          (course name text).finish result := by
  rw [Conversation.respond_eq_course]
  cases hc : course name text with
  | reply reply =>
      rw [hc] at hm
      cases hm
  | report =>
      rw [hc] at hm
      cases hm
      exact ⟨_, responds_status hcap hs, rfl⟩
  | question q =>
      rw [hc] at hm
      cases hm
      exact ⟨_, responds_question world hcap hs q, rfl⟩

theorem respond_of_message?_eq_none {name text : Text} (hm : (course name text).message? = none)
    (setup : Setup) (world : Assistant.World) (s : Supervisor) (result : Except Fault Text) :
    Conversation.respond setup world s name text = ⟨(course name text).finish result, s, []⟩ := by
  rw [Conversation.respond_eq_course]
  cases hc : course name text with
  | reply reply => rfl
  | report =>
      rw [hc] at hm
      cases hm
  | question q =>
      rw [hc] at hm
      cases hm

theorem run_append (r : Reception) (events more : List Event) :
    r.run terms bot (events ++ more) = (r.run terms bot events).bind (run terms bot · more) := by
  induction events generalizing r with
  | nil => rfl
  | cons event others ih =>
      rw [List.cons_append, run, run]
      cases r.step terms bot event with
      | none => rfl
      | some next => exact ih next

theorem run_serve {events : List Service.Event} {s' : Service}
    (h : r.service.run terms events = some s') :
    r.run terms bot (events.map .serve) = some { r with service := s' } := by
  induction events generalizing r with
  | nil =>
      cases h
      rfl
  | cons event others ih =>
      obtain ⟨next, hnext, hrest⟩ := Option.bind_eq_some_iff.1 h
      have hstep : r.step terms bot (.serve event) = some { r with service := next } := by
        rw [step, hnext]
        rfl
      rw [List.map_cons, run, hstep]
      exact ih (r := { r with service := next }) hrest

section Alone

variable {rest : List Handler} {s : Service} {h : Handler}

/-- One more handler behind those that there are and before some others, with what went over the
network for it. -/
def among (r : Reception) (rest : List Handler) (s : Service) (h : Handler) (acts : List Act) :
    Reception :=
  ⟨s, r.offset, r.handlers ++ h :: rest, r.traffic ++ acts.map (r.handlers.length, ·)⟩

/-- A step of the one handler changes nothing about the others. -/
theorem run_among {acts : List Act} {m : Move} {w : Work} (hw : Worked terms bot s h m w)
    (more : List Event) :
    (r.among rest s h acts).run terms bot (.work r.handlers.length m :: more) =
      (r.among rest w.service w.handler (acts ++ w.acts)).run terms bot more := by
  simp [run, step, among, hw.work_eq]

variable (bot r rest) in
/-- With nothing else going on, an update comes to its reply. -/
theorem exists_run_begin (world : Assistant.World) (hcap : 0 < terms.capacity) (hs : Idle s)
    (u : Update) :
    ∃ events s' h',
      (r.among rest s (.start u) []).run terms bot events = some (r.among rest s' h' []) ∧
        Idle s' ∧ s'.view = (replyTo terms.setup world s.view u).supervisor ∧
        h'.stage = .ofReply (replyTo terms.setup world s.view u).result := by
  unfold replyTo
  cases hi : u.incoming? with
  | none =>
      exact ⟨[.work r.handlers.length .begin], s, _, run_among (.passed rfl hi) [], hs, rfl, rfl⟩
  | some incoming =>
      obtain ⟨chat, name, text⟩ := incoming
      dsimp only
      cases hm : (course name text).message? with
      | none =>
          rw [respond_of_message?_eq_none hm _ _ _ (.error Supervisor.closed)]
          exact ⟨[.work r.handlers.length .begin], s, _, run_among (.answered rfl hi hm) [], hs,
            rfl, rfl⟩
      | some message =>
          obtain ⟨result, ⟨sent, events, s', response, hsend, hrun, hidle, hview, hr, hresult⟩,
            hfinish⟩ := exists_responds world hcap hs hm
          rw [hfinish, ← hresult]
          let asked : Handler := ⟨u, some s.messages.length, .waiting chat (course name text)⟩
          have hbegin : Worked terms bot s (.start u) .begin ⟨sent, asked, []⟩ :=
            .asked rfl hi hm hsend
          have hhear : Worked terms bot s' asked (.hear response)
              ⟨s', asked.conclude chat (course name text) (resultOf response), []⟩ :=
            .heard rfl rfl hr
          -- the message goes out, the supervisor comes to its response, and that is heard
          refine ⟨.work r.handlers.length .begin ::
            (events.map .serve ++ [.work r.handlers.length (.hear response)]), s',
            asked.conclude chat (course name text) (resultOf response), ?_, hidle, hview, rfl⟩
          rw [run_among hbegin, run_append, run_serve hrun]
          exact run_among hhear []

variable (terms bot r rest s) in
/-- A reply is sent over a network. -/
theorem exists_run_send (network : Http.Network) {reply : Int64 × Text}
    (hs : h.stage = .ready reply) :
    ∃ events h' acts,
      (r.among rest s h []).run terms bot events = some (r.among rest s h' acts) ∧
        acts.filterMap Act.request? = (bot.sendMessage network reply.1 reply.2).requests := by
  unfold Bot.sendMessage
  cases hcall : bot.call "sendMessage" with
  | error e =>
      exact ⟨[.work r.handlers.length .send], _, _, run_among (.unsent hs hcall) [], rfl⟩
  | ok url =>
      dsimp only
      set first := messageRequest url reply.1 reply.2 true
      set second := messageRequest url reply.1 reply.2 false
      by_cases he : refusesMarkup (network first) = true
      · rw [if_pos he]
        refine ⟨[.work r.handlers.length .send, .work r.handlers.length (.finish (network first)),
          .work r.handlers.length (.finish (network second))], { h with stage := .done reply },
          [.sent first, .ended (network first), .sent second, .ended (network second)], ?_, rfl⟩
        rw [run_among (.sent hs hcall), run_among (.refused rfl he), run_among (.endedAgain rfl)]
        rfl
      · rw [if_neg he]
        refine ⟨[.work r.handlers.length .send, .work r.handlers.length (.finish (network first))],
          { h with stage := .done reply }, [.sent first, .ended (network first)], ?_, rfl⟩
        rw [run_among (.sent hs hcall), run_among (.ended rfl he)]
        rfl

variable (bot r rest) in
/-- With nothing else going on, an update comes to what its reply and the sending of it come to. -/
theorem exists_run_update (world : Assistant.World) (hcap : 0 < terms.capacity) (hs : Idle s)
    (network : Http.Network) (u : Update) :
    ∃ events s' h' acts,
      (r.among rest s (.start u) []).run terms bot events = some (r.among rest s' h' acts) ∧
        Idle s' ∧ s'.view = (replyTo terms.setup world s.view u).supervisor ∧
        acts.filterMap Act.request? =
          (replyTo terms.setup world s.view u).result.elim [] fun reply =>
            (bot.sendMessage network reply.1 reply.2).requests := by
  obtain ⟨events, s', h', hrun, hidle, hview, hstage⟩ :=
    exists_run_begin bot r rest world hcap hs u
  cases hreply : (replyTo terms.setup world s.view u).result with
  | none => exact ⟨events, s', h', [], hrun, hidle, hview, rfl⟩
  | some reply =>
      rw [hreply] at hstage
      obtain ⟨more, done, acts, hmore, hacts⟩ :=
        exists_run_send terms bot r rest s' network hstage
      refine ⟨events ++ more, s', done, acts, ?_, hidle, hview, hacts⟩
      rw [run_append, hrun]
      exact hmore

end Alone

/-- With nothing else going on, the handlers of a batch come to what dealing with its updates one
after the other comes to. -/
theorem exists_run_handle (world : Nat → Assistant.World) (hcap : 0 < terms.capacity)
    (network : Http.Network) (n : Nat) {updates : List Update} {r : Reception}
    (hr : ∃ handlers, r.handlers = handlers ++ updates.map .start) (hs : Idle r.service) :
    ∃ events r' traffic,
      r.run terms bot events = some r' ∧ Idle r'.service ∧ r'.offset = r.offset ∧
        r'.service.view =
          (bot.handle terms.setup world network n r.service.view updates).supervisor ∧
        r'.traffic = r.traffic ++ traffic ∧
        traffic.filterMap (·.2.request?) =
          (bot.handle terms.setup world network n r.service.view updates).requests := by
  induction updates generalizing n r with
  | nil => exact ⟨[], r, [], rfl, hs, rfl, rfl, (List.append_nil _).symm, rfl⟩
  | cons u others ih =>
      obtain ⟨handlers, hhandlers⟩ := hr
      obtain ⟨events, s, h, acts, hrun, hidle, hview, hacts⟩ :=
        exists_run_update bot { r with handlers := handlers } (others.map .start) (world n) hcap hs
          network u
      have hstart :
          among { r with handlers := handlers } (others.map .start) r.service (.start u) [] =
            r := by
        simp only [among, List.map_nil, List.append_nil]
        rw [← List.map_cons, ← hhandlers]
      rw [hstart] at hrun
      obtain ⟨more, r', traffic, hmore, hidle', hoffset, hview', htraffic, hrequests⟩ :=
        ih (n + 1) (r := among { r with handlers := handlers } (others.map .start) s h acts)
          ⟨handlers ++ [h], by simp [among]⟩ hidle
      refine ⟨events ++ more, r', acts.map (handlers.length, ·) ++ traffic, ?_, hidle', hoffset, ?_,
        ?_, ?_⟩
      · rw [run_append, hrun]
        exact hmore
      · rw [hview']
        simp only [among, hview]
        rfl
      · rw [htraffic]
        exact List.append_assoc _ _ _
      · rw [List.filterMap_append, hrequests, List.filterMap_map]
        simp only [among, hview]
        exact congrArg (· ++ _) hacts

/-- With nothing else going on, a poll and its handlers come to what the poll of the bot is. -/
theorem exists_run_poll (world : Nat → Assistant.World) (hcap : 0 < terms.capacity)
    (network : Http.Network) (hs : Idle r.service) :
    ∃ events r' traffic,
      r.run terms bot (.poll network :: events) = some r' ∧ Idle r'.service ∧
        r'.offset = (bot.poll terms.setup world network r.service.view r.offset).offset ∧
        r'.service.view =
          (bot.poll terms.setup world network r.service.view r.offset).batch.supervisor ∧
        r'.traffic = r.traffic ++ traffic ∧
        traffic.filterMap (·.2.request?) =
          (bot.poll terms.setup world network r.service.view r.offset).batch.requests.filter
            sends := by
  obtain ⟨hoffset, hbatch⟩ := bot.poll_eq terms.setup world network r.service.view r.offset
  obtain ⟨events, r', traffic, hrun, hidle, hoffset', hview, htraffic, hrequests⟩ :=
    exists_run_handle (r := { r with
        offset := advance r.offset (bot.batch network r.offset)
        handlers := r.handlers ++ (bot.batch network r.offset).map .start })
      world hcap network 0 ⟨_, rfl⟩ hs
  refine ⟨events, r', traffic, hrun, hidle, hoffset'.trans hoffset.symm, ?_, htraffic, ?_⟩
  · rw [hview, hbatch]
    rfl
  · rw [hrequests, bot.sends_poll]

end Reception
end BotApi
end ChatAssistant
