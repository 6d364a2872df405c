import ChatAssistant.Proofs.BotApi.Offset
import ChatAssistant.Proofs.Supervisor.Memory
import Mathlib.Data.List.Nodup

/-!
# Updates on their way

A service holds updates until a call says that they are not needed any more, and hands out some of
those that it holds; a bot asks again and again, and deals with what it gets.  Updates come in at
any time in between, calls may fail, and the service hands out as few updates as it likes, in any
order.  What the bot deals with is decided by one number alone, the one that it goes on from.

* `Update.Says`, `Replied` — what dealing with updates comes to: a reply to each of them;
* `Serves` — what a call does to the updates that the service holds;
* `Feed.Stepped`, `Feed.Run` — the service and the bot, event by event: the bot's part of each event
  is its own call;
* `Feed.Sound` — the invariant: what is behind the number was dealt with, and what is not is held;
* `Feed.OnlyReplied`, `Feed.Run.done_of_first` — what all calls together do;
* `Feed.dealt_of_run` — no update is lost, none is dealt with twice, and none that was passed over
  is dealt with at all.
-/

namespace ChatAssistant
namespace BotApi

/-! ## The bot -/

/-- The batches that polls bring, one after the other, each with the network of its poll. -/
def Bot.batches (bot : Bot) (offset : Int64) : List Http.Network → List (Http.Network × List Update)
  | [] => []
  | network :: rest =>
      let batch := bot.batch network offset
      (network, batch) :: Bot.batches bot (advance offset batch) rest

/-- The request sends a message. -/
def sends (request : Http.Request) : Bool := request.method = .post

variable {bot : Bot} {network : Http.Network} {offset : Int64}

/-- Asking for updates sends no message. -/
theorem Bot.sends_getUpdates (bot : Bot) (network : Http.Network) (offset : Int64) (seconds : Nat) :
    (bot.getUpdates network offset seconds).requests.filter sends = [] := by
  unfold getUpdates
  split
  · rfl
  · rfl

/-- The number that the bot starts from is that behind what is passed over, or zero. -/
theorem Bot.start_eq (bot : Bot) (network : Http.Network) :
    (bot.skipPending network 0).result.toOption.getD 0 =
      (bot.getUpdates network lastOnly 0).result.toOption.elim 0 (skip 0) := by
  unfold skipPending
  dsimp only
  cases (bot.getUpdates network lastOnly 0).result with
  | error fault => rfl
  | ok updates => rfl

/-- All that is sent for messages are messages. -/
theorem Bot.sends_sendMessage (bot : Bot) (network : Http.Network) (chat : Int64) (text : Text) :
    (bot.sendMessage network chat text).requests.filter sends =
      (bot.sendMessage network chat text).requests := by
  unfold sendMessage
  split
  · rfl
  · dsimp only
    split
    · rfl
    · rfl

theorem Bot.sends_handle (bot : Bot) (setup : Setup) (world : Nat → Assistant.World)
    (network : Http.Network) (n : Nat) (s : Supervisor) (updates : List Update) :
    (bot.handle setup world network n s updates).requests.filter sends =
      (bot.handle setup world network n s updates).requests := by
  induction updates generalizing n s with
  | nil => rfl
  | cons u rest ih =>
      simp only [handle, handleUpdate, Batch.andThen, List.filter_append, ih]
      congr 1
      cases (replyTo setup (world n) s u).result with
      | none => rfl
      | some reply => exact bot.sends_sendMessage network reply.1 reply.2

/-- A poll sends the messages of its updates. -/
theorem Bot.sends_poll (bot : Bot) (setup : Setup) (world : Nat → Assistant.World)
    (network : Http.Network) (s : Supervisor) (offset : Int64) :
    (bot.poll setup world network s offset).batch.requests.filter sends =
      (bot.handle setup world network 0 s (bot.batch network offset)).requests := by
  rw [(bot.poll_eq setup world network s offset).2]
  dsimp only [Batch.andThen, Batch.asked]
  rw [List.filter_append, bot.sends_getUpdates, bot.sends_handle, List.nil_append]

/-- All else that a poll sends is its call for updates. -/
theorem Bot.asks_poll (bot : Bot) (setup : Setup) (world : Nat → Assistant.World)
    (network : Http.Network) (s : Supervisor) (offset : Int64) :
    (bot.poll setup world network s offset).batch.requests.filter (!sends ·) =
      (bot.getUpdates network offset pollSeconds).requests := by
  have hasks : ∀ request ∈ (bot.getUpdates network offset pollSeconds).requests,
      (!sends request) = true := by
    intro request hr
    have hnone := bot.sends_getUpdates network offset pollSeconds
    simpa using List.filter_eq_nil_iff.1 hnone request hr
  have hmessages : ∀ request ∈
      (bot.handle setup world network 0 s (bot.batch network offset)).requests,
        ¬ (!sends request) = true := by
    intro request hr
    rw [← bot.sends_handle, List.mem_filter] at hr
    simp [hr.2]
  rw [(bot.poll_eq setup world network s offset).2]
  dsimp only [Batch.andThen, Batch.asked]
  rw [List.filter_append, List.filter_eq_self.2 hasks, List.filter_eq_nil_iff.2 hmessages,
    List.append_nil]

/-! ## Replies to updates -/

/-- The update is a message with this text, in this chat and from somebody of this name, which is
empty if it is not known. -/
def Update.Says (u : Update) (chat : Int64) (name text : Text) : Prop :=
  ∃ m, u.message = some m ∧ m.chat = chat ∧ m.firstName.getD [] = name ∧ m.text = some text

theorem Update.incoming?_eq_some_iff {u : Update} {chat : Int64} {name text : Text} :
    u.incoming? = some (chat, name, text) ↔ u.Says chat name text := by
  unfold incoming? Says
  cases u.message with
  | none => simp
  | some m =>
      cases hs : m.text with
      | none => simp [hs]
      | some said => simp [hs]

/-- An update, with what it meets when it is dealt with. -/
structure Meeting where
  update : Update
  world : Assistant.World
  network : Http.Network

/-- Updates are replied to, one after the other, and nothing else is done: how the supervisor comes
out of it, what the encyclopedia is asked, and the requests that send the replies. -/
inductive Replied (bot : Bot) (setup : Setup) :
    Supervisor → List Meeting → Supervisor → List Text → List Http.Request → Prop where
  | nil (s : Supervisor) : Replied bot setup s [] s [] []
  /-- Without a text there is nothing to reply to. -/
  | passed {s s' : Supervisor} {m : Meeting} {rest : List Meeting} {queries : List Text}
      {requests : List Http.Request} (hm : ∀ chat name text, ¬ m.update.Says chat name text)
      (h : Replied bot setup s rest s' queries requests) :
      Replied bot setup s (m :: rest) s' queries requests
  /-- What the conversation says is sent to the chat of the message. -/
  | heard {s s' : Supervisor} {m : Meeting} {rest : List Meeting} {queries : List Text}
      {requests : List Http.Request} {chat : Int64} {name text : Text}
      {turn : Supervisor.Turn (Option Text)} (hm : m.update.Says chat name text)
      (ht : turn = Conversation.respond setup m.world s name text)
      (h : Replied bot setup turn.supervisor rest s' queries requests) :
      Replied bot setup s (m :: rest) s' (turn.queries ++ queries)
        ((turn.result.elim [] fun answer => (bot.sendMessage m.network chat answer).requests) ++
          requests)

section Replied

variable {setup : Setup} {s s' s'' : Supervisor} {meetings more : List Meeting}
  {queries queries' : List Text} {requests requests' : List Http.Request}

theorem Replied.append (h : Replied bot setup s meetings s' queries requests)
    (h' : Replied bot setup s' more s'' queries' requests') :
    Replied bot setup s (meetings ++ more) s'' (queries ++ queries') (requests ++ requests') := by
  induction h with
  | nil => exact h'
  | passed hm _ ih => exact .passed hm (ih h')
  | heard hm ht _ ih =>
      rw [List.append_assoc, List.append_assoc]
      exact .heard hm ht (ih h')

/-- Dealing with an update is replying to it. -/
theorem Replied.cons {m : Meeting}
    (h : Replied bot setup (bot.handleUpdate setup m.world m.network s m.update).supervisor meetings
      s' queries requests) :
    Replied bot setup s (m :: meetings) s'
      ((bot.handleUpdate setup m.world m.network s m.update).queries ++ queries)
      ((bot.handleUpdate setup m.world m.network s m.update).requests ++ requests) := by
  unfold Bot.handleUpdate replyTo at h ⊢
  cases hi : m.update.incoming? with
  | none =>
      simp only [hi] at h ⊢
      refine .passed (fun chat name text hsays => ?_) h
      rw [Update.incoming?_eq_some_iff.2 hsays] at hi
      cases hi
  | some incoming =>
      obtain ⟨chat, name, text⟩ := incoming
      simp only [hi] at h ⊢
      have hheard := Replied.heard (Update.incoming?_eq_some_iff.1 hi) rfl h
      cases hresult : (Conversation.respond setup m.world s name text).result with
      | none =>
          rw [hresult] at hheard
          exact hheard
      | some answer =>
          rw [hresult] at hheard
          exact hheard

/-- The updates that are dealt with are those that were given. -/
theorem Bot.handled_handle (bot : Bot) (setup : Setup) (world : Nat → Assistant.World)
    (network : Http.Network) (n : Nat) (s : Supervisor) (updates : List Update) :
    (bot.handle setup world network n s updates).handled = updates := by
  induction updates generalizing n s with
  | nil => rfl
  | cons u rest ih => exact congrArg (u :: ·) (ih (n + 1) _)

/-- Dealing with updates is replying to them, in this order. -/
theorem Bot.replied_handle (bot : Bot) (setup : Setup) (world : Nat → Assistant.World)
    (network : Http.Network) (n : Nat) (s : Supervisor) (updates : List Update) :
    ∃ meetings, meetings.map (·.update) = updates ∧
      (∀ m ∈ meetings, m.network = network ∧ ∃ place, m.world = world place) ∧
      Replied bot setup s meetings (bot.handle setup world network n s updates).supervisor
        (bot.handle setup world network n s updates).queries
        (bot.handle setup world network n s updates).requests := by
  induction updates generalizing n s with
  | nil => exact ⟨[], rfl, nofun, .nil s⟩
  | cons u rest ih =>
      obtain ⟨meetings, hupdates, hmet, hreplied⟩ :=
        ih (n + 1) (bot.handleUpdate setup (world n) network s u).supervisor
      refine ⟨⟨u, world n, network⟩ :: meetings, congrArg (u :: ·) hupdates, ?_, ?_⟩
      · exact List.forall_mem_cons.2 ⟨⟨rfl, n, rfl⟩, hmet⟩
      · exact .cons (m := ⟨u, world n, network⟩) hreplied

end Replied

/-! ## The service -/

/-- What a call does to the updates that the service holds, which are given from the oldest to the
newest: the end of its exchange, the updates that are handed out, and those that are still held. -/
inductive Serves (pending : List Update) (request : Http.Request) :
    Http.Exchange → List Update → List Update → Prop where
  /-- A call that fails has no effect. -/
  | failed {e : Http.Exchange} (h : (updatesOf e).toOption = none) :
      Serves pending request e [] pending
  /-- Only the newest update is handed out, and the others are forgotten. -/
  | newest {e : Http.Exchange} (hw : Wants request lastOnly)
      (h : (updatesOf e).toOption = some pending.getLast?.toList) :
      Serves pending request e pending.getLast?.toList pending.getLast?.toList
  /-- All updates before a number are forgotten, and some of the oldest others are handed out, in
  any order. -/
  | batch {e : Http.Exchange} {offset : Int64} {front rest returned : List Update}
      (hw : Wants request offset) (hpos : 0 ≤ offset)
      (hp : pending.filter (offset ≤ ·.id) = front ++ rest) (hr : returned.Perm front)
      (h : (updatesOf e).toOption = some returned) :
      Serves pending request e returned (front ++ rest)

/-- What is done for the requests of a call, of which there is one at most. -/
inductive Served (pending : List Update) (network : Http.Network) :
    List Http.Request → List Update → List Update → Prop where
  | nothing : Served pending network [] [] pending
  | request {request : Http.Request} {returned left : List Update}
      (h : Serves pending request (network request) returned left) :
      Served pending network [request] returned left

/-- All updates that there are, and how far the bot has come. -/
structure Feed where
  /-- All updates that ever came in, from the oldest to the newest. -/
  arrived : List Update
  /-- The updates that the service holds. -/
  pending : List Update
  /-- What was handed out to be passed over. -/
  skipped : List Update
  /-- What was handed out to polls. -/
  delivered : List Update
  /-- What the calls of the bot have done. -/
  done : Batch
  /-- The number to go on from; none before the start. -/
  offset : Option Int64
  deriving DecidableEq, Repr

inductive Event where
  /-- An update comes in. -/
  | arrive (u : Update)
  /-- The bot makes its next call, over this network.  The updates that the call brings meet these
  worlds. -/
  | call (network : Http.Network) (world : Nat → Assistant.World)

/-- What the calls meet. -/
def calls (history : List Event) : List (Http.Network × (Nat → Assistant.World)) :=
  history.filterMap fun
    | .call network world => some (network, world)
    | .arrive _ => none

/-- The update is dealt with in a call of the history. -/
def Meeting.Within (m : Meeting) (history : List Event) : Prop :=
  ∃ world place, .call m.network world ∈ history ∧ m.world = world place

theorem Meeting.Within.mono {m : Meeting} {past more : List Event} (hm : m.Within past)
    (h : past ⊆ more) : m.Within more := by
  obtain ⟨world, place, hcall, hworld⟩ := hm
  exact ⟨world, place, h hcall, hworld⟩

namespace Feed

/-- Before the first update. -/
def initial (s : Supervisor) : Feed := ⟨[], [], [], [], .asked s [], none⟩

/-- The update is newer than what was passed over. -/
def IsNew (f : Feed) (u : Update) : Prop := ∀ last ∈ f.skipped, last.id < u.id

/-- All that an event can do.  Updates come in with increasing numbers, which leave room for a next
one.  The first call passes over what is there, and every other one is a poll; the service does what
is asked for in their requests. -/
inductive Stepped (bot : Bot) (setup : Setup) (f : Feed) : Event → Feed → Prop where
  | arrived {u : Update} (hfits : 0 ≤ u.id ∧ u.id < Int64.maxValue)
      (hnew : ∀ v ∈ f.arrived, v.id < u.id) :
      Stepped bot setup f (.arrive u)
        { f with arrived := f.arrived ++ [u], pending := f.pending ++ [u] }
  | started {network : Http.Network} {world : Nat → Assistant.World} {returned left : List Update}
      (ho : f.offset = none)
      (hs : Served f.pending network (bot.skipPending network 0).requests returned left) :
      Stepped bot setup f (.call network world)
        { f with
          pending := left
          skipped := returned
          done := f.done.andThen (.asked f.done.supervisor (bot.skipPending network 0).requests)
          offset := some ((bot.skipPending network 0).result.toOption.getD 0) }
  | polled {network : Http.Network} {world : Nat → Assistant.World} {offset : Int64} {poll : Poll}
      {returned left : List Update} (ho : f.offset = some offset)
      (hp : poll = bot.poll setup world network f.done.supervisor offset)
      (hs : Served f.pending network (poll.batch.requests.filter (!sends ·)) returned left) :
      Stepped bot setup f (.call network world)
        { f with
          pending := left
          delivered := f.delivered ++ returned
          done := f.done.andThen poll.batch
          offset := some poll.offset }

inductive Run (bot : Bot) (setup : Setup) : Feed → List Event → Feed → Prop where
  | nil (f : Feed) : Run bot setup f [] f
  | cons {f next f' : Feed} {event : Event} {history : List Event}
      (h : Stepped bot setup f event next) (hr : Run bot setup next history f') :
      Run bot setup f (event :: history) f'

end Feed

/-! ## One call -/

/-- A call for updates, seen from both sides: it fails and has no effect; or what the bot gets is
what the service hands out, by the number in the request. -/
theorem served_getUpdates {pending returned left : List Update} {seconds : Nat}
    (hs : Served pending network (bot.getUpdates network offset seconds).requests returned left) :
    ((bot.getUpdates network offset seconds).result.toOption = none ∧ returned = [] ∧
        left = pending) ∨
      ((bot.getUpdates network offset seconds).result.toOption = some returned ∧
        ((offset = lastOnly ∧ returned = pending.getLast?.toList ∧
            left = pending.getLast?.toList) ∨
          (0 ≤ offset ∧ ∃ front rest, pending.filter (offset ≤ ·.id) = front ++ rest ∧
            returned.Perm front ∧ left = front ++ rest))) := by
  unfold Bot.getUpdates at hs ⊢
  cases hcall : bot.call "getUpdates" with
  | error e =>
      simp only [hcall] at hs
      cases hs
      exact .inl ⟨rfl, rfl, rfl⟩
  | ok url =>
      simp only [hcall] at hs
      have hwants := wants_updatesRequest url offset seconds
      cases hs with
      | request h =>
          cases h with
          | failed h => exact .inl ⟨h, rfl, rfl⟩
          | newest hw h => exact .inr ⟨h, .inl ⟨hwants.eq hw, rfl, rfl⟩⟩
          | batch hw hpos hp hr h =>
              have hsame := hw.eq hwants
              subst hsame
              exact .inr ⟨h, .inr ⟨hpos, _, _, hp, hr, rfl⟩⟩

/-! ## The invariant -/

namespace Feed

variable {setup : Setup} {world : Nat → Assistant.World} {s : Supervisor} {f f' : Feed}
  {event : Event} {history : List Event} {u : Update}

/-- How things stand once the bot goes on from a number. -/
structure Past (f : Feed) (offset : Int64) : Prop where
  nonneg : 0 ≤ offset
  /-- The service still holds all that is not behind the number. -/
  held : f.pending.filter (offset ≤ ·.id) = f.arrived.filter (offset ≤ ·.id)
  nodup : f.done.handled.Nodup
  /-- What is behind the number was dealt with, unless it was passed over. -/
  mem_iff : ∀ u, u ∈ f.done.handled ↔ u ∈ f.arrived ∧ f.IsNew u ∧ u.id < offset
  skipped : ∀ u ∈ f.skipped, u.id < offset
  /-- The number does not run ahead of the updates. -/
  least : ∀ x, 0 ≤ x → (∀ v ∈ f.arrived, v.id < x) → offset ≤ x

/-- How things stand at any time. -/
structure Sound (f : Feed) : Prop where
  fits : ∀ u ∈ f.arrived, 0 ≤ u.id ∧ u.id < Int64.maxValue
  sorted : f.arrived.Pairwise (·.id < ·.id)
  /-- The bot has dealt with all that was handed out, in this order. -/
  handled : f.done.handled = f.delivered
  fresh : f.offset = none → f.pending = f.arrived ∧ f.skipped = [] ∧ f.delivered = []
  past : ∀ offset ∈ f.offset, f.Past offset

theorem sound_initial (s : Supervisor) : Sound (initial s) where
  fits := nofun
  sorted := .nil
  handled := rfl
  fresh _ := ⟨rfl, rfl, rfl⟩
  past := nofun

theorem mem_filter_iff {updates : List Update} :
    u ∈ updates.filter (offset ≤ ·.id) ↔ u ∈ updates ∧ offset ≤ u.id := by
  simp

/-! ### An update comes in -/

/-- An update that comes in is not behind the number. -/
theorem Past.arrive (hp : f.Past offset) (hu : 0 ≤ u.id) (hnew : ∀ v ∈ f.arrived, v.id < u.id) :
    Past { f with arrived := f.arrived ++ [u], pending := f.pending ++ [u] } offset := by
  have hle : offset ≤ u.id := hp.least u.id hu hnew
  constructor
  case nonneg => exact hp.nonneg
  case nodup => exact hp.nodup
  case skipped => exact hp.skipped
  case held =>
    dsimp only
    rw [List.filter_append, List.filter_append, hp.held]
  case mem_iff =>
    intro v
    refine (hp.mem_iff v).trans ?_
    constructor
    · rintro ⟨hv, hrest⟩
      exact ⟨List.mem_append_left _ hv, hrest⟩
    · rintro ⟨hv, hv', hlt⟩
      rcases List.mem_append.1 hv with hv | hv
      · exact ⟨hv, hv', hlt⟩
      · rw [List.mem_singleton.1 hv] at hlt
        exact absurd hle (Int64.not_le.2 hlt)
  case least =>
    intro x hx hall
    exact hp.least x hx fun v hv => hall v (List.mem_append_left _ hv)

/-! ### The start -/

/-- Where nothing was passed over, the bot goes on from zero. -/
theorem past_zero (hfits : ∀ u ∈ f.arrived, 0 ≤ u.id) (hpending : f.pending = f.arrived)
    (hskipped : f.skipped = []) (hhandled : f.done.handled = []) : f.Past 0 := by
  constructor
  case nonneg => exact Int64.le_refl 0
  case held => rw [hpending]
  case nodup =>
    rw [hhandled]
    exact List.nodup_nil
  case mem_iff =>
    intro u
    rw [hhandled]
    refine ⟨nofun, ?_⟩
    rintro ⟨hu, _, hlt⟩
    exact absurd (hfits u hu) (Int64.not_le.2 hlt)
  case skipped =>
    rw [hskipped]
    nofun
  case least => exact fun x hx _ => hx

/-- Where the newest update was passed over, all are behind the number. -/
theorem past_next {before : List Update} {last : Update}
    (hfits : 0 ≤ last.id ∧ last.id < Int64.maxValue) (harrived : f.arrived = before ++ [last])
    (hsorted : f.arrived.Pairwise (·.id < ·.id)) (hpending : f.pending = [last])
    (hskipped : f.skipped = [last]) (hhandled : f.done.handled = []) : f.Past last.next := by
  have hnext (x : Int64) : last.next ≤ x ↔ last.id < x := Update.next_le_iff hfits.2
  have hlt : last.id < last.next := (hnext _).1 (Int64.le_refl _)
  have hlast : ∀ u ∈ f.arrived, u.id ≤ last.id := by
    intro u hu
    rw [harrived] at hu hsorted
    rcases List.mem_append.1 hu with hu | hu
    · exact Int64.le_of_lt ((List.pairwise_append.1 hsorted).2.2 u hu last List.mem_cons_self)
    · rw [List.mem_singleton.1 hu]
      exact Int64.le_refl _
  have hnone (updates : List Update) (h : ∀ u ∈ updates, u.id ≤ last.id) :
      updates.filter (last.next ≤ ·.id) = [] := by
    refine List.filter_eq_nil_iff.2 fun u hu hle => ?_
    have hlt' := (hnext _).1 (of_decide_eq_true hle)
    exact absurd (h u hu) (Int64.not_le.2 hlt')
  have hmem : last ∈ f.arrived := by
    rw [harrived]
    exact List.mem_append_right _ List.mem_cons_self
  constructor
  case nonneg => exact Int64.le_trans hfits.1 (Int64.le_of_lt hlt)
  case held =>
    have hpendingLast : ∀ u ∈ f.pending, u.id ≤ last.id := by
      intro u hu
      rw [hpending] at hu
      rw [List.mem_singleton.1 hu]
      exact Int64.le_refl _
    rw [hnone _ hpendingLast, hnone _ hlast]
  case nodup =>
    rw [hhandled]
    exact List.nodup_nil
  case mem_iff =>
    intro u
    rw [hhandled]
    refine ⟨nofun, ?_⟩
    rintro ⟨hu, hnew, _⟩
    have hlt' : last.id < u.id := hnew last (by rw [hskipped]; exact List.mem_cons_self)
    exact absurd (hlast u hu) (Int64.not_le.2 hlt')
  case skipped =>
    intro u hu
    rw [hskipped] at hu
    rw [List.mem_singleton.1 hu]
    exact hlt
  case least => exact fun x _ hall => (hnext x).2 (hall last hmem)

/-! ### A poll -/

/-- Where nothing more is dealt with, the number stays. -/
theorem Past.idle (hp : f.Past offset) {done : Batch} (hd : done.handled = f.done.handled) :
    Past { f with done := done, offset := some offset } offset := by
  refine ⟨hp.nonneg, hp.held, ?_, ?_, hp.skipped, hp.least⟩
  · dsimp only
    rw [hd]
    exact hp.nodup
  · dsimp only
    rw [hd]
    exact hp.mem_iff

/-- After a batch that holds the oldest updates from the number on, the bot goes on from the number
behind them. -/
theorem Past.deal (hp : f.Past offset) (hs : f.Sound) {front rest returned : List Update}
    {done : Batch} (hfront : f.pending.filter (offset ≤ ·.id) = front ++ rest)
    (hr : returned.Perm front) (hd : done.handled = f.done.handled ++ returned) :
    Past
      { f with
        pending := front ++ rest
        delivered := f.delivered ++ returned
        done := done
        offset := some (advance offset returned) }
      (advance offset returned) := by
  have hall : f.arrived.filter (offset ≤ ·.id) = front ++ rest := hp.held.symm.trans hfront
  have hmem (v : Update) : v ∈ front ++ rest ↔ v ∈ f.arrived ∧ offset ≤ v.id := by
    rw [← hall]
    exact mem_filter_iff
  have hreturned : ∀ v ∈ returned, v ∈ f.arrived ∧ offset ≤ v.id :=
    fun v hv => (hmem v).1 (List.mem_append_left _ (hr.mem_iff.1 hv))
  have hadvance (x : Int64) : advance offset returned ≤ x ↔ offset ≤ x ∧ ∀ v ∈ returned, v.id < x :=
    advance_le_iff fun v hv => (hs.fits v (hreturned v hv).1).2
  obtain ⟨hle, hbehind⟩ := (hadvance _).1 (Int64.le_refl _)
  have hsorted : (front ++ rest).Pairwise (·.id < ·.id) := by
    rw [← hall]
    exact hs.sorted.sublist List.filter_sublist
  constructor
  case nonneg => exact Int64.le_trans hp.nonneg hle
  case held =>
    dsimp only
    rw [← hall, List.filter_filter]
    refine List.filter_congr fun v _ => ?_
    -- what is not behind the new number is not behind the old one either
    by_cases hv : advance offset returned ≤ v.id
    · have hv' : offset ≤ v.id := Int64.le_trans hle hv
      simp [hv, hv']
    · simp [hv]
  case nodup =>
    dsimp only
    rw [hd]
    refine List.nodup_append.2 ⟨hp.nodup, ?_, ?_⟩
    · have hnodup : (front ++ rest).Nodup := by
        refine hsorted.imp fun {v w} hlt heq => ?_
        rw [heq] at hlt
        exact Int64.lt_irrefl hlt
      exact hr.nodup_iff.2 (List.nodup_append.1 hnodup).1
    · rintro v hv w hw rfl
      exact absurd (hreturned v hw).2 (Int64.not_le.2 ((hp.mem_iff v).1 hv).2.2)
  case mem_iff =>
    intro v
    dsimp only
    rw [hd]
    constructor
    · intro hv
      rcases List.mem_append.1 hv with hv | hv
      · obtain ⟨harrived, hnew, hlt⟩ := (hp.mem_iff v).1 hv
        exact ⟨harrived, hnew, Int64.lt_of_lt_of_le hlt hle⟩
      · obtain ⟨harrived, hv'⟩ := hreturned v hv
        refine ⟨harrived, ?_, hbehind v hv⟩
        exact fun last hlast => Int64.lt_of_lt_of_le (hp.skipped last hlast) hv'
    · rintro ⟨harrived, hnew, hlt⟩
      by_cases hv : offset ≤ v.id
      · -- An update of the rest is newer than the whole batch, so the number stops before it.
        refine List.mem_append_right _ (hr.mem_iff.2 ?_)
        rcases List.mem_append.1 ((hmem v).2 ⟨harrived, hv⟩) with hfrontmem | hrest
        · exact hfrontmem
        · have hstop : advance offset returned ≤ v.id := by
            refine (hadvance v.id).2 ⟨hv, fun w hw => ?_⟩
            exact (List.pairwise_append.1 hsorted).2.2 w (hr.mem_iff.1 hw) v hrest
          exact absurd hstop (Int64.not_le.2 hlt)
      · have hlt' := Int64.not_le.1 hv
        exact List.mem_append_left _ ((hp.mem_iff v).2 ⟨harrived, hnew, hlt'⟩)
  case skipped =>
    exact fun last hlast => Int64.lt_of_lt_of_le (hp.skipped last hlast) hle
  case least =>
    intro x hx harrived
    refine (hadvance x).2 ⟨hp.least x hx harrived, ?_⟩
    exact fun v hv => harrived v (hreturned v hv).1

/-! ### All events -/

theorem Sound.arrive (hs : f.Sound) (hfits : 0 ≤ u.id ∧ u.id < Int64.maxValue)
    (hnew : ∀ v ∈ f.arrived, v.id < u.id) :
    Sound { f with arrived := f.arrived ++ [u], pending := f.pending ++ [u] } := by
  constructor
  case fits =>
    intro v hv
    rcases List.mem_append.1 hv with hv | hv
    · exact hs.fits v hv
    · rw [List.mem_singleton.1 hv]
      exact hfits
  case sorted =>
    refine List.pairwise_append.2 ⟨hs.sorted, List.pairwise_singleton _ _, ?_⟩
    intro v hv w hw
    rw [List.mem_singleton.1 hw]
    exact hnew v hv
  case handled => exact hs.handled
  case fresh =>
    intro ho
    obtain ⟨hpending, hskipped, hdelivered⟩ := hs.fresh ho
    exact ⟨congrArg (· ++ [u]) hpending, hskipped, hdelivered⟩
  case past => exact fun offset ho => (hs.past offset ho).arrive hfits.1 hnew

theorem Sound.start {returned left : List Update} (hs : f.Sound) (ho : f.offset = none)
    (hserved : Served f.pending network (bot.skipPending network 0).requests returned left) :
    Sound
      { f with
        pending := left
        skipped := returned
        done := f.done.andThen (.asked f.done.supervisor (bot.skipPending network 0).requests)
        offset := some ((bot.skipPending network 0).result.toOption.getD 0) } := by
  obtain ⟨hpending, hskipped, hdelivered⟩ := hs.fresh ho
  have hhandled : f.done.handled ++ [] = [] :=
    (List.append_nil _).trans (hs.handled.trans hdelivered)
  have hpositive : ∀ u ∈ f.arrived, 0 ≤ u.id := fun u hu => (hs.fits u hu).1
  refine ⟨hs.fits, hs.sorted, hhandled.trans hdelivered.symm, nofun, ?_⟩
  intro offset hoffset
  obtain rfl := Option.some.inj hoffset
  rcases served_getUpdates hserved with ⟨hnone, rfl, rfl⟩ | ⟨hok, hnewest | hbatch⟩
  · rw [bot.start_eq, hnone]
    exact past_zero hpositive hpending rfl hhandled
  · obtain ⟨_, hreturned, hleft⟩ := hnewest
    rw [bot.start_eq, hok]
    rw [hpending] at hreturned hleft
    cases hlast : f.arrived.getLast? with
    | none =>
        rw [hlast] at hreturned hleft
        have hnil : f.arrived = [] := List.getLast?_eq_none_iff.1 hlast
        subst hreturned hleft
        exact past_zero hpositive hnil.symm rfl hhandled
    | some last =>
        rw [hlast] at hreturned hleft
        obtain ⟨before, harrived⟩ := List.getLast?_eq_some_iff.1 hlast
        have hfits := hs.fits last (List.mem_of_getLast? hlast)
        subst hreturned hleft
        exact past_next hfits harrived hs.sorted rfl rfl hhandled
  · exact absurd hbatch.1 (by decide)

theorem Sound.poll {poll : Poll} {returned left : List Update} (hs : f.Sound)
    (ho : f.offset = some offset)
    (hpoll : poll = bot.poll setup world network f.done.supervisor offset)
    (hserved : Served f.pending network (poll.batch.requests.filter (!sends ·)) returned left) :
    Sound
      { f with
        pending := left
        delivered := f.delivered ++ returned
        done := f.done.andThen poll.batch
        offset := some poll.offset } := by
  have hp : f.Past offset := hs.past offset ho
  obtain ⟨hoffset, hbatch⟩ := bot.poll_eq setup world network f.done.supervisor offset
  rw [hpoll, bot.asks_poll] at hserved
  rw [← hpoll] at hoffset hbatch
  have hdone : (f.done.andThen poll.batch).handled =
      f.done.handled ++ bot.batch network offset := by
    rw [hbatch]
    exact congrArg (f.done.handled ++ ·) (bot.handled_handle setup world network 0 _ _)
  rcases served_getUpdates hserved with ⟨hnone, rfl, rfl⟩ | ⟨hok, hnewest | hserves⟩
  · -- a poll that fails changes nothing
    have hnil : bot.batch network offset = [] := by
      unfold Bot.batch
      rw [hnone]
      rfl
    rw [hnil, List.append_nil] at hdone
    rw [hnil, advance_nil] at hoffset
    rw [hoffset, List.append_nil]
    refine ⟨hs.fits, hs.sorted, hdone.trans hs.handled, nofun, ?_⟩
    intro next hnext
    obtain rfl := Option.some.inj hnext
    exact hp.idle hdone
  · rw [hnewest.1] at hp
    exact absurd hp.nonneg (by decide)
  · obtain ⟨_, front, rest, hfront, hr, rfl⟩ := hserves
    have hreturned : bot.batch network offset = returned := by
      unfold Bot.batch
      rw [hok]
      rfl
    rw [hreturned] at hoffset hdone
    rw [hoffset]
    refine ⟨hs.fits, hs.sorted, hdone.trans (congrArg (· ++ returned) hs.handled), nofun, ?_⟩
    intro next hnext
    obtain rfl := Option.some.inj hnext
    exact hp.deal hs hfront hr hdone

theorem Sound.step (hs : f.Sound) (h : Stepped bot setup f event f') : f'.Sound := by
  cases h with
  | arrived hfits hnew => exact hs.arrive hfits hnew
  | started ho hserved => exact hs.start ho hserved
  | polled ho hp hserved => exact hs.poll ho hp hserved

theorem Sound.run (hs : f.Sound) (h : Run bot setup f history f') : f'.Sound := by
  induction h with
  | nil => exact hs
  | cons h hr ih => exact ih (hs.step h)

/-! ## What the bot does -/

/-- All that was done is that updates were replied to, once for each time that they count as dealt
with, and each of them in one of the calls. -/
def OnlyReplied (bot : Bot) (setup : Setup) (s : Supervisor) (past : List Event) (f : Feed) :
    Prop :=
  ∃ meetings, meetings.map (·.update) = f.done.handled ∧ (∀ m ∈ meetings, m.Within past) ∧
    Replied bot setup s meetings f.done.supervisor f.done.queries (f.done.requests.filter sends)

theorem OnlyReplied.step {past : List Event} (hf : OnlyReplied bot setup s past f)
    (h : Stepped bot setup f event f') : OnlyReplied bot setup s (past ++ [event]) f' := by
  obtain ⟨meetings, hupdates, hwithin, hreplied⟩ := hf
  have hwithin' : ∀ m ∈ meetings, m.Within (past ++ [event]) :=
    fun m hm => (hwithin m hm).mono (List.subset_append_left _ _)
  cases h with
  | arrived => exact ⟨meetings, hupdates, hwithin', hreplied⟩
  | @started network =>
      -- passing over updates is asking for them, and no more
      have hnone : (bot.skipPending network 0).requests.filter sends = [] :=
        bot.sends_getUpdates network lastOnly 0
      refine ⟨meetings, hupdates.trans (List.append_nil _).symm, hwithin', ?_⟩
      dsimp only [Batch.andThen, Batch.asked]
      rw [List.filter_append, hnone, List.append_nil, List.append_nil]
      exact hreplied
  | @polled network world offset poll _ _ _ hpoll =>
      have hsends := bot.sends_poll setup world network f.done.supervisor offset
      obtain ⟨_, hbatch⟩ := bot.poll_eq setup world network f.done.supervisor offset
      rw [← hpoll] at hsends hbatch
      obtain ⟨more, hmore, hmet, hreplied'⟩ :=
        bot.replied_handle setup world network 0 f.done.supervisor (bot.batch network offset)
      refine ⟨meetings ++ more, ?_, ?_, ?_⟩
      · have hhandled : poll.batch.handled = more.map (·.update) := by
          rw [hbatch, hmore]
          exact bot.handled_handle setup world network 0 _ _
        rw [List.map_append, hupdates, ← hhandled]
        rfl
      · refine List.forall_mem_append.2 ⟨hwithin', fun m hm => ?_⟩
        obtain ⟨hnetwork, place, hworld⟩ := hmet m hm
        refine ⟨world, place, List.mem_append_right _ ?_, hworld⟩
        rw [hnetwork]
        exact List.mem_singleton_self _
      · dsimp only [Batch.andThen]
        rw [List.filter_append, hsends, hbatch]
        exact hreplied.append hreplied'

theorem OnlyReplied.run {past : List Event} (hf : OnlyReplied bot setup s past f)
    (h : Run bot setup f history f') : OnlyReplied bot setup s (past ++ history) f' := by
  induction h generalizing past with
  | nil =>
      rw [List.append_nil]
      exact hf
  | @cons f next f' event history h hr ih =>
      rw [List.append_cons]
      exact ih (hf.step h)

/-- From a number on, the calls are the polls of a run. -/
theorem Run.done_eq {world : Nat → Nat → Assistant.World} {n : Nat} {networks : List Http.Network}
    (h : Run bot setup f history f') (ho : f.offset = some offset)
    (hc : calls history = networks.mapIdx fun i network => (network, world (n + i))) :
    f'.done = f.done.andThen (bot.pollAll setup world n f.done.supervisor offset networks) := by
  induction h generalizing offset n networks with
  | nil f =>
      have hnil : networks = [] := List.mapIdx_eq_nil_iff.1 hc.symm
      rw [hnil]
      exact (f.done.andThen_asked_nil).symm
  | @cons f next f' event history h hr ih =>
      cases h with
      | arrived => exact ih ho hc
      | started hnone => cases hnone.symm.trans ho
      | @polled network world' offset' poll _ _ ho' hpoll =>
          cases ho'.symm.trans ho
          cases networks with
          | nil => cases hc
          | cons first rest =>
              rw [List.mapIdx_cons] at hc
              obtain ⟨hfirst, hrest⟩ := List.cons.inj hc
              cases hfirst
              have hnext : calls history =
                  rest.mapIdx fun i network => (network, world (n + 1 + i)) := by
                refine hrest.trans ?_
                simp only [Nat.add_assoc, Nat.add_comm 1]
              rw [ih rfl hnext, Batch.andThen_assoc, hpoll]
              rfl

/-- From the start on, the calls are a run of the bot. -/
theorem Run.done_of_first {world : Nat → Nat → Assistant.World}
    {first : Http.Network × (Nat → Assistant.World)} {networks : List Http.Network}
    (h : Run bot setup f history f') (ho : f.offset = none)
    (hc : calls history = first :: networks.mapIdx fun n network => (network, world n)) :
    f'.done = f.done.andThen (bot.run setup world first.1 networks f.done.supervisor) := by
  induction h with
  | nil => cases hc
  | @cons f next f' event history h hr ih =>
      cases h with
      | arrived => exact ih ho hc
      | @started network world' =>
          obtain ⟨hfirst, hrest⟩ := List.cons.inj hc
          cases hfirst
          have hnext : calls history =
              networks.mapIdx fun n network => (network, world (0 + n)) := by
            simp only [Nat.zero_add]
            exact hrest
          rw [hr.done_eq rfl hnext, Batch.andThen_assoc]
          rfl
      | polled ho' => cases ho.symm.trans ho'

/-! ## Together -/

/-- What comes of all updates. -/
structure Dealt (bot : Bot) (setup : Setup) (s : Supervisor) (history : List Event) (f : Feed) :
    Prop where
  /-- Each update that was handed out to a poll is dealt with, once. -/
  once : ∀ u ∈ f.delivered, f.done.handled.count u = 1
  /-- Nothing else is dealt with, and in particular nothing that was passed over. -/
  new : ∀ u ∈ f.done.handled, u ∈ f.delivered ∧ f.IsNew u
  /-- No new update is lost: as long as it is not dealt with, the service holds it, and the bot asks
  for it. -/
  kept : ∀ u ∈ f.arrived, f.IsNew u → u ∉ f.done.handled →
    u ∈ f.pending ∧ ∀ offset ∈ f.offset, offset ≤ u.id
  /-- To deal with an update is to reply to it, and no other message is sent. -/
  replied : OnlyReplied bot setup s history f
  /-- All of this is what a run of the bot does. -/
  run : ∀ world first networks,
    calls history = first :: networks.mapIdx (fun n network => (network, world n)) →
      f.done = bot.run setup world first.1 networks s

/-- However updates come in, whichever calls fail and however few updates are handed out, in any
order, each update that is handed out to a poll is dealt with once, no new one is lost, and none
that was passed over is dealt with. -/
theorem dealt_of_run (h : Run bot setup (initial s) history f) :
    Dealt bot setup s history f := by
  have hs : f.Sound := (sound_initial s).run h
  constructor
  case once =>
    intro u hu
    rw [← hs.handled] at hu
    cases ho : f.offset with
    | none =>
        obtain ⟨_, _, hdelivered⟩ := hs.fresh ho
        rw [hs.handled, hdelivered] at hu
        cases hu
    | some offset => exact List.count_eq_one_of_mem (hs.past offset ho).nodup hu
  case new =>
    intro u hu
    refine ⟨hs.handled ▸ hu, ?_⟩
    cases ho : f.offset with
    | none =>
        obtain ⟨_, hskipped, _⟩ := hs.fresh ho
        intro last hlast
        rw [hskipped] at hlast
        cases hlast
    | some offset => exact ((hs.past offset ho).mem_iff u).1 hu |>.2.1
  case kept =>
    intro u hu hnew hnot
    cases ho : f.offset with
    | none =>
        obtain ⟨hpending, _, _⟩ := hs.fresh ho
        exact ⟨hpending ▸ hu, nofun⟩
    | some offset =>
        have hp := hs.past offset ho
        have hle : offset ≤ u.id :=
          Int64.not_lt.1 fun hlt => hnot ((hp.mem_iff u).2 ⟨hu, hnew, hlt⟩)
        have hheld : u ∈ f.pending.filter (offset ≤ ·.id) := by
          rw [hp.held]
          exact mem_filter_iff.2 ⟨hu, hle⟩
        refine ⟨(mem_filter_iff.1 hheld).1, ?_⟩
        intro offset' ho'
        cases ho'
        exact hle
  case replied =>
    have hstart : OnlyReplied bot setup s [] (initial s) := ⟨[], rfl, nofun, .nil s⟩
    exact hstart.run h
  case run => exact fun world first networks hc => h.done_of_first rfl hc

/-! ### A short run -/

section Short

variable {url : Url} {returned left : List Update}

/-- What is done for the one request of a call. -/
theorem served_of_call {seconds : Nat} {pending : List Update}
    (hcall : bot.call "getUpdates" = .ok url)
    (h : ∀ request, Wants request offset → Serves pending request (network request) returned left) :
    Served pending network (bot.getUpdates network offset seconds).requests returned left := by
  unfold Bot.getUpdates
  simp only [hcall]
  exact .request (h _ (wants_updatesRequest url offset seconds))

theorem stepped_start (hcall : bot.call "getUpdates" = .ok url) (ho : f.offset = none)
    (h : ∀ request, Wants request lastOnly →
      Serves f.pending request (network request) returned left)
    (hn : (bot.skipPending network 0).result.toOption.getD 0 = offset) :
    Stepped bot setup f (.call network world)
      { f with
        pending := left
        skipped := returned
        done := f.done.andThen (.asked f.done.supervisor (bot.skipPending network 0).requests)
        offset := some offset } := by
  rw [← hn]
  exact .started ho (served_of_call hcall h)

theorem stepped_poll {batch : List Update} {next : Int64} (hcall : bot.call "getUpdates" = .ok url)
    (ho : f.offset = some offset)
    (h : ∀ request, Wants request offset →
      Serves f.pending request (network request) returned left)
    (hb : bot.batch network offset = batch) (hn : advance offset batch = next) :
    Stepped bot setup f (.call network world)
      { f with
        pending := left
        delivered := f.delivered ++ returned
        done := f.done.andThen (bot.poll setup world network f.done.supervisor offset).batch
        offset := some next } := by
  have hoffset : (bot.poll setup world network f.done.supervisor offset).offset = next := by
    rw [(bot.poll_eq setup world network _ offset).1, hb, hn]
  rw [← hoffset]
  refine .polled ho rfl ?_
  rw [bot.asks_poll]
  exact served_of_call hcall h

end Short

/-- The answer of a service that lists these records. -/
def listingOf (records : List Text) : Http.Exchange :=
  .answered 200 <| Json.objectText [("ok".toList, "true".toList), ("result".toList, '[' ::
    [','].intercalate records ++ [']'])]

/-- The record of an update that is no message. -/
def numberText (id : Int) : Text := Json.objectText [("update_id".toList, Json.intText id)]

/-- The record of an update with a message, which may have a text. -/
def messageText (id chat : Int) (text : Option String) : Text :=
  Json.objectText [("update_id".toList, Json.intText id), ("message".toList,
    Json.objectText (("chat".toList, Json.objectText [("id".toList, Json.intText chat)]) ::
      text.toList.map fun text => ("text".toList, Json.quoted text.toList)))]

/-- The answer of a service that lists updates with these numbers. -/
def listing (ids : List Int) : Http.Exchange := listingOf (ids.map numberText)

def shortBot : Bot := .ofToken "chat:/".toList "7".toList

/-- An update that is no message. -/
def numbered (id : Int64) : Update := ⟨id, none⟩

/-- An update that asks for a greeting. -/
def greeted (id : Int64) : Update := ⟨id, some ⟨70, none, some "/start".toList⟩⟩

def shortWorld (_ : Nat) : Assistant.World := Supervisor.steadyWorld .missing (Fin.last 2)

/-- One update is there before the start; two come in before a poll that fails and one that gets
both of them, the newer one first. -/
def shortHistory : List Event :=
  [.arrive (greeted 5), .call (fun _ => listingOf [messageText 5 70 (some "/start")]) shortWorld,
    .arrive (numbered 6), .arrive (greeted 8), .call .unreachable shortWorld,
    .call (fun _ => listingOf [messageText 8 70 (some "/start"), numberText 6]) shortWorld]

theorem dealt_of_run_short :
    ∃ f, Run shortBot Supervisor.usualSetup (initial .fresh) shortHistory f ∧
      (f.skipped.map (·.id), f.done.handled.map (·.id), f.offset) = ([5], [8, 6], some 9) ∧
      f.done.requests.map sends = [false, false, false, true] ∧
      Dealt shortBot Supervisor.usualSetup .fresh shortHistory f := by
  have hsome : (shortBot.call "getUpdates").toOption.isSome = true := by decide +kernel
  obtain ⟨url, hcall⟩ : ∃ url, shortBot.call "getUpdates" = .ok url := by
    cases hcall : shortBot.call "getUpdates" with
    | error e =>
        rw [hcall] at hsome
        cases hsome
    | ok url => exact ⟨url, rfl⟩
  have hlast : (updatesOf (listingOf [messageText 5 70 (some "/start")])).toOption =
      some [greeted 5] := by decide +kernel
  have hstart : (shortBot.skipPending (fun _ => listingOf [messageText 5 70 (some "/start")])
      0).result.toOption.getD 0 = 6 := by decide +kernel
  have hnone : shortBot.batch .unreachable 6 = [] := by decide +kernel
  have hboth : (updatesOf (listingOf [messageText 8 70 (some "/start"), numberText 6])).toOption =
      some [greeted 8, numbered 6] := by decide +kernel
  have hbatch : shortBot.batch
      (fun _ => listingOf [messageText 8 70 (some "/start"), numberText 6]) 6 =
        [greeted 8, numbered 6] := by decide +kernel
  have hfront : [greeted 5, numbered 6, greeted 8].filter (6 ≤ ·.id) =
      [numbered 6, greeted 8] ++ [] := by decide
  have hnext : advance 6 [greeted 8, numbered 6] = 9 := by decide
  have h : Run shortBot Supervisor.usualSetup (initial .fresh) shortHistory _ :=
    .cons (.arrived (by decide) (by decide)) <|
    .cons (stepped_start hcall rfl (fun _ hw => .newest hw hlast) hstart) <|
    .cons (.arrived (by decide) (by decide)) <|
    .cons (.arrived (by decide) (by decide)) <|
    .cons (stepped_poll hcall rfl (fun _ _ => .failed rfl) hnone (advance_nil 6)) <|
    .cons (stepped_poll hcall rfl (fun _ hw => .batch hw (by decide) hfront (.swap _ _ _) hboth)
      hbatch hnext) <|
    .nil _
  exact ⟨_, h, by decide +kernel, by decide +kernel, dealt_of_run h⟩

end Feed
end BotApi
end ChatAssistant
