import ChatAssistant.BotApi.Client
import ChatAssistant.Conversation

/-!
# Polling

Conversations through a chat service. Updates are asked for in batches, from the number after the
last one on, so that the service forgets those that were handled; each message in a batch gets its
reply.
-/

namespace ChatAssistant
namespace BotApi

/-- The seconds that the service may wait for updates. -/
def pollSeconds : Nat := 30

/-- The number that asks for nothing but the last update. -/
def lastOnly : Int64 := -1

def Update.next (u : Update) : Int64 := u.id + 1

/-- The number to go on from after a batch. -/
def advance (offset : Int64) (updates : List Update) : Int64 :=
  updates.foldl (fun offset u => max offset u.next) offset

/-! ## Updates from before the start -/

/-- The number to start from, when all updates so far are passed over. -/
def skip (offset : Int64) (pending : List Update) : Int64 :=
  pending.getLast?.elim offset Update.next

/-- Passes over the updates so far: the fault, or the number to start from. -/
def Bot.skipPending (bot : Bot) (network : Http.Network) (offset : Int64) : Called Int64 :=
  let called := bot.getUpdates network lastOnly 0
  ⟨called.result.map (skip offset), called.requests⟩

/-! ## One update -/

def Update.incoming? (u : Update) : Option (Int64 × Text × Text) := do
  let m ← u.message
  return (m.chat, m.firstName.getD [], ← m.text)

/-- The reply to an update, with the chat that it goes to. -/
def replyTo (setup : Setup) (world : Assistant.World) (s : Supervisor) (u : Update) :
    Supervisor.Turn (Option (Int64 × Text)) :=
  match u.incoming? with
  | none => ⟨none, s, []⟩
  | some (chat, name, text) =>
    let turn := Conversation.respond setup world s name text
    ⟨turn.result.map fun answer => (chat, answer), turn.supervisor, turn.queries⟩

/-! ## Batches -/

structure Batch where
  supervisor : Supervisor
  /-- The updates that were dealt with, in order. -/
  handled : List Update
  /-- What the encyclopedia was asked, in order. -/
  queries : List Text
  /-- The requests that were sent, in order. -/
  requests : List Http.Request
  deriving DecidableEq, Repr

/-- Requests that deal with no update. -/
def Batch.asked (s : Supervisor) (requests : List Http.Request) : Batch := ⟨s, [], [], requests⟩

def Batch.andThen (first next : Batch) : Batch :=
  ⟨next.supervisor, first.handled ++ next.handled, first.queries ++ next.queries,
    first.requests ++ next.requests⟩

/-- Deals with an update. A reply that cannot be sent changes nothing for other updates. -/
def Bot.handleUpdate (bot : Bot) (setup : Setup) (world : Assistant.World) (network : Http.Network)
    (s : Supervisor) (u : Update) : Batch :=
  let turn := replyTo setup world s u
  let sent := turn.result.elim [] fun reply => (bot.sendMessage network reply.1 reply.2).requests
  ⟨turn.supervisor, [u], turn.queries, sent⟩

/-- Deals with updates in order. Update `n + i` meets the world `world (n + i)`. -/
def Bot.handle (bot : Bot) (setup : Setup) (world : Nat → Assistant.World) (network : Http.Network)
    (n : Nat) (s : Supervisor) : List Update → Batch
  | [] => .asked s []
  | u :: rest =>
    let first := bot.handleUpdate setup (world n) network s u
    first.andThen (Bot.handle bot setup world network (n + 1) first.supervisor rest)

structure Poll where
  /-- The number of updates, or why there are none. -/
  result : Except Fault Nat
  /-- The number to go on from. -/
  offset : Int64
  batch : Batch

def Bot.poll (bot : Bot) (setup : Setup) (world : Nat → Assistant.World) (network : Http.Network)
    (s : Supervisor) (offset : Int64) : Poll :=
  let called := bot.getUpdates network offset pollSeconds
  let asked := Batch.asked s called.requests
  match called.result with
  | .error f => ⟨.error f, offset, asked⟩
  | .ok updates =>
    ⟨.ok updates.length, advance offset updates,
      asked.andThen (bot.handle setup world network 0 s updates)⟩

/-! ## Runs -/

/-- Asks for updates again and again, each time over another network; a failed poll is made up for
by the next. -/
def Bot.pollAll (bot : Bot) (setup : Setup) (world : Nat → Nat → Assistant.World) (n : Nat)
    (s : Supervisor) (offset : Int64) : List Http.Network → Batch
  | [] => .asked s []
  | network :: rest =>
    let poll := bot.poll setup (world n) network s offset
    poll.batch.andThen
      (Bot.pollAll bot setup world (n + 1) poll.batch.supervisor poll.offset rest)

/-- Passes over the updates so far, from the number zero on if that fails, and deals with those that
come in. -/
def Bot.run (bot : Bot) (setup : Setup) (world : Nat → Nat → Assistant.World) (first : Http.Network)
    (rest : List Http.Network) (s : Supervisor) : Batch :=
  let skipped := bot.skipPending first 0
  (Batch.asked s skipped.requests).andThen
    (bot.pollAll setup world 0 s (skipped.result.toOption.getD 0) rest)

end BotApi
end ChatAssistant
