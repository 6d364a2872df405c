import ChatAssistant.Proofs.BotApi.Feed

/-!
# Going on

Polls in a row, whatever the service answers to each of them: which number a poll leaves for the
next one, and which updates are asked for again.

* `Round`, `Bot.rounds` — the polls of a run;
* `Bot.steady_rounds` — no poll goes back, and a failed one stays where it is;
* `Bot.progress_iff` — every update is left behind, unless it has the greatest number that there is.

The numbers come from the service, which may send any of 64 bits, and there is none after the
greatest one.
-/

namespace ChatAssistant
namespace BotApi

variable {request : Http.Request} {offset : Int64} {u : Update} {bot : Bot} {setup : Setup}
  {network : Http.Network} {s : Supervisor}

/-! ## Rounds -/

/-- One poll of a run. -/
structure Round where
  /-- The number that the poll asks from. -/
  start : Int64
  /-- What the poll brings. -/
  updates : List Update
  poll : Poll

/-- A poll over a network. -/
def Bot.round (bot : Bot) (setup : Setup) (world : Nat → Assistant.World) (network : Http.Network)
    (s : Supervisor) (offset : Int64) : Round :=
  ⟨offset, bot.batch network offset, bot.poll setup world network s offset⟩

/-- The polls of a run, each over its own network.  Each goes on from the number that the one before
it leaves. -/
def Bot.rounds (bot : Bot) (setup : Setup) (world : Nat → Nat → Assistant.World) (n : Nat)
    (s : Supervisor) (offset : Int64) : List Http.Network → List Round
  | [] => []
  | network :: rest =>
      let round := bot.round setup (world n) network s offset
      round ::
        Bot.rounds bot setup world (n + 1) round.poll.batch.supervisor round.poll.offset rest

/-- The rounds are what a run is made of. -/
theorem Bot.pollAll_eq_rounds (bot : Bot) (setup : Setup) (world : Nat → Nat → Assistant.World)
    (n : Nat) (s : Supervisor) (offset : Int64) (networks : List Http.Network) :
    (bot.pollAll setup world n s offset networks).requests =
        (bot.rounds setup world n s offset networks).flatMap (·.poll.batch.requests) ∧
      (bot.pollAll setup world n s offset networks).queries =
        (bot.rounds setup world n s offset networks).flatMap (·.poll.batch.queries) := by
  induction networks generalizing n s offset with
  | nil => exact ⟨rfl, rfl⟩
  | cons network rest ih =>
      obtain ⟨hrequests, hqueries⟩ := ih (n + 1)
        (bot.poll setup (world n) network s offset).batch.supervisor
        (bot.poll setup (world n) network s offset).offset
      rw [pollAll, rounds, List.flatMap_cons, List.flatMap_cons]
      exact ⟨congrArg _ hrequests, congrArg _ hqueries⟩

/-- What holds of every poll holds of all polls of a run. -/
theorem Bot.forall_rounds {P : Round → Prop}
    (h : ∀ world network s offset, P (bot.round setup world network s offset))
    (world : Nat → Nat → Assistant.World) (n : Nat) (s : Supervisor) (offset : Int64)
    (networks : List Http.Network) :
    ∀ r ∈ bot.rounds setup world n s offset networks, P r := by
  induction networks generalizing n s offset with
  | nil => nofun
  | cons network rest ih =>
      rw [rounds, List.forall_mem_cons]
      exact ⟨h (world n) network s offset, ih _ _ _⟩

/-! ## Numbers -/

/-- A failed poll stays where it is. -/
theorem Bot.offset_of_failed {world : Nat → Assistant.World} {fault : Fault}
    (h : (bot.poll setup world network s offset).result = .error fault) :
    (bot.poll setup world network s offset).offset = offset := by
  unfold poll at h ⊢
  dsimp only at h ⊢
  split
  · rfl
  · rename_i hupdates
    rw [hupdates] at h
    cases h

/-- The number that a poll leaves is that of its updates. -/
theorem Bot.offset_round (bot : Bot) (setup : Setup) (world : Nat → Assistant.World)
    (network : Http.Network) (s : Supervisor) (offset : Int64) :
    (bot.round setup world network s offset).poll.offset =
      advance offset (bot.round setup world network s offset).updates :=
  (bot.poll_eq setup world network s offset).1

theorem Bot.le_start {r : Round} {world : Nat → Nat → Assistant.World} {n : Nat}
    {networks : List Http.Network} (hr : r ∈ bot.rounds setup world n s offset networks) :
    offset ≤ r.start := by
  induction networks generalizing n s offset with
  | nil => cases hr
  | cons network rest ih =>
      rcases List.mem_cons.1 hr with rfl | hr
      · exact Int64.le_refl _
      · have hle : offset ≤ (bot.round setup (world n) network s offset).poll.offset := by
          rw [Bot.offset_round]
          exact le_advance _ _
        exact Int64.le_trans hle (ih hr)

/-- Later polls start no earlier than where the polls before them ended. -/
theorem Bot.pairwise_rounds (bot : Bot) (setup : Setup) (world : Nat → Nat → Assistant.World)
    (n : Nat) (s : Supervisor) (offset : Int64) (networks : List Http.Network) :
    (bot.rounds setup world n s offset networks).Pairwise fun r later =>
      r.poll.offset ≤ later.start := by
  induction networks generalizing n s offset with
  | nil => exact .nil
  | cons network rest ih => exact .cons (fun later hlater => le_start hlater) (ih _ _ _)

/-- What always holds of a run that starts from this number. -/
structure Steady (offset : Int64) (rounds : List Round) : Prop where
  failed : ∀ r ∈ rounds, ∀ fault, r.poll.result = .error fault → r.poll.offset = r.start
  received : ∀ r ∈ rounds, ∀ count, r.poll.result = .ok count → r.updates.length = count
  first : ∀ r ∈ rounds, offset ≤ r.start
  forward : ∀ r ∈ rounds, r.start ≤ r.poll.offset
  next : rounds.Pairwise fun r later => r.poll.offset ≤ later.start

/-- A successful poll says how many updates it brought. -/
theorem Bot.length_batch {world : Nat → Assistant.World} {count : Nat}
    (h : (bot.poll setup world network s offset).result = .ok count) :
    (bot.batch network offset).length = count := by
  unfold poll at h
  unfold batch
  dsimp only at h
  split at h
  · cases h
  · rename_i hupdates
    rw [hupdates]
    exact Except.ok.inj h

theorem Bot.steady_rounds (bot : Bot) (setup : Setup) (world : Nat → Nat → Assistant.World)
    (n : Nat) (s : Supervisor) (offset : Int64) (networks : List Http.Network) :
    Steady offset (bot.rounds setup world n s offset networks) where
  failed := by
    refine forall_rounds (fun world network s offset => ?_) world n s offset networks
    exact fun fault h => offset_of_failed h
  received := by
    refine forall_rounds (fun world network s offset => ?_) world n s offset networks
    exact fun count h => length_batch h
  first r hr := le_start hr
  forward := by
    refine forall_rounds (fun world network s offset => ?_) world n s offset networks
    rw [offset_round]
    exact le_advance _ _
  next := bot.pairwise_rounds setup world n s offset networks

/-! ## Updates -/

/-- The request asks for the update, among others. -/
def AsksFor (request : Http.Request) (u : Update) : Prop :=
  request.method = .get ∧ ∃ x, Wants request x ∧ x ≤ u.id

/-- What a poll asks for is where it starts from. -/
theorem Bot.wants_round {world : Nat → Assistant.World}
    (hr : request ∈ (bot.round setup world network s offset).poll.batch.requests)
    (hget : request.method = .get) : Wants request offset := by
  -- it sends no message, so it is the call for updates
  have hcall : request ∈ (bot.getUpdates network offset pollSeconds).requests := by
    rw [← bot.asks_poll setup world network s offset, List.mem_filter]
    exact ⟨hr, by simp [sends, hget]⟩
  unfold getUpdates at hcall
  split at hcall
  · cases hcall
  · rw [List.mem_singleton.1 hcall]
    exact wants_updatesRequest _ _ _

/-- The update is left behind: there is a number after its own, and the poll goes on from there or
from a later one. -/
def Round.Passes (r : Round) (u : Update) : Prop :=
  u.next.toInt = u.id.toInt + 1 ∧ u.id < r.poll.offset

/-- A poll leaves an update behind unless there is no number after it. -/
theorem Bot.passes_iff {world : Nat → Assistant.World}
    (hu : u ∈ (bot.round setup world network s offset).updates) :
    (bot.round setup world network s offset).Passes u ↔ u.id ≠ Int64.maxValue := by
  unfold Round.Passes
  rw [Update.toInt_next_iff, and_iff_left_iff_imp, offset_round]
  intro hid
  have hle : u.next ≤ advance offset (bot.round setup world network s offset).updates :=
    next_le_advance hu
  rw [Int64.le_iff_toInt_le, Update.toInt_next_iff.2 hid] at hle
  rw [Int64.lt_iff_toInt_lt]
  omega

/-- All updates of a run are left behind, and none of them is asked for again. -/
structure Progress (rounds : List Round) : Prop where
  passes : ∀ r ∈ rounds, ∀ u ∈ r.updates, r.Passes u
  once : rounds.Pairwise fun r later =>
    ∀ u ∈ r.updates, ∀ request ∈ later.poll.batch.requests, ¬ AsksFor request u

theorem Bot.passes_rounds_iff (bot : Bot) (setup : Setup) (world : Nat → Nat → Assistant.World)
    (n : Nat) (s : Supervisor) (offset : Int64) (networks : List Http.Network) :
    ∀ r ∈ bot.rounds setup world n s offset networks, ∀ u ∈ r.updates,
      r.Passes u ↔ u.id ≠ Int64.maxValue :=
  forall_rounds (fun _ _ _ _ _ hu => passes_iff hu) world n s offset networks

/-- What is left behind is not asked for again. -/
theorem Bot.progress_of_passes {world : Nat → Nat → Assistant.World} {n : Nat}
    {networks : List Http.Network}
    (h : ∀ r ∈ bot.rounds setup world n s offset networks, ∀ u ∈ r.updates, r.Passes u) :
    Progress (bot.rounds setup world n s offset networks) := by
  refine ⟨h, ?_⟩
  have hwants : ∀ r ∈ bot.rounds setup world n s offset networks,
      ∀ request ∈ r.poll.batch.requests, request.method = .get → Wants request r.start :=
    forall_rounds (fun _ _ _ _ _ hr hget => wants_round hr hget) world n s offset networks
  refine (bot.pairwise_rounds setup world n s offset networks).imp_of_mem ?_
  rintro r later hr hlater hnext u hu request hrequest ⟨hget, x, hx, hle⟩
  rw [hx.eq (hwants later hlater request hrequest hget)] at hle
  have hbehind : u.id < later.start := Int64.lt_of_lt_of_le (h r hr u hu).2 hnext
  exact Int64.not_lt.2 hle hbehind

/-- A run never goes back, and a failed poll stays where it is.  The updates of a run are all left
behind, and none is asked for again, if and only if none has the greatest number that there is. -/
theorem Bot.progress_iff (bot : Bot) (setup : Setup) (world : Nat → Nat → Assistant.World)
    (n : Nat) (s : Supervisor) (offset : Int64) (networks : List Http.Network) :
    Steady offset (bot.rounds setup world n s offset networks) ∧
      (Progress (bot.rounds setup world n s offset networks) ↔
        ∀ r ∈ bot.rounds setup world n s offset networks, ∀ u ∈ r.updates,
          u.id ≠ Int64.maxValue) := by
  have hpasses := bot.passes_rounds_iff setup world n s offset networks
  refine ⟨bot.steady_rounds setup world n s offset networks, fun h r hr u hu => ?_, fun h => ?_⟩
  · exact (hpasses r hr u hu).1 (h.passes r hr u hu)
  · exact progress_of_passes fun r hr u hu => (hpasses r hr u hu).2 (h r hr u hu)

/-- Two polls, each of them answered by an update with the greatest number. -/
def stuckRounds : List Round :=
  Feed.shortBot.rounds Supervisor.usualSetup
    (fun _ _ => Supervisor.steadyWorld .missing (Fin.last 2)) 0 .fresh 0
    [fun _ => Feed.listing [9223372036854775807], fun _ => Feed.listing [9223372036854775807]]

/-- The greatest number is no reason to go on: the second poll starts where the first one did. -/
theorem stuckRounds_no_progress :
    stuckRounds.map (fun r => (r.start, r.updates, r.poll.offset)) =
        [(0, [Feed.numbered Int64.maxValue], 0), (0, [Feed.numbered Int64.maxValue], 0)] ∧
      ¬ Progress stuckRounds := by
  have hrounds : stuckRounds.map (fun r => (r.start, r.updates, r.poll.offset)) =
      [(0, [Feed.numbered Int64.maxValue], 0), (0, [Feed.numbered Int64.maxValue], 0)] := by
    decide +kernel
  refine ⟨hrounds, fun h => ?_⟩
  obtain ⟨r, hr, hfirst⟩ : ∃ r ∈ stuckRounds,
      (r.start, r.updates, r.poll.offset) = (0, [Feed.numbered Int64.maxValue], 0) := by
    rw [← List.mem_map, hrounds]
    exact List.mem_cons_self
  have hupdates : r.updates = [Feed.numbered Int64.maxValue] := congrArg (fun x => x.2.1) hfirst
  have hu : Feed.numbered Int64.maxValue ∈ r.updates := by
    rw [hupdates]
    exact List.mem_singleton_self _
  exact (Bot.passes_rounds_iff _ _ _ _ _ _ _ r hr _ hu).1 (h.passes r hr _ hu) rfl

end BotApi
end ChatAssistant
