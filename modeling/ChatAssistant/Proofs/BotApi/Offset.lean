import ChatAssistant.BotApi.Polling
import ChatAssistant.Proofs.Url.Form

/-!
# The number to go on from

A call for updates carries one number, which says where to go on: the service reads it out of the
request, and the bot finds the next one from the updates that came back.

* `Wants`, `wants_updatesRequest`, `Wants.eq` — the number in a request, which is the one that was
  put there and no other;
* `Update.toInt_next_iff` — the one number that none comes after;
* `advance_le_iff_next`, `advance_le_iff` — how the number to go on from compares with those of
  updates;
* `Bot.batch`, `Bot.poll_eq` — a poll deals with the updates that it brings and goes on from the
  number after them.
-/

namespace ChatAssistant

/-! ## The number in a request -/

/-- Different numbers are written in different ways. -/
theorem Json.intText_injective : Function.Injective Json.intText := by
  have hdigits {m n : Nat} (h : Decimal.digitsOfNat m = Decimal.digitsOfNat n) : m = n := by
    have hvalue := congrArg (fun digits => Nat.ofDigitChars 10 digits 0) h
    simpa only [Decimal.digitsOfNat, Nat.ofDigitChars_ten_toDigits] using hvalue
  have hsign {m n : Nat} (h : '-' :: Decimal.digitsOfNat m = Decimal.digitsOfNat n) : False := by
    have hmem : '-' ∈ Decimal.digitsOfNat n := h ▸ List.mem_cons_self
    exact absurd (Decimal.isDigit_of_mem_digitsOfNat hmem) (by decide)
  intro m n h
  unfold Json.intText at h
  by_cases hm : m < 0
  · by_cases hn : n < 0
    · rw [if_pos hm, if_pos hn] at h
      have habs := hdigits (List.cons.inj h).2
      omega
    · rw [if_pos hm, if_neg hn] at h
      exact (hsign h).elim
  · by_cases hn : n < 0
    · rw [if_neg hm, if_pos hn] at h
      exact (hsign h.symm).elim
    · rw [if_neg hm, if_neg hn] at h
      have habs := hdigits h
      omega

/-- The bytes of a parameter of a request; of several with one name the last one counts. -/
def Http.Request.parameter? (request : Http.Request) (name : Text) : Option (List UInt8) :=
  (Url.Form.pairs (request.url.query.getD [])).reverse.lookup (Utf8.encode name)

namespace BotApi

variable {request : Http.Request} {offset offset' x : Int64} {u : Update} {updates : List Update}

/-- The request asks for the updates from this number on. -/
def Wants (request : Http.Request) (offset : Int64) : Prop :=
  request.parameter? "offset".toList = some (Utf8.encode (Json.intText offset.toInt))

/-- The number that is put in a request is found there, whatever else the address holds. -/
theorem wants_updatesRequest (url : Url) (offset : Int64) (seconds : Nat) :
    Wants (updatesRequest url offset seconds) offset := by
  have hnames : (Utf8.encode "offset".toList == Utf8.encode "timeout".toList) = false := by
    decide +kernel
  have hname : (Utf8.encode "offset".toList == Utf8.encode "offset".toList) = true :=
    beq_self_eq_true _
  unfold Wants Http.Request.parameter? updatesRequest
  dsimp only
  rw [Url.pairs_addPairs, List.reverse_append]
  -- the last pair is that of the other parameter, and the one before it is the one that is wanted
  simp only [List.map_cons, List.map_nil, List.reverse_cons, List.reverse_nil, List.nil_append,
    List.cons_append, Url.Form.bytesOf, List.lookup_cons, hnames, hname]

theorem Wants.eq (h : Wants request offset) (h' : Wants request offset') : offset = offset' := by
  have hbytes := Option.some.inj (h.symm.trans h')
  have htext := Utf8.encode_injective hbytes
  exact Int64.toInt_inj.1 (Json.intText_injective htext)

/-! ## The number after updates -/

theorem max_le_iff {a b : Int64} : max a b ≤ x ↔ a ≤ x ∧ b ≤ x := by
  have hmax : max a b = if a ≤ b then b else a := rfl
  rw [hmax]
  simp only [Int64.le_iff_toInt_le]
  split
  · constructor
    · intro h
      exact ⟨by omega, h⟩
    · exact And.right
  · constructor
    · intro h
      exact ⟨h, by omega⟩
    · exact And.left

/-- The number after that of an update is the next one, unless the update has the greatest number
that there is. -/
theorem Update.toInt_next_iff : u.next.toInt = u.id.toInt + 1 ↔ u.id ≠ Int64.maxValue := by
  have hmax : Int64.maxValue.toInt = 9223372036854775807 := by decide
  have hlow := u.id.le_toInt
  have hhigh := u.id.toInt_le
  have hnext := u.next.toInt_le
  rw [hmax] at hhigh hnext
  constructor
  · intro h hid
    rw [hid, hmax] at h
    omega
  · intro hid
    have hne : u.id.toInt ≠ 9223372036854775807 := by
      rw [← hmax]
      exact mt Int64.toInt_inj.1 hid
    have hone : (1 : Int64).toInt = 1 := by decide
    unfold Update.next
    rw [Int64.toInt_add, hone]
    apply Int.bmod_eq_of_le <;> omega

theorem Update.next_le_iff (h : u.id < Int64.maxValue) : u.next ≤ x ↔ u.id < x := by
  have hnext : u.next.toInt = u.id.toInt + 1 := by
    refine toInt_next_iff.2 fun hid => ?_
    rw [hid] at h
    exact Int64.lt_irrefl h
  rw [Int64.le_iff_toInt_le, Int64.lt_iff_toInt_lt, hnext]
  omega

theorem advance_nil (offset : Int64) : advance offset [] = offset := rfl

/-- The number to go on from is the least one that is as far as the last one, and as far as the
numbers after those of all updates. -/
theorem advance_le_iff_next :
    advance offset updates ≤ x ↔ offset ≤ x ∧ ∀ u ∈ updates, u.next ≤ x := by
  induction updates generalizing offset with
  | nil => simp [advance_nil]
  | cons u rest ih =>
      calc
        advance offset (u :: rest) ≤ x ↔ advance (max offset u.next) rest ≤ x := Iff.rfl
        _ ↔ max offset u.next ≤ x ∧ ∀ v ∈ rest, v.next ≤ x := ih
        _ ↔ offset ≤ x ∧ ∀ v ∈ u :: rest, v.next ≤ x := by
          rw [max_le_iff, List.forall_mem_cons, and_assoc]

/-- The number to go on from is the least one that is behind the last one and behind all updates. -/
theorem advance_le_iff (h : ∀ u ∈ updates, u.id < Int64.maxValue) :
    advance offset updates ≤ x ↔ offset ≤ x ∧ ∀ u ∈ updates, u.id < x := by
  rw [advance_le_iff_next]
  exact and_congr_right' (forall₂_congr fun u hu => Update.next_le_iff (h u hu))

theorem le_advance (offset : Int64) (updates : List Update) : offset ≤ advance offset updates :=
  (advance_le_iff_next.1 (Int64.le_refl _)).1

theorem next_le_advance (hu : u ∈ updates) : u.next ≤ advance offset updates :=
  (advance_le_iff_next.1 (Int64.le_refl _)).2 u hu

/-! ## Polls -/

/-- The updates that a poll brings; none if it fails. -/
def Bot.batch (bot : Bot) (network : Http.Network) (offset : Int64) : List Update :=
  (bot.getUpdates network offset pollSeconds).result.toOption.getD []

theorem Batch.andThen_asked_nil (b : Batch) : b.andThen (asked b.supervisor []) = b := by
  simp [andThen, asked]

theorem Batch.andThen_assoc (a b c : Batch) :
    (a.andThen b).andThen c = a.andThen (b.andThen c) := by
  simp [andThen]

/-- A poll deals with its batch, and goes on from the number after it. -/
theorem Bot.poll_eq (bot : Bot) (setup : Setup) (world : Nat → Assistant.World)
    (network : Http.Network) (s : Supervisor) (offset : Int64) :
    (bot.poll setup world network s offset).offset = advance offset (bot.batch network offset) ∧
      (bot.poll setup world network s offset).batch =
        (Batch.asked s (bot.getUpdates network offset pollSeconds).requests).andThen
          (bot.handle setup world network 0 s (bot.batch network offset)) := by
  unfold poll batch
  cases h : (bot.getUpdates network offset pollSeconds).result with
  | error f =>
      simp only [h]
      refine ⟨rfl, ?_⟩
      -- there is nothing to deal with, so the call is all that was sent
      exact congrArg (Batch.mk s [] []) (List.append_nil _).symm
  | ok updates =>
      simp only [h]
      exact ⟨rfl, rfl⟩

end BotApi
end ChatAssistant
