import ChatAssistant.Proofs.BotApi.Isolation
import ChatAssistant.Proofs.Conversation
import ChatAssistant.Proofs.Json.Printing
import ChatAssistant.Proofs.Url.Slash

/-!
# Every reply is sent once

Whatever the order in which the handlers of a batch go on, and whatever becomes of the requests, an
update causes requests only if there is something to say to its message.  Then there is one request
with markup, and one more without it exactly if the answer to the first one has the status 400, both
to the chat of the message and with the reply to it.

* `Bot.exists_call` — a bot that can ask for updates can send messages;
* `Carries`, `carries_messageRequest` — what stands in a request, as the service reads it;
* `Sends` — the requests for one reply, with what became of them;
* `Comes` — the reply to a message: what the supervisor says in the middle of the conversation is
  the response to this message and to no other;
* `Reception.Sound` — the invariant: all handlers stand as they should, each with its own ticket;
* `Reception.answered_of_run` — what is sent in any run.
-/

namespace ChatAssistant

open Conversation (Course Ignored course resultOf)

namespace BotApi

/-! ## Addresses of calls -/

/-- Either both calls of a bot have an address, or neither has one. -/
theorem Bot.isOk_call (api token : Text) :
    ((Bot.ofToken api token).call "sendMessage").isOk =
      ((Bot.ofToken api token).call "getUpdates").isOk := by
  -- the word between the slashes is the one that stands before the token
  have hword : Url.isPlain ('b' :: 'o' :: ['t']) = true := by decide
  obtain ⟨readable, hreadable⟩ :=
    Url.exists_isOk_parse (Text.dropEndWhile (· = '/') api) hword (by decide) token
  have hcall (name : String) (hname : Url.isPlain name.toList = true) :
      ((Bot.ofToken api token).call name).isOk = readable := by
    have hbase : (Bot.ofToken api token).base =
        Text.dropEndWhile (· = '/') api ++ '/' :: ('b' :: 'o' :: ['t'] ++ token) :=
      List.append_assoc _ _ _
    rw [← hreadable name.toList hname, Bot.call, hbase]
  rw [hcall "sendMessage" (by decide), hcall "getUpdates" (by decide)]

/-- A bot that gets updates can send messages. -/
theorem Bot.exists_call {api token : Text} {network : Http.Network} {offset : Int64}
    (h : (Bot.ofToken api token).batch network offset ≠ []) :
    ∃ url, (Bot.ofToken api token).call "sendMessage" = .ok url := by
  have hok := Bot.isOk_call api token
  cases hsend : (Bot.ofToken api token).call "sendMessage" with
  | ok url => exact ⟨url, rfl⟩
  | error e =>
      cases hget : (Bot.ofToken api token).call "getUpdates" with
      | ok url =>
          rw [hsend, hget] at hok
          cases hok
      | error e =>
          refine absurd ?_ h
          simp [Bot.batch, Bot.getUpdates, hget, Except.toOption]

/-! ## The requests for one reply -/

theorem refusesMarkup_iff {e : Http.Exchange} :
    refusesMarkup e = true ↔ ∃ body, e = .answered 400 body := by
  cases e with
  | answered status body =>
      constructor
      · intro h
        have hstatus : status = 400 := of_decide_eq_true h
        exact ⟨body, by rw [hstatus]⟩
      · rintro ⟨_, h⟩
        cases h
        rfl
  | timedOut => exact ⟨nofun, nofun⟩
  | broken => exact ⟨nofun, nofun⟩

/-- The request sends this text to this chat, in this mode if there is one: that is what its body
says, and nothing else. -/
structure Carries (url : Url) (chat : Int64) (text : Text) (mode : Option Text)
    (request : Http.Request) : Prop where
  method : request.method = .post
  address : request.url = url
  body : ∃ id, id.int64? = some chat ∧ request.body.bind Json.parse? = some (.object
    ([(some "chat_id".toList, .number id), (some "text".toList, .string (some text))] ++
      mode.toList.map fun mode => (some "parse_mode".toList, .string (some mode))))

/-- What is written in the body of a request. -/
def messageMembers (chat : Int64) (text : Text) (mode : Option Text) : List Json.Member :=
  [⟨"chat_id".toList, Json.intText chat.toInt, .number (Json.numeral chat.toInt)⟩,
    ⟨"text".toList, Json.quoted text, .string (some text)⟩] ++
      mode.toList.map fun mode => ⟨"parse_mode".toList, Json.quoted mode, .string (some mode)⟩

theorem writes_messageMembers (chat : Int64) (text : Text) (mode : Option Text) :
    ∀ m ∈ messageMembers chat text mode, Json.Writes m.text m.value := by
  refine List.forall_mem_append.2 ⟨?_, List.forall_mem_map.2 fun mode _ => ?_⟩
  · refine List.forall_mem_cons.2 ⟨Json.writes_intText _, ?_⟩
    exact List.forall_mem_singleton.2 (Json.writes_quoted _)
  · exact Json.writes_quoted mode

/-- Whatever the text is made of, the service finds it in the request, with the chat and the mode.
-/
theorem carries_messageRequest (url : Url) (chat : Int64) (text : Text) (hasMarkup : Bool) :
    Carries url chat text (if hasMarkup then some "Markdown".toList else none)
      (messageRequest url chat text hasMarkup) where
  method := rfl
  address := rfl
  body := by
    refine ⟨Json.numeral chat.toInt, Json.int64?_numeral chat, ?_⟩
    cases hasMarkup with
    | false => exact Json.parse?_objectText (writes_messageMembers chat text none)
    | true =>
        exact Json.parse?_objectText (writes_messageMembers chat text (some "Markdown".toList))

/-- How far the sending of a reply has come, with what went over the network for it: a request with
markup and, exactly if the answer to that has the status 400, one more without it. -/
inductive Sends (url : Url) (chat : Int64) (text : Text) : Stage → List Act → Prop where
  | ready : Sends url chat text (.ready (chat, text)) []
  | sending {first : Http.Request} (h : Carries url chat text (some "Markdown".toList) first) :
      Sends url chat text (.sending url (chat, text)) [.sent first]
  | done {first : Http.Request} {e : Http.Exchange}
      (h : Carries url chat text (some "Markdown".toList) first)
      (he : ∀ body, e ≠ .answered 400 body) :
      Sends url chat text (.done (chat, text)) [.sent first, .ended e]
  | resending {first second : Http.Request} (body : Text)
      (h : Carries url chat text (some "Markdown".toList) first)
      (h' : Carries url chat text none second) :
      Sends url chat text (.resending (chat, text))
        [.sent first, .ended (.answered 400 body), .sent second]
  | doneAgain {first second : Http.Request} (body : Text) (e : Http.Exchange)
      (h : Carries url chat text (some "Markdown".toList) first)
      (h' : Carries url chat text none second) :
      Sends url chat text (.done (chat, text))
        [.sent first, .ended (.answered 400 body), .sent second, .ended e]

/-- In the middle of a conversation this result comes in: the response to the message with this
ticket, unless that is awaited no longer. -/
def Gets (s : Service) (ticket : Option Nat) (message : Service.Message)
    (result : Except Fault Text) : Prop :=
  ∃ place, ticket = some place ∧ s.messages[place]? = some message ∧
    (result = .error Supervisor.overdue ∨
      ∃ response, (place, response) ∈ s.responses ∧ result = resultOf response)

/-- The reply that a conversation comes to, if what it asks of the supervisor has this ticket. -/
def Comes (s : Service) (ticket : Option Nat) (name text answer : Text) : Prop :=
  ∃ result, (course name text).finish result = some answer ∧
    ∀ message, (course name text).message? = some message → Gets s ticket message result

/-! ## One handler -/

variable {terms : Service.Terms} {bot : Bot} {url : Url} {s s' : Service} {h : Handler} {m : Move}
  {w : Work} {update : Update} {ticket : Option Nat} {stage : Stage} {acts : List Act}
  {chat : Int64} {name text : Text}

/-- How a handler stands, with what went over the network for it. -/
inductive Stands (url : Url) (s : Service) (update : Update) (ticket : Option Nat) :
    Stage → List Act → Prop where
  | fresh : Stands url s update ticket .fresh []
  | waiting {chat : Int64} {name text : Text} {place : Nat} {message : Service.Message}
      (hi : update.incoming? = some (chat, name, text))
      (hm : (course name text).message? = some message) (ht : ticket = some place)
      (hmessage : s.messages[place]? = some message) :
      Stands url s update ticket (.waiting chat (course name text)) []
  | silent
      (hi : ∀ chat name text, update.incoming? = some (chat, name, text) → Ignored text) :
      Stands url s update ticket .silent []
  | sends {chat : Int64} {name text answer : Text} {stage : Stage} {acts : List Act}
      (hi : update.incoming? = some (chat, name, text)) (hc : Comes s ticket name text answer)
      (hsends : Sends url chat answer stage acts) : Stands url s update ticket stage acts

theorem Gets.mono {message : Service.Message} {result : Except Fault Text}
    (hg : s.Grows s') (hgets : Gets s ticket message result) : Gets s' ticket message result := by
  obtain ⟨place, ht, hmessage, hresult⟩ := hgets
  refine ⟨place, ht, hg.getElem?_messages hmessage, ?_⟩
  rcases hresult with hoverdue | ⟨response, hr, hresult⟩
  · exact .inl hoverdue
  · exact .inr ⟨response, hg.responses.subset hr, hresult⟩

/-- A handler stands as before, whatever else is going on. -/
theorem Stands.mono (hg : s.Grows s') (hst : Stands url s update ticket stage acts) :
    Stands url s' update ticket stage acts := by
  cases hst with
  | fresh => exact .fresh
  | waiting hi hm ht hmessage => exact .waiting hi hm ht (hg.getElem?_messages hmessage)
  | silent hi => exact .silent hi
  | sends hi hc hsends =>
      obtain ⟨result, hfinish, hgets⟩ := hc
      exact .sends hi ⟨result, hfinish, fun message hm => (hgets message hm).mono hg⟩ hsends

/-- A conversation that has come to its end leaves its reply to be sent, or nothing. -/
theorem stands_ofReply {result : Except Fault Text}
    (hi : update.incoming? = some (chat, name, text))
    (hgets : ∀ message, (course name text).message? = some message →
      Gets s ticket message result) :
    Stands url s update ticket (.ofReply (((course name text).finish result).map (chat, ·)))
      [] := by
  cases hfinish : (course name text).finish result with
  | none =>
      refine .silent fun chat' name' text' hi' => ?_
      cases hi.symm.trans hi'
      exact Conversation.finish_eq_none_iff.1 hfinish
  | some answer => exact .sends hi ⟨result, hfinish, hgets⟩ .ready

/-- A handler with nothing to say sends nothing. -/
theorem Stands.quiet (hst : Stands url s update ticket stage acts)
    (hi : ∀ chat name text, update.incoming? = some (chat, name, text) → Ignored text) :
    (stage = .fresh ∨ stage = .silent) ∧ acts = [] := by
  cases hst with
  | fresh => exact ⟨.inl rfl, rfl⟩
  | waiting hi' hm =>
      have hnot := Conversation.not_ignored_of_message? hm
      exact absurd (hi _ _ _ hi') hnot
  | silent => exact ⟨.inr rfl, rfl⟩
  | sends hi' hc =>
      obtain ⟨result, hfinish, _⟩ := hc
      rw [Conversation.finish_eq_none_iff.2 (hi _ _ _ hi')] at hfinish
      cases hfinish

/-- Any other handler waits for its reply, or sends it. -/
theorem Stands.answers (hst : Stands url s update ticket stage acts)
    (hi : update.incoming? = some (chat, name, text)) (hnot : ¬ Ignored text) :
    (stage = .fresh ∨ stage = .waiting chat (course name text)) ∧ acts = [] ∨
      ∃ answer, Comes s ticket name text answer ∧ Sends url chat answer stage acts := by
  cases hst with
  | fresh => exact .inl ⟨.inl rfl, rfl⟩
  | waiting hi' =>
      cases hi.symm.trans hi'
      exact .inl ⟨.inr rfl, rfl⟩
  | silent hi' => exact absurd (hi' _ _ _ hi) hnot
  | sends hi' hc hsends =>
      cases hi.symm.trans hi'
      exact .inr ⟨_, hc, hsends⟩

theorem Worked.grows (hw : Worked terms bot s h m w) : s.Grows w.service := by
  cases hw with
  | asked _ _ _ hsend => exact Service.grows_of_stepped (Service.stepped_of_step hsend)
  | _ => exact ⟨List.prefix_rfl, List.prefix_rfl⟩

theorem Worked.update_eq (hw : Worked terms bot s h m w) : w.handler.update = h.update := by
  cases hw with
  | _ => rfl

/-- Whatever step a handler takes, it stands as it should. -/
theorem Stands.work (hst : Stands url s h.update h.ticket h.stage acts)
    (hcall : bot.call "sendMessage" = .ok url) (hw : Worked terms bot s h m w) :
    Stands url w.service w.handler.update w.handler.ticket w.handler.stage (acts ++ w.acts) := by
  cases hw with
  | passed hs hi =>
      rw [hs] at hst
      cases hst with
      | fresh => exact .silent fun chat name text hi' => by cases hi.symm.trans hi'
      -- no reply is sent at the start
      | sends _ _ hsends => cases hsends
  | answered hs hi hm =>
      rw [hs] at hst
      cases hst with
      | fresh => exact stands_ofReply hi fun message hm' => by cases hm.symm.trans hm'
      | sends _ _ hsends => cases hsends
  | asked hs hi hm hsend =>
      rw [hs] at hst
      cases hst with
      | fresh =>
          refine .waiting hi hm rfl ?_
          rw [Service.messages_of_send hsend]
          exact List.getElem?_concat_length
      | sends _ _ hsends => cases hsends
  | heard hs ht hr =>
      rw [hs] at hst
      cases hst with
      | waiting hi hm ht' hmessage =>
          refine stands_ofReply hi fun message hm' => ?_
          cases ht.symm.trans ht'
          cases hm.symm.trans hm'
          exact ⟨_, ht, hmessage, .inr ⟨_, hr, rfl⟩⟩
      | sends _ _ hsends => cases hsends
  | gaveUp hs =>
      rw [hs] at hst
      cases hst with
      | waiting hi hm ht hmessage =>
          refine stands_ofReply hi fun message hm' => ?_
          cases hm.symm.trans hm'
          exact ⟨_, ht, hmessage, .inl rfl⟩
      | sends _ _ hsends => cases hsends
  | unsent hs hcall' => cases hcall.symm.trans hcall'
  | sent hs hcall' =>
      rw [hs] at hst
      cases hcall.symm.trans hcall'
      cases hst with
      | sends hi hc hsends =>
          cases hsends
          exact .sends hi hc (.sending (carries_messageRequest url _ _ true))
  | refused hs he =>
      rw [hs] at hst
      obtain ⟨body, rfl⟩ := refusesMarkup_iff.1 he
      cases hst with
      | sends hi hc hsends =>
          cases hsends with
          | sending h =>
              exact .sends hi hc (.resending body h (carries_messageRequest url _ _ false))
  | ended hs he =>
      rw [hs] at hst
      cases hst with
      | sends hi hc hsends =>
          cases hsends with
          | sending h =>
              exact .sends hi hc (.done h fun body heq => he (refusesMarkup_iff.2 ⟨body, heq⟩))
  | endedAgain hs =>
      rw [hs] at hst
      cases hst with
      | sends hi hc hsends =>
          cases hsends with
          | resending body h h' => exact .sends hi hc (.doneAgain body _ h h')

/-- A step gives no other ticket than a new one. -/
theorem Worked.ticket_eq (hw : Worked terms bot s h m w) :
    w.handler.ticket = h.ticket ∨
      w.handler.ticket = some s.messages.length ∧
        s.messages.length < w.service.messages.length := by
  cases hw with
  | asked _ _ _ hsend =>
      refine .inr ⟨rfl, ?_⟩
      rw [Service.messages_of_send hsend, List.length_append]
      exact Nat.lt_succ_self _
  | _ => exact .inl rfl

/-! ### The steps of a handler -/

/-- The steps that a handler can still take, at most. -/
def Stage.rank : Stage → Nat
  | .fresh => 5
  | .waiting _ _ => 4
  | .ready _ => 3
  | .sending _ _ => 2
  | .resending _ => 1
  | .silent | .done _ => 0

def Handler.rank (h : Handler) : Nat := h.stage.rank

theorem Stage.rank_ofReply (reply : Option (Int64 × Text)) : (Stage.ofReply reply).rank ≤ 3 := by
  cases reply with
  | none => exact Nat.zero_le 3
  | some reply => exact Nat.le_refl 3

theorem Stage.rank_eq_zero (h : stage.rank = 0) :
    stage = .silent ∨ ∃ reply, stage = .done reply := by
  cases stage with
  | silent => exact .inl rfl
  | done reply => exact .inr ⟨reply, rfl⟩
  | _ => cases h

/-- Each step brings a handler nearer to its end. -/
theorem Worked.rank_lt (hw : Worked terms bot s h m w) : w.handler.rank < h.rank := by
  unfold Handler.rank
  cases hw with
  | answered hs =>
      rw [hs]
      exact Nat.lt_of_le_of_lt (Stage.rank_ofReply _) (show 3 < 5 by decide)
  | heard hs =>
      rw [hs]
      exact Nat.lt_of_le_of_lt (Stage.rank_ofReply _) (Nat.lt_succ_self 3)
  | gaveUp hs =>
      rw [hs]
      exact Nat.lt_of_le_of_lt (Stage.rank_ofReply _) (Nat.lt_succ_self 3)
  | _ => simp [*, Stage.rank]

namespace Reception

variable {r r' : Reception} {event : Event} {history : List Event} {offset : Int64}

/-! ## The invariant -/

/-- All handlers stand as they should, each with a ticket of its own. -/
structure Sound (bot : Bot) (r : Reception) : Prop where
  stands : ∀ (url : Url) (number : Nat) (h : Handler), bot.call "sendMessage" = .ok url →
    r.handlers[number]? = some h →
      Stands url r.service h.update h.ticket h.stage (r.actsOf number)
  /-- What goes over the network goes there for a handler. -/
  owned : ∀ entry ∈ r.traffic, entry.1 < r.handlers.length
  ticket_lt : ∀ (number : Nat) (h : Handler) (ticket : Nat), r.handlers[number]? = some h →
    h.ticket = some ticket → ticket < r.service.messages.length
  tickets : ∀ (number number' : Nat) (h h' : Handler) (ticket : Nat),
    r.handlers[number]? = some h → r.handlers[number']? = some h' →
      h.ticket = some ticket → h'.ticket = some ticket → number = number'

theorem sound_initial (bot : Bot) (offset : Int64) : Sound bot (initial offset) where
  stands _ _ _ _ hh := nomatch hh
  owned := nofun
  ticket_lt _ _ _ hh := nomatch hh
  tickets _ _ _ _ _ hh := nomatch hh

theorem actsOf_append_of_ne {number number' : Nat} (hne : number ≠ number')
    (ht : r'.traffic = r.traffic ++ acts.map (number, ·)) :
    r'.actsOf number' = r.actsOf number' := by
  unfold actsOf
  simp [ht, hne]

theorem actsOf_append {number : Nat}
    (ht : r'.traffic = r.traffic ++ acts.map (number, ·)) :
    r'.actsOf number = r.actsOf number ++ acts := by
  have hall : (acts.map (number, ·)).filter (·.1 = number) = acts.map (number, ·) :=
    List.filter_eq_self.2 fun entry hentry => by
      obtain ⟨act, _, rfl⟩ := List.mem_map.1 hentry
      simp
  unfold actsOf
  rw [ht, List.filter_append, hall, List.map_append, List.map_map]
  exact congrArg (r.actsOf number ++ ·) (List.map_id acts)

/-- What goes on in the supervisor changes nothing about the handlers. -/
theorem Sound.served (hr : Sound bot r) (hg : r.service.Grows s) :
    Sound bot { r with service := s } where
  stands url number h hcall hh := (hr.stands url number h hcall hh).mono hg
  owned := hr.owned
  ticket_lt number h ticket hh ht :=
    Nat.lt_of_lt_of_le (hr.ticket_lt number h ticket hh ht) hg.messages.length_le
  tickets := hr.tickets

theorem Sound.polled (hr : Sound bot r) (offset : Int64) (updates : List Update) :
    Sound bot { r with offset := offset, handlers := r.handlers ++ updates.map .start } := by
  -- a handler is an old one, or it was just started
  have hplace {number : Nat} {h : Handler}
      (hh : (r.handlers ++ updates.map Handler.start)[number]? = some h) :
      r.handlers[number]? = some h ∨
        r.handlers.length ≤ number ∧ ∃ u, h = .start u := by
    by_cases hlt : number < r.handlers.length
    · rw [List.getElem?_append_left hlt] at hh
      exact .inl hh
    · have hle := Nat.le_of_not_lt hlt
      rw [List.getElem?_append_right hle, List.getElem?_map] at hh
      obtain ⟨u, _, hu⟩ := Option.map_eq_some_iff.1 hh
      exact .inr ⟨hle, u, hu.symm⟩
  constructor
  case stands =>
    intro url number h hcall hh
    rcases hplace hh with hh | ⟨hle, u, rfl⟩
    · exact hr.stands url number h hcall hh
    · have hnone : r.actsOf number = [] := by
        unfold actsOf
        rw [List.filter_eq_nil_iff.2]
        · rfl
        · intro entry hentry heq
          have hlt := hr.owned entry hentry
          rw [of_decide_eq_true heq] at hlt
          exact absurd hle (Nat.not_le.2 hlt)
      show Stands url r.service u none .fresh (r.actsOf number)
      rw [hnone]
      exact .fresh
  case owned =>
    intro entry hentry
    exact Nat.lt_of_lt_of_le (hr.owned entry hentry)
      (List.prefix_append r.handlers _).length_le
  case ticket_lt =>
    intro number h ticket hh ht
    rcases hplace hh with hh | ⟨_, u, rfl⟩
    · exact hr.ticket_lt number h ticket hh ht
    · cases ht
  case tickets =>
    intro number number' h h' ticket hh hh' ht ht'
    rcases hplace hh with hh | ⟨_, u, rfl⟩
    · rcases hplace hh' with hh' | ⟨_, u, rfl⟩
      · exact hr.tickets number number' h h' ticket hh hh' ht ht'
      · cases ht'
    · cases ht

theorem Sound.worked (hr : Sound bot r) {number : Nat} (hh : r.handlers[number]? = some h)
    (hw : Worked terms bot r.service h m w) :
    Sound bot
      { r with
        service := w.service
        handlers := r.handlers.set number w.handler
        traffic := r.traffic ++ w.acts.map (number, ·) } := by
  have hg := hw.grows
  -- a handler is the one that took the step, or it is as before
  have hplace {place : Nat} {h' : Handler}
      (hh' : (r.handlers.set number w.handler)[place]? = some h') :
      number = place ∧ h' = w.handler ∨ number ≠ place ∧ r.handlers[place]? = some h' := by
    by_cases hn : number = place
    · subst hn
      have hlt := (List.getElem?_eq_some_iff.1 hh).1
      rw [List.getElem?_set_self hlt] at hh'
      exact .inl ⟨rfl, (Option.some.inj hh').symm⟩
    · rw [List.getElem?_set_ne hn] at hh'
      exact .inr ⟨hn, hh'⟩
  -- its ticket is the old one, or it is newer than all others
  have hticket {ticket : Nat} (ht : w.handler.ticket = some ticket) :
      h.ticket = some ticket ∨
        ticket = r.service.messages.length ∧ ticket < w.service.messages.length := by
    rcases hw.ticket_eq with heq | ⟨heq, hlt⟩
    · exact .inl (heq ▸ ht)
    · cases heq.symm.trans ht
      exact .inr ⟨rfl, hlt⟩
  constructor
  case stands =>
    intro url place h' hcall hh'
    rcases hplace hh' with ⟨rfl, rfl⟩ | ⟨hn, hh'⟩
    · rw [actsOf_append rfl]
      exact (hr.stands url _ _ hcall hh).work hcall hw
    · rw [actsOf_append_of_ne hn rfl]
      exact (hr.stands url _ _ hcall hh').mono hg
  case owned =>
    intro entry hentry
    dsimp only
    rw [List.length_set]
    rcases List.mem_append.1 hentry with hentry | hentry
    · exact hr.owned entry hentry
    · obtain ⟨act, _, rfl⟩ := List.mem_map.1 hentry
      exact (List.getElem?_eq_some_iff.1 hh).1
  case ticket_lt =>
    intro place h' ticket hh' ht
    rcases hplace hh' with ⟨rfl, rfl⟩ | ⟨_, hh'⟩
    · rcases hticket ht with ht | ⟨_, hlt⟩
      · exact Nat.lt_of_lt_of_le (hr.ticket_lt _ _ _ hh ht) hg.messages.length_le
      · exact hlt
    · exact Nat.lt_of_lt_of_le (hr.ticket_lt _ _ _ hh' ht) hg.messages.length_le
  case tickets =>
    have hother {place : Nat} {h' : Handler} {ticket : Nat} (hn : number ≠ place)
        (hh' : r.handlers[place]? = some h') (ht : w.handler.ticket = some ticket) :
        h'.ticket ≠ some ticket := by
      intro ht'
      rcases hticket ht with ht | ⟨rfl, _⟩
      · exact hn (hr.tickets _ _ _ _ _ hh hh' ht ht')
      · exact Nat.lt_irrefl _ (hr.ticket_lt _ _ _ hh' ht')
    intro place place' h₁ h₂ ticket hh₁ hh₂ ht₁ ht₂
    rcases hplace hh₁ with ⟨rfl, rfl⟩ | ⟨hn₁, hh₁⟩
    · rcases hplace hh₂ with ⟨rfl, rfl⟩ | ⟨hn₂, hh₂⟩
      · rfl
      · exact absurd ht₂ (hother hn₂ hh₂ ht₁)
    · rcases hplace hh₂ with ⟨rfl, rfl⟩ | ⟨hn₂, hh₂⟩
      · exact absurd ht₁ (hother hn₁ hh₁ ht₂)
      · exact hr.tickets place place' h₁ h₂ ticket hh₁ hh₂ ht₁ ht₂

theorem Sound.step (hr : Sound bot r) (h : Stepped terms bot r event r') : Sound bot r' := by
  cases h with
  | served hs => exact hr.served (Service.grows_of_stepped (Service.stepped_of_step hs))
  | polled network => exact hr.polled _ _
  | worked hh hw => exact hr.worked hh (worked_of_work hw)

/-! ## Steps -/

/-- The steps that the handler with this number can still take, at most; all of them if there is no
such handler yet. -/
def left (r : Reception) (number : Nat) : Nat := (r.handlers[number]?).elim 5 Handler.rank

theorem left_step (h : Stepped terms bot r event r') (number : Nat) :
    r'.left number + (if event.number? = some number then 1 else 0) ≤ r.left number := by
  cases h with
  | served => exact Nat.le_refl _
  | polled network =>
      -- a handler that was just started has all of its steps before it
      refine Nat.le_of_eq (Service.elim_getElem?_append (fun h hh => ?_) number)
      obtain ⟨u, _, rfl⟩ := List.mem_map.1 hh
      rfl
  | worked hh hw => exact Service.elim_getElem?_set hh (worked_of_work hw).rank_lt number

/-- Each handler takes five steps at most. -/
theorem steps_of_run (h : (initial offset).run terms bot history = some r) (number : Nat) :
    history.countP (·.number? = some number) ≤ 5 := by
  have hstart : (initial offset).left number ≤ 5 := Nat.le_refl 5
  have hrun : r.left number + history.countP (·.number? = some number) ≤ 5 := by
    refine run_induction (r := initial offset)
      (P := fun past r => r.left number + past.countP (·.number? = some number) ≤ 5) ?_ hstart h
    intro past r r' event hr hstep
    have hleft := left_step hstep number
    rw [List.countP_append, List.countP_singleton]
    simp only [decide_eq_true_eq]
    omega
  exact Nat.le_trans (Nat.le_add_left _ _) hrun

/-- As long as its work is not done, a handler can take a step, unless the channel to the supervisor
is full. -/
theorem exists_work (terms : Service.Terms) (bot : Bot) (s : Service) (hrank : h.rank ≠ 0) :
    (∃ m w, Worked terms bot s h m w) ∨ ∃ message, s.step terms (.send message) = none := by
  cases hs : h.stage with
  | fresh =>
      cases hi : h.update.incoming? with
      | none => exact .inl ⟨_, _, .passed hs hi⟩
      | some incoming =>
          obtain ⟨chat, name, text⟩ := incoming
          cases hm : (course name text).message? with
          | none => exact .inl ⟨_, _, .answered hs hi hm⟩
          | some message =>
              cases hsend : s.step terms (.send message) with
              | none => exact .inr ⟨message, hsend⟩
              | some s' => exact .inl ⟨_, _, .asked hs hi hm hsend⟩
  | waiting chat c => exact .inl ⟨_, _, .gaveUp hs⟩
  | ready reply =>
      cases hcall : bot.call "sendMessage" with
      | error e => exact .inl ⟨_, _, .unsent hs hcall⟩
      | ok url => exact .inl ⟨_, _, .sent hs hcall⟩
  | sending url reply =>
      -- whatever the end of the exchange is, there can be one
      have hbroken : ¬ refusesMarkup .broken = true := nofun
      exact .inl ⟨_, _, .ended hs hbroken⟩
  | resending reply => exact .inl ⟨.finish .broken, _, .endedAgain hs⟩
  | silent => exact absurd (by rw [Handler.rank, hs]; rfl) hrank
  | done reply => exact absurd (by rw [Handler.rank, hs]; rfl) hrank

/-- As long as the work of a handler is not done, it can go on, or the loop of the supervisor can.
-/
theorem exists_step {number : Nat} (hcap : 0 < terms.capacity)
    (hh : r.handlers[number]? = some h) (hrank : h.rank ≠ 0) :
    ∃ event, (event.number? = some number ∨ event = .serve .receive ∨ event = .serve .close) ∧
      (r.step terms bot event).isSome = true := by
  rcases exists_work terms bot r.service hrank with ⟨m, w, hw⟩ | ⟨message, hsend⟩
  · refine ⟨.work number m, .inl rfl, ?_⟩
    rw [step_work hh hw.work_eq]
    rfl
  · obtain ⟨event, hevent, hs⟩ := Service.exists_step_of_full hcap hsend
    have hstep : (r.step terms bot (.serve event)).isSome = true := by
      rw [step, Option.isSome_map]
      exact hs
    rcases List.mem_cons.1 hevent with rfl | hevent
    · exact ⟨_, .inr (.inl rfl), hstep⟩
    · cases List.mem_singleton.1 hevent
      exact ⟨_, .inr (.inr rfl), hstep⟩

/-! ## Updates -/

/-- The networks over which the bot asks for updates. -/
def polls (history : List Event) : List Http.Network :=
  history.filterMap fun
    | .poll network => some network
    | .serve _ | .work _ _ => none

theorem advance_append (offset : Int64) (updates more : List Update) :
    advance offset (updates ++ more) = advance (advance offset updates) more :=
  List.foldl_append

theorem batches_concat (bot : Bot) (offset : Int64) (networks : List Http.Network)
    (network : Http.Network) :
    (bot.batches offset (networks ++ [network])).flatMap (·.2) =
      (bot.batches offset networks).flatMap (·.2) ++
        bot.batch network (advance offset ((bot.batches offset networks).flatMap (·.2))) := by
  induction networks generalizing offset with
  | nil => simp [Bot.batches, advance]
  | cons first rest ih =>
      simp only [List.cons_append, Bot.batches, List.flatMap_cons, ih, advance_append,
        List.append_assoc]

/-- A bot that gets no updates from any call gets none in a run. -/
theorem flatMap_batches_eq_nil (h : ∀ network offset, bot.batch network offset = [])
    (networks : List Http.Network) (offset : Int64) :
    (bot.batches offset networks).flatMap (·.2) = [] := by
  induction networks generalizing offset with
  | nil => rfl
  | cons network rest ih =>
      rw [Bot.batches, List.flatMap_cons, ih, List.append_nil]
      exact h network offset

theorem map_update_set {handlers : List Handler} {number : Nat} {next : Handler}
    (hh : handlers[number]? = some h) (hu : next.update = h.update) :
    (handlers.set number next).map (·.update) = handlers.map (·.update) := by
  obtain ⟨hlt, hget⟩ := List.getElem?_eq_some_iff.1 hh
  have hplace : number < (handlers.map (·.update)).length := by
    rw [List.length_map]
    exact hlt
  have hsame : (handlers.map (·.update))[number] = next.update := by
    rw [List.getElem_map, hget, hu]
  rw [List.map_set, ← hsame, List.set_getElem_self hplace]

/-- There is one handler for each update that polls bring, and they alone move the number. -/
theorem updates_of_run (h : (initial offset).run terms bot history = some r) :
    r.handlers.map (·.update) = (bot.batches offset (polls history)).flatMap (·.2) ∧
      r.offset = advance offset (r.handlers.map (·.update)) := by
  refine run_induction (r := initial offset)
    (P := fun past r =>
      r.handlers.map (·.update) = (bot.batches offset (polls past)).flatMap (·.2) ∧
        r.offset = advance offset (r.handlers.map (·.update))) ?_ ⟨rfl, rfl⟩ h
  intro past r r' event hr hstep
  obtain ⟨hupdates, hoffset⟩ := hr
  have hpolls (network : Http.Network) :
      polls (past ++ [.poll network]) = polls past ++ [network] :=
    List.filterMap_append
  have hserve (event : Service.Event) : polls (past ++ [.serve event]) = polls past :=
    List.filterMap_append.trans (List.append_nil _)
  have hwork (number : Nat) (m : Move) : polls (past ++ [.work number m]) = polls past :=
    List.filterMap_append.trans (List.append_nil _)
  cases hstep with
  | served =>
      rw [hserve]
      exact ⟨hupdates, hoffset⟩
  | polled network =>
      have hstart (updates : List Update) :
          (updates.map Handler.start).map (·.update) = updates := by
        rw [List.map_map]
        exact List.map_id _
      dsimp only
      rw [hpolls, batches_concat, List.map_append, hstart, advance_append, ← hoffset, ← hupdates,
        ← hoffset]
      exact ⟨rfl, rfl⟩
  | worked hh hw =>
      have hsame := map_update_set hh (worked_of_work hw).update_eq
      rw [hwork]
      dsimp only
      rw [hsame]
      exact ⟨hupdates, hoffset⟩

/-! ## What is sent -/

/-- What is sent in a run, and for what. -/
structure Answered (terms : Service.Terms) (bot : Bot) (offset : Int64) (history : List Event)
    (r : Reception) : Prop where
  /-- There is one handler for each update that came in. -/
  updates : r.handlers.map (·.update) = (bot.batches offset (polls history)).flatMap (·.2)
  /-- The number to go on from is that behind the updates, whatever becomes of them. -/
  next : r.offset = advance offset (r.handlers.map (·.update))
  /-- Nothing is sent but for one of them. -/
  owned : ∀ entry ∈ r.traffic, entry.1 < r.handlers.length
  /-- Nothing is sent if there is no text, or one that nothing is said to. -/
  quiet : ∀ number h, r.handlers[number]? = some h →
    (∀ chat name text, h.update.Says chat name text → Ignored text) →
      (h.stage = .fresh ∨ h.stage = .silent) ∧ r.actsOf number = []
  /-- Otherwise nothing is sent before the reply is there; then it is sent as it should, and to the
  chat of the message. -/
  replies : ∀ number h chat name text, r.handlers[number]? = some h →
    h.update.Says chat name text → ¬ Ignored text →
      (h.stage = .fresh ∨ h.stage = .waiting chat (course name text)) ∧ r.actsOf number = [] ∨
        ∃ url answer, bot.call "sendMessage" = .ok url ∧
          Comes r.service h.ticket name text answer ∧
          Sends url chat answer h.stage (r.actsOf number)
  /-- What is asked of the supervisor for one message is not asked for another. -/
  tickets : ∀ (number number' : Nat) (h h' : Handler) (ticket : Nat),
    r.handlers[number]? = some h → r.handlers[number']? = some h' →
      h.ticket = some ticket → h'.ticket = some ticket → number = number'
  /-- No handler goes on forever, and none comes to a halt before its work is done. -/
  steps : ∀ number, history.countP (·.number? = some number) ≤ 5
  goesOn : 0 < terms.capacity → ∀ (number : Nat) (h : Handler), r.handlers[number]? = some h →
    h.stage ≠ .silent → (∀ reply, h.stage ≠ .done reply) →
      ∃ event, (event.number? = some number ∨ event = .serve .receive ∨ event = .serve .close) ∧
        (r.step terms bot event).isSome = true
  /-- When and with what end one reply is sent makes no difference to anything else. -/
  isolated : ∀ number history' r', (initial offset).run terms bot history' = some r' →
    history.filter (!·.delivers number) = history'.filter (!·.delivers number) →
      r.service = r'.service ∧ r.offset = r'.offset ∧
        ∀ place, place ≠ number →
          r.handlers[place]? = r'.handlers[place]? ∧ r.actsOf place = r'.actsOf place
  /-- With nothing else going on, it can go on as the bot alone does. -/
  alone : 0 < terms.capacity → Idle r.service → ∀ world network,
    ∃ events r' traffic,
      r.run terms bot (.poll network :: events) = some r' ∧ Idle r'.service ∧
        r'.offset = (bot.poll terms.setup world network r.service.view r.offset).offset ∧
        r'.service.view =
          (bot.poll terms.setup world network r.service.view r.offset).batch.supervisor ∧
        r'.traffic = r.traffic ++ traffic ∧
        traffic.filterMap (·.2.request?) =
          (bot.poll terms.setup world network r.service.view r.offset).batch.requests.filter sends

/-- A bot with an update to deal with can send messages. -/
theorem exists_call_of_run {api token : Text}
    (h : (initial offset).run terms (.ofToken api token) history = some r)
    (hne : r.handlers ≠ []) :
    ∃ url, (Bot.ofToken api token).call "sendMessage" = .ok url := by
  -- if no message can be sent, no updates can be asked for either, and no handler is started
  by_contra hnot
  have hempty (network : Http.Network) (offset : Int64) :
      (Bot.ofToken api token).batch network offset = [] :=
    not_not.1 fun hbatch => hnot (Bot.exists_call hbatch)
  have hbatches := flatMap_batches_eq_nil hempty (polls history) offset
  rw [← (updates_of_run h).1] at hbatches
  exact hne (List.map_eq_nil_iff.1 hbatches)

/-- In any run, with any updates, in any order of the steps of their handlers and of the supervisor,
and with any ends of the requests, what is sent is as it should be. -/
theorem answered_of_run {api token : Text}
    (h : (initial offset).run terms (.ofToken api token) history = some r) :
    Answered terms (.ofToken api token) offset history r := by
  obtain ⟨hupdates, hnext⟩ := updates_of_run h
  have hsound : Sound (.ofToken api token) r :=
    run_induction (P := fun _ => Sound (.ofToken api token)) Sound.step (sound_initial _ offset) h
  have hcall {number : Nat} {h' : Handler} (hh : r.handlers[number]? = some h') :
      ∃ url, (Bot.ofToken api token).call "sendMessage" = .ok url :=
    exists_call_of_run h (List.ne_nil_of_mem (List.mem_of_getElem? hh))
  constructor
  case updates => exact hupdates
  case next => exact hnext
  case owned => exact hsound.owned
  case quiet =>
    intro number h' hh hi
    obtain ⟨url, hurl⟩ := hcall hh
    exact (hsound.stands url number h' hurl hh).quiet fun chat name text hi' =>
      hi chat name text (Update.incoming?_eq_some_iff.1 hi')
  case replies =>
    intro number h' chat name text hh hsays hnot
    obtain ⟨url, hurl⟩ := hcall hh
    have hi := Update.incoming?_eq_some_iff.2 hsays
    rcases (hsound.stands url number h' hurl hh).answers hi hnot with hbefore | ⟨answer, hc, hsends⟩
    · exact .inl hbefore
    · exact .inr ⟨url, answer, hurl, hc, hsends⟩
  case tickets => exact hsound.tickets
  case steps => exact steps_of_run h
  case goesOn =>
    intro hcap number h' hh hsilent hdone
    refine exists_step hcap hh fun hrank => ?_
    rcases Stage.rank_eq_zero hrank with hs | ⟨reply, hs⟩
    · exact hsilent hs
    · exact hdone reply hs
  case isolated => exact fun number history' r' h' he => agree_of_run h h' he
  case alone => exact fun hcap hidle world network => exists_run_poll world hcap network hidle

/-- A report is asked for, a message has no text, one is blank, one holds a question from another
chat, and one update is no message. -/
def mixedBatch : Http.Exchange :=
  Feed.listingOf [Feed.messageText 5 70 (some "/status"), Feed.messageText 6 70 none,
    Feed.messageText 7 71 (some "  "), Feed.messageText 8 71 (some "2+2"), Feed.numberText 9]

/-- The handlers take their steps in turns.  The report is awaited no longer, and the markup of the
reply to that is refused; the reply to the question, which comes too late, cannot be sent at all. -/
def mixedHistory : List Event :=
  [.poll (fun _ => mixedBatch), .work 3 .begin, .work 0 .begin, .serve .receive, .work 4 .begin,
    .work 0 .giveUp, .work 0 .send, .work 1 .begin, .serve (.expire 0),
    .work 0 (.finish (.answered 400 [])), .poll .unreachable, .serve (.deliver 0),
    .work 3 (.hear (.answer Supervisor.failureText)), .work 3 .send, .work 2 .begin,
    .work 0 (.finish (.answered 200 [])), .work 3 (.finish .broken)]

/-- What was sent for replies, with the numbers of the handlers. -/
def sentBodies (r : Reception) : List (Nat × Option Text) :=
  r.traffic.filterMap fun entry => entry.2.request?.map fun request => (entry.1, request.body)

/-- The record that sends the text of a failure to a chat, with the mode behind it, if any. -/
def failureBody (chat mode : String) : Text :=
  ("\x7b\"chat_id\":" ++ chat ++
    ",\"text\":\"❌ Внутренняя ошибка бота. Попробуйте ещё раз.\"" ++ mode ++ "\x7d").toList

theorem answered_of_run_mixed :
    ∃ r, (initial 0).run ⟨Supervisor.usualSetup, 64, []⟩ (.ofToken "chat:/".toList "7".toList)
        mixedHistory = some r ∧
      (r.offset, (List.range 5).map fun number => (r.actsOf number).length) =
        (10, [4, 0, 0, 2, 0]) ∧
      r.sentBodies =
        [(0, some (failureBody "70" ",\"parse_mode\":\"Markdown\"")),
          (0, some (failureBody "70" "")),
          (3, some (failureBody "71" ",\"parse_mode\":\"Markdown\""))] ∧
      Answered ⟨Supervisor.usualSetup, 64, []⟩ (.ofToken "chat:/".toList "7".toList) 0 mixedHistory
        r := by
  have hrun : ((initial 0).run ⟨Supervisor.usualSetup, 64, []⟩
      (.ofToken "chat:/".toList "7".toList) mixedHistory).map
        (fun r => ((r.offset, (List.range 5).map fun number => (r.actsOf number).length),
          r.sentBodies)) =
      some ((10, [4, 0, 0, 2, 0]),
        [(0, some (failureBody "70" ",\"parse_mode\":\"Markdown\"")),
          (0, some (failureBody "70" "")),
          (3, some (failureBody "71" ",\"parse_mode\":\"Markdown\""))]) := by decide +kernel
  obtain ⟨r, h, hshown⟩ := Option.map_eq_some_iff.1 hrun
  obtain ⟨hcounts, hbodies⟩ := Prod.mk.inj hshown
  exact ⟨r, h, hcounts, hbodies, answered_of_run h⟩

end Reception
end BotApi
end ChatAssistant
