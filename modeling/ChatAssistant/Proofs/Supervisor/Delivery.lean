import ChatAssistant.Proofs.Supervisor.Service
import Mathlib.Data.List.Nodup

/-!
# From the channel to the responses

The channel hands out its letters in the order in which they were sent, and each letter has a ticket
of its own.  What comes of a letter can therefore be read from its place alone:

* `Ordered` — what was taken and what still waits are the letters that were sent, in their order;
  nothing is taken after the first shutdown; and each question that was taken has one job;
* `Addressed` — the responses to each ticket: none as long as the letter waits or its job is at
  work, and one, of the right kind, after that.
-/

namespace ChatAssistant
namespace Service

open Assistant (Task)

/-- The letter asks a question. -/
def Letter.isQuestion (letter : Letter) : Bool :=
  match letter.message with
  | .question _ => true
  | .status | .shutdown => false

/-- All letters that were ever sent. -/
def letters (s : Service) : List Letter := s.messages.mapIdx Letter.mk

/-- The responses to a ticket, in this order. -/
def responsesTo (s : Service) (ticket : Nat) : List Response :=
  (s.responses.filter (·.1 = ticket)).map (·.2)

/-- What the loop itself responds to a message that it takes.  A question is left to its job. -/
def Message.AtOnce (responses : List Response) : Message → Prop
  | .question _ => True
  | .status => ∃ report, responses = [.report report]
  | .shutdown => responses = []

/-- The responses that a job has sent. -/
def Stage.responses : Stage → List Response
  | .delivered text => [.answer text]
  | .working | .settled _ => []

variable {terms : Terms} {s s' : Service} {event : Event} {history : List Event}
  {letter other : Letter} {job : Job} {number : Nat}

/-! ## Letters -/

theorem mem_letters_iff :
    letter ∈ s.letters ↔ s.messages[letter.ticket]? = some letter.message := by
  rw [letters, List.mem_mapIdx]
  constructor
  · rintro ⟨ticket, hticket, rfl⟩
    exact List.getElem?_eq_getElem hticket
  · intro h
    obtain ⟨hticket, hmessage⟩ := List.getElem?_eq_some_iff.1 h
    exact ⟨letter.ticket, hticket, by rw [hmessage]⟩

theorem ticket_lt (h : letter ∈ s.letters) : letter.ticket < s.messages.length :=
  (List.getElem?_eq_some_iff.1 (mem_letters_iff.1 h)).1

/-- Letters with one ticket are the same. -/
theorem eq_of_ticket_eq (h : letter ∈ s.letters) (ho : other ∈ s.letters)
    (ht : letter.ticket = other.ticket) : letter = other := by
  rw [mem_letters_iff] at h ho
  rw [ht, ho] at h
  have hmessage : other.message = letter.message := Option.some.inj h
  cases letter
  cases other
  cases ht
  cases hmessage
  rfl

theorem tickets_eq_range (s : Service) :
    s.letters.map (·.ticket) = List.range s.messages.length := by
  refine List.ext_getElem (by simp [letters]) ?_
  intro number _ _
  simp [letters]

theorem nodup_letters (s : Service) : s.letters.Nodup := by
  have htickets : (s.letters.map (·.ticket)).Nodup := by
    rw [tickets_eq_range]
    exact List.nodup_range
  exact List.Nodup.of_map _ htickets

theorem letters_concat {message : Message} (h : s'.messages = s.messages ++ [message]) :
    s'.letters = s.letters ++ [⟨s.messages.length, message⟩] := by
  simp [letters, h]

/-! ## The order -/

/-- The channel keeps the order of the letters, and the loop takes them up to the first shutdown. -/
structure Ordered (s : Service) : Prop where
  line : s.loop ≠ .stopped → s.taken ++ s.queue = s.letters
  taken : s.taken <+: s.letters
  thrown : s.loop = .stopped → s.queue = []
  running : s.loop = .running → ∀ letter ∈ s.taken, letter.message ≠ .shutdown
  ended : s.loop ≠ .running → ∃ before ticket, s.taken = before ++ [⟨ticket, .shutdown⟩] ∧
    ∀ letter ∈ before, letter.message ≠ .shutdown
  jobs : s.jobs.map Job.letter = s.taken.filter Letter.isQuestion

theorem ordered_initial : Ordered initial where
  line _ := rfl
  taken := List.prefix_refl []
  thrown _ := rfl
  running _ := nofun
  ended h := absurd rfl h
  jobs := rfl

/-- What a job has in common with the one that replaces it stays as it is. -/
theorem map_set_of_eq {α : Type} {f : Job → α} (hj : s.jobs[number]? = some job) (next : Job)
    (hf : f next = f job) : (s.jobs.set number next).map f = s.jobs.map f := by
  obtain ⟨hnumber, rfl⟩ := List.getElem?_eq_some_iff.1 hj
  rw [List.map_set, hf, ← List.getElem_map f (h := by simpa using hnumber)]
  exact List.set_getElem_self _

theorem Ordered.mem_letters (hs : Ordered s) (h : letter ∈ s.taken) : letter ∈ s.letters :=
  hs.taken.subset h

/-- The letter that is taken next comes right after those that were taken. -/
theorem Ordered.receive {rest : List Letter} (hs : Ordered s) (hl : s.loop = .running)
    (hq : s.queue = letter :: rest) : (s.taken ++ [letter]) ++ rest = s.letters := by
  have hline := hs.line (by rw [hl]; nofun)
  rwa [hq, List.append_cons] at hline

/-- As long as the loop goes on, it has taken no shutdown. -/
theorem Ordered.running_concat (hs : Ordered s) (hl : s.loop = .running) (next : Letter)
    (hm : next.message ≠ .shutdown) :
    ∀ letter ∈ s.taken ++ [next], letter.message ≠ .shutdown := by
  intro letter hletter
  rcases List.mem_append.1 hletter with hletter | hletter
  · exact hs.running hl letter hletter
  · rw [List.mem_singleton.1 hletter]
    exact hm

/-- A letter that is sent comes last. -/
theorem Ordered.taken_concat {message : Message} (hs : Ordered s)
    (h : s'.messages = s.messages ++ [message]) : s.taken <+: s'.letters := by
  rw [letters_concat h]
  exact hs.taken.trans (List.prefix_append _ _)

theorem Ordered.step (hs : Ordered s) (h : Stepped terms s event s') : Ordered s' := by
  cases h with
  | sent message hl =>
      -- The new letter comes last, in the channel as among all letters.
      have hline : s.taken ++ (s.queue ++ [⟨s.messages.length, message⟩]) =
          s.letters ++ [⟨s.messages.length, message⟩] := by
        rw [← List.append_assoc, hs.line hl]
      exact ⟨fun _ => hline.trans (letters_concat rfl).symm, hs.taken_concat rfl,
        fun h => absurd h hl, hs.running, hs.ended, hs.jobs⟩
  | refused message hl =>
      exact ⟨fun h => absurd hl h, hs.taken_concat rfl, hs.thrown, hs.running, hs.ended, hs.jobs⟩
  | @began ticket content rest hl hq =>
      have hline := hs.receive hl hq
      have hrunning := hs.running_concat hl ⟨ticket, .question content⟩ (by simp)
      refine ⟨fun _ => hline, ⟨rest, hline⟩, ?_, fun _ => hrunning, fun h => absurd hl h, ?_⟩
      · intro h
        cases hl.symm.trans h
      · rw [List.map_append, List.filter_append, hs.jobs]
        rfl
  | @reported ticket rest hl hq =>
      have hline := hs.receive hl hq
      have hrunning := hs.running_concat hl ⟨ticket, .status⟩ (by simp)
      refine ⟨fun _ => hline, ⟨rest, hline⟩, ?_, fun _ => hrunning, fun h => absurd hl h, ?_⟩
      · intro h
        cases hl.symm.trans h
      · rw [respond, List.filter_append, hs.jobs]
        exact (List.append_nil _).symm
  | @ended ticket rest hl hq =>
      have hline := hs.receive hl hq
      refine ⟨fun _ => hline, ⟨rest, hline⟩, by simp, by simp, ?_, ?_⟩
      · intro _
        exact ⟨s.taken, ticket, rfl, hs.running hl⟩
      · rw [List.filter_append, hs.jobs]
        exact (List.append_nil _).symm
  | @moved number m job task cache hj ha' hm =>
      have hquestion := (Assistant.Task.moved_of_move hm).question_eq
      have hjobs := map_set_of_eq (f := Job.letter) hj { job with task := task }
        (by simp [Job.letter, hquestion])
      exact ⟨hs.line, hs.taken, hs.thrown, hs.running, hs.ended, hjobs.trans hs.jobs⟩
  | @settled number event job text ht hj hw =>
      have hjobs := map_set_of_eq (f := Job.letter) hj { job with stage := .settled text } rfl
      exact ⟨hs.line, hs.taken, hs.thrown, hs.running, hs.ended, hjobs.trans hs.jobs⟩
  | @delivered number job text hj hd =>
      have hjobs := map_set_of_eq (f := Job.letter) hj { job with stage := .delivered text } rfl
      exact ⟨hs.line, hs.taken, hs.thrown, hs.running, hs.ended, hjobs.trans hs.jobs⟩
  | closed hl =>
      -- What was in the channel is gone, but the letters that were taken are the same.
      have hended : s.loop ≠ .running := by simp [hl]
      exact ⟨fun h => absurd rfl h, hs.taken, fun _ => rfl, by simp, fun _ => hs.ended hended,
        hs.jobs⟩

/-! ## Letters and jobs -/

/-- Letters wait only as long as there is a channel. -/
theorem Ordered.ne_stopped (hs : Ordered s) (h : letter ∈ s.queue) : s.loop ≠ .stopped := by
  intro hl
  rw [hs.thrown hl] at h
  cases h

theorem Ordered.mem_of_queue (hs : Ordered s) (h : letter ∈ s.queue) : letter ∈ s.letters := by
  rw [← hs.line (hs.ne_stopped h)]
  exact List.mem_append_right _ h

/-- What waits has other tickets than what was taken. -/
theorem Ordered.ticket_ne (hs : Ordered s) (h : letter ∈ s.queue) (ho : other ∈ s.taken) :
    other.ticket ≠ letter.ticket := by
  intro ht
  have hsame := eq_of_ticket_eq (hs.mem_letters ho) (hs.mem_of_queue h) ht
  have hnodup := nodup_letters s
  rw [← hs.line (hs.ne_stopped h), List.nodup_append] at hnodup
  exact hnodup.2.2 other ho letter h hsame

/-- The letter that is taken next has another ticket than those behind it. -/
theorem Ordered.ticket_ne_of_rest {rest : List Letter} (hs : Ordered s) (hl : s.loop = .running)
    (hq : s.queue = letter :: rest) (h : other ∈ rest) : letter.ticket ≠ other.ticket := by
  intro ht
  have hmem : other ∈ s.queue := by
    rw [hq]
    exact List.mem_cons_of_mem _ h
  have hhead : letter ∈ s.queue := by
    rw [hq]
    exact List.mem_cons_self
  have hsame := eq_of_ticket_eq (hs.mem_of_queue hhead) (hs.mem_of_queue hmem) ht
  have hnodup := nodup_letters s
  rw [← hs.receive hl hq, List.nodup_append] at hnodup
  exact hnodup.2.2 letter (List.mem_append_right _ List.mem_cons_self) other h hsame

theorem Ordered.mem_of_job (hs : Ordered s) (h : job ∈ s.jobs) : job.letter ∈ s.taken := by
  have hletter : job.letter ∈ s.jobs.map Job.letter := List.mem_map_of_mem h
  rw [hs.jobs] at hletter
  exact List.mem_of_mem_filter hletter

theorem Ordered.exists_job {ticket : Nat} {content : Text} (hs : Ordered s)
    (h : ⟨ticket, .question content⟩ ∈ s.taken) :
    ∃ (number : Nat) (job : Job), s.jobs[number]? = some job ∧
      job.letter = ⟨ticket, .question content⟩ := by
  have hletter : (⟨ticket, .question content⟩ : Letter) ∈ s.jobs.map Job.letter := by
    rw [hs.jobs]
    exact List.mem_filter.2 ⟨h, rfl⟩
  obtain ⟨job, hjob, hl⟩ := List.mem_map.1 hletter
  obtain ⟨number, hnumber⟩ := List.mem_iff_getElem?.1 hjob
  exact ⟨number, job, hnumber, hl⟩

/-- Each job has a ticket of its own. -/
theorem Ordered.number_eq {number' : Nat} {job' : Job} (hs : Ordered s)
    (h : s.jobs[number]? = some job) (h' : s.jobs[number']? = some job')
    (ht : job.ticket = job'.ticket) : number = number' := by
  have hmem := hs.mem_letters (hs.mem_of_job (List.mem_of_getElem? h))
  have hmem' := hs.mem_letters (hs.mem_of_job (List.mem_of_getElem? h'))
  have hsame : job.letter = job'.letter := eq_of_ticket_eq hmem hmem' ht
  have hnodup : (s.jobs.map Job.letter).Nodup := by
    rw [hs.jobs]
    exact ((nodup_letters s).sublist hs.taken.sublist).filter _
  have heq : (s.jobs.map Job.letter)[number]? = (s.jobs.map Job.letter)[number']? := by
    rw [List.getElem?_map, List.getElem?_map, h, h']
    exact congrArg some hsame
  have hlt : number < (s.jobs.map Job.letter).length := by
    rw [List.length_map]
    exact (List.getElem?_eq_some_iff.1 h).1
  exact (List.getElem?_inj hlt hnodup).1 heq

/-- An entry of a list in which one was replaced is the new one, or it has another place. -/
theorem eq_or_exists_of_mem_set {α : Type} {xs : List α} {x y : α} (h : x ∈ xs.set number y) :
    x = y ∨ ∃ place, place ≠ number ∧ xs[place]? = some x := by
  obtain ⟨place, hplace⟩ := List.mem_iff_getElem?.1 h
  by_cases hp : place = number
  · subst hp
    have hlt := (List.getElem?_eq_some_iff.1 hplace).1
    rw [List.length_set] at hlt
    rw [List.getElem?_set_self hlt] at hplace
    exact .inl (Option.some.inj hplace).symm
  · rw [List.getElem?_set_ne (Ne.symm hp)] at hplace
    exact .inr ⟨place, hp, hplace⟩

/-! ## Responses -/

section Responses

variable {ticket : Nat} {response : Response} {more : List (Nat × Response)}

theorem responsesTo_append (h : s'.responses = s.responses ++ more) (ticket : Nat) :
    s'.responsesTo ticket =
      s.responsesTo ticket ++ (more.filter (·.1 = ticket)).map (·.2) := by
  rw [responsesTo, h, List.filter_append, List.map_append]
  rfl

theorem responsesTo_concat (h : s'.responses = s.responses ++ [(ticket, response)]) :
    s'.responsesTo ticket = s.responsesTo ticket ++ [response] := by
  simp [responsesTo_append h]

theorem responsesTo_concat_of_ne (h : s'.responses = s.responses ++ [(ticket, response)])
    {ticket' : Nat} (hne : ticket ≠ ticket') : s'.responsesTo ticket' = s.responsesTo ticket' := by
  simp [responsesTo_append h, hne]

/-- What is thrown away gets a fault, to its own ticket. -/
theorem eq_of_loss? {loss : Nat × Response} (h : letter.loss? terms = some loss) :
    loss = (letter.ticket, .fault (.unavailable terms.thrownAway)) := by
  unfold Letter.loss? at h
  split at h
  · cases h
  · exact (Option.some.inj h).symm
  · exact (Option.some.inj h).symm

theorem filter_losses (terms : Terms) (queue : List Letter) (ticket : Nat) :
    (queue.filterMap (Letter.loss? terms)).filter (·.1 = ticket) =
      (queue.filter (·.ticket = ticket)).filterMap (Letter.loss? terms) := by
  induction queue with
  | nil => rfl
  | cons letter rest ih =>
      cases hloss : letter.loss? terms with
      | none =>
          by_cases ht : letter.ticket = ticket
          · simp [hloss, ht, ih]
          · simp [hloss, ht, ih]
      | some loss =>
          have hticket : loss.1 = letter.ticket := by rw [eq_of_loss? hloss]
          by_cases ht : letter.ticket = ticket
          · simp [hloss, ht, hticket, ih]
          · simp [hloss, ht, hticket, ih]

/-- What stands for each letter at most once is found once by its ticket. -/
theorem filter_ticket {queue : List Letter} (hn : queue.Nodup) (h : letter ∈ queue)
    (ht : ∀ other ∈ queue, other.ticket = letter.ticket → other = letter) :
    queue.filter (·.ticket = letter.ticket) = [letter] := by
  have hsame : queue.filter (·.ticket = letter.ticket) = queue.filter (· == letter) := by
    refine List.filter_congr fun other ho => ?_
    rw [Bool.eq_iff_iff, decide_eq_true_iff, beq_iff_eq]
    exact ⟨ht other ho, fun he => by rw [he]⟩
  rw [hsame, List.filter_beq, List.count_eq_one_of_mem hn h]
  rfl

theorem responsesTo_losses {queue : List Letter}
    (h : s'.responses = s.responses ++ queue.filterMap (Letter.loss? terms))
    (hne : ∀ letter ∈ queue, letter.ticket ≠ ticket) :
    s'.responsesTo ticket = s.responsesTo ticket := by
  have hnone : queue.filter (·.ticket = ticket) = [] := by
    rw [List.filter_eq_nil_iff]
    intro letter hletter
    simpa using hne letter hletter
  rw [responsesTo_append h, filter_losses, hnone]
  exact List.append_nil _

end Responses

/-! ## What comes of a letter -/

/-- Who gets which responses. -/
structure Addressed (s : Service) : Prop where
  unsent : ∀ ticket, s.messages.length ≤ ticket → s.responsesTo ticket = []
  queued : ∀ letter ∈ s.queue, s.responsesTo letter.ticket = []
  taken : ∀ letter ∈ s.taken, letter.message.AtOnce (s.responsesTo letter.ticket)
  jobs : ∀ job ∈ s.jobs, s.responsesTo job.ticket = job.stage.responses
  lost : s.loop = .stopped → ∀ letter ∈ s.letters, letter ∉ s.taken →
    letter.message = .shutdown ∧ s.responsesTo letter.ticket = [] ∨
      ∃ detail, s.responsesTo letter.ticket = [.fault (.unavailable detail)]

theorem addressed_initial : Addressed initial where
  unsent _ _ := rfl
  queued := nofun
  taken := nofun
  jobs := nofun
  lost := nofun

theorem unsent_before {message : Message} {ticket : Nat}
    (h : (s.messages ++ [message]).length ≤ ticket) : s.messages.length < ticket := by
  rw [List.length_append] at h
  exact h

theorem Addressed.sent (ha : Addressed s) (message : Message) (hl : s.loop ≠ .stopped) :
    Addressed { s with
      messages := s.messages ++ [message]
      queue := s.queue ++ [⟨s.messages.length, message⟩] } := by
  refine ⟨fun ticket ht => ha.unsent ticket (Nat.le_of_lt (unsent_before ht)), ?_, ha.taken,
    ha.jobs, fun h => absurd h hl⟩
  intro letter hletter
  rcases List.mem_append.1 hletter with hletter | hletter
  · exact ha.queued letter hletter
  · rw [List.mem_singleton.1 hletter]
    exact ha.unsent _ (Nat.le_refl _)

theorem Addressed.refused (ha : Addressed s) (hs : Ordered s) (message : Message)
    (hl : s.loop = .stopped) :
    Addressed (respond { s with messages := s.messages ++ [message] } s.messages.length
      (.fault Supervisor.closed)) := by
  -- The only response that is new has the only ticket that is new.
  have hold (letter : Letter) (h : letter ∈ s.letters) :
      responsesTo (respond { s with messages := s.messages ++ [message] } s.messages.length
        (.fault Supervisor.closed)) letter.ticket = s.responsesTo letter.ticket :=
    responsesTo_concat_of_ne rfl (Nat.ne_of_gt (ticket_lt h))
  refine ⟨?_, ?_, ?_, ?_, ?_⟩
  · intro ticket ht
    have hlt := unsent_before ht
    exact (responsesTo_concat_of_ne rfl (Nat.ne_of_lt hlt)).trans
      (ha.unsent ticket (Nat.le_of_lt hlt))
  · intro letter hletter
    exact (hold letter (hs.mem_of_queue hletter)).trans (ha.queued letter hletter)
  · intro letter hletter
    rw [hold letter (hs.mem_letters hletter)]
    exact ha.taken letter hletter
  · intro job hjob
    exact (hold job.letter (hs.mem_letters (hs.mem_of_job hjob))).trans (ha.jobs job hjob)
  · intro _ letter hletter htaken
    rw [letters_concat rfl] at hletter
    rcases List.mem_append.1 hletter with hletter | hletter
    · rw [hold letter hletter]
      exact ha.lost hl letter hletter htaken
    · rw [List.mem_singleton.1 hletter]
      have hnone := ha.unsent s.messages.length (Nat.le_refl _)
      exact .inr ⟨_, (responsesTo_concat (s := s) rfl).trans (by rw [hnone]; rfl)⟩

theorem Addressed.began {ticket : Nat} {content : Text} {rest : List Letter} (ha : Addressed s)
    (hl : s.loop = .running) (hq : s.queue = ⟨ticket, .question content⟩ :: rest) :
    Addressed { s with
      queue := rest
      taken := s.taken ++ [⟨ticket, .question content⟩]
      jobs := s.jobs ++ [.start ticket content] } := by
  have hqueued := ha.queued
  rw [hq] at hqueued
  refine ⟨ha.unsent, fun letter h => hqueued letter (List.mem_cons_of_mem _ h), ?_, ?_,
    fun h => absurd (hl.symm.trans h) nofun⟩
  · intro letter hletter
    rcases List.mem_append.1 hletter with hletter | hletter
    · exact ha.taken letter hletter
    · rw [List.mem_singleton.1 hletter]
      trivial
  · intro job hjob
    rcases List.mem_append.1 hjob with hjob | hjob
    · exact ha.jobs job hjob
    · rw [List.mem_singleton.1 hjob]
      exact hqueued _ List.mem_cons_self

theorem Addressed.reported {ticket : Nat} {rest : List Letter} (ha : Addressed s) (hs : Ordered s)
    (hl : s.loop = .running) (hq : s.queue = ⟨ticket, .status⟩ :: rest)
    (report : Status.Report) :
    Addressed (respond { s with queue := rest, taken := s.taken ++ [⟨ticket, .status⟩] } ticket
      (.report report)) := by
  have hhead : ⟨ticket, .status⟩ ∈ s.queue := by
    rw [hq]
    exact List.mem_cons_self
  have hold (ticket' : Nat) (h : ticket ≠ ticket') :
      responsesTo (respond { s with queue := rest, taken := s.taken ++ [⟨ticket, .status⟩] } ticket
        (.report report)) ticket' = s.responsesTo ticket' :=
    responsesTo_concat_of_ne rfl h
  refine ⟨?_, ?_, ?_, ?_, fun h => absurd (hl.symm.trans h) nofun⟩
  · intro ticket' ht
    have hlt := ticket_lt (hs.mem_of_queue hhead)
    rw [hold ticket' (Nat.ne_of_lt (Nat.lt_of_lt_of_le hlt ht))]
    exact ha.unsent ticket' ht
  · intro letter hletter
    rw [hold letter.ticket (hs.ticket_ne_of_rest hl hq hletter)]
    exact ha.queued letter (by rw [hq]; exact List.mem_cons_of_mem _ hletter)
  · intro letter hletter
    rcases List.mem_append.1 hletter with hletter | hletter
    · rw [hold letter.ticket (Ne.symm (hs.ticket_ne hhead hletter))]
      exact ha.taken letter hletter
    · rw [List.mem_singleton.1 hletter]
      have hnone := ha.queued _ hhead
      exact ⟨report, (responsesTo_concat (s := s) rfl).trans (by rw [hnone]; rfl)⟩
  · intro job hjob
    rw [hold job.ticket (Ne.symm (hs.ticket_ne hhead (hs.mem_of_job hjob)))]
    exact ha.jobs job hjob

theorem Addressed.ended {ticket : Nat} {rest : List Letter} (ha : Addressed s)
    (hq : s.queue = ⟨ticket, .shutdown⟩ :: rest) :
    Addressed { s with
      queue := rest, taken := s.taken ++ [⟨ticket, .shutdown⟩], loop := .stopping } := by
  have hqueued := ha.queued
  rw [hq] at hqueued
  refine ⟨ha.unsent, fun letter h => hqueued letter (List.mem_cons_of_mem _ h), ?_, ha.jobs, nofun⟩
  intro letter hletter
  rcases List.mem_append.1 hletter with hletter | hletter
  · exact ha.taken letter hletter
  · rw [List.mem_singleton.1 hletter]
    exact hqueued _ List.mem_cons_self

/-- A job that is not done with its response may change without any. -/
theorem Addressed.set_job (ha : Addressed s) (hj : s.jobs[number]? = some job) {next : Job}
    {cache : Cache} {processed : Nat} (ht : next.ticket = job.ticket)
    (hn : next.stage.responses = job.stage.responses) :
    Addressed { s with
      cache := cache, processed := processed, jobs := s.jobs.set number next } := by
  refine ⟨ha.unsent, ha.queued, ha.taken, ?_, ha.lost⟩
  intro job' hjob
  rcases eq_or_exists_of_mem_set hjob with rfl | ⟨place, _, hplace⟩
  · rw [ht, hn]
    exact ha.jobs job (List.mem_of_getElem? hj)
  · exact ha.jobs job' (List.mem_of_getElem? hplace)

theorem Addressed.delivered {text : Text} (ha : Addressed s) (hs : Ordered s)
    (hj : s.jobs[number]? = some job) (hd : job.stage = .settled text) :
    Addressed (respond { s with jobs := s.jobs.set number { job with stage := .delivered text } }
      job.ticket (.answer text)) := by
  have hjob := List.mem_of_getElem? hj
  have htaken := hs.mem_of_job hjob
  -- Nobody but the asker of this question hears anything new.
  have hold (ticket : Nat) (h : job.ticket ≠ ticket) :
      responsesTo (respond
        { s with jobs := s.jobs.set number { job with stage := .delivered text } }
        job.ticket (.answer text)) ticket = s.responsesTo ticket :=
    responsesTo_concat_of_ne rfl h
  refine ⟨?_, ?_, ?_, ?_, ?_⟩
  · intro ticket ht
    have hlt := ticket_lt (hs.mem_letters htaken)
    rw [hold ticket (Nat.ne_of_lt (Nat.lt_of_lt_of_le hlt ht))]
    exact ha.unsent ticket ht
  · intro letter hletter
    rw [hold letter.ticket (hs.ticket_ne hletter htaken)]
    exact ha.queued letter hletter
  · -- What was taken with this ticket is the question, and that is not answered by the loop.
    intro letter hletter
    by_cases ht : job.letter.ticket = letter.ticket
    · rw [← eq_of_ticket_eq (hs.mem_letters htaken) (hs.mem_letters hletter) ht]
      trivial
    · rw [hold letter.ticket ht]
      exact ha.taken letter hletter
  · intro job' hjob'
    rcases eq_or_exists_of_mem_set hjob' with rfl | ⟨place, hne, hplace⟩
    · have hnone := ha.jobs job hjob
      rw [hd] at hnone
      exact (responsesTo_concat (s := s) rfl).trans (by rw [hnone]; rfl)
    · rw [hold job'.ticket fun ht => hne (hs.number_eq hplace hj ht.symm)]
      exact ha.jobs job' (List.mem_of_getElem? hplace)
  · intro hl letter hletter hnot
    have hne : job.letter.ticket ≠ letter.ticket := by
      intro ht
      exact hnot (eq_of_ticket_eq (hs.mem_letters htaken) hletter ht ▸ htaken)
    rw [hold letter.ticket hne]
    exact ha.lost hl letter hletter hnot

theorem Addressed.closed (ha : Addressed s) (hs : Ordered s) (hl : s.loop = .stopping) :
    Addressed { s with
      loop := .stopped
      queue := []
      responses := s.responses ++ s.queue.filterMap (Letter.loss? terms) } := by
  have hline := hs.line (by rw [hl]; nofun)
  have hold (ticket : Nat) (h : ∀ letter ∈ s.queue, letter.ticket ≠ ticket) :
      responsesTo { s with
        loop := .stopped
        queue := []
        responses := s.responses ++ s.queue.filterMap (Letter.loss? terms) } ticket =
          s.responsesTo ticket :=
    responsesTo_losses rfl h
  refine ⟨?_, nofun, ?_, ?_, ?_⟩
  · intro ticket ht
    rw [hold ticket fun letter h =>
      Nat.ne_of_lt (Nat.lt_of_lt_of_le (ticket_lt (hs.mem_of_queue h)) ht)]
    exact ha.unsent ticket ht
  · intro letter hletter
    rw [hold letter.ticket fun other h => Ne.symm (hs.ticket_ne h hletter)]
    exact ha.taken letter hletter
  · intro job hjob
    rw [hold job.ticket fun other h => Ne.symm (hs.ticket_ne h (hs.mem_of_job hjob))]
    exact ha.jobs job hjob
  · intro _ letter hletter hnot
    -- A letter that was not taken is in the channel, once.
    have hmem : letter ∈ s.taken ++ s.queue := by
      rw [hline]
      exact hletter
    have hqueue := (List.mem_append.1 hmem).resolve_left hnot
    have hnodup : s.queue.Nodup := by
      refine (nodup_letters s).sublist ?_
      rw [← hline]
      exact List.sublist_append_right _ _
    have honce := filter_ticket hnodup hqueue fun other ho =>
      eq_of_ticket_eq (hs.mem_of_queue ho) hletter
    rw [responsesTo_append rfl, filter_losses, honce, ha.queued letter hqueue]
    obtain ⟨ticket, message⟩ := letter
    cases message with
    | question content => exact .inr ⟨terms.thrownAway, rfl⟩
    | status => exact .inr ⟨terms.thrownAway, rfl⟩
    | shutdown => exact .inl ⟨rfl, rfl⟩

theorem Addressed.step (ha : Addressed s) (hs : Ordered s) (h : Stepped terms s event s') :
    Addressed s' := by
  cases h with
  | sent message hl => exact ha.sent message hl
  | refused message hl => exact ha.refused hs message hl
  | began hl hq => exact ha.began hl hq
  | reported hl hq => exact ha.reported hs hl hq _
  | ended hl hq => exact ha.ended hq
  | moved hj _ hm => exact ha.set_job hj rfl rfl
  | settled _ hj hw => exact ha.set_job hj rfl (by rw [hw]; rfl)
  | delivered hj hd => exact ha.delivered hs hj hd
  | closed hl => exact ha.closed hs hl

/-- Answers go to the questions that were taken, and to nobody else. -/
theorem Addressed.exists_question {ticket : Nat} {text : Text} (ha : Addressed s) (hs : Ordered s)
    (h : .answer text ∈ s.responsesTo ticket) :
    ∃ content, ⟨ticket, .question content⟩ ∈ s.taken := by
  by_cases ht : ticket < s.messages.length
  · have hletter : ⟨ticket, s.messages[ticket]⟩ ∈ s.letters :=
      mem_letters_iff.2 (List.getElem?_eq_getElem ht)
    generalize s.messages[ticket] = message at hletter
    by_cases htaken : ⟨ticket, message⟩ ∈ s.taken
    · have hat := ha.taken _ htaken
      cases message with
      | question content => exact ⟨content, htaken⟩
      | status =>
          obtain ⟨report, hreport⟩ := hat
          rw [hreport] at h
          cases List.mem_singleton.1 h
      | shutdown =>
          have hnone : s.responsesTo ticket = [] := hat
          rw [hnone] at h
          cases h
    · by_cases hl : s.loop = .stopped
      · rcases ha.lost hl _ hletter htaken with ⟨_, hnone⟩ | ⟨detail, hfault⟩
        · rw [hnone] at h
          cases h
        · rw [hfault] at h
          cases List.mem_singleton.1 h
      · -- What is not taken yet still waits.
        rw [← hs.line hl] at hletter
        have hqueue := (List.mem_append.1 hletter).resolve_left htaken
        rw [ha.queued _ hqueue] at h
        cases h
  · rw [ha.unsent ticket (Nat.le_of_not_lt ht)] at h
    cases h

/-- Order and addresses hold together after every run from the start. -/
theorem ordered_addressed_of_run (h : initial.run terms history = some s) :
    Ordered s ∧ Addressed s := by
  refine run_induction (P := fun s => Ordered s ∧ Addressed s) ?_
    ⟨ordered_initial, addressed_initial⟩ h
  intro s s' event hs hstep
  exact ⟨hs.1.step hstep, hs.2.step hs.1 hstep⟩

end Service
end ChatAssistant
