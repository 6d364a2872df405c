import ChatAssistant.Proofs.Supervisor.Memory
import ChatAssistant.Proofs.Text.Utf8
import Mathlib.Data.List.Basic

/-!
# Conversations on the console, line by line

A conversation is fed with bytes, in which lines end in a line feed or in a carriage return and a
line feed.  Here the input is split without regard to what the bytes say (`payloads`), and the
conversation is compared with the replies to the messages that the parts encode, one after the
other: up to the first part that is no text, these are all that happens.

Behind a line feed a conversation can be interrupted and taken up again with the supervisor as it
was left; neither the output nor the supervisor can tell.

* `lineInduction` — inputs are built line by line;
* `forall₂_message_payloads` — the message of each line is the text that its part encodes;
* `Run.followedBy` — one conversation after the other;
* `turns` — the replies to a list of messages;
* `run_follows_lines` — both halves of the above.
-/

namespace ChatAssistant
namespace Console

variable {body rest input : List UInt8} {m : Text}

/-! ## Parts of an input -/

/-- Without the carriage return at the end, if there is one; of several, one is left out. -/
def dropReturn (body : List UInt8) : List UInt8 :=
  if body.getLast? = some carriageReturn then body.dropLast else body

/-- The parts of an input: what stands in front of each line feed, less one carriage return, and
what stands behind the last one as it is, if anything does. -/
def payloads (input : List UInt8) : List (List UInt8) :=
  let parts := input.splitOn newline
  parts.dropLast.map dropReturn ++ (parts.getLast?.filter (!·.isEmpty)).toList

/-- An input is built line by line, behind a last line that may be without its end. -/
theorem lineInduction {motive : List UInt8 → Prop} (empty : motive [])
    (last : ∀ body, newline ∉ body → body ≠ [] → motive body)
    (line : ∀ body rest, newline ∉ body → motive rest → motive (body ++ newline :: rest))
    (input : List UInt8) : motive input := by
  induction hn : input.length using Nat.strongRecOn generalizing input with
  | ind n ih =>
      by_cases hmem : newline ∈ input
      · obtain ⟨body, rest, rfl, hbody⟩ := List.eq_append_cons_of_mem hmem
        apply line body rest hbody
        refine ih rest.length ?_ rest rfl
        rw [← hn, List.length_append, List.length_cons]
        omega
      · by_cases hinput : input = []
        · rw [hinput]
          exact empty
        · exact last input hmem hinput

theorem payloads_nil : payloads [] = [] := by
  unfold payloads
  rw [List.splitOn_nil]
  rfl

theorem payloads_of_not_mem (h : newline ∉ body) (hne : body ≠ []) : payloads body = [body] := by
  unfold payloads
  rw [List.splitOn_eq_singleton h]
  simp [hne]

theorem payloads_append_cons (h : newline ∉ body) (rest : List UInt8) :
    payloads (body ++ newline :: rest) = dropReturn body :: payloads rest := by
  unfold payloads
  rw [List.splitOn_append_cons_self_of_not_mem h]
  have hparts : rest.splitOn newline ≠ [] := by simp
  generalize rest.splitOn newline = parts at *
  cases parts with
  | nil => exact absurd rfl hparts
  | cons part parts => simp

theorem lines_of_not_mem (h : newline ∉ body) (hne : body ≠ []) : lines body = [body] := by
  induction body with
  | nil => exact absurd rfl hne
  | cons b body ih =>
      have hb : ¬ b = newline := fun hb => h (by simp [hb])
      rw [lines, if_neg hb]
      cases body with
      | nil => rfl
      | cons b' body => rw [ih (fun hmem => h (List.mem_cons_of_mem _ hmem)) (by simp)]

theorem lines_append_cons (h : newline ∉ body) (rest : List UInt8) :
    lines (body ++ newline :: rest) = (body ++ [newline]) :: lines rest := by
  induction body with
  | nil => rfl
  | cons b body ih =>
      have hb : ¬ b = newline := fun hb => h (by simp [hb])
      rw [List.cons_append, lines, if_neg hb, ih fun hmem => h (List.mem_cons_of_mem _ hmem)]
      rfl

/-! ## Messages -/

theorem message_eq_ok_iff {line : List UInt8} :
    message line = .ok m ↔ ∃ s, Utf8.encode s = line ∧ dropLineEnd s = m := by
  unfold message
  cases hdecode : Utf8.decode line with
  | error e =>
      constructor
      · intro h
        cases h
      · rintro ⟨s, hs, _⟩
        rw [Utf8.decode_eq_ok_iff.2 hs] at hdecode
        cases hdecode
  | ok s =>
      have hs := Utf8.decode_eq_ok_iff.1 hdecode
      constructor
      · intro h
        cases h
        exact ⟨s, hs, rfl⟩
      · rintro ⟨t, ht, rfl⟩
        cases Utf8.encode_injective (ht.trans hs.symm)
        rfl

theorem encode_newline : Utf8.encode ['\n'] = [newline] := by
  decide

theorem encode_return : Utf8.encode ['\r'] = [carriageReturn] := by
  decide

theorem dropReturn_concat (body : List UInt8) : dropReturn (body ++ [carriageReturn]) = body := by
  unfold dropReturn
  rw [if_pos List.getLast?_concat, List.dropLast_concat]

theorem dropLineEnd_of_not_mem {s : Text} (h : '\n' ∉ s) : dropLineEnd s = s := by
  have hlast {r : Text} (hr : s.reverse = '\n' :: r) : False := by
    apply h
    rw [← List.mem_reverse, hr]
    exact List.mem_cons_self
  unfold dropLineEnd
  split
  · rename_i hr
    exact (hlast hr).elim
  · rename_i hr
    exact (hlast hr).elim
  · rfl

/-- The same carriage return goes from the text in front of a line end and from its bytes. -/
theorem encode_dropLineEnd (s : Text) :
    Utf8.encode (dropLineEnd (s ++ ['\n'])) = dropReturn (Utf8.encode s) := by
  rcases List.eq_nil_or_concat s with rfl | ⟨front, c, rfl⟩
  · decide
  · rw [List.concat_eq_append]
    by_cases hc : c = '\r'
    · subst hc
      have hdrop : dropLineEnd (front ++ ['\r'] ++ ['\n']) = front := by simp [dropLineEnd]
      rw [hdrop, Utf8.encode_append, encode_return, dropReturn_concat]
    · have hdrop : dropLineEnd (front ++ [c] ++ ['\n']) = front ++ [c] := by
        simp [dropLineEnd, hc]
      have hlast : (Utf8.encode (front ++ [c])).getLast? ≠ some carriageReturn := by
        intro hlast
        obtain ⟨bytes, hbytes⟩ := List.getLast?_eq_some_iff.1 hlast
        obtain ⟨t, ht, _⟩ := Utf8.exists_of_encode_concat encode_return (by decide) hbytes
        exact hc (List.append_inj_right' ht rfl |> List.singleton_inj.1)
      rw [hdrop, dropReturn, if_neg hlast]

/-- The message of a line with an end is the text of its part. -/
theorem message_line_iff :
    message (body ++ [newline]) = .ok m ↔ Utf8.encode m = dropReturn body := by
  rw [message_eq_ok_iff]
  constructor
  · rintro ⟨s, hs, rfl⟩
    obtain ⟨s', rfl, rfl⟩ := Utf8.exists_of_encode_concat encode_newline (by decide) hs
    exact encode_dropLineEnd s'
  · intro h
    -- with its carriage return the part is a text if it is one without
    have htext : ∃ s, Utf8.encode s = body := by
      unfold dropReturn at h
      split at h
      · rename_i hlast
        obtain ⟨front, rfl⟩ := List.getLast?_eq_some_iff.1 hlast
        rw [List.dropLast_concat] at h
        exact ⟨m ++ ['\r'], by rw [Utf8.encode_append, encode_return, h]⟩
      · exact ⟨m, h⟩
    obtain ⟨s, rfl⟩ := htext
    refine ⟨s ++ ['\n'], by rw [Utf8.encode_append, encode_newline], ?_⟩
    exact Utf8.encode_injective ((encode_dropLineEnd s).trans h.symm)

/-- A line without an end is its message. -/
theorem message_last_iff (h : newline ∉ body) : message body = .ok m ↔ Utf8.encode m = body := by
  have hdrop {s : Text} (hs : Utf8.encode s = body) : dropLineEnd s = s := by
    apply dropLineEnd_of_not_mem
    intro hmem
    obtain ⟨front, behind, rfl⟩ := List.append_of_mem hmem
    apply h
    rw [← hs, Utf8.encode_append, Utf8.encode_cons, ← Utf8.encode_singleton, encode_newline]
    simp
  rw [message_eq_ok_iff]
  constructor
  · rintro ⟨s, hs, rfl⟩
    rw [hdrop hs]
    exact hs
  · intro hm
    exact ⟨m, hm, hdrop hm⟩

/-- Line by line, a conversation is told what the parts of its input encode. -/
theorem forall₂_message_payloads (input : List UInt8) :
    List.Forall₂ (fun line part => ∀ m, message line = .ok m ↔ Utf8.encode m = part)
      (lines input) (payloads input) := by
  induction input using lineInduction with
  | empty =>
      rw [payloads_nil]
      exact .nil
  | last body h hne =>
      rw [lines_of_not_mem h hne, payloads_of_not_mem h hne]
      exact .cons (fun m => message_last_iff h) .nil
  | line body rest h ih =>
      rw [lines_append_cons h, payloads_append_cons h]
      exact .cons (fun m => message_line_iff) ih

/-! ## Replies in order -/

variable {setup : Setup} {world : Nat → Assistant.World} {n : Nat} {s : Supervisor}

/-- The run behind one more reply. -/
def Run.behind (turn : Supervisor.Turn (Option Text)) (run : Run) : Run :=
  ⟨written turn.result ++ run.output, run.fault, run.supervisor, turn.queries ++ run.queries⟩

theorem written_eq (reply : Option Text) : written reply = reply.elim [] (· ++ ['\n', '\n']) := rfl

theorem converse_cons {line : List UInt8} (h : message line = .ok m) (rest : List (List UInt8)) :
    converse setup world n s (line :: rest) =
      (converse setup world (n + 1)
        (Conversation.respond setup (world n) s userName m).supervisor rest).behind
          (Conversation.respond setup (world n) s userName m) := by
  rw [converse, h]
  rfl

/-- The replies to messages one after the other. Message `n + i` meets the world `world (n + i)`. -/
def turns (setup : Setup) (world : Nat → Assistant.World) (n : Nat) (s : Supervisor) :
    List Text → List (Supervisor.Turn (Option Text))
  | [] => []
  | m :: ms =>
    let turn := Conversation.respond setup (world n) s userName m
    turn :: turns setup world (n + 1) turn.supervisor ms

/-- The supervisor behind the last of the replies. -/
def leftBy (s : Supervisor) (replies : List (Supervisor.Turn (Option Text))) : Supervisor :=
  (replies.getLast?.map (·.supervisor)).getD s

/-- What ends a conversation: there are no more parts, or the next one is no text. -/
inductive Ending : List (List UInt8) → Option Fault → Prop where
  | exhausted : Ending [] none
  | garbled {part : List UInt8} {parts : List (List UInt8)} (e : Utf8.Error)
      (h : ∀ m, Utf8.encode m ≠ part) : Ending (part :: parts) (some (.io e.message))

/-- The conversation follows the parts of its input: it replies to those that are texts, up to the
first that is none, and does nothing else. -/
structure Follows (setup : Setup) (world : Nat → Assistant.World) (n : Nat) (s : Supervisor)
    (parts : List (List UInt8)) (run : Run) (ms : List Text) (unread : List (List UInt8)) :
    Prop where
  parts : parts = ms.map Utf8.encode ++ unread
  ending : Ending unread run.fault
  /-- Each reply with two line feeds behind it, and nothing where there is none. -/
  output : run.output =
    (turns setup world n s ms).flatMap fun turn => turn.result.elim [] (· ++ ['\n', '\n'])
  supervisor : run.supervisor = leftBy s (turns setup world n s ms)
  queries : run.queries = (turns setup world n s ms).flatMap (·.queries)

theorem leftBy_cons (s : Supervisor) (turn : Supervisor.Turn (Option Text))
    (replies : List (Supervisor.Turn (Option Text))) :
    leftBy s (turn :: replies) = leftBy turn.supervisor replies := by
  cases replies with
  | nil => rfl
  | cons next replies =>
      unfold leftBy
      rw [List.getLast?_cons_cons, List.getLast?_cons]
      rfl

theorem exists_follows_converse {lines parts : List (List UInt8)}
    (h : List.Forall₂ (fun line part => ∀ m, message line = .ok m ↔ Utf8.encode m = part)
      lines parts) (setup : Setup) (world : Nat → Assistant.World) (n : Nat) (s : Supervisor) :
    ∃ ms unread, Follows setup world n s parts (converse setup world n s lines) ms unread := by
  -- a line moves the count on, and the supervisor with it
  induction h generalizing n s with
  | nil => exact ⟨[], [], rfl, .exhausted, rfl, rfl, rfl⟩
  | @cons line part lines parts hline _ ih =>
      cases hm : message line with
      | error e =>
          -- nothing of what comes behind is read
          rw [converse, hm]
          refine ⟨[], part :: parts, rfl, .garbled e ?_, rfl, rfl, rfl⟩
          intro m hpart
          rw [(hline m).2 hpart] at hm
          cases hm
      | ok m =>
          have hpart := (hline m).1 hm
          rw [converse_cons hm]
          obtain ⟨ms, unread, hfollows⟩ :=
            ih (n + 1) (Conversation.respond setup (world n) s userName m).supervisor
          refine ⟨m :: ms, unread, ?_, hfollows.ending, ?_, ?_, ?_⟩
          · rw [List.map_cons, List.cons_append, hpart, ← hfollows.parts]
          · rw [turns, List.flatMap_cons, ← written_eq, ← hfollows.output]
            rfl
          · rw [turns, leftBy_cons]
            exact hfollows.supervisor
          · exact congrArg _ hfollows.queries

/-! ## One conversation after another -/

/-- The run, and behind it the next one from where it leaves the supervisor; a fault ends both. -/
def Run.followedBy (first : Run) (next : Supervisor → Run) : Run :=
  match first.fault with
  | some _ => first
  | none =>
    let second := next first.supervisor
    ⟨first.output ++ second.output, second.fault, second.supervisor,
      first.queries ++ second.queries⟩

theorem Run.behind_followedBy (turn : Supervisor.Turn (Option Text)) (run : Run)
    (next : Supervisor → Run) :
    (run.behind turn).followedBy next = (run.followedBy next).behind turn := by
  obtain ⟨output, fault, supervisor, queries⟩ := run
  cases fault with
  | some f => rfl
  | none => simp [followedBy, behind]

/-- No line goes on behind the end of the input. -/
def Terminated (input : List UInt8) : Prop := input = [] ∨ input.getLast? = some newline

/-- Lines that have their ends do not change when more is said. -/
theorem lines_append (h : Terminated input) (more : List UInt8) :
    lines (input ++ more) = lines input ++ lines more ∧
      (lines input).length = input.count newline := by
  induction input using lineInduction with
  | empty => exact ⟨rfl, rfl⟩
  | last body hbody hne =>
      rcases h with h | h
      · exact absurd h hne
      · exact absurd (List.mem_of_getLast? h) hbody
  | line body rest hbody ih =>
      have hrest : Terminated rest := by
        cases rest with
        | nil => exact .inl rfl
        | cons b rest =>
            rcases h with h | h
            · simp at h
            · right
              rw [List.getLast?_append_of_ne_nil _ (by simp), List.getLast?_cons_cons] at h
              exact h
      obtain ⟨happend, hlength⟩ := ih hrest
      rw [List.append_assoc, List.cons_append, lines_append_cons hbody, lines_append_cons hbody,
        happend, List.count_append, List.count_cons_self, List.length_cons, hlength,
        List.count_eq_zero_of_not_mem hbody, Nat.zero_add]
      exact ⟨rfl, rfl⟩

theorem converse_append (setup : Setup) (world : Nat → Assistant.World) (n : Nat) (s : Supervisor)
    (front back : List (List UInt8)) :
    converse setup world n s (front ++ back) =
      (converse setup world n s front).followedBy fun s' =>
        converse setup world (n + front.length) s' back := by
  induction front generalizing n s with
  | nil => rfl
  | cons line front ih =>
      cases hm : message line with
      | error e =>
          rw [List.cons_append, converse, converse, hm]
          rfl
      | ok m =>
          rw [List.cons_append, converse_cons hm, converse_cons hm, ih, Run.behind_followedBy,
            List.length_cons, Nat.add_comm front.length 1, Nat.add_assoc]

/-- A conversation does not know how many lines there were before it. -/
theorem converse_later (setup : Setup) (world : Nat → Assistant.World) (k n : Nat) (s : Supervisor)
    (lines : List (List UInt8)) :
    converse setup world (k + n) s lines =
      converse setup (fun i => world (k + i)) n s lines := by
  induction lines generalizing n s with
  | nil => rfl
  | cons line rest ih =>
      cases hm : message line with
      | error e =>
          rw [converse, converse, hm]
      | ok m => rw [converse_cons hm, converse_cons hm, Nat.add_assoc, ih]

theorem run_append {first : List UInt8} (h : Terminated first) (setup : Setup)
    (world : Nat → Assistant.World) (s : Supervisor) (second : List UInt8) :
    run setup world s (first ++ second) =
      (run setup world s first).followedBy fun s' =>
        run setup (fun i => world (first.count newline + i)) s' second := by
  obtain ⟨happend, hlength⟩ := lines_append h second
  unfold run
  rw [happend, converse_append, hlength]
  congr 1
  funext s'
  rw [Nat.zero_add]
  exact converse_later setup world _ 0 s' (lines second)

/-- Behind a line end a conversation can be taken up again where it was left, with its output
written on.  It follows its input: each part that is a text is replied to in its turn, with an empty
line behind the reply if there is one, and the first part that is none ends it, with a fault and
nothing else. -/
theorem run_follows_lines (setup : Setup) (world : Nat → Assistant.World) (s : Supervisor) :
    (∀ first second, Terminated first →
      run setup world s (first ++ second) =
        (run setup world s first).followedBy fun s' =>
          run setup (fun i => world (first.count newline + i)) s' second) ∧
    ∀ input, ∃ ms unread,
      Follows setup world 0 s (payloads input) (run setup world s input) ms unread := by
  constructor
  · intro first second h
    exact run_append h setup world s second
  · intro input
    exact exists_follows_converse (forall₂_message_payloads input) setup world 0 s

/-! ## A conversation in two parts -/

/-- A greeting with a carriage return, and an empty line. -/
def greeting : List UInt8 := [104, 105, 13, 10, 10]

/-- An unknown command, an answer, a byte that is no text, and a greeting without a line end. -/
def garbled : List UInt8 := [47, 120, 10, 111, 107, 10, 255, 10, 104, 105]

/-- Worlds where nothing is found, with another suggestion at hand behind the first line. -/
def emptyWorld (n : Nat) : Assistant.World :=
  Supervisor.steadyWorld .missing (if n = 0 then Fin.last 2 else (Fin.last 1).castSucc)

theorem run_follows_lines_garbled :
    Terminated greeting ∧
    run Supervisor.usualSetup emptyWorld .fresh (greeting ++ garbled) =
      (run Supervisor.usualSetup emptyWorld .fresh greeting).followedBy (fun s' =>
        run Supervisor.usualSetup (fun i => emptyWorld (greeting.count newline + i)) s' garbled) ∧
    (∃ ms unread, Follows Supervisor.usualSetup emptyWorld 0 .fresh
      (payloads (greeting ++ garbled))
      (run Supervisor.usualSetup emptyWorld .fresh (greeting ++ garbled)) ms unread) ∧
    payloads (greeting ++ garbled) = [[104, 105], [], [47, 120], [111, 107], [255], [104, 105]] ∧
    (run Supervisor.usualSetup emptyWorld .fresh (greeting ++ garbled)).output =
      ("💡 *'hi'*\n\nДля лучшего ответа:\n1. Математика → напишите выражение\n" ++
        "2. Wikipedia → 'что такое [термин]'\n3. Помощь → конкретный вопрос\n\n" ++
        "📝 *Запрос:* 'ok'\n\nУточните, что нужно:\n• **Математика**: решение, вычисление\n" ++
        "• **Информация**: определение, факты\n" ++
        "• **Объяснение**: как работает, что значит\n\n").toList ∧
    (run Supervisor.usualSetup emptyWorld .fresh (greeting ++ garbled)).fault =
      some (.io "invalid utf-8 sequence of 1 bytes from index 0".toList) ∧
    (run Supervisor.usualSetup emptyWorld .fresh (greeting ++ garbled)).supervisor.processed =
      2 := by
  have hgreeting : Terminated greeting := .inr (by decide)
  have hlaw := run_follows_lines Supervisor.usualSetup emptyWorld .fresh
  refine ⟨hgreeting, hlaw.1 greeting garbled hgreeting, hlaw.2 (greeting ++ garbled), ?_, ?_, ?_,
    ?_⟩
  · decide +kernel
  · simp only [String.toList_append]
    decide +kernel
  · decide +kernel
  · decide +kernel

end Console
end ChatAssistant
