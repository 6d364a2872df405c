import ChatAssistant.Command
import ChatAssistant.Proofs.Text.Lowercase

/-!
# What a message calls for

Which messages are commands, said by their characters: what stands before and behind the slash and
the name, and which characters a name is made of.

* `Command.Calls`, `Command.calls_iff` — the messages that call for a command of some name;
* `Command.Slashed` — the messages that call for anything at all;
* `Command.Meant`, `Command.meant_ofText` — what each message is taken for;
* `Command.Spelled`, `Command.spelled_iff_not_gapped` — what it is taken for if the name has to
  stand right behind the slash, and when that is another command.

Blanks may stand between the slash and the name.
-/

namespace ChatAssistant
namespace Command

open Text (isBlank isBlankText)

variable {name message rest : Text}

/-! ## Names -/

/-- A character that can be part of a name. -/
def inName (c : Char) : Bool := c ≠ '@' && !isBlank c

/-- The first name in a text, in the case in which it is written. -/
def written (rest : Text) : Text := (rest.dropWhile isBlank).takeWhile inName

theorem nameOf_eq (rest : Text) : nameOf rest = Text.lowercase (written rest) := by
  unfold nameOf written
  rw [Text.headD_words, List.takeWhile_takeWhile]
  refine congrArg (fun p => Text.lowercase ((rest.dropWhile isBlank).takeWhile p)) ?_
  funext c
  simp [inName]

/-- Blanks at the end of a text are no part of a name. -/
theorem written_append (s : Text) {tail : Text} (ht : ∀ c ∈ tail, isBlank c = true) :
    written (s ++ tail) = written s := by
  -- the name ends at the first of the blanks, if not before
  have htake (word : Text) : (word ++ tail).takeWhile inName = word.takeWhile inName := by
    cases tail with
    | nil => rw [List.append_nil]
    | cons c rest =>
        have hc : ¬ inName c = true := by simp [inName, ht c List.mem_cons_self]
        exact Text.takeWhile_append_cons hc word rest
  have hdrop : tail.dropWhile isBlank = [] := List.dropWhile_eq_nil_iff.2 ht
  unfold written
  rw [List.dropWhile_append]
  split
  · rename_i hempty
    rw [List.isEmpty_iff.1 hempty, hdrop]
  · exact htake (s.dropWhile isBlank)

/-- What a message is taken for, by what stands behind its blanks. -/
theorem ofText_eq (message : Text) :
    ofText message =
      match message.dropWhile isBlank with
      | '/' :: rest => ofName (Text.lowercase (written rest))
      | _ => question message := by
  unfold ofText
  cases h : message.dropWhile isBlank with
  | nil =>
      rw [Text.trim_of_nil h]
  | cons c rest =>
      have hc : isBlank c = false := Text.isBlank_of_dropWhile h
      rw [Text.trim_of_cons hc h]
      by_cases hslash : c = '/'
      · subst hslash
        obtain ⟨tail, hrest, htail⟩ := Text.exists_dropEndWhile_append isBlank rest
        have hwritten := written_append (Text.dropEndWhile isBlank rest) htail
        rw [← hrest] at hwritten
        simp only [nameOf_eq, hwritten]
      · simp [hslash]

/-! ## Calls -/

/-- The message calls for the command of this name: a slash, behind nothing but blanks, and the
name, which ends with the text or at a blank or `@`.  It may be written in either case. -/
inductive Calls (name : Text) : Text → Prop where
  | intro {before gap word behind : Text} (hbefore : isBlankText before = true)
      (hgap : isBlankText gap = true) (hword : ∀ c ∈ word, inName c = true)
      (hname : Text.lowercase word = name)
      (hbehind : ∀ c ∈ behind.head?, isBlank c = true ∨ c = '@') :
      Calls name (before ++ '/' :: (gap ++ word ++ behind))

/-- The message has a slash behind nothing but blanks. -/
def Slashed (message : Text) : Prop := (Text.trim message).head? = some '/'

instance (message : Text) : Decidable (Slashed message) :=
  inferInstanceAs (Decidable (_ = _))

theorem isBlank_slash : isBlank '/' = false := by decide

theorem slashed_iff : Slashed message ↔ ∃ rest, message.dropWhile isBlank = '/' :: rest := by
  unfold Slashed
  cases h : message.dropWhile isBlank with
  | nil =>
      simp [Text.trim_of_nil h]
  | cons c rest =>
      rw [Text.trim_of_cons (Text.isBlank_of_dropWhile h) h]
      simp

theorem Calls.slashed (h : Calls name message) : Slashed message := by
  rw [slashed_iff]
  cases h with
  | @intro _ gap word behind hbefore =>
      refine ⟨gap ++ word ++ behind, ?_⟩
      exact (Text.dropWhile_isBlank_eq_cons_iff isBlank_slash).2 ⟨_, hbefore, rfl⟩

/-- Between blanks and a character that is no part of it, a name is found as it is written. -/
theorem written_between {gap word behind : Text} (hgap : isBlankText gap = true)
    (hword : ∀ c ∈ word, inName c = true) (hne : word ≠ [])
    (hbehind : ∀ c ∈ behind.head?, isBlank c = true ∨ c = '@') :
    written (gap ++ word ++ behind) = word := by
  have hrest : behind.takeWhile inName = [] := by
    cases behind with
    | nil => rfl
    | cons c rest =>
        have hc : ¬ inName c = true := by
          rcases hbehind c rfl with hblank | rfl
          · simp [inName, hblank]
          · decide
        exact List.takeWhile_cons_of_neg hc
  have hstart : (word ++ behind).dropWhile isBlank = word ++ behind := by
    cases word with
    | nil => exact absurd rfl hne
    | cons c rest =>
        have hc := hword c List.mem_cons_self
        have hneg : ¬ isBlank c = true := by
          intro hblank
          simp [inName, hblank] at hc
        exact List.dropWhile_cons_of_neg hneg
  calc
    written (gap ++ word ++ behind)
        = ((word ++ behind).dropWhile isBlank).takeWhile inName := by
          unfold written
          rw [List.append_assoc, List.dropWhile_append_of_pos (List.all_eq_true.1 hgap)]
    _ = word ++ behind.takeWhile inName := by
          rw [hstart, List.takeWhile_append_of_pos hword]
    _ = word := by rw [hrest, List.append_nil]

/-- A message calls for the command of a name exactly if this is the first name behind its slash. -/
theorem calls_iff (hname : name ≠ []) :
    Calls name message ↔
      ∃ rest, message.dropWhile isBlank = '/' :: rest ∧ Text.lowercase (written rest) = name := by
  constructor
  · intro h
    cases h with
    | @intro before gap word behind hbefore hgap hword hlower hbehind =>
        have hne : word ≠ [] := by
          rintro rfl
          exact hname hlower.symm
        refine ⟨gap ++ word ++ behind, ?_, ?_⟩
        · exact (Text.dropWhile_isBlank_eq_cons_iff isBlank_slash).2 ⟨before, hbefore, rfl⟩
        · rw [written_between hgap hword hne hbehind]
          exact hlower
  · rintro ⟨rest, hrest, hlower⟩
    obtain ⟨before, hbefore, rfl⟩ := (Text.dropWhile_isBlank_eq_cons_iff isBlank_slash).1 hrest
    -- the text behind the slash: its blanks, the name, and what the name ends at
    have hsplit : rest = rest.takeWhile isBlank ++ written rest ++
        (rest.dropWhile isBlank).dropWhile inName := by
      rw [written, List.append_assoc, List.takeWhile_append_dropWhile,
        List.takeWhile_append_dropWhile]
    rw [hsplit]
    refine .intro hbefore ?_ ?_ hlower ?_
    · exact List.all_eq_true.2 fun c hc => List.mem_takeWhile_imp hc
    · exact fun c hc => List.mem_takeWhile_imp hc
    · intro c hc
      have hhead := List.head?_dropWhile_not inName (rest.dropWhile isBlank)
      rw [hc] at hhead
      by_cases hblank : isBlank c = true
      · exact .inl hblank
      · exact .inr (by simpa [inName, hblank] using hhead)

/-- No message calls for two commands. -/
theorem Calls.name_eq {other : Text} (h : Calls name message) (ho : Calls other message)
    (hname : name ≠ []) (hother : other ≠ []) : name = other := by
  obtain ⟨rest, hrest, rfl⟩ := (calls_iff hname).1 h
  obtain ⟨rest', hrest', rfl⟩ := (calls_iff hother).1 ho
  rw [hrest] at hrest'
  cases hrest'
  rfl

/-! ## What a message is taken for -/

/-- What a message is taken for. -/
inductive Meant (message : Text) : Command → Prop where
  | start (h : Calls "start".toList message) : Meant message .start
  | status (h : Calls "status".toList message) : Meant message .status
  | unknown (hs : Slashed message) (hstart : ¬ Calls "start".toList message)
      (hstatus : ¬ Calls "status".toList message) (name : Text) : Meant message (.unknown name)
  /-- A message that is no command is a question as it is. -/
  | question (hs : ¬ Slashed message) : Meant message (.question message)

theorem meant_ofText (message : Text) : Meant message (ofText message) := by
  rw [ofText_eq]
  split
  · rename_i rest h
    have hcalls {name : Text} (hname : name ≠ []) :
        Calls name message ↔ Text.lowercase (written rest) = name := by
      rw [calls_iff hname, h]
      simp
    unfold ofName
    split
    · rename_i hstart
      exact .start ((hcalls (by decide)).2 hstart)
    · split
      · rename_i hstatus
        exact .status ((hcalls (by decide)).2 hstatus)
      · rename_i hstart hstatus
        exact .unknown (slashed_iff.2 ⟨rest, h⟩) (fun hc => hstart ((hcalls (by decide)).1 hc))
          (fun hc => hstatus ((hcalls (by decide)).1 hc)) _
  · rename_i hnone
    exact .question fun hs => (slashed_iff.1 hs).elim hnone

/-! ## Names right behind the slash -/

/-- The name right behind a slash, in lower case: what stands up to the first blank, and of that
what stands up to the first `@`. -/
def nameBehind (rest : Text) : Text :=
  Text.lowercase ((rest.takeWhile (!isBlank ·)).takeWhile (· ≠ '@'))

/-- What a message is for if the name of a command has to stand right behind the slash. -/
inductive Spelled (message : Text) : Command → Prop where
  | start {rest : Text} (h : Text.trim message = '/' :: rest)
      (hname : nameBehind rest = "start".toList) : Spelled message .start
  | status {rest : Text} (h : Text.trim message = '/' :: rest)
      (hname : nameBehind rest = "status".toList) : Spelled message .status
  | unknown {rest : Text} (h : Text.trim message = '/' :: rest)
      (hstart : nameBehind rest ≠ "start".toList) (hstatus : nameBehind rest ≠ "status".toList) :
      Spelled message (.unknown (nameBehind rest))
  /-- What does not begin with a slash is a question as it is. -/
  | question (h : ¬ Slashed message) : Spelled message (.question message)

/-- Blanks stand between the slash and a name. -/
def Gapped (message : Text) : Prop :=
  ∃ rest, Text.trim message = '/' :: rest ∧ (∃ c ∈ rest.head?, isBlank c = true) ∧
    written rest ≠ []

theorem nameBehind_eq (rest : Text) : nameBehind rest = Text.lowercase (rest.takeWhile inName) := by
  unfold nameBehind
  rw [List.takeWhile_takeWhile]
  refine congrArg (fun p => Text.lowercase (rest.takeWhile p)) ?_
  funext c
  simp [inName]

/-- There is no name right behind the slash if a blank stands there. -/
theorem nameBehind_of_isBlank (h : ∃ c ∈ rest.head?, isBlank c = true) : nameBehind rest = [] := by
  obtain ⟨c, hc, hblank⟩ := h
  obtain ⟨tail, rfl⟩ := List.head?_eq_some_iff.1 hc
  have hneg : ¬ inName c = true := by simp [inName, hblank]
  rw [nameBehind_eq, List.takeWhile_cons_of_neg hneg, Text.lowercase_nil]

/-- The first name is the one right behind the slash, unless there are blanks in between. -/
theorem nameBehind_eq_iff :
    nameBehind rest = Text.lowercase (written rest) ↔
      ¬ ((∃ c ∈ rest.head?, isBlank c = true) ∧ written rest ≠ []) := by
  by_cases hgap : ∃ c ∈ rest.head?, isBlank c = true
  · rw [nameBehind_of_isBlank hgap, eq_comm, Text.lowercase_eq_nil_iff, and_iff_right hgap,
      not_not]
  · have hstart : rest.dropWhile isBlank = rest := by
      cases rest with
      | nil => rfl
      | cons c tail =>
          have hneg : ¬ isBlank c = true := fun hblank => hgap ⟨c, rfl, hblank⟩
          exact List.dropWhile_cons_of_neg hneg
    have hsame : nameBehind rest = Text.lowercase (written rest) := by
      rw [nameBehind_eq, written, hstart]
    exact iff_of_true hsame fun h => hgap h.1

/-- Behind a slash there is one command that a message is for. -/
theorem spelled_slashed_iff {command : Command} (h : Text.trim message = '/' :: rest) :
    Spelled message command ↔ command = ofName (nameBehind rest) := by
  have hrest {other : Text} (hother : Text.trim message = '/' :: other) : other = rest :=
    (List.cons.inj (hother.symm.trans h)).2
  constructor
  · intro hspelled
    unfold ofName
    cases hspelled with
    | start hother hname =>
        rw [hrest hother] at hname
        rw [if_pos hname]
    | status hother hname =>
        rw [hrest hother] at hname
        rw [hname]
        rfl
    | unknown hother hstart hstatus =>
        rw [hrest hother] at hstart hstatus ⊢
        rw [if_neg hstart, if_neg hstatus]
    | question hplain =>
        exact absurd (show Slashed message by rw [Slashed, h]; rfl) hplain
  · rintro rfl
    unfold ofName
    split
    · rename_i hstart
      exact .start h hstart
    · split
      · rename_i hstatus
        exact .status h hstatus
      · rename_i hstart hstatus
        exact .unknown h hstart hstatus

/-- The name of a command. -/
def toName : Command → Text
  | .start => "start".toList
  | .status => "status".toList
  | .unknown name => name
  | .question _ => []

theorem toName_ofName (name : Text) : (ofName name).toName = name := by
  unfold ofName
  split
  · rename_i hstart
    exact hstart.symm
  · split
    · rename_i hstatus
      exact hstatus.symm
    · rfl

/-- Different names are those of different commands. -/
theorem ofName_injective : Function.Injective ofName :=
  Function.LeftInverse.injective toName_ofName

/-- A message is taken for what it is for if the name has to stand right behind the slash, unless
blanks stand there and a name behind them.  Then it is taken for the command of that name. -/
theorem spelled_iff_not_gapped (message : Text) :
    (Spelled message (ofText message) ↔ ¬ Gapped message) ∧
      ∀ rest, Text.trim message = '/' :: rest →
        ofText message = ofName (nameBehind (rest.dropWhile isBlank)) := by
  have hfirst {rest : Text} (h : Text.trim message = '/' :: rest) :
      ofText message = ofName (Text.lowercase (written rest)) := by
    unfold ofText
    rw [h]
    exact congrArg ofName (nameOf_eq rest)
  constructor
  · by_cases hs : Slashed message
    · obtain ⟨rest, h⟩ := List.head?_eq_some_iff.1 hs
      have hgapped : Gapped message ↔
          (∃ c ∈ rest.head?, isBlank c = true) ∧ written rest ≠ [] := by
        unfold Gapped
        rw [h]
        simp
      rw [spelled_slashed_iff h, hfirst h, ofName_injective.eq_iff, eq_comm, hgapped,
        nameBehind_eq_iff]
    · have hquestion : ofText message = .question message := by
        unfold ofText
        split
        · rename_i rest h
          exact absurd (show Slashed message by rw [Slashed, h]; rfl) hs
        · rfl
      rw [hquestion]
      refine iff_of_true (.question hs) ?_
      rintro ⟨rest, h, -⟩
      exact hs (by rw [Slashed, h]; rfl)
  · intro rest h
    rw [hfirst h, nameBehind_eq]
    rfl

/-- A slash, a blank and the word `start` are taken for the command of that word, although there is
no name right behind the slash; the same goes for any other word. -/
theorem slash_blank_start :
    ofText "/ start".toList = .start ∧ ¬ Spelled "/ start".toList .start ∧
      ofText "/ help me".toList = .unknown "help".toList ∧
      Spelled "/ help me".toList (.unknown []) := by
  have hstart : Text.trim "/ start".toList = '/' :: " start".toList := by decide
  have hhelp : Text.trim "/ help me".toList = '/' :: " help me".toList := by decide
  refine ⟨by decide +kernel, ?_, by decide +kernel, ?_⟩
  · rw [spelled_slashed_iff hstart]
    decide +kernel
  · rw [spelled_slashed_iff hhelp]
    decide +kernel

end Command
end ChatAssistant
