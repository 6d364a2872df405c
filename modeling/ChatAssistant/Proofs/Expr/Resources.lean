import ChatAssistant.Proofs.Expr.Descent
import ChatAssistant.Proofs.Expr.Points

/-!
# What a descent takes

Every call of a routine comes to an end, and on the way there the machine stays within bounds that
do not hang on the tokens:

* `Stacked` — which routine can wait for which, so that at most five wait at one level
  (`Stacked.length_le`);
* `Running`, `Failing` — the invariant: the counter shows the levels that the stack keeps open, and
  a token has been taken for every node that has been built;
* `Sound.step`, `sound_run` — a step keeps it, and so does a run;
* `descends_within_bounds` — what follows for every call up to `maxDepth` levels deep.
-/

namespace ChatAssistant
namespace Expr
namespace Descent

/-! ## Stacks -/

/-- The routine that waits. -/
def Frame.routine : Frame → Routine
  | first row | next row _ _ => .row row
  | sign _ | unsigned => .signed
  | base | exponent _ => .power
  | bracket => .primary

/-- The routine that it waits for. -/
def Frame.callee : Frame → Routine
  | first row | next row _ _ => row.operand
  | sign _ | exponent _ => .signed
  | unsigned => .power
  | base => .primary
  | bracket => .row .sum

/-- The place of a routine among those of one level. -/
def Routine.rank : Routine → Nat
  | row .sum => 0
  | row .product => 1
  | signed => 2
  | power => 3
  | primary => 4

/-- A routine can run above the stack: each of the routines that wait has called the next one. -/
inductive Stacked : Routine → List Frame → Prop where
  | nil (routine : Routine) : Stacked routine []
  | cons {frame : Frame} {stack : List Frame} (h : Stacked frame.routine stack) :
      Stacked frame.callee (frame :: stack)

/-- The levels that a stack keeps open. -/
def openLevels : List Frame → Nat
  | [] => 0
  | frame :: stack => frame.level + openLevels stack

/-- A number of tokens that a waiting routine has taken: one for each node of what it holds, one for
the operator behind it, and one for a sign or a bracket in front. -/
def Frame.taken : Frame → Nat
  | next _ lhs _ => lhs.size + 1
  | exponent e => e.size + 1
  | sign _ | bracket => 1
  | first _ | unsigned | base => 0

/-- The tokens that all of a stack has taken. -/
def taken : List Frame → Nat
  | [] => 0
  | frame :: stack => frame.taken + taken stack

/-- The routines that run: those that wait, and the one on top that has not returned. -/
def State.frames (s : State) : Nat :=
  match s.control with
  | .call _ | .loop .. => s.stack.length + 1
  | .returned _ | .failed _ | .broken => s.stack.length

variable {tokens : List Token} {origin entry held level : Nat} {routine : Routine} {frame : Frame}
  {stack : List Frame} {control : Control} {s s' : State} {row : Row} {e lhs : Expr Decimal}
  {error : Error}

theorem openLevels_cons (frame : Frame) (stack : List Frame) :
    openLevels (frame :: stack) = frame.level + openLevels stack := rfl

theorem taken_cons (frame : Frame) (stack : List Frame) :
    taken (frame :: stack) = frame.taken + taken stack := rfl

theorem Routine.rank_le (routine : Routine) : routine.rank ≤ 4 := by
  cases routine with
  | row row => cases row <;> decide
  | _ => decide

/-- Within a level a routine calls the next one of its level only. -/
theorem Frame.rank_routine_lt (frame : Frame) :
    frame.routine.rank + 1 ≤ 5 * frame.level + frame.callee.rank := by
  -- only a sign, an exponent and a bracket go back in the order, and each of them opens a level
  cases frame with
  | first row => cases row <;> decide
  | next row lhs op => cases row <;> exact Nat.le_refl _
  | sign sign => exact (by decide : 2 + 1 ≤ 5 * 1 + 2)
  | exponent e => exact (by decide : 3 + 1 ≤ 5 * 1 + 2)
  | _ => decide

/-- By the stack: a level holds no more than the five routines in their order. -/
theorem Stacked.length_le (h : Stacked routine stack) :
    stack.length ≤ 5 * openLevels stack + routine.rank := by
  induction h with
  | nil => exact Nat.zero_le _
  | @cons frame stack h ih =>
      have hrank := frame.rank_routine_lt
      rw [List.length_cons, openLevels_cons]
      omega

/-! ## The invariant -/

/-- A routine runs, with `held` tokens of its own taken and `level` levels of its own open. -/
structure Running (tokens : List Token) (origin entry : Nat) (routine : Routine) (held level : Nat)
    (s : State) : Prop where
  stacked : Stacked routine s.stack
  cursor_le : s.cursor ≤ max origin tokens.length
  held_le : origin + held + taken s.stack ≤ s.cursor
  level_le : entry + openLevels s.stack + level ≤ maxDepth
  depth_eq : s.depth = entry + openLevels s.stack + level

/-- A routine has failed, with `level` levels of its own open at least. -/
structure Failing (tokens : List Token) (origin entry level : Nat) (s : State) : Prop where
  stacked : ∃ routine, Stacked routine s.stack
  cursor_le : s.cursor ≤ max origin tokens.length
  level_le : entry + openLevels s.stack ≤ maxDepth
  le_depth : entry + openLevels s.stack + level ≤ s.depth

/-- The invariant of a descent from `origin` with `entry` levels open. -/
def Sound (tokens : List Token) (origin entry : Nat) (s : State) : Prop :=
  match s.control with
  | .call routine => Running tokens origin entry routine 0 0 s
  | .loop row lhs => Running tokens origin entry (.row row) lhs.size 0 s
  | .returned e => ∃ routine, Running tokens origin entry routine e.size 0 s
  | .failed _ => Failing tokens origin entry 0 s
  | .broken => False

namespace Running

theorem goTo (h : Running tokens origin entry routine held level s) (control : Control) :
    Running tokens origin entry routine held level (s.goTo control) :=
  ⟨h.stacked, h.cursor_le, h.held_le, h.level_le, h.depth_eq⟩

theorem advance (h : Running tokens origin entry routine held level s) {t : Token}
    (ht : tokens[s.cursor]? = some t) :
    Running tokens origin entry routine (held + 1) level s.advance where
  stacked := h.stacked
  cursor_le := by
    have hlt : s.cursor < tokens.length := (List.getElem?_eq_some_iff.1 ht).1
    exact Nat.le_trans hlt (Nat.le_max_right _ _)
  held_le := by
    have hheld := h.held_le
    show origin + (held + 1) + taken s.stack ≤ s.cursor + 1
    omega
  level_le := h.level_le
  depth_eq := h.depth_eq

theorem mono (h : Running tokens origin entry routine held level s) {held' : Nat}
    (hle : held' ≤ held) : Running tokens origin entry routine held' level s where
  stacked := h.stacked
  cursor_le := h.cursor_le
  held_le := by
    have hheld := h.held_le
    omega
  level_le := h.level_le
  depth_eq := h.depth_eq

/-- A routine calls another one, with its levels and its tokens on record in its frame. -/
theorem call (frame : Frame) (h : Running tokens origin entry frame.routine held frame.level s)
    (htaken : frame.taken ≤ held) :
    Running tokens origin entry frame.callee 0 0 (s.call frame frame.callee) where
  stacked := .cons h.stacked
  cursor_le := h.cursor_le
  held_le := by
    have hheld := h.held_le
    show origin + 0 + taken (frame :: s.stack) ≤ s.cursor
    rw [taken_cons]
    omega
  level_le := by
    have hlevel := h.level_le
    show entry + openLevels (frame :: s.stack) + 0 ≤ maxDepth
    rw [openLevels_cons]
    omega
  depth_eq := by
    have hdepth := h.depth_eq
    show s.depth = entry + openLevels (frame :: s.stack) + 0
    rw [openLevels_cons]
    omega

/-- The routine that waits goes on with its own tokens and levels, and with those it is handed. -/
theorem pop {cursor depth : Nat}
    (h : Running tokens origin entry routine held 0 ⟨control, frame :: stack, cursor, depth⟩) :
    Running tokens origin entry frame.routine (held + frame.taken) frame.level
      ⟨control, stack, cursor, depth⟩ where
  stacked := by
    have hstacked := h.stacked
    cases hstacked with
    | cons hstacked => exact hstacked
  cursor_le := h.cursor_le
  held_le := by
    have hheld : origin + held + taken (frame :: stack) ≤ cursor := h.held_le
    rw [taken_cons] at hheld
    show origin + (held + frame.taken) + taken stack ≤ cursor
    omega
  level_le := by
    have hlevel := h.level_le
    rw [openLevels_cons] at hlevel
    show entry + openLevels stack + frame.level ≤ maxDepth
    omega
  depth_eq := by
    have hdepth := h.depth_eq
    rw [openLevels_cons] at hdepth
    show depth = entry + openLevels stack + frame.level
    exact hdepth.trans (by omega)

theorem failing (h : Running tokens origin entry routine held level s) :
    Failing tokens origin entry level s where
  stacked := ⟨routine, h.stacked⟩
  cursor_le := h.cursor_le
  level_le := Nat.le_of_add_right_le h.level_le
  le_depth := Nat.le_of_eq h.depth_eq.symm

/-- A level is opened if one is left, and else the routine fails. -/
theorem descend (frame : Frame) (h : Running tokens origin entry frame.routine held 0 s)
    (hlevel : frame.level = 1) (htaken : frame.taken ≤ held) :
    Sound tokens origin entry (s.descend frame frame.callee) := by
  have hle : s.depth ≤ maxDepth := h.depth_eq ▸ h.level_le
  by_cases hlt : s.depth < maxDepth
  · -- the counter is raised before the call, and so the frame keeps the level from there on
    rw [descend_of_lt hlt]
    have hopened : Running tokens origin entry frame.routine held frame.level
        { s with depth := s.depth + 1 } := by
      have hdepth := h.depth_eq
      refine ⟨h.stacked, h.cursor_le, h.held_le, ?_, ?_⟩
      · show entry + openLevels s.stack + frame.level ≤ maxDepth
        omega
      · show s.depth + 1 = entry + openLevels s.stack + frame.level
        omega
    exact hopened.call frame htaken
  · -- the counter is left one above the limit, where only an error is handed on
    rw [descend_of_eq (Nat.le_antisymm hle (Nat.le_of_not_lt hlt))]
    have hfailing := h.failing
    exact ⟨hfailing.stacked, hfailing.cursor_le, hfailing.level_le,
      Nat.le_succ_of_le hfailing.le_depth⟩

/-- A level that is open can be closed. -/
theorem ascend (h : Running tokens origin entry routine held 1 s) (control : Control) :
    s.ascend control = ⟨control, s.stack, s.cursor, entry + openLevels s.stack⟩ ∧
      Running tokens origin entry routine held 0
        ⟨control, s.stack, s.cursor, entry + openLevels s.stack⟩ := by
  have hlevel := h.level_le
  constructor
  · unfold State.ascend
    rw [h.depth_eq]
  · exact ⟨h.stacked, h.cursor_le, h.held_le, Nat.le_of_succ_le hlevel, rfl⟩

/-- A routine closes its level and returns what it has taken the tokens for. -/
theorem ascend_returned (h : Running tokens origin entry routine held 1 s) (hsize : e.size ≤ held) :
    Sound tokens origin entry (s.ascend (.returned e)) := by
  obtain ⟨hascend, hrunning⟩ := (h.mono hsize).ascend (.returned e)
  rw [hascend]
  exact ⟨routine, hrunning⟩

/-- A routine closes its level and fails. -/
theorem ascend_failed (h : Running tokens origin entry routine held 1 s) (error : Error) :
    Sound tokens origin entry (s.ascend (.failed error)) := by
  obtain ⟨hascend, hrunning⟩ := h.ascend (.failed error)
  rw [hascend]
  exact hrunning.failing

end Running

/-- An error is handed to the routine that waits. -/
theorem Failing.pop {cursor depth : Nat}
    (h : Failing tokens origin entry 0 ⟨control, frame :: stack, cursor, depth⟩) :
    Failing tokens origin entry frame.level ⟨control, stack, cursor, depth⟩ where
  stacked := by
    obtain ⟨routine, hstacked⟩ := h.stacked
    cases hstacked with
    | cons hstacked => exact ⟨_, hstacked⟩
  cursor_le := h.cursor_le
  level_le := by
    have hlevel : entry + openLevels (frame :: stack) ≤ maxDepth := h.level_le
    rw [openLevels_cons] at hlevel
    show entry + openLevels stack ≤ maxDepth
    omega
  le_depth := by
    have hdepth : entry + openLevels (frame :: stack) + 0 ≤ depth := h.le_depth
    rw [openLevels_cons] at hdepth
    show entry + openLevels stack + frame.level ≤ depth
    omega

/-- A routine that fails may close a level that it has opened. -/
theorem Failing.abandon (h : Failing tokens origin entry frame.level s) (error : Error) :
    Sound tokens origin entry (abandon s error frame) := by
  obtain ⟨depth, hle, heq⟩ : ∃ depth, entry + openLevels s.stack ≤ depth ∧
      Descent.abandon s error frame = ⟨.failed error, s.stack, s.cursor, depth⟩ :=
    exists_abandon_eq h.le_depth
  rw [heq]
  exact ⟨h.stacked, h.cursor_le, h.level_le, hle⟩

/-! ## Steps -/

theorem sound_start (h : Running tokens origin entry routine 0 0 s) :
    Sound tokens origin entry (start tokens s routine) := by
  cases routine with
  | row row => exact Running.call (.first row) h (Nat.le_refl _)
  | signed =>
      unfold start
      dsimp only
      split
      · rename_i hget
        exact Running.descend (.sign .minus) (h.advance hget) rfl (Nat.le_refl _)
      · rename_i hget
        exact Running.descend (.sign .plus) (h.advance hget) rfl (Nat.le_refl _)
      · exact Running.call .unsigned h (Nat.le_refl _)
  | power => exact Running.call .base h (Nat.le_refl _)
  | primary =>
      unfold start
      dsimp only
      split
      · rename_i hget
        exact ⟨.primary, (h.advance hget).goTo _⟩
      · rename_i hget
        exact Running.descend .bracket (h.advance hget) rfl (Nat.le_refl _)
      · rename_i hget
        exact ((h.advance hget).goTo _).failing
      · exact (h.goTo _).failing

theorem sound_loop (h : Running tokens origin entry (.row row) lhs.size 0 s) :
    Sound tokens origin entry (loop tokens s row lhs) := by
  unfold loop
  split
  · rename_i op hop
    obtain ⟨t, hget, -⟩ := Option.bind_eq_some_iff.1 hop
    exact Running.call (.next row lhs op) (h.advance hget) (Nat.le_refl _)
  · exact ⟨.row row, h.goTo _⟩

/-- A routine that goes on with a result has taken a token for each node of it, and those that its
frame has on record for the nodes to come. -/
theorem sound_resume
    (h : Running tokens origin entry frame.routine (e.size + frame.taken) frame.level s) :
    Sound tokens origin entry (resume tokens s e frame) := by
  cases frame with
  | first row => exact h.goTo _
  | next row lhs op =>
      have hsize : (Expr.binary op lhs e).size ≤ e.size + (lhs.size + 1) := by
        simp only [Expr.size]
        omega
      exact (h.mono hsize).goTo _
  | sign sign =>
      have hsize : (sign.apply e).size ≤ e.size + 1 := by
        cases sign with
        | plus => exact Nat.le_succ _
        | minus => exact Nat.le_refl _
      exact h.ascend_returned hsize
  | unsigned => exact ⟨_, h.goTo _⟩
  | base =>
      unfold resume
      dsimp only
      split
      · rename_i hget
        exact Running.descend (.exponent e) (h.advance hget) rfl (Nat.le_refl _)
      · exact ⟨_, h.goTo _⟩
  | exponent base =>
      have hsize : (Expr.binary .pow base e).size ≤ e.size + (base.size + 1) := by
        simp only [Expr.size]
        omega
      exact h.ascend_returned hsize
  | bracket =>
      unfold resume
      dsimp only
      split
      · rename_i hget
        -- the brackets are tokens without a node
        exact (h.advance hget).ascend_returned (Nat.le_add_right e.size 2)
      · rename_i hget
        exact (h.advance hget).ascend_failed .unclosedBracket
      · exact h.ascend_failed .unclosedBracket

/-- A step keeps the invariant. -/
theorem Sound.step (h : Sound tokens origin entry s) (hstep : step tokens s = some s') :
    Sound tokens origin entry s' := by
  obtain ⟨control, stack, cursor, depth⟩ := s
  cases control with
  | call routine =>
      cases hstep
      exact sound_start h
  | loop row lhs =>
      cases hstep
      exact sound_loop h
  | returned e =>
      cases stack with
      | nil => cases hstep
      | cons frame stack =>
          cases hstep
          obtain ⟨routine, hrunning⟩ := h
          exact sound_resume hrunning.pop
  | failed error =>
      cases stack with
      | nil => cases hstep
      | cons frame stack =>
          cases hstep
          exact Failing.abandon (Failing.pop h) error
  | broken => cases hstep

/-! ## Runs -/

variable (tokens) in
/-- The state after a number of steps, or the last one if there are fewer. -/
def run : Nat → State → State
  | 0, s => s
  | n + 1, s =>
    match step tokens s with
    | some s' => run n s'
    | none => s

/-- A run keeps the invariant, since each of its steps does. -/
theorem sound_run (h : Sound tokens origin entry s) (n : Nat) :
    Sound tokens origin entry (run tokens n s) := by
  induction n generalizing s with
  | zero => exact h
  | succ n ih =>
      unfold run
      cases hstep : step tokens s with
      | none => exact h
      | some s' => exact ih (h.step hstep)

theorem Reaches.exists_run_eq (h : Reaches tokens s s') : ∃ n, run tokens n s = s' := by
  induction h using Relation.ReflTransGen.head_induction_on with
  | refl => exact ⟨0, rfl⟩
  | head hstep _ ih =>
      obtain ⟨n, hn⟩ := ih
      refine ⟨n + 1, ?_⟩
      rw [run, hstep]
      exact hn

/-- The machine at a call from outside. -/
def enter (routine : Routine) (cursor depth : Nat) : State := ⟨.call routine, [], cursor, depth⟩

theorem sound_enter (routine : Routine) (origin : Nat) (h : entry ≤ maxDepth) :
    Sound tokens origin entry (enter routine origin entry) :=
  ⟨.nil routine, Nat.le_max_left _ _, Nat.le_refl _, h, rfl⟩

/-! ## Every moment -/

/-- The bounds that a machine keeps, called at `origin` with `entry` levels open. -/
structure Contained (tokens : List Token) (origin entry : Nat) (s : State) : Prop where
  /-- The counter has never been lowered below zero. -/
  intact : s.control ≠ .broken
  cursor_le : s.cursor ≤ max origin tokens.length
  /-- Only the levels that routines keep open count, and not what was read before in them. -/
  depth_eq : (∀ error, s.control ≠ .failed error) → s.depth = entry + openLevels s.stack
  level_le : entry + openLevels s.stack ≤ maxDepth
  frames_le : s.frames ≤ 5 * (openLevels s.stack + 1)
  frames_le_max : s.frames ≤ 5 * (maxDepth + 1)

theorem Stacked.frames_le (h : Stacked routine s.stack) :
    s.frames ≤ 5 * (openLevels s.stack + 1) := by
  have hlength := h.length_le
  have hrank := routine.rank_le
  unfold State.frames
  split <;> omega

theorem Running.contained (h : Running tokens origin entry routine held 0 s)
    (hintact : s.control ≠ .broken) : Contained tokens origin entry s where
  intact := hintact
  cursor_le := h.cursor_le
  depth_eq _ := h.depth_eq
  level_le := h.level_le
  frames_le := h.stacked.frames_le
  frames_le_max := by
    have hframes := h.stacked.frames_le
    have hlevel := h.level_le
    omega

theorem Failing.contained (h : Failing tokens origin entry 0 s) (hs : s.control = .failed error) :
    Contained tokens origin entry s where
  intact := by
    rw [hs]
    exact Control.noConfusion
  cursor_le := h.cursor_le
  depth_eq hnot := absurd hs (hnot error)
  level_le := h.level_le
  frames_le := by
    obtain ⟨routine, hstacked⟩ := h.stacked
    exact hstacked.frames_le
  frames_le_max := by
    obtain ⟨routine, hstacked⟩ := h.stacked
    have hframes := hstacked.frames_le
    have hlevel := h.level_le
    omega

theorem Sound.contained (h : Sound tokens origin entry s) : Contained tokens origin entry s := by
  obtain ⟨control, stack, cursor, depth⟩ := s
  cases control with
  | call routine => exact Running.contained h Control.noConfusion
  | loop row lhs => exact Running.contained h Control.noConfusion
  | returned e =>
      obtain ⟨routine, hrunning⟩ := h
      exact hrunning.contained Control.noConfusion
  | failed error => exact Failing.contained h rfl
  | broken => cases h

/-! ## The end -/

theorem size_pos (e : Expr Decimal) : 0 < e.size := by
  cases e <;> exact Nat.succ_pos _

/-- How a call ends: it returns what its reader returns, with tokens taken and no more nodes than
tokens, the cursor not behind the last one and the counter as it was, or it fails as its reader
does. -/
inductive Ended (tokens : List Token) (routine : Routine) (origin entry : Nat) : State → Prop where
  | returned {e : Expr Decimal} {cursor : Nat}
      (hread : routine.reader (maxDepth - entry) (tokens.drop origin) =
        .ok (e, tokens.drop cursor))
      (htaken : origin < cursor) (hcursor : cursor ≤ tokens.length)
      (hsize : e.size ≤ cursor - origin) :
      Ended tokens routine origin entry ⟨.returned e, [], cursor, entry⟩
  | failed {error : Error} {cursor depth : Nat}
      (hread : routine.reader (maxDepth - entry) (tokens.drop origin) = .error error) :
      Ended tokens routine origin entry ⟨.failed error, [], cursor, depth⟩

theorem Ended.step_eq_none (h : Ended tokens routine origin entry s) : step tokens s = none := by
  cases h <;> rfl

/-- What a routine has returned, it has taken the tokens for. -/
theorem Sound.ended {cursor : Nat}
    (h : Sound tokens origin entry ⟨.returned e, [], cursor, entry⟩)
    (hread : routine.reader (maxDepth - entry) (tokens.drop origin) =
      .ok (e, tokens.drop cursor)) :
    Ended tokens routine origin entry ⟨.returned e, [], cursor, entry⟩ := by
  obtain ⟨_, hrunning⟩ := h
  have hheld : origin + e.size + 0 ≤ cursor := hrunning.held_le
  have hcursor : cursor ≤ max origin tokens.length := hrunning.cursor_le
  have hpos := size_pos e
  exact .returned hread (by omega) (by omega) (by omega)

theorem exists_run_ended (routine : Routine) (origin : Nat) (h : entry ≤ maxDepth) :
    ∃ n, Ended tokens routine origin entry (run tokens n (enter routine origin entry)) := by
  have hreads : Reads tokens routine (routine.reader (maxDepth - entry)) entry :=
    reads_routine routine h
  have hleads := hreads [] origin
  cases hread : routine.reader (maxDepth - entry) (tokens.drop origin) with
  | ok value =>
      obtain ⟨e, rest⟩ := value
      rw [hread] at hleads
      obtain ⟨cursor, _, rfl, hreturned⟩ := hleads
      obtain ⟨n, hn⟩ := hreturned.exists_run_eq
      have hsound : Sound tokens origin entry (run tokens n (enter routine origin entry)) :=
        sound_run (sound_enter routine origin h) n
      refine ⟨n, ?_⟩
      rw [enter, hn] at hsound ⊢
      exact hsound.ended hread
  | error error =>
      rw [hread] at hleads
      obtain ⟨cursor, depth, _, hfailed⟩ := hleads
      obtain ⟨n, hn⟩ := hfailed.exists_run_eq
      refine ⟨n, ?_⟩
      rw [enter, hn]
      exact .failed hread

/-! ## Whole expressions -/

/-- Every node of an expression has a token of its own. -/
theorem size_le_of_ofTokens {ts : List Token} (h : ofTokens ts = .ok e) : e.size ≤ ts.length := by
  obtain ⟨-, d, rfl, hnesting, rfl⟩ := ofTokens_eq_ok_iff.1 h
  have hread : sum (signed maxDepth) d.tokens = .ok (d.tree, []) := by
    have hread := d.read hnesting (Grammar.stopsAt_nil _)
    rwa [List.append_nil] at hread
  obtain ⟨n, hended⟩ : ∃ n, Ended d.tokens (.row .sum) 0 0
      (run d.tokens n (enter (.row .sum) 0 0)) := exists_run_ended (.row .sum) 0 (Nat.zero_le _)
  generalize run d.tokens n (enter (.row .sum) 0 0) = final at hended
  cases hended with
  | @returned e cursor hread' htaken hcursor hsize =>
      -- what the machine returns is the tree that has been read
      have hsame : Except.ok (d.tree, []) = .ok (e, d.tokens.drop cursor) :=
        hread.symm.trans hread'
      obtain ⟨rfl, -⟩ := Prod.mk.inj (Except.ok.inj hsame)
      exact Nat.le_trans hsize hcursor
  | failed hread' =>
      have hsame : Except.ok (d.tree, []) = .error _ := hread.symm.trans hread'
      cases hsame

theorem size_le_of_parse {s : Text} (h : parse s = .ok e) : e.size ≤ maxTokens := by
  obtain ⟨ts, _, hread⟩ := exists_tokens_of_parse h
  exact Nat.le_trans (size_le_of_ofTokens hread) (ofTokens_eq_ok_iff.1 hread).1

/-- Every routine, called anywhere in any tokens with no more than `maxDepth` levels open, comes to
an end: it returns what its reader returns, with tokens taken, no token passed over behind the last
one, no more nodes than tokens taken, and the counter as it was; or it fails with the error of its
reader.  At every moment before, the counter shows the levels that the stack keeps open, and it is
never lowered below zero; there are `maxDepth` open levels at most, and five routines to a level.
So what is read from a text has at most `maxTokens` nodes. -/
theorem descends_within_bounds (tokens : List Token) (routine : Routine) (origin entry : Nat)
    (h : entry ≤ maxDepth) :
    (∃ n, Ended tokens routine origin entry (run tokens n (enter routine origin entry)) ∧
      step tokens (run tokens n (enter routine origin entry)) = none) ∧
    (∀ n, Contained tokens origin entry (run tokens n (enter routine origin entry))) ∧
    ∀ s e, parse s = .ok e → e.size ≤ maxTokens := by
  obtain ⟨n, hended⟩ : ∃ n, Ended tokens routine origin entry
      (run tokens n (enter routine origin entry)) := exists_run_ended routine origin h
  exact ⟨⟨n, hended, hended.step_eq_none⟩,
    fun n => (sound_run (sound_enter routine origin h) n).contained,
    fun s e => size_le_of_parse⟩

/-- The last level of all is enough for a bracket. -/
theorem descends_within_bounds_last_level :
    63 ≤ maxDepth ∧
    (∃ n, Ended [.lparen, .number ⟨1, 0⟩, .rparen] .primary 0 63
        (run [.lparen, .number ⟨1, 0⟩, .rparen] n (enter .primary 0 63)) ∧
      step [.lparen, .number ⟨1, 0⟩, .rparen]
        (run [.lparen, .number ⟨1, 0⟩, .rparen] n (enter .primary 0 63)) = none) ∧
    (∀ n, Contained [.lparen, .number ⟨1, 0⟩, .rparen] 0 63
      (run [.lparen, .number ⟨1, 0⟩, .rparen] n (enter .primary 0 63))) ∧
    ∀ s e, parse s = .ok e → e.size ≤ maxTokens :=
  ⟨by decide, descends_within_bounds _ .primary 0 63 (by decide)⟩

end Descent
end Expr
end ChatAssistant
