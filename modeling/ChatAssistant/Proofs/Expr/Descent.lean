import ChatAssistant.Proofs.Expr.Recognition
import Mathlib.Logic.Relation

/-!
# Reading as a descent

The reader of expressions is a composition of functions, one for each level of nesting, and it
returns what is left of the tokens.  Here the same reading is taken apart into the steps of a
machine, with all that such a machine keeps: a cursor into the tokens, a counter of the levels that
are open, and a stack of the routines that have been called and have not returned.

* `Routine` — the routines, one for each nonterminal of the grammar;
* `Frame` — a routine that waits for the one it has called;
* `step` — one step;
* `reads_routine` — whichever routine is called, wherever, with whatever stack below and up to
  `maxDepth` levels open, the machine comes to what the reader returns.

A routine that opens a level counts it, and closes it again behind what it has read.  A routine
that fails leaves the counter as it is, but for a plus sign, which closes its level all the same.
The counter is a natural number, and a machine that closes a level when none is open breaks.
-/

namespace ChatAssistant
namespace Expr
namespace Descent

open Grammar (Sign)

/-! ## Routines -/

/-- The routines that read operands and the operators between them. -/
inductive Row where
  | sum
  | product
  deriving DecidableEq, Repr

/-- The routines.  Looking at a token, passing over it and opening a level are steps of a routine,
and wait for nothing. -/
inductive Routine where
  | row (row : Row)
  | signed
  | power
  | primary
  deriving DecidableEq, Repr

/-- The operators of a row. -/
def Row.op? : Row → Token → Option BinaryOp
  | sum => sumOp?
  | product => productOp?

/-- The routine for the operands of a row. -/
def Row.operand : Row → Routine
  | sum => .row .product
  | product => .signed

/-- A routine that waits for the one that it has called. -/
inductive Frame where
  /-- A row, for its first operand. -/
  | first (row : Row)
  /-- A row, for the operand behind an operator. -/
  | next (row : Row) (lhs : Expr Decimal) (op : BinaryOp)
  /-- A sign, for its operand. -/
  | sign (sign : Sign)
  /-- A signed operand without a sign, for its power. -/
  | unsigned
  | base
  | exponent (base : Expr Decimal)
  /-- A bracket, for the sum inside. -/
  | bracket
  deriving DecidableEq, Repr

/-- What a machine is about to do. -/
inductive Control where
  /-- To start a routine. -/
  | call (routine : Routine)
  /-- To look for an operator behind what a row has read. -/
  | loop (row : Row) (lhs : Expr Decimal)
  /-- To hand a result to the routine on top of the stack. -/
  | returned (e : Expr Decimal)
  /-- To hand an error to the routine on top of the stack. -/
  | failed (error : Error)
  /-- Nothing: the counter was to go below zero. -/
  | broken
  deriving DecidableEq, Repr

structure State where
  control : Control
  /-- The routines that wait, the innermost first. -/
  stack : List Frame
  /-- The number of tokens passed over. -/
  cursor : Nat
  /-- The number of levels open. -/
  depth : Nat
  deriving DecidableEq, Repr

/-! ## Steps -/

namespace State

variable (s : State)

def goTo (control : Control) : State := { s with control }

/-- Behind the next token. -/
def advance : State := { s with cursor := s.cursor + 1 }

def call (frame : Frame) (routine : Routine) : State :=
  { s with control := .call routine, stack := frame :: s.stack }

/-- Opens a level and calls a routine in it. -/
def descend (frame : Frame) (routine : Routine) : State :=
  let inner := { s with depth := s.depth + 1 }
  if maxDepth < inner.depth then inner.goTo (.failed .tooDeep) else inner.call frame routine

/-- Closes a level. -/
def ascend (control : Control) : State :=
  match s.depth with
  | 0 => s.goTo .broken
  | depth + 1 => { s with control, depth }

end State

variable (tokens : List Token)

/-- The start of a routine. -/
def start (s : State) : Routine → State
  | .row row => s.call (.first row) row.operand
  | .signed =>
      match tokens[s.cursor]? with
      | some .minus => s.advance.descend (.sign .minus) .signed
      | some .plus => s.advance.descend (.sign .plus) .signed
      | _ => s.call .unsigned .power
  | .power => s.call .base .primary
  | .primary =>
      match tokens[s.cursor]? with
      | some (.number d) => s.advance.goTo (.returned (.number d))
      | some .lparen => s.advance.descend .bracket (.row .sum)
      | some _ => s.advance.goTo (.failed .unexpectedOperator)
      | none => s.goTo (.failed .unexpectedEnd)

/-- The top of the loop of a row. -/
def loop (s : State) (row : Row) (lhs : Expr Decimal) : State :=
  match tokens[s.cursor]?.bind row.op? with
  | some op => s.advance.call (.next row lhs op) row.operand
  | none => s.goTo (.returned lhs)

/-- What a routine does with the result it has waited for. -/
def resume (s : State) (e : Expr Decimal) : Frame → State
  | .first row => s.goTo (.loop row e)
  | .next row lhs op => s.goTo (.loop row (.binary op lhs e))
  | .sign sign => s.ascend (.returned (sign.apply e))
  | .unsigned => s.goTo (.returned e)
  | .base =>
      match tokens[s.cursor]? with
      | some .caret => s.advance.descend (.exponent e) .signed
      | _ => s.goTo (.returned e)
  | .exponent base => s.ascend (.returned (.binary .pow base e))
  | .bracket =>
      match tokens[s.cursor]? with
      | some .rparen => s.advance.ascend (.returned e)
      | some _ => s.advance.ascend (.failed .unclosedBracket)
      | none => s.ascend (.failed .unclosedBracket)

/-- What a routine does when the one that it has called fails. -/
def abandon (s : State) (error : Error) : Frame → State
  | .sign .plus => s.ascend (.failed error)
  | _ => s.goTo (.failed error)

/-- One step; none if the machine has come to its end. -/
def step (s : State) : Option State :=
  match s.control, s.stack with
  | .call routine, _ => some (start tokens s routine)
  | .loop row lhs, _ => some (loop tokens s row lhs)
  | .returned e, frame :: stack => some (resume tokens { s with stack } e frame)
  | .failed error, frame :: stack => some (abandon { s with stack } error frame)
  | .returned _, [] | .failed _, [] | .broken, _ => none

/-- The levels that a waiting routine keeps open. -/
def Frame.level : Frame → Nat
  | sign _ | exponent _ | bracket => 1
  | first _ | next .. | unsigned | base => 0

/-- Some steps, or none. -/
def Reaches : State → State → Prop := Relation.ReflTransGen fun s s' => step tokens s = some s'

variable {tokens} {s s' : State} {stack : List Frame} {cursor depth levels : Nat} {frame : Frame}
  {routine : Routine} {row : Row} {read : Reader} {t : Token} {r : List Token} {e : Expr Decimal}
  {error : Error} {result inner : Except Error (Expr Decimal × List Token)}

theorem Reaches.of_step (h : step tokens s = some s') : Reaches tokens s s' := .single h

/-! ## Cursor, levels and frames -/

theorem getElem?_of_drop_eq_nil (h : tokens.drop cursor = []) : tokens[cursor]? = none :=
  List.getElem?_eq_none (List.drop_eq_nil_iff.1 h)

theorem getElem?_of_drop_eq_cons (h : tokens.drop cursor = t :: r) :
    tokens[cursor]? = some t ∧ tokens.drop (cursor + 1) = r := by
  constructor
  · rw [← List.head?_drop, h, List.head?_cons]
  · rw [← List.tail_drop, h, List.tail_cons]

theorem descend_of_lt (h : s.depth < maxDepth) :
    s.descend frame routine = ⟨.call routine, frame :: s.stack, s.cursor, s.depth + 1⟩ :=
  if_neg (Nat.not_lt.2 h)

theorem descend_of_eq (h : s.depth = maxDepth) :
    s.descend frame routine = ⟨.failed .tooDeep, s.stack, s.cursor, s.depth + 1⟩ :=
  if_pos (h ▸ Nat.lt_succ_self _)

/-- A routine that is left by an error closes at most the level that it has opened. -/
theorem exists_abandon_eq (h : depth + frame.level ≤ s.depth) :
    ∃ depth', depth ≤ depth' ∧
      abandon s error frame = ⟨.failed error, s.stack, s.cursor, depth'⟩ := by
  have hleft : depth ≤ s.depth := Nat.le_of_add_right_le h
  cases frame with
  | sign sign =>
      cases sign with
      | minus => exact ⟨s.depth, hleft, rfl⟩
      | plus =>
          obtain ⟨control, stack, cursor, _ | d⟩ := s
          · cases h
          · exact ⟨d, Nat.le_of_succ_le_succ h, rfl⟩
  | _ => exact ⟨s.depth, hleft, rfl⟩

/-! ## What a machine comes to -/

variable (tokens) in
/-- The machine comes to a result above `stack`, and no token is given back.  With an expression
the counter is at `depth`, and with an error it is no lower. -/
def Leads (s : State) (stack : List Frame) (cursor depth : Nat) :
    Except Error (Expr Decimal × List Token) → Prop
  | .ok (e, rest) => ∃ cursor', cursor ≤ cursor' ∧ tokens.drop cursor' = rest ∧
      Reaches tokens s ⟨.returned e, stack, cursor', depth⟩
  | .error error => ∃ cursor' depth', depth ≤ depth' ∧
      Reaches tokens s ⟨.failed error, stack, cursor', depth'⟩

theorem Leads.of_reaches (h : Leads tokens s' stack cursor depth result)
    (hreach : Reaches tokens s s') : Leads tokens s stack cursor depth result := by
  cases result with
  | ok value =>
      obtain ⟨cursor', hle, hrest, hreturned⟩ := h
      exact ⟨cursor', hle, hrest, hreach.trans hreturned⟩
  | error error =>
      obtain ⟨cursor', depth', hle, hfailed⟩ := h
      exact ⟨cursor', depth', hle, hreach.trans hfailed⟩

theorem Leads.mono {cursor' : Nat} (h : Leads tokens s stack cursor' depth result)
    (hle : cursor ≤ cursor') : Leads tokens s stack cursor depth result := by
  cases result with
  | ok value =>
      obtain ⟨c, hc, hrest⟩ := h
      exact ⟨c, Nat.le_trans hle hc, hrest⟩
  | error error => exact h

variable (tokens) in
/-- A call of the routine comes to what the reader makes of the tokens at the cursor, whichever
routines wait below it. -/
def Reads (routine : Routine) (read : Reader) (depth : Nat) : Prop :=
  ∀ stack cursor, Leads tokens ⟨.call routine, stack, cursor, depth⟩ stack cursor depth
    (read (tokens.drop cursor))

/-- Calling a routine, and going on with its result. -/
theorem Reads.call_then (frame : Frame) (h : Reads tokens routine read (depth + frame.level))
    {cursor' : Nat}
    (hcall : Reaches tokens s ⟨.call routine, frame :: stack, cursor', depth + frame.level⟩)
    (hok : ∀ e c, cursor' ≤ c → read (tokens.drop cursor') = .ok (e, tokens.drop c) →
      Leads tokens (resume tokens ⟨.returned e, stack, c, depth + frame.level⟩ e frame)
        stack cursor depth result)
    (herror : ∀ error, read (tokens.drop cursor') = .error error → result = .error error) :
    Leads tokens s stack cursor depth result := by
  have hleads := h (frame :: stack) cursor'
  cases hread : read (tokens.drop cursor') with
  | ok value =>
      obtain ⟨e, rest⟩ := value
      rw [hread] at hleads
      obtain ⟨c, hle, rfl, hreturned⟩ := hleads
      have hresumed : step tokens ⟨.returned e, frame :: stack, c, depth + frame.level⟩ =
          some (resume tokens ⟨.returned e, stack, c, depth + frame.level⟩ e frame) := rfl
      exact (hok e c hle hread).of_reaches ((hcall.trans hreturned).tail hresumed)
  | error error =>
      rw [hread] at hleads
      -- the error may have left the counter above the levels of the frame, but not below them
      obtain ⟨c, depth', hle, hfailed⟩ := hleads
      obtain ⟨depth'', hle', habandoned⟩ : ∃ depth'', depth ≤ depth'' ∧
          abandon ⟨.failed error, stack, c, depth'⟩ error frame =
            ⟨.failed error, stack, c, depth''⟩ := exists_abandon_eq hle
      have hleft : step tokens ⟨.failed error, frame :: stack, c, depth'⟩ =
          some ⟨.failed error, stack, c, depth''⟩ := congrArg some habandoned
      rw [herror error hread]
      exact ⟨c, depth'', hle', (hcall.trans hfailed).tail hleft⟩

/-! ## Rows -/

/-- The reader of the operands of a row. -/
def Row.operandReader (signed : Reader) : Row → Reader
  | sum => Expr.product signed
  | product => signed

/-- The reader of a row. -/
def Row.reader (signed : Reader) : Row → Reader
  | sum => Expr.sum signed
  | product => Expr.product signed

/-- A row reads an operand, and then operators and operands in a chain. -/
theorem Row.reader_eq (row : Row) (signed : Reader) (ts : List Token) :
    row.reader signed ts =
      match row.operandReader signed ts with
      | .error e => .error e
      | .ok (lhs, rest) => chain (row.operandReader signed) row.op? lhs rest := by
  cases row <;> rfl

/-- The loop of a row goes through a chain.  By the number of tokens that are left: every pass takes
one at least. -/
theorem leads_loop (h : Reads tokens row.operand read depth) (lhs : Expr Decimal)
    (stack : List Frame) (cursor : Nat) :
    Leads tokens ⟨.loop row lhs, stack, cursor, depth⟩ stack cursor depth
      (chain read row.op? lhs (tokens.drop cursor)) := by
  induction hlength : (tokens.drop cursor).length using Nat.strongRecOn
    generalizing lhs cursor with
  | ind n ih =>
      have hpass : Reaches tokens ⟨.loop row lhs, stack, cursor, depth⟩
        (loop tokens ⟨.loop row lhs, stack, cursor, depth⟩ row lhs) := .of_step rfl
      cases hts : tokens.drop cursor with
      | nil =>
          rw [chain]
          simp only [loop, getElem?_of_drop_eq_nil hts, Option.bind_none] at hpass
          exact ⟨cursor, Nat.le_refl _, hts, hpass⟩
      | cons t r =>
          obtain ⟨hget, hdrop⟩ := getElem?_of_drop_eq_cons hts
          cases hop : row.op? t with
          | none =>
              rw [chain, hop]
              simp only [loop, hget, Option.bind_some, hop] at hpass
              exact ⟨cursor, Nat.le_refl _, hts, hpass⟩
          | some op =>
              simp only [loop, hget, Option.bind_some, hop] at hpass
              have hcall : Reaches tokens ⟨.loop row lhs, stack, cursor, depth⟩
                ⟨.call row.operand, .next row lhs op :: stack, cursor + 1, depth⟩ := hpass
              refine Reads.call_then (.next row lhs op) h hcall ?_ ?_
              · intro e c hle hread
                rw [hdrop] at hread
                -- the operand took a token, so the chain goes on
                have hrest : (tokens.drop c).length ≤ r.length := by
                  rw [← hdrop, List.length_drop, List.length_drop]
                  omega
                have hless : (tokens.drop c).length < n := by
                  rw [← hlength, hts, List.length_cons]
                  omega
                rw [chain]
                simp only [hop, hread, if_pos hrest]
                exact (ih _ hless (.binary op lhs e) c rfl).mono (Nat.le_of_succ_le hle)
              · intro error hread
                rw [hdrop] at hread
                rw [chain]
                simp only [hop, hread]

/-- A row calls the routine for its operands, and starts its loop. -/
theorem reads_row (row : Row) {signed : Reader}
    (h : Reads tokens row.operand (row.operandReader signed) depth) :
    Reads tokens (.row row) (row.reader signed) depth := by
  intro stack cursor
  have hstart : step tokens ⟨.call (.row row), stack, cursor, depth⟩ =
      some ⟨.call row.operand, .first row :: stack, cursor, depth⟩ := rfl
  rw [Row.reader_eq]
  refine Reads.call_then (.first row) h (.of_step hstart) ?_ ?_
  · intro e c hle hread
    rw [hread]
    exact (leads_loop h e stack c).mono hle
  · intro error hread
    rw [hread]

/-! ## Levels -/

theorem leads_returned (h : cursor ≤ s.cursor) (hs : s.control = .returned e) :
    Leads tokens s s.stack cursor s.depth (.ok (e, tokens.drop s.cursor)) :=
  ⟨s.cursor, h, rfl, hs ▸ .refl⟩

theorem leads_failed (h : depth ≤ s.depth) (hs : s.control = .failed error) :
    Leads tokens s s.stack cursor depth (.error error) :=
  ⟨s.cursor, s.depth, h, hs ▸ .refl⟩

/-- Opening a level, calling a routine in it, and going on with its result.  The readers inside are
those of the levels that are left; if none is left, the reader and the machine both fail. -/
theorem leads_descend (frame : Frame) (hframe : frame.level = 1)
    (hlevels : depth + levels = maxDepth) {readAt : Nat → Reader}
    (h : ∀ k, k + 1 = levels → Reads tokens routine (readAt k) (depth + 1)) {control : Control}
    {cursor' : Nat} (hdescend : Reaches tokens s
      (State.descend ⟨control, stack, cursor', depth⟩ frame routine))
    (hdeep : levels = 0 → result = .error .tooDeep)
    (hok : ∀ k e c, k + 1 = levels → cursor' ≤ c →
      readAt k (tokens.drop cursor') = .ok (e, tokens.drop c) →
      Leads tokens (resume tokens ⟨.returned e, stack, c, depth + 1⟩ e frame)
        stack cursor depth result)
    (herror : ∀ k error, k + 1 = levels → readAt k (tokens.drop cursor') = .error error →
      result = .error error) :
    Leads tokens s stack cursor depth result := by
  cases levels with
  | zero =>
      -- the counter is raised all the same, and stays there
      rw [descend_of_eq hlevels] at hdescend
      rw [hdeep rfl]
      exact ⟨cursor', depth + 1, Nat.le_succ depth, hdescend⟩
  | succ k =>
      have hlt : depth < maxDepth := by omega
      rw [descend_of_lt hlt] at hdescend
      have hread := h k rfl
      have hafter := fun e c => hok k e c rfl
      rw [← hframe] at hread hdescend hafter
      exact hread.call_then frame hdescend hafter fun error => herror k error rfl

variable (tokens) in
/-- The readers of the next level are those of the calls in the next level. -/
def ReadsBelow (levels depth : Nat) : Prop :=
  ∀ k, k + 1 = levels → Reads tokens .signed (signed k) (depth + 1)

/-- Behind the sum in a bracket its level is closed, and then a closing bracket has to follow. -/
theorem leads_bracket {c : Nat} (hle : cursor ≤ c) :
    Leads tokens (resume tokens ⟨.returned e, stack, c, depth + 1⟩ e .bracket) stack cursor depth
      (match (Except.ok (e, tokens.drop c) : Except Error (Expr Decimal × List Token)) with
      | .error error => .error error
      | .ok (e, .rparen :: rest) => .ok (e, rest)
      | .ok _ => .error .unclosedBracket) := by
  cases hts : tokens.drop c with
  | nil =>
      simp only [resume, getElem?_of_drop_eq_nil hts]
      exact leads_failed (Nat.le_refl _) rfl
  | cons t r =>
      obtain ⟨hget, rfl⟩ := getElem?_of_drop_eq_cons hts
      simp only [resume, hget]
      cases t with
      | rparen => exact leads_returned (Nat.le_succ_of_le hle) rfl
      | _ => exact leads_failed (Nat.le_refl _) rfl

theorem reads_primary (hlevels : depth + levels = maxDepth) (h : ReadsBelow tokens levels depth) :
    Reads tokens .primary (primary (innerReader levels)) depth := by
  intro stack cursor
  have hstart : Reaches tokens ⟨.call .primary, stack, cursor, depth⟩
    (start tokens ⟨.call .primary, stack, cursor, depth⟩ .primary) := .of_step rfl
  cases hts : tokens.drop cursor with
  | nil =>
      simp only [start, getElem?_of_drop_eq_nil hts] at hstart
      exact (leads_failed (Nat.le_refl _) rfl).of_reaches hstart
  | cons t r =>
      obtain ⟨hget, rfl⟩ := getElem?_of_drop_eq_cons hts
      simp only [start, hget] at hstart
      cases t with
      | number d => exact (leads_returned (Nat.le_succ cursor) rfl).of_reaches hstart
      | lparen =>
          have hsum (k : Nat) (hk : k + 1 = levels) :
              Reads tokens (.row .sum) (sum (signed k)) (depth + 1) :=
            reads_row .sum (reads_row .product (h k hk))
          refine leads_descend .bracket rfl hlevels hsum hstart ?_ ?_ ?_
          · rintro rfl
            rfl
          · rintro k e c rfl hle hread
            have hread' : sum (signed k) (tokens.drop (cursor + 1)) = .ok (e, tokens.drop c) :=
              hread
            simp only [primary, innerReader, hread']
            exact leads_bracket (Nat.le_of_succ_le hle)
          · rintro k error rfl hread
            have hread' : sum (signed k) (tokens.drop (cursor + 1)) = .error error := hread
            simp only [primary, innerReader, hread']
      | _ => exact (leads_failed (Nat.le_refl _) rfl).of_reaches hstart

/-- Behind a primary a caret opens a level for an exponent. -/
theorem leads_base (hlevels : depth + levels = maxDepth) (h : ReadsBelow tokens levels depth)
    {c : Nat} (hle : cursor ≤ c) (base : Expr Decimal) {ts : List Token}
    (hbase : primary (innerReader levels) ts = .ok (base, tokens.drop c)) :
    Leads tokens (resume tokens ⟨.returned base, stack, c, depth⟩ base .base) stack cursor depth
      (power (innerReader levels) ts) := by
  unfold power
  rw [hbase]
  cases hts : tokens.drop c with
  | nil =>
      simp only [resume, getElem?_of_drop_eq_nil hts]
      rw [← hts]
      exact leads_returned hle rfl
  | cons t r =>
      obtain ⟨hget, rfl⟩ := getElem?_of_drop_eq_cons hts
      simp only [resume, hget]
      cases t with
      | caret =>
          refine leads_descend (.exponent base) rfl hlevels h .refl ?_ ?_ ?_
          · rintro rfl
            rfl
          · rintro k e c' rfl hle' hread
            have hread' : signed k (tokens.drop (c + 1)) = .ok (e, tokens.drop c') := hread
            simp only [innerReader, hread']
            exact leads_returned (Nat.le_trans hle (Nat.le_of_succ_le hle')) rfl
          · rintro k error rfl hread
            have hread' : signed k (tokens.drop (c + 1)) = .error error := hread
            simp only [innerReader, hread']
      | _ =>
          simp only [← hts]
          exact leads_returned hle rfl

theorem reads_power (hlevels : depth + levels = maxDepth) (h : ReadsBelow tokens levels depth) :
    Reads tokens .power (power (innerReader levels)) depth := by
  intro stack cursor
  have hstart : step tokens ⟨.call .power, stack, cursor, depth⟩ =
      some ⟨.call .primary, .base :: stack, cursor, depth⟩ := rfl
  refine Reads.call_then .base (reads_primary hlevels h) (.of_step hstart) ?_ ?_
  · exact fun base c hle hbase => leads_base hlevels h hle base hbase
  · intro error hread
    unfold power
    rw [hread]

theorem signedOperand_sign (inner : Option Reader) (sign : Sign) (r : List Token) :
    signedOperand inner (sign.token :: r) =
      match inner with
      | none => .error .tooDeep
      | some signed =>
        match signed r with
        | .error e => .error e
        | .ok (e, rest) => .ok (sign.apply e, rest) := by
  cases sign with
  | minus => rfl
  | plus =>
      cases inner with
      | none => rfl
      | some signed =>
          -- the result is passed on as it is
          simp only [Sign.token, signedOperand]
          cases signed r <;> rfl

/-- A sign opens a level for its operand. -/
theorem leads_sign (hlevels : depth + levels = maxDepth) (h : ReadsBelow tokens levels depth)
    {sign : Sign} (hget : tokens[cursor]? = some sign.token) :
    Leads tokens ⟨.call .signed, stack, cursor, depth⟩ stack cursor depth
      (signedOperand (innerReader levels) (sign.token :: tokens.drop (cursor + 1))) := by
  have hstart : Reaches tokens ⟨.call .signed, stack, cursor, depth⟩
      (State.descend ⟨.call .signed, stack, cursor + 1, depth⟩ (.sign sign) .signed) := by
    refine .of_step (congrArg some ?_)
    simp only [start, hget]
    cases sign <;> rfl
  rw [signedOperand_sign]
  refine leads_descend (.sign sign) rfl hlevels h hstart ?_ ?_ ?_
  · rintro rfl
    rfl
  · rintro k e c rfl hle hread
    simp only [innerReader, hread]
    exact leads_returned (Nat.le_of_succ_le hle) rfl
  · rintro k error rfl hread
    simp only [innerReader, hread]

/-- Without a sign the operand is a power. -/
theorem leads_unsigned (hlevels : depth + levels = maxDepth) (h : ReadsBelow tokens levels depth)
    (hnone : ∀ sign : Sign, tokens[cursor]? ≠ some sign.token) :
    Leads tokens ⟨.call .signed, stack, cursor, depth⟩ stack cursor depth
      (signedOperand (innerReader levels) (tokens.drop cursor)) := by
  have hstart : Reaches tokens ⟨.call .signed, stack, cursor, depth⟩
      ⟨.call .power, .unsigned :: stack, cursor, depth⟩ := by
    refine .of_step (congrArg some ?_)
    simp only [start]
    split
    · rename_i hget
      exact absurd hget (hnone .minus)
    · rename_i hget
      exact absurd hget (hnone .plus)
    · rfl
  have hpower : signedOperand (innerReader levels) (tokens.drop cursor) =
      power (innerReader levels) (tokens.drop cursor) :=
    signedOperand_eq_power fun sign r hts => hnone sign (getElem?_of_drop_eq_cons hts).1
  rw [hpower]
  refine Reads.call_then .unsigned (reads_power hlevels h) hstart ?_ ?_
  · intro e c hle hread
    rw [hread]
    exact leads_returned hle rfl
  · exact fun error hread => hread

theorem reads_signedOperand (hlevels : depth + levels = maxDepth)
    (h : ReadsBelow tokens levels depth) :
    Reads tokens .signed (signedOperand (innerReader levels)) depth := by
  intro stack cursor
  by_cases hsign : ∃ sign : Sign, tokens[cursor]? = some sign.token
  · obtain ⟨sign, hget⟩ := hsign
    have hts : tokens.drop cursor = sign.token :: tokens.drop (cursor + 1) := by
      obtain ⟨hlt, hsign⟩ := List.getElem?_eq_some_iff.1 hget
      rw [List.drop_eq_getElem_cons hlt, hsign]
    rw [hts]
    exact leads_sign hlevels h hget
  · exact leads_unsigned hlevels h fun sign hget => hsign ⟨sign, hget⟩

theorem reads_signed (hlevels : depth + levels = maxDepth) :
    Reads tokens .signed (signed levels) depth := by
  rw [signed_eq]
  -- one level less for the reader is one more on the counter
  induction levels generalizing depth with
  | zero => exact reads_signedOperand hlevels fun k hk => by cases hk
  | succ levels ih =>
      refine reads_signedOperand hlevels fun k hk => ?_
      cases hk
      rw [signed_eq]
      exact ih (by omega)

/-- The reader that a routine stands for, with some levels left. -/
def Routine.reader (levels : Nat) : Routine → Reader
  | .row row => row.reader (Expr.signed levels)
  | .signed => Expr.signed levels
  | .power => Expr.power (innerReader levels)
  | .primary => Expr.primary (innerReader levels)

/-- Every routine reads what its reader reads, whichever routines wait for it. -/
theorem reads_routine (routine : Routine) (h : depth ≤ maxDepth) :
    Reads tokens routine (routine.reader (maxDepth - depth)) depth := by
  have hlevels : depth + (maxDepth - depth) = maxDepth := Nat.add_sub_of_le h
  have hbelow : ReadsBelow tokens (maxDepth - depth) depth :=
    fun k hk => reads_signed (by omega)
  have hproduct :
      Reads tokens (.row .product) (Expr.product (Expr.signed (maxDepth - depth))) depth :=
    reads_row .product (reads_signed hlevels)
  cases routine with
  | row row =>
      cases row with
      | sum => exact reads_row .sum hproduct
      | product => exact hproduct
  | signed => exact reads_signed hlevels
  | power => exact reads_power hlevels hbelow
  | primary => exact reads_primary hlevels hbelow

end Descent
end Expr
end ChatAssistant
