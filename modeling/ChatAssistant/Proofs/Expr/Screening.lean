import ChatAssistant.Proofs.Expr.Recognition
import ChatAssistant.Proofs.Expr.Tokens

/-!
# What a text is refused for

Reading and evaluating refuse a text for its characters before anything else: the first one that no
expression holds is named, whatever else is wrong.  A text that passes can still fail to be divided
into tokens, and only for a number: a run of digits and points that is a lone point or has two
points, and again the first one is named.

* `FirstForeign` — the character that is named;
* `isMisshapen` — the runs that are no numbers;
* `scan` — the division into tokens with the ways to stop told apart, of which only one is ever
  taken behind the check of the characters;
* `screens_characters_then_runs` — which texts are refused for what.
-/

namespace ChatAssistant
namespace Expr

open Text (isBlank)
open Decimal (isLiteralChar)

variable {c : Char} {s run : Text} {e : Error}

/-! ## Numbers -/

/-- A run of digits and points that is no number: a lone point, or one with two points. -/
def isMisshapen (run : Text) : Bool := run == ['.'] || decide (1 < run.count '.')

/-- In a run of digits and points, the digits are what is no point. -/
theorem count_point_eq_zero_iff (h : ∀ c ∈ run, isLiteralChar c = true) :
    run.count '.' = 0 ↔ run.all Text.isDigit = true := by
  rw [List.count_eq_zero, List.all_eq_true]
  constructor
  · intro hnot c hc
    have hliteral := h c hc
    simp only [isLiteralChar, Bool.or_eq_true, beq_iff_eq] at hliteral
    rcases hliteral with hdigit | rfl
    · exact hdigit
    · exact absurd hc hnot
  · intro hall hmem
    exact absurd (hall '.' hmem) (by decide)

/-- A run of digits and points is a number unless its shape forbids it. -/
theorem ofRun?_eq_none_iff (h : ∀ c ∈ run, isLiteralChar c = true) (hne : run ≠ []) :
    Decimal.ofRun? run = none ↔ isMisshapen run = true := by
  have hsplit : run.takeWhile Text.isDigit ++ run.dropWhile Text.isDigit = run :=
    List.takeWhile_append_dropWhile
  have hcount : (run.takeWhile Text.isDigit).count '.' = 0 := by
    rw [List.count_eq_zero]
    intro hmem
    exact absurd (List.mem_takeWhile_imp hmem) (by decide)
  have hhead := List.head?_dropWhile_not Text.isDigit run
  unfold Decimal.ofRun?
  generalize run.takeWhile Text.isDigit = whole at *
  cases hrest : run.dropWhile Text.isDigit with
  | nil =>
      -- digits only
      rw [hrest, List.append_nil] at hsplit
      subst hsplit
      have hpoint : whole ≠ ['.'] := by
        rintro rfl
        cases hcount
      simp [isMisshapen, hne, hcount, hpoint]
  | cons p fraction =>
      rw [hrest] at hsplit hhead
      subst hsplit
      -- what ends the digits is a point
      have hp : p = '.' := by
        have hliteral := h p (by simp)
        have hnot : Text.isDigit p = false := by simpa using hhead
        simpa [isLiteralChar, hnot] using hliteral
      subst hp
      have hfraction : ∀ c ∈ fraction, isLiteralChar c = true := by
        intro c hc
        exact h c (by simp [hc])
      have hpoints : (whole ++ '.' :: fraction).count '.' = fraction.count '.' + 1 := by
        rw [List.count_append, hcount, List.count_cons_self, Nat.zero_add]
      have hlone : whole ++ '.' :: fraction = ['.'] ↔ whole = [] ∧ fraction = [] := by
        rw [List.append_eq_cons_iff]
        simp
      have hdigits := count_point_eq_zero_iff hfraction
      simp only [isMisshapen, hpoints, Bool.or_eq_true, beq_iff_eq, hlone, decide_eq_true_eq]
      by_cases hall : fraction.all Text.isDigit = true
      · simp [hall, hdigits.2 hall]
      · have hpos : ¬ fraction.count '.' = 0 := fun hzero => hall (hdigits.1 hzero)
        have htwo : 1 < fraction.count '.' + 1 := by omega
        simp only [hall, htwo, Bool.false_and, or_true, iff_true]
        rfl

/-! ## Ways to stop -/

/-- Where the division into tokens stops. -/
inductive Stop where
  /-- At a character that starts no token. -/
  | character (c : Char)
  /-- At a run that is no number by its shape. -/
  | misshapen (run : Text)
  /-- At a run of the right shape that is no number all the same. -/
  | unreadable (run : Text)
  deriving DecidableEq

/-- What is said about it. -/
def Stop.error : Stop → Error
  | character c => .invalidCharacter c
  | misshapen run | unreadable run => .malformedNumber run

/-- The division into tokens; the shape of a run is looked at before the run is read. -/
def scan : Text → Except Stop (List Token)
  | [] => .ok []
  | '*' :: '*' :: r => (scan r).map (.caret :: ·)
  | c :: r =>
    if isBlank c then scan r
    else if isLiteralChar c then
      let run := c :: r.takeWhile isLiteralChar
      if isMisshapen run then .error (.misshapen run)
      else
        match Decimal.ofRun? run with
        | some d => (scan (r.dropWhile isLiteralChar)).map (.number d :: ·)
        | none => .error (.unreadable run)
    else
      match Token.ofChar? c with
      | some t => (scan r).map (t :: ·)
      | none => .error (.character c)
termination_by s => s.length
decreasing_by
  all_goals simp_wf
  all_goals
    have h := Text.length_dropWhile_le isLiteralChar r
    omega

/-- The run in front of a text is made of digits and points. -/
theorem isLiteralChar_of_mem_run (hc : isLiteralChar c = true) (r : Text) :
    ∀ d ∈ c :: r.takeWhile isLiteralChar, isLiteralChar d = true := by
  intro d hd
  rcases List.mem_cons.1 hd with rfl | hd
  · exact hc
  · exact List.mem_takeWhile_imp hd

theorem mapError_map {α β γ δ : Type} (f : α → β) (g : γ → δ) (x : Except γ α) :
    (x.map f).mapError g = (x.mapError g).map f := by
  cases x <;> rfl

theorem tokens_eq_scan (s : Text) : tokens s = (scan s).mapError Stop.error := by
  fun_induction scan s with
  | case1 => rw [tokens_nil]; rfl
  | case2 r ih => rw [tokens_two_stars, mapError_map, ih]
  | case3 c r _ hc ih => rw [tokens_blank hc, ih]
  | case4 c r _ _ hc run hrun =>
      have hnone := (ofRun?_eq_none_iff (isLiteralChar_of_mem_run hc r) (by simp)).2 hrun
      rw [tokens_run hc, hnone]
      rfl
  | case5 c r _ _ hc run _ d hd ih => rw [tokens_run hc, hd, mapError_map, ih]
  | case6 c r _ _ hc run _ hd => rw [tokens_run hc, hd]; rfl
  | case7 c r hstars _ _ t hc ih =>
      have hnext : c = '*' → r.head? ≠ some '*' := by
        intro hstar hhead
        cases r with
        | nil => cases hhead
        | cons c' r' =>
            cases hhead
            exact hstars r' hstar rfl
      rw [tokens_sign hc hnext, mapError_map, ih]
  | case8 c r hstars hblank hrun hc =>
      rw [tokens, if_neg hblank, if_neg hrun, hc]
      · rfl
      · exact hstars

/-! ## Behind the check of the characters -/

/-- A division that stops at the run that is found, and at nothing if none is. -/
inductive StopsAtRun : Option Text → Except Stop (List Token) → Prop where
  | never (ts : List Token) : StopsAtRun none (.ok ts)
  | found (run : Text) : StopsAtRun (some run) (.error (.misshapen run))

/-- A token in front changes nothing about where a division stops. -/
theorem StopsAtRun.map_cons {found : Option Text} {result : Except Stop (List Token)}
    (h : StopsAtRun found result) (t : Token) : StopsAtRun found (result.map (t :: ·)) := by
  cases h with
  | never ts => exact .never (t :: ts)
  | found run => exact .found run

/-- A text of characters of expressions is divided up to its first misshapen run. -/
theorem stopsAtRun_scan (h : ∀ c ∈ s, isAllowed c = true) :
    StopsAtRun ((Text.runs isLiteralChar s).find? isMisshapen) (scan s) := by
  fun_induction scan s with
  | case1 =>
      rw [Text.runs_nil]
      exact .never []
  | case2 r ih =>
      have hstar : isLiteralChar '*' = false := by decide
      rw [Text.runs_cons_of_neg hstar, Text.runs_cons_of_neg hstar]
      exact (ih fun d hd => h d (by simp [hd])).map_cons _
  | case3 c r _ hc ih =>
      rw [Text.runs_cons_of_neg (isLiteralChar_of_isBlank hc)]
      exact ih fun d hd => h d (List.mem_cons_of_mem _ hd)
  | case4 c r _ _ hc run hrun =>
      rw [Text.runs_cons_of_pos hc, List.find?_cons_of_pos hrun]
      exact .found run
  | case5 c r _ _ hc run hrun d hd ih =>
      rw [Text.runs_cons_of_pos hc, List.find?_cons_of_neg hrun]
      -- what stands behind the run is part of the text
      have hrest : ∀ d ∈ r.dropWhile isLiteralChar, isAllowed d = true := by
        intro d hd
        exact h d (List.mem_cons_of_mem _ ((List.dropWhile_sublist _).subset hd))
      exact (ih hrest).map_cons _
  | case6 c r _ _ hc run hrun hd =>
      -- a run of the right shape is a number
      have hnone := ofRun?_eq_none_iff (isLiteralChar_of_mem_run hc r) (by simp)
      exact absurd (hnone.1 hd) hrun
  | case7 c r _ _ hrun t _ ih =>
      rw [Text.runs_cons_of_neg (Bool.eq_false_iff.2 hrun)]
      exact (ih fun d hd => h d (List.mem_cons_of_mem _ hd)).map_cons _
  | case8 c r _ hblank hrun hc =>
      -- there is no fourth kind of character
      rcases isAllowed_cases (h c List.mem_cons_self) with hb | hl | ⟨t, ht⟩
      · exact absurd hb hblank
      · exact absurd hl hrun
      · rw [hc] at ht
        cases ht

theorem scan_eq_error_iff (h : ∀ c ∈ s, isAllowed c = true) {stop : Stop} :
    scan s = .error stop ↔
      ∃ run, (Text.runs isLiteralChar s).find? isMisshapen = some run ∧
        stop = .misshapen run := by
  have hstops := stopsAtRun_scan h
  generalize (Text.runs isLiteralChar s).find? isMisshapen = found at *
  generalize scan s = result at *
  cases hstops with
  | never ts => simp
  | found run => simp [eq_comm]

theorem tokens_eq_error_iff (h : ∀ c ∈ s, isAllowed c = true) :
    tokens s = .error e ↔
      ∃ run, (Text.runs isLiteralChar s).find? isMisshapen = some run ∧
        e = .malformedNumber run := by
  have hstops := stopsAtRun_scan h
  rw [tokens_eq_scan]
  generalize (Text.runs isLiteralChar s).find? isMisshapen = found at *
  generalize scan s = result at *
  cases hstops with
  | never ts => simp [Except.mapError]
  | found run => simp [Except.mapError, Stop.error, eq_comm]

/-! ## The first foreign character -/

/-- `c` is the first character of the text that no expression holds. -/
def FirstForeign (s : Text) (c : Char) : Prop :=
  ∃ before after, s = before ++ c :: after ∧ (∀ d ∈ before, isAllowed d = true) ∧
    isAllowed c = false

theorem firstForeign_iff : FirstForeign s c ↔ s.find? (!isAllowed ·) = some c := by
  rw [List.find?_eq_some_iff_append]
  unfold FirstForeign
  constructor
  · rintro ⟨before, after, hs, hbefore, hc⟩
    refine ⟨by simp [hc], before, after, hs, ?_⟩
    intro d hd
    simp [hbefore d hd]
  · rintro ⟨hc, before, after, hs, hbefore⟩
    refine ⟨before, after, hs, ?_, by simpa using hc⟩
    intro d hd
    simpa using hbefore d hd

/-- A foreign character is found before the tokens are. -/
theorem parse_of_foreign (h : s.find? (!isAllowed ·) = some c) :
    parse s = .error (.invalidCharacter c) := by
  unfold parse checkCharacters
  rw [h]
  rfl

theorem checkCharacters_of_isAllowed (h : ∀ c ∈ s, isAllowed c = true) :
    checkCharacters s = .ok () := by
  have hnone : s.find? (!isAllowed ·) = none := by
    rw [List.find?_eq_none]
    intro c hc
    simp [h c hc]
  unfold checkCharacters
  rw [hnone]

theorem parse_of_allowed (h : ∀ c ∈ s, isAllowed c = true) :
    parse s = (tokens s).bind ofTokens := by
  unfold parse
  rw [checkCharacters_of_isAllowed h]
  rfl

/-- A fault of two steps is one of the first, or of the second behind it. -/
theorem error_of_bind {α β : Type} {x : Except Error α} {f : α → Except Error β}
    (h : x.bind f = .error e) : x = .error e ∨ ∃ a, x = .ok a ∧ f a = .error e := by
  cases x with
  | error e' =>
      cases h
      exact .inl rfl
  | ok a => exact .inr ⟨a, rfl, h⟩

/-- Without a foreign character no fault is about one. -/
theorem isEvaluation_of_parse (h : ∀ c ∈ s, isAllowed c = true) (he : parse s = .error e) :
    e.isEvaluation = true := by
  rw [parse_of_allowed h] at he
  rcases error_of_bind he with he | ⟨ts, _, he⟩
  · obtain ⟨run, _, rfl⟩ := (tokens_eq_error_iff h).1 he
    rfl
  · exact isEvaluation_of_ofTokens he

section Values

variable {α : Type} [Arithmetic α]

theorem isEvaluation_of_apply {op : BinaryOp} {a b : α} (he : BinaryOp.apply op a b = .error e) :
    e.isEvaluation = true := by
  unfold BinaryOp.apply at he
  cases op with
  | add => cases he
  | sub => cases he
  | mul => cases he
  | div =>
      dsimp only at he
      split at he
      · cases he
        rfl
      · cases he
  | pow =>
      dsimp only at he
      split at he
      · cases he
        rfl
      · split at he
        · cases he
          rfl
        · cases he

theorem isEvaluation_of_finite {a : α} (he : finite a = .error e) : e.isEvaluation = true := by
  unfold finite at he
  split at he
  · cases he
  · cases he
    rfl

/-- No fault of a value is about a character. -/
theorem isEvaluation_of_value {x : Expr α} (he : x.value = .error e) : e.isEvaluation = true := by
  induction x with
  | number n => exact isEvaluation_of_finite he
  | neg x ih =>
      rcases error_of_bind he with he | ⟨a, _, he⟩
      · exact ih he
      · exact isEvaluation_of_finite he
  | binary op l r ihl ihr =>
      -- the operands, the operation, and the check of its result
      rcases error_of_bind he with he | ⟨a, _, he⟩
      · exact ihl he
      rcases error_of_bind he with he | ⟨b, _, he⟩
      · exact ihr he
      rcases error_of_bind he with he | ⟨c, _, he⟩
      · exact isEvaluation_of_apply he
      · exact isEvaluation_of_finite he

end Values

/-- A reading names a character exactly if it is the first foreign one of the text. -/
theorem parse_eq_invalidCharacter_iff :
    parse s = .error (.invalidCharacter c) ↔ FirstForeign s c := by
  rw [firstForeign_iff]
  cases hfind : s.find? (!isAllowed ·) with
  | some c' =>
      rw [parse_of_foreign hfind]
      simp
  | none =>
      have h : ∀ c ∈ s, isAllowed c = true := by
        intro c hc
        simpa using List.find?_eq_none.1 hfind c hc
      constructor
      · intro he
        have hfault := isEvaluation_of_parse h he
        cases hfault
      · intro hnone
        cases hnone

/-- So does an evaluation. -/
theorem evaluate_eq_invalidCharacter_iff (α : Type) [Arithmetic α] :
    (evaluate s : Except Error α) = .error (.invalidCharacter c) ↔ FirstForeign s c := by
  rw [← parse_eq_invalidCharacter_iff]
  constructor
  · intro he
    rcases error_of_bind he with he | ⟨x, _, he⟩
    · exact he
    · have hfault := isEvaluation_of_value he
      cases hfault
  · intro he
    unfold evaluate
    rw [he]
    rfl

/-! ## Blanks -/

/-- Collapsing the blanks of a text changes neither the character that is named nor the tokens. -/
theorem parse_collapse (s : Text) : parse (Text.collapse s) = parse s := by
  have hfilter (t : Text) :
      (t.filter (!isBlank ·)).find? (!isAllowed ·) = t.find? (!isAllowed ·) := by
    rw [List.find?_filter]
    congr 1
    funext c
    -- a blank is no foreign character
    cases hc : isBlank c with
    | true => simp [isAllowed, hc]
    | false => simp
  have hforeign : (Text.collapse s).find? (!isAllowed ·) = s.find? (!isAllowed ·) := by
    rw [← hfilter (Text.collapse s), Text.filter_collapse, hfilter s]
  have htokens : tokens (Text.collapse s) = tokens s := tokens_congr (Text.words_collapse s)
  unfold parse checkCharacters
  rw [hforeign, htokens]

theorem evaluate_collapse (α : Type) [Arithmetic α] (s : Text) :
    (evaluate (Text.collapse s) : Except Error α) = evaluate s := by
  unfold evaluate
  rw [parse_collapse]

/-! ## The law -/

/-- Reading and evaluating name a character exactly if it is the first foreign one, whatever else
is wrong with the text.  Without a foreign character the division into tokens never stops at a
character, nor at a run that only turns out not to be a number when it is read: it fails exactly
if some run of digits and points is a lone point or has two points, and names the first such run. -/
theorem screens_characters_then_runs (s : Text) :
    (∀ c, parse s = .error (.invalidCharacter c) ↔ FirstForeign s c) ∧
    (∀ (α : Type) [Arithmetic α] (c : Char),
      (evaluate s : Except Error α) = .error (.invalidCharacter c) ↔ FirstForeign s c) ∧
    tokens s = (scan s).mapError Stop.error ∧
    ((∀ c ∈ s, isAllowed c = true) →
      (∀ c, scan s ≠ .error (.character c)) ∧
      (∀ run, scan s ≠ .error (.unreadable run)) ∧
      ((∃ e, tokens s = .error e) ↔ ∃ run ∈ Text.runs isLiteralChar s, isMisshapen run = true) ∧
      ∀ e, tokens s = .error e ↔
        ∃ run, (Text.runs isLiteralChar s).find? isMisshapen = some run ∧
          e = .malformedNumber run) := by
  refine ⟨fun c => parse_eq_invalidCharacter_iff,
    fun α _ c => evaluate_eq_invalidCharacter_iff α, tokens_eq_scan s, ?_⟩
  intro h
  refine ⟨?_, ?_, ?_, fun e => tokens_eq_error_iff h⟩
  · intro c hc
    obtain ⟨run, _, hstop⟩ := (scan_eq_error_iff h).1 hc
    cases hstop
  · intro run hrun
    obtain ⟨run', _, hstop⟩ := (scan_eq_error_iff h).1 hrun
    cases hstop
  · rw [← List.find?_isSome, Option.isSome_iff_exists]
    constructor
    · rintro ⟨e, he⟩
      obtain ⟨run, hrun, _⟩ := (tokens_eq_error_iff h).1 he
      exact ⟨run, hrun⟩
    · rintro ⟨run, hrun⟩
      exact ⟨_, (tokens_eq_error_iff h).2 ⟨run, hrun, rfl⟩⟩

/-- A malformed number does not hide a foreign character behind it, and of two malformed numbers the
first one is named. -/
theorem screens_first_of_two_numbers :
    parse "2.3.4 + x".toList = .error (.invalidCharacter 'x') ∧
    (∀ c ∈ "1 + 2.3.4 * .".toList, isAllowed c = true) ∧
    tokens "1 + 2.3.4 * .".toList = .error (.malformedNumber "2.3.4".toList) := by
  have hforeign : FirstForeign "2.3.4 + x".toList 'x' :=
    ⟨"2.3.4 + ".toList, [], rfl, by decide, by decide⟩
  have hallowed : ∀ c ∈ "1 + 2.3.4 * .".toList, isAllowed c = true := by decide
  have hruns : (Text.runs isLiteralChar "1 + 2.3.4 * .".toList).find? isMisshapen =
      some "2.3.4".toList := by decide +kernel
  refine ⟨((screens_characters_then_runs _).1 'x').2 hforeign, hallowed, ?_⟩
  have hnumbers := ((screens_characters_then_runs _).2.2.2 hallowed).2.2.2
  exact (hnumbers _).2 ⟨_, hruns, rfl⟩

end Expr
end ChatAssistant
