import ChatAssistant.Proofs.Expr.Points
import ChatAssistant.Proofs.Question.Extraction

/-!
# Expressions on their own

A text that is an expression and nothing else has no words to look for and no equals sign, so it is
taken for what it is: one run of operator characters, less the blanks and points at its ends.  At
the end a point may go, since the number in front of it stays the same.  At the front it may not:
without its point, `.5 + 1` is `5 + 1`.

* `longestRun?_append` — the run that is found behind words;
* `withoutFrontPoint` — what the run stands for (`evaluate_stripWhile`);
* `LosesPoint` — the expressions that a point at the front keeps from being understood;
* `bare_answer_iff` — all the others have the answer that shows their value.
-/

namespace ChatAssistant
namespace Question

variable {c : Char} {e s back : Text} {ts : List Expr.Token}

/-! ## The longest run -/

/-- The characters that are stripped from the ends of a run. -/
def isMargin (c : Char) : Bool := Text.isBlank c || c == '.'

theorem isMargin_of_isDigit (h : Text.isDigit c = true) : isMargin c = false := by
  have hpoint : c ≠ '.' := by
    rintro rfl
    exact absurd h (by decide)
  simp [isMargin, isBlank_of_isDigit h, hpoint]

/-- Stripping a run leaves its digits. -/
theorem hasDigit_stripWhile (s : Text) :
    Text.hasDigit (Text.stripWhile isMargin s) = Text.hasDigit s := by
  rw [Bool.eq_iff_iff]
  unfold Text.hasDigit
  rw [List.any_eq_true, List.any_eq_true]
  constructor
  · rintro ⟨d, hd, hdigit⟩
    exact ⟨d, Text.mem_of_mem_stripWhile hd, hdigit⟩
  · rintro ⟨d, hd, hdigit⟩
    exact ⟨d, Text.mem_stripWhile (isMargin_of_isDigit hdigit) hd, hdigit⟩

/-- Behind words, the run that is found is the whole expression but for its margins. -/
theorem longestRun?_append (front : Text) (hfront : ∀ c ∈ front, isRunChar c = false)
    (hback : ∀ c ∈ back, isRunChar c = true) (hdigit : Text.hasDigit back = true) :
    longestRun? (front ++ back) = some (Text.stripWhile isMargin back) := by
  have hne : back ≠ [] := by
    rintro rfl
    cases hdigit
  have hstripped : Text.hasDigit (Text.stripWhile isMargin back) = true := by
    rw [hasDigit_stripWhile, hdigit]
  show longest? (((Text.runs isRunChar (front ++ back)).map
    (Text.stripWhile isMargin)).filter Text.hasDigit) = _
  rw [Text.runs_append_of_neg hfront, Text.runs_of_pos hback hne, List.map_singleton,
    List.filter_cons_of_pos hstripped]
  rfl

/-- Without an equals sign, nothing stands in front of one. -/
theorem runBeforeEquals?_eq_none (h : '=' ∉ s) : runBeforeEquals? s = none := by
  have hbehind {t r : Text} {c : Char} (ht : '=' ∉ t) (hr : t.dropWhile (!isRunChar ·) = c :: r) :
      '=' ∉ r.dropWhile isRunChar := by
    intro hmem
    have hmem' : '=' ∈ t.dropWhile (!isRunChar ·) :=
      hr ▸ List.mem_cons_of_mem c ((List.dropWhile_sublist _).mem hmem)
    exact ht ((List.dropWhile_sublist _).mem hmem')
  fun_induction runBeforeEquals? s with
  | case1 => rfl
  | case2 s c r hs run rest hrun =>
      rw [Bool.and_eq_true, beq_iff_eq] at hrun
      exact absurd (List.mem_of_mem_head? hrun.2) (hbehind h hs)
  | case3 s c r hs run rest hrun ih => exact ih (hbehind h hs)

/-! ## The point at the front -/

/-- The expression without blanks at its front, and without a point there. -/
def withoutFrontPoint (e : Text) : Text :=
  match e.dropWhile Text.isBlank with
  | '.' :: r => r
  | s => s

theorem exists_tokens_withoutFrontPoint (h : Expr.tokens e = .ok ts) :
    ∃ us, Expr.tokens (withoutFrontPoint e) = .ok us := by
  rw [← Expr.tokens_dropWhile] at h
  unfold withoutFrontPoint
  split
  · rename_i r hr
    rw [hr] at h
    exact (Expr.exists_tokens_of_point_cons h).2
  · exact ⟨ts, h⟩

/-- Stripping the front of an expression stops behind the first point. -/
theorem dropWhile_isMargin (h : Expr.tokens e = .ok ts) :
    e.dropWhile isMargin = withoutFrontPoint e := by
  have hmargin : ∀ c ∈ e.takeWhile Text.isBlank, isMargin c = true := by
    intro c hc
    simp [isMargin, List.mem_takeWhile_imp hc]
  have hblanks : e.dropWhile isMargin = (e.dropWhile Text.isBlank).dropWhile isMargin := by
    calc
      e.dropWhile isMargin =
          (e.takeWhile Text.isBlank ++ e.dropWhile Text.isBlank).dropWhile isMargin := by
            rw [List.takeWhile_append_dropWhile]
      _ = (e.dropWhile Text.isBlank).dropWhile isMargin := List.dropWhile_append_of_pos hmargin
  rw [← Expr.tokens_dropWhile] at h
  rw [hblanks, withoutFrontPoint]
  split
  · -- the number goes on with a digit
    rename_i r hr
    rw [hr] at h
    obtain ⟨⟨d, hd, hdigit⟩, -⟩ := Expr.exists_tokens_of_point_cons h
    have hpoint : isMargin '.' = true := by decide
    rw [hr, List.dropWhile_cons_of_pos hpoint]
    cases r with
    | nil => rfl
    | cons c r =>
        cases hd
        exact List.dropWhile_cons_of_neg (by simp [isMargin_of_isDigit hdigit])
  · rename_i hnot
    cases hs : e.dropWhile Text.isBlank with
    | nil => rfl
    | cons c r =>
        have hblank : Text.isBlank c = false := Text.isBlank_of_dropWhile hs
        have hpoint : c ≠ '.' := by
          rintro rfl
          exact hnot r hs
        exact List.dropWhile_cons_of_neg (by simp [isMargin, hblank, hpoint])

section Values

variable {α : Type} [Arithmetic α] {v : α}

theorem spelled_of_evaluate (h : Expr.evaluate e = .ok v) : Spelled e :=
  ⟨Expr.isAllowed_of_evaluate h, Expr.hasDigit_of_evaluate h⟩

/-- Without its margins an expression has the value that it has without a point at its front. -/
theorem evaluate_stripWhile (h : Expr.evaluate e = .ok v) :
    (Expr.evaluate (Text.stripWhile isMargin e) : Except Expr.Error α) =
      Expr.evaluate (withoutFrontPoint e) := by
  obtain ⟨ts, hts⟩ := Expr.exists_tokens_of_evaluate h
  obtain ⟨us, hus⟩ := exists_tokens_withoutFrontPoint hts
  obtain ⟨tail, hsplit, htail⟩ :=
    Text.exists_dropEndWhile_append isMargin (withoutFrontPoint e)
  have hstrip : Text.stripWhile isMargin e = Text.dropEndWhile isMargin (withoutFrontPoint e) :=
    congrArg (Text.dropEndWhile isMargin) (dropWhile_isMargin hts)
  have htokens : Expr.tokens (Text.dropEndWhile isMargin (withoutFrontPoint e)) = .ok us := by
    rw [hsplit] at hus
    exact Expr.tokens_of_append htail hus
  have hallowed : ∀ c ∈ withoutFrontPoint e, Expr.isAllowed c = true := by
    intro c hc
    rw [← dropWhile_isMargin hts] at hc
    exact Expr.isAllowed_of_evaluate h c ((List.dropWhile_sublist _).mem hc)
  rw [hstrip]
  refine Expr.evaluate_congr (fun c hc => hallowed c ?_) hallowed (htokens.trans hus.symm)
  rw [hsplit]
  exact List.mem_append_left _ hc

/-- The expression starts with a point, and without it the value is not `v`. -/
def LosesPoint (e : Text) (v : α) : Prop :=
  ∃ r, e.dropWhile Text.isBlank = '.' :: r ∧ Expr.evaluate r ≠ .ok v

theorem evaluate_withoutFrontPoint_iff (h : Expr.evaluate e = .ok v) :
    Expr.evaluate (withoutFrontPoint e) = .ok v ↔ ¬ LosesPoint e v := by
  unfold withoutFrontPoint LosesPoint
  split
  · rename_i r hr
    simp [hr]
  · rename_i hnot
    have hallowed := Expr.isAllowed_of_evaluate h
    have hsame : (Expr.evaluate (e.dropWhile Text.isBlank) : Except Expr.Error α) =
        Expr.evaluate e :=
      Expr.evaluate_congr (fun c hc => hallowed c ((List.dropWhile_sublist _).mem hc)) hallowed
        (Expr.tokens_dropWhile e)
    rw [hsame]
    constructor
    · rintro - ⟨r, hr, -⟩
      exact hnot r hr
    · intro _
      exact h

end Values

/-! ## What is found -/

theorem extract?_of_bare (h : Spelled e) :
    extract? e = some (Text.collapse (Text.stripWhile isMargin e)) := by
  have hequals : '=' ∉ e := by
    intro hmem
    exact absurd (h.allowed '=' hmem) (by decide)
  have hrun := longestRun?_append [] (by simp)
    (fun c hc => isRunChar_of_isAllowed (h.allowed c hc)) h.digit
  rw [List.nil_append] at hrun
  have hsymbols : ∀ c ∈ Text.stripWhile isMargin e, isSymbol c = true := fun c hc =>
    isSymbol_of_isAllowed (h.allowed c (Text.mem_of_mem_stripWhile hc))
  unfold extract?
  rw [h.wordless.findSome?_triggers, Option.none_or, runBeforeEquals?_eq_none hequals,
    Option.bind_none, Option.none_or, hrun, Option.map_some, replaceWords_of_symbols hsymbols]

end Question

namespace Problem

open Question (LosesPoint spelled_of_evaluate)

variable {α : Type} [Arithmetic α] {e : Text} {v : α}

/-- In an expression on its own there is always an expression to be found.  It has the value of the
whole, and the answer says so, unless the whole starts with a point and has another value without
it. -/
theorem bare_answer_iff (h : Expr.evaluate e = .ok v) :
    ∃ found, Question.extract? e = some (Text.collapse found) ∧
      ((Expr.evaluate (Text.collapse found) = .ok v ∧ answer α e = solved found v) ↔
        ¬ LosesPoint e v) := by
  have hfound := Question.extract?_of_bare (spelled_of_evaluate h)
  have hvalue := Question.evaluate_stripWhile h
  refine ⟨_, hfound, ?_⟩
  rw [← Question.evaluate_withoutFrontPoint_iff h, Expr.evaluate_collapse, hvalue]
  refine ⟨fun hboth => hboth.1, fun hok => ⟨hok, ?_⟩⟩
  have hevaluated : evaluateIn α e = .ok (solved (Text.stripWhile Question.isMargin e) v) :=
    evaluateIn_of_found hfound (by rw [Expr.evaluate_collapse, hvalue, hok])
  unfold answer
  simp only [gated_of_wordless (spelled_of_evaluate h).wordless, List.findSome?_nil, hevaluated]

/-- A point at the front does no harm to a zero, nor one at the end to any number. -/
theorem bare_answer_of_zero :
    Question.extract? " .0*3 + 5. ".toList = some "0*3 + 5".toList ∧
    answer Float " .0*3 + 5. ".toList = "🧮 **Решение:**\n\n`0*3 + 5 = 5`".toList := by
  have hvalue : (Expr.evaluate " .0*3 + 5. ".toList : Except Expr.Error Float) = .ok 5 := by
    decide +kernel
  have hfound : Question.extract? " .0*3 + 5. ".toList = some "0*3 + 5".toList := by
    decide +kernel
  have hkept : ¬ LosesPoint " .0*3 + 5. ".toList (5 : Float) := by
    rintro ⟨r, hr, hother⟩
    cases hr
    exact hother (by decide +kernel)
  obtain ⟨found, hfound', hiff⟩ := bare_answer_iff hvalue
  have hcollapsed : Text.collapse found = "0*3 + 5".toList :=
    Option.some.inj (hfound'.symm.trans hfound)
  have hshown : solved found (5 : Float) = "🧮 **Решение:**\n\n`0*3 + 5 = 5`".toList := by
    unfold solved
    rw [hcollapsed]
    decide +kernel
  exact ⟨hfound, (hiff.2 hkept).2.trans hshown⟩

/-- One half and one: without its point the half is five. -/
theorem bare_answer_loses_half :
    (Expr.evaluate ".5 + 1".toList : Except Expr.Error Float) = .ok 1.5 ∧
    Question.extract? ".5 + 1".toList = some "5 + 1".toList ∧
    (Expr.evaluate "5 + 1".toList : Except Expr.Error Float) = .ok 6 ∧
    answer Float ".5 + 1".toList = "🧮 **Решение:**\n\n`5 + 1 = 6`".toList := by
  decide +kernel

end Problem
end ChatAssistant
