import ChatAssistant.Proofs.Question.Bare

/-!
# Announced expressions

A phrase announces what stands behind it up to its own stop: a question mark for the first of the
triggers, a point for the other two.  No trigger hears another one's phrase, so what is found is the
announced part whenever that has a digit, whatever else it has.  The point is a stop and a part of
numbers too, and here the three triggers part ways: `посчитай 1.5 + 2` announces `1`.

* `extract?_of_digit`, `extract?_of_no_digit` — what is found behind a phrase;
* `CutShort` — the expressions that a stop at a point keeps from being understood;
* `means_iff_not_cutShort` — the value that each of the triggers leads to;
* `Harmless`, `closingFault` — the closing punctuation that does no harm, and what the rest of it
  is refused for;
* `evaluate_closed_iff` — an expression behind a phrase and in front of closing punctuation.
-/

namespace ChatAssistant
namespace Question

variable {c : Char} {e s : Text} {t u : Trigger}

/-! ## Phrases -/

/-- Where all the others find nothing, what is found first is what the one finds. -/
theorem findSome?_of_others {α β : Type} {f : α → Option β} {a : α} {l : List α} (ha : a ∈ l)
    (hothers : ∀ b ∈ l, b = a ∨ f b = none) : l.findSome? f = f a := by
  cases hfa : f a with
  | none =>
      refine List.findSome?_eq_none_iff.2 fun b hb => ?_
      rcases hothers b hb with rfl | hnone
      · exact hfa
      · exact hnone
  | some x =>
      have hsome : (l.findSome? f).isSome = true :=
        List.findSome?_isSome_iff.2 ⟨a, ha, by rw [hfa]; rfl⟩
      obtain ⟨y, hy⟩ := Option.isSome_iff_exists.1 hsome
      obtain ⟨b, hb, hfb⟩ := List.exists_of_findSome?_eq_some hy
      rcases hothers b hb with rfl | hnone
      · rw [hy, ← hfb, hfa]
      · rw [hnone] at hfb
        cases hfb

theorem foldCase_of_isSymbol (h : isSymbol c = true) : Text.foldCase c = c := by
  have hall : ∀ c ∈ "=?".toList, Text.foldCase c = c := by decide
  rcases isSymbol_cases h with hallowed | hmark
  · exact foldCase_of_isAllowed hallowed
  · exact hall c hmark

theorem isSymbol_space_cons (hs : ∀ c ∈ s, isSymbol c = true) :
    ∀ c ∈ ' ' :: s, isSymbol c = true := by
  rw [List.forall_mem_cons]
  exact ⟨by decide, hs⟩

theorem foldCase_of_mem_phrase (ht : t ∈ triggers) : ∀ p ∈ t.phrase, Text.foldCase p = p := by
  have hall : ∀ t ∈ triggers, ∀ p ∈ t.phrase, Text.foldCase p = p := by decide
  exact hall t ht

/-- Letters of a phrase and symbols fold to themselves, and so to no other letter. -/
theorem foldCase_ne {p : Char} {front : Text} (ht : t ∈ triggers)
    (hfront : ∀ c ∈ front, c ∈ t.phrase) (hs : ∀ c ∈ s, isSymbol c = true) (hp : p ∉ front)
    (hletter : isSymbol p = false) : ∀ c ∈ front ++ s, Text.foldCase c ≠ p := by
  intro c hc
  rcases List.mem_append.1 hc with hc | hc
  · rw [foldCase_of_mem_phrase ht c (hfront c hc)]
    rintro rfl
    exact hp hc
  · rw [foldCase_of_isSymbol (hs c hc)]
    rintro rfl
    rw [hs c hc] at hletter
    cases hletter

/-- No trigger hears the phrase of another one. -/
theorem announced?_of_other (ht : t ∈ triggers) (hu : u ∈ triggers)
    (hs : ∀ c ∈ s, isSymbol c = true) : u = t ∨ u.announced? (t.phrase ++ s) = none := by
  have hletters : ∀ t ∈ triggers, ∀ u ∈ triggers, (u.phrase = t.phrase ∧ u.stop = t.stop) ∨
      ∃ p ∈ u.phrase, p ∉ t.phrase ∧ isSymbol p = false := by decide
  rcases hletters t ht u hu with ⟨hphrase, hstop⟩ | ⟨p, hp, habsent, hletter⟩
  · left
    cases t
    cases u
    cases hphrase
    cases hstop
    rfl
  · right
    exact u.announced?_eq_none hp (foldCase_ne ht (fun c hc => hc) hs habsent hletter)

/-- The first letter of a phrase does not come back, so nothing is announced but at the front. -/
theorem announced?_phrase (ht : t ∈ triggers) (hs : ∀ c ∈ s, isSymbol c = true) :
    t.announced? (t.phrase ++ s) = t.announcedAt? (t.phrase ++ s) := by
  have hfirst : ∀ t ∈ triggers, ∃ p ∈ t.phrase,
      t.phrase.head? = some p ∧ p ∉ t.phrase.tail ∧ isSymbol p = false := by decide
  obtain ⟨p, hmem, hp, habsent, hletter⟩ := hfirst t ht
  have hlater : t.announced? (t.phrase.tail ++ s) = none :=
    t.announced?_eq_none hmem
      (foldCase_ne ht (fun c hc => List.mem_of_mem_tail hc) hs habsent hletter)
  have hsplit : t.phrase ++ s = p :: (t.phrase.tail ++ s) := by
    rw [← List.cons_append, List.cons_head?_tail hp]
  rw [hsplit]
  unfold Trigger.announced? at *
  rw [Text.findFirst?, hlater, Option.or_none]

/-- The candidate of a phrase at the front is what stands behind it, up to its stop. -/
theorem withDigit?_announced (ht : t ∈ triggers) (hs : ∀ c ∈ s, isSymbol c = true) :
    (t.announced? (t.phrase ++ ' ' :: s)).bind withDigit? =
      withDigit? (s.takeWhile (· != t.stop)) := by
  have hstops : ∀ t ∈ triggers, Text.isBlank t.stop = false := by decide
  obtain ⟨hannounced, hblank⟩ :=
    t.announcedAt?_phrase (foldCase_of_mem_phrase ht) (hstops t ht) s
  rw [announced?_phrase ht (isSymbol_space_cons hs), ← withDigit?_dropWhile (s.takeWhile _)]
  by_cases hnil : (s.takeWhile (· != t.stop)).dropWhile Text.isBlank = []
  · -- neither nothing nor blanks have a digit
    have hnone : withDigit? [] = none := withDigit?_of_symbols (by simp)
    rw [hnil, hnone]
    cases hx : t.announcedAt? (t.phrase ++ ' ' :: s) with
    | none => rfl
    | some x =>
        have hx' : x.dropWhile Text.isBlank = [] :=
          List.dropWhile_eq_nil_iff.2 (List.all_eq_true.1 (hblank hnil x hx))
        rw [Option.bind_some, ← withDigit?_dropWhile, hx', hnone]
  · rw [hannounced hnil, Option.bind_some]

/-! ## What is found -/

theorem extract?_phrase (ht : t ∈ triggers) (hs : ∀ c ∈ s, isSymbol c = true) :
    extract? (t.phrase ++ ' ' :: s) =
      (withDigit? (s.takeWhile (· != t.stop))).or
        (((runBeforeEquals? (t.phrase ++ ' ' :: s)).bind withDigit?).or
          ((longestRun? (t.phrase ++ ' ' :: s)).map replaceWords)) := by
  unfold extract?
  rw [findSome?_of_others ht, withDigit?_announced ht hs]
  intro u hu
  rcases announced?_of_other ht hu (isSymbol_space_cons hs) with rfl | hnone
  · exact .inl rfl
  · exact .inr (by rw [hnone, Option.bind_none])

/-- An announced part with a digit is what is found, and nothing else is tried. -/
theorem extract?_of_digit (ht : t ∈ triggers) (hs : ∀ c ∈ s, isSymbol c = true)
    (hdigit : Text.hasDigit (s.takeWhile (· != t.stop)) = true) :
    extract? (t.phrase ++ ' ' :: s) = some (Text.collapse (s.takeWhile (· != t.stop))) := by
  have hannounced : ∀ c ∈ s.takeWhile (· != t.stop), isSymbol c = true := fun c hc =>
    hs c ((List.takeWhile_sublist _).mem hc)
  rw [extract?_phrase ht hs, withDigit?_of_symbols hannounced, if_pos hdigit, Option.some_or]

/-- Without a digit in the announced part, an expression behind a single word is found as on its
own. -/
theorem extract?_of_no_digit (ht : t ∈ triggers) (hword : ∀ c ∈ t.phrase, isRunChar c = false)
    (h : Spelled e) (hdigit : Text.hasDigit (e.takeWhile (· != t.stop)) = false) :
    extract? (t.phrase ++ ' ' :: e) = some (Text.collapse (Text.stripWhile isMargin e)) := by
  have hsymbols : ∀ c ∈ e, isSymbol c = true := fun c hc => isSymbol_of_isAllowed (h.allowed c hc)
  have hannounced : ∀ c ∈ e.takeWhile (· != t.stop), isSymbol c = true := fun c hc =>
    hsymbols c ((List.takeWhile_sublist _).mem hc)
  have hstripped : ∀ c ∈ Text.stripWhile isMargin e, isSymbol c = true := fun c hc =>
    hsymbols c (Text.mem_of_mem_stripWhile hc)
  have hequals : '=' ∉ t.phrase ++ ' ' :: e := by
    have hphrases : ∀ t ∈ triggers, '=' ∉ t.phrase := by decide
    rw [List.mem_append, List.mem_cons]
    rintro (hmem | heq | hmem)
    · exact hphrases t ht hmem
    · cases heq
    · exact absurd (h.allowed '=' hmem) (by decide)
  have hrun : longestRun? (t.phrase ++ ' ' :: e) = some (Text.stripWhile isMargin e) := by
    have hback : ∀ c ∈ ' ' :: e, isRunChar c = true := by
      rw [List.forall_mem_cons]
      exact ⟨by decide, fun c hc => isRunChar_of_isAllowed (h.allowed c hc)⟩
    have hback' : Text.hasDigit (' ' :: e) = true := h.digit
    rw [longestRun?_append t.phrase hword hback hback']
    unfold Text.stripWhile
    rw [List.dropWhile_cons_of_pos (by decide)]
  rw [extract?_phrase ht hsymbols, withDigit?_of_symbols hannounced, hdigit, if_neg (by decide),
    Option.none_or, runBeforeEquals?_eq_none hequals, Option.bind_none, Option.none_or, hrun,
    Option.map_some, replaceWords_of_symbols hstripped]

/-! ## Points in numbers -/

section Values

variable {α : Type} [Arithmetic α] {v : α}

/-- The text leads to the value: what is found in it has that value. -/
def Means (text : Text) (v : α) : Prop := ∃ x, extract? text = some x ∧ Expr.evaluate x = .ok v

theorem means_iff_of_extract? (h : extract? s = some (Text.collapse e)) :
    Means s v ↔ Expr.evaluate e = .ok v := by
  unfold Means
  simp only [h, Option.some.injEq, exists_eq_left', Expr.evaluate_collapse]

/-- The two commands that stop at a point. -/
def commands : List Text := ["посчитай ".toList, "вычисли ".toList]

theorem exists_trigger_of_mem_commands {w : Text} (hw : w ∈ commands) :
    ∃ t ∈ triggers, t.stop = '.' ∧ w = t.phrase ++ [' '] ∧ ∀ c ∈ t.phrase, isRunChar c = false := by
  have hall : ∀ w ∈ commands, ∃ t ∈ triggers,
      t.stop = '.' ∧ w = t.phrase ++ [' '] ∧ ∀ c ∈ t.phrase, isRunChar c = false := by decide
  exact hall w hw

/-- The part of an expression in front of its first point. -/
def beforePoint (e : Text) : Text := e.takeWhile (· != '.')

/-- Behind a command something other than the expression is understood: the part in front of its
first point, or the expression without the point at its front. -/
inductive CutShort (e : Text) (v : α) : Prop where
  | stopped (digit : Text.hasDigit (beforePoint e) = true)
      (other : Expr.evaluate (beforePoint e) ≠ .ok v)
  | trimmed (lost : LosesPoint e v)

/-- In front of a point at the front there is no digit. -/
theorem hasDigit_beforePoint_of_front {r : Text} (h : e.dropWhile Text.isBlank = '.' :: r) :
    Text.hasDigit (beforePoint e) = false := by
  have hblank : (beforePoint e).dropWhile Text.isBlank = [] := by
    unfold beforePoint
    rw [← Text.takeWhile_dropWhile, h, List.takeWhile_cons_of_neg (by decide)]
    intro c hc
    rw [bne_iff_ne]
    rintro rfl
    exact absurd hc (by decide)
  rw [Bool.eq_false_iff]
  intro hdigit
  exact dropWhile_ne_nil_of_hasDigit hdigit hblank

theorem means_command_iff {w : Text} (hw : w ∈ commands) (h : Expr.evaluate e = .ok v) :
    Means (w ++ e) v ↔ ¬ CutShort e v := by
  obtain ⟨t, ht, hstop, rfl, hword⟩ := exists_trigger_of_mem_commands hw
  have hspelled := spelled_of_evaluate h
  have hbefore : e.takeWhile (· != t.stop) = beforePoint e := by rw [hstop]; rfl
  rw [List.append_assoc, List.singleton_append]
  cases hdigit : Text.hasDigit (beforePoint e) with
  | true =>
      have hfound := extract?_of_digit ht
        (fun c hc => isSymbol_of_isAllowed (hspelled.allowed c hc)) (hbefore ▸ hdigit)
      rw [means_iff_of_extract? hfound, hbefore]
      constructor
      · rintro hvalue (⟨-, hother⟩ | ⟨r, hr, -⟩)
        · exact hother hvalue
        · rw [hasDigit_beforePoint_of_front hr] at hdigit
          cases hdigit
      · intro hkept
        by_contra hother
        exact hkept (.stopped hdigit hother)
  | false =>
      have hfound := extract?_of_no_digit ht hword hspelled (hbefore ▸ hdigit)
      rw [means_iff_of_extract? hfound, evaluate_stripWhile h, evaluate_withoutFrontPoint_iff h]
      constructor
      · rintro hkept (⟨hdigit', -⟩ | hlost)
        · rw [hdigit] at hdigit'
          cases hdigit'
        · exact hkept hlost
      · exact fun hkept hlost => hkept (.trimmed hlost)

/-- A question leads to the value of its expression, and a command does so exactly if no point cuts
the expression short. -/
theorem means_iff_not_cutShort (h : Expr.evaluate e = .ok v) :
    Means (asking ++ e) v ∧ ∀ w ∈ commands, (Means (w ++ e) v ↔ ¬ CutShort e v) := by
  refine ⟨?_, fun w hw => means_command_iff hw h⟩
  rw [means_iff_of_extract? (extract?_of_posed (spelled_of_evaluate h) .asked)]
  exact h

/-- A point behind a bracket, with no digit in front of it. -/
theorem means_half_in_brackets : Means "вычисли (.5+1)*2".toList (3 : Float) := by
  have hvalue : Expr.evaluate "(.5+1)*2".toList = .ok (3 : Float) := by decide +kernel
  have hkept : ¬ CutShort "(.5+1)*2".toList (3 : Float) := by
    rintro (⟨hdigit, -⟩ | ⟨r, hr, -⟩)
    · exact absurd hdigit (by decide)
    · cases hr
  have hcommand : "вычисли ".toList ∈ commands := by decide
  exact ((means_iff_not_cutShort hvalue).2 _ hcommand).2 hkept

/-- One and a half is cut down to one, and nothing is left of the sum. -/
theorem command_cuts_one_and_half :
    Expr.evaluate "1.5 + 2".toList = .ok (3.5 : Float) ∧
    extract? "сколько будет 1.5 + 2".toList = some "1.5 + 2".toList ∧
    extract? "посчитай 1.5 + 2".toList = some "1".toList ∧
    Expr.evaluate "1".toList = .ok (1 : Float) ∧ (1 : Float) ≠ 3.5 := by
  decide +kernel

/-! ## Closing punctuation -/

/-- What may stand behind an expression at the end of a question or of a sentence. -/
def closings : List Text := [[], "?".toList, "=".toList, " = ?".toList, ".".toList]

/-- There is no punctuation, or it is the stop of the trigger, or it is a point that belongs to the
last number. -/
def Harmless (t : Trigger) (e s : Text) : Prop :=
  s = [] ∨ s = [t.stop] ∨ (s = ['.'] ∧ Expr.EndsInDigit e)

/-- What is wrong with an expression in front of punctuation that does harm: the first character
that has no place in expressions, or a point that is no number. -/
def closingFault (s : Text) : Expr.Error :=
  match s.find? (!Expr.isAllowed ·) with
  | some c => .invalidCharacter c
  | none => .malformedNumber ['.']

/-- What a phrase announces of the punctuation: nothing up to its own stop, a point, or something
that starts like the whole of it with a character that has no place in expressions. -/
theorem announced_closing (ht : t ∈ triggers) (hs : s ∈ closings) :
    ((s = [] ∨ s = [t.stop]) ∧ s.takeWhile (· != t.stop) = []) ∨
    (s = ['.'] ∧ s ≠ [t.stop] ∧ s.takeWhile (· != t.stop) = ['.']) ∨
    ((s ≠ [] ∧ s ≠ [t.stop] ∧ s ≠ ['.']) ∧ (s.find? (!Expr.isAllowed ·)).isSome = true ∧
      (s.takeWhile (· != t.stop)).find? (!Expr.isAllowed ·) = s.find? (!Expr.isAllowed ·)) := by
  have hall : ∀ t ∈ triggers, ∀ s ∈ closings,
      ((s = [] ∨ s = [t.stop]) ∧ s.takeWhile (· != t.stop) = []) ∨
      (s = ['.'] ∧ s ≠ [t.stop] ∧ s.takeWhile (· != t.stop) = ['.']) ∨
      ((s ≠ [] ∧ s ≠ [t.stop] ∧ s ≠ ['.']) ∧ (s.find? (!Expr.isAllowed ·)).isSome = true ∧
        (s.takeWhile (· != t.stop)).find? (!Expr.isAllowed ·) =
          s.find? (!Expr.isAllowed ·)) := by decide
  exact hall t ht s hs

theorem evaluate_append_foreign (h : ∀ c ∈ e, Expr.isAllowed c = true)
    (hfind : s.find? (!Expr.isAllowed ·) = some c) :
    (Expr.evaluate (e ++ s) : Except Expr.Error α) = .error (.invalidCharacter c) := by
  have hnone : e.find? (!Expr.isAllowed ·) = none := by
    rw [List.find?_eq_none]
    intro d hd
    simp [h d hd]
  rw [Expr.evaluate_eq_invalidCharacter_iff, Expr.firstForeign_iff, List.find?_append, hnone,
    Option.none_or, hfind]

/-- A point behind an expression without points belongs to its last number, or to none. -/
theorem evaluate_append_point (h : Expr.evaluate e = .ok v) (hpoint : '.' ∉ e) :
    (Expr.EndsInDigit e → Expr.evaluate (e ++ ['.']) = .ok v) ∧
    (¬ Expr.EndsInDigit e →
      (Expr.evaluate (e ++ ['.']) : Except Expr.Error α) = .error (.malformedNumber ['.'])) := by
  have hallowed := Expr.isAllowed_of_evaluate h
  have hallowed' : ∀ c ∈ e ++ ['.'], Expr.isAllowed c = true := by
    intro c hc
    rcases List.mem_append.1 hc with hc | hc
    · exact hallowed c hc
    · obtain rfl := List.mem_singleton.1 hc
      decide
  obtain ⟨ts, hts⟩ := Expr.exists_tokens_of_evaluate h
  constructor
  · intro hend
    rw [Expr.evaluate_congr hallowed' hallowed (Expr.tokens_append_point hpoint hend), h]
  · intro hend
    unfold Expr.evaluate
    rw [Expr.parse_of_allowed hallowed', Expr.tokens_append_lone_point hpoint hend hts]
    rfl

/-- Up to the stop of the phrase, the punctuation is found with the expression. -/
theorem extract?_closed (h : Spelled e) (hpoint : '.' ∉ e) (ht : t ∈ triggers) (hs : s ∈ closings) :
    extract? (t.phrase ++ ' ' :: (e ++ s)) =
      some (Text.collapse (e ++ s.takeWhile (· != t.stop))) := by
  have hstop : ∀ c ∈ e, (c != t.stop) = true := by
    have hstops : ∀ t ∈ triggers, t.stop = '.' ∨ Expr.isAllowed t.stop = false := by decide
    intro c hc
    rw [bne_iff_ne]
    rintro rfl
    rcases hstops t ht with hstop | hforeign
    · exact hpoint (hstop ▸ hc)
    · rw [h.allowed _ hc] at hforeign
      cases hforeign
  have hsymbols : ∀ c ∈ e ++ s, isSymbol c = true := by
    have hall : ∀ s ∈ closings, ∀ c ∈ s, isSymbol c = true := by decide
    intro c hc
    rcases List.mem_append.1 hc with hc | hc
    · exact isSymbol_of_isAllowed (h.allowed c hc)
    · exact hall s hs c hc
  have htaken : (e ++ s).takeWhile (· != t.stop) = e ++ s.takeWhile (· != t.stop) :=
    List.takeWhile_append_of_pos hstop
  have hdigit : Text.hasDigit ((e ++ s).takeWhile (· != t.stop)) = true := by
    have hdigit' : e.any Text.isDigit = true := h.digit
    rw [htaken, Text.hasDigit, List.any_append, hdigit', Bool.true_or]
  rw [extract?_of_digit ht hsymbols hdigit, htaken]

/-- With what is announced of the punctuation, an expression keeps its value exactly if the
punctuation is harmless. -/
theorem evaluate_announced_closing (h : Expr.evaluate e = .ok v) (hpoint : '.' ∉ e)
    (ht : t ∈ triggers) (hs : s ∈ closings) :
    (Expr.evaluate (e ++ s.takeWhile (· != t.stop)) = .ok v ↔ Harmless t e s) ∧
    (¬ Harmless t e s →
      (Expr.evaluate (e ++ s.takeWhile (· != t.stop)) : Except Expr.Error α) =
        .error (closingFault s)) := by
  rcases announced_closing ht hs with ⟨hquiet, hnone⟩ | ⟨rfl, hother, hkept⟩ |
    ⟨⟨hne, hother, hpoint'⟩, hsome, hsame⟩
  · have hharmless : Harmless t e s := hquiet.imp_right .inl
    rw [hnone, List.append_nil]
    exact ⟨iff_of_true h hharmless, fun hnot => absurd hharmless hnot⟩
  · have hiff : Harmless t e ['.'] ↔ Expr.EndsInDigit e := by
      unfold Harmless
      simp [hother]
    have hfault : closingFault ['.'] = .malformedNumber ['.'] := by decide
    obtain ⟨hvalue, herror⟩ := evaluate_append_point h hpoint
    rw [hkept, hiff, hfault]
    refine ⟨⟨fun hok => ?_, hvalue⟩, herror⟩
    by_contra hend
    rw [herror hend] at hok
    cases hok
  · have hharm : ¬ Harmless t e s := by
      rintro (hnil | hstop | ⟨hpoint'', -⟩)
      · exact hne hnil
      · exact hother hstop
      · exact hpoint' hpoint''
    obtain ⟨c, hc⟩ := Option.isSome_iff_exists.1 hsome
    have herror := evaluate_append_foreign (α := α) (Expr.isAllowed_of_evaluate h) (hsame.trans hc)
    have hfault : closingFault s = .invalidCharacter c := by
      unfold closingFault
      rw [hc]
    rw [herror, hfault]
    refine ⟨iff_of_false (fun hok => ?_) hharm, fun _ => rfl⟩
    cases hok

/-- Behind a phrase and in front of closing punctuation there is always an expression to be found.
It has the value of the one in between exactly if the punctuation is harmless, and otherwise the
punctuation is what it is refused for. -/
theorem evaluate_closed_iff (h : Expr.evaluate e = .ok v) (hpoint : '.' ∉ e) (ht : t ∈ triggers)
    (hs : s ∈ closings) :
    ∃ x, extract? (t.phrase ++ ' ' :: (e ++ s)) = some x ∧
      (Expr.evaluate x = .ok v ↔ Harmless t e s) ∧
      (¬ Harmless t e s →
        (Expr.evaluate x : Except Expr.Error α) = .error (closingFault s)) := by
  refine ⟨_, extract?_closed (spelled_of_evaluate h) hpoint ht hs, ?_⟩
  rw [Expr.evaluate_collapse]
  exact evaluate_announced_closing h hpoint ht hs

/-- A point at the end of a question belongs to the number in front of it. -/
theorem evaluate_closed_by_point :
    ∃ x, extract? "сколько будет 2*(3 + 1) - 1.".toList = some x ∧
      Expr.evaluate x = .ok (7 : Float) := by
  have hvalue : Expr.evaluate "2*(3 + 1) - 1".toList = .ok (7 : Float) := by decide +kernel
  have hpoint : '.' ∉ "2*(3 + 1) - 1".toList := by decide
  have htrigger : (⟨"сколько будет".toList, '?'⟩ : Trigger) ∈ triggers := List.mem_cons_self
  have hclosing : ".".toList ∈ closings := by decide
  have hharmless : Harmless ⟨"сколько будет".toList, '?'⟩ "2*(3 + 1) - 1".toList ".".toList :=
    .inr (.inr ⟨rfl, '1', rfl, by decide⟩)
  obtain ⟨x, hx, hiff, -⟩ := evaluate_closed_iff hvalue hpoint htrigger hclosing
  exact ⟨x, hx, hiff.2 hharmless⟩

/-- A question mark behind a command, an equals sign in a question, and a point behind a bracket. -/
theorem closings_do_harm :
    Expr.evaluate "2+2".toList = .ok (4 : Float) ∧
    extract? "посчитай 2+2?".toList = some "2+2?".toList ∧
    (Expr.evaluate "2+2?".toList : Except Expr.Error Float) = .error (.invalidCharacter '?') ∧
    extract? "сколько будет 2+2 = ?".toList = some "2+2 =".toList ∧
    (Expr.evaluate "2+2 =".toList : Except Expr.Error Float) = .error (.invalidCharacter '=') ∧
    Expr.evaluate "(2+2)".toList = .ok (4 : Float) ∧
    extract? "сколько будет (2+2).".toList = some "(2+2).".toList ∧
    (Expr.evaluate "(2+2).".toList : Except Expr.Error Float) =
      .error (.malformedNumber ".".toList) := by
  decide +kernel

end Values

end Question
end ChatAssistant
