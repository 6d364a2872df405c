import ChatAssistant.Problem.Answer
import ChatAssistant.Proofs.Expr.Screening
import ChatAssistant.Proofs.Text.Lowercase
import ChatAssistant.Proofs.Text.Substring
import Mathlib.Data.List.DropRight

/-!
# Expressions in plain questions

An expression can be posed in three plain ways: behind the words that ask for it, with or without a
question mark and more text behind it, or in front of an equals sign.  Each time the text that is
found is the expression itself with its blanks collapsed, so the answer is the value that it has on
its own.

* `Spelled` — the texts that may be expressions;
* `Trigger.announcedAt?_phrase` — what a phrase at the front of a question announces;
* `runBeforeEquals?_append` — what stands in front of an equals sign;
* `Posed` — the three ways;
* `answer_of_posed` — the answer to each of them.
-/

namespace ChatAssistant

/-! ## Searching in vain, and at once -/

namespace Text

variable {p : Char} {phrase s : Text} {α : Type} {step : Text → Option α} {a : α}

/-- A phrase with a character that nothing in the text folds to does not stand at its front. -/
theorem dropPhrase?_eq_none (hp : p ∈ phrase) (hs : ∀ c ∈ s, foldCase c ≠ p) :
    dropPhrase? phrase s = none := by
  induction phrase generalizing s with
  | nil => cases hp
  | cons q phrase ih =>
      cases s with
      | nil => rfl
      | cons c s =>
          rw [dropPhrase?]
          split
          · rename_i hfold
            rcases List.mem_cons.1 hp with rfl | hp
            · exact absurd hfold (hs c List.mem_cons_self)
            · exact ih hp fun d hd => hs d (List.mem_cons_of_mem _ hd)
          · rfl

theorem dropPhrase?_append (h : ∀ p ∈ phrase, foldCase p = p) (s : Text) :
    dropPhrase? phrase (phrase ++ s) = some s := by
  induction phrase with
  | nil => cases s <;> rfl
  | cons p phrase ih =>
      rw [List.cons_append, dropPhrase?, if_pos (h p List.mem_cons_self)]
      exact ih fun q hq => h q (List.mem_cons_of_mem _ hq)

theorem findFirst?_eq_none (h : ∀ t, t <:+ s → step t = none) : findFirst? step s = none := by
  induction s with
  | nil => exact h [] List.suffix_rfl
  | cons c s ih =>
      rw [findFirst?, h (c :: s) List.suffix_rfl, Option.none_or]
      exact ih fun t ht => h t (ht.trans (List.suffix_cons c s))

/-- What is found at the very front is the first. -/
theorem findFirst?_of_front (h : step s = some a) : findFirst? step s = some a := by
  cases s with
  | nil => exact h
  | cons c s => rw [findFirst?, h, Option.some_or]

theorem mem_of_mem_stripWhile {q : Char → Bool} {c : Char} (h : c ∈ stripWhile q s) : c ∈ s :=
  (stripWhile_isInfix q s).subset h

end Text

namespace Question

open ChatAssistant.Expr (isAllowed)

variable {c : Char} {e s : Text}

/-! ## Characters of expressions -/

/-- The text may be an expression, and there is a digit in it. -/
structure Spelled (e : Text) : Prop where
  allowed : ∀ c ∈ e, isAllowed c = true
  digit : Text.hasDigit e = true

theorem isAllowed_iff : isAllowed c = true ↔ Text.isBlank c = true ∨ c ∈ Expr.alphabet := by
  unfold isAllowed
  rw [Bool.or_eq_true, List.contains_iff_mem]

theorem stays_of_isAllowed (h : isAllowed c = true) : Text.Stays c := by
  have hall : ∀ c ∈ Expr.alphabet, Text.Stays c := by decide +kernel
  rcases isAllowed_iff.1 h with hblank | hmem
  · exact Text.stays_of_isBlank hblank
  · exact hall c hmem

theorem foldCase_of_isAllowed (h : isAllowed c = true) : Text.foldCase c = c := by
  have hall : ∀ c ∈ Expr.alphabet, Text.foldCase c = c := by decide
  rcases isAllowed_iff.1 h with hblank | hmem
  · exact Text.foldCase_of_isBlank hblank
  · exact hall c hmem

theorem isRunChar_of_isAllowed (h : isAllowed c = true) : isRunChar c = true := by
  have hall : ∀ c ∈ Expr.alphabet, isRunChar c = true := by decide
  rcases isAllowed_iff.1 h with hblank | hmem
  · simp [isRunChar, hblank]
  · exact hall c hmem

/-- Characters of expressions, and the marks that stand behind them in questions. -/
def isSymbol (c : Char) : Bool := isAllowed c || "=?".toList.contains c

theorem isSymbol_of_isAllowed (h : isAllowed c = true) : isSymbol c = true := by
  simp [isSymbol, h]

theorem isSymbol_cases (h : isSymbol c = true) : isAllowed c = true ∨ c ∈ "=?".toList := by
  unfold isSymbol at h
  rwa [Bool.or_eq_true, List.contains_iff_mem] at h

theorem stays_of_isSymbol (h : isSymbol c = true) : Text.Stays c := by
  have hall : ∀ c ∈ "=?".toList, Text.Stays c := by decide +kernel
  rcases isSymbol_cases h with hallowed | hmark
  · exact stays_of_isAllowed hallowed
  · exact hall c hmark

/-! ## Word operators -/

/-- Replacing phrases that do not stand in a text, one after the other, does nothing. -/
theorem foldl_replaceAll {operators : List (Text × Text)}
    (h : ∀ w ∈ operators, Text.contains w.1 s = false) :
    operators.foldl (fun t w => Text.replaceAll w.1 w.2 t) s = s := by
  induction operators with
  | nil => rfl
  | cons w operators ih =>
      rw [List.foldl_cons, Text.replaceAll_of_not_contains (h w List.mem_cons_self)]
      exact ih fun w' hw' => h w' (List.mem_cons_of_mem _ hw')

/-- Among symbols there are no words to replace, only blanks to collapse. -/
theorem replaceWords_of_symbols (h : ∀ c ∈ s, isSymbol c = true) :
    replaceWords s = Text.collapse s := by
  have htrim : ∀ c ∈ Text.trim s, isSymbol c = true := fun c hc =>
    h c (Text.mem_of_mem_stripWhile hc)
  have hlower : Text.lowercase (Text.trim s) = Text.trim s :=
    Text.lowercase_eq_self fun c hc => stays_of_isSymbol (htrim c hc)
  have hpadded : ∀ c ∈ ' ' :: Text.trim s ++ [' '], isSymbol c = true := by
    intro c hc
    rcases List.mem_append.1 hc with hc | hc
    · rcases List.mem_cons.1 hc with rfl | hc
      · decide
      · exact htrim c hc
    · obtain rfl := List.mem_singleton.1 hc
      decide
  have hnone : ∀ w ∈ wordOperators, Text.contains w.1 (' ' :: Text.trim s ++ [' ']) = false := by
    have hletter : ∀ w ∈ wordOperators, ∃ c ∈ w.1, isSymbol c = false := by decide
    intro w hw
    obtain ⟨c, hc, hforeign⟩ := hletter w hw
    apply Text.contains_eq_false_of_not_mem hc
    intro hmem
    rw [hpadded c hmem] at hforeign
    cases hforeign
  have hwords : Text.words (' ' :: Text.trim s ++ [' ']) = Text.words s := by
    have hspace : Text.isBlankText [' '] = true := by decide
    have hworded := (Text.worded_words (Text.trim s)).blanks_append hspace
    calc
      Text.words (' ' :: Text.trim s ++ [' ']) = Text.words (Text.trim s) :=
          (hworded.append_blanks hspace).words_eq
      _ = Text.words s := Text.words_trim s
  calc
    replaceWords s = Text.collapse (wordOperators.foldl (fun t w => Text.replaceAll w.1 w.2 t)
        (' ' :: Text.lowercase (Text.trim s) ++ [' '])) := rfl
    _ = Text.collapse (' ' :: Text.trim s ++ [' ']) := by rw [hlower, foldl_replaceAll hnone]
    _ = Text.collapse s := by rw [Text.collapse, hwords, Text.collapse]

/-- A digit is no blank. -/
theorem isBlank_of_isDigit (h : Text.isDigit c = true) : Text.isBlank c = false :=
  Expr.isBlank_of_isLiteralChar (by simp [Decimal.isLiteralChar, h])

/-- Collapsing the blanks of a text leaves its digits. -/
theorem hasDigit_collapse (s : Text) : Text.hasDigit (Text.collapse s) = Text.hasDigit s := by
  rw [Bool.eq_iff_iff]
  unfold Text.hasDigit
  rw [List.any_eq_true, List.any_eq_true]
  exact exists_congr fun d => and_congr_left fun hdigit =>
    Text.mem_collapse_iff (isBlank_of_isDigit hdigit)

/-- A text with a digit is not all blanks. -/
theorem dropWhile_ne_nil_of_hasDigit (h : Text.hasDigit s = true) :
    s.dropWhile Text.isBlank ≠ [] := by
  intro hnil
  obtain ⟨d, hd, hdigit⟩ := List.any_eq_true.1 h
  have hblank := List.dropWhile_eq_nil_iff.1 hnil d hd
  rw [isBlank_of_isDigit hdigit] at hblank
  cases hblank

theorem withDigit?_of_symbols (h : ∀ c ∈ s, isSymbol c = true) :
    withDigit? s = if Text.hasDigit s then some (Text.collapse s) else none := by
  unfold withDigit?
  rw [replaceWords_of_symbols h]
  dsimp only
  rw [hasDigit_collapse]

theorem withDigit?_of_spelled (h : Spelled e) : withDigit? e = some (Text.collapse e) := by
  rw [withDigit?_of_symbols fun c hc => isSymbol_of_isAllowed (h.allowed c hc), if_pos h.digit]

/-- Candidates are trimmed, so blanks in front of one make no difference. -/
theorem withDigit?_dropWhile (s : Text) : withDigit? (s.dropWhile Text.isBlank) = withDigit? s := by
  have htrim : Text.trim (s.dropWhile Text.isBlank) = Text.trim s := by
    unfold Text.trim Text.stripWhile
    rw [List.dropWhile_idempotent]
  unfold withDigit? replaceWords
  rw [htrim]

/-! ## Candidates -/

/-- A phrase at the front of a text announces what stands behind it, up to the stop.  If that is
nothing but blanks, blanks are all it announces. -/
theorem Trigger.announcedAt?_phrase (t : Trigger) (hphrase : ∀ p ∈ t.phrase, Text.foldCase p = p)
    (hstop : Text.isBlank t.stop = false) (s : Text) :
    ((s.takeWhile (· != t.stop)).dropWhile Text.isBlank ≠ [] →
      t.announcedAt? (t.phrase ++ ' ' :: s) =
        some ((s.takeWhile (· != t.stop)).dropWhile Text.isBlank)) ∧
    ((s.takeWhile (· != t.stop)).dropWhile Text.isBlank = [] →
      ∀ x ∈ t.announcedAt? (t.phrase ++ ' ' :: s), Text.isBlankText x = true) := by
  have hblanks : ∃ last ∈ ((' ' :: s).takeWhile Text.isBlank).getLast?,
      Text.isBlank last = true := by
    rw [List.takeWhile_cons_of_pos Text.isBlank_space, List.getLast?_cons]
    refine ⟨_, rfl, ?_⟩
    cases hlast : (s.takeWhile Text.isBlank).getLast? with
    | none => exact Text.isBlank_space
    | some last => exact List.mem_takeWhile_imp (List.mem_of_getLast? hlast)
  have hannounced : ((' ' :: s).dropWhile Text.isBlank).takeWhile (· != t.stop) =
      (s.takeWhile (· != t.stop)).dropWhile Text.isBlank := by
    rw [List.dropWhile_cons_of_pos Text.isBlank_space]
    apply Text.takeWhile_dropWhile
    intro c hc
    rw [bne_iff_ne]
    rintro rfl
    rw [hstop] at hc
    cases hc
  obtain ⟨last, hlast, hblank⟩ := hblanks
  unfold Trigger.announcedAt?
  rw [Text.dropPhrase?_append hphrase]
  simp only [Option.bind_eq_bind, Option.bind_some, Option.mem_def.1 hlast, hannounced]
  constructor
  · intro hne
    exact if_pos (by simp [hne])
  · intro hnil x hx
    rw [hnil] at hx
    simp only [List.isEmpty_nil, Bool.not_true, Bool.false_eq_true, if_false] at hx
    split at hx
    · cases hx
      simp [Text.isBlankText, hblank]
    · cases hx

/-- Nothing is announced in a text that lacks a letter of the phrase. -/
theorem Trigger.announced?_eq_none (t : Trigger) {p : Char} (hp : p ∈ t.phrase)
    (hs : ∀ c ∈ s, Text.foldCase c ≠ p) : t.announced? s = none := by
  apply Text.findFirst?_eq_none
  intro r hr
  unfold Trigger.announcedAt?
  rw [Text.dropPhrase?_eq_none hp fun c hc => hs c (hr.subset hc)]
  rfl

/-- An expression in front of an equals sign is a run, all of it. -/
theorem runBeforeEquals?_append (h : Spelled e) (behind : Text) :
    runBeforeEquals? (e ++ '=' :: behind) = some e := by
  have hequals : ¬ isRunChar '=' = true := by decide
  cases e with
  | nil => cases h.digit
  | cons c r =>
      have hc : isRunChar c = true := isRunChar_of_isAllowed (h.allowed c List.mem_cons_self)
      have hr : ∀ d ∈ r, isRunChar d = true := fun d hd =>
        isRunChar_of_isAllowed (h.allowed d (List.mem_cons_of_mem _ hd))
      have hfront : (c :: r ++ '=' :: behind).dropWhile (!isRunChar ·) =
          c :: (r ++ '=' :: behind) := List.dropWhile_cons_of_neg (by simp [hc])
      have htake : (r ++ '=' :: behind).takeWhile isRunChar = r := by
        rw [List.takeWhile_append_of_pos hr, List.takeWhile_cons_of_neg hequals, List.append_nil]
      have hdrop : (r ++ '=' :: behind).dropWhile isRunChar = '=' :: behind := by
        rw [List.dropWhile_append_of_pos hr, List.dropWhile_cons_of_neg hequals]
      rw [runBeforeEquals?]
      split
      · rename_i hnil
        rw [hfront] at hnil
        cases hnil
      · rename_i hcons
        rw [hfront] at hcons
        cases hcons
        simp only [htake, hdrop, h.digit]
        rfl

/-! ## Posed expressions -/

/-- The words that ask for an expression. -/
def asking : Text := "сколько будет ".toList

/-- The text poses `e`: it asks for it, up to the end or up to a question mark, or puts it in front
of an equals sign. -/
inductive Posed (e : Text) : Text → Prop where
  | asked : Posed e (asking ++ e)
  | askedThen (tail : Text) : Posed e (asking ++ e ++ '?' :: tail)
  | equated : Posed e (e ++ ['='])

/-- The phrase holds a character that neither an expression nor an equals sign has. -/
def IsWord (phrase : Text) : Prop := ∃ p ∈ phrase, isAllowed p = false ∧ p ≠ '='

instance (phrase : Text) : Decidable (IsWord phrase) :=
  inferInstanceAs (Decidable (∃ p ∈ phrase, isAllowed p = false ∧ p ≠ '='))

/-- The text has nothing in it but characters of expressions and equals signs. -/
def Wordless (s : Text) : Prop := ∀ c ∈ s, isAllowed c = true ∨ c = '='

theorem Spelled.wordless (h : Spelled e) : Wordless e := fun c hc => .inl (h.allowed c hc)

theorem Spelled.wordless_equated (h : Spelled e) : Wordless (e ++ ['=']) := by
  intro c hc
  rcases List.mem_append.1 hc with hc | hc
  · exact .inl (h.allowed c hc)
  · exact .inr (List.mem_singleton.1 hc)

theorem IsWord.exists_not_mem {phrase : Text} (hphrase : IsWord phrase) (h : Wordless s) :
    ∃ p ∈ phrase, p ∉ s := by
  obtain ⟨p, hp, hforeign, hequals⟩ := hphrase
  refine ⟨p, hp, ?_⟩
  intro hmem
  rcases h p hmem with hallowed | rfl
  · rw [hallowed] at hforeign
    cases hforeign
  · exact hequals rfl

namespace Wordless

/-- Without words a text is all in lower case. -/
theorem stays (h : Wordless s) (hc : c ∈ s) : Text.Stays c := by
  rcases h c hc with hallowed | rfl
  · exact stays_of_isAllowed hallowed
  · decide +kernel

theorem foldCase_eq (h : Wordless s) (hc : c ∈ s) : Text.foldCase c = c := by
  rcases h c hc with hallowed | rfl
  · exact foldCase_of_isAllowed hallowed
  · decide

/-- Nothing is announced in it. -/
theorem findSome?_triggers (h : Wordless s) :
    triggers.findSome? (fun t => (t.announced? s).bind withDigit?) = none := by
  have hwords : ∀ t ∈ triggers, IsWord t.phrase := by decide
  rw [List.findSome?_eq_none_iff]
  intro t ht
  obtain ⟨p, hp, habsent⟩ := (hwords t ht).exists_not_mem h
  rw [t.announced?_eq_none hp]
  · rfl
  · intro c hc
    rw [h.foldCase_eq hc]
    rintro rfl
    exact habsent hc

end Wordless

/-- A text that poses `e` asks for it, or `e` is all it has in front of an equals sign. -/
theorem Posed.cases_front (h : Posed e s) :
    (∃ behind : Text, s = asking ++ (e ++ behind) ∧ ∀ c ∈ behind.head?, c = '?') ∨
      s = e ++ ['='] := by
  cases h with
  | asked => exact .inl ⟨[], by simp, by simp⟩
  | askedThen tail => exact .inl ⟨'?' :: tail, by simp, by simp⟩
  | equated => exact .inr rfl

/-- A candidate with a digit behind the words that ask for it, up to a question mark, is found. -/
theorem extract?_asking {x : Text} (h : withDigit? (s.takeWhile (· != '?')) = some x) :
    extract? (asking ++ s) = some x := by
  have hne : (s.takeWhile (· != '?')).dropWhile Text.isBlank ≠ [] := by
    intro hnil
    have hnone : withDigit? [] = none := withDigit?_of_symbols (by simp)
    rw [← withDigit?_dropWhile, hnil, hnone] at h
    cases h
  have hfirst := (Trigger.announcedAt?_phrase ⟨"сколько будет".toList, '?'⟩ (by decide)
    (by decide) s).1 hne
  have hdigit : (Trigger.announced? ⟨"сколько будет".toList, '?'⟩ (asking ++ s)).bind withDigit? =
      some x := by
    calc
      _ = withDigit? ((s.takeWhile (· != '?')).dropWhile Text.isBlank) :=
          congrArg (Option.bind · withDigit?) (Text.findFirst?_of_front hfirst)
      _ = withDigit? (s.takeWhile (· != '?')) := withDigit?_dropWhile _
      _ = some x := h
  simp only [extract?, triggers, List.findSome?_cons, hdigit, Option.some_or]

/-- Whichever way an expression is posed, it is what is found. -/
theorem extract?_of_posed (h : Spelled e) (hs : Posed e s) :
    extract? s = some (Text.collapse e) := by
  rcases hs.cases_front with ⟨behind, rfl, hbehind⟩ | rfl
  · -- the phrase of the first trigger is at the front
    have hmark : ∀ c ∈ e, (c != '?') = true := by
      intro c hc
      rw [bne_iff_ne]
      rintro rfl
      exact absurd (h.allowed '?' hc) (by decide)
    have htaken : (e ++ behind).takeWhile (· != '?') = e := by
      rw [List.takeWhile_append_of_pos hmark]
      cases behind with
      | nil => exact List.append_nil e
      | cons c behind =>
          obtain rfl := hbehind c rfl
          rw [List.takeWhile_cons_of_neg (by decide), List.append_nil]
    exact extract?_asking (htaken.symm ▸ withDigit?_of_spelled h)
  · unfold extract?
    rw [h.wordless_equated.findSome?_triggers, Option.none_or, runBeforeEquals?_append h,
      Option.bind_some, withDigit?_of_spelled h, Option.some_or]

end Question

/-! ## Answers -/

namespace Problem

open Question (Spelled Posed)

variable {e s : Text}

/-- The answer with an expression and its value. -/
def solved {α : Type} [Arithmetic α] (e : Text) (v : α) : Text :=
  block .howMuch
    ("`".toList ++ Text.collapse e ++ " = ".toList ++ Arithmetic.toText v ++ "`".toList)

/-- Evaluating what is found shows it with its value. -/
theorem evaluateIn_of_found {α : Type} [Arithmetic α]
    (hfound : Question.extract? s = some (Text.collapse e)) {v : α}
    (hv : Expr.evaluate (Text.collapse e) = .ok v) : evaluateIn α s = .ok (solved e v) := by
  unfold evaluateIn
  rw [hfound]
  dsimp only
  rw [hv]
  rfl

theorem evaluateIn_of_posed {α : Type} [Arithmetic α] (h : Spelled e) (hs : Posed e s) {v : α}
    (hv : Expr.evaluate e = .ok v) : evaluateIn α s = .ok (solved e v) := by
  apply evaluateIn_of_found (Question.extract?_of_posed h hs)
  rw [Expr.evaluate_collapse, hv]

/-- A text without words opens no gate. -/
theorem gated_of_wordless (h : Question.Wordless s) : Kind.gated (Text.lowercase s) = [] := by
  have hlower : Text.lowercase s = s := Text.lowercase_eq_self fun c hc => h.stays hc
  have habsent (phrase : Text) (hphrase : Question.IsWord phrase) :
      Text.contains phrase s = false := by
    obtain ⟨p, hp, hmem⟩ := hphrase.exists_not_mem h
    exact Text.contains_eq_false_of_not_mem hp hmem
  have hany (phrases : List Text) (hphrases : ∀ phrase ∈ phrases, Question.IsWord phrase) :
      Text.containsAny phrases s = false := by
    unfold Text.containsAny
    rw [List.any_eq_false]
    intro phrase hphrase
    rw [habsent phrase (hphrases phrase hphrase)]
    decide
  unfold Kind.gated
  rw [hlower, List.filter_eq_nil_iff]
  rintro kind -
  rw [Bool.not_eq_true]
  cases kind with
  | howMuch => exact habsent _ (by decide)
  | equation =>
      -- an equals sign alone does not make an equation
      have hword := habsent "уравнение".toList (by decide)
      have hunknown : mentionsUnknown s = false := hany _ (by decide)
      simp only [Kind.gate, hword, hunknown, Bool.and_false, Bool.or_false]
  | powerRoot => exact hany _ (by decide)
  | percentage => exact hany _ (by decide)
  | trigonometry => exact hany _ (by decide)

/-- A question that asks for an expression opens the first gate, and one with nothing but an
expression and an equals sign opens none. -/
theorem gated_of_posed (h : Spelled e) (hs : Posed e s) :
    (∃ kinds, Kind.gated (Text.lowercase s) = .howMuch :: kinds) ∨
      Kind.gated (Text.lowercase s) = [] := by
  rcases hs.cases_front with ⟨behind, rfl, hbehind⟩ | rfl
  · left
    have hasking : ∀ c ∈ Question.asking, Text.Stays c := by decide +kernel
    obtain ⟨lower, hlower⟩ := Text.exists_lowercase_append hasking (e ++ behind)
    have hgate : Kind.gate .howMuch (Text.lowercase (Question.asking ++ (e ++ behind))) = true := by
      rw [hlower]
      exact Text.contains_iff.2 ⟨[], [' '] ++ lower, rfl⟩
    exact ⟨_, List.filter_cons_of_pos hgate⟩
  · exact .inr (gated_of_wordless h.wordless_equated)

theorem answer_eq_of_posed {α : Type} [Arithmetic α] (h : Spelled e) (hs : Posed e s) {v : α}
    (hv : Expr.evaluate e = .ok v) : answer α s = solved e v := by
  have hevaluated := evaluateIn_of_posed h hs hv
  unfold answer
  rcases gated_of_posed h hs with ⟨kinds, hkinds⟩ | hkinds
  · have hanswer : Kind.answer? α .howMuch s = some (solved e v) := by
      unfold Kind.answer?
      rw [hevaluated]
      rfl
    simp only [hkinds, List.findSome?_cons, hanswer]
  · simp only [hkinds, List.findSome?_nil, hevaluated]

/-- Whichever way an expression is posed, what is found in the text has the value or the error that
the expression has on its own, and a value is what the answer shows, behind the expression without
its extra blanks. -/
theorem answer_of_posed (h : Spelled e) (hs : Posed e s) :
    Question.extract? s = some (Text.collapse e) ∧
    ∀ (α : Type) [Arithmetic α],
      (Expr.evaluate (Text.collapse e) : Except Expr.Error α) = Expr.evaluate e ∧
      ∀ v : α, Expr.evaluate e = .ok v → answer α s = solved e v := by
  refine ⟨Question.extract?_of_posed h hs, ?_⟩
  intro α _
  refine ⟨Expr.evaluate_collapse α e, ?_⟩
  intro v hv
  exact answer_eq_of_posed h hs hv

/-- Whole numbers, as far as sums, differences, products and powers of them go; what else is asked
of them is cut to a whole number. -/
local instance wholeNumbers : Arithmetic Int where
  ofDecimal d := Int.ofNat (d.coefficient / Nat.pow 10 d.places)
  add := Int.add
  sub := Int.sub
  mul := Int.mul
  div := Int.tdiv
  pow a b := Int.pow a b.toNat
  neg := Int.neg
  sqrt a := Int.ofNat (Nat.sqrt a.toNat)
  cbrt _ := 0
  sin _ := 0
  cos _ := 0
  tan _ := 0
  radians _ := 0
  isFinite _ := true
  isZero a := a == 0
  isNegative a := decide (a < 0)
  isWhole _ := true
  isNegligible a := a == 0
  toText a := (toString a).toList
  toFixed _ a := (toString a).toList

/-- Blanks around the expression and inside it, and a question behind it that has a number too. -/
theorem answer_of_posed_square :
    Question.extract? "сколько будет  (2 +  3)^2*4 ? А 7?".toList = some "(2 + 3)^2*4".toList ∧
    answer Int "сколько будет  (2 +  3)^2*4 ? А 7?".toList =
      "🧮 **Решение:**\n\n`(2 + 3)^2*4 = 100`".toList := by
  have hspelled : Spelled " (2 +  3)^2*4 ".toList := ⟨by decide, by decide⟩
  have hposed : Posed " (2 +  3)^2*4 ".toList "сколько будет  (2 +  3)^2*4 ? А 7?".toList :=
    .askedThen " А 7?".toList
  have hvalue : (Expr.evaluate " (2 +  3)^2*4 ".toList : Except Expr.Error Int) = .ok 100 := by
    decide +kernel
  have hcollapsed : Text.collapse " (2 +  3)^2*4 ".toList = "(2 + 3)^2*4".toList := by
    decide +kernel
  have hshown : solved " (2 +  3)^2*4 ".toList (100 : Int) =
      "🧮 **Решение:**\n\n`(2 + 3)^2*4 = 100`".toList := by
    decide +kernel
  rw [← hcollapsed, ← hshown]
  have hanswer := answer_of_posed hspelled hposed
  exact ⟨hanswer.1, (hanswer.2 Int).2 100 hvalue⟩

end Problem
end ChatAssistant
