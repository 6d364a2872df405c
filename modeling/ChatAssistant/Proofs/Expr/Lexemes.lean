import ChatAssistant.Proofs.Expr.Points
import ChatAssistant.Proofs.Expr.Printing
import Mathlib.Logic.Relation

/-!
# Texts as sequences of lexemes

The division into tokens looks at one character and the next.  Here a text is taken apart into
lexemes instead, with blanks or nothing between them: numbers, which are maximal runs of digits and
points, signs, and maximal runs of stars.  A run of stars is read in pairs from the left, and each
pair is a power sign; a star that is left over is a product sign, and it is the last one.

* `IsNumber`, `valueOf` — which runs are numbers, and which ones;
* `Lexed` — the text is a sequence of lexemes, and these are its tokens;
* `tokens_eq_ok_iff` — the division into tokens succeeds exactly on these texts;
* `Respaced`, `Alike.of_respaced` — blanks matter only inside of a number and between two stars;
* `tokens_two_stars_append` — a pair of stars with no star in front is a caret.
-/

namespace ChatAssistant
namespace Expr

open Text (isBlank isBlankText)
open Decimal (isLiteralChar Literal natOfDigits)

variable {c : Char} {s t u v run : Text} {d : Decimal} {ts : List Token} {sign : Token}

/-! ## Numbers -/

/-- The run is a number: digits and points, a digit at least and a point at most. -/
structure IsNumber (run : Text) : Prop where
  literal : ∀ c ∈ run, isLiteralChar c = true
  digit : ∃ c ∈ run, Text.isDigit c = true
  point : run.count '.' ≤ 1

/-- The number that a run spells: its digits, and how many of them stand behind the point. -/
def valueOf (run : Text) : Decimal :=
  ⟨natOfDigits (run.filter Text.isDigit), (run.dropWhile (· != '.')).tail.length⟩

theorem IsNumber.ne_nil (h : IsNumber run) : run ≠ [] := by
  rintro rfl
  obtain ⟨c, hc, -⟩ := h.digit
  cases hc

/-- Every number is a literal as it is written. -/
theorem IsNumber.exists_text_eq (h : IsNumber run) : ∃ l : Literal, l.text = run := by
  have hsplit : run.takeWhile Text.isDigit ++ run.dropWhile Text.isDigit = run :=
    List.takeWhile_append_dropWhile
  have hwhole : ∀ c ∈ run.takeWhile Text.isDigit, Text.isDigit c = true :=
    fun c hc => List.mem_takeWhile_imp hc
  have hhead := List.head?_dropWhile_not Text.isDigit run
  generalize run.takeWhile Text.isDigit = whole at *
  generalize run.dropWhile Text.isDigit = rest at *
  subst hsplit
  cases rest with
  | nil =>
      rw [List.append_nil] at h ⊢
      exact ⟨⟨whole, none, by simpa using hwhole, by simpa using h.ne_nil⟩, List.append_nil whole⟩
  | cons p fraction =>
      -- what ends the digits is the one point, so there are digits only behind it
      have hp : p = '.' := by
        have hnot : Text.isDigit p = false := by simpa using hhead
        simpa [isLiteralChar, hnot] using h.literal p (by simp)
      subst hp
      have hpoints : fraction.count '.' = 0 := by
        have hcount := h.point
        rw [List.count_append, List.count_cons_self] at hcount
        omega
      have hfraction : ∀ c ∈ fraction, Text.isDigit c = true := by
        have hliteral : ∀ c ∈ fraction, isLiteralChar c = true :=
          fun c hc => h.literal c (by simp [hc])
        exact List.all_eq_true.1 ((count_point_eq_zero_iff hliteral).1 hpoints)
      have hdigits : ∀ c ∈ whole ++ fraction, Text.isDigit c = true := by
        intro c hc
        exact (List.mem_append.1 hc).elim (hwhole c) (hfraction c)
      have hne : whole ++ fraction ≠ [] := by
        intro hnil
        obtain ⟨rfl, rfl⟩ := List.append_eq_nil_iff.1 hnil
        obtain ⟨c, hc, hdigit⟩ := h.digit
        rw [List.mem_singleton.1 hc] at hdigit
        exact absurd hdigit (by decide)
      exact ⟨⟨whole, some fraction, hdigits, hne⟩, rfl⟩

theorem valueOf_text (l : Literal) : valueOf l.text = l.value := by
  obtain ⟨whole, fraction, hdigits, hne⟩ := l
  have hwhole : ∀ c ∈ whole, Text.isDigit c = true :=
    fun c hc => hdigits c (List.mem_append_left _ hc)
  have hfilter : whole.filter Text.isDigit = whole := List.filter_eq_self.2 hwhole
  have hnot : ∀ c ∈ whole, (c != '.') = true := by
    intro c hc
    rw [bne_iff_ne]
    rintro rfl
    exact absurd (hwhole '.' hc) (by decide)
  cases fraction with
  | none =>
      have hdrop : whole.dropWhile (· != '.') = [] := List.dropWhile_eq_nil_iff.2 hnot
      simp [valueOf, Literal.text, Literal.value, Decimal.ofParts, hfilter, hdrop]
  | some fraction =>
      have hpoint : Text.isDigit '.' = false := by decide
      have hfraction : fraction.filter Text.isDigit = fraction :=
        List.filter_eq_self.2 fun c hc => hdigits c (List.mem_append_right _ hc)
      have hdrop : (whole ++ '.' :: fraction).dropWhile (· != '.') = '.' :: fraction := by
        rw [List.dropWhile_append_of_pos hnot, List.dropWhile_cons_of_neg (by decide)]
      simp [valueOf, Literal.text, Literal.value, Decimal.ofParts, hfilter, hfraction, hpoint,
        hdrop]

/-- A run of digits and points is read exactly if it is a number, and as the number it is. -/
theorem ofRun?_eq_some_iff (hrun : ∀ c ∈ run, isLiteralChar c = true) :
    Decimal.ofRun? run = some d ↔ IsNumber run ∧ d = valueOf run := by
  have hread {l : Literal} (hl : l.text = run) : Decimal.ofRun? run = some (valueOf run) := by
    rw [← hl, valueOf_text, Literal.ofRun?_text]
  constructor
  · intro h
    obtain ⟨c, hc, hdigit⟩ := exists_digit_of_ofRun? h
    have hshape : ¬ isMisshapen run = true := by
      rw [← ofRun?_eq_none_iff hrun (List.ne_nil_of_mem hc), h]
      exact Option.some_ne_none d
    have hpoint : run.count '.' ≤ 1 := by
      unfold isMisshapen at hshape
      rw [Bool.or_eq_true, not_or, decide_eq_true_eq] at hshape
      exact Nat.le_of_not_lt hshape.2
    have hnumber : IsNumber run := ⟨hrun, ⟨c, hc, hdigit⟩, hpoint⟩
    obtain ⟨l, hl⟩ := hnumber.exists_text_eq
    exact ⟨hnumber, Option.some.inj (h.symm.trans (hread hl))⟩
  · rintro ⟨hnumber, rfl⟩
    obtain ⟨l, hl⟩ := hnumber.exists_text_eq
    exact hread hl

/-! ## Lexemes -/

/-- The signs that are a lexeme each. -/
def signOf? : Char → Option Token
  | '+' => some .plus
  | '-' => some .minus
  | '/' => some .slash
  | '^' => some .caret
  | '(' => some .lparen
  | ')' => some .rparen
  | _ => none

/-- The tokens of a run of stars: pairs from the left, and a single one at the end. -/
def starTokens (count : Nat) : List Token :=
  List.replicate (count / 2) .caret ++ List.replicate (count % 2) .star

/-- The text is a sequence of lexemes with blanks or nothing around them, and the tokens are theirs
in order. -/
inductive Lexed : Text → List Token → Prop where
  | nil : Lexed [] []
  | blank {c : Char} {s : Text} {ts : List Token} (hc : isBlank c = true) (h : Lexed s ts) :
      Lexed (c :: s) ts
  | number {run s : Text} {ts : List Token} (hrun : IsNumber run)
      (hmax : ∀ c ∈ s.head?, isLiteralChar c = false) (h : Lexed s ts) :
      Lexed (run ++ s) (.number (valueOf run) :: ts)
  | sign {c : Char} {t : Token} {s : Text} {ts : List Token} (hc : signOf? c = some t)
      (h : Lexed s ts) : Lexed (c :: s) (t :: ts)
  | stars {count : Nat} {s : Text} {ts : List Token} (hpos : 0 < count)
      (hmax : ∀ c ∈ s.head?, c ≠ '*') (h : Lexed s ts) :
      Lexed (List.replicate count '*' ++ s) (starTokens count ++ ts)

/-! ## Signs and stars -/

theorem ofChar?_of_signOf? (h : signOf? c = some sign) :
    Token.ofChar? c = some sign ∧ c ≠ '*' := by
  unfold signOf? at h
  split at h
  all_goals first
    | exact ⟨h, by decide⟩
    | cases h

/-- A token of one character is a sign or a star. -/
theorem signOf?_or_star (h : Token.ofChar? c = some sign) :
    signOf? c = some sign ∨ c = '*' ∧ sign = .star := by
  unfold Token.ofChar? at h
  split at h
  all_goals first
    | exact .inl h
    | exact .inr ⟨rfl, (Option.some.inj h).symm⟩
    | cases h

theorem starTokens_add_two (count : Nat) : starTokens (count + 2) = .caret :: starTokens count := by
  unfold starTokens
  rw [Nat.add_div_right count (by decide), Nat.add_mod_right, List.replicate_succ, List.cons_append]

/-! ## From lexemes to tokens -/

/-- No number goes on over the end of the first text, and no star ends it. -/
theorem divided_of_head (hu : u.getLast? ≠ some '*')
    (hv : ∀ c ∈ v.head?, isLiteralChar c = false) : Divided u v := by
  intro c hc d hd
  refine ⟨fun hliteral => ?_, ?_⟩
  · rw [hv d hd] at hliteral
    exact absurd hliteral.2 (by decide)
  · rintro ⟨rfl, -⟩
    exact hu hc

theorem tokens_number_append (hrun : IsNumber run) (hmax : ∀ c ∈ s.head?, isLiteralChar c = false) :
    tokens (run ++ s) = (tokens s).map (.number (valueOf run) :: ·) := by
  have hdivided : Divided run s := by
    refine divided_of_head (fun hstar => ?_) hmax
    exact absurd (hrun.literal '*' (List.mem_of_getLast? hstar)) (by decide)
  have hread : Decimal.ofRun? run = some (valueOf run) :=
    (ofRun?_eq_some_iff hrun.literal).2 ⟨hrun, rfl⟩
  rw [tokens_append hdivided, tokens_literal hrun.literal hrun.ne_nil, hread]
  rfl

/-- By pairs of stars. -/
theorem tokens_stars_append (hmax : ∀ c ∈ s.head?, c ≠ '*') (count : Nat) :
    tokens (List.replicate count '*' ++ s) = (tokens s).map (starTokens count ++ ·) := by
  induction count using Nat.twoStepInduction with
  | zero =>
      cases htokens : tokens s with
      | error e => simp [htokens, Except.map]
      | ok ts => simp [htokens, Except.map, starTokens]
  | one => exact tokens_sign rfl fun _ hstar => hmax '*' hstar rfl
  | more count ih _ =>
      rw [List.replicate_succ, List.replicate_succ, List.cons_append, List.cons_append,
        tokens_two_stars, ih, starTokens_add_two]
      cases tokens s with
      | error e => rfl
      | ok ts => rfl

theorem Lexed.tokens_eq (h : Lexed s ts) : tokens s = .ok ts := by
  induction h with
  | nil => exact tokens_nil
  | @blank c s ts hc h ih => rw [tokens_blank hc, ih]
  | number hrun hmax h ih => rw [tokens_number_append hrun hmax, ih]; rfl
  | @sign c t s ts hc h ih =>
      obtain ⟨ht, hne⟩ := ofChar?_of_signOf? hc
      rw [tokens_sign ht fun hstar => absurd hstar hne, ih]
      rfl
  | stars hpos hmax h ih => rw [tokens_stars_append hmax, ih]; rfl

/-! ## From tokens to lexemes -/

/-- The run of stars in front of a sequence of lexemes, which may be empty, and the lexemes behind
it. -/
theorem Lexed.exists_stars (h : Lexed s ts) : ∃ count rest us,
    s = List.replicate count '*' ++ rest ∧ ts = starTokens count ++ us ∧
      (∀ c ∈ rest.head?, c ≠ '*') ∧ Lexed rest us := by
  have hnone (hhead : ∀ c ∈ s.head?, c ≠ '*') : ∃ count rest us,
      s = List.replicate count '*' ++ rest ∧ ts = starTokens count ++ us ∧
        (∀ c ∈ rest.head?, c ≠ '*') ∧ Lexed rest us :=
    ⟨0, s, ts, rfl, rfl, hhead, h⟩
  cases h with
  | nil => exact hnone fun c hc => by cases hc
  | @blank c s _ hc h =>
      refine hnone fun d hd => ?_
      cases hd
      rintro rfl
      exact absurd hc (by decide)
  | @number run s ts hrun hmax h =>
      refine hnone fun d hd => ?_
      have hmem : d ∈ run := by
        obtain ⟨c, rest, rfl⟩ := List.exists_cons_of_ne_nil hrun.ne_nil
        cases hd
        exact List.mem_cons_self
      rintro rfl
      exact absurd (hrun.literal '*' hmem) (by decide)
  | @sign c t s ts hc h =>
      refine hnone fun d hd => ?_
      cases hd
      exact (ofChar?_of_signOf? hc).2
  | @stars count s ts hpos hmax h => exact ⟨count, s, ts, rfl, rfl, hmax, h⟩

/-- Two more stars in front are one more pair of their run. -/
theorem Lexed.two_stars (h : Lexed s ts) : Lexed ('*' :: '*' :: s) (.caret :: ts) := by
  obtain ⟨count, rest, us, rfl, rfl, hmax, hrest⟩ := h.exists_stars
  have hmore : Lexed (List.replicate (count + 2) '*' ++ rest) (starTokens (count + 2) ++ us) :=
    .stars (Nat.succ_pos _) hmax hrest
  rwa [starTokens_add_two] at hmore

theorem lexed_of_tokens (s : Text) : ∀ ts, tokens s = .ok ts → Lexed s ts := by
  fun_induction tokens s with
  | case1 =>
      intro ts h
      cases h
      exact .nil
  | case2 r ih =>
      intro ts h
      obtain ⟨us, hus, rfl⟩ := exists_of_map h
      exact (ih us hus).two_stars
  | case3 c r _ hc ih => exact fun ts h => .blank hc (ih ts h)
  | case4 c r _ _ hc run d hd ih =>
      intro ts h
      obtain ⟨us, hus, rfl⟩ := exists_of_map h
      obtain ⟨hrun, rfl⟩ := (ofRun?_eq_some_iff (isLiteralChar_of_mem_run hc r)).1 hd
      have hmax : ∀ c ∈ (r.dropWhile isLiteralChar).head?, isLiteralChar c = false := by
        intro c hc
        have hnot := List.head?_dropWhile_not isLiteralChar r
        rw [hc] at hnot
        simpa using hnot
      have hlexed := Lexed.number hrun hmax (ih us hus)
      rwa [List.cons_append, List.takeWhile_append_dropWhile] at hlexed
  | case5 => exact fun ts h => by cases h
  | case6 c r hstars _ _ t hc ih =>
      intro ts h
      obtain ⟨us, hus, rfl⟩ := exists_of_map h
      rcases signOf?_or_star hc with hsign | ⟨rfl, rfl⟩
      · exact .sign hsign (ih us hus)
      · -- a star alone, since no other one follows
        have hmax : ∀ c ∈ r.head?, c ≠ '*' := by
          rintro c hhead rfl
          cases r with
          | nil => cases hhead
          | cons c' r' =>
              cases hhead
              exact hstars r' rfl rfl
        exact Lexed.stars Nat.one_pos hmax (ih us hus)
  | case7 => exact fun ts h => by cases h

/-- The division into tokens succeeds exactly on sequences of lexemes. -/
theorem tokens_eq_ok_iff : tokens s = .ok ts ↔ Lexed s ts :=
  ⟨lexed_of_tokens s ts, Lexed.tokens_eq⟩

/-! ## Blanks -/

/-- Nothing tells the texts apart: neither their tokens, nor what they are read as, nor their values
and errors. -/
structure Alike (s t : Text) : Prop where
  tokens : Expr.tokens s = Expr.tokens t
  parse : Expr.parse s = Expr.parse t
  evaluate : ∀ (α : Type) [Arithmetic α], (Expr.evaluate s : Except Error α) = Expr.evaluate t

namespace Alike

/-- Texts are read by their characters and their tokens. -/
theorem of_tokens (hcharacters : checkCharacters s = checkCharacters t)
    (htokens : Expr.tokens s = Expr.tokens t) : Alike s t := by
  have hparse : Expr.parse s = Expr.parse t := by
    unfold Expr.parse
    rw [hcharacters, htokens]
  refine ⟨htokens, hparse, fun α _ => ?_⟩
  unfold Expr.evaluate
  rw [hparse]

theorem symm (h : Alike s t) : Alike t s :=
  ⟨h.tokens.symm, h.parse.symm, fun α _ => (h.evaluate α).symm⟩

theorem trans (hst : Alike s t) (htu : Alike t u) : Alike s u :=
  ⟨hst.tokens.trans htu.tokens, hst.parse.trans htu.parse,
    fun α _ => (hst.evaluate α).trans (htu.evaluate α)⟩

end Alike

/-- Allowed characters in between do not change which one is refused. -/
theorem checkCharacters_append_congr (u : Text) {x y : Text} (v : Text)
    (hx : ∀ c ∈ x, isAllowed c = true) (hy : ∀ c ∈ y, isAllowed c = true) :
    checkCharacters (u ++ (x ++ v)) = checkCharacters (u ++ (y ++ v)) := by
  have hnone {z : Text} (hz : ∀ c ∈ z, isAllowed c = true) : z.find? (!isAllowed ·) = none := by
    rw [List.find?_eq_none]
    intro c hc
    simp [hz c hc]
  unfold checkCharacters
  simp only [List.find?_append, hnone hx, hnone hy]

theorem isAllowed_of_isBlank (h : isBlank c = true) : isAllowed c = true := by
  unfold isAllowed
  rw [h, Bool.true_or]

/-- Blanks between parts of a text that share no token mean nothing. -/
theorem tokens_gap_append {gap : Text} (hgap : isBlankText gap = true) (h : Divided u v) :
    tokens (u ++ (gap ++ v)) = tokens (u ++ v) := by
  cases gap with
  | nil => rfl
  | cons b gap =>
      have hblanks : isBlank b = true ∧ isBlankText gap = true := by
        simpa [isBlankText] using hgap
      rw [tokens_append h, List.cons_append, tokens_append_blank hblanks.1,
        tokens_blanks_append hblanks.2]

/-- Blanks are put in or taken out at one place, which is neither between two characters of numbers
nor between two stars. -/
inductive Respaced : Text → Text → Prop where
  | insert {u gap v : Text} (hgap : isBlankText gap = true) (h : Divided u v) :
      Respaced (u ++ v) (u ++ (gap ++ v))
  | delete {u gap v : Text} (hgap : isBlankText gap = true) (h : Divided u v) :
      Respaced (u ++ (gap ++ v)) (u ++ v)

theorem Alike.gap {gap : Text} (hgap : isBlankText gap = true) (h : Divided u v) :
    Alike (u ++ (gap ++ v)) (u ++ v) := by
  have hallowed : ∀ c ∈ gap, isAllowed c = true :=
    fun c hc => isAllowed_of_isBlank (List.all_eq_true.1 hgap c hc)
  have hnil : ∀ c ∈ ([] : Text), isAllowed c = true := fun c hc => by cases hc
  exact .of_tokens (checkCharacters_append_congr u v hallowed hnil) (tokens_gap_append hgap h)

theorem Alike.of_respaced (h : Relation.ReflTransGen Respaced s t) : Alike s t := by
  induction h with
  | refl => exact ⟨rfl, rfl, fun α _ => rfl⟩
  | tail _ hstep ih =>
      cases hstep with
      | insert hgap h => exact ih.trans (Alike.gap hgap h).symm
      | delete hgap h => exact ih.trans (Alike.gap hgap h)

/-! ## Two ways to write a power -/

/-- A pair of stars that starts its run is a caret. -/
theorem tokens_two_stars_append (h : u.getLast? ≠ some '*') (v : Text) :
    tokens (u ++ '*' :: '*' :: v) = tokens (u ++ '^' :: v) := by
  have hdivided {d : Char} (hd : isLiteralChar d = false) (w : Text) : Divided u (d :: w) := by
    refine divided_of_head h fun c hc => ?_
    cases hc
    exact hd
  have hcaret : tokens ('^' :: v) = (tokens v).map (.caret :: ·) :=
    tokens_sign rfl fun hstar => absurd hstar (by decide)
  rw [tokens_append (hdivided (by decide) _), tokens_append (hdivided (by decide) _),
    tokens_two_stars, hcaret]

/-- The division into tokens succeeds exactly on sequences of lexemes, and gives their tokens.
Blanks that are put in or taken out, at any number of places, change nothing as long as none of the
places is inside of a number or between two stars; and two stars may be written for a caret, and a
caret for two stars, behind anything but a star. -/
theorem tokens_read_lexemes (s : Text) :
    (∀ ts, tokens s = .ok ts ↔ Lexed s ts) ∧
    (∀ t, Relation.ReflTransGen Respaced s t → Alike s t) ∧
    ∀ u v, u.getLast? ≠ some '*' → Alike (u ++ '*' :: '*' :: v) (u ++ '^' :: v) := by
  refine ⟨fun ts => tokens_eq_ok_iff, fun t h => .of_respaced h, ?_⟩
  intro u v h
  have hstars : ∀ c ∈ ['*', '*'], isAllowed c = true := by decide
  have hcaret : ∀ c ∈ ['^'], isAllowed c = true := by decide
  exact .of_tokens (checkCharacters_append_congr u v hstars hcaret) (tokens_two_stars_append h v)

/-- The blanks around a pair of stars go, and then the pair is a caret; in a longer run of stars the
last one is left over. -/
theorem tokens_read_lexemes_power :
    Relation.ReflTransGen Respaced "2 ** 3.5".toList "2**3.5".toList ∧
    Alike "2 ** 3.5".toList "2**3.5".toList ∧
    "2".toList.getLast? ≠ some '*' ∧ Alike "2**3.5".toList "2^3.5".toList ∧
    Lexed "2* **1".toList [.number ⟨2, 0⟩, .star, .caret, .number ⟨1, 0⟩] ∧
    Lexed "2***1".toList [.number ⟨2, 0⟩, .caret, .star, .number ⟨1, 0⟩] := by
  have hbehind : Respaced ("2 **".toList ++ (" ".toList ++ "3.5".toList))
      ("2 **".toList ++ "3.5".toList) := by
    refine .delete (by decide) fun c hc d hd => ?_
    cases hc
    cases hd
    decide
  have hbefore : Respaced ("2".toList ++ (" ".toList ++ "**3.5".toList))
      ("2".toList ++ "**3.5".toList) := by
    refine .delete (by decide) fun c hc d hd => ?_
    cases hc
    cases hd
    decide
  have hspaced : Relation.ReflTransGen Respaced "2 ** 3.5".toList "2**3.5".toList :=
    .tail (.single hbehind) hbefore
  have hlast : "2".toList.getLast? ≠ some '*' := by decide
  have hlexed := fun s => (tokens_read_lexemes s).1
  refine ⟨hspaced, (tokens_read_lexemes _).2.1 _ hspaced, hlast,
    (tokens_read_lexemes []).2.2 "2".toList "3.5".toList hlast, ?_, ?_⟩
  · exact (hlexed _ _).1 (by decide +kernel)
  · exact (hlexed _ _).1 (by decide +kernel)

end Expr
end ChatAssistant
