import ChatAssistant.Proofs.Expr.Printing
import ChatAssistant.Proofs.Question.Extraction

/-!
# Expressions in words

An expression can be asked for in words: numbers with a word operator between neighbours, and the
word for a minus sign in front of a number.  The word operators are replaced one after the other,
each with a blank on either side, and the number between two of them keeps their blanks apart.
Where the minus sign of a number stands right behind an operator, there is only one blank for both,
so only the one that is replaced first is found.

* `Spoken`, `written` — an expression in words and in signs;
* `replaceOperators_padded` — the word operators are replaced between numbers, each on its own;
* `heard` — what becomes of an expression in words;
* `extract?_spoken_iff` — it becomes the expression in signs if no sign follows an operator.
-/

namespace ChatAssistant
namespace Question

open Decimal (Literal isLiteralChar)

/-! ## In words -/

/-- The word for a minus sign, with the blank behind it. -/
def minusWord : Text := "минус ".toList

/-- A number in words: a literal, perhaps with the word for a minus sign in front of it. -/
structure Operand where
  negative : Bool
  magnitude : Literal

/-- A word operator and the number behind it. -/
structure Link where
  operator : Text × Text
  mem_wordOperators : operator ∈ wordOperators
  operand : Operand

/-- An expression in words. -/
structure Spoken where
  first : Operand
  links : List Link

namespace Operand

/-- The word for the sign, if there is one. -/
def signWord (o : Operand) : Text := if o.negative then minusWord else []

def sign (o : Operand) : Text := if o.negative then ['-'] else []

def text (o : Operand) : Text := o.signWord ++ o.magnitude.text

def written (o : Operand) : Text := o.sign ++ o.magnitude.text

end Operand

namespace Link

/-- The words in front of the number. -/
def words (l : Link) : Text := l.operator.1 ++ l.operand.signWord

/-- What becomes of the words.  Operators that are replaced before the sign is, or as the sign is,
take the blank in front of its word, and from all others the sign takes the blank behind them. -/
def heardWords (l : Link) : Text :=
  if l.operand.negative then
    if l.operator ∈ wordOperators.take 5 then l.operator.2 ++ minusWord
    else l.operator.1.dropLast ++ ['-']
  else l.operator.2

def text (l : Link) : Text := l.words ++ l.operand.magnitude.text

def heard (l : Link) : Text := l.heardWords ++ l.operand.magnitude.text

def written (l : Link) : Text := l.operator.2 ++ l.operand.written

end Link

namespace Spoken

/-- The expression in words, with single blanks. -/
def text (q : Spoken) : Text := q.first.text ++ q.links.flatMap Link.text

/-- What becomes of it. -/
def heard (q : Spoken) : Text := q.first.written ++ q.links.flatMap Link.heard

/-- The expression in signs, without blanks. -/
def written (q : Spoken) : Text := q.first.written ++ q.links.flatMap Link.written

/-- No sign follows an operator. -/
def SignsApart (q : Spoken) : Prop := ∀ l ∈ q.links, l.operand.negative = false

end Spoken

/-! ## Replacing the words -/

/-- The text with its word operators replaced, one after the other. -/
def replaceOperators (s : Text) : Text :=
  wordOperators.foldl (fun t w => Text.replaceAll w.1 w.2 t) s

/-- A number keeps the word operators on its two sides apart. -/
theorem replaceOperators_around (l : Literal) (s t : Text) :
    replaceOperators (s ++ (l.text ++ t)) =
      replaceOperators s ++ (l.text ++ replaceOperators t) := by
  have hne : ∀ w ∈ wordOperators, w.1 ≠ [] := by decide
  have hletters : ∀ w ∈ wordOperators, ∀ c ∈ w.1, isLiteralChar c = false := by decide
  have hnumber : ∀ c ∈ l.text, isLiteralChar c = true := fun c hc => l.isLiteralChar_of_mem hc
  exact Text.foldl_replaceAll_around hne l.text_ne_nil
    (fun w hw => Text.not_mem_of_forall hnumber (hletters w hw)) s t

theorem Link.replaceOperators_words (l : Link) : replaceOperators l.words = l.heardWords := by
  have hall : ∀ w ∈ wordOperators, replaceOperators w.1 = w.2 ∧
      replaceOperators (w.1 ++ minusWord) =
        if w ∈ wordOperators.take 5 then w.2 ++ minusWord else w.1.dropLast ++ ['-'] := by
    decide +kernel
  obtain ⟨hplain, hsigned⟩ := hall l.operator l.mem_wordOperators
  unfold Link.words Link.heardWords Operand.signWord
  cases l.operand.negative with
  | false => simpa using hplain
  | true => simpa using hsigned

theorem replaceOperators_links (links : List Link) :
    replaceOperators (links.flatMap Link.text ++ [' ']) = links.flatMap Link.heard ++ [' '] := by
  induction links with
  | nil => decide +kernel
  | cons l links ih =>
      calc
        replaceOperators ((l :: links).flatMap Link.text ++ [' ']) =
            replaceOperators
              (l.words ++ (l.operand.magnitude.text ++ (links.flatMap Link.text ++ [' ']))) := by
              simp [Link.text]
        _ = l.heardWords ++
              (l.operand.magnitude.text ++ (links.flatMap Link.heard ++ [' '])) := by
              rw [replaceOperators_around, l.replaceOperators_words, ih]
        _ = (l :: links).flatMap Link.heard ++ [' '] := by simp [Link.heard]

/-- Only a sign at the very front loses the blank in front of it. -/
theorem replaceOperators_padded (q : Spoken) :
    replaceOperators (' ' :: q.text ++ [' ']) =
      (if q.first.negative then [] else [' ']) ++ (q.heard ++ [' ']) := by
  have hfront : replaceOperators (' ' :: q.first.signWord) =
      (if q.first.negative then [] else [' ']) ++ q.first.sign := by
    unfold Operand.signWord Operand.sign
    cases q.first.negative <;> decide +kernel
  calc
    replaceOperators (' ' :: q.text ++ [' ']) =
        replaceOperators (' ' :: q.first.signWord ++
          (q.first.magnitude.text ++ (q.links.flatMap Link.text ++ [' ']))) := by
          simp [Spoken.text, Operand.text]
    _ = (if q.first.negative then [] else [' ']) ++ q.first.sign ++
          (q.first.magnitude.text ++ (q.links.flatMap Link.heard ++ [' '])) := by
          rw [replaceOperators_around, hfront, replaceOperators_links]
    _ = (if q.first.negative then [] else [' ']) ++ (q.heard ++ [' ']) := by
          simp [Spoken.heard, Operand.written]

/-! ## Characters -/

namespace Spoken

variable (q : Spoken)

/-- A character is one of a number or one of a word operator. -/
theorem mem_text {c : Char} (hc : c ∈ q.text) :
    isLiteralChar c = true ∨ c ∈ wordOperators.flatMap Prod.fst := by
  have hsign (o : Operand) (h : c ∈ o.signWord) : c ∈ wordOperators.flatMap Prod.fst := by
    have hall : ∀ c ∈ minusWord, c ∈ wordOperators.flatMap Prod.fst := by decide
    unfold Operand.signWord at h
    split at h
    · exact hall c h
    · cases h
  rcases List.mem_append.1 hc with hc | hc
  · rcases List.mem_append.1 hc with hc | hc
    · exact .inr (hsign _ hc)
    · exact .inl (q.first.magnitude.isLiteralChar_of_mem hc)
  · obtain ⟨l, -, hc⟩ := List.mem_flatMap.1 hc
    rcases List.mem_append.1 hc with hc | hc
    · rcases List.mem_append.1 hc with hc | hc
      · exact .inr (List.mem_flatMap.2 ⟨_, l.mem_wordOperators, hc⟩)
      · exact .inr (hsign _ hc)
    · exact .inl (l.operand.magnitude.isLiteralChar_of_mem hc)

theorem stays_of_mem_text {c : Char} (hc : c ∈ q.text) : Text.Stays c := by
  have hall : ∀ c ∈ wordOperators.flatMap Prod.fst, Text.Stays c := by decide +kernel
  rcases q.mem_text hc with hliteral | hword
  · exact stays_of_isAllowed (Expr.isAllowed_of_isLiteralChar hliteral)
  · exact hall c hword

theorem not_mem_text_mark : '?' ∉ q.text := by
  intro hc
  rcases q.mem_text hc with hliteral | hword
  · exact absurd hliteral (by decide)
  · exact absurd hword (by decide)

/-- A number is what it starts with, or the word for a sign. -/
theorem dropWhile_text : q.text.dropWhile Text.isBlank = q.text := by
  obtain ⟨⟨negative, magnitude⟩, links⟩ := q
  cases negative with
  | true => exact List.dropWhile_cons_of_neg (by decide)
  | false =>
      cases hmagnitude : magnitude.text with
      | nil => exact absurd hmagnitude magnitude.text_ne_nil
      | cons c rest =>
          have hc : isLiteralChar c = true :=
            magnitude.isLiteralChar_of_mem (hmagnitude ▸ List.mem_cons_self)
          have hsplit : Spoken.text ⟨⟨false, magnitude⟩, links⟩ =
              c :: (rest ++ links.flatMap Link.text) := by
            simp [Spoken.text, Operand.text, Operand.signWord, hmagnitude]
          rw [hsplit]
          exact List.dropWhile_cons_of_neg (by simp [Expr.isBlank_of_isLiteralChar hc])

/-- A number is what it ends with. -/
theorem exists_text_eq : ∃ (front : Text) (l : Literal), q.text = front ++ l.text := by
  obtain ⟨first, links⟩ := q
  rcases List.eq_nil_or_concat links with rfl | ⟨links, l, rfl⟩
  · exact ⟨first.signWord, first.magnitude, by simp [Spoken.text, Operand.text]⟩
  · exact ⟨first.text ++ (links.flatMap Link.text ++ l.words), l.operand.magnitude,
      by simp [Spoken.text, Link.text]⟩

theorem trim_text : Text.trim q.text = q.text := by
  obtain ⟨front, l, hq⟩ := q.exists_text_eq
  have hend : ∀ c ∈ l.text, ¬ Text.isBlank c = true := by
    intro c hc
    rw [Expr.isBlank_of_isLiteralChar (l.isLiteralChar_of_mem hc)]
    decide
  calc
    Text.trim q.text = Text.dropEndWhile Text.isBlank (q.text.dropWhile Text.isBlank) := rfl
    _ = Text.dropEndWhile Text.isBlank (front ++ l.text) := by rw [q.dropWhile_text, hq]
    _ = front ++ l.text := Text.dropEndWhile_append hend l.text_ne_nil front
    _ = q.text := hq.symm

end Spoken

/-! ## Blanks -/

/-- A word in front of a blank and more words. -/
theorem collapse_word_append {word rest : Text} (hword : ∀ c ∈ word, Text.isBlank c = false)
    (hne : word ≠ []) (hrest : Text.collapse rest ≠ []) :
    Text.collapse (word ++ ' ' :: rest) = word ++ ' ' :: Text.collapse rest := by
  have hspace : ∀ c ∈ (' ' :: rest).head?, Text.isBlank c = true := by
    intro c hc
    cases hc
    decide
  have hwords : Text.words (word ++ ' ' :: rest) = word :: Text.words rest := by
    rw [Text.words_word_append hword hne hspace]
    have hblank : Text.isBlankText [' '] = true := by decide
    exact congrArg (word :: ·) (Text.words_blanks_append hblank rest)
  unfold Text.collapse at *
  rw [hwords]
  cases hws : Text.words rest with
  | nil => exact absurd (by rw [hws]; rfl) hrest
  | cons w ws => simp

theorem collapse_word_blank {word : Text} (hword : ∀ c ∈ word, Text.isBlank c = false)
    (hne : word ≠ []) : Text.collapse (word ++ [' ']) = word := by
  have hspace : ∀ c ∈ [' '].head?, Text.isBlank c = true := by
    intro c hc
    cases hc
    decide
  unfold Text.collapse
  rw [Text.words_word_append hword hne hspace, Text.words_of_isBlankText (by decide)]
  simp

/-- What becomes of the words in front of a number has one blank in it at most. -/
theorem Link.heardWords_cases (l : Link) :
    (∀ c ∈ l.heardWords, Text.isBlank c = false) ∨
      ∃ a b : Text, l.heardWords = a ++ ' ' :: b ∧ (∀ c ∈ a, Text.isBlank c = false) ∧
        ∀ c ∈ b, Text.isBlank c = false := by
  have hsigns : ∀ w ∈ wordOperators, ∀ c ∈ w.2 ++ "минус".toList, Text.isBlank c = false := by
    decide +kernel
  have hwords : ∀ w ∈ wordOperators, w.1.dropLast = ' ' :: w.1.tail.dropLast := by decide
  have hword : ∀ w ∈ wordOperators, w ∉ wordOperators.take 5 →
      ∀ c ∈ w.1.tail.dropLast ++ ['-'], Text.isBlank c = false := by decide +kernel
  have hmem := l.mem_wordOperators
  unfold Link.heardWords
  split
  · right
    split
    · have hsplit : l.operator.2 ++ minusWord = l.operator.2 ++ "минус".toList ++ [' '] := by
        rw [List.append_assoc]
        rfl
      exact ⟨l.operator.2 ++ "минус".toList, [], hsplit, hsigns _ hmem, by simp⟩
    · rename_i hlate
      exact ⟨[], l.operator.1.tail.dropLast ++ ['-'], by simp [hwords _ hmem], by simp,
        hword _ hmem hlate⟩
  · exact .inl fun c hc => hsigns _ hmem c (List.mem_append_left _ hc)

/-- Blanks are collapsed at the end and nowhere else. -/
theorem collapse_heard (links : List Link) {word : Text}
    (hword : ∀ c ∈ word, Text.isBlank c = false) (hne : word ≠ []) :
    Text.collapse (word ++ (links.flatMap Link.heard ++ [' '])) =
      word ++ links.flatMap Link.heard := by
  induction links generalizing word with
  | nil => simpa using collapse_word_blank hword hne
  | cons l links ih =>
      have hmagnitude : ∀ c ∈ l.operand.magnitude.text, Text.isBlank c = false := fun c hc =>
        Expr.isBlank_of_isLiteralChar (l.operand.magnitude.isLiteralChar_of_mem hc)
      rcases l.heardWords_cases with hwords | ⟨a, b, hwords, ha, hb⟩
      · -- the word goes on with the number
        have hlong : ∀ c ∈ word ++ (l.heardWords ++ l.operand.magnitude.text),
            Text.isBlank c = false := by
          simp only [List.forall_mem_append]
          exact ⟨hword, hwords, hmagnitude⟩
        have hlonger := ih hlong (by simp [hne])
        simpa [Link.heard] using hlonger
      · have hfront : ∀ c ∈ word ++ a, Text.isBlank c = false := by
          simp only [List.forall_mem_append]
          exact ⟨hword, ha⟩
        have hback : ∀ c ∈ b ++ l.operand.magnitude.text, Text.isBlank c = false := by
          simp only [List.forall_mem_append]
          exact ⟨hb, hmagnitude⟩
        have hmore := ih hback (by simp [l.operand.magnitude.text_ne_nil])
        have hlast := collapse_word_append hfront (by simp [hne])
          (by rw [hmore]; simp [l.operand.magnitude.text_ne_nil])
        rw [hmore] at hlast
        simpa [Link.heard, hwords] using hlast

/-! ## What is found -/

namespace Spoken

variable (q : Spoken)

theorem replaceWords_text : replaceWords q.text = q.heard := by
  have hlower : Text.lowercase q.text = q.text :=
    Text.lowercase_eq_self fun c hc => q.stays_of_mem_text hc
  have hfront : ∀ c ∈ q.first.written, Text.isBlank c = false := by
    have hsign : ∀ c ∈ q.first.sign, Text.isBlank c = false := by
      unfold Operand.sign
      cases q.first.negative <;> decide
    intro c hc
    rcases List.mem_append.1 hc with hc | hc
    · exact hsign c hc
    · exact Expr.isBlank_of_isLiteralChar (q.first.magnitude.isLiteralChar_of_mem hc)
  have hne : q.first.written ≠ [] := by
    simp [Operand.written, q.first.magnitude.text_ne_nil]
  have hblank (s : Text) : Text.collapse ((if q.first.negative then [] else [' ']) ++ s) =
      Text.collapse s := by
    have hspace : Text.isBlankText [' '] = true := by decide
    unfold Text.collapse
    cases q.first.negative with
    | true => rfl
    | false => exact congrArg _ (Text.words_blanks_append hspace s)
  calc
    replaceWords q.text =
        Text.collapse (replaceOperators (' ' :: Text.lowercase (Text.trim q.text) ++ [' '])) := rfl
    _ = Text.collapse (q.heard ++ [' ']) := by
        rw [q.trim_text, hlower, replaceOperators_padded, hblank]
    _ = Text.collapse (q.first.written ++ (q.links.flatMap Link.heard ++ [' '])) := by
        rw [heard, List.append_assoc]
    _ = q.heard := collapse_heard q.links hfront hne

theorem hasDigit_heard : Text.hasDigit q.heard = true := by
  obtain ⟨d, hd, hdigit⟩ := q.first.magnitude.exists_digit
  refine List.any_eq_true.2 ⟨d, ?_, hdigit⟩
  exact List.mem_append_left _ (List.mem_append_right _ hd)

/-- Asked for in words, an expression is found as what becomes of it. -/
theorem extract?_asking : extract? (asking ++ q.text) = some q.heard := by
  have htaken : q.text.takeWhile (· != '?') = q.text := by
    refine List.takeWhile_eq_self_iff.2 fun c hc => ?_
    rw [bne_iff_ne]
    rintro rfl
    exact q.not_mem_text_mark hc
  apply Question.extract?_asking
  unfold withDigit?
  rw [htaken, q.replaceWords_text]
  exact if_pos q.hasDigit_heard

theorem heard_of_signsApart (h : q.SignsApart) : q.heard = q.written := by
  have hlinks : ∀ l ∈ q.links, l.heard = l.written := by
    intro l hl
    have hpositive := h l hl
    simp [Link.heard, Link.written, Link.heardWords, Operand.written, Operand.sign, hpositive]
  unfold heard written
  rw [List.flatMap_congr hlinks]

/-- Of a sign behind an operator one of the two words is left. -/
theorem exists_letter_of_not_signsApart (h : ¬ q.SignsApart) :
    ∃ c ∈ q.heard, Expr.isAllowed c = false := by
  have hletters : ∀ w ∈ wordOperators,
      ∃ c ∈ if w ∈ wordOperators.take 5 then w.2 ++ minusWord else w.1.dropLast ++ ['-'],
        Expr.isAllowed c = false := by decide +kernel
  unfold SignsApart at h
  push Not at h
  obtain ⟨l, hl, hnegative⟩ := h
  obtain ⟨c, hc, hletter⟩ := hletters l.operator l.mem_wordOperators
  have hwords : c ∈ l.heardWords := by
    unfold Link.heardWords
    rwa [if_pos (by simpa using hnegative)]
  refine ⟨c, List.mem_append_right _ (List.mem_flatMap.2 ⟨l, hl, ?_⟩), hletter⟩
  exact List.mem_append_left _ hwords

theorem isAllowed_written : ∀ c ∈ q.written, Expr.isAllowed c = true := by
  have hoperand (o : Operand) : ∀ c ∈ o.written, Expr.isAllowed c = true := by
    have hsign : ∀ c ∈ o.sign, Expr.isAllowed c = true := by
      unfold Operand.sign
      cases o.negative <;> decide
    intro c hc
    rcases List.mem_append.1 hc with hc | hc
    · exact hsign c hc
    · exact Expr.isAllowed_of_isLiteralChar (o.magnitude.isLiteralChar_of_mem hc)
  have hoperators : ∀ w ∈ wordOperators, ∀ c ∈ w.2, Expr.isAllowed c = true := by decide
  intro c hc
  rcases List.mem_append.1 hc with hc | hc
  · exact hoperand _ c hc
  · obtain ⟨l, -, hc⟩ := List.mem_flatMap.1 hc
    rcases List.mem_append.1 hc with hc | hc
    · exact hoperators _ l.mem_wordOperators c hc
    · exact hoperand _ c hc

theorem heard_eq_written_iff : q.heard = q.written ↔ q.SignsApart := by
  refine ⟨fun h => ?_, q.heard_of_signsApart⟩
  by_contra hsigns
  obtain ⟨c, hc, hletter⟩ := q.exists_letter_of_not_signsApart hsigns
  rw [h] at hc
  rw [q.isAllowed_written c hc] at hletter
  cases hletter

end Spoken

/-- An expression in words is found as the expression in signs exactly if no sign follows an
operator.  Otherwise a word is left over, and what is found is refused for one of its letters. -/
theorem extract?_spoken_iff (q : Spoken) :
    (extract? (asking ++ q.text) = some q.written ↔ q.SignsApart) ∧
      (¬ q.SignsApart → ∃ x c, extract? (asking ++ q.text) = some x ∧
        Expr.parse x = .error (.invalidCharacter c)) := by
  rw [q.extract?_asking, Option.some.injEq]
  refine ⟨q.heard_eq_written_iff, fun hsigns => ?_⟩
  have hforeign : (q.heard.find? (!Expr.isAllowed ·)).isSome = true := by
    obtain ⟨c, hc, hletter⟩ := q.exists_letter_of_not_signsApart hsigns
    exact List.find?_isSome.2 ⟨c, hc, by simp [hletter]⟩
  obtain ⟨c, hc⟩ := Option.isSome_iff_exists.1 hforeign
  exact ⟨q.heard, c, rfl, Expr.parse_of_foreign hc⟩

/-- Two and minus three: behind an operator, either the sign or the operator stays a word. -/
theorem sign_behind_operator_left_over :
    extract? "сколько будет 2 плюс минус 3".toList = some "2+минус 3".toList ∧
    extract? "сколько будет 2 умножить минус 3".toList = some "2 умножить-3".toList ∧
    (Expr.evaluate "2+минус 3".toList : Except Expr.Error Float) =
      .error (.invalidCharacter 'м') ∧
    (Expr.evaluate "2+-3".toList : Except Expr.Error Float) = .ok (-1) := by
  decide +kernel

end Question
end ChatAssistant
