import ChatAssistant.Text.CaseFold
import ChatAssistant.Text.Lowercase
import ChatAssistant.Text.Substring

/-!
# Expressions inside questions

Finds the part of a question that is meant as an arithmetic expression. What follows a trigger
phrase comes first, then a run of operator characters in front of an equals sign, then the longest
such run anywhere. Operators written as words are replaced by their signs.
-/

namespace ChatAssistant
namespace Question

/-! ## Operators written as words -/

/-- The word operators with a blank on either side, and their signs; longer ones come first. -/
def wordOperators : List (Text × Text) :=
  [(" умножить на ".toList, "*".toList), (" разделить на ".toList, "/".toList),
    (" делить на ".toList, "/".toList), (" плюс ".toList, "+".toList),
    (" минус ".toList, "-".toList), (" умножить ".toList, "*".toList),
    (" разделить ".toList, "/".toList), (" на ".toList, "/".toList)]

/-- The text in lower case with the word operators replaced and its blanks collapsed. The text is
padded, so that a word at either end has its blanks too. -/
def replaceWords (s : Text) : Text :=
  let padded := ' ' :: Text.lowercase (Text.trim s) ++ [' ']
  Text.collapse (wordOperators.foldl (fun t w => Text.replaceAll w.1 w.2 t) padded)

/-! ## Candidates -/

/-- A phrase that announces an expression, and the character that ends it. -/
structure Trigger where
  phrase : Text
  stop : Char

def triggers : List Trigger :=
  [⟨"сколько будет".toList, '?'⟩, ⟨"посчитай".toList, '.'⟩, ⟨"вычисли".toList, '.'⟩]

/-- What the trigger announces when it stands at the start of `s`: at least one blank after the
phrase, then everything up to the stop. With nothing there but two blanks or more, the last of the
blanks is announced. -/
def Trigger.announcedAt? (t : Trigger) (s : Text) : Option Text := do
  let rest ← Text.dropPhrase? t.phrase s
  let blanks := rest.takeWhile Text.isBlank
  let announced := (rest.dropWhile Text.isBlank).takeWhile (· != t.stop)
  match blanks.getLast? with
  | none => none
  | some last =>
    if !announced.isEmpty then some announced
    else if 2 ≤ blanks.length then some [last]
    else none

/-- What the first place with the trigger announces. -/
def Trigger.announced? (t : Trigger) (s : Text) : Option Text :=
  Text.findFirst? t.announcedAt? s

/-- The characters of a run: digits, blanks, signs, brackets and points. -/
def isRunChar (c : Char) : Bool :=
  Text.isDigit c || Text.isBlank c || "+-*/^().".toList.contains c

/-- The first run with a digit that an equals sign follows. -/
def runBeforeEquals? (s : Text) : Option Text :=
  match _h : s.dropWhile (!isRunChar ·) with
  | [] => none
  | c :: r =>
    let run := c :: r.takeWhile isRunChar
    let rest := r.dropWhile isRunChar
    if Text.hasDigit run && rest.head? == some '=' then some run else runBeforeEquals? rest
termination_by s.length
decreasing_by
  have h₁ := Text.length_dropWhile_le (!isRunChar ·) s
  have h₂ := Text.length_dropWhile_le isRunChar r
  rw [_h, List.length_cons] at h₁
  omega

def byteLength (s : Text) : Nat := s.foldr (fun c n => c.utf8Size + n) 0

/-- A longest text of a list, the last of several. -/
def longest? (texts : List Text) : Option Text :=
  texts.foldl
    (fun best t =>
      match best with
      | none => some t
      | some b => if byteLength b ≤ byteLength t then some t else some b)
    none

/-- The longest run with a digit, less the blanks and points at its ends. -/
def longestRun? (s : Text) : Option Text :=
  let stripped := (Text.runs isRunChar s).map (Text.stripWhile fun c => Text.isBlank c || c == '.')
  longest? (stripped.filter Text.hasDigit)

/-! ## The expression of a question -/

/-- The candidate with its word operators replaced, if a digit is left in it. -/
def withDigit? (candidate : Text) : Option Text :=
  let expression := replaceWords candidate
  if Text.hasDigit expression then some expression else none

def extract? (question : Text) : Option Text :=
  let announced := triggers.findSome? fun t => (t.announced? question).bind withDigit?
  announced.or <| ((runBeforeEquals? question).bind withDigit?).or <|
    (longestRun? question).map replaceWords

end Question
end ChatAssistant
