import ChatAssistant.Url.Domain.CompositionTable
import ChatAssistant.Url.Domain.Table

/-!
# The composed form of a text

A letter with its marks is written in one way: the text is taken apart, the marks on a letter are
put in the order of their classes, and what can be composed is composed again. Syllables of Hangul
are composed by arithmetic, everything else by a table.
-/

namespace ChatAssistant
namespace Url
namespace Domain

/-! ## Pairs -/

def composites : List Row := rows compositeTable

def combining : List Row := rows combiningTable

/-- The class of a character in the order of marks; zero for a character that is no mark. -/
def combiningClass (c : Char) : Nat :=
  ((row? combining c.toNat).bind (·.values.head?)).getD 0

/-- The two parts of a syllable of Hangul: its last consonant and the rest, or its consonant and its
vowel. -/
def hangulParts? (n : Nat) : Option (Nat × Nat) :=
  if 0xAC00 ≤ n ∧ n < 0xAC00 + 11172 then
    let i := n - 0xAC00
    if i % 28 = 0 then some (0x1100 + i / 588, 0x1161 + i % 588 / 28)
    else some (n - i % 28, 0x11A7 + i % 28)
  else none

def hangulWhole? (a b : Nat) : Option Nat :=
  if 0x1100 ≤ a ∧ a < 0x1113 ∧ 0x1161 ≤ b ∧ b < 0x1176 then
    some (0xAC00 + ((a - 0x1100) * 21 + (b - 0x1161)) * 28)
  else if 0xAC00 ≤ a ∧ a < 0xAC00 + 11172 ∧ (a - 0xAC00) % 28 = 0 ∧ 0x11A7 < b ∧ b < 0x11C3 then
    some (a + (b - 0x11A7))
  else none

def parts? (c : Char) : Option (Char × Char) :=
  match hangulParts? c.toNat with
  | some (a, b) => some (Char.ofNat a, Char.ofNat b)
  | none =>
    match (row? composites c.toNat).map (·.values) with
    | some [a, b] => some (Char.ofNat a, Char.ofNat b)
    | _ => none

def whole? (a b : Char) : Option Char :=
  match hangulWhole? a.toNat b.toNat with
  | some n => some (Char.ofNat n)
  | none => (composites.find? (·.values == [a.toNat, b.toNat])).map fun r => Char.ofNat r.first

/-! ## Taking apart -/

/-- Takes a character apart, and what comes first again, at most `depth` times. -/
def partsWithin : (depth : Nat) → Char → Text
  | 0, c => [c]
  | depth + 1, c =>
    match parts? c with
    | some (a, b) => partsWithin depth a ++ [b]
    | none => [c]

/-- A character taken apart; no character needs more than four steps. -/
def decompose (c : Char) : Text := partsWithin 4 c

/-- Puts a mark behind the marks of its class and of lower classes. -/
def insertMark (c : Char) : Text → Text
  | [] => [c]
  | d :: r =>
    if combiningClass c < combiningClass d then c :: d :: r else d :: insertMark c r

/-- Puts the marks that follow each other in the order of their classes; `marks` are those just
read. -/
def sortMarks (marks : Text) : Text → Text
  | [] => marks
  | c :: r =>
    if combiningClass c = 0 then marks ++ c :: sortMarks [] r else sortMarks (insertMark c marks) r

/-! ## Composing -/

/-- Goes on composing behind `base`; `kept` are the marks after it that were not composed with it. A
mark is composed with the base only if the last of those is of a lower class. -/
def composeFrom (base : Char) (kept : Text) : Text → Text
  | [] => base :: kept
  | c :: r =>
    let rank := combiningClass c
    let blocked := kept.getLast?.elim false fun d => rank ≤ combiningClass d
    match if blocked then none else whole? base c with
    | some whole => composeFrom whole kept r
    | none =>
      if rank = 0 then base :: kept ++ composeFrom c [] r else composeFrom base (kept ++ [c]) r

def composeAll : Text → Text
  | [] => []
  | c :: r => if combiningClass c = 0 then composeFrom c [] r else c :: composeAll r

def compose (s : Text) : Text := composeAll (sortMarks [] (s.flatMap decompose))

end Domain
end Url
end ChatAssistant
