/-!
# Blank characters

A text is a list of characters. This file fixes which characters are blank (the Unicode property
`White_Space`) and the operations that look at nothing else: trimming, splitting into words, and
joining the words again with single spaces.
-/

namespace ChatAssistant

abbrev Text := List Char

namespace Text

/-! ## Ranges of characters -/

/-- `c` lies in one of the closed ranges of code points `ranges`. -/
def inRanges (ranges : List (Nat × Nat)) (c : Char) : Bool :=
  ranges.any fun r => r.1 ≤ c.toNat && c.toNat ≤ r.2

def blankRanges : List (Nat × Nat) :=
  [(0x09, 0x0D), (0x20, 0x20), (0x85, 0x85), (0xA0, 0xA0), (0x1680, 0x1680), (0x2000, 0x200A),
    (0x2028, 0x2029), (0x202F, 0x202F), (0x205F, 0x205F), (0x3000, 0x3000)]

def isBlank (c : Char) : Bool := inRanges blankRanges c

/-- The ten digits `0` to `9`; digits of other scripts are ordinary characters. -/
def isDigit (c : Char) : Bool := '0' ≤ c && c ≤ '9'

def hasDigit (s : Text) : Bool := s.any isDigit

/-! ## Trimming -/

/-- `s` without the characters at its end that satisfy `p`. -/
def dropEndWhile (p : Char → Bool) (s : Text) : Text := (s.reverse.dropWhile p).reverse

/-- `s` without the characters at either end that satisfy `p`. -/
def stripWhile (p : Char → Bool) (s : Text) : Text := dropEndWhile p (s.dropWhile p)

def trim (s : Text) : Text := stripWhile isBlank s

def isBlankText (s : Text) : Bool := s.all isBlank

/-! ## Words -/

theorem length_dropWhile_le (p : Char → Bool) (s : Text) : (s.dropWhile p).length ≤ s.length :=
  (List.dropWhile_sublist p).length_le

/-- The words of `s`: its maximal runs of characters that are not blank. -/
def words (s : Text) : List Text :=
  match _h : s.dropWhile isBlank with
  | [] => []
  | c :: r => (c :: r.takeWhile (!isBlank ·)) :: words (r.dropWhile (!isBlank ·))
termination_by s.length
decreasing_by
  have h₁ := length_dropWhile_le isBlank s
  have h₂ := length_dropWhile_le (!isBlank ·) r
  rw [_h, List.length_cons] at h₁
  omega

/-- The words of `s` with one space between neighbours and none at the ends. -/
def collapse (s : Text) : Text := [' '].intercalate (words s)

end Text
end ChatAssistant
