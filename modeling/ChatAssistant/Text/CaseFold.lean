import ChatAssistant.Text.Blank

/-!
# Matching without regard to case

Phrases in lower-case Russian letters are matched up to simple case folding. Besides the capitals
there are old letter forms in the block from U+1C80 on which fold to the same letters, so they match
too.
-/

namespace ChatAssistant
namespace Text

/-- The simple case folding of the letters that fold to a Russian letter; other characters stay as
they are. -/
def foldCase (c : Char) : Char :=
  let n := c.toNat
  if 0x410 ≤ n && n ≤ 0x42F then Char.ofNat (n + 0x20)
  else if 0x400 ≤ n && n ≤ 0x40F then Char.ofNat (n + 0x50)
  else
    match n with
    | 0x1C80 => 'в'
    | 0x1C81 => 'д'
    | 0x1C82 => 'о'
    | 0x1C83 => 'с'
    | 0x1C84 => 'т'
    | 0x1C85 => 'т'
    | 0x1C86 => 'ъ'
    | _ => c

/-- What follows `phrase` at the start of a text, when the text starts with it up to case. -/
def dropPhrase? : Text → Text → Option Text
  | [], s => some s
  | _ :: _, [] => none
  | p :: ps, c :: r => if foldCase c = p then dropPhrase? ps r else none

/-- The values that `step` finds in the suffixes of a text, the first of them in text order. -/
def findFirst? {α : Type} (step : Text → Option α) : Text → Option α
  | [] => step []
  | c :: r => (step (c :: r)).or (findFirst? step r)

end Text
end ChatAssistant
