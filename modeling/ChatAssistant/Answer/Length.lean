import ChatAssistant.Text.Blank

/-!
# The length of answers

Lengths are counted in characters. An answer over its ceiling is cut and ends in a notice, a summary
over its limit is cut and ends in three dots, and a preview is the start of a text on one line.
-/

namespace ChatAssistant
namespace Answer

def truncationNotice : Text := "\n\n... (сообщение обрезано)".toList

def ellipsis : Text := "...".toList

/-- An answer of at most `ceiling` characters, notice included. A ceiling shorter than the notice
leaves nothing but the notice. -/
def enforceCeiling (ceiling : Nat) (answer : Text) : Text :=
  if answer.length ≤ ceiling then answer
  else answer.take (ceiling - truncationNotice.length) ++ truncationNotice

/-- The text without blanks at its ends, cut to `limit` characters if it is longer. -/
def truncate (limit : Nat) (s : Text) : Text :=
  if s.length ≤ limit then Text.trim s else Text.trim (s.take limit) ++ ellipsis

def isControl (c : Char) : Bool := c.toNat < 0x20 || (0x7F ≤ c.toNat && c.toNat ≤ 0x9F)

/-- The start of a text with its control characters replaced by spaces. -/
def preview (limit : Nat) (s : Text) : Text :=
  let flat := (s.map fun c => if isControl c then ' ' else c).take limit
  if limit < s.length then flat ++ ellipsis else flat

end Answer
end ChatAssistant
