import ChatAssistant.Url.Domain.MappingTable
import ChatAssistant.Url.Domain.Table

/-!
# The characters of a name as it is typed

A name is typed in many ways: with capital letters, in wide or decorated forms, with other dots.
Each character that may be typed stands for none, one or several characters of the name.
-/

namespace ChatAssistant
namespace Url
namespace Domain

def permitted : List Row := rows permittedTable

def replacements : List Row := rows replacementTable

/-- The characters that a row puts in the place of `c`: those of the row, or, where it holds a
single one, the one as far from it as `c` is from the first of the row. -/
def Row.image (r : Row) (c : Char) : Text :=
  match r.values with
  | [v] => [Char.ofNat (v + (c.toNat - r.first))]
  | vs => vs.map Char.ofNat

/-- What a typed character stands for; none if it may not be typed. -/
def typed? (c : Char) : Option Text :=
  if isIn permitted c then
    some ((row? replacements c.toNat).elim [c] (·.image c))
  else none

/-- The character may stand in a name, and stands for itself. -/
def isPlain (c : Char) : Bool := isIn permitted c && (row? replacements c.toNat).isNone

/-- What a typed text stands for. -/
def ofTyped? (s : Text) : Option Text := (s.mapM typed?).map List.flatten

end Domain
end Url
end ChatAssistant
