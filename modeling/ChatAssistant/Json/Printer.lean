import ChatAssistant.Json.Basic
import ChatAssistant.Number.Hexadecimal

/-!
# Writing JSON

The text of a value, without blanks.
-/

namespace ChatAssistant
namespace Json

def escape (c : Char) : Text :=
  if c = '"' || c = '\\' then ['\\', c]
  else if c = '\x08' then ['\\', 'b']
  else if c = '\x0c' then ['\\', 'f']
  else if c = '\n' then ['\\', 'n']
  else if c = '\r' then ['\\', 'r']
  else if c = '\t' then ['\\', 't']
  else if c.toNat < 0x10 then "\\u000".toList ++ Hexadecimal.digitsOfNat c.toNat
  else if c.toNat < 0x20 then "\\u00".toList ++ Hexadecimal.digitsOfNat c.toNat
  else [c]

def quoted (s : Text) : Text := '"' :: s.flatMap escape ++ ['"']

def intText (n : Int) : Text :=
  if n < 0 then '-' :: Decimal.digitsOfNat n.natAbs else Decimal.digitsOfNat n.natAbs

/-- An object, from the texts of its values. -/
def objectText (members : List (Text × Text)) : Text :=
  '\x7b' :: [','].intercalate (members.map fun m => quoted m.1 ++ ':' :: m.2) ++ ['\x7d']

end Json
end ChatAssistant
