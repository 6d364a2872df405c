import ChatAssistant.Url.Basic

/-!
# Form parameters

The query of an address as a list of names and values: pairs between `&`, each a name, `=` and a
value, in which letters, digits and `*-._` stand for themselves, `+` for a space, and all other
bytes are percent-encoded.
-/

namespace ChatAssistant
namespace Url
namespace Form

/-! ## Writing -/

/-- A character that stands for itself. -/
def isBare (c : Char) : Bool := c.isAlphanum || ['*', '-', '.', '_'].contains c

def encodeByte (b : UInt8) : Text :=
  if b = 0x20 then ['+'] else Percent.encodeByte (!isBare ·) b

/-- A name or value as it is written. -/
def encode (s : Text) : Text := (Utf8.encode s).flatMap encodeByte

def pairText (pair : Text × Text) : Text := encode pair.1 ++ '=' :: encode pair.2

def text (pairs : List (Text × Text)) : Text := ['&'].intercalate (pairs.map pairText)

/-! ## Reading -/

/-- A name or value, as bytes. -/
def decode (s : Text) : List UInt8 := Percent.decode (s.map fun c => if c = '+' then ' ' else c)

/-- A pair, as bytes. Without `=` the value is empty. -/
def pairOfText (s : Text) : List UInt8 × List UInt8 :=
  (decode (s.takeWhile (· ≠ '=')), decode ((s.dropWhile (· ≠ '=')).drop 1))

/-- The pairs of a query, as bytes. -/
def pairs (query : Text) : List (List UInt8 × List UInt8) :=
  ((query.splitOn '&').filter (!·.isEmpty)).map pairOfText

end Form

/-- The address with pairs added to its query. -/
def addPairs (u : Url) (pairs : List (Text × Text)) : Url :=
  let before := u.query.getD []
  let added := Form.text pairs
  { u with query := some (if before.isEmpty then added else before ++ '&' :: added) }

end Url
end ChatAssistant
