import ChatAssistant.Number.Decimal

/-!
# UTF-8

Reading text from bytes, with the place and the extent of the first fault, and writing it.
-/

namespace ChatAssistant
namespace Utf8

/-- The first fault of a sequence of bytes: where it starts, and how many bytes it takes. A sequence
that ends in the middle of a character has no extent. -/
structure Error where
  index : Nat
  length : Option Nat
  deriving DecidableEq, Repr

def Error.message (e : Error) : Text :=
  let place := Decimal.digitsOfNat e.index
  match e.length with
  | some n =>
    "invalid utf-8 sequence of ".toList ++ Decimal.digitsOfNat n ++ " bytes from index ".toList ++
      place
  | none => "incomplete utf-8 byte sequence from index ".toList ++ place

/-- What stands at the front of a sequence of bytes. -/
inductive Front where
  | char (c : Char) (width : Nat)
  | invalid (length : Nat)
  | incomplete

/-- Goes on with a character of which `seen` bytes are read with the value `value`, and `missing`
are left; the next one has to lie between `low` and `high`. -/
def continueChar (seen value low high : Nat) : (missing : Nat) → List UInt8 → Front
  | 0, _ => .char (Char.ofNat value) seen
  | _ + 1, [] => .incomplete
  | missing + 1, b :: r =>
    if low ≤ b.toNat && b.toNat ≤ high then
      continueChar (seen + 1) (value * 64 + (b.toNat - 0x80)) 0x80 0xBF missing r
    else .invalid seen

/-- The character that starts with the byte `b`. The bounds of the second byte leave out long forms,
surrogates and values beyond the last character. -/
def front (b : UInt8) (r : List UInt8) : Front :=
  let n := b.toNat
  if n < 0x80 then .char (Char.ofNat n) 1
  else if n < 0xC2 then .invalid 1
  else if n < 0xE0 then continueChar 1 (n - 0xC0) 0x80 0xBF 1 r
  else if n < 0xF0 then
    let low := if n = 0xE0 then 0xA0 else 0x80
    let high := if n = 0xED then 0x9F else 0xBF
    continueChar 1 (n - 0xE0) low high 2 r
  else if n < 0xF5 then
    let low := if n = 0xF0 then 0x90 else 0x80
    let high := if n = 0xF4 then 0x8F else 0xBF
    continueChar 1 (n - 0xF0) low high 3 r
  else .invalid 1

/-- Decodes bytes of which the first has the index `index`. -/
def decodeFrom (index : Nat) : List UInt8 → Except Error Text
  | [] => .ok []
  | b :: r =>
    match front b r with
    | .char c width => (decodeFrom (index + width) (r.drop (width - 1))).map (c :: ·)
    | .invalid length => .error ⟨index, some length⟩
    | .incomplete => .error ⟨index, none⟩
termination_by bytes => bytes.length
decreasing_by simp only [List.length_cons, List.length_drop]; omega

def decode (bytes : List UInt8) : Except Error Text := decodeFrom 0 bytes

def encode (s : Text) : List UInt8 := s.flatMap String.utf8EncodeChar

end Utf8
end ChatAssistant
