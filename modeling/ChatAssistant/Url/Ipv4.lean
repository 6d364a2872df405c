import ChatAssistant.Number.Decimal
import ChatAssistant.Number.Hexadecimal
import ChatAssistant.Url.Error

/-!
# Addresses of four bytes

A host whose last part is a number is an address of four bytes. Its parts are decimal, octal or
hexadecimal numbers; a part stands for one byte, and the last one also for the bytes of the parts
that are left out.
-/

namespace ChatAssistant
namespace Url

structure Ipv4 where
  value : Nat
  deriving DecidableEq, Repr

namespace Ipv4

/-- The parts between dots, without an empty one at the end. -/
def parts (s : Text) : List Text :=
  let all := s.splitOn '.'
  if all.getLast? = some [] then all.dropLast else all

/-- The value of digits in `base`, if all are digits of it. -/
def value? (base : Nat) (digits : Text) : Option Nat :=
  digits.foldl
    (fun acc c => do
      let d ← Hexadecimal.digitValue? c
      if d < base then some (base * (← acc) + d) else none)
    (some 0)

/-- The number that a part writes: hexadecimal after `0x`, octal after `0`, else decimal. -/
def partValue? : Text → Option Nat
  | [] => none
  | '0' :: 'x' :: r => value? 16 r
  | '0' :: 'X' :: r => value? 16 r
  | '0' :: c :: r => value? 8 (c :: r)
  | s => value? 10 s

/-- The last part is a number, whether or not the whole is an address. -/
def endsInNumber (s : Text) : Bool :=
  match (parts s).getLast? with
  | none => false
  | some last =>
    (!last.isEmpty && last.all Text.isDigit) || (partValue? last).isSome

/-- The address of the values of its parts: all but the last are bytes, and the last fills the rest.
-/
def ofValues? (values : List Nat) : Option Ipv4 :=
  match values.reverse with
  | [] => none
  | last :: front =>
    let room := Nat.pow 256 (4 - front.length)
    if 4 < values.length || front.any (255 < ·) || room ≤ last then none
    else some ⟨front.reverse.foldl (fun n b => 256 * n + b) 0 * room + last⟩

def parse? (s : Text) : Option Ipv4 := do ofValues? (← (parts s).mapM partValue?)

def toText (a : Ipv4) : Text :=
  ['.'].intercalate
    ([16777216, 65536, 256, 1].map fun unit => Decimal.digitsOfNat (a.value / unit % 256))

end Ipv4
end Url
end ChatAssistant
