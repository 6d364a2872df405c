import ChatAssistant.Json.Basic
import ChatAssistant.Number.Hexadecimal

/-!
# Reading JSON

Exactly the values of the standard, with blanks around them and nothing else.
-/

namespace ChatAssistant
namespace Json

/-! ## Strings -/

/-- The character that a letter after a backslash stands for. -/
def escaped? : Char → Option Char
  | '"' => some '"'
  | '\\' => some '\\'
  | '/' => some '/'
  | 'b' => some '\x08'
  | 'f' => some '\x0c'
  | 'n' => some '\n'
  | 'r' => some '\r'
  | 't' => some '\t'
  | _ => none

def hex4? (a b c d : Char) : Option Nat := do
  let value := Hexadecimal.digitValue?
  return (((← value a) * 16 + (← value b)) * 16 + (← value c)) * 16 + (← value d)

/-- Reads a string behind its first quote: the numbers of its characters, where an escape by number
counts as one, and the text behind its last quote. -/
def units? : Text → Option (List Nat × Text)
  | [] => none
  | '"' :: r => some ([], r)
  | '\\' :: 'u' :: a :: b :: c :: d :: r => do
    let n ← hex4? a b c d
    let (ns, rest) ← units? r
    return (n :: ns, rest)
  | '\\' :: e :: r => do
    let c ← escaped? e
    let (ns, rest) ← units? r
    return (c.toNat :: ns, rest)
  | c :: r =>
    if c.toNat < 0x20 then none
    else do
      let (ns, rest) ← units? r
      return (c.toNat :: ns, rest)

/-- The first half of a pair of surrogates. -/
def isLeading (n : Nat) : Bool := 0xD800 ≤ n && n < 0xDC00

/-- The second half of a pair of surrogates. -/
def isTrailing (n : Nat) : Bool := 0xDC00 ≤ n && n < 0xE000

/-- The text of numbers, in which pairs of surrogates stand for one character. -/
def textOfUnits? : List Nat → Option Text
  | [] => some []
  | m :: n :: r =>
    if isLeading m then
      if isTrailing n then
        (textOfUnits? r).map (Char.ofNat (0x10000 + (m - 0xD800) * 0x400 + (n - 0xDC00)) :: ·)
      else none
    else if isTrailing m then none
    else (textOfUnits? (n :: r)).map (Char.ofNat m :: ·)
  | [n] => if isLeading n || isTrailing n then none else some [Char.ofNat n]

/-! ## Numbers -/

/-- The digits at the front, of which there has to be one. -/
def digits? (s : Text) : Option (Text × Text) :=
  let digits := s.takeWhile Text.isDigit
  if digits.isEmpty then none else some (digits, s.drop digits.length)

/-- The digits before the point: a single zero, or digits of which the first is none. -/
def whole? : Text → Option (Text × Text)
  | '0' :: r => if r.head?.elim false Text.isDigit then none else some (['0'], r)
  | s => digits? s

/-- The point and the digits after it, if there is a point. -/
def fraction? : Text → Option (Text × Text)
  | '.' :: r => digits? r
  | s => some ([], s)

def exponentSign : Text → Bool × Text
  | '-' :: r => (true, r)
  | '+' :: r => (false, r)
  | s => (false, s)

def exponent? : Text → Option (Option Int × Text)
  | c :: r =>
    if c = 'e' || c = 'E' then do
      let (isNegative, r) := exponentSign r
      let (digits, rest) ← digits? r
      let n : Int := Decimal.natOfDigits digits
      return (some (if isNegative then -n else n), rest)
    else some (none, c :: r)
  | [] => some (none, [])

/-- A number behind its sign. -/
def unsigned? (negative : Bool) (s : Text) : Option (Json × Text) := do
  let (whole, r) ← whole? s
  let (fraction, r) ← fraction? r
  let (exponent, r) ← exponent? r
  return (number ⟨negative, whole, fraction, exponent⟩, r)

/-! ## Values -/

def isBlank (c : Char) : Bool := [' ', '\t', '\n', '\r'].contains c

def skipBlanks (s : Text) : Text := s.dropWhile isBlank

/-- A value that is neither an array nor an object. -/
def scalar? : Text → Option (Json × Text)
  | 'n' :: 'u' :: 'l' :: 'l' :: r => some (null, r)
  | 't' :: 'r' :: 'u' :: 'e' :: r => some (bool true, r)
  | 'f' :: 'a' :: 'l' :: 's' :: 'e' :: r => some (bool false, r)
  | '"' :: r => (units? r).map fun (ns, rest) => (string (textOfUnits? ns), rest)
  | '-' :: r => unsigned? true r
  | s => unsigned? false s

def name? (s : Text) : Option (Option Text × Text) :=
  match skipBlanks s with
  | '"' :: r => do
    let (ns, r) ← units? r
    match skipBlanks r with
    | ':' :: r => some (textOfUnits? ns, r)
    | _ => none
  | _ => none

mutual

/-- Reads a value in at most `fuel` steps down or forward. -/
def value? : (fuel : Nat) → Text → Option (Json × Text)
  | 0, _ => none
  | fuel + 1, s =>
    match skipBlanks s with
    | '[' :: r =>
      match skipBlanks r with
      | ']' :: r => some (array [], r)
      | r => (items? fuel r).map fun (items, rest) => (array items, rest)
    | '\x7b' :: r =>
      match skipBlanks r with
      | '\x7d' :: r => some (object [], r)
      | r => (members? fuel r).map fun (members, rest) => (object members, rest)
    | s => scalar? s

def items? : (fuel : Nat) → Text → Option (List Json × Text)
  | 0, _ => none
  | fuel + 1, s => do
    let (item, r) ← value? fuel s
    match skipBlanks r with
    | ',' :: r =>
      let (items, rest) ← items? fuel r
      return (item :: items, rest)
    | ']' :: r => some ([item], r)
    | _ => none

def members? : (fuel : Nat) → Text → Option (List (Option Text × Json) × Text)
  | 0, _ => none
  | fuel + 1, s => do
    let (name, r) ← name? s
    let (value, r) ← value? fuel r
    match skipBlanks r with
    | ',' :: r =>
      let (members, rest) ← members? fuel r
      return ((name, value) :: members, rest)
    | '\x7d' :: r => some ([(name, value)], r)
    | _ => none

end

/-- The value that a text writes. No step leaves two others behind without a character between. -/
def parse? (s : Text) : Option Json :=
  match value? (2 * s.length + 2) s with
  | some (v, rest) => if (skipBlanks rest).isEmpty then some v else none
  | none => none

end Json
end ChatAssistant
