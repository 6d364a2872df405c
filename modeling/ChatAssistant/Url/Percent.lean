import ChatAssistant.Number.Hexadecimal
import ChatAssistant.Text.Utf8

/-!
# Percent-encoding

A byte outside a set of plain characters is written as `%` and two hexadecimal digits. Each part of
an address has its own set; decoding is the same for all. Bytes that are not ASCII are always
encoded. The main statement is `decode_encode`: what was encoded reads back, if the set encodes `%`.
-/

namespace ChatAssistant
namespace Url
namespace Percent

/-! ## Encoding -/

/-- One byte as `%` and two digits. -/
def escape (b : UInt8) : Text :=
  ['%', Hexadecimal.digit (b.toNat / 16), Hexadecimal.digit (b.toNat % 16)]

/-- Encodes the bytes that are not ASCII and those whose character satisfies `special`. -/
def encodeByte (special : Char → Bool) (b : UInt8) : Text :=
  if b.toNat < 0x80 && !special (Char.ofNat b.toNat) then [Char.ofNat b.toNat] else escape b

/-- Encodes the characters of `s` that are not ASCII and those that satisfy `special`. -/
def encode (special : Char → Bool) (s : Text) : Text :=
  (Utf8.encode s).flatMap (encodeByte special)

def isControl (c : Char) : Bool := c.toNat < 0x20 || c.toNat = 0x7F

def inFragment (c : Char) : Bool :=
  isControl c || [' ', '"', '<', '>', '\x60'].contains c

def inPath (c : Char) : Bool := inFragment c || ['#', '?', '\x7b', '\x7d'].contains c

/-- What is encoded in a segment that is put at the end of a path. -/
def inSegment (c : Char) : Bool := inPath c || ['/', '%', '\\'].contains c

def inCredentials (c : Char) : Bool :=
  inPath c || ['/', ':', ';', '=', '@', '[', '\\', ']', '^', '|'].contains c

/-- What is encoded in a query; an apostrophe only where the scheme is a special one. -/
def inQuery (specialScheme : Bool) (c : Char) : Bool :=
  isControl c || [' ', '"', '#', '<', '>'].contains c || (specialScheme && c == '\'')

/-! ## Decoding -/

/-- The bytes of a text in which `%` and two digits stand for one byte. -/
def decode : Text → List UInt8
  | '%' :: a :: b :: r =>
    match Hexadecimal.digitValue? a, Hexadecimal.digitValue? b with
    | some m, some n => UInt8.ofNat (16 * m + n) :: decode r
    | _, _ => Utf8.encode ['%'] ++ decode (a :: b :: r)
  | c :: r => Utf8.encode [c] ++ decode r
  | [] => []
termination_by s => s.length

/-! ## The characters of an escape -/

/-- Digits to the base 16 are letters and digits of ASCII. -/
theorem isAlphanum_digit {n : Nat} (h : n < 16) : (Hexadecimal.digit n).isAlphanum = true := by
  have hall : ∀ k ∈ List.range 16, (Hexadecimal.digit k).isAlphanum = true := by decide
  exact hall n (List.mem_range.2 h)

theorem mem_escape {b : UInt8} {c : Char} (h : c ∈ escape b) : c = '%' ∨ c.isAlphanum = true := by
  have hhigh : b.toNat / 16 < 16 := by
    have hsize := b.toNat_lt
    omega
  have hlow : b.toNat % 16 < 16 := Nat.mod_lt _ (by decide)
  simp only [escape, List.mem_cons, List.not_mem_nil, or_false] at h
  rcases h with rfl | rfl | rfl
  · exact .inl rfl
  · exact .inr (isAlphanum_digit hhigh)
  · exact .inr (isAlphanum_digit hlow)

/-! ## Reading back -/

theorem utf8_encode_ascii {n : Nat} (h : n < 0x80) :
    Utf8.encode [Char.ofNat n] = [UInt8.ofNat n] := by
  have hv : n.isValidChar := Or.inl (by omega)
  have hc : (Char.ofNat n).val.toNat = n := by
    rw [Char.ofNat, dif_pos hv]
    rfl
  simp [Utf8.encode, String.utf8EncodeChar, hc, Nat.le_of_lt_succ h]

theorem decode_escape (b : UInt8) (rest : Text) : decode (escape b ++ rest) = b :: decode rest := by
  have hm : b.toNat / 16 < 16 := by have := b.toNat_lt; omega
  have hn : b.toNat % 16 < 16 := Nat.mod_lt _ (by decide)
  have hb : UInt8.ofNat (16 * (b.toNat / 16) + b.toNat % 16) = b := by
    rw [Nat.div_add_mod]; exact UInt8.ofNat_toNat
  simp only [escape, List.cons_append, List.nil_append]
  rw [decode]
  simp only [Hexadecimal.digitValue?_digit hm, Hexadecimal.digitValue?_digit hn, hb]

theorem decode_cons_of_ne {c : Char} (h : c ≠ '%') (rest : Text) :
    decode (c :: rest) = Utf8.encode [c] ++ decode rest := by
  rw [decode]
  intro a b r hc _
  exact h hc

theorem decode_encodeByte {special : Char → Bool} (h : special '%' = true) (b : UInt8)
    (rest : Text) : decode (encodeByte special b ++ rest) = b :: decode rest := by
  unfold encodeByte
  split
  · next hb =>
    simp only [Bool.and_eq_true, decide_eq_true_eq, Bool.not_eq_true'] at hb
    have hc : Char.ofNat b.toNat ≠ '%' := fun hc => by rw [hc, h] at hb; cases hb.2
    rw [List.singleton_append, decode_cons_of_ne hc, utf8_encode_ascii hb.1, UInt8.ofNat_toNat]
    rfl
  · exact decode_escape b rest

theorem decode_flatMap_encodeByte {special : Char → Bool} (h : special '%' = true)
    (bytes : List UInt8) : decode (bytes.flatMap (encodeByte special)) = bytes := by
  induction bytes with
  | nil => simp [decode]
  | cons b r ih => rw [List.flatMap_cons, decode_encodeByte h, ih]

/-- What was encoded reads back. -/
theorem decode_encode {special : Char → Bool} (h : special '%' = true) (s : Text) :
    decode (encode special s) = Utf8.encode s :=
  decode_flatMap_encodeByte h (Utf8.encode s)

end Percent
end Url
end ChatAssistant
