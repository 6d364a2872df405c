import ChatAssistant.Text.Utf8
import Mathlib.Data.List.Basic

/-!
# Text and its bytes

Decoding is the inverse of encoding: bytes decode to a text exactly if they are the bytes of the
text, so bytes that are those of no text have a fault.  One character is read at a time, and
`front_utf8EncodeChar` and `exists_of_front` say that a character is read exactly where its own
bytes stand.

A byte below `0x80` is never part of a longer character, so it can be told from the bytes of a text
how the text ends (`exists_of_encode_concat`).  A reader that puts a mark in the place of a fault
(`decodeLossy`) finds none in the bytes of a text.
-/

namespace ChatAssistant
namespace Utf8

variable {b : UInt8} {c : Char} {r bytes : List UInt8} {s : Text}
  {seen value low high missing width : Nat}

/-! ## One character -/

theorem toNat_ofNat {n : Nat} (h : n.isValidChar) : (Char.ofNat n).toNat = n := by
  unfold Char.ofNat
  rw [dif_pos h]
  rfl

/-- The two ranges of the values of characters. -/
theorem toNat_lt (c : Char) : c.toNat < 0xD800 ∨ 0xDFFF < c.toNat ∧ c.toNat < 0x110000 :=
  c.valid

theorem utf8EncodeChar_eq (c : Char) :
    String.utf8EncodeChar c =
      if c.toNat ≤ 0x7F then [UInt8.ofNat c.toNat]
      else if c.toNat ≤ 0x7FF then
        [UInt8.ofNat (c.toNat / 64 % 32 + 0xC0), UInt8.ofNat (c.toNat % 64 + 0x80)]
      else if c.toNat ≤ 0xFFFF then
        [UInt8.ofNat (c.toNat / 4096 % 16 + 0xE0), UInt8.ofNat (c.toNat / 64 % 64 + 0x80),
          UInt8.ofNat (c.toNat % 64 + 0x80)]
      else
        [UInt8.ofNat (c.toNat / 262144 % 8 + 0xF0), UInt8.ofNat (c.toNat / 4096 % 64 + 0x80),
          UInt8.ofNat (c.toNat / 64 % 64 + 0x80), UInt8.ofNat (c.toNat % 64 + 0x80)] :=
  rfl

/-- The value of a byte that is written by its value. -/
theorem toNat_byte {n : Nat} (h : n < 0x100) : (UInt8.ofNat n).toNat = n :=
  UInt8.toNat_ofNat_of_lt h

theorem ofNat_eq_of_toNat {n : Nat} (h : n = b.toNat) : UInt8.ofNat n = b := by
  rw [h, UInt8.ofNat_toNat]

theorem continueChar_cons (hlow : low ≤ b.toNat) (hhigh : b.toNat ≤ high) (r : List UInt8) :
    continueChar seen value low high (missing + 1) (b :: r) =
      continueChar (seen + 1) (value * 64 + (b.toNat - 0x80)) 0x80 0xBF missing r := by
  rw [continueChar, if_pos (by simp [hlow, hhigh])]

/-- A character goes on with a byte between the bounds. -/
theorem exists_of_continueChar
    (h : continueChar seen value low high (missing + 1) r = .char c width) :
    ∃ b r', r = b :: r' ∧ low ≤ b.toNat ∧ b.toNat ≤ high ∧
      continueChar (seen + 1) (value * 64 + (b.toNat - 0x80)) 0x80 0xBF missing r' =
        .char c width := by
  cases r with
  | nil => cases h
  | cons b r =>
      rw [continueChar] at h
      split at h
      · rename_i hin
        simp only [Bool.and_eq_true, decide_eq_true_eq] at hin
        exact ⟨b, r, rfl, hin.1, hin.2, h⟩
      · cases h

/-- It ends when no byte is missing. -/
theorem eq_of_continueChar (h : continueChar seen value low high 0 r = .char c width) :
    c = Char.ofNat value ∧ width = seen := by
  rw [continueChar, Front.char.injEq] at h
  exact ⟨h.1.symm, h.2.symm⟩

/-- Where the bytes of a character stand, the character is read. -/
theorem front_utf8EncodeChar (c : Char) (rest : List UInt8) :
    ∃ b tail, String.utf8EncodeChar c = b :: tail ∧
      front b (tail ++ rest) = .char c (tail.length + 1) := by
  have hvalue := toNat_lt c
  have hback {n : Nat} (hn : n = c.toNat) : Char.ofNat n = c := by rw [hn, Char.ofNat_toNat]
  have hlast : (UInt8.ofNat (c.toNat % 64 + 0x80)).toNat = c.toNat % 64 + 0x80 :=
    toNat_byte (by omega)
  have hmiddle : (UInt8.ofNat (c.toNat / 64 % 64 + 0x80)).toNat = c.toNat / 64 % 64 + 0x80 :=
    toNat_byte (by omega)
  rw [utf8EncodeChar_eq]
  generalize c.toNat = v at *
  split
  · have hfirst : (UInt8.ofNat v).toNat = v := toNat_byte (by omega)
    refine ⟨_, _, rfl, ?_⟩
    simp only [front, hfirst]
    rw [if_pos (by omega), hback rfl]
    rfl
  split
  · have hfirst : (UInt8.ofNat (v / 64 % 32 + 0xC0)).toNat = v / 64 % 32 + 0xC0 :=
      toNat_byte (by omega)
    refine ⟨_, _, rfl, ?_⟩
    simp only [front, hfirst, List.cons_append]
    rw [if_neg (by omega), if_neg (by omega), if_pos (by omega),
      continueChar_cons (by omega) (by omega), hlast, continueChar, hback (by omega)]
    rfl
  split
  · have hfirst : (UInt8.ofNat (v / 4096 % 16 + 0xE0)).toNat = v / 4096 % 16 + 0xE0 :=
      toNat_byte (by omega)
    refine ⟨_, _, rfl, ?_⟩
    simp only [front, hfirst, List.cons_append]
    rw [if_neg (by omega), if_neg (by omega), if_neg (by omega), if_pos (by omega),
      continueChar_cons (by split <;> omega) (by split <;> omega), hmiddle,
      continueChar_cons (by omega) (by omega), hlast, continueChar, hback (by omega)]
    rfl
  · have hfirst : (UInt8.ofNat (v / 262144 % 8 + 0xF0)).toNat = v / 262144 % 8 + 0xF0 :=
      toNat_byte (by omega)
    have hsecond : (UInt8.ofNat (v / 4096 % 64 + 0x80)).toNat = v / 4096 % 64 + 0x80 :=
      toNat_byte (by omega)
    refine ⟨_, _, rfl, ?_⟩
    simp only [front, hfirst, List.cons_append]
    rw [if_neg (by omega), if_neg (by omega), if_neg (by omega), if_neg (by omega),
      if_pos (by omega), continueChar_cons (by split <;> omega) (by split <;> omega), hsecond,
      continueChar_cons (by omega) (by omega), hmiddle,
      continueChar_cons (by omega) (by omega), hlast, continueChar, hback (by omega)]
    rfl

/-- Where a character is read, its bytes stand. -/
theorem exists_of_front (h : front b r = .char c width) :
    ∃ tail rest, r = tail ++ rest ∧ width = tail.length + 1 ∧
      String.utf8EncodeChar c = b :: tail := by
  have hb := b.toNat_lt
  unfold front at h
  dsimp only at h
  split at h
  · rename_i hone
    cases h
    have hvalid : b.toNat.isValidChar := .inl (by omega)
    refine ⟨[], r, rfl, rfl, ?_⟩
    rw [utf8EncodeChar_eq, toNat_ofNat hvalid, if_pos (by omega), UInt8.ofNat_toNat]
  split at h
  · cases h
  split at h
  · obtain ⟨b₁, r₁, rfl, hlow₁, hhigh₁, h⟩ := exists_of_continueChar h
    obtain ⟨hc, hwidth⟩ := eq_of_continueChar h
    have hvalid : ((b.toNat - 0xC0) * 64 + (b₁.toNat - 0x80)).isValidChar := .inl (by omega)
    refine ⟨[b₁], r₁, rfl, hwidth, ?_⟩
    rw [hc, utf8EncodeChar_eq, toNat_ofNat hvalid, if_neg (by omega), if_pos (by omega),
      ofNat_eq_of_toNat (b := b) (by omega), ofNat_eq_of_toNat (b := b₁) (by omega)]
  split at h
  · obtain ⟨b₁, r₁, rfl, hlow₁, hhigh₁, h⟩ := exists_of_continueChar h
    obtain ⟨b₂, r₂, rfl, hlow₂, hhigh₂, h⟩ := exists_of_continueChar h
    obtain ⟨hc, hwidth⟩ := eq_of_continueChar h
    -- the bounds keep the value out of the gap for surrogates, and out of the shorter forms
    have hbounds : (b.toNat = 0xE0 → 0xA0 ≤ b₁.toNat) ∧ (b.toNat = 0xED → b₁.toNat ≤ 0x9F) ∧
        0x80 ≤ b₁.toNat ∧ b₁.toNat ≤ 0xBF := by
      split at hlow₁ <;> split at hhigh₁ <;> omega
    have hvalid : (((b.toNat - 0xE0) * 64 + (b₁.toNat - 0x80)) * 64 +
        (b₂.toNat - 0x80)).isValidChar := by
      unfold Nat.isValidChar
      omega
    refine ⟨[b₁, b₂], r₂, rfl, hwidth, ?_⟩
    rw [hc, utf8EncodeChar_eq, toNat_ofNat hvalid, if_neg (by omega), if_neg (by omega),
      if_pos (by omega), ofNat_eq_of_toNat (b := b) (by omega),
      ofNat_eq_of_toNat (b := b₁) (by omega), ofNat_eq_of_toNat (b := b₂) (by omega)]
  split at h
  · obtain ⟨b₁, r₁, rfl, hlow₁, hhigh₁, h⟩ := exists_of_continueChar h
    obtain ⟨b₂, r₂, rfl, hlow₂, hhigh₂, h⟩ := exists_of_continueChar h
    obtain ⟨b₃, r₃, rfl, hlow₃, hhigh₃, h⟩ := exists_of_continueChar h
    obtain ⟨hc, hwidth⟩ := eq_of_continueChar h
    -- and within the values of characters
    have hbounds : (b.toNat = 0xF0 → 0x90 ≤ b₁.toNat) ∧ (b.toNat = 0xF4 → b₁.toNat ≤ 0x8F) ∧
        0x80 ≤ b₁.toNat ∧ b₁.toNat ≤ 0xBF := by
      split at hlow₁ <;> split at hhigh₁ <;> omega
    have hvalid : ((((b.toNat - 0xF0) * 64 + (b₁.toNat - 0x80)) * 64 + (b₂.toNat - 0x80)) * 64 +
        (b₃.toNat - 0x80)).isValidChar := by
      unfold Nat.isValidChar
      omega
    refine ⟨[b₁, b₂, b₃], r₃, rfl, hwidth, ?_⟩
    rw [hc, utf8EncodeChar_eq, toNat_ofNat hvalid, if_neg (by omega), if_neg (by omega),
      if_neg (by omega), ofNat_eq_of_toNat (b := b) (by omega),
      ofNat_eq_of_toNat (b := b₁) (by omega), ofNat_eq_of_toNat (b := b₂) (by omega),
      ofNat_eq_of_toNat (b := b₃) (by omega)]
  · cases h

/-- A byte below `0x80` is a character of its own. -/
theorem utf8EncodeChar_of_mem (h : b ∈ String.utf8EncodeChar c) (hb : b.toNat < 0x80) :
    String.utf8EncodeChar c = [b] := by
  have hlong {n : Nat} (hn : 0x80 ≤ n) (hsize : n < 0x100) (heq : b = UInt8.ofNat n) : False := by
    rw [heq, toNat_byte hsize] at hb
    omega
  rw [utf8EncodeChar_eq] at h ⊢
  split
  · rename_i hone
    rw [if_pos hone] at h
    rw [List.mem_singleton.1 h]
  -- no byte of a longer character is as small
  · rename_i hone
    rw [if_neg hone] at h
    split at h
    · simp only [List.mem_cons, List.not_mem_nil, or_false] at h
      rcases h with h | h
      all_goals exact (hlong (by omega) (by omega) h).elim
    split at h
    · simp only [List.mem_cons, List.not_mem_nil, or_false] at h
      rcases h with h | h | h
      all_goals exact (hlong (by omega) (by omega) h).elim
    · simp only [List.mem_cons, List.not_mem_nil, or_false] at h
      rcases h with h | h | h | h
      all_goals exact (hlong (by omega) (by omega) h).elim

/-! ## Texts -/

theorem encode_append (s t : Text) : encode (s ++ t) = encode s ++ encode t :=
  List.flatMap_append

theorem encode_cons (c : Char) (s : Text) : encode (c :: s) = String.utf8EncodeChar c ++ encode s :=
  List.flatMap_cons

theorem encode_singleton (c : Char) : encode [c] = String.utf8EncodeChar c :=
  List.flatMap_singleton _ c

/-- The first character of a text is read in front of its bytes. -/
theorem exists_of_encode_eq_cons (h : encode s = b :: r) :
    ∃ c s' width, s = c :: s' ∧ front b r = .char c width ∧ r.drop (width - 1) = encode s' := by
  cases s with
  | nil => cases h
  | cons c s =>
      obtain ⟨b', tail, hchar, hfront⟩ := front_utf8EncodeChar c (encode s)
      rw [encode_cons, hchar] at h
      obtain ⟨rfl, rfl⟩ := List.cons.inj h
      exact ⟨c, s, tail.length + 1, rfl, hfront, List.drop_left⟩

theorem decodeFrom_eq_ok_iff (index : Nat) : decodeFrom index bytes = .ok s ↔ encode s = bytes := by
  fun_induction decodeFrom index bytes generalizing s with
  | case1 index =>
      constructor
      · intro h
        cases h
        rfl
      · intro h
        cases s with
        | nil => rfl
        | cons c s =>
            obtain ⟨b, tail, hchar, _⟩ := front_utf8EncodeChar c []
            rw [encode_cons, hchar] at h
            cases h
  | case2 index b r c width hfront ih =>
      constructor
      · intro h
        obtain ⟨tail, rest, rfl, rfl, hchar⟩ := exists_of_front hfront
        cases hrest : decodeFrom (index + (tail.length + 1)) ((tail ++ rest).drop tail.length) with
        | error e =>
            rw [Nat.add_sub_cancel, hrest] at h
            cases h
        | ok s' =>
            have hbytes := (ih (s := s')).1 hrest
            rw [Nat.add_sub_cancel, hrest] at h
            cases h
            rw [encode_cons, hchar, hbytes]
            simp
      · intro h
        obtain ⟨c', s', width', rfl, hfront', hdrop⟩ := exists_of_encode_eq_cons h
        rw [hfront] at hfront'
        cases hfront'
        rw [ih.2 hdrop.symm]
        rfl
  | case3 index b r length hfront =>
      constructor
      · intro h
        cases h
      · intro h
        obtain ⟨c, s', width, _, hfront', _⟩ := exists_of_encode_eq_cons h
        rw [hfront] at hfront'
        cases hfront'
  | case4 index b r hfront =>
      constructor
      · intro h
        cases h
      · intro h
        obtain ⟨c, s', width, _, hfront', _⟩ := exists_of_encode_eq_cons h
        rw [hfront] at hfront'
        cases hfront'

/-- Bytes decode to a text exactly if they are its bytes. -/
theorem decode_eq_ok_iff : decode bytes = .ok s ↔ encode s = bytes :=
  decodeFrom_eq_ok_iff 0

/-- Different texts have different bytes. -/
theorem encode_injective : Function.Injective encode := by
  intro s t h
  have hdecoded : decode (encode s) = .ok t := decode_eq_ok_iff.2 h.symm
  rw [decode_eq_ok_iff.2 rfl] at hdecoded
  cases hdecoded
  rfl

/-- A text whose bytes end with one below `0x80` ends with the character of this byte. -/
theorem exists_of_encode_concat (hc : encode [c] = [b]) (hb : b.toNat < 0x80)
    (h : encode s = bytes ++ [b]) : ∃ s', s = s' ++ [c] ∧ encode s' = bytes := by
  rcases List.eq_nil_or_concat s with rfl | ⟨s', d, rfl⟩
  · cases bytes <;> cases h
  · rw [List.concat_eq_append, encode_append] at h
    have hne : encode [d] ≠ [] := by
      intro hnil
      have hnone : encode [d] = encode [] := hnil
      cases encode_injective hnone
    have hlast : b ∈ encode [d] := by
      apply List.mem_of_getLast?
      rw [← List.getLast?_append_of_ne_nil (encode s') hne, h, List.getLast?_concat]
    have hd : encode [d] = [b] := by
      rw [encode_singleton] at hlast ⊢
      exact utf8EncodeChar_of_mem hlast hb
    cases encode_injective (hd.trans hc.symm)
    rw [hc] at h
    exact ⟨s', List.concat_eq_append, List.append_cancel_right h⟩

/-! ## Reading in spite of faults -/

/-- What is read in the place of a fault. -/
def replacement : Char := Char.ofNat 0xFFFD

/-- The text of bytes that may have faults. -/
def decodeLossy : List UInt8 → Text
  | [] => []
  | b :: r =>
    match front b r with
    | .char c width => c :: decodeLossy (r.drop (width - 1))
    | .invalid length => replacement :: decodeLossy (r.drop (length - 1))
    | .incomplete => [replacement]
termination_by bytes => bytes.length
decreasing_by
  all_goals
    simp only [List.length_cons, List.length_drop]
    omega

/-- A text is read as it was written. -/
theorem decodeLossy_encode (s : Text) : decodeLossy (encode s) = s := by
  induction s with
  | nil =>
      show decodeLossy [] = []
      rw [decodeLossy]
  | cons c s ih =>
      obtain ⟨b, tail, hchar, hfront⟩ := front_utf8EncodeChar c (encode s)
      rw [encode_cons, hchar, List.cons_append, decodeLossy, hfront]
      dsimp only
      rw [Nat.add_sub_cancel, List.drop_left, ih]

end Utf8
end ChatAssistant
