import ChatAssistant.Proofs.Text.Utf8
import ChatAssistant.Url.Form
import Mathlib.Data.List.Basic

/-!
# Form parameters read back

Whatever stands in a parameter, a reader of the address finds it there and nothing besides: the
characters that part pairs, and names from values, are never written as they are.

* `Form.decode_encode` — a name or value reads back;
* `Form.pairs_text` — so do the pairs that are written in a row;
* `pairs_addPairs` — and so they do behind those that an address has already;
* `Form.read`, `read_addPairs` — the same for texts in the place of bytes.
-/

namespace ChatAssistant
namespace Url
namespace Form

variable {c : Char} {s : Text}

/-! ## One byte -/

/-- The character that a reader sees for `c`. -/
def seen (c : Char) : Char := if c = '+' then ' ' else c

/-- What is percent-encoded, if spaces are left alone. -/
def isMarked (c : Char) : Bool := !isBare c && c ≠ ' '

theorem isBare_of_isAlphanum (h : c.isAlphanum = true) : isBare c = true := by
  unfold isBare
  rw [h, Bool.true_or]

/-- A byte is written with the escape sign, a plus and characters that stand for themselves. -/
theorem eq_or_isBare_of_mem (b : UInt8) (h : c ∈ encodeByte b) :
    c = '+' ∨ c = '%' ∨ isBare c = true := by
  unfold encodeByte at h
  split at h
  · exact .inl (List.mem_singleton.1 h)
  · unfold Percent.encodeByte at h
    split at h
    · rename_i hplain
      rw [List.mem_singleton.1 h]
      simp at hplain
      exact .inr (.inr hplain.2)
    · exact .inr ((Percent.mem_escape h).imp_right isBare_of_isAlphanum)

/-- No separator is ever written. -/
theorem not_mem_encode (hplus : c ≠ '+') (hsign : c ≠ '%') (hbare : isBare c = false) (s : Text) :
    c ∉ encode s := by
  intro hmem
  obtain ⟨b, _, hb⟩ := List.mem_flatMap.1 hmem
  rcases eq_or_isBare_of_mem b hb with h | h | h
  · exact hplus h
  · exact hsign h
  · rw [hbare] at h
    cases h

theorem seen_of_isBare (h : isBare c = true) : seen c = c := by
  unfold seen
  split
  · rename_i hc
    subst hc
    exact absurd h (by decide)
  · rfl

/-- The only byte that is read as a space is its own. -/
theorem ofNat_ne_space {b : UInt8} (hb : b.toNat < 0x80) (h : b ≠ 0x20) :
    Char.ofNat b.toNat ≠ ' ' := by
  intro hspace
  have hbyte := Percent.utf8_encode_ascii hb
  have hown : Utf8.encode [' '] = [0x20] := by decide
  rw [hspace, hown, UInt8.ofNat_toNat] at hbyte
  exact h (List.singleton_inj.1 hbyte).symm

theorem map_seen_escape (b : UInt8) : (Percent.escape b).map seen = Percent.escape b := by
  have hsame : ∀ c ∈ Percent.escape b, seen c = c := by
    intro c hc
    rcases Percent.mem_escape hc with rfl | hletter
    · decide
    · exact seen_of_isBare (isBare_of_isAlphanum hletter)
  calc
    (Percent.escape b).map seen = (Percent.escape b).map id := List.map_congr_left hsame
    _ = Percent.escape b := List.map_id _

/-- To a reader a byte is percent-encoded, or it is a character that stands for itself. -/
theorem map_seen_encodeByte (b : UInt8) :
    (encodeByte b).map seen = Percent.encodeByte isMarked b := by
  by_cases hspace : b = 0x20
  · subst hspace
    decide
  · unfold encodeByte Percent.encodeByte
    rw [if_neg hspace]
    by_cases hb : b.toNat < 0x80
    · have hne := ofNat_ne_space hb hspace
      cases hbare : isBare (Char.ofNat b.toNat) with
      | true => simp [hb, hbare, isMarked, seen_of_isBare hbare]
      | false => simp [hb, hbare, hne, isMarked, map_seen_escape]
    · simp [hb, map_seen_escape]

/-! ## Names and values -/

/-- A name or value reads back, byte for byte. -/
theorem decode_encode (s : Text) : decode (encode s) = Utf8.encode s := by
  have hmap : (encode s).map seen = (Utf8.encode s).flatMap (Percent.encodeByte isMarked) := by
    unfold encode
    rw [List.map_flatMap]
    exact congrArg (fun f => (Utf8.encode s).flatMap f) (funext map_seen_encodeByte)
  calc
    decode (encode s) = Percent.decode ((encode s).map seen) := rfl
    _ = Percent.decode ((Utf8.encode s).flatMap (Percent.encodeByte isMarked)) := by rw [hmap]
    _ = Utf8.encode s := Percent.decode_flatMap_encodeByte (by decide) _

/-! ## Pairs -/

/-- A pair in bytes. -/
def bytesOf (pair : Text × Text) : List UInt8 × List UInt8 :=
  (Utf8.encode pair.1, Utf8.encode pair.2)

theorem pairOfText_pairText (pair : Text × Text) : pairOfText (pairText pair) = bytesOf pair := by
  have hname : ∀ c ∈ encode pair.1, decide (c ≠ '=') = true := by
    intro c hc
    refine decide_eq_true ?_
    rintro rfl
    exact not_mem_encode (by decide) (by decide) (by decide) pair.1 hc
  unfold pairOfText pairText bytesOf
  rw [List.takeWhile_append_of_pos hname, List.dropWhile_append_of_pos hname]
  simp [decode_encode]

theorem not_mem_pairText (pair : Text × Text) : '&' ∉ pairText pair := by
  have hnone := not_mem_encode (c := '&') (by decide) (by decide) (by decide)
  intro hmem
  rcases List.mem_append.1 hmem with h | h
  · exact hnone pair.1 h
  · rcases List.mem_cons.1 h with h | h
    · cases h
    · exact hnone pair.2 h

/-- Pairs that are written in a row read back in this order. -/
theorem pairs_text (list : List (Text × Text)) : pairs (text list) = list.map bytesOf := by
  cases list with
  | nil => rfl
  | cons first rest =>
      have hparts : ∀ part ∈ (first :: rest).map pairText, '&' ∉ part := by
        intro part hpart
        obtain ⟨pair, _, rfl⟩ := List.mem_map.1 hpart
        exact not_mem_pairText pair
      have hsplit : (text (first :: rest)).splitOn '&' = (first :: rest).map pairText :=
        List.splitOn_intercalate '&' hparts (List.cons_ne_nil _ _)
      have hfull : ((first :: rest).map pairText).filter (!·.isEmpty) =
          (first :: rest).map pairText := by
        refine List.filter_eq_self.2 ?_
        intro part hpart
        obtain ⟨pair, _, rfl⟩ := List.mem_map.1 hpart
        simp [pairText]
      unfold pairs
      rw [hsplit, hfull, List.map_map]
      exact List.map_congr_left fun pair _ => pairOfText_pairText pair

/-- Queries side by side hold the pairs of both. -/
theorem pairs_append (before behind : Text) :
    pairs (before ++ '&' :: behind) = pairs before ++ pairs behind := by
  unfold pairs
  rw [List.splitOn_append_cons_self, List.filter_append, List.map_append]

/-! ## Reading as text -/

/-- The pairs of a query, as texts. -/
def read (query : Text) : List (Text × Text) :=
  (pairs query).map fun pair => (Utf8.decodeLossy pair.1, Utf8.decodeLossy pair.2)

theorem map_bytesOf (list : List (Text × Text)) :
    (list.map bytesOf).map (fun pair => (Utf8.decodeLossy pair.1, Utf8.decodeLossy pair.2)) =
      list := by
  have hpair : ∀ pair ∈ list, (Utf8.decodeLossy (bytesOf pair).1,
      Utf8.decodeLossy (bytesOf pair).2) = pair := by
    intro pair _
    simp only [bytesOf, Utf8.decodeLossy_encode]
  rw [List.map_map]
  calc
    list.map _ = list.map id := List.map_congr_left hpair
    _ = list := List.map_id list

end Form

/-- The pairs that are added to an address stand behind those that it has already. -/
theorem pairs_addPairs (u : Url) (list : List (Text × Text)) :
    Form.pairs ((u.addPairs list).query.getD []) =
      Form.pairs (u.query.getD []) ++ list.map Form.bytesOf := by
  unfold addPairs
  dsimp only [Option.getD_some]
  split
  · rename_i hempty
    rw [List.isEmpty_iff.1 hempty, Form.pairs_text]
    rfl
  · rw [Form.pairs_append, Form.pairs_text]

/-- They are read in this order, character for character. -/
theorem read_addPairs (u : Url) (list : List (Text × Text)) :
    Form.read ((u.addPairs list).query.getD []) = Form.read (u.query.getD []) ++ list := by
  unfold Form.read
  rw [pairs_addPairs, List.map_append, Form.map_bytesOf]

end Url
end ChatAssistant
