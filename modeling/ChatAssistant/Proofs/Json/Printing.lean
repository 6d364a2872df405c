import ChatAssistant.Json.Decoder
import ChatAssistant.Json.Printer
import ChatAssistant.Proofs.Text.Blank

/-!
# What is written is read back

An object of strings and whole numbers is read as what was written: the same members in the same
order, whatever characters the strings are made of.

* `Escaped`, `escaped_escape` — the ways to write a character inside a string;
* `units?_escape`, `textOfUnits?_toNat` — a string is read back;
* `numeral`, `int64?_numeral` — so is a number of 64 bits;
* `Writes` — the text of a value, whatever comes behind it;
* `Member`, `parse?_objectText` — objects.
-/

namespace ChatAssistant
namespace Json

variable {c : Char} {s text rest : Text} {n : Nat}

/-! ## Strings -/

/-- A character inside a string stands for itself, or is written with a letter behind a backslash,
or by its number. -/
inductive Escaped (c : Char) : Text → Prop where
  | plain (hq : c ≠ '"') (hb : c ≠ '\\') (h : 0x20 ≤ c.toNat) : Escaped c [c]
  | letter {e : Char} (hu : e ≠ 'u') (he : escaped? e = some c) : Escaped c ['\\', e]
  | number {x y : Char} (h : hex4? '0' '0' x y = some c.toNat) :
      Escaped c ['\\', 'u', '0', '0', x, y]

/-- The last digit of the number of a character without a sign of its own. -/
theorem hex4?_digitChar :
    ∀ n < 0x10, hex4? '0' '0' '0' (Nat.digitChar n) = some n ∧
      hex4? '0' '0' '1' (Nat.digitChar n) = some (0x10 + n) := by
  decide

theorem escaped_escape (c : Char) : Escaped c (escape c) := by
  unfold escape
  split
  case isTrue h =>
    rcases Bool.or_eq_true_iff.1 h with h | h
    · rw [of_decide_eq_true h]
      exact .letter (by decide) rfl
    · rw [of_decide_eq_true h]
      exact .letter (by decide) rfl
  case isFalse h =>
    simp only [Bool.or_eq_true, decide_eq_true_eq, not_or] at h
    split
    · subst c
      exact .letter (by decide) rfl
    split
    · subst c
      exact .letter (by decide) rfl
    split
    · subst c
      exact .letter (by decide) rfl
    split
    · subst c
      exact .letter (by decide) rfl
    split
    · subst c
      exact .letter (by decide) rfl
    split
    · rename_i hlt
      have hdigits : Hexadecimal.digitsOfNat c.toNat = [Nat.digitChar c.toNat] :=
        Nat.toDigits_of_lt_base hlt
      rw [hdigits]
      exact .number (hex4?_digitChar _ hlt).1
    split
    · rename_i hge hlt
      have hdigits : ∀ n < 0x20, 0x10 ≤ n →
          Hexadecimal.digitsOfNat n = ['1', Nat.digitChar (n - 0x10)] := by decide
      rw [hdigits _ hlt (Nat.le_of_not_lt hge)]
      have hread := (hex4?_digitChar (c.toNat - 0x10) (by omega)).2
      rw [Nat.add_sub_cancel' (Nat.le_of_not_lt hge)] at hread
      exact .number hread
    · rename_i hge
      exact .plain h.1 h.2 (Nat.le_of_not_lt hge)

theorem Escaped.units?_append (h : Escaped c text) (rest : Text) :
    units? (text ++ rest) = (units? rest).map fun read => (c.toNat :: read.1, read.2) := by
  cases h with
  | plain hq hb h =>
      have hnot : ¬ c.toNat < 0x20 := Nat.not_lt.2 h
      cases hread : units? rest <;> simp [units?, hb, hnot, hread]
  | letter hu he => cases hread : units? rest <;> simp [units?, hu, he, hread]
  | number h => cases hread : units? rest <;> simp [units?, h, hread]

/-- A string is read up to the quote behind it. -/
theorem units?_escape (s rest : Text) :
    units? (s.flatMap escape ++ '"' :: rest) = some (s.map Char.toNat, rest) := by
  induction s with
  | nil => simp [units?]
  | cons c s ih =>
      rw [List.flatMap_cons, List.append_assoc, (escaped_escape c).units?_append, ih]
      rfl

/-- No character is half of a pair. -/
theorem not_isLeading_toNat (c : Char) :
    isLeading c.toNat = false ∧ isTrailing c.toNat = false := by
  -- the numbers of the halves are those that no character has
  have hvalid : c.toNat < 0xD800 ∨ 0xDFFF < c.toNat ∧ c.toNat < 0x110000 := c.valid
  simp only [isLeading, isTrailing, Bool.and_eq_false_iff, decide_eq_false_iff_not]
  omega

theorem textOfUnits?_toNat (s : Text) : textOfUnits? (s.map Char.toNat) = some s := by
  induction s with
  | nil => rfl
  | cons c s ih =>
      obtain ⟨hleading, htrailing⟩ := not_isLeading_toNat c
      cases s with
      | nil => simp [textOfUnits?, hleading, htrailing]
      | cons d s =>
          rw [List.map_cons] at ih
          simp [textOfUnits?, hleading, htrailing, ih]

/-! ## Numbers -/

/-- What may come behind a value in an object. -/
def Closes (rest : Text) : Prop := ∃ c r, rest = c :: r ∧ (c = ',' ∨ c = '\x7d')

/-- A whole number as it is written. -/
def numeral (n : Int) : Numeral := ⟨decide (n < 0), Decimal.digitsOfNat n.natAbs, [], none⟩

/-- Only zero is written with a zero in front. -/
theorem eq_zero_of_digitsOfNat {r : Text} (h : Decimal.digitsOfNat n = '0' :: r) : n = 0 := by
  induction n using Nat.strongRecOn generalizing r with
  | ind n ih =>
      by_cases hn : n < 10
      · have hsmall : ∀ n < 10, (Decimal.digitsOfNat n).head? = some '0' → n = 0 := by decide
        exact hsmall n hn (by rw [h]; rfl)
      · -- a longer number begins as its tenth does
        have hsplit : Decimal.digitsOfNat n =
            Decimal.digitsOfNat (n / 10) ++ [Nat.digitChar (n % 10)] :=
          Nat.toDigits_of_base_le (by decide) (Nat.le_of_not_lt hn)
        rcases List.append_eq_cons_iff.1 (hsplit.symm.trans h) with ⟨hnil, _⟩ | ⟨r', hfront, _⟩
        · exact absurd hnil Nat.toDigits_ne_nil
        · have hzero := ih (n / 10) (by omega) hfront
          omega

theorem whole?_digitsOfNat (n : Nat) (h : Closes rest) :
    whole? (Decimal.digitsOfNat n ++ rest) = some (Decimal.digitsOfNat n, rest) := by
  -- a zero in front is the whole number, so that case is read in another way
  by_cases hzero : n = 0
  · obtain ⟨c, r, rfl, rfl | rfl⟩ := h
    · rw [hzero]
      rfl
    · rw [hzero]
      rfl
  · have hne : Decimal.digitsOfNat n ≠ [] := Nat.toDigits_ne_nil
    have hfront (r : Text) (heq : Decimal.digitsOfNat n ++ rest = '0' :: r) : False := by
      rcases List.append_eq_cons_iff.1 heq with ⟨hnil, _⟩ | ⟨r', hdigits, _⟩
      · exact hne hnil
      · exact hzero (eq_zero_of_digitsOfNat hdigits)
    have hrun : (Decimal.digitsOfNat n ++ rest).takeWhile Text.isDigit = Decimal.digitsOfNat n := by
      obtain ⟨c, r, rfl, hc⟩ := h
      have hstop : ¬ Text.isDigit c = true := by
        rcases hc with rfl | rfl
        · decide
        · decide
      rw [Text.takeWhile_append_cons hstop]
      exact List.takeWhile_eq_self_iff.2 fun c hc => Decimal.isDigit_of_mem_digitsOfNat hc
    rw [whole?.eq_2 _ hfront, digits?, hrun, List.isEmpty_eq_false_iff.2 hne, List.drop_left]
    rfl

theorem unsigned?_digitsOfNat (negative : Bool) (n : Nat) (h : Closes rest) :
    unsigned? negative (Decimal.digitsOfNat n ++ rest) =
      some (.number ⟨negative, Decimal.digitsOfNat n, [], none⟩, rest) := by
  have hwhole := whole?_digitsOfNat n h
  obtain ⟨c, r, rfl, rfl | rfl⟩ := h
  · simp [unsigned?, hwhole, fraction?, exponent?]
  · simp [unsigned?, hwhole, fraction?, exponent?]

theorem int64?_numeral (n : Int64) : (numeral n.toInt).int64? = some n := by
  have hvalue : Decimal.natOfDigits (Decimal.digitsOfNat n.toInt.natAbs) = n.toInt.natAbs :=
    Nat.ofDigitChars_ten_toDigits
  have hlow : -0x8000000000000000 ≤ n.toInt := n.le_toInt
  have hhigh : n.toInt < 0x8000000000000000 := n.toInt_lt
  unfold numeral Numeral.int64?
  simp only [hvalue, Numeral.isPlain]
  by_cases hn : n.toInt < 0
  · have habs : -(n.toInt.natAbs : Int) = n.toInt := by omega
    -- there is one number more below zero than above
    have hfits : 0 < n.toInt.natAbs ∧ n.toInt.natAbs ≤ 0x8000000000000000 := by omega
    simp only [hn, decide_true, if_true, habs, Int64.ofInt_toInt]
    exact if_pos hfits
  · have habs : (n.toInt.natAbs : Int) = n.toInt := by omega
    have hfits : n.toInt.natAbs < 0x8000000000000000 := by omega
    have hof : Int64.ofNat n.toInt.natAbs = n := by
      rw [← Int64.ofInt_eq_ofNat, habs, Int64.ofInt_toInt]
    simp [hn, hfits, hof]

/-! ## Values -/

/-- The text is read as this value, in front of whatever may come behind it in an object. -/
structure Writes (text : Text) (value : Json) : Prop where
  head : ∃ c r, text = c :: r ∧ isBlank c = false ∧ c ≠ '[' ∧ c ≠ '\x7b'
  scalar : ∀ rest, Closes rest → scalar? (text ++ rest) = some (value, rest)

theorem writes_quoted (s : Text) : Writes (quoted s) (.string (some s)) where
  head := ⟨'"', s.flatMap escape ++ ['"'], rfl, by decide, by decide, by decide⟩
  scalar rest _ := by
    have hread := units?_escape s rest
    simp [quoted, scalar?, hread, textOfUnits?_toNat]

theorem writes_intText (n : Int) : Writes (intText n) (.number (numeral n)) := by
  unfold intText numeral
  by_cases hn : n < 0
  · rw [if_pos hn, decide_eq_true hn]
    constructor
    case head => exact ⟨_, _, rfl, by decide, by decide, by decide⟩
    case scalar =>
      intro rest hr
      simp [scalar?, unsigned?_digitsOfNat true n.natAbs hr]
  · rw [if_neg hn, decide_eq_false hn]
    obtain ⟨c, r, hdigits⟩ : ∃ c r, Decimal.digitsOfNat n.natAbs = c :: r :=
      List.exists_cons_of_ne_nil Nat.toDigits_ne_nil
    have hc : Text.isDigit c = true := by
      refine Decimal.isDigit_of_mem_digitsOfNat (n := n.natAbs) ?_
      rw [hdigits]
      exact List.mem_cons_self
    -- a digit begins no other value, and is no blank
    have hne (d : Char) (hd : Text.isDigit d = false) : c ≠ d := by
      rintro rfl
      exact absurd hc (by rw [hd]; decide)
    constructor
    case head =>
      refine ⟨c, r, hdigits, ?_, hne _ rfl, hne _ rfl⟩
      simp [isBlank, hne ' ' rfl, hne '\t' rfl, hne '\n' rfl, hne '\r' rfl]
    case scalar =>
      intro rest hr
      rw [← unsigned?_digitsOfNat false n.natAbs hr, hdigits]
      simp [scalar?, hne 'n' rfl, hne 't' rfl, hne 'f' rfl, hne '"' rfl, hne '-' rfl]

theorem Writes.value?_append {value : Json} (h : Writes text value) (hr : Closes rest)
    (fuel : Nat) : value? (fuel + 1) (text ++ rest) = some (value, rest) := by
  obtain ⟨c, r, rfl, hblank, hlist, hobject⟩ := h.head
  have hskip : skipBlanks (c :: r ++ rest) = c :: r ++ rest :=
    List.dropWhile_cons_of_neg (by rw [hblank]; decide)
  rw [value?, hskip, ← h.scalar rest hr]
  split
  · rename_i heq
    exact absurd (List.cons.inj heq).1 hlist
  · rename_i heq
    exact absurd (List.cons.inj heq).1 hobject
  · rfl

/-! ## Objects -/

/-- A member of an object, as it is written and as it is read. -/
structure Member where
  name : Text
  text : Text
  value : Json

def Member.written (m : Member) : Text := quoted m.name ++ ':' :: m.text

theorem name?_written (m : Member) (rest : Text) :
    name? (m.written ++ rest) = some (some m.name, m.text ++ rest) := by
  have hread := units?_escape m.name (':' :: (m.text ++ rest))
  simp [Member.written, quoted, name?, skipBlanks, isBlank, hread, textOfUnits?_toNat]

theorem skipBlanks_cons (hc : isBlank c = false) (rest : Text) :
    skipBlanks (c :: rest) = c :: rest :=
  List.dropWhile_cons_of_neg (by rw [hc]; decide)

/-- Behind a member and a comma, the other members are read. -/
theorem members?_next {m : Member} (hm : Writes m.text m.value) (fuel : Nat) (rest : Text) :
    members? (fuel + 2) (m.written ++ ',' :: rest) =
      (members? (fuel + 1) rest).map fun read => ((some m.name, m.value) :: read.1, read.2) := by
  have hread := hm.value?_append ⟨_, rest, rfl, .inl rfl⟩ fuel
  have hskip : skipBlanks (',' :: rest) = ',' :: rest := skipBlanks_cons (by decide) rest
  rw [members?, name?_written]
  simp only [Option.bind_eq_bind, Option.bind_some, hread, hskip]
  cases members? (fuel + 1) rest with
  | none => rfl
  | some read => rfl

theorem members?_last {m : Member} (hm : Writes m.text m.value) (fuel : Nat) (rest : Text) :
    members? (fuel + 2) (m.written ++ '\x7d' :: rest) =
      some ([(some m.name, m.value)], rest) := by
  have hread := hm.value?_append ⟨_, rest, rfl, .inr rfl⟩ fuel
  have hskip : skipBlanks ('\x7d' :: rest) = '\x7d' :: rest := skipBlanks_cons (by decide) rest
  rw [members?, name?_written]
  simp only [Option.bind_eq_bind, Option.bind_some, hread, hskip]

/-- The members of an object are read up to the bracket behind them. -/
theorem members?_written {members : List Member} (h : ∀ m ∈ members, Writes m.text m.value)
    (hne : members ≠ []) {fuel : Nat} (hfuel : members.length ≤ fuel) (rest : Text) :
    members? (fuel + 1) ([','].intercalate (members.map Member.written) ++ '\x7d' :: rest) =
      some (members.map fun m => (some m.name, m.value), rest) := by
  induction members generalizing fuel with
  | nil => exact absurd rfl hne
  | cons m others ih =>
      obtain ⟨hm, hothers⟩ := List.forall_mem_cons.1 h
      obtain ⟨fuel, rfl⟩ : ∃ k, fuel = k + 1 := Nat.exists_eq_add_one.2 (Nat.zero_lt_of_lt hfuel)
      cases others with
      | nil =>
          rw [List.map_singleton, List.intercalate_singleton, members?_last hm]
          rfl
      | cons m' others =>
          have hrest := ih hothers (List.cons_ne_nil _ _) (Nat.le_of_succ_le_succ hfuel)
          rw [List.map_cons, List.map_cons, List.intercalate_cons_cons, List.append_assoc,
            List.append_assoc, List.singleton_append, ← List.map_cons, members?_next hm, hrest]
          rfl

theorem Member.length_le (members : List Member) :
    members.length ≤ ([','].intercalate (members.map Member.written)).length := by
  induction members with
  | nil => exact Nat.zero_le _
  | cons m others ih =>
      cases others with
      | nil => simp [Member.written, quoted]
      | cons m' others =>
          rw [List.map_cons, List.map_cons, List.intercalate_cons_cons, ← List.map_cons]
          simp only [List.length_append, List.length_cons, List.length_nil] at ih ⊢
          omega

/-- Members begin with the quote of the first name. -/
theorem Member.exists_intercalate_eq (m : Member) (others : List Member) :
    ∃ r, [','].intercalate ((m :: others).map written) = '"' :: r := by
  cases others with
  | nil => exact ⟨_, List.intercalate_singleton⟩
  | cons m' others => exact ⟨_, List.intercalate_cons_cons⟩

/-- Behind its bracket, an object is read as its members. -/
theorem value?_object {members : List (Option Text × Json)} {fuel : Nat}
    (h : members? fuel ('"' :: text) = some (members, rest)) :
    value? (fuel + 1) ('\x7b' :: '"' :: text) = some (.object members, rest) := by
  have hopen (r : Text) : skipBlanks ('\x7b' :: r) = '\x7b' :: r := skipBlanks_cons (by decide) r
  have hquote (r : Text) : skipBlanks ('"' :: r) = '"' :: r := skipBlanks_cons (by decide) r
  simp only [value?, hopen, hquote]
  -- a quote is no bracket, so there are members
  show (members? fuel ('"' :: text)).map _ = _
  rw [h]
  rfl

/-- An object is read as its members. -/
theorem parse?_objectText {members : List Member} (h : ∀ m ∈ members, Writes m.text m.value) :
    parse? (objectText (members.map fun m => (m.name, m.text))) =
      some (.object (members.map fun m => (some m.name, m.value))) := by
  have htext : objectText (members.map fun m => (m.name, m.text)) =
      '\x7b' :: ([','].intercalate (members.map Member.written) ++ ['\x7d']) := by
    rw [objectText, List.map_map]
    rfl
  rw [htext]
  cases members with
  | nil => rfl
  | cons m others =>
      obtain ⟨r, hr⟩ := m.exists_intercalate_eq others
      -- there is fuel for each character, and each member has one
      have hfuel : (m :: others).length ≤ 2 * (r.length + 3) := by
        have hlength := Member.length_le (m :: others)
        have hcons : ('"' :: r).length = r.length + 1 := List.length_cons
        rw [hr, hcons] at hlength
        omega
      have hread := members?_written h (List.cons_ne_nil _ _) hfuel []
      have hlength : ('\x7b' :: '"' :: (r ++ ['\x7d'])).length = r.length + 3 := by simp
      rw [hr, List.cons_append] at hread ⊢
      rw [parse?, hlength, value?_object hread]
      rfl

end Json
end ChatAssistant
