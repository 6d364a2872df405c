import ChatAssistant.Proofs.Text.Blank
import ChatAssistant.Url.Parser

/-!
# Behind a slash

Whether an address can be read is decided before its path begins.  So what stands behind a slash
makes no difference, provided that the slash is part of the path: there is another one before it,
which is neither of the two in front of an authority.

* `readAuthority_append`, `readFileHost_append` — an authority ends before the slash, and what
  stands behind it is passed on;
* `exists_isOk_parse` — of the addresses that differ behind a slash all can be read, or none can.
-/

namespace ChatAssistant
namespace Url

open Text (takeWhile_append_cons dropWhile_append_cons)

variable {kind : Kind} {s rest : Text}

/-! ## Scheme -/

theorem splitScheme?_append (s rest : Text) :
    splitScheme? (s ++ '/' :: rest) =
      (splitScheme? (s ++ ['/'])).map fun parts => (parts.1, parts.2 ++ rest) := by
  have hslash : ¬ isSchemeChar '/' = true := by decide
  cases s with
  | nil => rfl
  | cons c front =>
      unfold splitScheme?
      simp only [List.cons_append]
      split
      · rw [← List.cons_append, ← List.cons_append, dropWhile_append_cons hslash,
          dropWhile_append_cons hslash, takeWhile_append_cons hslash, takeWhile_append_cons hslash]
        cases (c :: front).dropWhile isSchemeChar with
        | nil => rfl
        | cons d behind =>
            by_cases hd : d = ':'
            · subst hd
              simp
            · simp [hd]
      · rfl

/-! ## Authority -/

theorem not_endsAuthority (kind : Kind) : ¬ (!endsAuthority kind '/') = true := by
  simp [endsAuthority]

/-- An authority ends before the slash at the latest. -/
theorem readAuthority_append (kind : Kind) (s rest : Text) :
    readAuthority kind (s ++ '/' :: rest) =
      (readAuthority kind (s ++ ['/'])).map fun parts => (parts.1, parts.2 ++ rest) := by
  have hends := not_endsAuthority kind
  have htake := takeWhile_append_cons (p := (!endsAuthority kind ·)) hends s
  have hdrop := dropWhile_append_cons (p := (!endsAuthority kind ·)) hends s
  unfold readAuthority
  rw [htake, htake, hdrop, hdrop]
  generalize s.takeWhile (!endsAuthority kind ·) = front
  generalize s.dropWhile (!endsAuthority kind ·) = behind
  have hne (rest : Text) : (behind ++ '/' :: rest).isEmpty = false := by simp
  simp only [hne]
  split
  · rfl
  · generalize readCredentials ((splitCredentials front).1.getD []) = credentials
    generalize splitPort false (splitCredentials front).2 = server
    cases readHost kind server.1 (!server.2.isEmpty) with
    | error e => rfl
    | ok host =>
        cases readPort kind server.2 with
        | error e => rfl
        | ok port =>
            simp only [bind, Except.bind]
            split
            · rfl
            · simp [pure, Except.pure, Except.map]

/-! ## Files -/

/-- The host of a file ends before the slash at the latest. -/
theorem readFileHost_append (s rest : Text) :
    readFileHost (s ++ '/' :: rest) =
      (readFileHost s).map fun parts => (parts.1, parts.2 ++ '/' :: rest) := by
  have htake := takeWhile_append_cons (p := (!endsAuthority .file ·)) (not_endsAuthority .file) s
  have hlength : (s.takeWhile (!endsAuthority .file ·)).length ≤ s.length :=
    (List.takeWhile_prefix _).length_le
  unfold readFileHost
  rw [htake]
  dsimp only
  split
  · rfl
  · split
    · rfl
    · rw [List.drop_append_of_le_length hlength]
      cases Host.ofSpecial (s.takeWhile (!endsAuthority .file ·)) with
      | error e => rfl
      | ok host => rfl

/-! ## Addresses -/

/-- No part of the text is lost when an address with it is read. -/
def isPlain (s : Text) : Bool := s.all (!isEdge ·)

theorem isEdge_of_isPlain {c : Char} (hs : isPlain s = true) (hc : c ∈ s) : isEdge c = false := by
  simpa using List.all_eq_true.1 hs c hc

theorem isPlain_slash (hs : isPlain s = true) : isPlain ('/' :: s) = true := hs

theorem filter_of_isPlain (hs : isPlain s = true) : s.filter (!isDropped ·) = s := by
  refine List.filter_eq_self.2 fun c hc => ?_
  have hedge := isEdge_of_isPlain hs hc
  by_contra hdropped
  simp only [isDropped, Bool.not_eq_true', Bool.not_eq_false, List.contains_iff_mem,
    List.mem_cons, List.not_mem_nil, or_false] at hdropped
  rcases hdropped with rfl | rfl | rfl
  all_goals exact absurd hedge (by decide)

/-- What is read of a text with two slashes and a word behind the first one. -/
theorem exists_essence_append (front : Text) {word : Text} (hw : isPlain word = true)
    (token : Text) :
    ∃ before after, ∀ name, isPlain name = true →
      essence (front ++ '/' :: (word ++ token) ++ '/' :: name) =
        before ++ '/' :: (word ++ after ++ '/' :: name) := by
  have hslash : ¬ isEdge '/' = true := by decide
  refine ⟨(front.dropWhile isEdge).filter (!isDropped ·), token.filter (!isDropped ·),
    fun name hn => ?_⟩
  have hkept : ∀ c ∈ '/' :: name, ¬ isEdge c = true := by
    intro c hc
    simp [isEdge_of_isPlain (isPlain_slash hn) hc]
  have hfront : (front ++ '/' :: (word ++ token) ++ '/' :: name).dropWhile isEdge =
      front.dropWhile isEdge ++ ('/' :: word ++ token) ++ '/' :: name := by
    rw [List.append_assoc, List.cons_append, dropWhile_append_cons hslash]
    simp
  rw [essence, Text.stripWhile, hfront, Text.dropEndWhile_append hkept nofun]
  simp only [List.filter_append, filter_of_isPlain (isPlain_slash hw),
    filter_of_isPlain (isPlain_slash hn)]
  simp

/-- What is read behind the colon of a scheme. -/
def readBehind (scheme rest : Text) : Except Error Url :=
  let kind := Kind.of scheme
  match kind with
  | .file => readFile rest
  | .server _ => do
    let (authority, rest) ← readAuthority kind (rest.dropWhile isSlash)
    return complete scheme (some authority) rest
  | .other =>
    match rest with
    | '/' :: '/' :: r => do
      let (authority, rest) ← readAuthority kind r
      return complete scheme (some authority) rest
    | _ => .ok (complete scheme none rest)

theorem parse_eq (s : Text) :
    parse s = (splitScheme? (essence s)).elim (.error .noScheme) fun parts =>
      readBehind parts.1 parts.2 := by
  rw [parse]
  cases splitScheme? (essence s) with
  | none => rfl
  | some parts => rfl

/-- Behind a scheme it does not hang on what stands behind a slash whether all can be read, if there
are at least two characters before it and one of them is no slash. -/
theorem exists_isOk_readBehind (scheme : Text) {c d x : Char} {s : Text} (hx : isSlash x = false)
    (hmem : x ∈ c :: d :: s) :
    ∃ readable : Bool, ∀ name,
      (readBehind scheme (c :: d :: (s ++ '/' :: name))).isOk = readable := by
  unfold readBehind
  cases Kind.of scheme with
  | file =>
      dsimp only
      -- only behind two slashes there is a host, and that ends before the slash
      by_cases hslashes : (isSlash c && isSlash d) = true
      · refine ⟨(readFileHost s).isOk, fun name => ?_⟩
        unfold readFile
        dsimp only
        rw [if_pos hslashes, readFileHost_append]
        cases readFileHost s with
        | error e => rfl
        | ok parts => rfl
      · refine ⟨true, fun name => ?_⟩
        unfold readFile
        dsimp only
        rw [if_neg hslashes]
        rfl
  | server port =>
      -- all slashes are passed over, but not the character that is none
      have hne : ¬ ((c :: d :: s).dropWhile isSlash).isEmpty = true := by
        rw [List.isEmpty_iff, List.dropWhile_eq_nil_iff]
        intro hall
        exact absurd (hall x hmem) (by rw [hx]; decide)
      refine ⟨(readAuthority (.server port) ((c :: d :: s).dropWhile isSlash ++ ['/'])).isOk,
        fun name => ?_⟩
      dsimp only
      rw [← List.cons_append, ← List.cons_append, List.dropWhile_append, if_neg hne,
        readAuthority_append]
      cases readAuthority (.server port) ((c :: d :: s).dropWhile isSlash ++ ['/']) with
      | error e => rfl
      | ok parts => rfl
  | other =>
      by_cases hslashes : c = '/' ∧ d = '/'
      · obtain ⟨rfl, rfl⟩ := hslashes
        refine ⟨(readAuthority .other (s ++ ['/'])).isOk, fun name => ?_⟩
        simp only [readAuthority_append _ s name]
        cases readAuthority .other (s ++ ['/']) with
        | error e => rfl
        | ok parts => rfl
      · refine ⟨true, fun name => ?_⟩
        dsimp only
        split
        · rename_i heq
          obtain ⟨hc, htail⟩ := List.cons.inj heq
          exact absurd ⟨hc, (List.cons.inj htail).1⟩ hslashes
        · rfl

/-- Whether an address can be read does not hang on what stands behind a slash, if there is another
slash before it and a word between them. -/
theorem exists_isOk_parse (front : Text) {c d : Char} {word : Text}
    (hw : isPlain (c :: d :: word) = true) (hc : isSlash c = false) (token : Text) :
    ∃ readable : Bool, ∀ name, isPlain name = true →
      (parse (front ++ '/' :: (c :: d :: word ++ token) ++ '/' :: name)).isOk = readable := by
  obtain ⟨before, after, hessence⟩ := exists_essence_append front hw token
  cases hscheme : splitScheme? (before ++ ['/']) with
  | none =>
      refine ⟨false, fun name hn => ?_⟩
      rw [parse_eq, hessence name hn, splitScheme?_append, hscheme]
      rfl
  | some parts =>
      obtain ⟨scheme, start⟩ := parts
      -- what stands behind the scheme, up to the slash
      obtain ⟨c', d', middle, hmiddle⟩ :
          ∃ c' d' middle, start ++ (c :: d :: word ++ after) = c' :: d' :: middle := by
        match start with
        | [] => exact ⟨_, _, _, rfl⟩
        | [c'] => exact ⟨_, _, _, rfl⟩
        | c' :: d' :: others => exact ⟨_, _, _, rfl⟩
      have hmem : c ∈ c' :: d' :: middle := by
        rw [← hmiddle]
        exact List.mem_append_right _ List.mem_cons_self
      obtain ⟨readable, hreadable⟩ := exists_isOk_readBehind scheme hc hmem
      refine ⟨readable, fun name hn => ?_⟩
      have hrest : start ++ (c :: d :: word ++ after ++ '/' :: name) =
          c' :: d' :: (middle ++ '/' :: name) := by
        rw [← List.append_assoc, hmiddle]
        rfl
      rw [parse_eq, hessence name hn, splitScheme?_append, hscheme, Option.map_some, hrest]
      exact hreadable name

end Url
end ChatAssistant
