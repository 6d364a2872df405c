import ChatAssistant.Proofs.Text.Utf8
import ChatAssistant.Proofs.Url.Slash
import Mathlib.Data.List.Basic

/-!
# The parts of a written address

An address that was read holds no delimiter in any of its parts, so its text can be cut again at the
first `#`, the first `?`, the first `:` and the first `/` behind the two slashes, by a reader that
knows nothing else about addresses.

* `Percent.mem_encode` — which characters an encoded text is made of;
* `Parsed`, `parsed_of_parse` — the ways in which an address is put together;
* `Delimited`, `delimited_of_parse` — the parts of an address with a server hold no delimiter;
* `Parts`, `Delimited.parts_toText` — such an address is cut into the parts that it was written
  with.
-/

namespace ChatAssistant
namespace Url

variable {c : Char} {s part : Text} {kind : Kind}

/-! ## Encoded texts -/

namespace Percent

variable {special : Char → Bool}

/-- A byte of a text that is no part of a longer character is a character of the text. -/
theorem ofNat_mem_of_mem_encode {b : UInt8} (hb : b ∈ Utf8.encode s) (hascii : b.toNat < 0x80) :
    Char.ofNat b.toNat ∈ s := by
  obtain ⟨d, hd, hbyte⟩ := List.mem_flatMap.1 hb
  have hsingle : Utf8.encode [d] = [b] := by
    rw [Utf8.encode_singleton]
    exact Utf8.utf8EncodeChar_of_mem hbyte hascii
  have hown : Utf8.encode [Char.ofNat b.toNat] = [b] := by
    rw [utf8_encode_ascii hascii, UInt8.ofNat_toNat]
  have hsame := List.singleton_inj.1 (Utf8.encode_injective (hown.trans hsingle.symm))
  rwa [hsame]

/-- An encoded text is made of characters that were left alone, and of escapes. -/
theorem mem_encode (h : c ∈ encode special s) :
    (c ∈ s ∧ special c = false) ∨ c = '%' ∨ c.isAlphanum = true := by
  obtain ⟨b, hb, hc⟩ := List.mem_flatMap.1 h
  unfold encodeByte at hc
  split at hc
  · rename_i hplain
    simp only [Bool.and_eq_true, decide_eq_true_eq, Bool.not_eq_true'] at hplain
    obtain rfl := List.mem_singleton.1 hc
    exact .inl ⟨ofNat_mem_of_mem_encode hb hplain.1, hplain.2⟩
  · exact .inr (mem_escape hc)

/-- What is to be encoded does not stand in the encoded text, unless escapes are made of it. -/
theorem not_mem_encode (hspecial : special c = true) (hsign : c ≠ '%')
    (hdigit : c.isAlphanum = false) : c ∉ encode special s := by
  intro h
  rcases mem_encode h with ⟨-, hplain⟩ | rfl | hletter
  · rw [hspecial] at hplain
    cases hplain
  · exact hsign rfl
  · rw [hdigit] at hletter
    cases hletter

end Percent

/-! ## How an address is put together -/

/-- The ways in which an address is put together. -/
inductive Parsed : Url → Prop where
  | file (authority : Authority) (rest : Text) :
      Parsed (complete fileScheme (some authority) rest)
  | server {scheme front rest : Text} {port : Nat} {authority : Authority}
      (hkind : Kind.of scheme = .server port)
      (hauthority : readAuthority (.server port) front = .ok (authority, rest)) :
      Parsed (complete scheme (some authority) rest)
  | other {scheme : Text} (hkind : Kind.of scheme = .other) (authority : Option Authority)
      (rest : Text) : Parsed (complete scheme authority rest)

variable {u : Url}

theorem parsed_of_readFile (h : readFile s = .ok u) : Parsed u := by
  unfold readFile at h
  dsimp only at h
  split at h
  · split at h
    · rename_i r _
      cases hhost : readFileHost r with
      | error e =>
          rw [hhost] at h
          cases h
      | ok parts =>
          rw [hhost] at h
          cases h
          exact .file _ _
    · cases h
      exact .file _ _
  · cases h
    exact .file _ _

theorem parsed_of_readBehind {scheme : Text} (h : readBehind scheme s = .ok u) : Parsed u := by
  unfold readBehind at h
  dsimp only at h
  split at h
  · exact parsed_of_readFile h
  · rename_i port hkind
    cases hauthority : readAuthority (.server port) (s.dropWhile isSlash) with
    | error e =>
        rw [hkind, hauthority] at h
        cases h
    | ok parts =>
        rw [hkind, hauthority] at h
        cases h
        exact .server hkind hauthority
  · rename_i hkind
    split at h
    · rename_i r
      cases hauthority : readAuthority (Kind.of scheme) r with
      | error e =>
          rw [hauthority] at h
          cases h
      | ok parts =>
          rw [hauthority] at h
          cases h
          exact .other hkind _ _
    · cases h
      exact .other hkind _ _

/-- Every address that is read is put together in one of these ways. -/
theorem parsed_of_parse (h : parse s = .ok u) : Parsed u := by
  rw [parse_eq] at h
  cases hscheme : splitScheme? (essence s) with
  | none =>
      rw [hscheme] at h
      cases h
  | some parts =>
      rw [hscheme] at h
      exact parsed_of_readBehind h

/-- All of them end with the same reading of path, query and fragment. -/
theorem Parsed.exists_complete (h : Parsed u) :
    ∃ scheme authority rest, u = complete scheme authority rest := by
  cases h with
  | file authority rest => exact ⟨_, _, _, rfl⟩
  | server hkind hauthority => exact ⟨_, _, _, rfl⟩
  | other hkind authority rest => exact ⟨_, _, _, rfl⟩

/-! ## Segments -/

/-- A part between separators holds no separator. -/
theorem not_of_mem_splitOnP {p : Char → Bool} (hpart : part ∈ s.splitOnP p) (hc : c ∈ part) :
    p c = false := by
  induction s generalizing part with
  | nil =>
      rw [List.splitOnP_nil] at hpart
      obtain rfl := List.mem_singleton.1 hpart
      cases hc
  | cons d s ih =>
      rw [List.splitOnP_cons_eq_if_modifyHead] at hpart
      split at hpart
      · rcases List.mem_cons.1 hpart with rfl | hpart
        · cases hc
        · exact ih hpart hc
      · rename_i hd
        cases hrest : s.splitOnP p with
        | nil => exact absurd hrest (List.splitOnP_ne_nil p s)
        | cons first others =>
            rw [hrest] at hpart ih
            rcases List.mem_cons.1 hpart with rfl | hpart
            · rcases List.mem_cons.1 hc with rfl | hc
              · exact Bool.eq_false_iff.2 hd
              · exact ih List.mem_cons_self hc
            · exact ih (List.mem_cons_of_mem _ hpart) hc

/-- What holds of the segments of a path and of those that are added to it holds of all of them
afterwards, if it is a property that empty segments and letters of drives have. -/
theorem forall_addSegments {P : Text → Prop} (hnil : P [])
    (hdrive : ∀ segment, P segment → P (segment.take 1 ++ [':'])) {segments parts : List Text}
    (hsegments : ∀ segment ∈ segments, P segment) (hparts : ∀ segment ∈ parts, P segment) :
    ∀ segment ∈ addSegments kind segments parts, P segment := by
  -- one more segment
  have hadd {segments : List Text} {new : Text} {isLast : Bool}
      (hsegments : ∀ segment ∈ segments, P segment) (hnew : P new) :
      ∀ segment ∈ addSegment kind segments new isLast, P segment := by
    have hfinish {list : List Text} (hlist : ∀ segment ∈ list, P segment) :
        ∀ segment ∈ (if isLast then list ++ [[]] else list), P segment := by
      split
      · exact List.forall_mem_append.2 ⟨hlist, List.forall_mem_singleton.2 hnil⟩
      · exact hlist
    have hshorten : ∀ segment ∈ shorten kind segments, P segment := by
      unfold shorten
      split
      · exact hsegments
      · exact fun segment hmem => hsegments segment (List.dropLast_subset _ hmem)
    unfold addSegment
    dsimp only
    split
    · exact hfinish hshorten
    split
    · exact hfinish hsegments
    split
    · exact List.forall_mem_append.2 ⟨hsegments, List.forall_mem_singleton.2 (hdrive new hnew)⟩
    · exact List.forall_mem_append.2 ⟨hsegments, List.forall_mem_singleton.2 hnew⟩
  induction parts generalizing segments with
  | nil => exact hsegments
  | cons new parts ih =>
      rw [List.forall_mem_cons] at hparts
      exact ih (hadd hsegments hparts.1) hparts.2

/-- A character that ends a part of an address. -/
def isDelimiter (c : Char) : Bool := ['/', '?', '#'].contains c

theorem eq_of_isDelimiter (h : isDelimiter c = true) : c = '/' ∨ c = '?' ∨ c = '#' := by
  simpa [isDelimiter] using h

/-- No part of an escape is a delimiter, nor is any character that was left alone. -/
theorem not_isDelimiter_of_mem_encode {special : Char → Bool}
    (h : ∀ c ∈ s, isDelimiter c = true → special c = true) (hc : c ∈ Percent.encode special s) :
    isDelimiter c = false := by
  rw [Bool.eq_false_iff]
  intro hdelimiter
  rcases Percent.mem_encode hc with ⟨hmem, hplain⟩ | rfl | hletter
  · rw [h c hmem hdelimiter] at hplain
    cases hplain
  · cases hdelimiter
  · rcases eq_of_isDelimiter hdelimiter with rfl | rfl | rfl
    all_goals cases hletter

/-- The segments of a path hold no delimiters: slashes part them, and the others are encoded. -/
theorem not_isDelimiter_of_mem_segmentsOf {segment : Text} (h : segment ∈ segmentsOf kind s)
    (hc : c ∈ segment) : isDelimiter c = false := by
  have hparts : ∀ part ∈ encodedParts kind s, ∀ c ∈ part, isDelimiter c = false := by
    intro part hpart c hc
    obtain ⟨raw, hraw, rfl⟩ := List.mem_map.1 hpart
    refine not_isDelimiter_of_mem_encode (fun d hd hdelimiter => ?_) hc
    have hslash := not_of_mem_splitOnP hraw hd
    rcases eq_of_isDelimiter hdelimiter with rfl | rfl | rfl
    · cases hslash
    · decide
    · decide
  have hdrive (segment : Text) (hsegment : ∀ c ∈ segment, isDelimiter c = false) :
      ∀ c ∈ segment.take 1 ++ [':'], isDelimiter c = false := by
    refine List.forall_mem_append.2 ⟨fun c hc => hsegment c (List.mem_of_mem_take hc), ?_⟩
    decide
  have hall : ∀ segment ∈ addSegments kind [] (encodedParts kind s),
      ∀ c ∈ segment, isDelimiter c = false :=
    forall_addSegments nofun hdrive nofun hparts
  unfold segmentsOf at h
  dsimp only at h
  split at h
  · -- in the address of a file some of them are dropped
    unfold dropEmptyFront at h
    split at h
    · obtain rfl := List.mem_singleton.1 h
      cases hc
    · exact hall segment ((List.dropWhile_sublist _).subset h) c hc
  · exact hall segment h c hc

theorem addSegments_ne_nil (kind : Kind) (segments : List Text) {parts : List Text}
    (h : parts ≠ []) : addSegments kind segments parts ≠ [] := by
  induction parts generalizing segments with
  | nil => exact absurd rfl h
  | cons new parts ih =>
      cases parts with
      | cons next parts => exact ih _ (List.cons_ne_nil _ _)
      | nil =>
          -- the last one leaves a segment, though it may be an empty one
          show addSegment kind segments new true ≠ []
          simp only [addSegment, if_true]
          split
          · simp
          split
          · simp
          split
          · simp
          · simp

/-- A path is never empty. -/
theorem segmentsOf_ne_nil (kind : Kind) (s : Text) : segmentsOf kind s ≠ [] := by
  have hparts : encodedParts kind s ≠ [] := by
    simp [encodedParts, splitPath, List.splitOnP_ne_nil]
  unfold segmentsOf
  dsimp only
  split
  · unfold dropEmptyFront
    split
    · simp
    · rename_i hlist
      exact hlist
  · exact addSegments_ne_nil kind [] hparts

/-! ## Path, query and fragment -/

theorem mem_toText_segments {list : List Text} (h : c ∈ (Path.segments list).toText) :
    c = '/' ∨ ∃ segment ∈ list, c ∈ segment := by
  obtain ⟨segment, hsegment, hc⟩ := List.mem_flatMap.1 h
  exact (List.mem_cons.1 hc).imp_right fun hc => ⟨segment, hsegment, hc⟩

theorem isDelimiter_of_endsPath (h : endsPath c = true) : isDelimiter c = true := by
  simp only [endsPath, Bool.or_eq_true, decide_eq_true_eq] at h
  rcases h with rfl | rfl
  · decide
  · decide

/-- Without delimiters in its segments, a path holds no character that ends it. -/
theorem not_endsPath_of_mem_segments {list : List Text}
    (hlist : ∀ segment ∈ list, ∀ c ∈ segment, isDelimiter c = false)
    (hc : c ∈ (Path.segments list).toText) : endsPath c = false := by
  rcases mem_toText_segments hc with rfl | ⟨segment, hsegment, hc⟩
  · decide
  · rw [Bool.eq_false_iff]
    intro hends
    exact Bool.eq_false_iff.1 (hlist segment hsegment c hc) (isDelimiter_of_endsPath hends)

theorem not_endsPath_of_mem_readPath {hasAuthority : Bool} (hs : ∀ c ∈ s, endsPath c = false)
    (hc : c ∈ (readPath kind hasAuthority s).toText) : endsPath c = false := by
  have hsegments : ∀ segment ∈ segmentsOf kind s, ∀ c ∈ segment, isDelimiter c = false :=
    fun segment hsegment c hc => not_isDelimiter_of_mem_segmentsOf hsegment hc
  unfold readPath at hc
  split at hc
  · split at hc
    · cases hc
    · exact not_endsPath_of_mem_segments hsegments hc
  · split at hc
    · exact not_endsPath_of_mem_segments hsegments hc
    · -- a path that is not made of segments is copied
      rw [Bool.eq_false_iff]
      intro hends
      rcases Percent.mem_encode hc with ⟨hmem, -⟩ | rfl | hletter
      · rw [hs c hmem] at hends
        cases hends
      · cases hends
      · rcases eq_of_isDelimiter (isDelimiter_of_endsPath hends) with rfl | rfl | rfl
        all_goals cases hletter

/-- The segments of a path stand between slashes, with one in front. -/
theorem toText_segments {list : List Text} (h : list ≠ []) :
    (Path.segments list).toText = '/' :: ['/'].intercalate list := by
  induction list with
  | nil => exact absurd rfl h
  | cons first others ih =>
      cases others with
      | nil => simp [Path.toText]
      | cons next others =>
          have hothers : (Path.segments (next :: others)).toText =
              '/' :: ['/'].intercalate (next :: others) := ih (List.cons_ne_nil _ _)
          calc
            (Path.segments (first :: next :: others)).toText
                = '/' :: first ++ (Path.segments (next :: others)).toText := List.flatMap_cons
            _ = '/' :: first ++ '/' :: ['/'].intercalate (next :: others) := by rw [hothers]
            _ = '/' :: ['/'].intercalate (first :: next :: others) := by
                  rw [List.intercalate_cons_cons]
                  simp

/-- The text of a path that was read holds neither of the characters that end a path. -/
theorem Parsed.not_endsPath (h : Parsed u) (hc : c ∈ u.path.toText) : endsPath c = false := by
  obtain ⟨scheme, authority, rest, rfl⟩ := h.exists_complete
  refine not_endsPath_of_mem_readPath (fun d hd => ?_) hc
  have htaken := List.mem_takeWhile_imp hd
  simpa using htaken

/-- No query holds the mark of a fragment. -/
theorem Parsed.not_mem_query (h : Parsed u) : ∀ query ∈ u.query, '#' ∉ query := by
  obtain ⟨scheme, authority, rest, rfl⟩ := h.exists_complete
  intro query hquery
  have hmark : Percent.inQuery (Kind.of scheme).isSpecial '#' = true := by
    simp [Percent.inQuery]
  simp only [complete, readTail] at hquery
  split at hquery
  · cases hquery
  · obtain rfl := Option.some.inj hquery
    exact Percent.not_mem_encode hmark (by decide) (by decide)

/-! ## Authority -/

theorem isDelimiter_of_isDenied (h : isDelimiter c = true) : Domain.isDenied c = true := by
  rcases eq_of_isDelimiter h with rfl | rfl | rfl
  · decide
  · decide
  · decide

theorem not_isDelimiter_of_isAlphanum (h : c.isAlphanum = true) : isDelimiter c = false := by
  rw [Bool.eq_false_iff]
  intro hdelimiter
  rcases eq_of_isDelimiter hdelimiter with rfl | rfl | rfl
  all_goals cases h

theorem mem_intercalate {sep : Text} {parts : List Text} (h : c ∈ sep.intercalate parts) :
    c ∈ sep ∨ ∃ part ∈ parts, c ∈ part := by
  induction parts with
  | nil => cases h
  | cons part parts ih =>
      have hrest (h : c ∈ sep.intercalate parts) : c ∈ sep ∨ ∃ p ∈ part :: parts, c ∈ p :=
        (ih h).imp_right fun ⟨p, hp, hc⟩ => ⟨p, List.mem_cons_of_mem _ hp, hc⟩
      cases parts with
      | nil =>
          rw [List.intercalate_singleton] at h
          exact .inr ⟨part, List.mem_cons_self, h⟩
      | cons next parts =>
          rw [List.intercalate_cons_cons, List.append_assoc] at h
          rcases List.mem_append.1 h with h | h
          · exact .inr ⟨part, List.mem_cons_self, h⟩
          · rcases List.mem_append.1 h with h | h
            · exact .inl h
            · exact hrest h

/-- Digits to any base up to 16 are letters and digits of ASCII. -/
theorem isAlphanum_of_mem_toDigits {base n : Nat} (hbase : 1 < base) (hsmall : base ≤ 16)
    (h : c ∈ Nat.toDigits base n) : c.isAlphanum = true := by
  have hdigit {k : Nat} (hk : k < 16) : (Nat.digitChar k).isAlphanum = true := by
    have hall : ∀ k ∈ List.range 16, (Nat.digitChar k).isAlphanum = true := by decide
    exact hall k (List.mem_range.2 hk)
  induction n using Nat.strong_induction_on with
  | _ n ih =>
      rw [Nat.toDigits_eq_if hbase] at h
      split at h
      · rename_i hn
        rw [List.mem_singleton.1 h]
        exact hdigit (by omega)
      · rename_i hn
        rcases List.mem_append.1 h with h | h
        · exact ih (n / base) (Nat.div_lt_self (by omega) hbase) h
        · have hlast : n % base < base := Nat.mod_lt _ (by omega)
          rw [List.mem_singleton.1 h]
          exact hdigit (by omega)

/-- Numbers that are joined by a mark hold no delimiter, if the mark is none. -/
theorem not_isDelimiter_of_joined {mark : Char} (hmark : isDelimiter mark = false) {base : Nat}
    (hbase : 1 < base) (hsmall : base ≤ 16) (numbers : List Nat) :
    ∀ c ∈ [mark].intercalate (numbers.map (Nat.toDigits base)), isDelimiter c = false := by
  intro c hc
  rcases mem_intercalate hc with hc | ⟨part, hpart, hc⟩
  · rwa [List.mem_singleton.1 hc]
  · obtain ⟨n, -, rfl⟩ := List.mem_map.1 hpart
    exact not_isDelimiter_of_isAlphanum (isAlphanum_of_mem_toDigits hbase hsmall hc)

theorem Ipv4.not_isDelimiter (a : Ipv4) : ∀ c ∈ a.toText, isDelimiter c = false :=
  not_isDelimiter_of_joined (by decide) (by decide) (by decide)
    ([16777216, 65536, 256, 1].map fun unit => a.value / unit % 256)

theorem Ipv6.not_isDelimiter (a : Ipv6) : ∀ c ∈ a.toText, isDelimiter c = false := by
  have hjoined (pieces : List Nat) : ∀ c ∈ [':'].intercalate
      (pieces.map Hexadecimal.digitsOfNat), isDelimiter c = false :=
    not_isDelimiter_of_joined (by decide) (by decide) (by decide) pieces
  unfold toText
  dsimp only
  split
  · exact hjoined _
  · -- two colons stand for the zeros that are left out
    have hcolons : ∀ c ∈ "::".toList, isDelimiter c = false := by decide
    exact List.forall_mem_append.2
      ⟨List.forall_mem_append.2 ⟨hjoined _, hcolons⟩, hjoined _⟩

theorem not_isDelimiter_of_ofBytes? {bytes : List UInt8} (h : Domain.ofBytes? bytes = some s)
    (hc : c ∈ s) : isDelimiter c = false := by
  unfold Domain.ofBytes? at h
  simp only [bind, Option.bind_eq_some_iff] at h
  obtain ⟨typed, -, name, -, labels, -, h⟩ := h
  split at h
  · cases h
  · simp only [Option.bind_eq_some_iff] at h
    obtain ⟨encoded, -, h⟩ := h
    split at h
    · cases h
    · rename_i hdenied
      obtain rfl := Option.some.inj h
      rw [Bool.eq_false_iff]
      intro hdelimiter
      exact hdenied (List.any_eq_true.2 ⟨c, hc, isDelimiter_of_isDenied hdelimiter⟩)

/-- The hosts of an address with a server. -/
theorem Host.cases_of_ofSpecial {host : Host} (h : Host.ofSpecial s = .ok host) :
    (∃ a, host = .ipv6 a) ∨ (∃ a, host = .ipv4 a) ∨
      ∃ ascii, Domain.ofBytes? (Percent.decode s) = some ascii ∧ host = .name ascii := by
  unfold Host.ofSpecial at h
  split at h
  · -- in brackets
    rename_i bracketed hbracketed
    unfold Host.bracketed? at hbracketed
    split at hbracketed
    · obtain rfl := Option.some.inj hbracketed
      split at h
      · split at h
        · exact .inl ⟨_, (Except.ok.inj h).symm⟩
        · cases h
      · cases h
    · cases hbracketed
  · split at h
    · cases h
    · cases h
    · -- a domain whose last label is a number is to be read as one
      rename_i ascii _ hascii
      split at h
      · split at h
        · exact .inr (.inl ⟨_, (Except.ok.inj h).symm⟩)
        · cases h
      · exact .inr (.inr ⟨ascii, hascii, (Except.ok.inj h).symm⟩)

/-- No host of an address with a server holds a delimiter. -/
theorem Host.not_isDelimiter {host : Host} (h : Host.ofSpecial s = .ok host) :
    ∀ c ∈ host.toText, isDelimiter c = false := by
  rcases Host.cases_of_ofSpecial h with ⟨a, rfl⟩ | ⟨a, rfl⟩ | ⟨ascii, hascii, rfl⟩
  · refine List.forall_mem_cons.2 ⟨by decide, List.forall_mem_append.2 ⟨?_, by decide⟩⟩
    exact Ipv6.not_isDelimiter a
  · exact Ipv4.not_isDelimiter a
  · exact fun c hc => not_isDelimiter_of_ofBytes? hascii hc

theorem ofSpecial_of_readHost {port : Nat} {hasPort : Bool} {host : Host}
    (h : readHost (.server port) s hasPort = .ok (some host)) : Host.ofSpecial s = .ok host := by
  have hspecial : (Kind.server port).isSpecial = true := rfl
  unfold readHost at h
  rw [if_pos hspecial] at h
  split at h
  · cases h
  · cases hhost : Host.ofSpecial s with
    | error e =>
        rw [hhost] at h
        cases h
    | ok found =>
        rw [hhost] at h
        cases h
        rfl

/-- Where the parts of an authority come from. -/
theorem exists_of_readAuthority {a : Authority} {rest : Text}
    (h : readAuthority kind s = .ok (a, rest)) :
    (∃ credentials, a.user = (readCredentials credentials).1 ∧
        a.password = (readCredentials credentials).2) ∧
      ∃ text hasPort, readHost kind text hasPort = .ok a.host := by
  unfold readAuthority at h
  dsimp only at h
  split at h
  · cases h
  · generalize hcredentials : splitCredentials (s.takeWhile (!endsAuthority kind ·)) = parts at h
    generalize splitPort false parts.2 = server at h
    cases hhost : readHost kind server.1 (!server.2.isEmpty) with
    | error e =>
        rw [hhost] at h
        cases h
    | ok host =>
        cases hport : readPort kind server.2 with
        | error e =>
            rw [hhost, hport] at h
            cases h
        | ok port =>
            simp only [hhost, hport, bind, Except.bind] at h
            split at h
            · cases h
            · cases h
              exact ⟨⟨_, rfl, rfl⟩, _, _, hhost⟩

/-- What holds of the marks of an authority and of its parts holds of all its characters. -/
theorem Authority.forall_mem_toText {P : Char → Prop} {a : Authority} (hcolon : P ':') (hat : P '@')
    (huser : ∀ c ∈ a.user, P c) (hpassword : ∀ c ∈ a.password, P c)
    (hhost : ∀ host ∈ a.host, ∀ c ∈ host.toText, P c)
    (hport : ∀ n ∈ a.port, ∀ c ∈ Decimal.digitsOfNat n, P c) : ∀ c ∈ a.toText, P c := by
  refine List.forall_mem_append.2 ⟨List.forall_mem_append.2 ⟨?credentials, ?host⟩, ?port⟩
  case credentials =>
    -- they are left out together with their mark
    split
    · exact nofun
    · refine List.forall_mem_append.2 ⟨List.forall_mem_append.2 ⟨huser, ?_⟩, by simpa using hat⟩
      split
      · exact nofun
      · exact List.forall_mem_cons.2 ⟨hcolon, hpassword⟩
  case host =>
    cases hfound : a.host with
    | none => exact nofun
    | some host => exact hhost host hfound
  case port =>
    cases hfound : a.port with
    | none => exact nofun
    | some n => exact List.forall_mem_cons.2 ⟨hcolon, hport n hfound⟩

/-- No authority of an address with a server holds a delimiter. -/
theorem Authority.not_isDelimiter {a : Authority} {rest : Text} {port : Nat}
    (h : readAuthority (.server port) s = .ok (a, rest)) :
    ∀ c ∈ a.toText, isDelimiter c = false := by
  obtain ⟨⟨credentials, huser, hpassword⟩, text, hasPort, hhost⟩ := exists_of_readAuthority h
  have hencoded (s : Text) : ∀ c ∈ Percent.encode Percent.inCredentials s,
      isDelimiter c = false := by
    intro c hc
    refine not_isDelimiter_of_mem_encode (fun d _ hdelimiter => ?_) hc
    rcases eq_of_isDelimiter hdelimiter with rfl | rfl | rfl
    all_goals decide
  refine forall_mem_toText (by decide) (by decide) ?user ?password ?host ?port
  case user =>
    rw [huser]
    exact hencoded _
  case password =>
    rw [hpassword]
    exact hencoded _
  case host =>
    intro host hfound
    rw [Option.mem_def.1 hfound] at hhost
    exact Host.not_isDelimiter (ofSpecial_of_readHost hhost)
  case port =>
    intro n _ c hc
    exact not_isDelimiter_of_isAlphanum (isAlphanum_of_mem_toDigits (by decide) (by decide) hc)

/-! ## Addresses with a server -/

/-- The address of the machine itself. -/
def Ipv6.loopback : Ipv6 := ⟨[0, 0, 0, 0, 0, 0, 0, 1], rfl⟩

/-- The scheme is one of those of the web. -/
def isWebScheme (scheme : Text) : Bool := ["http".toList, "https".toList].contains scheme

/-- An address with a server, of which no part holds a character that would end it. -/
structure Delimited (u : Url) (a : Authority) (list : List Text) : Prop where
  web : isWebScheme u.scheme = true
  authority_eq : u.authority = some a
  authority : ∀ c ∈ a.toText, isDelimiter c = false
  path : u.path = .segments list
  list_ne_nil : list ≠ []
  segments : ∀ segment ∈ list, ∀ c ∈ segment, isDelimiter c = false
  query : ∀ query ∈ u.query, '#' ∉ query

/-- The schemes of the web name servers. -/
theorem exists_kind_of_isWebScheme {scheme : Text} (h : isWebScheme scheme = true) :
    ∃ port, Kind.of scheme = .server port := by
  simp only [isWebScheme, List.contains_iff_mem, List.mem_cons, List.not_mem_nil, or_false] at h
  rcases h with rfl | rfl
  · exact ⟨80, by decide⟩
  · exact ⟨443, by decide⟩

theorem delimited_of_parse (h : parse s = .ok u) (hweb : isWebScheme u.scheme = true) :
    ∃ a list, Delimited u a list := by
  have hparsed := parsed_of_parse h
  have hquery := hparsed.not_mem_query
  cases hparsed with
  | file authority rest => cases hweb
  | @server scheme front rest port authority hkind hauthority =>
      refine ⟨authority, segmentsOf (.server port) (rest.takeWhile (!endsPath ·)), hweb, rfl, ?_,
        ?_, segmentsOf_ne_nil _ _, ?_, hquery⟩
      · exact Authority.not_isDelimiter hauthority
      · simp [complete, readPath, hkind, Kind.isSpecial]
      · exact fun segment hsegment c hc => not_isDelimiter_of_mem_segmentsOf hsegment hc
  | @other scheme hkind authority rest =>
      -- a scheme of the web is none of the others
      obtain ⟨port, hport⟩ := exists_kind_of_isWebScheme hweb
      have hscheme : (complete scheme authority rest).scheme = scheme := rfl
      rw [hscheme, hkind] at hport
      cases hport

/-! ## Cutting a text -/

/-- What stands in front of the first `mark` of a text, and what stands behind it if there is
one. -/
def cut (mark : Char) (s : Text) : Text × Option Text :=
  (s.takeWhile (· ≠ mark), (s.dropWhile (· ≠ mark)).tail?)

theorem cut_append {mark : Char} {front : Text} (h : mark ∉ front) (behind : Option Text) :
    cut mark (front ++ behind.elim [] (mark :: ·)) = (front, behind) := by
  have hfront : ∀ c ∈ front, decide (c ≠ mark) = true := by
    intro c hc
    refine decide_eq_true ?_
    rintro rfl
    exact h hc
  unfold cut
  rw [List.takeWhile_append_of_pos hfront, List.dropWhile_append_of_pos hfront]
  cases behind with
  | none => simp
  | some rest => simp

/-- The parts of an address, each as it is written. -/
structure Parts where
  scheme : Text
  authority : Text
  path : Text
  query : Option Text
  fragment : Option Text
  deriving DecidableEq, Repr

/-- Cuts the text of an address with a server. -/
def Parts.ofText (s : Text) : Parts :=
  let (address, fragment) := cut '#' s
  let (hierarchy, query) := cut '?' address
  let (scheme, behind) := cut ':' hierarchy
  let place := (behind.getD []).drop 2
  ⟨scheme, place.takeWhile (· ≠ '/'), place.dropWhile (· ≠ '/'), query, fragment⟩

/-- The segments of the text of a path. -/
def Parts.segments (p : Parts) : List Text := (p.path.drop 1).splitOn '/'

/-- Parts that stand in a row are cut apart, if each ends before the first mark that could end
it. -/
theorem Parts.ofText_eq {scheme authority rest : Text} (query fragment : Option Text)
    (hcolon : ':' ∉ scheme) (hslash : '/' ∉ authority)
    (hmark : '?' ∉ scheme ++ ':' :: ("//".toList ++ (authority ++ '/' :: rest)))
    (hhash : '#' ∉ scheme ++ ':' :: ("//".toList ++ (authority ++ '/' :: rest)) ++
      query.elim [] ('?' :: ·)) :
    Parts.ofText (scheme ++ ':' :: ("//".toList ++ (authority ++ '/' :: rest)) ++
        query.elim [] ('?' :: ·) ++ fragment.elim [] ('#' :: ·)) =
      ⟨scheme, authority, '/' :: rest, query, fragment⟩ := by
  have hplain : ∀ c ∈ authority, decide (c ≠ '/') = true := by
    intro c hc
    refine decide_eq_true ?_
    rintro rfl
    exact hslash hc
  have hscheme : cut ':' (scheme ++ ':' :: ("//".toList ++ (authority ++ '/' :: rest))) =
      (scheme, some ("//".toList ++ (authority ++ '/' :: rest))) := cut_append hcolon (some _)
  -- from behind: the fragment, the query, and then the scheme
  unfold Parts.ofText
  rw [cut_append hhash]
  dsimp only
  rw [cut_append hmark]
  dsimp only
  rw [hscheme]
  dsimp only [Option.getD_some]
  rw [List.drop_left' (by rfl), List.takeWhile_append_of_pos hplain,
    List.dropWhile_append_of_pos hplain]
  simp

namespace Delimited

variable {a : Authority} {list : List Text}

theorem isAlphanum_of_mem_scheme (h : Delimited u a list) (hc : c ∈ u.scheme) :
    c.isAlphanum = true := by
  have hweb := h.web
  simp only [isWebScheme, List.contains_iff_mem, List.mem_cons, List.not_mem_nil, or_false] at hweb
  have hletters : ∀ scheme ∈ ["http".toList, "https".toList],
      ∀ c ∈ scheme, c.isAlphanum = true := by decide
  refine hletters u.scheme ?_ c hc
  rcases hweb with hweb | hweb
  · rw [hweb]
    exact List.mem_cons_self
  · rw [hweb]
    exact List.mem_cons_of_mem _ List.mem_cons_self

/-- Up to the path there is neither a `?` nor a `#`. -/
theorem not_endsPath_hierarchy (h : Delimited u a list)
    (hc : c ∈ u.scheme ++ ':' :: ("//".toList ++ (a.toText ++ u.path.toText))) :
    endsPath c = false := by
  rw [Bool.eq_false_iff]
  intro hends
  have hdelimiter := isDelimiter_of_endsPath hends
  rcases List.mem_append.1 hc with hc | hc
  · rw [not_isDelimiter_of_isAlphanum (h.isAlphanum_of_mem_scheme hc)] at hdelimiter
    cases hdelimiter
  rcases List.mem_cons.1 hc with rfl | hc
  · cases hends
  rcases List.mem_append.1 hc with hc | hc
  · have hslashes : ∀ d ∈ "//".toList, endsPath d = false := by decide
    rw [hslashes c hc] at hends
    cases hends
  rcases List.mem_append.1 hc with hc | hc
  · rw [h.authority c hc] at hdelimiter
    cases hdelimiter
  · rw [h.path] at hc
    rw [not_endsPath_of_mem_segments h.segments hc] at hends
    cases hends

/-- The address is cut into the parts that it was written with. -/
theorem parts_toText (h : Delimited u a list) :
    Parts.ofText u.toText = ⟨u.scheme, a.toText, u.path.toText, u.query, u.fragment⟩ := by
  have hcolon : ':' ∉ u.scheme := by
    intro hc
    cases h.isAlphanum_of_mem_scheme hc
  have hslash : '/' ∉ a.toText := by
    intro hc
    cases h.authority _ hc
  -- the mark of a query may stand in the fragment, and slashes and colons in all that follows
  have hmark : '?' ∉ u.scheme ++ ':' :: ("//".toList ++ (a.toText ++ u.path.toText)) := by
    intro hc
    cases h.not_endsPath_hierarchy hc
  have hhash : '#' ∉ u.scheme ++ ':' :: ("//".toList ++ (a.toText ++ u.path.toText)) ++
      u.query.elim [] ('?' :: ·) := by
    intro hc
    rcases List.mem_append.1 hc with hc | hc
    · cases h.not_endsPath_hierarchy hc
    · cases hquery : u.query with
      | none =>
          rw [hquery] at hc
          cases hc
      | some query =>
          rw [hquery] at hc
          rcases List.mem_cons.1 hc with hc | hc
          · cases hc
          · exact h.query query hquery hc
  have htext : u.toText = u.scheme ++ ':' :: ("//".toList ++ (a.toText ++ u.path.toText)) ++
      u.query.elim [] ('?' :: ·) ++ u.fragment.elim [] ('#' :: ·) := by
    simp [toText, h.authority_eq]
  rw [htext]
  rw [h.path, toText_segments h.list_ne_nil] at hmark hhash ⊢
  exact Parts.ofText_eq u.query u.fragment hcolon hslash hmark hhash

/-- The segments are found again. -/
theorem segments_parts (h : Delimited u a list) : (Parts.ofText u.toText).segments = list := by
  have hslash : ∀ segment ∈ list, '/' ∉ segment := by
    intro segment hsegment hc
    cases h.segments segment hsegment _ hc
  have hpath : u.path.toText = '/' :: ['/'].intercalate list := by
    rw [h.path, toText_segments h.list_ne_nil]
  calc
    (Parts.ofText u.toText).segments = (u.path.toText.drop 1).splitOn '/' :=
      congrArg Parts.segments h.parts_toText
    _ = (['/'].intercalate list).splitOn '/' := by rw [hpath, List.drop_one, List.tail_cons]
    _ = list := List.splitOn_intercalate '/' hslash h.list_ne_nil

end Delimited

end Url
end ChatAssistant
