import ChatAssistant.MediaWiki.Response
import ChatAssistant.Proofs.Url.Parts

/-!
# Links to pages

The link to a page is the address below which the pages are, with the title as one more segment of
its path.  Slashes, question marks and hash signs of a title are encoded, so the link can be cut
into its parts again, and the title can be read off the last segment, but for spaces, which are
written as underscores.

* `Url.stem` — what is left of a path when a segment is added to it;
* `Url.Delimited.child_eq` — one more segment, which no dots take away;
* `LinksTo` — a link and its address, both cut into parts;
* `pageLink_linksTo` — the link to a page, and which titles share one.
-/

namespace ChatAssistant
namespace Url

variable {s name : Text} {c d : Char}

/-! ## Segments that are dots -/

/-- Only capital letters have another small form. -/
theorem eq_or_of_toLower (h : c.toLower = d) :
    c = d ∨ (65 ≤ c.toNat ∧ c.toNat ≤ 90 ∧ d.toNat = c.toNat + 32) := by
  unfold Char.toLower at h
  split at h
  · rename_i hcapital
    have hlow : 65 ≤ c.toNat := hcapital.1
    have hhigh : c.toNat ≤ 90 := hcapital.2
    have hvalue : (c.val + 32).toNat = c.toNat + 32 := by
      have hsmall : c.toNat + 32 < 4294967296 := by omega
      exact Nat.mod_eq_of_lt hsmall
    right
    refine ⟨hlow, hhigh, ?_⟩
    rw [← h]
    exact hvalue
  · exact .inl h

theorem eq_of_toLower (h : c.toLower = d) (hd : d.toNat < 97) : c = d := by
  rcases eq_or_of_toLower h with rfl | hcapital
  · rfl
  · omega

theorem eq_or_eq_of_toLower (h : c.toLower = 'e') : c = 'e' ∨ c = 'E' := by
  rcases eq_or_of_toLower h with rfl | ⟨-, -, hvalue⟩
  · exact .inl rfl
  · right
    have hcapital : c.toNat = 'E'.toNat := by
      have hsmall : 'e'.toNat = 101 := by decide
      have hlarge : 'E'.toNat = 69 := by decide
      omega
    rw [← Char.ofNat_toNat c, hcapital]
    decide

/-- A dot that is written as it is, or as an escape, reads as one. -/
theorem exists_decode_eq_dot {t : Text}
    (h : s.map Char.toLower = '.' :: t ∨ s.map Char.toLower = '%' :: '2' :: 'e' :: t) :
    ∃ r, Percent.decode s = 0x2E :: Percent.decode r ∧ r.map Char.toLower = t := by
  rcases h with h | h
  · -- as it is
    obtain ⟨c, r, rfl, hc, hr⟩ := List.map_eq_cons_iff.1 h
    obtain rfl := eq_of_toLower hc (by decide)
    refine ⟨r, ?_, hr⟩
    rw [Percent.decode_cons_of_ne (by decide)]
    rfl
  · -- as an escape, whose letter may be of either case
    obtain ⟨c, behindSign, rfl, hc, hsign⟩ := List.map_eq_cons_iff.1 h
    obtain ⟨d, behindHigh, rfl, hd, hhigh⟩ := List.map_eq_cons_iff.1 hsign
    obtain ⟨e, r, rfl, he, hr⟩ := List.map_eq_cons_iff.1 hhigh
    obtain rfl := eq_of_toLower hc (by decide)
    obtain rfl := eq_of_toLower hd (by decide)
    refine ⟨r, ?_, hr⟩
    rcases eq_or_eq_of_toLower he with rfl | rfl
    · rw [Percent.decode]
      rfl
    · rw [Percent.decode]
      rfl

/-- A segment that counts as one dot reads as one. -/
theorem decode_of_isDot (h : isDot s = true) : Percent.decode s = Utf8.encode ['.'] := by
  simp only [isDot, List.contains_iff_mem, List.mem_cons, List.not_mem_nil, or_false] at h
  obtain ⟨r, hdecode, hr⟩ := exists_decode_eq_dot (t := []) h
  rw [hdecode, List.map_eq_nil_iff.1 hr, Percent.decode]
  rfl

/-- A segment that counts as two dots reads as two. -/
theorem decode_of_isDotDot (h : isDotDot s = true) :
    Percent.decode s = Utf8.encode ['.', '.'] := by
  have hfirst : ∃ t, (s.map Char.toLower = '.' :: t ∨ s.map Char.toLower = '%' :: '2' :: 'e' :: t) ∧
      (t = '.' :: [] ∨ t = '%' :: '2' :: 'e' :: []) := by
    simp only [isDotDot, List.contains_iff_mem, List.mem_cons, List.not_mem_nil, or_false] at h
    rcases h with h | h | h | h
    · exact ⟨_, .inl h, .inl rfl⟩
    · exact ⟨_, .inl h, .inr rfl⟩
    · exact ⟨_, .inr h, .inl rfl⟩
    · exact ⟨_, .inr h, .inr rfl⟩
  obtain ⟨t, ht, hsecond⟩ := hfirst
  obtain ⟨r, hdecode, rfl⟩ := exists_decode_eq_dot ht
  obtain ⟨r', hdecode', hr'⟩ := exists_decode_eq_dot (t := []) hsecond
  rw [hdecode, hdecode', List.map_eq_nil_iff.1 hr', Percent.decode]
  rfl

/-- An encoded name is a segment of its own, if it is no dots. -/
theorem addSegment_encode {special : Char → Bool} (hsign : special '%' = true) (port : Nat)
    (segments : List Text) (hdot : name ≠ ['.']) (hdots : name ≠ ['.', '.']) :
    addSegment (.server port) segments (Percent.encode special name) true =
      segments ++ [Percent.encode special name] := by
  have hread := Percent.decode_encode hsign name
  have hnoDots : ¬ isDotDot (Percent.encode special name) = true := by
    intro h
    rw [decode_of_isDotDot h] at hread
    exact hdots (Utf8.encode_injective hread).symm
  have hnoDot : ¬ isDot (Percent.encode special name) = true := by
    intro h
    rw [decode_of_isDot h] at hread
    exact hdot (Utf8.encode_injective hread).symm
  have hnoDrive :
      ¬ startsWithDrive (.server port) segments (Percent.encode special name) = true := by
    simp [startsWithDrive]
  unfold addSegment
  dsimp only
  rw [if_neg hnoDots, if_neg hnoDot, if_neg hnoDrive]

/-! ## One more segment -/

/-- The segments without the last one if that is empty. -/
def withoutEmptyEnd (segments : List Text) : List Text :=
  if segments.getLast? = some [] then segments.dropLast else segments

/-- What is left of the segments of a path when one is added: an empty one at the end is dropped,
and then the one that is left if it is the only one and empty too. -/
def stem (segments : List Text) : List Text :=
  if withoutEmptyEnd segments = [[]] then [] else withoutEmptyEnd segments

theorem stem_subset (segments : List Text) : stem segments ⊆ segments := by
  have hend : withoutEmptyEnd segments ⊆ segments := by
    unfold withoutEmptyEnd
    split
    · exact List.dropLast_subset _
    · exact List.Subset.refl _
  unfold stem
  split
  · exact List.nil_subset _
  · exact hend

/-- An only segment may stay where it is for the moment, because it gives way if it is empty. -/
theorem dropEmptyLast_eq_stem {segments : List Text} (h : segments ≠ []) :
    (if dropEmptyLast segments = [[]] then [] else dropEmptyLast segments) = stem segments := by
  unfold stem withoutEmptyEnd dropEmptyLast
  match segments with
  | [] => exact absurd rfl h
  | [segment] =>
      by_cases hempty : segment = []
      · simp [hempty]
      · simp [hempty]
  | first :: second :: others => simp

theorem inSegment_of_ne (kind : Kind) (h : Percent.inSegment c = true) (hc : c ≠ '\\') :
    inSegment kind c = true := by
  simp [inSegment, h, hc]

/-- A name without characters that are dropped is added as one more segment, and nothing else of the
address changes. -/
theorem Delimited.child_eq {u : Url} {a : Authority} {list : List Text} (h : Delimited u a list)
    (hdot : name ≠ ['.']) (hdots : name ≠ ['.', '.']) (hkept : ∀ c ∈ name, isDropped c = false) :
    ∃ segment, u.child name = u.withSegments (stem list ++ [segment]) ∧
      Delimited (u.child name) a (stem list ++ [segment]) ∧
      Percent.decode segment = Utf8.encode name := by
  obtain ⟨port, hkind⟩ := exists_kind_of_isWebScheme h.web
  have hnoDots : ¬ (decide (name = ['.']) || decide (name = ['.', '.'])) = true := by
    simp [hdot, hdots]
  have hfilter : name.filter (!isDropped ·) = name := by
    refine List.filter_eq_self.2 fun c hc => ?_
    rw [hkept c hc]
    rfl
  have hsign : inSegment (.server port) '%' = true :=
    inSegment_of_ne _ (by decide) (by decide)
  have hchild : u.child name =
      u.withSegments (stem list ++ [Percent.encode (inSegment (.server port)) name]) := by
    unfold child
    rw [h.path]
    dsimp only
    rw [if_neg hnoDots, hkind, hfilter, dropEmptyLast_eq_stem h.list_ne_nil,
      addSegment_encode hsign port (stem list) hdot hdots]
  refine ⟨_, hchild, ?_, Percent.decode_encode hsign name⟩
  rw [hchild]
  refine ⟨h.web, h.authority_eq, h.authority, rfl, by simp, ?_, h.query⟩
  refine List.forall_mem_append.2 ⟨fun segment hsegment => ?_, List.forall_mem_singleton.2 ?_⟩
  · exact h.segments segment (stem_subset list hsegment)
  · intro c hc
    refine not_isDelimiter_of_mem_encode (fun d _ hdelimiter => ?_) hc
    rcases eq_of_isDelimiter hdelimiter with rfl | rfl | rfl
    all_goals exact inSegment_of_ne _ (by decide) (by decide)

end Url
namespace MediaWiki

/-! ## Links -/

/-- The title with underscores in the place of spaces. -/
def underscored (title : Text) : Text := title.map fun c => if c = ' ' then '_' else c

/-- A title that can be a segment: not empty, no dots, and of one line without tabs. -/
structure IsTitle (title : Text) : Prop where
  ne_nil : title ≠ []
  ne_dot : title ≠ ['.']
  ne_dots : title ≠ ['.', '.']
  oneLine : ∀ c ∈ title, c ≠ '\t' ∧ c ≠ '\r' ∧ c ≠ '\n'

/-- The link leads to the segment below the address, and nothing else of the address changes.  The
segment reads as the title with underscores in the place of spaces. -/
structure LinksTo (base link : Url.Parts) (title segment : Text) : Prop where
  scheme : link.scheme = base.scheme
  authority : link.authority = base.authority
  path : link.path = (Url.Path.segments (Url.stem base.segments ++ [segment])).toText
  segments : link.segments = Url.stem base.segments ++ [segment]
  query : link.query = base.query
  fragment : link.fragment = base.fragment
  reads : Url.Percent.decode segment = Utf8.encode (underscored title)

variable {title other : Text}

/-- Only a dot is written as a dot. -/
theorem eq_of_underscored_eq {dots : Text} (hdots : ∀ c ∈ dots, c = '.')
    (h : underscored title = dots) : title = dots := by
  have hsame : ∀ c ∈ title, (if c = ' ' then '_' else c) = c := by
    intro c hc
    have hdot : (if c = ' ' then '_' else c) = '.' := hdots _ (h ▸ List.mem_map_of_mem hc)
    split at hdot
    · cases hdot
    · rename_i hspace
      rw [if_neg hspace]
  calc
    title = title.map id := (List.map_id title).symm
    _ = underscored title := (List.map_congr_left hsame).symm
    _ = dots := h

theorem IsTitle.not_isDropped (h : IsTitle title) :
    ∀ c ∈ underscored title, Url.isDropped c = false := by
  intro c hc
  obtain ⟨d, hd, rfl⟩ := List.mem_map.1 hc
  split
  · decide
  · obtain ⟨htab, hreturn, hline⟩ := h.oneLine d hd
    simp [Url.isDropped, htab, hreturn, hline]

/-- The address of the page of a title. -/
theorem IsTitle.child_eq (h : IsTitle title) {base : Url} {a : Url.Authority} {list : List Text}
    (hbase : base.Delimited a list) :
    ∃ segment, base.child (underscored title) =
        base.withSegments (Url.stem list ++ [segment]) ∧
      (base.child (underscored title)).Delimited a (Url.stem list ++ [segment]) ∧
      Url.Percent.decode segment = Utf8.encode (underscored title) := by
  apply hbase.child_eq
  · intro hdot
    exact h.ne_dot (eq_of_underscored_eq (by decide) hdot)
  · intro hdots
    exact h.ne_dots (eq_of_underscored_eq (by decide) hdots)
  · exact h.not_isDropped

/-- The link to the page of a title is the address with one more segment. -/
theorem IsTitle.linksTo (h : IsTitle title) {base : Url} {a : Url.Authority} {list : List Text}
    (hbase : base.Delimited a list) :
    ∃ segment, LinksTo (.ofText base.toText) (.ofText (pageLink base title)) title segment := by
  obtain ⟨segment, hchild, hlink, hread⟩ := h.child_eq hbase
  have hparts : Url.Parts.ofText (pageLink base title) = _ := hlink.parts_toText
  have hsegments : (Url.Parts.ofText (pageLink base title)).segments = _ := hlink.segments_parts
  rw [hchild] at hparts
  rw [← hbase.segments_parts] at hparts hsegments
  refine ⟨segment, ?_⟩
  constructor
  case segments => exact hsegments
  case reads => exact hread
  case path =>
    rw [hparts]
    rfl
  case authority => rw [hparts, hbase.parts_toText]
  -- nor does anything else change
  all_goals
    rw [hparts, hbase.parts_toText]
    rfl

/-- The last segment can be read off a link, and the title off the segment. -/
theorem IsTitle.underscored_eq (ht : IsTitle title) (ho : IsTitle other) {base : Url}
    {a : Url.Authority} {list : List Text} (hbase : base.Delimited a list)
    (hsame : pageLink base other = pageLink base title) :
    underscored other = underscored title := by
  obtain ⟨segment, hlink⟩ := ht.linksTo hbase
  obtain ⟨segment', hlink'⟩ := ho.linksTo hbase
  have hsegments := hlink'.segments
  rw [hsame, hlink.segments] at hsegments
  have hsegment : segment = segment' := by simpa using hsegments
  apply Utf8.encode_injective
  calc
    Utf8.encode (underscored other) = Url.Percent.decode segment' := hlink'.reads.symm
    _ = Url.Percent.decode segment := by rw [hsegment]
    _ = Utf8.encode (underscored title) := hlink.reads

/-- The link is the address with one more segment that reads as the title.  Titles that have the
same link differ in spaces and underscores only. -/
theorem pageLink_linksTo {address : Text} {base : Url} (hparse : Url.parse address = .ok base)
    (hweb : Url.isWebScheme base.scheme = true) (ht : IsTitle title) :
    (∃ segment, LinksTo (.ofText base.toText) (.ofText (pageLink base title)) title segment) ∧
      ∀ other, IsTitle other →
        (pageLink base other = pageLink base title ↔ underscored other = underscored title) := by
  obtain ⟨a, list, hbase⟩ := Url.delimited_of_parse hparse hweb
  refine ⟨ht.linksTo hbase, fun other ho => ⟨ht.underscored_eq ho hbase, fun hsame => ?_⟩⟩
  show (base.child (underscored other)).toText = (base.child (underscored title)).toText
  rw [hsame]

/-- Pages of a wiki on this machine. -/
def localPages : Url :=
  ⟨"http".toList, some ⟨[], [], some (.ipv6 .loopback), none⟩,
    .segments ["wiki".toList, []], some "a=b".toList, some "top".toList⟩

/-- A title with delimiters in it. -/
theorem pageLink_linksTo_slashes :
    Url.parse "http://[::1]/wiki/?a=b#top".toList = .ok localPages ∧
      pageLink localPages "A/B? 50%#".toList =
        "http://[::1]/wiki/A%2FB%3F_50%25%23?a=b#top".toList ∧
      ((∃ segment, LinksTo (.ofText localPages.toText)
          (.ofText (pageLink localPages "A/B? 50%#".toList)) "A/B? 50%#".toList segment) ∧
        ∀ other, IsTitle other →
          (pageLink localPages other = pageLink localPages "A/B? 50%#".toList ↔
            underscored other = underscored "A/B? 50%#".toList)) := by
  have hparse : Url.parse "http://[::1]/wiki/?a=b#top".toList = .ok localPages := by
    decide +kernel
  have ht : IsTitle "A/B? 50%#".toList := ⟨by decide, by decide, by decide, by decide⟩
  exact ⟨hparse, by decide +kernel, pageLink_linksTo hparse (by decide) ht⟩

/-- An address whose path is two slashes. -/
def twoSlashes : Url :=
  { localPages with path := .segments [[], []], query := none, fragment := none }

/-- Below two slashes the title does not stand behind the segment that is left when one empty
segment is dropped. -/
theorem pageLink_below_two_slashes :
    Url.parse "http://[::1]//".toList = .ok twoSlashes ∧ IsTitle "x".toList ∧
      pageLink twoSlashes "x".toList = "http://[::1]/x".toList ∧
      ¬ ∃ segment, (Url.Parts.ofText (pageLink twoSlashes "x".toList)).segments =
        Url.withoutEmptyEnd (Url.Parts.ofText twoSlashes.toText).segments ++ [segment] := by
  refine ⟨by decide +kernel, ⟨by decide, by decide, by decide, by decide⟩, by decide +kernel, ?_⟩
  rintro ⟨segment, h⟩
  have hlink : (Url.Parts.ofText (pageLink twoSlashes "x".toList)).segments = ["x".toList] := by
    decide +kernel
  have hbase : Url.withoutEmptyEnd (Url.Parts.ofText twoSlashes.toText).segments = [[]] := by
    decide +kernel
  rw [hlink, hbase] at h
  cases h

end MediaWiki
end ChatAssistant
