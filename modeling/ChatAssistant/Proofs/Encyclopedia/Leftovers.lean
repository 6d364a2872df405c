import ChatAssistant.Assistant
import ChatAssistant.Proofs.Encyclopedia.Query
import ChatAssistant.Proofs.Text.Lowercase

/-!
# What is left over in a query

The texts that are their own queries are those with nothing left in them to strike out, to collapse
or to drop.  A query need not be one of them, since each step is taken once: blanks are collapsed
after the announcements are looked for, and the space that comes to light at the end is dropped
after the punctuation is.  `Rejoined` and `Stranded` say when that leaves something over.

* `query_eq_self_iff` — the texts that are their own queries;
* `announced_query_iff`, `closing_query_iff` — what can be left over, and when it is;
* `Hollow.query_eq_nil_iff` — a question about nothing has no query, unless punctuation is left;
* `query_leftovers` — all of it together.
-/

namespace ChatAssistant
namespace Encyclopedia

variable {p s t question : Text} {c : Char} {us vs : List Text}

/-! ## Clean texts -/

/-- There is nothing in the text that would not be in a query. -/
structure Clean (s : Text) : Prop where
  small : ∀ c ∈ s, Text.Stays c
  tidy : Text.Tidy s
  unannounced : Text.containsAny announcements s = false
  unclosed : ∀ c ∈ s.getLast?, isClosing c = false

theorem stays_of_mem_query (hc : c ∈ query question) : Text.Stays c := by
  cases hblank : Text.isBlank c with
  | true => exact Text.stays_of_isBlank hblank
  | false =>
      rcases (struck_bare question).of_mem (mem_bare_of_mem_query hc hblank) with rfl | hc
      · exact Text.stays_of_isBlank Text.isBlank_space
      · exact Text.stays_of_mem_lowercase hc

theorem bare_of_clean (h : Clean s) : bare s = s := by
  rw [bare, Text.lowercase_eq_self h.small, Text.strikeAll_of_not_containsAny h.unannounced]

/-- A clean text is its own query. -/
theorem query_of_clean (h : Clean s) : query s = s := by
  have hend : Text.dropEndWhile isClosing s = s :=
    Text.dropEndWhile_eq_self fun c hc => by simp [h.unclosed c hc]
  rw [query_eq, bare_of_clean h, h.tidy.collapse_eq, hend, h.tidy.trim_eq]

theorem countP_query_le (question : Text) :
    (query question).countP (!Text.isBlank ·) ≤ (bare question).countP (!Text.isBlank ·) := by
  obtain ⟨tail, htail, -⟩ := collapse_bare question
  rw [← Text.countP_collapse (bare question), htail, List.countP_append]
  omega

/-- The texts that are their own queries are the clean ones. -/
theorem query_eq_self_iff : query s = s ↔ Clean s := by
  constructor
  · intro h
    have hsmall : ∀ c ∈ s, Text.Stays c := by
      intro c hc
      rw [← h] at hc
      exact stays_of_mem_query hc
    have htidy : Text.Tidy s := h ▸ tidy_query s
    have hbare : bare s = Text.strikeAll announcements s := by
      rw [bare, Text.lowercase_eq_self hsmall]
    have hnone : Text.containsAny announcements s = false := by
      rw [Bool.eq_false_iff]
      intro hany
      -- something was struck out, so there would be less in the query
      have hlt := Text.countP_strikeAll_lt announcement_solid hany
      have hle := countP_query_le s
      rw [h, hbare] at hle
      omega
    have hend : Text.trim (Text.dropEndWhile isClosing s) = s := by
      rw [Text.strikeAll_of_not_containsAny hnone] at hbare
      rw [query_eq, hbare, htidy.collapse_eq] at h
      exact h
    -- had punctuation been dropped, the query would be shorter
    have hall : Text.dropEndWhile isClosing s = s := by
      obtain ⟨tail, htail, -⟩ := Text.exists_dropEndWhile_append isClosing s
      have hprefix : Text.dropEndWhile isClosing s <+: s := ⟨tail, htail.symm⟩
      have hlen := (Text.stripWhile_isInfix Text.isBlank (Text.dropEndWhile isClosing s)).length_le
      exact hprefix.eq_of_length_le (by rwa [← Text.trim, hend] at hlen)
    refine ⟨hsmall, htidy, hnone, fun c hc => ?_⟩
    have hlast := Text.not_of_getLast?_dropEndWhile isClosing s c (by rwa [hall])
    simpa using hlast
  · exact query_of_clean

/-! ## Announcements in a query -/

/-- Two words that are left next to each other end and start with the two words of an
announcement. -/
def Rejoined (question : Text) : Prop :=
  ∃ x y u v : Text, x ++ ' ' :: y ∈ announcements ∧ [u, v] <:+: Text.words (bare question) ∧
    x <:+ u ∧ y <+: v

theorem not_mem_space_of_mem_announcements {x y : Text} (h : x ++ ' ' :: y ∈ announcements) :
    ' ' ∉ x ∧ ' ' ∉ y := by
  have hone : ∀ p ∈ announcements, p.count ' ' ≤ 1 := by decide +kernel
  have hcount := hone _ h
  rw [List.count_append, List.count_cons_self] at hcount
  constructor
  · intro hx
    have hpos := List.count_pos_iff.2 hx
    omega
  · intro hy
    have hpos := List.count_pos_iff.2 hy
    omega

/-- An announcement of one word is the last to be struck out, and then it is gone. -/
theorem not_isInfix_bare (hp : p ∈ announcements) (hspace : ' ' ∉ p) : ¬ p <:+: bare question := by
  have hlast : ∀ p ∈ announcements, ' ' ∉ p → p = "определение".toList := by decide +kernel
  have hsplit : announcements = announcements.dropLast ++ ["определение".toList] := by rfl
  obtain rfl := hlast p hp hspace
  rw [bare, hsplit, Text.strikeAll_concat]
  exact (Text.replaced_replaceAll (announcement_ne_nil hp) _ _).not_isInfix hspace
    (announcement_ne_nil hp)

/-- Nothing of an announcement is dropped at the end. -/
theorem isInfix_query_iff (hp : p ∈ announcements) :
    p <:+: query question ↔ p <:+: Text.collapse (bare question) := by
  obtain ⟨tail, htail, hdropped⟩ := collapse_bare question
  rw [htail, Text.isInfix_append_iff_of_getLast? (announcement_ne_nil hp)]
  intro c hc hmem
  obtain ⟨hblank, hclosing⟩ := not_blank_of_getLast? hp hc
  rcases hdropped c hmem with h | h
  · rw [hblank] at h
    cases h
  · rw [hclosing] at h
    cases h

theorem announced_query_iff (question : Text) :
    Text.containsAny announcements (query question) = true ↔ Rejoined question := by
  rw [Text.containsAny_iff]
  constructor
  · rintro ⟨p, hp, hin⟩
    have hcollapse := (isInfix_query_iff hp).1 (Text.contains_iff.1 hin)
    by_cases hspace : ' ' ∈ p
    · obtain ⟨x, y, rfl⟩ := List.append_of_mem hspace
      obtain ⟨hx, hy⟩ := not_mem_space_of_mem_announcements hp
      obtain ⟨u, v, huv, hxu, hyv⟩ := (Text.pair_isInfix_collapse hx hy).1 hcollapse
      exact ⟨x, y, u, v, hp, huv, hxu, hyv⟩
    · have hbare := Text.isInfix_of_isInfix_collapse hspace (announcement_ne_nil hp) hcollapse
      exact absurd hbare (not_isInfix_bare hp hspace)
  · rintro ⟨x, y, u, v, hp, huv, hxu, hyv⟩
    obtain ⟨hx, hy⟩ := not_mem_space_of_mem_announcements hp
    have hcollapse := (Text.pair_isInfix_collapse hx hy).2 ⟨u, v, huv, hxu, hyv⟩
    exact ⟨_, hp, Text.contains_iff.2 ((isInfix_query_iff hp).2 hcollapse)⟩

/-! ## Punctuation in a query -/

/-- Punctuation is left for a word of its own at the end, and the word in front of it ends with
punctuation too. -/
def Stranded (question : Text) : Prop :=
  ∃ front u marks, Text.words (bare question) = front ++ [u, marks] ∧
    (∀ c ∈ marks, isClosing c = true) ∧ ∃ c ∈ u.getLast?, isClosing c = true

theorem closing_query_iff (question : Text) :
    (∃ c ∈ (query question).getLast?, isClosing c = true) ↔ Stranded question := by
  have htidy := tidy_query question
  have hcloses := closes_query question
  generalize hwords : Text.words (query question) = vs at hcloses
  unfold Stranded
  generalize Text.words (bare question) = us at hcloses
  cases hcloses with
  | none =>
      rw [htidy.eq_nil hwords]
      simp
  | @cut front last marks hmarks hlast hne =>
      rw [htidy.getLast?_eq hwords]
      constructor
      · rintro ⟨c, hc, hclosing⟩
        rw [hlast c hc] at hclosing
        cases hclosing
      · rintro ⟨front', u, marks', heq, hmarks', -⟩
        rw [List.append_cons front'] at heq
        obtain ⟨-, hsame⟩ := List.append_inj' heq rfl
        cases hsame
        exact absurd hmarks' (not_forall_isClosing hlast hne)
  | @lost front marks hmarks =>
      -- the last word of the query is the one in front of the word that was lost
      rcases List.eq_nil_or_concat vs with rfl | ⟨front, u, rfl⟩
      · rw [htidy.eq_nil hwords]
        refine iff_of_false (by simp) ?_
        rintro ⟨front, u, marks', heq, -, -⟩
        have hlen := congrArg List.length heq
        simp at hlen
      · rw [List.concat_eq_append] at hwords ⊢
        rw [htidy.getLast?_eq hwords]
        constructor
        · exact fun h => ⟨front, u, marks, by simp, hmarks, h⟩
        · rintro ⟨front', u', marks', heq, -, h⟩
          rw [List.append_cons front'] at heq
          obtain ⟨hsame, -⟩ := List.append_inj' heq rfl
          obtain ⟨-, hsame⟩ := List.append_inj' hsame rfl
          cases hsame
          exact h

/-- A query is its own query unless an announcement or punctuation is left over in it. -/
theorem query_query_iff (question : Text) :
    query (query question) = query question ↔ ¬ Rejoined question ∧ ¬ Stranded question := by
  rw [query_eq_self_iff, ← announced_query_iff, ← closing_query_iff]
  constructor
  · intro h
    refine ⟨by simp [h.unannounced], ?_⟩
    rintro ⟨c, hc, hclosing⟩
    rw [h.unclosed c hc] at hclosing
    cases hclosing
  · rintro ⟨hnone, hclosing⟩
    refine ⟨fun c => stays_of_mem_query, tidy_query question, by simpa using hnone, ?_⟩
    intro c hc
    rw [Bool.eq_false_iff]
    exact fun h => hclosing ⟨c, hc, h⟩

/-! ## Questions about nothing -/

/-- The text is made of phrases and blanks, with punctuation and blanks at its end. -/
inductive Hollow (phrases : List Text) : Text → Prop where
  | finish {s : Text} (h : ∀ c ∈ s, Text.isBlank c = true ∨ isClosing c = true) : Hollow phrases s
  | blank {c : Char} {s : Text} (hc : Text.isBlank c = true) (h : Hollow phrases s) :
      Hollow phrases (c :: s)
  | phrase {p s : Text} (hp : p ∈ phrases) (h : Hollow phrases s) : Hollow phrases (p ++ s)

namespace Hollow

variable {phrases : List Text}

/-- When one phrase is struck out, a text is made of the others. -/
theorem replaceAll (hp : p ∈ announcements) (hclear : ∀ q ∈ phrases, Text.Clear p q)
    (h : Hollow (p :: phrases) s) : Hollow phrases (Text.replaceAll p [' '] s) := by
  obtain ⟨a, rest, hletter, hblank, hclosing⟩ := exists_letter_cons hp
  induction h with
  | @finish s h =>
      -- there are no letters at the end
      have hno : Text.contains p s = false := by
        refine Text.contains_eq_false_of_not_mem (p := a) (by simp [hletter]) fun ha => ?_
        have hkind := h a ha
        rw [hblank, hclosing] at hkind
        simp at hkind
      rw [Text.replaceAll_of_not_contains hno]
      exact .finish h
  | @blank c s hc h ih =>
      have hno : ¬ p <+: c :: s := by
        intro hprefix
        rw [hletter] at hprefix
        obtain ⟨rfl, -⟩ := List.cons_prefix_cons.1 hprefix
        rw [hblank] at hc
        cases hc
      rw [Text.replaceAll_cons hno]
      exact .blank hc ih
  | @phrase q s hq h ih =>
      rcases List.mem_cons.1 hq with rfl | hq
      · rw [Text.replaceAll_phrase_append (announcement_ne_nil hp)]
        exact .blank Text.isBlank_space ih
      · rw [(hclear q hq).replaceAll_append]
        exact .phrase hq ih

theorem strikeAll (hp : ∀ p ∈ phrases, p ∈ announcements) (hclear : phrases.Pairwise Text.Clear)
    (h : Hollow phrases s) : Hollow [] (Text.strikeAll phrases s) := by
  induction phrases generalizing s with
  | nil => exact h
  | cons p phrases ih =>
      obtain ⟨hfirst, hrest⟩ := List.pairwise_cons.1 hclear
      have hpass := h.replaceAll (hp p List.mem_cons_self) hfirst
      exact ih (fun q hq => hp q (List.mem_cons_of_mem _ hq)) hrest hpass

theorem forall_of_nil (h : Hollow [] s) : ∀ c ∈ s, Text.isBlank c = true ∨ isClosing c = true := by
  induction h with
  | finish h => exact h
  | blank hc h ih => exact List.forall_mem_cons.2 ⟨.inl hc, ih⟩
  | phrase hp => cases hp

/-- No announcement is made of others, or starts in the middle of them. -/
theorem bare (h : Hollow announcements (Text.lowercase question)) :
    ∀ c ∈ bare question, Text.isBlank c = true ∨ isClosing c = true := by
  have hclear : announcements.Pairwise Text.Clear := by decide +kernel
  exact (h.strikeAll (fun _ hp => hp) hclear).forall_of_nil

/-- Nothing but stranded punctuation can be the query of a hollow question. -/
theorem query_eq_nil_iff (h : Hollow announcements (Text.lowercase question)) :
    query question = [] ↔ ¬ Stranded question := by
  rw [← closing_query_iff]
  constructor
  · intro hnil
    simp [hnil]
  · intro hnone
    by_contra hne
    have hlast : (query question).getLast hne ∈ (query question).getLast? :=
      List.getLast?_eq_some_getLast hne
    have hblank := (tidy_query question).back _ hlast
    rcases h.bare _ (mem_bare_of_mem_query (List.getLast_mem hne) hblank) with hkind | hkind
    · rw [hblank] at hkind
      cases hkind
    · exact hnone ⟨_, hlast, hkind⟩

end Hollow

/-- The hint is given without a request exactly if the query is empty. -/
theorem handle_eq_usageHint_iff (hintent : (Intent.classify question).intent = .encyclopedia)
    (pick : Answer.Pick) :
    Assistant.handle pick question = .replied (.lasting usageHint) ↔ query question = [] := by
  unfold Assistant.handle
  rw [hintent]
  cases query question with
  | nil => simp
  | cons c rest => simp

/-- A query is always tidy.  An announcement is left in it where its two words are left next to each
other, punctuation is left at its end where there is more behind a blank, and but for these it is
its own query.  A question with nothing in it but announcements and punctuation at its end is
answered with the hint unless such punctuation is left. -/
theorem query_leftovers (question : Text) :
    Text.Tidy (query question) ∧
      (Text.containsAny announcements (query question) = true ↔ Rejoined question) ∧
      ((∃ c ∈ (query question).getLast?, isClosing c = true) ↔ Stranded question) ∧
      (query (query question) = query question ↔ ¬ Rejoined question ∧ ¬ Stranded question) ∧
      (Hollow announcements (Text.lowercase question) →
        (query question = [] ↔ ¬ Stranded question) ∧
          ((Intent.classify question).intent = .encyclopedia → ∀ pick : Answer.Pick,
            (Assistant.handle pick question = .replied (.lasting usageHint) ↔
              ¬ Stranded question))) := by
  refine ⟨tidy_query question, announced_query_iff question, closing_query_iff question,
    query_query_iff question, fun h => ⟨h.query_eq_nil_iff, fun hintent pick => ?_⟩⟩
  rw [handle_eq_usageHint_iff hintent, h.query_eq_nil_iff]

example : query "Что такое?".toList = [] := by
  decide +kernel

/-- Two blanks keep an announcement from being found until they are collapsed, and a blank keeps
punctuation from being dropped with what is behind it. -/
theorem query_not_clean :
    query "что  такое атом".toList = "что такое атом".toList ∧
      query "что такое атом".toList = "атом".toList ∧
      query "атом ? !".toList = "атом ?".toList ∧ query "атом ?".toList = "атом".toList ∧
      Hollow announcements (Text.lowercase "что такое ? !".toList) ∧
      query "что такое ? !".toList = "?".toList := by
  have hlower : Text.lowercase "что такое ? !".toList = "что такое".toList ++ " ? !".toList := by
    decide +kernel
  have hhollow : Hollow announcements ("что такое".toList ++ " ? !".toList) :=
    .phrase (by decide) (.finish (by decide))
  refine ⟨by decide +kernel, by decide +kernel, by decide +kernel, by decide +kernel, ?_,
    by decide +kernel⟩
  rw [hlower]
  exact hhollow

end Encyclopedia
end ChatAssistant
