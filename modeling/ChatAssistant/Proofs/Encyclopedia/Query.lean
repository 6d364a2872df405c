import ChatAssistant.Encyclopedia.Query
import ChatAssistant.Proofs.Text.Striking
import ChatAssistant.Proofs.Text.Tidy

/-!
# From a question to its query

A query is made in three steps.  The announcements are struck out of the question, which leaves its
`bare` text; the blanks of that are collapsed; and punctuation is dropped at the end, with the space
that may come to light there.  The last two are done once, after the first.

* `collapse_bare` — the query is the front of the collapsed text;
* `tidy_query` — there is nothing to tidy up in it;
* `closes_query` — which words are left at its end.
-/

namespace ChatAssistant
namespace Encyclopedia

variable {p s t question : Text} {c : Char}

/-! ## Announcements -/

theorem tidy_of_mem_announcements (hp : p ∈ announcements) : Text.Tidy p := by
  have hall : ∀ p ∈ announcements, Text.collapse p = p := by decide +kernel
  rw [← hall p hp]
  exact Text.tidy_collapse p

theorem isBlank_of_isClosing (h : isClosing c = true) : Text.isBlank c = false := by
  have hall : ∀ c ∈ "?!.,".toList, Text.isBlank c = false := by decide
  exact hall c (List.contains_iff_mem.1 h)

/-- There is neither punctuation nor an empty phrase among the announcements. -/
theorem announcement_letters (hp : p ∈ announcements) :
    p ≠ [] ∧ ∀ c ∈ p, isClosing c = false := by
  have hall : ∀ p ∈ announcements, p ≠ [] ∧ ∀ c ∈ p, isClosing c = false := by decide +kernel
  exact hall p hp

theorem announcement_ne_nil (hp : p ∈ announcements) : p ≠ [] :=
  (announcement_letters hp).1

/-- An announcement starts with a letter. -/
theorem exists_letter_cons (hp : p ∈ announcements) :
    ∃ c rest, p = c :: rest ∧ Text.isBlank c = false ∧ isClosing c = false := by
  obtain ⟨hne, hletters⟩ := announcement_letters hp
  obtain ⟨c, rest, rfl⟩ := List.exists_cons_of_ne_nil hne
  exact ⟨c, rest, rfl, (tidy_of_mem_announcements hp).front c rfl, hletters c List.mem_cons_self⟩

theorem announcement_solid (p : Text) (hp : p ∈ announcements) :
    ∃ c ∈ p, Text.isBlank c = false := by
  obtain ⟨c, rest, rfl, hblank, -⟩ := exists_letter_cons hp
  exact ⟨c, List.mem_cons_self, hblank⟩

/-- An announcement ends with a letter. -/
theorem not_blank_of_getLast? (hp : p ∈ announcements) (hc : c ∈ p.getLast?) :
    Text.isBlank c = false ∧ isClosing c = false :=
  ⟨(tidy_of_mem_announcements hp).back c hc,
    (announcement_letters hp).2 c (List.mem_of_getLast? hc)⟩

/-! ## Steps -/

/-- The question in lower case with the announcements struck out. -/
def bare (question : Text) : Text :=
  Text.strikeAll announcements (Text.lowercase question)

theorem query_eq (question : Text) :
    query question = Text.trim (Text.dropEndWhile isClosing (Text.collapse (bare question))) :=
  rfl

theorem struck_bare (question : Text) :
    Text.Struck announcements (Text.lowercase question) (bare question) :=
  Text.struck_strikeAll (fun _ => announcement_ne_nil) _

/-- Only blanks and punctuation are dropped of the collapsed text, and only at its end. -/
theorem collapse_bare (question : Text) :
    ∃ tail : Text, Text.collapse (bare question) = query question ++ tail ∧
      ∀ c ∈ tail, Text.isBlank c = true ∨ isClosing c = true := by
  obtain ⟨marks, hmarks, hclosing⟩ :=
    Text.exists_dropEndWhile_append isClosing (Text.collapse (bare question))
  have htidy := Text.tidy_collapse (bare question)
  rw [hmarks] at htidy
  obtain ⟨gap, hgap, hblank⟩ := Text.exists_dropEndWhile_append Text.isBlank
    (Text.dropEndWhile isClosing (Text.collapse (bare question)))
  rw [← htidy.trim_of_append] at hgap
  refine ⟨gap ++ marks, ?_, ?_⟩
  · rw [← List.append_assoc, query_eq, ← hgap]
    exact hmarks
  · intro c hc
    exact (List.mem_append.1 hc).imp (hblank c) (hclosing c)

theorem mem_bare_of_mem_query (hc : c ∈ query question) (hblank : Text.isBlank c = false) :
    c ∈ bare question := by
  obtain ⟨tail, htail, -⟩ := collapse_bare question
  exact (Text.mem_collapse_iff hblank).1 (by simp [htail, hc])

/-- The query has no blanks at its ends, and single spaces between its words. -/
theorem tidy_query (question : Text) : Text.Tidy (query question) := by
  obtain ⟨tail, htail, -⟩ := collapse_bare question
  have htidy := Text.tidy_collapse (bare question)
  rw [htail] at htidy
  refine htidy.of_append_left fun c hc => ?_
  have hback := Text.not_of_getLast?_dropEndWhile Text.isBlank _ c hc
  simpa using hback

/-! ## The end of a query -/

/-- What becomes of the last words of a text when punctuation is dropped at its end: the last word
is cut, or it is lost with all that it is made of. -/
inductive Closes : List Text → List Text → Prop where
  | none : Closes [] []
  | cut {front : List Text} {last marks : Text} (hmarks : ∀ c ∈ marks, isClosing c = true)
      (hlast : ∀ c ∈ last.getLast?, isClosing c = false) (hne : last ≠ []) :
      Closes (front ++ [last ++ marks]) (front ++ [last])
  | lost {front : List Text} {marks : Text} (hmarks : ∀ c ∈ marks, isClosing c = true) :
      Closes (front ++ [marks]) front

/-- A word that was cut was not all punctuation. -/
theorem not_forall_isClosing {last marks : Text} (hlast : ∀ c ∈ last.getLast?, isClosing c = false)
    (hne : last ≠ []) : ¬ ∀ c ∈ last ++ marks, isClosing c = true := by
  intro hall
  rcases List.eq_nil_or_concat last with rfl | ⟨last, c, rfl⟩
  · exact hne rfl
  · have hc := hall c (by simp)
    rw [hlast c (by simp)] at hc
    cases hc

/-- A space does not belong to what is dropped, so the punctuation in front of it stays. -/
theorem dropEndWhile_spaced (front : List Text) :
    Text.dropEndWhile isClosing (Text.spaced front) = Text.spaced front := by
  apply Text.dropEndWhile_eq_self
  rcases List.eq_nil_or_concat front with rfl | ⟨front, w, rfl⟩
  · simp [Text.spaced]
  · have hspace : ¬ isClosing ' ' = true := by decide
    simpa [Text.spaced] using hspace

theorem closes_query (question : Text) :
    Closes (Text.words (bare question)) (Text.words (query question)) := by
  rw [query_eq, Text.words_trim]
  rcases List.eq_nil_or_concat (Text.words (bare question)) with hnil | ⟨front, w, hwords⟩
  · have hempty : Text.dropEndWhile isClosing (Text.collapse (bare question)) = [] := by
      rw [Text.collapse, hnil]
      rfl
    rw [hnil, hempty, Text.words_nil]
    exact .none
  · rw [List.concat_eq_append] at hwords
    have hfront : ∀ v ∈ front, Text.IsWord v := fun v hv =>
      Text.isWord_of_mem_words (s := bare question) (by simp [hwords, hv])
    have hw : Text.IsWord w := Text.isWord_of_mem_words (s := bare question) (by simp [hwords])
    obtain ⟨marks, hmarks, hclosing⟩ := Text.exists_dropEndWhile_append isClosing w
    have hlast := Text.not_of_getLast?_dropEndWhile isClosing w
    rw [Text.collapse_of_words hwords, hwords]
    generalize Text.dropEndWhile isClosing w = last at hmarks hlast
    subst hmarks
    rw [← List.append_assoc, Text.dropEndWhile_append_of_pos hclosing]
    by_cases hne : last = []
    · subst hne
      rw [List.append_nil, dropEndWhile_spaced, ← List.append_nil (Text.spaced front),
        Text.words_spaced_append hfront, Text.words_nil, List.append_nil]
      exact .lost hclosing
    · have hword : Text.IsWord last :=
        ⟨hne, fun c hc => hw.solid c (List.mem_append_left _ hc)⟩
      have hstays : ∀ c ∈ (Text.spaced front ++ last).getLast?, ¬ isClosing c = true := by
        rwa [List.getLast?_append_of_ne_nil _ hne]
      rw [Text.dropEndWhile_eq_self hstays, Text.words_spaced_append hfront, hword.words_eq]
      exact .cut hclosing (by simpa using hlast) hne

end Encyclopedia
end ChatAssistant
