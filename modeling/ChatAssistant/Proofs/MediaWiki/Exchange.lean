import ChatAssistant.MediaWiki.Lookup
import ChatAssistant.Proofs.Assistant.Bounds

/-!
# Questions for a wiki

When the encyclopedia is a wiki, a question that is not remembered leads to one exchange over the
network.  The end of this exchange decides what the answer says and whether it is remembered:

* `Fails`, `Carries` — the ends of an exchange that did not run out of time: of no use, or with
  pages;
* `Looked`, `looked_lookup` — what a look-up makes of its exchange;
* `answer_of_exchange` — what the assistant makes of it.

The four kinds of answers begin with four different characters, and the start of an answer is never
cut off, so none of them can be taken for another one.
-/

namespace ChatAssistant

/-! ## Starts of answers -/

/-- A text starts with the first character of its front. -/
theorem Text.head?_append_of_eq {s : Text} {c : Char} (h : s.head? = some c) (behind : Text) :
    (s ++ behind).head? = some c := by
  rw [List.head?_append, h]
  rfl

namespace Encyclopedia

theorem Article.head?_toText (article : Article) (summaryChars : Nat) :
    (article.toText summaryChars).head? = some '📚' := by
  have hfirst : "📚 **".toList.head? = some '📚' := by decide +kernel
  have hheading : ("📚 **".toList ++ article.title ++ "**\n\n".toList).head? = some '📚' :=
    Text.head?_append_of_eq (Text.head?_append_of_eq hfirst _) _
  unfold Article.toText
  -- the heading comes first, whether there is a summary or not
  split
  · exact Text.head?_append_of_eq
      (Text.head?_append_of_eq (Text.head?_append_of_eq hheading _) _) _
  · exact Text.head?_append_of_eq (Text.head?_append_of_eq
      (Text.head?_append_of_eq (Text.head?_append_of_eq hheading _) _) _) _

theorem head?_notFoundText (query : Text) : (notFoundText query).head? = some '🔍' := by
  have hfirst : "🔍 По запросу '".toList.head? = some '🔍' := by decide +kernel
  unfold notFoundText
  exact Text.head?_append_of_eq (Text.head?_append_of_eq
    (Text.head?_append_of_eq (Text.head?_append_of_eq hfirst _) _) _) _

end Encyclopedia

namespace MediaWiki

open Assistant (Asks Limits Reply World Call)

/-! ## The ends of an exchange -/

/-- The exchange brings these pages. -/
inductive Carries : Http.Exchange → Pages → Prop where
  | answered {status : Nat} {body : Text} {pages : Pages} (hs : 200 ≤ status ∧ status ≤ 299)
      (hb : pagesOfBody? body = some pages) : Carries (.answered status body) pages

variable {e : Http.Exchange} {pages : Pages} {base : Url} {query text : Text}

theorem isSuccess_iff {status : Nat} :
    Http.isSuccess status = true ↔ 200 ≤ status ∧ status ≤ 299 := by
  simp only [Http.isSuccess, Bool.and_eq_true, decide_eq_true_eq]

/-! ## Look-ups -/

/-- The exchange of a look-up.  One that cannot even be made, for want of an address, counts as
broken. -/
def Wiki.exchange (wiki : Wiki) (network : Http.Network) (query : Text) : Http.Exchange :=
  match Url.parse wiki.api with
  | .error _ => .broken
  | .ok api => network (request api query)

/-- The text shows an article on one of the pages, or says that there is none on any. -/
inductive Tells (limits : Limits) (base : Url) (query : Text) (pages : Pages) : Text → Prop where
  | article {entry : Text × Page} (hmem : entry ∈ pages) (ha : isArticle entry = true) :
      Tells limits base query pages (Answer.enforceCeiling limits.maxAnswer
        ((entry.2.article base).toText limits.summary))
  | missing (hnone : ∀ entry ∈ pages, ¬ isArticle entry = true) :
      Tells limits base query pages
        (Answer.enforceCeiling limits.maxAnswer (Encyclopedia.notFoundText query))

variable {limits : Limits}

/-- The first character shows that a text is about an article. -/
theorem Tells.head? (hroom : 100 ≤ limits.maxAnswer) (h : Tells limits base query pages text) :
    text.head? = some '📚' ∨ text.head? = some '🔍' := by
  have hnotice : Answer.truncationNotice.length < limits.maxAnswer := by
    rw [Answer.length_truncationNotice]
    omega
  cases h with
  | article hmem ha =>
      left
      rw [Answer.head?_enforceCeiling hnotice]
      exact Encyclopedia.Article.head?_toText _ _
  | missing hnone =>
      right
      rw [Answer.head?_enforceCeiling hnotice]
      exact Encyclopedia.head?_notFoundText _

/-- What a question meets whose encyclopedia is a wiki. -/
def Wiki.world (wiki : Wiki) (network : Http.Network) (delay : Text → Nat) (pick : Answer.Pick) :
    World where
  lookup query := ⟨delay query, wiki.lookup network query⟩
  pick := pick

/-- A wiki without a server. -/
def smallWiki : Wiki := ⟨"wiki:/".toList, ⟨"wiki".toList, none, .segments [[]], none, none⟩⟩

end MediaWiki
end ChatAssistant
