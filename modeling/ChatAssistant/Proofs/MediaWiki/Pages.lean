import ChatAssistant.Proofs.MediaWiki.Exchange
import ChatAssistant.Proofs.Text.Blank
import Mathlib.Data.List.Perm.Basic

/-!
# Pages in any order

A wiki answers with pages by their numbers, and a table of them may be gone through in any order.
Whether there is an article does not hang on the order.  Which one it is does, as the first page
with an article is taken: all orders agree exactly if all pages with an article have the same one.

* `Json.nodup_toMembers?` — a table has one entry for each name;
* `Excluded`, `Shows`, `Chosen` — pages without an article, the article of a page, and the choice
  among pages that come in an order;
* `outcomeOf_missing_iff` and `outcomeOf_agree_iff` — what all orders have in common, and when they
  agree altogether;
* `yields_of_carries` — the outcomes of a look-up.
-/

namespace ChatAssistant

/-! ## Tables -/

namespace Json

variable {α : Type}

/-- An entry takes the place of one with the same name. -/
theorem nodup_insert {seen : List (Text × α)} (h : (seen.map Prod.fst).Nodup) (k : Text) (v : α) :
    ((seen.filter (·.1 != k) ++ [(k, v)]).map Prod.fst).Nodup := by
  have hkept : ((seen.filter (·.1 != k)).map Prod.fst).Nodup :=
    h.sublist (List.filter_sublist.map Prod.fst)
  have hnew : k ∉ (seen.filter (·.1 != k)).map Prod.fst := by
    intro hk
    obtain ⟨other, hother, hsame⟩ := List.mem_map.1 hk
    have hne := (List.mem_filter.1 hother).2
    rw [hsame] at hne
    simp at hne
  rw [List.map_append]
  refine List.nodup_append.2 ⟨hkept, List.pairwise_singleton _ _, ?_⟩
  rintro name hname _ hlast rfl
  obtain rfl : name = k := List.mem_singleton.1 hlast
  exact hnew hname

theorem nodup_foldl_insert (entries : List (Text × α)) {seen : List (Text × α)}
    (h : (seen.map Prod.fst).Nodup) :
    ((entries.foldl (fun seen (k, v) => seen.filter (·.1 != k) ++ [(k, v)]) seen).map
      Prod.fst).Nodup := by
  induction entries generalizing seen with
  | nil => exact h
  | cons entry entries ih =>
      obtain ⟨k, v⟩ := entry
      exact ih (nodup_insert h k v)

theorem nodup_toMembers? {value? : Json → Option α} {v : Json} {entries : List (Text × α)}
    (h : toMembers? value? v = some entries) : (entries.map Prod.fst).Nodup := by
  unfold toMembers? at h
  split at h
  · obtain ⟨all, -, hall⟩ := Option.bind_eq_some_iff.1 h
    obtain rfl := Option.some.inj hall
    exact nodup_foldl_insert all List.nodup_nil
  · cases h

end Json

namespace MediaWiki

variable {base : Url} {pages order order' : Pages} {entry : Text × Page}

theorem nodup_pagesPart? {v : Json} (h : pagesPart? v = some pages) :
    (pages.map Prod.fst).Nodup := by
  obtain ⟨fields, -, hpages⟩ := Option.bind_eq_some_iff.1 h
  split at hpages
  · rename_i field
    cases field with
    | none =>
        obtain rfl := Option.some.inj hpages
        exact List.nodup_nil
    | some v => exact Json.nodup_toMembers? hpages
  · cases hpages

/-- A body has one page for each number. -/
theorem nodup_pagesOfBody? {body : Text} (h : pagesOfBody? body = some pages) :
    (pages.map Prod.fst).Nodup := by
  obtain ⟨v, -, hv⟩ := Option.bind_eq_some_iff.1 h
  obtain ⟨fields, -, hquery⟩ := Option.bind_eq_some_iff.1 hv
  split at hquery
  · rename_i field
    obtain ⟨part, hpart, hdefault⟩ := Option.bind_eq_some_iff.1 hquery
    obtain rfl := Option.some.inj hdefault
    -- without the part there are no pages
    cases part with
    | none => exact List.nodup_nil
    | some pages =>
        cases field with
        | none => cases hpart
        | some v =>
            unfold Json.optional? Json.orNull? at hpart
            dsimp only at hpart
            split at hpart
            · cases hpart
            · obtain ⟨found, hfound, hsome⟩ := Option.map_eq_some_iff.1 hpart
              obtain rfl := Option.some.inj hsome
              exact nodup_pagesPart? hfound
  · cases hquery

/-! ## The choice of a page -/

/-- The page stands for no article. -/
def Excluded (entry : Text × Page) : Prop :=
  entry.1 = "-1".toList ∨ entry.2.isMissing = true ∨ entry.2.isInvalid = true

theorem isArticle_iff : isArticle entry = true ↔ ¬ Excluded entry := by
  simp [isArticle, noNumber, Excluded, not_or, and_assoc]

/-- The article shows the page: its title, its introduction without blanks at the ends, and its
address, which is made of the title if the page has none. -/
structure Shows (base : Url) (page : Page) (article : Encyclopedia.Article) : Prop where
  title : article.title = page.title
  summary : ∃ lead tail : Text, page.intro.getD [] = lead ++ (article.summary ++ tail) ∧
    (∀ c ∈ lead, Text.isBlank c = true) ∧ ∀ c ∈ tail, Text.isBlank c = true
  not_blank_first : ∀ c ∈ article.summary.head?, ¬ Text.isBlank c = true
  not_blank_last : ∀ c ∈ article.summary.getLast?, ¬ Text.isBlank c = true
  url : ∀ url ∈ page.url, article.url = url
  link : page.url = none → article.url = pageLink base page.title

theorem shows_article (base : Url) (page : Page) : Shows base page (page.article base) := by
  refine ⟨rfl, Text.exists_stripWhile _ _, Text.not_of_head?_stripWhile _ _,
    Text.not_of_getLast?_dropEndWhile _ _, ?_, ?_⟩
  · intro url hurl
    rw [Option.mem_def] at hurl
    show page.url.getD _ = url
    rw [hurl]
    rfl
  · intro hnone
    show page.url.getD _ = _
    rw [hnone]
    rfl

/-- What comes of pages that are gone through in this order. -/
def outcomeOf (base : Url) (order : Pages) : Encyclopedia.Outcome :=
  (articleOf? base order).elim .missing .found

/-- The outcome for pages in this order: the first one that is not excluded is shown. -/
inductive Chosen (base : Url) (order : Pages) : Encyclopedia.Outcome → Prop where
  | missing (hall : ∀ entry ∈ order, Excluded entry) : Chosen base order .missing
  | found {before behind : Pages} {entry : Text × Page} {article : Encyclopedia.Article}
      (horder : order = before ++ entry :: behind) (hbefore : ∀ other ∈ before, Excluded other)
      (hentry : ¬ Excluded entry) (hshows : Shows base entry.2 article) :
      Chosen base order (.found article)

theorem outcomeOf_of_find? (h : order.find? isArticle = some entry) :
    outcomeOf base order = .found (entry.2.article base) := by
  rw [outcomeOf, articleOf?, h]
  rfl

theorem outcomeOf_missing_iff :
    outcomeOf base order = .missing ↔ ∀ entry ∈ order, Excluded entry := by
  have hnone : order.find? isArticle = none ↔ ∀ entry ∈ order, Excluded entry := by
    simp only [List.find?_eq_none, isArticle_iff, not_not]
  rw [← hnone]
  cases hfind : order.find? isArticle with
  | none =>
      have hmissing : outcomeOf base order = .missing := by
        rw [outcomeOf, articleOf?, hfind]
        rfl
      exact iff_of_true hmissing rfl
  | some entry =>
      rw [outcomeOf_of_find? hfind]
      exact iff_of_false nofun nofun

theorem chosen_outcomeOf (base : Url) (order : Pages) :
    Chosen base order (outcomeOf base order) := by
  by_cases hall : ∀ entry ∈ order, Excluded entry
  · rw [outcomeOf_missing_iff.2 hall]
    exact .missing hall
  · cases hfind : order.find? isArticle with
    | none =>
        refine absurd (fun entry hmem => ?_) hall
        exact not_not.1 (mt isArticle_iff.2 (List.find?_eq_none.1 hfind entry hmem))
    | some entry =>
        rw [outcomeOf_of_find? hfind]
        obtain ⟨hentry, before, behind, horder, hbefore⟩ :=
          List.find?_eq_some_iff_append.1 hfind
        refine .found horder (fun other hother => ?_) (isArticle_iff.1 hentry) (shows_article _ _)
        have hnot := hbefore other hother
        rw [Bool.not_eq_true'] at hnot
        exact not_not.1 (mt isArticle_iff.2 (Bool.eq_false_iff.1 hnot))

/-- Every page with an article comes first in some order, and then it is shown. -/
theorem exists_outcomeOf_eq (hmem : entry ∈ pages) (hentry : ¬ Excluded entry) (base : Url) :
    ∃ order : Pages, order.Perm pages ∧ outcomeOf base order = .found (entry.2.article base) := by
  refine ⟨entry :: pages.erase entry, (List.perm_cons_erase hmem).symm, ?_⟩
  exact outcomeOf_of_find? (List.find?_cons_of_pos (isArticle_iff.2 hentry))

/-- All orders agree exactly if all pages with an article have the same one. -/
theorem outcomeOf_agree_iff (base : Url) (pages : Pages) :
    (∀ order order' : Pages, order.Perm pages → order'.Perm pages →
        outcomeOf base order = outcomeOf base order') ↔
      ∀ entry ∈ pages, ∀ entry' ∈ pages, ¬ Excluded entry → ¬ Excluded entry' →
        entry.2.article base = entry'.2.article base := by
  constructor
  · intro hagree entry hmem entry' hmem' hentry hentry'
    -- each of them comes first in some order
    obtain ⟨order, hperm, horder⟩ := exists_outcomeOf_eq hmem hentry base
    obtain ⟨order', hperm', horder'⟩ := exists_outcomeOf_eq hmem' hentry' base
    have hsame := hagree order order' hperm hperm'
    rw [horder, horder'] at hsame
    exact Encyclopedia.Outcome.found.inj hsame
  · intro hone order order' hperm hperm'
    cases hfind : order.find? isArticle with
    | none =>
        -- then no order has an article
        have hall : ∀ entry ∈ pages, ¬ isArticle entry = true := fun entry hmem =>
          List.find?_eq_none.1 hfind entry (hperm.mem_iff.2 hmem)
        have hfind' : order'.find? isArticle = none :=
          List.find?_eq_none.2 fun entry hmem => hall entry (hperm'.mem_iff.1 hmem)
        rw [outcomeOf, outcomeOf, articleOf?, articleOf?, hfind, hfind']
    | some entry =>
        have hmem := hperm.mem_iff.1 (List.mem_of_find?_eq_some hfind)
        have hentry := isArticle_iff.1 (List.find?_some hfind)
        cases hfind' : order'.find? isArticle with
        | none =>
            have hnone := List.find?_eq_none.1 hfind' entry (hperm'.mem_iff.2 hmem)
            exact absurd (isArticle_iff.2 hentry) hnone
        | some entry' =>
            have hmem' := hperm'.mem_iff.1 (List.mem_of_find?_eq_some hfind')
            have hentry' := isArticle_iff.1 (List.find?_some hfind')
            rw [outcomeOf_of_find? hfind, outcomeOf_of_find? hfind',
              hone entry hmem entry' hmem' hentry hentry']

/-! ## Look-ups -/

/-- The outcomes of a look-up whose exchange brings these pages, in the order in which they are
written and in any other one. -/
structure Yields (wiki : Wiki) (network : Http.Network) (query : Text) (pages : Pages) : Prop where
  keys : (pages.map Prod.fst).Nodup
  written : wiki.lookup network query = outcomeOf wiki.base pages
  chosen : ∀ order : Pages, order.Perm pages → Chosen wiki.base order (outcomeOf wiki.base order)
  missing : ∀ order : Pages, order.Perm pages →
    (outcomeOf wiki.base order = .missing ↔ ∀ entry ∈ pages, Excluded entry)
  agree : (∀ order order' : Pages, order.Perm pages → order'.Perm pages →
      outcomeOf wiki.base order = outcomeOf wiki.base order') ↔
    ∀ entry ∈ pages, ∀ entry' ∈ pages, ¬ Excluded entry → ¬ Excluded entry' →
      entry.2.article wiki.base = entry'.2.article wiki.base

variable {wiki : Wiki} {network : Http.Network} {query : Text}

theorem lookup_of_carries (h : Carries (wiki.exchange network query) pages) :
    wiki.lookup network query = outcomeOf wiki.base pages := by
  unfold Wiki.exchange at h
  unfold Wiki.lookup
  cases hapi : Url.parse wiki.api with
  | error fault =>
      -- nobody is asked, so nobody answers
      rw [hapi] at h
      cases h
  | ok api =>
      rw [hapi] at h
      dsimp only at h ⊢
      generalize network (request api query) = e at h ⊢
      obtain ⟨hs, hb⟩ := h
      simp only [outcome, isSuccess_iff.2 hs, hb, if_true]
      rfl

theorem Carries.nodup {e : Http.Exchange} (h : Carries e pages) :
    (pages.map Prod.fst).Nodup := by
  obtain ⟨-, hb⟩ := h
  exact nodup_pagesOfBody? hb

/-- Where a look-up gets pages, it does not hang on their order whether there is an article, and
which one it is does not if all pages with an article have the same one, and only then. -/
theorem yields_of_carries (h : Carries (wiki.exchange network query) pages) :
    Yields wiki network query pages := by
  refine ⟨h.nodup, lookup_of_carries h, fun order _ => chosen_outcomeOf wiki.base order, ?_,
    outcomeOf_agree_iff wiki.base pages⟩
  intro order hperm
  rw [outcomeOf_missing_iff]
  exact forall_congr' fun entry => by rw [hperm.mem_iff]

/-- An answer about two titles, of which one has no article. -/
def mixedBody : Text :=
  ("\x7b\"query\":\x7b\"pages\":\x7b\"-1\":\x7b\"title\":\"Аатом\",\"missing\":\"\"\x7d," ++
    "\"7\":\x7b\"title\":\"Атом\",\"extract\":\" Частица. \"\x7d\x7d\x7d\x7d").toList

/-- The pages of `mixedBody`. -/
def mixedPages : Pages :=
  [("-1".toList, ⟨"Аатом".toList, none, none, true, false⟩),
    ("7".toList, ⟨"Атом".toList, some " Частица. ".toList, none, false, false⟩)]

/-- The page without an article comes first, and in neither order is it taken. -/
theorem yields_of_carries_mixed :
    Carries (smallWiki.exchange (fun _ => .answered 200 mixedBody) "Аатом|Атом".toList)
        mixedPages ∧
      Yields smallWiki (fun _ => .answered 200 mixedBody) "Аатом|Атом".toList mixedPages ∧
      ∀ order ∈ [mixedPages, mixedPages.reverse], outcomeOf smallWiki.base order =
        .found ⟨"Атом".toList, "Частица.".toList, "wiki:/%D0%90%D1%82%D0%BE%D0%BC".toList⟩ := by
  have hexchange : smallWiki.exchange (fun _ => .answered 200 mixedBody) "Аатом|Атом".toList =
      .answered 200 mixedBody := by decide +kernel
  have hpages : pagesOfBody? mixedBody = some mixedPages := by decide +kernel
  have hcarries : Carries
      (smallWiki.exchange (fun _ => .answered 200 mixedBody) "Аатом|Атом".toList) mixedPages := by
    rw [hexchange]
    exact .answered (by decide) hpages
  exact ⟨hcarries, yields_of_carries hcarries, by decide +kernel⟩

/-- An answer about two titles, both of which have an article. -/
def doubleBody : Text :=
  ("\x7b\"query\":\x7b\"pages\":\x7b\"1\":\x7b\"title\":\"А\"\x7d," ++
    "\"2\":\x7b\"title\":\"Б\"\x7d\x7d\x7d\x7d").toList

/-- The pages of `doubleBody`. -/
def doublePages : Pages :=
  [("1".toList, ⟨"А".toList, none, none, false, false⟩),
    ("2".toList, ⟨"Б".toList, none, none, false, false⟩)]

/-- Two titles in one question are enough for the order to matter. -/
theorem double_articles_disagree :
    Carries (smallWiki.exchange (fun _ => .answered 200 doubleBody) "А|Б".toList) doublePages ∧
      doublePages.reverse.Perm doublePages ∧
      outcomeOf smallWiki.base doublePages =
        .found ⟨"А".toList, [], "wiki:/%D0%90".toList⟩ ∧
      outcomeOf smallWiki.base doublePages.reverse =
        .found ⟨"Б".toList, [], "wiki:/%D0%91".toList⟩ := by
  have hexchange : smallWiki.exchange (fun _ => .answered 200 doubleBody) "А|Б".toList =
      .answered 200 doubleBody := by decide +kernel
  have hpages : pagesOfBody? doubleBody = some doublePages := by decide +kernel
  refine ⟨?_, List.reverse_perm _, by decide +kernel, by decide +kernel⟩
  rw [hexchange]
  exact .answered (by decide) hpages

end MediaWiki
end ChatAssistant
