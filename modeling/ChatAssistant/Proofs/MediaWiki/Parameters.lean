import ChatAssistant.MediaWiki.Lookup
import ChatAssistant.Proofs.Url.Form
import ChatAssistant.Proofs.Url.Parts

/-!
# What a wiki is asked

The query of a look-up is written into the address of its request.  Whatever characters it holds, a
reader of the address finds it as the value of one parameter, and no parameter more than the look-up
has: neither the path nor any name or value can end before its time.

* `Url.cut_target` — a target is parted at the first question mark in it;
* `parameters_of_request` — the parameters that are read there.
-/

namespace ChatAssistant

/-- What is asked of a server is parted into path and query, also when pairs were added. -/
theorem Url.cut_target {u : Url} (h : Parsed u) (list : List (Text × Text)) :
    cut '?' (u.addPairs list).target = (u.path.toText, (u.addPairs list).query) := by
  have hmark : '?' ∉ (u.addPairs list).path.toText := by
    intro hc
    cases h.not_endsPath hc
  exact cut_append hmark (u.addPairs list).query

namespace MediaWiki

/-- A look-up is one request.  Its parameters are those that the address of the wiki has already and
eight more, with the query, character for character, as the value of `titles`. -/
theorem parameters_of_request {wiki : Wiki} {api : Url} (h : Url.parse wiki.api = .ok api)
    (query : Text) :
    ∃ request : Http.Request,
      (∀ network, wiki.lookup network query = outcome wiki.base (network request)) ∧
        request.method = .get ∧
        (Url.cut '?' request.url.target).1 = api.path.toText ∧
        Url.Form.read ((Url.cut '?' request.url.target).2.getD []) =
          Url.Form.read (api.query.getD []) ++
            [("action".toList, "query".toList), ("format".toList, "json".toList),
              ("titles".toList, query), ("prop".toList, "extracts|info".toList),
              ("exintro".toList, "1".toList), ("explaintext".toList, "1".toList),
              ("inprop".toList, "url".toList), ("redirects".toList, "1".toList)] := by
  have htarget := Url.cut_target (Url.parsed_of_parse h) (parameters query)
  refine ⟨request api query, fun network => ?_, rfl, ?_, ?_⟩
  · rw [Wiki.lookup, h]
  · exact congrArg Prod.fst htarget
  · calc
      Url.Form.read ((Url.cut '?' (request api query).url.target).2.getD [])
          = Url.Form.read ((api.addPairs (parameters query)).query.getD []) :=
            congrArg (fun parts => Url.Form.read (parts.2.getD [])) htarget
      _ = Url.Form.read (api.query.getD []) ++ parameters query := Url.read_addPairs api _

/-- A wiki on this machine, at an address that has a parameter already. -/
def localApi : Url :=
  ⟨"http".toList, some ⟨[], [], some (.ipv6 .loopback), some 8080⟩,
    .segments ["w".toList, "api.php".toList], some "assert=user".toList, none⟩

def localWiki : Wiki :=
  ⟨"http://[::1]:8080/w/api.php?assert=user".toList, { localApi with query := none }⟩

/-- A query with separators in it names no second action. -/
theorem parameters_of_request_hostile :
    Url.parse localWiki.api = .ok localApi ∧
      ∃ request : Http.Request,
        (∀ network, localWiki.lookup network "x&action=edit#+%26 ?ж".toList =
            outcome localWiki.base (network request)) ∧
          Url.Form.read ((Url.cut '?' request.url.target).2.getD []) =
            [("assert".toList, "user".toList), ("action".toList, "query".toList),
              ("format".toList, "json".toList), ("titles".toList, "x&action=edit#+%26 ?ж".toList),
              ("prop".toList, "extracts|info".toList), ("exintro".toList, "1".toList),
              ("explaintext".toList, "1".toList), ("inprop".toList, "url".toList),
              ("redirects".toList, "1".toList)] := by
  have hparse : Url.parse localWiki.api = .ok localApi := by decide +kernel
  have hread : Url.Form.read (localApi.query.getD []) = [("assert".toList, "user".toList)] := by
    decide +kernel
  obtain ⟨request, hlookup, -, -, hparameters⟩ :=
    parameters_of_request hparse "x&action=edit#+%26 ?ж".toList
  rw [hread] at hparameters
  exact ⟨hparse, request, hlookup, hparameters⟩

end MediaWiki
end ChatAssistant
