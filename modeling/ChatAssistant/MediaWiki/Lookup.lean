import ChatAssistant.Encyclopedia.Lookup
import ChatAssistant.Http
import ChatAssistant.MediaWiki.Response
import ChatAssistant.Url.Form
import ChatAssistant.Url.Parser

/-!
# Looking up titles in a wiki

A look-up is one request, whose parameters hold the query as it is, and every end of its exchange is
an outcome of the look-up.
-/

namespace ChatAssistant
namespace MediaWiki

/-- A wiki: the address that is asked, and the address below which its pages are. -/
structure Wiki where
  api : Text
  base : Url
  deriving DecidableEq, Repr

/-- A wiki by two addresses, of which only the second is read at once. -/
def Wiki.ofText (api base : Text) : Except Url.Error Wiki := do return ⟨api, ← Url.parse base⟩

/-! ## The request -/

def parameters (query : Text) : List (Text × Text) :=
  [("action".toList, "query".toList), ("format".toList, "json".toList), ("titles".toList, query),
    ("prop".toList, "extracts|info".toList), ("exintro".toList, "1".toList),
    ("explaintext".toList, "1".toList), ("inprop".toList, "url".toList),
    ("redirects".toList, "1".toList)]

def request (api : Url) (query : Text) : Http.Request :=
  ⟨.get, api.addPairs (parameters query), none⟩

/-! ## The outcome -/

/-- The detail of a response whose status is no success. -/
def statusDetail (status : Nat) : Text :=
  "Wikipedia request failed with status ".toList ++ Http.statusText status

def outcome (base : Url) : Http.Exchange → Encyclopedia.Outcome
  | .timedOut => .failed (.lookupTimeout Http.brokenDetail)
  | .broken => .failed (.lookupFailed Http.brokenDetail)
  | .answered status body =>
    if Http.isSuccess status then
      match pagesOfBody? body with
      | none => .failed (.lookupFailed Http.bodyDetail)
      | some pages => (articleOf? base pages).elim .missing .found
    else .failed (.lookupFailed (statusDetail status))

def Wiki.lookup (wiki : Wiki) (network : Http.Network) (query : Text) : Encyclopedia.Outcome :=
  match Url.parse wiki.api with
  | .error _ => .failed (.lookupFailed Http.addressDetail)
  | .ok api => outcome wiki.base (network (request api query))

end MediaWiki
end ChatAssistant
