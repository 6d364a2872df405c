import ChatAssistant.Text.Lowercase
import ChatAssistant.Text.Substring

/-!
# Queries

What is asked of the encyclopedia: the question in lower case, without the phrases that announce a
query and without punctuation at its end.
-/

namespace ChatAssistant
namespace Encyclopedia

/-- The phrases that announce a query, in the order in which they are removed. -/
def announcements : List Text :=
  ["что такое".toList, "кто такой".toList, "кто такая".toList, "расскажи о".toList,
    "информация о".toList, "статья о".toList, "определение".toList]

/-- Punctuation that is dropped at the end of a query. -/
def isClosing (c : Char) : Bool := "?!.,".toList.contains c

def query (question : Text) : Text :=
  let bare := announcements.foldl (fun t p => Text.replaceAll p [' '] t) (Text.lowercase question)
  Text.trim (Text.dropEndWhile isClosing (Text.collapse bare))

end Encyclopedia
end ChatAssistant
