import ChatAssistant.Text.Lowercase
import ChatAssistant.Text.Substring

/-!
# What a question is about

A question is a math problem, an encyclopedia query or neither, as decided by the phrases it holds
in lower case. The groups of phrases are tried in order, and so are the phrases of a group. Operator
characters are math phrases, so a question with a hyphen in it counts as math.
-/

namespace ChatAssistant

inductive Intent where
  | math
  | encyclopedia
  | general
  deriving DecidableEq, Repr

namespace Intent

def label : Intent → Text
  | math => "math".toList
  | encyclopedia => "encyclopedia".toList
  | general => "general".toList

def mathPhrases : List Text :=
  ["сколько будет".toList, "реши".toList, "посчитай".toList, "вычисли".toList,
    "уравнение".toList, "равно".toList, "=".toList, "+".toList, "-".toList, "*".toList,
    "/".toList, "^".toList, "квадрат".toList, "корень".toList, "синус".toList,
    "косинус".toList, "тангенс".toList, "котангенс".toList, "логарифм".toList,
    "процент".toList, "степень".toList, "модуль".toList, "√".toList, "sin".toList,
    "cos".toList, "tg".toList]

def encyclopediaPhrases : List Text :=
  ["что такое".toList, "кто такой".toList, "кто такая".toList, "определение".toList,
    "это".toList, "расскажи о".toList, "информация о".toList, "статья о".toList,
    "википедия".toList]

/-- The groups of phrases in the order in which they are tried. -/
def groups : List (Intent × List Text) := [(math, mathPhrases), (encyclopedia, encyclopediaPhrases)]

/-- An intent and the phrase that decided it. -/
structure Decision where
  intent : Intent
  phrase : Option Text
  deriving DecidableEq, Repr

def decideLowercase (lower : Text) : Decision :=
  let hit := groups.findSome? fun g =>
    (g.2.find? (Text.contains · lower)).map fun phrase => (g.1, phrase)
  match hit with
  | some (intent, phrase) => ⟨intent, some phrase⟩
  | none => ⟨general, none⟩

def classify (question : Text) : Decision := decideLowercase (Text.lowercase question)

end Intent
end ChatAssistant
