import ChatAssistant.Answer.Length

/-!
# Articles

What the encyclopedia has on a query, and how it is shown.
-/

namespace ChatAssistant
namespace Encyclopedia

/-- An article: its title, its introduction, which may be blank, and its address. -/
structure Article where
  title : Text
  summary : Text
  url : Text
  deriving DecidableEq, Repr

/-- The article with its summary cut to `summaryChars` characters. -/
def Article.toText (article : Article) (summaryChars : Nat) : Text :=
  let heading := "📚 **".toList ++ article.title ++ "**\n\n".toList
  if (Text.trim article.summary).isEmpty then
    heading ++ "Статья найдена, но без описания.\n🔗 [Wikipedia](".toList ++ article.url ++
      ")".toList
  else
    heading ++ Answer.truncate summaryChars article.summary ++
      "\n\n🔗 [Читать далее на Wikipedia](".toList ++ article.url ++ ")".toList

def notFoundText (query : Text) : Text :=
  "🔍 По запросу '".toList ++ query ++
    "' ничего не найдено в Wikipedia.\n\nПопробуйте:\n• Другие формулировки\n".toList ++
    "• Английские термины\n• Более общие запросы".toList

/-- Shown when the question holds no query. -/
def usageHint : Text :=
  "📚 *Wikipedia поиск:*\n\nУкажите, что найти:\n• что такое [термин]\n".toList ++
    "• кто такой [имя]\n• информация о [тема]".toList

end Encyclopedia
end ChatAssistant
