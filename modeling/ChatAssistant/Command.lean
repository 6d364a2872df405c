import ChatAssistant.Text.Lowercase

/-!
# Commands

What a message asks for. A command is a slash and a word, of which the part before an `@` is the
name in either case; anything else is a question, kept as it is.
-/

namespace ChatAssistant

inductive Command where
  | start
  | status
  /-- A command of another name. -/
  | unknown (name : Text)
  /-- No command. -/
  | question (text : Text)
  deriving DecidableEq, Repr

namespace Command

/-- The name of a command, from the text after its slash. -/
def nameOf (rest : Text) : Text :=
  Text.lowercase (((Text.words rest).headD []).takeWhile (· ≠ '@'))

def ofName (name : Text) : Command :=
  if name = "start".toList then start
  else if name = "status".toList then status
  else unknown name

def ofText (s : Text) : Command :=
  match Text.trim s with
  | '/' :: rest => ofName (nameOf rest)
  | _ => question s

/-- The answer to `start`. -/
def greeting (firstName : Text) : Text :=
  "👋 Привет, ".toList ++ firstName ++
    "!\n\n🧠 **Умный ИИ-помощник**\n\n✨ *Что я умею:*\n".toList ++
    "• 🔢 Решать математические задачи\n• 📚 Искать информацию в Wikipedia\n".toList ++
    "• 💡 Давать ответы с источниками\n\n**Просто задайте вопрос!**\n\n*Примеры:*\n".toList ++
    "• 'сколько будет 15% от 200'\n• 'что такое искусственный интеллект'\n".toList ++
    "• 'реши уравнение 2x + 5 = 15'".toList

end Command
end ChatAssistant
