import ChatAssistant.Text.Blank

/-!
# Suggestions

A question that is neither a problem nor a query gets one of three suggestions, which quote it.
Which of them is free.
-/

namespace ChatAssistant
namespace Answer

abbrev Pick := Fin 3

def suggestion (question : Text) : Pick → Text
  | 0 =>
    "🤔 *Ваш запрос:* '".toList ++ question ++
      "'\n\n*Я могу помочь с:*\n• Математическими задачами\n• Поиском в Wikipedia\n".toList ++
      "• Вычислениями и формулами\n\n*Примеры:*\n• сколько будет 15% от 200\n".toList ++
      "• что такое искусственный интеллект\n• sin 30 градусов".toList
  | 1 =>
    "📝 *Запрос:* '".toList ++ question ++
      "'\n\nУточните, что нужно:\n• **Математика**: решение, вычисление\n".toList ++
      "• **Информация**: определение, факты\n".toList ++
      "• **Объяснение**: как работает, что значит".toList
  | 2 =>
    "💡 *'".toList ++ question ++
      "'*\n\nДля лучшего ответа:\n1. Математика → напишите выражение\n".toList ++
      "2. Wikipedia → 'что такое [термин]'\n3. Помощь → конкретный вопрос".toList

def suggestions (question : Text) : List Text := [0, 1, 2].map (suggestion question)

/-! ## Repeatable choices -/

/-- Spreads the bits of a word over the whole word. -/
def spread (w : UInt64) : UInt64 :=
  let w := (w ^^^ (w >>> 30)) * 0xBF58476D1CE4E5B9
  let w := (w ^^^ (w >>> 27)) * 0x94D049BB133111EB
  w ^^^ (w >>> 31)

/-- The choice number `n` of a sequence that follows from `seed`. -/
def Pick.ofSeed (seed : UInt64) (n : Nat) : Pick :=
  Fin.ofNat 3 (spread (seed + UInt64.ofNat (n + 1) * 0x9E3779B97F4A7C15)).toNat

end Answer
end ChatAssistant
