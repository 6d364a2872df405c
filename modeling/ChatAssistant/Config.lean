import ChatAssistant.Assistant
import ChatAssistant.Url.Parser

/-!
# Configuration

The settings of the program, read from named values. A value that is missing or blank leaves its
setting as it is. Numbers are checked when they are read; only then are ranges and addresses
checked, all at once.
-/

namespace ChatAssistant

structure Config where
  /-- The token of the chat service; without one the console is used. -/
  token : Option Text
  /-- The address of the chat service. -/
  chatUrl : Text
  /-- The address of the encyclopedia. -/
  encyclopediaUrl : Text
  /-- The address under which its articles are. -/
  articleUrl : Text
  lookupSeconds : Nat
  maxAnswer : Nat
  summary : Nat
  /-- Makes the choice of suggestions repeatable. -/
  seed : Option Nat
  deriving DecidableEq, Repr

namespace Config

/-- The settings without any values. -/
def initial : Config where
  token := none
  chatUrl := "https://api.telegram.org".toList
  encyclopediaUrl := "https://ru.wikipedia.org/w/api.php".toList
  articleUrl := "https://ru.wikipedia.org/wiki/".toList
  lookupSeconds := 10
  maxAnswer := 4000
  summary := 400
  seed := none

def limits (c : Config) : Assistant.Limits := ⟨c.maxAnswer, c.summary⟩

/-- The time for a request to the encyclopedia, in milliseconds. -/
def lookupMillis (c : Config) : Nat := c.lookupSeconds * 1000

/-! ## Numbers -/

inductive NumberError where
  | invalidDigit
  | tooLarge
  deriving DecidableEq, Repr

def NumberError.message : NumberError → Text
  | .invalidDigit => "invalid digit found in string".toList
  | .tooLarge => "number too large to fit in target type".toList

def dropPlus : Text → Text
  | '+' :: r => r
  | s => s

/-- Reads digits from the left; what comes first, a character that is no digit or a value beyond 64
bits, is the error. -/
def readDigits (n : Nat) : Text → Except NumberError Nat
  | [] => .ok n
  | c :: r =>
    if !Text.isDigit c then .error .invalidDigit
    else if UInt64.size ≤ 10 * n + Decimal.digitValue c then .error .tooLarge
    else readDigits (10 * n + Decimal.digitValue c) r

def readNumber (s : Text) : Except NumberError Nat :=
  if (dropPlus s).isEmpty then .error .invalidDigit else readDigits 0 (dropPlus s)

/-! ## Faults -/

/-- The settings that are checked together. -/
inductive Field where
  | chatUrl
  | encyclopediaUrl
  | articleUrl
  | lookupSeconds
  | maxAnswer
  | summary
  deriving DecidableEq, Repr

inductive Error where
  /-- A value that is no number. -/
  | notANumber (key value : Text) (error : NumberError)
  /-- Numbers out of their ranges and texts that are no addresses. -/
  | invalid (fields : List Field)
  deriving DecidableEq, Repr

def numberDetail (key value : Text) (error : NumberError) : Text :=
  key ++ " must be a number (".toList ++ value ++ "): ".toList ++ error.message

def Field.name : Field → Text
  | .chatUrl => "telegram_api_url".toList
  | .encyclopediaUrl => "wikipedia_api_url".toList
  | .articleUrl => "wikipedia_page_url".toList
  | .lookupSeconds => "lookup_timeout_secs".toList
  | .maxAnswer => "max_answer_chars".toList
  | .summary => "summary_chars".toList

def Error.fault : Error → Fault
  | .notANumber key value e => .configuration (numberDetail key value e)
  | .invalid fields =>
    .validation ("Validation errors: ".toList ++ ", ".toList.intercalate (fields.map Field.name))

/-! ## Reading -/

/-- Named values. -/
abbrev Source := Text → Option Text

/-- The value of a key; a blank one counts as missing. -/
def Source.value? (source : Source) (key : Text) : Option Text :=
  (source key).filter (!Text.isBlankText ·)

def Source.number? (source : Source) (key : Text) : Except Error (Option Nat) :=
  match source.value? key with
  | none => .ok none
  | some value =>
    match readNumber (Text.trim value) with
    | .ok n => .ok (some n)
    | .error e => .error (.notANumber key value e)

/-- The settings from named values, unchecked. -/
def read (source : Source) : Except Error Config := do
  let lookupSeconds ← source.number? "LOOKUP_TIMEOUT_SECS".toList
  let maxAnswer ← source.number? "MAX_ANSWER_CHARS".toList
  let summary ← source.number? "SUMMARY_CHARS".toList
  let seed ← source.number? "REPLY_SEED".toList
  return {
    token := source.value? "TELEGRAM_TOKEN".toList
    chatUrl := (source.value? "TELEGRAM_API_URL".toList).getD initial.chatUrl
    encyclopediaUrl := (source.value? "WIKIPEDIA_API_URL".toList).getD initial.encyclopediaUrl
    articleUrl := (source.value? "WIKIPEDIA_PAGE_URL".toList).getD initial.articleUrl
    lookupSeconds := lookupSeconds.getD initial.lookupSeconds
    maxAnswer := maxAnswer.getD initial.maxAnswer
    summary := summary.getD initial.summary
    seed := seed }

def isUrl (s : Text) : Bool := (Url.parse s).isOk

def Field.isValid (c : Config) : Field → Bool
  | .chatUrl => isUrl c.chatUrl
  | .encyclopediaUrl => isUrl c.encyclopediaUrl
  | .articleUrl => isUrl c.articleUrl
  | .lookupSeconds => 1 ≤ c.lookupSeconds && c.lookupSeconds ≤ 120
  | .maxAnswer => 100 ≤ c.maxAnswer && c.maxAnswer ≤ 4096
  | .summary => 100 ≤ c.summary && c.summary ≤ 500

def Field.all : List Field :=
  [.lookupSeconds, .maxAnswer, .summary, .chatUrl, .encyclopediaUrl, .articleUrl]

def invalidFields (c : Config) : List Field := Field.all.filter (!·.isValid c)

def ofSource (source : Source) : Except Error Config := do
  let c ← read source
  if c.invalidFields.isEmpty then return c else throw (.invalid c.invalidFields)

end Config
end ChatAssistant
