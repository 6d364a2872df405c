import ChatAssistant.BotApi.Update
import ChatAssistant.Fault
import ChatAssistant.Http
import ChatAssistant.Json.Printer
import ChatAssistant.Url.Form
import ChatAssistant.Url.Parser

/-!
# Calls of a chat service

The two calls that the program makes: asking for updates, and sending a message. A message is sent
with markup first; if the service cannot read the markup, the same text is sent once more without
it.
-/

namespace ChatAssistant
namespace BotApi

/-- A bot: the address below which its calls are. -/
structure Bot where
  base : Text
  deriving DecidableEq, Repr

def Bot.ofToken (api token : Text) : Bot :=
  ⟨Text.dropEndWhile (· = '/') api ++ "/bot".toList ++ token⟩

def Bot.call (bot : Bot) (name : String) : Except Url.Error Url :=
  Url.parse (bot.base ++ '/' :: name.toList)

/-- The fault of an exchange without a usable response. -/
def broken : Fault := .transport Http.brokenDetail

/-! ## Asking for updates -/

/-- The request for the updates from number `offset` on, which may wait for some. -/
def updatesRequest (url : Url) (offset : Int64) (seconds : Nat) : Http.Request :=
  ⟨.get, url.addPairs [("offset".toList, Json.intText offset.toInt),
    ("timeout".toList, Decimal.digitsOfNat seconds)], none⟩

/-- The updates by the end of an exchange, whatever the status. -/
def updatesOf : Http.Exchange → Except Fault (List Update)
  | .answered _ body =>
    match Response.ofBody? body with
    | none => .error (.transport Http.bodyDetail)
    | some answer =>
      if answer.ok then .ok (answer.updates.getD [])
      else .error (.transport ("getUpdates rejected: ".toList ++ answer.description.getD []))
  | .timedOut | .broken => .error broken

/-- The effect of calls: what they return, and the requests that were sent. -/
structure Called (α : Type) where
  result : Except Fault α
  requests : List Http.Request

def Bot.getUpdates (bot : Bot) (network : Http.Network) (offset : Int64) (seconds : Nat) :
    Called (List Update) :=
  match bot.call "getUpdates" with
  | .error _ => ⟨.error (.transport Http.addressDetail), []⟩
  | .ok url =>
    let request := updatesRequest url offset seconds
    ⟨updatesOf (network request), [request]⟩

/-! ## Sending messages -/

def markup : List (Text × Text) := [("parse_mode".toList, Json.quoted "Markdown".toList)]

/-- The request that sends a text to a chat, with or without markup. -/
def messageRequest (url : Url) (chat : Int64) (text : Text) (hasMarkup : Bool) : Http.Request :=
  ⟨.post, url, some (Json.objectText
    ([("chat_id".toList, Json.intText chat.toInt), ("text".toList, Json.quoted text)] ++
      if hasMarkup then markup else []))⟩

/-- The end of sending, by the end of its last exchange. -/
def sentOf : Http.Exchange → Except Fault Unit
  | .answered status _ =>
    if Http.isSuccess status then .ok ()
    else .error (.transport ("sendMessage failed with status ".toList ++ Http.statusText status))
  | .timedOut | .broken => .error broken

def refusesMarkup : Http.Exchange → Bool
  | .answered status _ => status = Http.badRequest
  | .timedOut | .broken => false

def Bot.sendMessage (bot : Bot) (network : Http.Network) (chat : Int64) (text : Text) :
    Called Unit :=
  match bot.call "sendMessage" with
  | .error _ => ⟨.error (.transport Http.addressDetail), []⟩
  | .ok url =>
    let first := messageRequest url chat text true
    if refusesMarkup (network first) then
      let second := messageRequest url chat text false
      ⟨sentOf (network second), [first, second]⟩
    else ⟨sentOf (network first), [first]⟩

end BotApi
end ChatAssistant
