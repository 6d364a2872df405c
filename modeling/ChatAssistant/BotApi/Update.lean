import ChatAssistant.Json.Decoder

/-!
# Updates

What a chat service reports: updates with increasing numbers, some of which hold a message. Its
answer is a record in JSON, which holds either the updates or the reason why there are none.
-/

namespace ChatAssistant
namespace BotApi

structure Message where
  chat : Int64
  firstName : Option Text
  text : Option Text
  deriving DecidableEq, Repr

structure Update where
  id : Int64
  message : Option Message
  deriving DecidableEq, Repr

structure Response where
  ok : Bool
  updates : Option (List Update)
  description : Option Text
  deriving DecidableEq, Repr

/-! ## Decoding -/

def chat? (v : Json) : Option Int64 := do
  match ← Json.fields? ["id".toList] v with
  | [id] => Json.required? Json.toInt64? id
  | _ => none

def firstName? (v : Json) : Option Text := do
  match ← Json.fields? ["first_name".toList] v with
  | [name] => Json.required? Json.toText? name
  | _ => none

def Message.ofJson? (v : Json) : Option Message := do
  match ← Json.fields? ["chat".toList, "from".toList, "text".toList] v with
  | [chat, sender, text] =>
    return {
      chat := ← Json.required? chat? chat
      firstName := ← Json.optional? (Json.orNull? firstName?) none sender
      text := ← Json.optional? (Json.orNull? Json.toText?) none text }
  | _ => none

def Update.ofJson? (v : Json) : Option Update := do
  match ← Json.fields? ["update_id".toList, "message".toList] v with
  | [id, message] =>
    return {
      id := ← Json.required? Json.toInt64? id
      message := ← Json.optional? (Json.orNull? Message.ofJson?) none message }
  | _ => none

def Response.ofJson? (v : Json) : Option Response := do
  match ← Json.fields? ["ok".toList, "result".toList, "description".toList] v with
  | [ok, result, description] =>
    return {
      ok := ← Json.required? Json.toBool? ok
      updates := ← Json.optional? (Json.orNull? (Json.toList? Update.ofJson?)) none result
      description := ← Json.optional? (Json.orNull? Json.toText?) none description }
  | _ => none

def Response.ofBody? (body : Text) : Option Response := do Response.ofJson? (← Json.parse? body)

end BotApi
end ChatAssistant
