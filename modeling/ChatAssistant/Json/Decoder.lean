import ChatAssistant.Json.Parser

/-!
# Decoding JSON

Reading values of known shape. A record is an object, in which each of its fields stands at most
once and other members are passed over, or an array of its fields in order, from which fields at the
end may be left out.
-/

namespace ChatAssistant
namespace Json

def toBool? : Json → Option Bool
  | bool b => some b
  | _ => none

def toText? : Json → Option Text
  | string s => s
  | _ => none

def toInt64? : Json → Option Int64
  | number n => n.int64?
  | _ => none

def toList? {α : Type} (item? : Json → Option α) : Json → Option (List α)
  | array items => items.mapM item?
  | _ => none

def orNull? {α : Type} (value? : Json → Option α) : Json → Option (Option α)
  | null => some none
  | v => (value? v).map some

/-- The members of an object, by name; the last one of a name counts. -/
def toMembers? {α : Type} (value? : Json → Option α) : Json → Option (List (Text × α))
  | object members => do
    let all ← members.mapM fun (name, v) => return (← name, ← value? v)
    return all.foldl (fun seen (k, v) => seen.filter (·.1 != k) ++ [(k, v)]) []
  | _ => none

/-! ## Records -/

/-- The only value of a name; the outer absence means that there are several. -/
def only? (name : Text) (members : List (Text × Json)) : Option (Option Json) :=
  match members.filter (·.1 == name) with
  | [] => some none
  | [(_, v)] => some (some v)
  | _ => none

/-- The values of the fields with these names, in their order. -/
def fields? (names : List Text) : Json → Option (List (Option Json))
  | object members => do
    let members ← members.mapM fun (name, v) => return (← name, v)
    names.mapM (only? · members)
  | array items =>
    if items.length ≤ names.length then
      some (items.map some ++ List.replicate (names.length - items.length) none)
    else none
  | _ => none

def required? {α : Type} (value? : Json → Option α) (field : Option Json) : Option α := do
  value? (← field)

def optional? {α : Type} (value? : Json → Option α) (default : α) : Option Json → Option α
  | none => some default
  | some v => value? v

/-! ## Values of any shape -/

mutual

/-- All strings of a value are texts, all its numbers are in range, and it is at most `depth` arrays
and objects deep. -/
def isSound : (depth : Nat) → Json → Bool
  | _, null => true
  | _, bool _ => true
  | _, number n => n.isInRange
  | _, string s => s.isSome
  | 0, array _ => false
  | 0, object _ => false
  | depth + 1, array items => areSound depth items
  | depth + 1, object members => areSoundMembers depth members

def areSound : (depth : Nat) → List Json → Bool
  | _, [] => true
  | depth, v :: r => isSound depth v && areSound depth r

def areSoundMembers : (depth : Nat) → List (Option Text × Json) → Bool
  | _, [] => true
  | depth, (name, v) :: r => name.isSome && isSound depth v && areSoundMembers depth r

end

def toAny? (depth : Nat) (v : Json) : Option Json := if isSound depth v then some v else none

end Json
end ChatAssistant
