import ChatAssistant.Url.Domain.Composition
import ChatAssistant.Url.Domain.Mapping
import ChatAssistant.Url.Domain.ShapeTable
import ChatAssistant.Url.Punycode

/-!
# Labels

A label is a part of a name between dots. It is kept in two forms: the characters that it means, and
their form in ASCII, which starts with `xn--` if the label holds other characters. A label that is
typed in that form has to mean one that could have been typed directly.
-/

namespace ChatAssistant
namespace Url
namespace Domain

/-! ## Joiners -/

def marks : List Row := rows markTable

def joinsNext : List Row := rows joinsNextTable

def joinsBefore : List Row := rows joinsBeforeTable

def transparent : List Row := rows transparentTable

/-- The class of the marks that take the vowel from a consonant. -/
def vowelKiller : Nat := 9

/-- The character is a joiner that may not stand after `before` (the last character first) and in
front of `after`. -/
def isLooseJoiner (before : Text) (c : Char) (after : Text) : Bool :=
  let afterKiller := before.head?.elim false fun d => combiningClass d = vowelKiller
  let joined (table : List Row) (s : Text) : Bool :=
    (s.dropWhile (isIn transparent)).head?.elim false (isIn table)
  if c = '\u200d' then !afterKiller
  else if c = '\u200c' then !(afterKiller || (joined joinsNext before && joined joinsBefore after))
  else false

/-- The label holds a joiner where none may stand; `before` is what stands in front of it, the last
character first. -/
def hasLooseJoiner (before : Text) : Text → Bool
  | [] => false
  | c :: r => isLooseJoiner before c r || hasLooseJoiner (c :: before) r

/-! ## Validity -/

/-- The characters may make up a label: all are plain, no mark is in front, and joiners join. -/
def isLabel (s : Text) : Bool :=
  s.all (fun c => isPlain c && c != '.') && !(s.head?.elim false (isIn marks)) &&
    !hasLooseJoiner [] s

/-- The start of a label in ASCII that means other characters. -/
def encodedMark : Text := "xn--".toList

/-- The longest label that is encoded, and the longest that is decoded. -/
def maxDecoded : Nat := 1000

def maxEncoded : Nat := 2000

/-- The characters that a label means, from its form as it is typed. -/
def meaning? (s : Text) : Option Text :=
  if encodedMark.isPrefixOf s then
    let code := s.drop encodedMark.length
    if code.length ≤ maxEncoded && code.all Punycode.isBasic then
      match Punycode.decode? code with
      | none => none
      | some label =>
        if !label.all Punycode.isBasic && compose label == label && isLabel label then some label
        else none
    else none
  else if isLabel s then some s
  else none

/-- The form in ASCII of the characters of a label; none if they are too many. -/
def encoded? (label : Text) : Option Text :=
  if label.all Punycode.isBasic then some label
  else if label.length ≤ maxDecoded then some (encodedMark ++ Punycode.encode label)
  else none

end Domain
end Url
end ChatAssistant
