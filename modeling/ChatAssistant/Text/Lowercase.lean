import ChatAssistant.Text.CaseTables

/-!
# Lower case

Full lower-casing of a text. Every character has lower-case forms of its own, with one exception: a
capital sigma becomes the final form `ς` when a cased letter stands before it and none after it,
where case-ignorable characters on either side do not count.
-/

namespace ChatAssistant
namespace Text

/-- The lower-case form of a character, out of context. Only `İ` has one of two characters. -/
def lowercaseChar (c : Char) : Text :=
  if c.toNat = 0x130 then ['i', Char.ofNat 0x307]
  else
    match lowercaseRanges.find? fun r => r.first ≤ c.toNat && c.toNat ≤ r.last with
    | some r =>
      if (c.toNat - r.first) % r.stride = 0 then [Char.ofNat (c.toNat + r.shift).toNat] else [c]
    | none => [c]

def isCased (c : Char) : Bool := inRanges casedRanges c

def isCaseIgnorable (c : Char) : Bool := inRanges caseIgnorableRanges c

/-- Whether the first character of `rest` that is not case-ignorable is a cased one. -/
def startsCased (rest : Text) : Bool :=
  ((rest.dropWhile isCaseIgnorable).head?.map isCased).getD false

/-- Capital sigma, the one character whose lower-case form depends on its neighbours. -/
def capitalSigma : Char := 'Σ'

/-- Lower-cases a text that follows other characters; `afterCased` says whether the last of those
that is not case-ignorable is cased. -/
def lowercaseAfter (afterCased : Bool) : Text → Text
  | [] => []
  | c :: r =>
    let form :=
      if c = capitalSigma then
        if afterCased && !startsCased r then ['ς'] else ['σ']
      else lowercaseChar c
    form ++ lowercaseAfter (if isCaseIgnorable c then afterCased else isCased c) r

def lowercase (s : Text) : Text := lowercaseAfter false s

theorem lowercase_nil : lowercase [] = [] := rfl

end Text
end ChatAssistant
