import ChatAssistant.Text.Utf8
import ChatAssistant.Url.Domain.Direction
import ChatAssistant.Url.Domain.Label
import ChatAssistant.Url.Percent

/-!
# Names of hosts

The form of a name for the network: labels in ASCII between dots.
-/

namespace ChatAssistant
namespace Url
namespace Domain

/-- The characters of ASCII that no name may hold. -/
def isDenied (c : Char) : Bool :=
  Percent.isControl c || " %#/:<>?@[\\]^|".toList.contains c

/-- The form in ASCII of a name given in bytes; none if it has none. -/
def ofBytes? (bytes : List UInt8) : Option Text := do
  let typed ← (Utf8.decode bytes).toOption
  let name := compose (← ofTyped? typed)
  let labels ← (name.splitOn '.').mapM meaning?
  if labels.any isTurning && !labels.all keepsDirection then none
  else
    let ascii := ['.'].intercalate (← labels.mapM encoded?)
    if ascii.any isDenied then none else some ascii

end Domain
end Url
end ChatAssistant
