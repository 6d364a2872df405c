import ChatAssistant.Command
import ChatAssistant.Supervisor

/-!
# Conversations

The reply to one incoming message, whatever way it came in. Unknown commands and blank messages get
none; a fault of the supervisor becomes a text.
-/

namespace ChatAssistant
namespace Conversation

/-- The text of a reply, or of its fault. -/
def shown : Except Fault Text → Text
  | .ok s => s
  | .error _ => Supervisor.failureText

def respond (setup : Setup) (world : Assistant.World) (s : Supervisor) (firstName message : Text) :
    Supervisor.Turn (Option Text) :=
  match Command.ofText message with
  | .start => ⟨some (Command.greeting firstName), s, []⟩
  | .status => ⟨some (shown ((s.status setup).map Status.Report.toText)), s, []⟩
  | .unknown _ => ⟨none, s, []⟩
  | .question q =>
    if Text.isBlankText q then ⟨none, s, []⟩
    else
      let turn := s.process setup world q
      ⟨some (shown turn.result), turn.supervisor, turn.queries⟩

end Conversation
end ChatAssistant
