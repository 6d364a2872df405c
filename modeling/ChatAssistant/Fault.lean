import ChatAssistant.Text.Blank

/-!
# Faults

Everything that can go wrong outside the evaluation of an expression, each with a detail in words.
-/

namespace ChatAssistant

inductive Fault where
  /-- The encyclopedia gave no answer in time. -/
  | lookupTimeout (detail : Text)
  /-- The encyclopedia could not be asked, or its answer could not be used. -/
  | lookupFailed (detail : Text)
  /-- A part of the program is gone. -/
  | unavailable (detail : Text)
  /-- A part of the program gave no answer in time. -/
  | overdue (detail : Text)
  | io (detail : Text)
  | validation (detail : Text)
  | configuration (detail : Text)
  | transport (detail : Text)
  | internal (detail : Text)
  deriving DecidableEq, Repr

def Fault.message : Fault → Text
  | .lookupTimeout d => "Actor error: Encyclopedia lookup timed out: ".toList ++ d
  | .lookupFailed d => "Actor error: Encyclopedia lookup failed: ".toList ++ d
  | .unavailable d => "Actor error: Internal system error: ".toList ++ d
  | .overdue d => "Actor error: Operation timed out: ".toList ++ d
  | .io d => "I/O error: ".toList ++ d
  | .validation d => "Validation error: ".toList ++ d
  | .configuration d => "Configuration error: ".toList ++ d
  | .transport d => "Transport error: ".toList ++ d
  | .internal d => "Internal error: ".toList ++ d

end ChatAssistant
