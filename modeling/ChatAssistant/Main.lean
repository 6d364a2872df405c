import ChatAssistant.Config
import ChatAssistant.Console
import ChatAssistant.MediaWiki.Lookup
import Std.Time.DateTime.Timestamp

/-!
# The program

A conversation on the console. Settings come from the environment; a fault in them ends the program.
The program has no connection to a network, so a question for the encyclopedia is answered as if
it could not be reached.
-/

namespace ChatAssistant
namespace Program

def keys : List String :=
  ["TELEGRAM_TOKEN", "TELEGRAM_API_URL", "WIKIPEDIA_API_URL", "WIKIPEDIA_PAGE_URL",
    "LOOKUP_TIMEOUT_SECS", "MAX_ANSWER_CHARS", "SUMMARY_CHARS", "REPLY_SEED"]

/-- What a question on line `n` meets. -/
def world (wiki : MediaWiki.Wiki) (seed : UInt64) (n : Nat) : Assistant.World where
  lookup query := ⟨0, wiki.lookup .unreachable query⟩
  pick := Answer.Pick.ofSeed seed n

def setup (config : Config) (startedAt : Timestamp) : Setup :=
  ⟨config.limits, config.encyclopediaUrl, Setup.usualDeadline, startedAt⟩

partial def loop (setup : Setup) (world : Nat → Assistant.World) (n : Nat) (s : Supervisor) :
    IO UInt32 := do
  let line ← (← IO.getStdin).getLine
  if line.isEmpty then return 0
  let run := Console.converse setup world n s [line.toUTF8.toList]
  let stdout ← IO.getStdout
  stdout.putStr (String.ofList run.output)
  stdout.flush
  match run.fault with
  | some fault =>
    IO.eprintln (String.ofList fault.message)
    return 1
  | none => loop setup world (n + 1) run.supervisor

def stop (fault : Fault) : IO UInt32 := do
  IO.eprintln (String.ofList fault.message)
  return 1

end Program
end ChatAssistant

open ChatAssistant in
def main : IO UInt32 := do
  let values ← Program.keys.mapM fun key => return (key.toList, (← IO.getEnv key).map String.toList)
  match Config.ofSource fun key => (values.lookup key).join with
  | .error e => Program.stop e.fault
  | .ok config =>
    match MediaWiki.Wiki.ofText config.encyclopediaUrl config.articleUrl with
    | .error e => Program.stop e.fault
    | .ok wiki =>
      let seed := UInt64.ofNat (config.seed.getD (← IO.monoNanosNow))
      let startedAt := ⟨(← Std.Time.Timestamp.now).toSecondsSinceUnixEpoch.val⟩
      Program.loop (Program.setup config startedAt) (Program.world wiki seed) 0 .fresh
