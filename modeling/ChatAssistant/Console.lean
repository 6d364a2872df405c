import ChatAssistant.Conversation
import ChatAssistant.Text.Utf8

/-!
# The console

A conversation over bytes: each line is a message, and each reply is written with an empty line
after it. A line that is no text ends the conversation.
-/

namespace ChatAssistant
namespace Console

/-- The name by which the user is greeted. -/
def userName : Text := "друг".toList

/-! ## Lines -/

def newline : UInt8 := 10

def carriageReturn : UInt8 := 13

/-- The lines of an input, each with the line end that it has. -/
def lines : List UInt8 → List (List UInt8)
  | [] => []
  | b :: r =>
    if b = newline then [b] :: lines r
    else
      match lines r with
      | [] => [[b]]
      | line :: rest => (b :: line) :: rest

/-- A text without the line end at its end; a carriage return is part of it. -/
def dropLineEnd (line : Text) : Text :=
  match line.reverse with
  | '\n' :: '\r' :: r => r.reverse
  | '\n' :: r => r.reverse
  | _ => line

def message (line : List UInt8) : Except Utf8.Error Text := (Utf8.decode line).map dropLineEnd

/-! ## Conversations -/

def written (reply : Option Text) : Text := reply.elim [] (· ++ "\n\n".toList)

structure Run where
  output : Text
  /-- What ended the conversation before its input. -/
  fault : Option Fault
  supervisor : Supervisor
  queries : List Text
  deriving DecidableEq, Repr

/-- Takes part in a conversation line by line. Line `n + i` meets the world `world (n + i)`. -/
def converse (setup : Setup) (world : Nat → Assistant.World) (n : Nat) (s : Supervisor) :
    List (List UInt8) → Run
  | [] => ⟨[], none, s, []⟩
  | line :: rest =>
    match message line with
    | .error e => ⟨[], some (.io e.message), s, []⟩
    | .ok m =>
      let turn := Conversation.respond setup (world n) s userName m
      let run := converse setup world (n + 1) turn.supervisor rest
      ⟨written turn.result ++ run.output, run.fault, run.supervisor, turn.queries ++ run.queries⟩

def run (setup : Setup) (world : Nat → Assistant.World) (s : Supervisor) (input : List UInt8) :
    Run :=
  converse setup world 0 s (lines input)

end Console
end ChatAssistant
