import ChatAssistant.Expr.Basic

/-!
# Tokens

The characters an expression may hold, and its division into tokens. Blanks separate tokens and mean
nothing else. A number is a maximal run of digits and points, two stars in a row are one power sign,
and the check of the characters comes before everything else: no other fault of a text hides a
character outside the list.
-/

namespace ChatAssistant
namespace Expr

inductive Token where
  | number (value : Decimal)
  | plus
  | minus
  | star
  | slash
  | caret
  | lparen
  | rparen
  deriving DecidableEq, Repr

/-- The characters of expressions, blanks apart. -/
def alphabet : Text := "0123456789+-*/.()^".toList

def isAllowed (c : Char) : Bool := Text.isBlank c || List.contains alphabet c

/-- Refuses a text with a character that may not stand in an expression, and names the first. -/
def checkCharacters (s : Text) : Except Error Unit :=
  match s.find? (!isAllowed ·) with
  | some c => .error (.invalidCharacter c)
  | none => .ok ()

def Token.ofChar? : Char → Option Token
  | '+' => some .plus
  | '-' => some .minus
  | '*' => some .star
  | '/' => some .slash
  | '^' => some .caret
  | '(' => some .lparen
  | ')' => some .rparen
  | _ => none

def tokens : Text → Except Error (List Token)
  | [] => .ok []
  | '*' :: '*' :: r => (tokens r).map (.caret :: ·)
  | c :: r =>
    if Text.isBlank c then tokens r
    else if Decimal.isLiteralChar c then
      let run := c :: r.takeWhile Decimal.isLiteralChar
      match Decimal.ofRun? run with
      | some d => (tokens (r.dropWhile Decimal.isLiteralChar)).map (.number d :: ·)
      | none => .error (.malformedNumber run)
    else
      match Token.ofChar? c with
      | some t => (tokens r).map (t :: ·)
      | none => .error (.invalidCharacter c)
termination_by s => s.length
decreasing_by
  all_goals simp_wf
  all_goals
    have h := Text.length_dropWhile_le Decimal.isLiteralChar r
    omega

end Expr
end ChatAssistant
