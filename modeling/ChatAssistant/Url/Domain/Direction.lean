import ChatAssistant.Url.Domain.DirectionTable
import ChatAssistant.Url.Domain.Table

/-!
# The direction of labels

A name with a character from a script written from right to left is shown in one way only if each of
its labels keeps to one direction: it starts with a letter of that direction, holds nothing that
turns it, and ends in a letter or a number.
-/

namespace ChatAssistant
namespace Url
namespace Domain

inductive Direction where
  | leftToRight
  | rightToLeft
  | number
  /-- A number of a script written from right to left. -/
  | foreignNumber
  /-- A mark, which is written where the character before it is. -/
  | weightless
  | neutral
  /-- Fits in neither direction. -/
  | breaking
  deriving DecidableEq, Repr

/-- The tables of the directions other than left to right. -/
def directions : List (Direction × List Row) :=
  [(.rightToLeft, rows rightToLeftTable), (.foreignNumber, rows foreignNumberTable),
    (.number, rows numberTable), (.weightless, rows weightlessTable),
    (.neutral, rows neutralTable), (.breaking, rows breakTable)]

def Direction.of (c : Char) : Direction :=
  ((directions.find? fun d => isIn d.2 c).map (·.1)).getD .leftToRight

/-- The label holds a character from a script written from right to left. -/
def isTurning (label : Text) : Bool :=
  label.any fun c => [.rightToLeft, .foreignNumber].contains (Direction.of c)

/-- All of the directions are among `inside`, and the last one that is not weightless is in `ends`.
-/
def fits (inside ends : List Direction) (ds : List Direction) : Bool :=
  ds.all inside.contains &&
    (ds.reverse.dropWhile (· == .weightless)).head?.elim false ends.contains

def keepsDirection (label : Text) : Bool :=
  let ds := label.map Direction.of
  match ds.head? with
  | none => true
  | some .leftToRight =>
    fits [.leftToRight, .number, .weightless, .neutral] [.leftToRight, .number] ds
  | some .rightToLeft =>
    fits [.rightToLeft, .number, .foreignNumber, .weightless, .neutral]
        [.rightToLeft, .number, .foreignNumber] ds &&
      !(ds.contains .number && ds.contains .foreignNumber)
  | some _ => false

end Domain
end Url
end ChatAssistant
