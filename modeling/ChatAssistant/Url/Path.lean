import ChatAssistant.Url.Basic

/-!
# Paths

Building a path segment by segment. A segment of one dot adds nothing, one of two dots takes the
last segment away, and in the addresses of files the letter of a drive stays where it is.
-/

namespace ChatAssistant
namespace Url

def isDot (s : Text) : Bool := [".".toList, "%2e".toList].contains (s.map Char.toLower)

def isDotDot (s : Text) : Bool :=
  ["..".toList, ".%2e".toList, "%2e.".toList, "%2e%2e".toList].contains (s.map Char.toLower)

/-- The text is the letter of a drive with a colon or a bar. -/
def isDrive : Text → Bool
  | [c, d] => c.isAlpha && (d == ':' || d == '|')
  | _ => false

/-- The text is the letter of a drive with a colon. -/
def isPlainDrive : Text → Bool
  | [c, d] => c.isAlpha && d == ':'
  | _ => false

/-- The segments without the last one; the letter of a drive stays. -/
def shorten (kind : Kind) (segments : List Text) : List Text :=
  if kind = .file && segments.getLast?.elim false isPlainDrive then segments else segments.dropLast

/-- The path of an address of a file starts with a letter of a drive. -/
def startsWithDrive (kind : Kind) (segments : List Text) (segment : Text) : Bool :=
  kind = .file && segments.isEmpty && isDrive segment

/-- Adds an encoded segment, which is the last one or not. -/
def addSegment (kind : Kind) (segments : List Text) (segment : Text) (isLast : Bool) : List Text :=
  let finish (list : List Text) : List Text := if isLast then list ++ [[]] else list
  if isDotDot segment then finish (shorten kind segments)
  else if isDot segment then finish segments
  else if startsWithDrive kind segments segment then segments ++ [segment.take 1 ++ [':']]
  else segments ++ [segment]

/-- Adds encoded segments, of which the last one is the last of the path. -/
def addSegments (kind : Kind) (segments : List Text) : List Text → List Text
  | [] => segments
  | s :: r => addSegments kind (addSegment kind segments s r.isEmpty) r

/-- The segments of a path without those at the front that are empty, except for the only one. -/
def dropEmptyFront (segments : List Text) : List Text :=
  match segments.dropWhile List.isEmpty with
  | [] => [[]]
  | list => list

/-- The parts of a text between slashes, and, where the kind is special, backslashes. -/
def splitPath (kind : Kind) (s : Text) : List Text :=
  s.splitOnP fun c => c = '/' || (kind.isSpecial && c = '\\')

def dropSlash (kind : Kind) : Text → Text
  | '/' :: r => r
  | '\\' :: r => if kind.isSpecial then r else '\\' :: r
  | s => s

def encodedParts (kind : Kind) (s : Text) : List Text :=
  (splitPath kind (dropSlash kind s)).map (Percent.encode Percent.inPath)

/-- The segments of a path, from its text. -/
def segmentsOf (kind : Kind) (s : Text) : List Text :=
  let all := addSegments kind [] (encodedParts kind s)
  if kind = .file then dropEmptyFront all else all

/-- One of the encoded segments comes to be a letter of a drive at the front of the path. -/
def leadsToDrive (kind : Kind) (segments : List Text) : List Text → Bool
  | [] => false
  | s :: r =>
    startsWithDrive kind segments s || leadsToDrive kind (addSegment kind segments s r.isEmpty) r

/-! ## Going down from an address -/

/-- Characters that are dropped from an address wherever they stand. -/
def isDropped (c : Char) : Bool := ['\t', '\n', '\r'].contains c

/-- The segments without the last one if that is empty and not the only one. -/
def dropEmptyLast (segments : List Text) : List Text :=
  if 1 < segments.length && segments.getLast? = some [] then segments.dropLast else segments

/-- What is encoded in a segment that is added to a path. -/
def inSegment (kind : Kind) (c : Char) : Bool :=
  Percent.inSegment c && (kind.isSpecial || c != '\\')

def withSegments (u : Url) (list : List Text) : Url := { u with path := .segments list }

/-- The address one segment below `u`. An empty segment at the end of its path gives way to the new
one; dots add nothing, and an address whose path has no segments stays as it is. -/
def child (u : Url) (segment : Text) : Url :=
  match u.path with
  | .plain _ => u
  | .segments list =>
    let kind := Kind.of u.scheme
    let list := dropEmptyLast list
    if segment = ['.'] || segment = ['.', '.'] then u.withSegments list
    else
      let list := if list = [[]] then [] else list
      let text := Percent.encode (inSegment kind) (segment.filter (!isDropped ·))
      u.withSegments (addSegment kind list text true)

end Url
end ChatAssistant
