import ChatAssistant.Url.Path

/-!
# Reading addresses

An address is read from a text that names its scheme: there is no other address that it could be
relative to. Control characters and spaces at the ends are no part of it, nor are tabs and line ends
anywhere.
-/

namespace ChatAssistant
namespace Url

/-! ## Scheme -/

/-- A control character or a space. -/
def isEdge (c : Char) : Bool := c.toNat ≤ 0x20

/-- The part of a text that is read. -/
def essence (s : Text) : Text := (Text.stripWhile isEdge s).filter (!isDropped ·)

def isSchemeChar (c : Char) : Bool := c.isAlphanum || ['+', '-', '.'].contains c

/-- The scheme in front of a colon, in lower case, and the text after the colon. -/
def splitScheme? (s : Text) : Option (Text × Text) :=
  match s with
  | [] => none
  | c :: _ =>
    if c.isAlpha then
      match s.dropWhile isSchemeChar with
      | ':' :: r => some ((s.takeWhile isSchemeChar).map Char.toLower, r)
      | _ => none
    else none

/-! ## Authority -/

def endsAuthority (kind : Kind) (c : Char) : Bool :=
  ['/', '?', '#'].contains c || (kind.isSpecial && c = '\\')

/-- What stands before and after the last `@`; the former is not there without one. -/
def splitCredentials (s : Text) : Option Text × Text :=
  if List.contains s '@' then
    let host := (s.reverse.takeWhile (· ≠ '@')).reverse
    (some (s.take (s.length - host.length - 1)), host)
  else (none, s)

/-- What stands before the first colon that is not in brackets, and the rest from there on. -/
def splitPort (inBrackets : Bool) : Text → Text × Text
  | [] => ([], [])
  | c :: r =>
    if c = ':' && !inBrackets then ([], c :: r)
    else
      let (host, rest) := splitPort (c = '[' || (inBrackets && c ≠ ']')) r
      (c :: host, rest)

/-- Reads a port behind its colon, and returns the text after it: none, or one from a backslash on.
-/
def readPort (kind : Kind) : Text → Except Error (Option Nat × Text)
  | ':' :: s =>
    let digits := s.takeWhile Text.isDigit
    let rest := s.drop digits.length
    let n := Decimal.natOfDigits digits
    if 65535 < n || rest.head?.elim false (· ≠ '\\') then .error .invalidPort
    else .ok (if digits.isEmpty || kind = .server n then none else some n, rest)
  | s => .ok (none, s)

/-- Reads the host of an authority: none if it is left empty. -/
def readHost (kind : Kind) (s : Text) (hasPort : Bool) : Except Error (Option Host) :=
  if kind.isSpecial then
    if s.isEmpty then .error .emptyHost else (Host.ofSpecial s).map some
  else if s.isEmpty then if hasPort then .error .emptyHost else .ok none
  else (Host.ofPlain s).map some

/-- The name and the password of credentials, in encoded form. -/
def readCredentials (s : Text) : Text × Text :=
  let encode := Percent.encode Percent.inCredentials
  (encode (s.takeWhile (· ≠ ':')), encode ((s.dropWhile (· ≠ ':')).drop 1))

/-- Reads the authority behind two slashes, and returns the text after it. -/
def readAuthority (kind : Kind) (s : Text) : Except Error (Authority × Text) := do
  let front := s.takeWhile (!endsAuthority kind ·)
  let rest := s.dropWhile (!endsAuthority kind ·)
  let (credentials, server) := splitCredentials front
  if credentials = some [] && server.isEmpty && !rest.isEmpty then throw .emptyHost
  let (user, password) := readCredentials (credentials.getD [])
  let (hostText, portText) := splitPort false server
  let host ← readHost kind hostText (!portText.isEmpty)
  let (port, behind) ← readPort kind portText
  if host.isNone && !(user.isEmpty && password.isEmpty) then throw .emptyHost
  return (⟨user, password, host, port⟩, behind ++ rest)

/-! ## Files -/

def isSlash (c : Char) : Bool := c = '/' || c = '\\'

/-- The name of this machine, which is left out. -/
def localName : Text := "localhost".toList

/-- Reads the host of a file behind two slashes, and returns the text after it. The letter of a
drive is no host. -/
def readFileHost (s : Text) : Except Error (Option Host × Text) :=
  let front := s.takeWhile (!endsAuthority .file ·)
  if isDrive front then .ok (none, s)
  else if front.isEmpty then .ok (none, s)
  else do
    let host ← Host.ofSpecial front
    return (if host = .name localName then none else some host, s.drop front.length)

/-! ## Path, query and fragment -/

def endsPath (c : Char) : Bool := c = '?' || c = '#'

/-- The query and the fragment in a text that starts with neither or with their mark. -/
def readTail (kind : Kind) (s : Text) : Option Text × Option Text :=
  let query := s.takeWhile (· ≠ '#')
  let fragment := s.dropWhile (· ≠ '#')
  let encodeQuery := Percent.encode (Percent.inQuery kind.isSpecial)
  (if query.isEmpty then none else some (encodeQuery (query.drop 1)),
    if fragment.isEmpty then none
    else some (Percent.encode Percent.inFragment (fragment.drop 1)))

/-- The path in front of a query: made of segments behind an authority, or if it starts with a
slash. -/
def readPath (kind : Kind) (hasAuthority : Bool) (s : Text) : Path :=
  if hasAuthority then
    if s.isEmpty && !kind.isSpecial then .segments [] else .segments (segmentsOf kind s)
  else
    match s with
    | '/' :: _ => .segments (segmentsOf kind s)
    | s => .plain (Percent.encode Percent.isControl s)

/-- An address, from the text behind its authority. -/
def complete (scheme : Text) (authority : Option Authority) (s : Text) : Url :=
  let kind := Kind.of scheme
  let (query, fragment) := readTail kind (s.dropWhile (!endsPath ·))
  ⟨scheme, authority, readPath kind authority.isSome (s.takeWhile (!endsPath ·)), query, fragment⟩

/-- Reads the address of a file behind the colon. A path that leads to the letter of a drive takes
the host away. -/
def readFile (s : Text) : Except Error Url := do
  let (host, rest) ←
    match s with
    | c :: d :: r => if isSlash c && isSlash d then readFileHost r else pure (none, s)
    | _ => pure (none, s)
  let onDrive := leadsToDrive .file [] (encodedParts .file (rest.takeWhile (!endsPath ·)))
  let authority : Authority := ⟨[], [], if onDrive then none else host, none⟩
  return complete fileScheme (some authority) rest

def parse (s : Text) : Except Error Url :=
  match splitScheme? (essence s) with
  | none => .error .noScheme
  | some (scheme, rest) =>
    let kind := Kind.of scheme
    match kind with
    | .file => readFile rest
    | .server _ => do
      let (authority, rest) ← readAuthority kind (rest.dropWhile isSlash)
      return complete scheme (some authority) rest
    | .other =>
      match rest with
      | '/' :: '/' :: r => do
        let (authority, rest) ← readAuthority kind r
        return complete scheme (some authority) rest
      | _ => .ok (complete scheme none rest)

end Url
end ChatAssistant
