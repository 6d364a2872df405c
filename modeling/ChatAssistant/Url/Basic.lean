import ChatAssistant.Url.Host

/-!
# Addresses

An address by its parts, each in the encoded form in which it is written.
-/

namespace ChatAssistant
namespace Url

/-- Who serves an address, and for whom. -/
structure Authority where
  user : Text
  password : Text
  /-- Not there if it is left empty. -/
  host : Option Host
  /-- Not there if it is the usual one of the scheme. -/
  port : Option Nat
  deriving DecidableEq, Repr

inductive Path where
  /-- Segments, each with a slash before it. -/
  | segments (list : List Text)
  /-- A text that is not made of segments. -/
  | plain (text : Text)
  deriving DecidableEq, Repr

end Url

structure Url where
  scheme : Text
  authority : Option Url.Authority
  path : Url.Path
  query : Option Text
  fragment : Option Text
  deriving DecidableEq, Repr

namespace Url

/-! ## Schemes -/

/-- The schemes that name a server, with their usual ports. -/
def serverSchemes : List (Text × Nat) :=
  [("http".toList, 80), ("https".toList, 443), ("ws".toList, 80), ("wss".toList, 443),
    ("ftp".toList, 21)]

def fileScheme : Text := "file".toList

/-- The rules that the rest of an address follows. -/
inductive Kind where
  | server (port : Nat)
  | file
  | other
  deriving DecidableEq, Repr

def Kind.of (scheme : Text) : Kind :=
  if scheme = fileScheme then .file else (serverSchemes.lookup scheme).elim .other .server

/-- The special kinds, for which a backslash is a slash. -/
def Kind.isSpecial : Kind → Bool
  | .server _ | .file => true
  | .other => false

/-! ## Writing -/

/-- The text of an authority behind two slashes. -/
def Authority.toText (a : Authority) : Text :=
  let password := if a.password.isEmpty then [] else ':' :: a.password
  let credentials :=
    if a.user.isEmpty && a.password.isEmpty then [] else a.user ++ password ++ ['@']
  let port := a.port.elim [] fun p => ':' :: Decimal.digitsOfNat p
  credentials ++ a.host.elim [] Host.toText ++ port

def Path.toText : Path → Text
  | segments list => list.flatMap ('/' :: ·)
  | plain text => text

/-- The text of an address. A path that would look like an authority is kept apart by a segment that
is a dot. -/
def toText (u : Url) : Text :=
  let path := u.path.toText
  let hierarchy :=
    match u.authority with
    | some a => "//".toList ++ a.toText ++ path
    | none => if "//".toList.isPrefixOf path then "/.".toList ++ path else path
  u.scheme ++ [':'] ++ hierarchy ++ u.query.elim [] ('?' :: ·) ++ u.fragment.elim [] ('#' :: ·)

def hostText? (u : Url) : Option Text := (u.authority.bind (·.host)).map Host.toText

/-- What is asked of the server: the path and the query. -/
def target (u : Url) : Text := u.path.toText ++ u.query.elim [] ('?' :: ·)

end Url
end ChatAssistant
