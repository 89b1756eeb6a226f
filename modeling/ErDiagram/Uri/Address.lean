import ErDiagram.Text.Base64
import ErDiagram.Uri.Host
import ErDiagram.Uri.Path
import ErDiagram.Uri.Port

/-!
# Addresses

An address has a scheme, an authority that tells the user, the host and the port, a path, a query and a
fragment. Each may be absent. `RawAddress.ofText` cuts a text at the marks between these parts and
`RawAddress.checked` brings each part to its plain form or finds the fault in it.

A base address leads to others: `Address.resolve` reads a text either as an address of its own or as the
rest of the base address.
-/

namespace ErDiagram.Uri

/-- An address cut into its parts, with nothing checked. -/
structure RawAddress where
  scheme : List Char
  authority : List Char
  path : List Char
  query : Option (List Char)
  fragment : Option (List Char)
  deriving DecidableEq, Repr

/-- An address whose parts are in their plain form. -/
structure Address where
  scheme : List Char
  user : List Char
  host : List Char
  port : Option Int
  path : List Char
  query : Option (List Char)
  fragment : Option (List Char)
  deriving DecidableEq, Repr, Inhabited

/-- The longest text of an address, and of one part of it. -/
def longestAddress : Nat := 65536

namespace RawAddress

/-- The characters of a scheme behind its first letter. -/
def isSchemeChar (c : Char) : Bool :=
  c.isAlphanum || c == '+' || c == '.' || c == '-'

/-- Splits off a scheme in front of a colon. It can be empty. -/
def splitScheme (cs : List Char) : List Char × List Char :=
  let scheme := cs.takeWhile isSchemeChar
  match cs.drop scheme.length with
  | ':' :: rest => if scheme.head?.all Char.isAlpha then (scheme, rest) else ([], cs)
  | _ => ([], cs)

/-- Splits off what stands in front of the first mark. -/
def splitBefore (isMark : Char → Bool) (cs : List Char) : List Char × List Char :=
  (cs.takeWhile (!isMark ·), cs.dropWhile (!isMark ·))

/-- Splits off an authority, which two slashes announce. -/
def splitAuthority : List Char → List Char × List Char
  | '/' :: '/' :: rest => splitBefore (['/', '?', '#'].contains ·) rest
  | cs => ([], cs)

def splitMarked (mark : Char) (ends : Char → Bool) : List Char → Option (List Char) × List Char
  | [] => (none, [])
  | c :: rest =>
    if c = mark then
      let (part, more) := splitBefore ends rest
      (some part, more)
    else (none, c :: rest)

def ofText (cs : List Char) : RawAddress :=
  let (scheme, afterScheme) := splitScheme cs
  let (authority, afterAuthority) := splitAuthority afterScheme
  let (path, afterPath) := splitBefore (['?', '#'].contains ·) afterAuthority
  let (query, afterQuery) := splitMarked '?' (· == '#') afterPath
  let (fragment, _) := splitMarked '#' (fun _ => false) afterQuery
  ⟨scheme, authority, path, query, fragment⟩

/-- Splits an authority at the last mark behind what tells of the user. -/
def splitUser (authority : List Char) : List Char × List Char :=
  let location := (authority.reverse.takeWhile (· != '@')).reverse
  ((authority.take (authority.length - location.length)).dropLast, location)

/-- Splits the host from the port. A colon inside brackets belongs to the host. -/
def splitHost (location : List Char) : List Char × List Char :=
  let size :=
    if location.head? = some '[' ∧ location.contains ']' then
      location.length - (location.reverse.takeWhile (· != ']')).length
    else (location.takeWhile (· != ':')).length
  (location.take size,
    match location.drop size with
    | ':' :: port => port
    | port => port)

/-- The port of an address with a scheme as it was written; none when the scheme implies it. -/
def plainPort (scheme port : List Char) : Except AddressFault (Option Int) :=
  if port = [] then .ok none
  else match Port.read? port with
    | some n => .ok (if Port.implied? scheme = some n then none else some n)
    | none => .error (.notPort (String.ofList port))

/-- The path of an address. Its steps are taken where it begins at a place that is known. -/
def checkedPath (hasScheme hasAuthority : Bool) (path : List Char) :
    Except AddressFault (List Char) :=
  if hasAuthority then
    if path = [] ∨ path.head? = some '/' then .ok (plainPath path) else .error .unrooted
  else if hasScheme then .ok (plainPath path)
  else if ['/', '/'].isPrefixOf path then .error .doubleSlash
  else if path.head? = some ':' then .error .leadingColon
  else .ok path

def checked (raw : RawAddress) : Except AddressFault Address := do
  let (user, location) := splitUser raw.authority
  let (host, port) := splitHost location
  let host ← plainHost host
  let port ← plainPort raw.scheme port
  let hasAuthority := !user.isEmpty || !host.isEmpty || port.isSome
  let path ← checkedPath (!raw.scheme.isEmpty) hasAuthority raw.path
  return {
    scheme := raw.scheme.map Char.toLower
    user := escaped staysInUser user
    host := host
    port := port
    path := escaped staysInPath path
    query := raw.query.map (escaped staysInQuery)
    fragment := raw.fragment.map (escaped staysInFragment) }

def parts (raw : RawAddress) : List (String × List Char) :=
  [("scheme", raw.scheme), ("authority", raw.authority), ("path", raw.path),
    ("query", raw.query.getD []), ("fragment", raw.fragment.getD [])]

end RawAddress

namespace Address

def isControl (c : Char) : Bool := c.toNat < 0x20 || c.toNat == 0x7F

def ofText (text : String) : Except AddressFault Address :=
  let cs := text.toList
  if longestAddress < cs.length then .error .tooLong
  else match cs.find? isControl with
    | some c => .error (.control c (cs.takeWhile (!isControl ·)).length)
    | none => (RawAddress.ofText cs).checked

def location (a : Address) : List Char :=
  (if a.host.contains ':' then '[' :: a.host ++ [']'] else a.host) ++
    match a.port with
    | some port => ':' :: (toString port).toList
    | none => []

def authority (a : Address) : List Char :=
  (if a.user.isEmpty then [] else a.user ++ ['@']) ++ a.location

def marked (mark : Char) : Option (List Char) → List Char
  | some part => mark :: part
  | none => []

def text (a : Address) : String :=
  let scheme := if a.scheme.isEmpty then [] else a.scheme ++ [':']
  let authority := if a.authority.isEmpty then [] else '/' :: '/' :: a.authority
  String.ofList (scheme ++ authority ++ a.path ++ marked '?' a.query ++ marked '#' a.fragment)

/-- What is asked for at the host: the path and the query. -/
def target (a : Address) : List Char :=
  (if a.path.isEmpty then ['/'] else a.path) ++ marked '?' a.query

def withTarget (a : Address) (target : List Char) : Except AddressFault Address :=
  let (path, query) := Text.splitFirst '?' target
  let raw : RawAddress := ⟨a.scheme, a.authority, path, query, a.fragment⟩
  match raw.parts.find? fun part => longestAddress < part.2.length with
  | some part => .error (.partTooLong part.1)
  | none => raw.checked

/-- The address with a slash at the end of its target. -/
def closed (a : Address) : Except AddressFault Address :=
  if a.target.getLast? = some '/' then .ok a else a.withTarget (a.target ++ ['/'])

def baseOfText (text : String) : Except AddressFault Address := do
  (← ofText text).closed

/-- The address that a text leads to from a base address. A text without scheme or host is the rest of the
target. -/
def resolve (base : Address) (text : String) : Except AddressFault Address := do
  let read ← ofText text
  if !read.scheme.isEmpty && !read.host.isEmpty then return read
  base.withTarget (base.target ++ read.target.dropWhile (· == '/'))

/-- What an address tells a service about the user: the name and the password, if there is any of them. -/
def credentials? (a : Address) : Option String :=
  let (name, password) := Text.splitFirst ':' a.user
  let name := decodeShown name
  let password := decodeShown (password.getD [])
  if name.isEmpty && password.isEmpty then none
  else some ("Basic " ++
    String.ofList (Text.Base64.encode (Text.utf8Bytes (name ++ ':' :: password))))

/-- The text of an address without a mark at its end that announces nothing. -/
def shown (a : Address) : String :=
  let cs := a.text.toList
  String.ofList (if cs.getLast? = some '#' then cs.dropLast else cs)

/-- Checks that the name of the host can be read back. -/
def checkReadable (a : Address) : Except Domain.NameFault Unit :=
  Domain.checkReadable a.host

/-- Whether the text of an address begins with a word and a colon. -/
def saysKind (a : Address) : Bool :=
  let cs := a.text.toList
  let word := cs.takeWhile fun c => c != '/' && c != ':'
  !word.isEmpty && (cs.drop word.length).head? == some ':'

end Address

end ErDiagram.Uri
