import ErDiagram.Uri.Reach

/-!
# Routes of the service

Each endpoint of the service has one path and one method. The target of a request is an address of its own
or leads on from the root of the service. Its path is decoded before it is looked at, so an escaped slash
divides segments like any other.
-/

namespace ErDiagram

inductive Endpoint where
  | health
  | graph
  | refresh
  | layout
  | relationships (table : String)
  | context
  | schema
  | database
  | signals
  | samples
  deriving DecidableEq, Repr

/-- Where a request leads. -/
inductive Route where
  | endpoint (endpoint : Endpoint)
  | methodNotAllowed
  /-- To the same path with or without a slash at its end. -/
  | redirect
  | notFound
  deriving DecidableEq, Repr

/-- The capitals of a letter. Of the letters beyond ASCII these have the capitals of methods. -/
def capitals : Char → List Char
  | 'ſ' => ['S']
  | 'ﬅ' | 'ﬆ' => ['S', 'T']
  | c => [c.toUpper]

/-- The plain form of a method, whose letters can be of either case. -/
def plainMethod (method : String) : String :=
  String.ofList (method.toList.flatMap capitals)

namespace Endpoint

def method : Endpoint → String
  | health => "GET"
  | graph => "GET"
  | refresh => "POST"
  | layout => "PUT"
  | relationships _ => "GET"
  | context => "GET"
  | schema => "PUT"
  | database => "PUT"
  | signals => "GET"
  | samples => "GET"

def ofSegments? : List String → Option Endpoint
  | ["", "health"] => some health
  | ["", "api", "v1", "graph"] => some graph
  | ["", "api", "v1", "graph", "refresh"] => some refresh
  | ["", "api", "v1", "graph", "layout"] => some layout
  | ["", "api", "v1", "graph", "tables", table, "relationships"] =>
    if table = "" then none else some (relationships table)
  | ["", "api", "v1", "context"] => some context
  | ["", "api", "v1", "context", "schema"] => some schema
  | ["", "api", "v1", "context", "database"] => some database
  | ["", "api", "v1", "signals"] => some signals
  | ["", "api", "v1", "samples"] => some samples
  | _ => none

/-- The endpoint of a path, exactly as it stands. -/
def ofExactPath? (path : List Char) : Option Endpoint :=
  ofSegments? ((Uri.segments path).map String.ofList)

def withoutBreak (path : List Char) : List Char :=
  if path.getLast? = some '\n' then path.dropLast else path

/-- The endpoint of a path. A line break at its end is overlooked. -/
def ofPath? (path : List Char) : Option Endpoint :=
  ofExactPath? path <|> ofExactPath? (withoutBreak path)

end Endpoint

namespace Route

/-- The path with its end changed from a slash to none, or from none to a slash. -/
def toggled (path : List Char) : List Char :=
  if path.getLast? = some '/' then (path.reverse.dropWhile (· == '/')).reverse else path ++ ['/']

/-- Where a request of a method for a decoded path leads. -/
def ofPath (method : String) (path : List Char) : Route :=
  match Endpoint.ofPath? path with
  | some place => if method = place.method then .endpoint place else .methodNotAllowed
  | none => if (Endpoint.ofPath? (toggled path)).isSome then .redirect else .notFound

/-- The address that clients know the service by. -/
def root : Uri.Address where
  scheme := "http".toList
  user := []
  host := "service".toList
  port := none
  path := ['/']
  query := none
  fragment := none

/-- Where a request of a method for a target leads. -/
def ofTarget (method target : String) : Except Fault Route := do
  let address ← root.reach none target
  let path := if address.path.isEmpty then ['/'] else address.path
  return ofPath method (Uri.decodeShown path)

end Route

end ErDiagram
