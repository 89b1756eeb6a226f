import ErDiagram.Text.Quoted

/-!
# What can be wrong with an address
-/

namespace ErDiagram.Uri

inductive AddressFault where
  | tooLong
  /-- A part that became too long when its characters were escaped. -/
  | partTooLong (part : String)
  | control (c : Char) (position : Nat)
  | notIpv4 (host : String)
  | notIpv6 (host : String)
  | notName (host : String)
  | notPort (port : String)
  /-- Behind a host there is a path that does not begin with a slash. -/
  | unrooted
  /-- A path alone begins with two slashes. -/
  | doubleSlash
  /-- A path alone begins with a colon. -/
  | leadingColon
  deriving DecidableEq, Repr, Inhabited

namespace AddressFault

def message : AddressFault → String
  | tooLong => "URL too long"
  | partTooLong part => "URL component '" ++ part ++ "' too long"
  | control c position =>
    "Invalid non-printable ASCII character in URL, " ++ Text.quoted (String.ofList [c]) ++
      " at position " ++ toString position ++ "."
  | notIpv4 host => "Invalid IPv4 address: " ++ Text.quoted host
  | notIpv6 host => "Invalid IPv6 address: " ++ Text.quoted host
  | notName host => "Invalid IDNA hostname: " ++ Text.quoted host
  | notPort port => "Invalid port: " ++ Text.quoted port
  | unrooted => "For absolute URLs, path must be empty or begin with '/'"
  | doubleSlash => "Relative URLs cannot have a path starting with '//'"
  | leadingColon => "Relative URLs cannot have a path starting with ':'"

end AddressFault

end ErDiagram.Uri
