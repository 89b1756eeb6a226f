import ErDiagram.Text.Quoted

/-!
# What can be wrong with a domain name

Most faults lie in one label. A fault that depends on where a code point stands tells its position, counted
from one, and the label as it stands for characters.
-/

namespace ErDiagram.Uri.Domain

inductive NameFault where
  /-- A name without a label. -/
  | noLabel
  | longName
  | longLabel
  | emptyLabel
  /-- Composing the characters of the label would change it. -/
  | uncomposed
  /-- Hyphens as the third and fourth character. -/
  | innerHyphens
  | outerHyphen
  | leadingMark
  | forbidden (code position : Nat) (label : List Nat)
  /-- A code point that its neighbours do not call for. -/
  | uncalled (code position : Nat) (label : List Nat)
  | uncalledJoiner (code position : Nat) (label : List Nat)
  /-- A joiner behind a character that has neither a name nor a class. -/
  | unknownNeighbour (code position : Nat) (label : List Nat)
  | unknownDirection (position : Nat) (label : List Nat)
  /-- A label that runs in no direction. -/
  | undirected (label : List Nat)
  /-- A character that a label running to the left cannot have. -/
  | againstLeft (position : Nat)
  /-- A character that a label running to the right cannot have. -/
  | againstRight (position : Nat)
  | mixedDigits
  | undirectedEnd
  /-- A label in ASCII that stands for other characters and tells none. -/
  | nothingEncoded
  /-- The same with a hyphen at its end. -/
  | encodedHyphen
  | undecodable
  /-- A label in ASCII that is not how its characters are written. -/
  | otherEncoding
  deriving DecidableEq, Repr, Inhabited

namespace NameFault

def codeNumber (code : Nat) : String :=
  "U+" ++ String.ofList ((Text.hexDigits 4 code).map Char.toUpper)

def message : NameFault → String
  | noLabel => "Empty domain"
  | longName => "Domain too long"
  | longLabel => "Label too long"
  | emptyLabel => "Empty Label"
  | uncomposed => "Label must be in Normalization Form C"
  | innerHyphens => "Label has disallowed hyphens in 3rd and 4th position"
  | outerHyphen => "Label must not start or end with a hyphen"
  | leadingMark => "Label begins with an illegal combining character"
  | forbidden code position label =>
    "Codepoint " ++ codeNumber code ++ " at position " ++ toString position ++ " of " ++
      Text.quotedCodes label ++ " not allowed"
  | uncalled code position label =>
    "Codepoint " ++ codeNumber code ++ " not allowed at position " ++ toString position ++ " in " ++
      Text.quotedCodes label
  | uncalledJoiner code position label =>
    "Joiner " ++ codeNumber code ++ " not allowed at position " ++ toString position ++ " in " ++
      Text.quotedCodes label
  | unknownNeighbour code position label =>
    "Unknown codepoint adjacent to joiner " ++ codeNumber code ++ " at position " ++
      toString position ++ " in " ++ Text.quotedCodes label
  | unknownDirection position label =>
    "Unknown directionality in label " ++ Text.quotedCodes label ++ " at position " ++
      toString position
  | undirected label =>
    "First codepoint in label " ++ Text.quotedCodes label ++ " must be directionality L, R or AL"
  | againstLeft position =>
    "Invalid direction for codepoint at position " ++ toString position ++ " in a right-to-left label"
  | againstRight position =>
    "Invalid direction for codepoint at position " ++ toString position ++ " in a left-to-right label"
  | mixedDigits => "Can not mix numeral types in a right-to-left label"
  | undirectedEnd => "Label ends with illegal codepoint directionality"
  | nothingEncoded => "Malformed A-label, no Punycode eligible content found"
  | encodedHyphen => "A-label must not end with a hyphen"
  | undecodable => "Invalid A-label"
  | otherEncoding => "A-label is not the canonical Punycode encoding of its U-label"

def kindName : NameFault → String
  | forbidden _ _ _ => "InvalidCodepoint"
  | uncalled _ _ _ | uncalledJoiner _ _ _ => "InvalidCodepointContext"
  | unknownDirection _ _ | undirected _ | againstLeft _ | againstRight _ | mixedDigits
  | undirectedEnd => "IDNABidiError"
  | _ => "IDNAError"

end NameFault

end ErDiagram.Uri.Domain
