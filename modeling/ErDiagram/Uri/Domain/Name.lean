import ErDiagram.Text.Split
import ErDiagram.Uri.Domain.Composition
import ErDiagram.Uri.Domain.Context
import ErDiagram.Uri.Domain.Direction
import ErDiagram.Uri.Domain.Punycode

/-!
# Domain names

A domain name consists of labels between dots. A name with characters beyond ASCII is written in ASCII
label by label, and each of its labels has to pass the rules for labels, also one that is in ASCII already.
A name in ASCII whose first label stands for other characters can be read back, and then all its labels
have to pass. The first rule that a label breaks is the one that is told.
-/

namespace ErDiagram.Uri.Domain

/-- The dots of all scripts. -/
def isDot (c : Char) : Bool :=
  c == '.' || c == '。' || c == '．' || c == '｡'

/-- What a label in ASCII that stands for other characters begins with. -/
def encodedMark : List Char := ['x', 'n', '-', '-']

def longestLabel : Nat := 63

def longestName : Nat := 253

/-- What is wrong with a code point between those in front, which come in reverse, and those behind: it
has to be permitted where it stands. -/
def codeFault? (before : List Nat) (code : Nat) (after : List Nat) : Option NameFault :=
  let position := before.length + 1
  let label := before.reverse ++ code :: after
  if isPermitted code then none
  else if isJoiner code && before.head?.any isNameless then
    some (.unknownNeighbour code position label)
  else if isCalledFor before code after then none
  else if isJoiner code then some (.uncalledJoiner code position label)
  else if needsNeighbours code then some (.uncalled code position label)
  else some (.forbidden code position label)

/-- Checks the code points behind those in front, which come in reverse. -/
def checkCodes : (before : List Nat) → List Nat → Except NameFault Unit
  | _, [] => .ok ()
  | before, code :: rest =>
    match codeFault? before code rest with
    | some fault => .error fault
    | none => checkCodes (code :: before) rest

def checkLabel (codes : List Nat) : Except NameFault Unit := do
  if codes = [] then throw .emptyLabel
  if !isComposed codes then throw .uncomposed
  if (codes.drop 2).take 2 = [0x2D, 0x2D] then throw .innerHyphens
  if codes.head? = some 0x2D ∨ codes.getLast? = some 0x2D then throw .outerHyphen
  if codes.head?.any Text.isMark then throw .leadingMark
  checkCodes [] codes
  checkDirections codes

/-- The code points that a label in ASCII stands for. -/
def readLabel (cs : List Char) : Except NameFault (List Nat) := do
  let small := cs.map Char.toLower
  if encodedMark.isPrefixOf small then
    let rest := small.drop encodedMark.length
    if rest = [] then throw .nothingEncoded
    if rest.getLast? = some '-' then throw .encodedHyphen
    match Punycode.decode? rest with
    | none => throw .undecodable
    | some codes =>
      if Punycode.encode codes ≠ rest then throw .otherEncoding
      checkLabel codes
      return codes
  else
    let codes := small.map Char.toNat
    checkLabel codes
    return codes

def plainLabel (cs : List Char) : Except NameFault (List Char) := do
  let codes := cs.map Char.toNat
  let plain ←
    if codes.all (· < 0x80) then do
      let _ ← readLabel cs
      pure cs
    else do
      checkLabel codes
      pure (encodedMark ++ Punycode.encode codes)
  if longestLabel < plain.length then throw .longLabel
  return plain

/-- The labels of a name, and whether a dot stands at its end. -/
def labels (name : List Char) : List (List Char) × Bool :=
  let parts := Text.splitWhere isDot name
  if parts.getLast? = some [] then (parts.dropLast, true) else (parts, false)

/-- A name in small letters in ASCII. A dot may stand at the end. -/
def plainName (cs : List Char) : Except NameFault (List Char) := do
  let (labels, dotted) := labels cs
  if labels = [] then throw .noLabel
  let name := List.intercalate ['.'] (← labels.mapM plainLabel)
  if longestName < name.length then throw .longName
  return if dotted then name ++ ['.'] else name

/-- Checks that a name can be read back if its first label stands for other characters. No name is longer
than the longest one with a dot at its end. -/
def checkReadable (name : List Char) : Except NameFault Unit := do
  if encodedMark.isPrefixOf name then
    if longestName + 1 < name.length then throw .longName
    for label in (labels name).1 do
      let _ ← readLabel label

end ErDiagram.Uri.Domain
