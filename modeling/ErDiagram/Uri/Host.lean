import ErDiagram.Text.Lowercase
import ErDiagram.Text.Split
import ErDiagram.Uri.Domain.Name
import ErDiagram.Uri.Escape
import ErDiagram.Uri.Fault

/-!
# Hosts

A host is named, or it is given by its number: in four decimal parts, or inside brackets in parts of four
hexadecimal digits. Names are written in small letters and in ASCII.
-/

namespace ErDiagram.Uri

/-- Whether a text is a number below 256 without zeros in front. -/
def isOctet (cs : List Char) : Bool :=
  !cs.isEmpty && cs.length ≤ 3 && cs.all Char.isDigit && (cs == ['0'] || cs.head? != some '0') &&
    cs.foldl (fun n c => n * 10 + (c.toNat - 48)) 0 ≤ 255

/-- Whether a text is the number of a host in four decimal parts. -/
def isIpv4 (cs : List Char) : Bool :=
  let parts := Text.splitMark '.' cs
  parts.length == 4 && parts.all isOctet

/-- Whether a text is a part of up to four hexadecimal digits. -/
def isGroup (cs : List Char) : Bool :=
  !cs.isEmpty && cs.length ≤ 4 && cs.all fun c => (Text.hexValue? c).isSome

/-- Groups at one end of a number that leaves out a run of zeros; none of them are one empty part. -/
def endGroups (parts : List (List Char)) : List (List Char) :=
  if parts = [[]] then [] else parts

/-- Whether parts are the eight groups of a number, a run of zeros being left out between two colons at
most once. -/
def areGroups (parts : List (List Char)) : Bool :=
  let inner := (parts.drop 1).dropLast
  if inner.contains [] then
    let front := parts.take (1 + (inner.takeWhile (· ≠ [])).length)
    let back := parts.drop (front.length + 1)
    let given := endGroups front ++ endGroups back
    given.all isGroup && given.length < 8
  else parts.length == 8 && parts.all isGroup

/-- The parts of a number, where a decimal number at the end counts for two groups. -/
def groupParts (cs : List Char) : List (List Char) :=
  let parts := Text.splitMark ':' cs
  match parts.getLast? with
  | some last => if isIpv4 last then parts.dropLast ++ [['0'], ['0']] else parts
  | none => parts

/-- Whether a text is the number of a host in hexadecimal groups, and perhaps its zone behind a percent
sign. -/
def isIpv6 (cs : List Char) : Bool :=
  let (number, zone) := Text.splitFirst '%' cs
  2 ≤ (number.filter (· == ':')).length && areGroups (groupParts number) &&
    !cs.contains '/' && !zone.any fun name => name.isEmpty || name.contains '%'

/-- Whether a text is written as a number in four decimal parts. -/
def looksDecimal (cs : List Char) : Bool :=
  let parts := Text.splitMark '.' cs
  parts.length == 4 && parts.all fun part => !part.isEmpty && part.all Char.isDigit

/-- A host as it is written in an address, without brackets. -/
def plainHost (cs : List Char) : Except AddressFault (List Char) :=
  if looksDecimal cs then
    if isIpv4 cs then .ok cs else .error (.notIpv4 (String.ofList cs))
  else if cs.head? = some '[' ∧ cs.getLast? = some ']' then
    let inner := (cs.drop 1).dropLast
    if isIpv6 inner then .ok inner else .error (.notIpv6 (String.ofList cs))
  else if cs.all fun c => c.toNat < 0x80 then
    .ok (escaped staysInHost (cs.map Char.toLower))
  else
    match Domain.plainName (Text.lowercase cs) with
    | .ok name => .ok name
    | .error _ => .error (.notName (String.ofList cs))

example : isIpv4 "127.0.0.1".toList ∧ ¬ isIpv4 "127.0.0.01".toList := by decide +kernel
example : isIpv6 "::1".toList ∧ isIpv6 "1::ffff:1.2.3.4".toList ∧ ¬ isIpv6 "1::2::3".toList := by
  decide +kernel

end ErDiagram.Uri
