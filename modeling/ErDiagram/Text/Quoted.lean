import ErDiagram.Text.CodePoint
import ErDiagram.Text.Hexadecimal
import ErDiagram.Text.Printable

/-!
# Quoted names in messages

A name in a message stands between apostrophes, or between double quotes when it holds an apostrophe and
no double quote. Inside, the enclosing mark and the backslash are preceded by a backslash, and what does
not print is written by its code point in hexadecimal. Names are given by their code points, which need
not all be characters.
-/

namespace ErDiagram.Text

def apostrophe : Char := '\x27'
def doubleQuote : Char := '\x22'
def backslash : Char := '\x5c'

def quoteMark (codes : List Nat) : Char :=
  if codes.contains apostrophe.toNat && !codes.contains doubleQuote.toNat then doubleQuote
  else apostrophe

/-- A code point in hexadecimal, of the least width that holds it. -/
def escapeCode (code : Nat) : List Char :=
  if code < 0x100 then backslash :: 'x' :: hexDigits 2 code
  else if code < 0x10000 then backslash :: 'u' :: hexDigits 4 code
  else backslash :: 'U' :: hexDigits 8 code

/-- One code point as it stands between two quote marks. -/
def escapeInside (mark : Char) (code : Nat) : List Char :=
  if code = mark.toNat ∨ code = backslash.toNat then [backslash, Char.ofNat code]
  else if code = '\n'.toNat then [backslash, 'n']
  else if code = '\r'.toNat then [backslash, 'r']
  else if code = '\t'.toNat then [backslash, 't']
  else if prints code then [Char.ofNat code]
  else escapeCode code

def quotedCodes (codes : List Nat) : String :=
  let mark := quoteMark codes
  String.ofList (mark :: codes.flatMap (escapeInside mark) ++ [mark])

def quoted (text : String) : String := quotedCodes (codesOf text)

example : quoted "users" = "'users'" := by decide +kernel
example : quoted "it's" = "\"it's\"" := by decide +kernel
example : quotedCodes [0x61, 0xD800] = "'a\\ud800'" := by decide +kernel

end ErDiagram.Text
