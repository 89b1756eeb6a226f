import ErDiagram.Text.Hexadecimal
import ErDiagram.Text.Utf8

/-!
# Escapes in addresses

A byte can be written in an address as a percent sign and two digits. Each part of an address has the
characters that stay as they are in it; `escaped` writes every other character by the bytes of its UTF-8
form. Reading goes by bytes too, so `decodeShown` marks bytes that are no text.
-/

namespace ErDiagram.Uri

/-- The characters that stand for themselves everywhere in an address. -/
def isUnreserved (b : Nat) : Bool :=
  let c := Char.ofNat b
  b < 0x80 && (c.isAlphanum || c == '_' || c == '.' || c == '-' || c == '~')

def percentTriple (b : Nat) : List Char :=
  ['%', Text.hexDigit (b / 16), Text.hexDigit (b % 16)]

/-- A text in which the characters that do not stay are escaped. -/
def escaped (stays : Char → Bool) (cs : List Char) : List Char :=
  cs.flatMap fun c => if stays c then [c] else (Text.utf8Bytes [c]).flatMap percentTriple

def isVisible (c : Char) : Bool := 0x20 < c.toNat && c.toNat < 0x7F

def staysInFragment (c : Char) : Bool :=
  isVisible c && !(['\x22', '<', '>', '\x60'].contains c)

def staysInQuery (c : Char) : Bool :=
  isVisible c && !(['\x22', '#', '<', '>'].contains c)

def staysInPath (c : Char) : Bool :=
  staysInQuery c && !(['?', '\x60', '\x7b', '\x7d'].contains c)

/-- The characters that stay in what tells of the user. -/
def staysInUser (c : Char) : Bool :=
  staysInPath c && !(['/', ';', '=', '@', '[', '\x5c', ']', '^', '|'].contains c)

def staysInHost (c : Char) : Bool :=
  isUnreserved c.toNat ||
    ['!', '$', '&', '\x27', '(', ')', '*', '+', ',', ';', '=', '\x22', '\x60', '\x7b', '\x7d', '%', '|',
      '\x5c'].contains c

/-- The bytes that escaped characters stand for. A percent sign without two digits stands for itself. -/
def unescape : List Char → List Nat
  | [] => []
  | '%' :: a :: b :: rest =>
    match Text.hexValue? a, Text.hexValue? b with
    | some high, some low => (high * 16 + low) :: unescape rest
    | _, _ => 0x25 :: unescape (a :: b :: rest)
  | c :: rest => Text.utf8Bytes [c] ++ unescape rest
  termination_by cs => cs.length

/-- The text that an escaped text stands for, with a mark where its bytes are no text. -/
def decodeShown (cs : List Char) : List Char :=
  Text.utf8Shown (unescape cs)

theorem escaped_eq_self {stays : Char → Bool} {cs : List Char} (h : ∀ c ∈ cs, stays c) :
    escaped stays cs = cs := by
  induction cs with
  | nil => rfl
  | cons c rest ih =>
    have tail : escaped stays rest = rest := ih fun x hx => h x (by simp [hx])
    simp only [escaped, List.flatMap_cons] at tail ⊢
    simp [h c (by simp), tail]

end ErDiagram.Uri
