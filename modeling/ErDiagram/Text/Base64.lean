/-!
# Base 64

Three bytes are written as four characters of six bits each. Where bytes are missing at the end, the last
characters are equals signs.
-/

namespace ErDiagram.Text.Base64

def digit (n : Nat) : Char :=
  if n < 26 then Char.ofNat (65 + n)
  else if n < 52 then Char.ofNat (71 + n)
  else if n < 62 then Char.ofNat (n - 4)
  else if n = 62 then '+'
  else '/'

def encode : List Nat → List Char
  | a :: b :: c :: rest =>
    [digit (a / 4), digit (a % 4 * 16 + b / 16), digit (b % 16 * 4 + c / 64), digit (c % 64)] ++
      encode rest
  | [a, b] => [digit (a / 4), digit (a % 4 * 16 + b / 16), digit (b % 16 * 4), '=']
  | [a] => [digit (a / 4), digit (a % 4 * 16), '=', '=']
  | [] => []

example : encode [0x75, 0x3A, 0x70] = ['d', 'T', 'p', 'w'] := by decide +kernel
example : encode [0x75, 0x3A] = ['d', 'T', 'o', '='] := by decide +kernel

end ErDiagram.Text.Base64
