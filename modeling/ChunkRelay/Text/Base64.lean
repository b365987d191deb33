/-! # Base 64

Bytes written as characters of six bits each. Characters that are no digits are passed over. The
last digits are filled up with padding, and what comes after enough of it does not count.
-/

namespace ChunkRelay.Base64

def digit? (c : Char) : Option Nat :=
  if 'A' ≤ c && c ≤ 'Z' then some (c.toNat - 'A'.toNat)
  else if 'a' ≤ c && c ≤ 'z' then some (c.toNat - 'a'.toNat + 26)
  else if '0' ≤ c && c ≤ '9' then some (c.toNat - '0'.toNat + 52)
  else if c = '+' then some 62
  else if c = '/' then some 63
  else none

/-- The digits up to the end of the text or to enough padding. Padding is counted from the latest
digit on and is enough as soon as it completes a group of four that has two digits. -/
def digits? (seen padding : Nat) : List Char → Option (List Nat)
  | [] => if seen % 4 = 0 then some [] else none
  | c :: rest =>
    if c = '=' then
      if 2 ≤ seen % 4 && 4 ≤ seen % 4 + padding + 1 then some []
      else digits? seen (if 2 ≤ seen % 4 then padding + 1 else padding) rest
    else
      match digit? c with
      | some d => (digits? (seen + 1) 0 rest).map (d :: ·)
      | none => digits? seen padding rest

def bytesOf : List Nat → List UInt8
  | a :: b :: c :: d :: rest =>
    UInt8.ofNat (a * 4 + b / 16) :: UInt8.ofNat (b % 16 * 16 + c / 4)
      :: UInt8.ofNat (c % 4 * 64 + d) :: bytesOf rest
  | [a, b, c] => [UInt8.ofNat (a * 4 + b / 16), UInt8.ofNat (b % 16 * 16 + c / 4)]
  | [a, b] => [UInt8.ofNat (a * 4 + b / 16)]
  | _ => []

def decode? (text : List Char) : Option (List UInt8) := (digits? 0 0 text).map bytesOf

end ChunkRelay.Base64
