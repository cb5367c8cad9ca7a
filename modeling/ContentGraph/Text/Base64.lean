/-!
# Base 64

Bytes written by sixty-four characters of six bits each. The reader is
lenient: characters that are none of the sixty-four are skipped, and nothing
after the padding is read. Groups of four characters must be complete, if need
be by padding.
-/

namespace ContentGraph.Text.Base64

/-- The six bits that a character stands for. -/
def sextet? (c : Char) : Option Nat :=
  if 'A' ≤ c ∧ c ≤ 'Z' then some (c.toNat - 65)
  else if 'a' ≤ c ∧ c ≤ 'z' then some (c.toNat - 71)
  else if '0' ≤ c ∧ c ≤ '9' then some (c.toNat + 4)
  else if c = '+' then some 62
  else if c = '/' then some 63
  else none

/-- Reads on in a group of which some characters were read: the number of
them, the bits that are left of the last one, and the marks of padding since
then. -/
def decodeFrom (read left pads : Nat) : List Char → Option (List UInt8)
  | [] => if read = 0 then some [] else none
  | c :: rest =>
    if c = '=' then
      if read ≥ 2 then
        if read + pads + 1 ≥ 4 then some [] else decodeFrom read left (pads + 1) rest
      else decodeFrom read left pads rest
    else
      match sextet? c with
      | none => decodeFrom read left pads rest
      | some bits =>
        if read = 0 then decodeFrom 1 bits 0 rest
        else if read = 1 then
          (decodeFrom 2 (bits % 16) 0 rest).map (UInt8.ofNat (left * 4 + bits / 16) :: ·)
        else if read = 2 then
          (decodeFrom 3 (bits % 4) 0 rest).map (UInt8.ofNat (left * 16 + bits / 4) :: ·)
        else (decodeFrom 0 0 0 rest).map (UInt8.ofNat (left * 64 + bits) :: ·)

/-- The bytes that a text stands for. -/
def decode? (s : List Char) : Option (List UInt8) := decodeFrom 0 0 0 s

end ContentGraph.Text.Base64
