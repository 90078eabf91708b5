/-!
# Bytes as letters

Base 64 gives six bits to each of its letters, so four letters are three bytes.  Reading is lenient:
characters that are no letters of base 64 are passed over, and reading ends once equals signs have
filled up the last four letters.
-/

namespace WorkflowCheck.Text

/-- The bits of a letter. -/
def sixBits? (c : Char) : Option Nat :=
  if 'A' ≤ c ∧ c ≤ 'Z' then some (c.toNat - 'A'.toNat)
  else if 'a' ≤ c ∧ c ≤ 'z' then some (c.toNat - 'a'.toNat + 26)
  else if c.isDigit then some (c.toNat - '0'.toNat + 52)
  else if c = '+' then some 62
  else if c = '/' then some 63
  else none

/-- The letters that count, as bits, given how many of the last four and of the equals signs behind them
have been read; none if the text ends in the midst of four. -/
def base64Bits? : Nat → Nat → List Char → Option (List Nat)
  | letters, _, [] => if letters = 0 then some [] else none
  | letters, signs, c :: r =>
    if c = '=' then
      if 2 ≤ letters then
        if 4 ≤ letters + signs + 1 then some [] else base64Bits? letters (signs + 1) r
      else base64Bits? letters signs r
    else
      match sixBits? c with
      | none => base64Bits? letters signs r
      | some bits => (base64Bits? ((letters + 1) % 4) 0 r).map (bits :: ·)

/-- The bytes of letters; bits that fill up no byte are dropped. -/
def bytesOfBits : List Nat → List UInt8
  | a :: b :: c :: d :: r =>
    let n := ((a * 64 + b) * 64 + c) * 64 + d
    .ofNat (n / 65536) :: .ofNat (n / 256 % 256) :: .ofNat (n % 256) :: bytesOfBits r
  | [a, b, c] =>
    let n := (a * 64 + b) * 64 + c
    [.ofNat (n / 1024), .ofNat (n / 4 % 256)]
  | [a, b] => [.ofNat ((a * 64 + b) / 16)]
  | _ => []

/-- The bytes that a text in base 64 stands for. -/
def base64? (text : String) : Option (List UInt8) :=
  (base64Bits? 0 0 text.toList).map bytesOfBits

end WorkflowCheck.Text
