/-!
# Surrogates

An escape may name half of a character that is written as two units.  Such a surrogate, when it stays
alone, stands in a text as a private-use character: the one a whole number of planes further on, in
the last plane.  It is written out as the escape that it was.  A text that holds one of these 2048
characters itself, from U+10D800 to U+10DFFF, is therefore taken for one with a lone surrogate.
-/

namespace WorkflowCheck.Text

/-- Whether a number is that of a surrogate. -/
def isSurrogate (n : Nat) : Bool :=
  0xD800 ≤ n && n < 0xE000

/-- The character of a code point; a surrogate is given the one that stands for it, which is also the
character of a code point of its own. -/
def charOfCode (n : Nat) : Char :=
  if isSurrogate n then Char.ofNat (0x100000 + n) else Char.ofNat n

/-- The surrogate that a character stands for. -/
def surrogate? (c : Char) : Option Nat :=
  if 0x100000 ≤ c.toNat && isSurrogate (c.toNat - 0x100000) then some (c.toNat - 0x100000) else none

/-- The first of the two units that a code point beyond the first plane is written as. -/
def highHalf (n : Nat) : Nat :=
  0xD800 + (n - 0x10000) / 0x400

/-- The second one. -/
def lowHalf (n : Nat) : Nat :=
  0xDC00 + (n - 0x10000) % 0x400

/-- Whether a text holds a lone surrogate. -/
def holdsSurrogate (s : String) : Bool :=
  s.toList.any fun c => (surrogate? c).isSome

end WorkflowCheck.Text
