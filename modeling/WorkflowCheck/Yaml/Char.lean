/-!
# Characters of YAML

The classes of characters that the rules of YAML are written in.  In a text that is read here the
ends of lines have been made line feeds; the three other breaks of YAML may still stand in it.
-/

namespace WorkflowCheck.Yaml

/-- The break that a character is, the next-line character counting as a line feed. -/
def asBreak? (c : Char) : Option Char :=
  if c = '\n' ∨ c = '\u0085' then some '\n'
  else if c = '\u2028' ∨ c = '\u2029' then some c
  else none

/-- Whether a character ends a line. -/
def isBreak (c : Char) : Bool :=
  (asBreak? c).isSome

/-- Whether a character is a space or a tab. -/
def isSpaceOrTab (c : Char) : Bool :=
  c == ' ' || c == '\t'

/-- The break at the start of a text, and what follows it. -/
def break? : List Char → Option (Char × List Char)
  | c :: r => (asBreak? c).map (·, r)
  | [] => none

/-- Whether a line ends here or a space stands here. -/
def atSpace : List Char → Bool
  | [] => true
  | c :: _ => isBreak c || c == ' '

/-- Whether a line ends here or a space or tab stands here. -/
def atBlank : List Char → Bool
  | [] => true
  | c :: _ => isBreak c || isSpaceOrTab c

/-- Whether a document ends or starts here, given that a line does. -/
def atMarker : List Char → Bool
  | '-' :: '-' :: '-' :: r => atBlank r
  | '.' :: '.' :: '.' :: r => atBlank r
  | _ => false

/-- What follows the end of a line on which nothing but a comment may still stand. -/
def afterLine? (cs : List Char) : Option (List Char) :=
  let r := cs.dropWhile (· == ' ')
  let r := if r.head? = some '#' then r.dropWhile (!isBreak ·) else r
  match r with
  | [] => some []
  | c :: r => if isBreak c then some r else none

/-- The letters of names: of directives, anchors and tag handles. -/
def isNameChar (c : Char) : Bool :=
  c.isAlphanum || c == '-' || c == '_'

/-- The characters that a text may hold at all. -/
def isAllowed (c : Char) : Bool :=
  let n := c.toNat
  n == 0x09 || n == 0x0A || n == 0x0D || (0x20 ≤ n && n ≤ 0x7E) || n == 0x85
    || (0xA0 ≤ n && n ≤ 0xD7FF) || (0xE000 ≤ n && n ≤ 0xFFFD) || 0x10000 ≤ n

end WorkflowCheck.Yaml
