import WorkflowCheck.Text.Portion
import WorkflowCheck.Yaml.Scalar

/-!
# Tokens of YAML

The words of a YAML text, among them those that its indentation stands for.  A key without an
indicator is known for a key only when the colon behind it is met; so the place of whatever may turn
out to be one is remembered, and the token of the key is put in there later.
-/

namespace WorkflowCheck.Yaml

/-- A word of a YAML text. -/
inductive Token where
  | versionDirective (major : Nat)
  | tagDirective (handle tag : String)
  | otherDirective
  | documentStart
  | documentEnd
  | textEnd
  | blockSequenceStart
  | blockMappingStart
  | blockEnd
  | flowSequenceStart
  | flowSequenceEnd
  | flowMappingStart
  | flowMappingEnd
  | blockEntry
  | flowEntry
  | key
  | value
  | alias (name : String)
  | anchor (name : String)
  | tag (handle : Option String) (suffix : String)
  /-- A scalar; a plain one has no quotes and is no block. -/
  | scalar (text : String) (plain : Bool)
  deriving DecidableEq, Repr

/-! ### Words of a single line -/

/-- A name of letters at the start of a text, and what follows it. -/
def name? (cs : List Char) : Option (List Char × List Char) :=
  let name := cs.takeWhile isNameChar
  if name.isEmpty then none else some (name, cs.dropWhile isNameChar)

/-- The name behind the indicator of an anchor or an alias, and what follows it. -/
def anchorName? (cs : List Char) : Option (String × List Char) := do
  let (name, r) ← name? cs
  if atBlank r || r.head?.any ("?:,]\x7d%@\x60".toList.contains ·) then
    some (String.ofList name, r)
  else none

/-- The characters of a tag. -/
def isTagChar (c : Char) : Bool :=
  c.isAlphanum || "-;/?:@&=+$,_.!~*'()[]%".toList.contains c

/-- The bytes of a run of escapes, and what follows them. -/
def escapedBytes? : List Char → Option (List UInt8 × List Char)
  | '%' :: a :: b :: r => do
    let x ← Json.Token.hexDigit? a
    let y ← Json.Token.hexDigit? b
    let (bytes, rest) ← escapedBytes? r
    return (UInt8.ofNat (16 * x + y) :: bytes, rest)
  | '%' :: _ => none
  | r => some ([], r)

/-- The characters of a tag with its escapes read, and what follows it. -/
def tagChars? : Nat → List Char → Option (List Char × List Char)
  | 0, cs => some ([], cs)
  | steps + 1, cs =>
    match cs with
    | [] => some ([], [])
    | '%' :: _ => do
      let (bytes, r) ← escapedBytes? cs
      let text ← String.fromUTF8? ⟨bytes.toArray⟩
      let (more, rest) ← tagChars? steps r
      return (text.toList ++ more, rest)
    | c :: r =>
      if isTagChar c then do
        let (more, rest) ← tagChars? steps r
        return (c :: more, rest)
      else some ([], cs)

/-- A tag that is not empty, and what follows it. -/
def tagText? (cs : List Char) : Option (String × List Char) := do
  let (text, r) ← tagChars? cs.length cs
  if text.isEmpty then none else some (String.ofList text, r)

/-- A tag handle between exclamation marks, or a single one before a blank, and what follows it. -/
def tagHandle? : List Char → Option (String × List Char)
  | '!' :: r =>
    if r.head? = some ' ' then some ("!", r)
    else
      match r.dropWhile isNameChar with
      | '!' :: rest => some (String.ofList ('!' :: r.takeWhile isNameChar ++ ['!']), rest)
      | _ => none
  | _ => none

/-- The tag that starts here, and what follows it. -/
def tagToken? (cs : List Char) : Option (Token × List Char) := do
  let (token, r) ←
    match cs with
    | '!' :: '<' :: r => do
      let (text, r) ← tagText? r
      match r with
      | '>' :: r => pure (Token.tag none text, r)
      | _ => none
    | '!' :: r =>
      if atBlank r then pure (Token.tag none "!", r)
      else if (r.takeWhile fun c => !isBreak c && c != ' ').contains '!' then do
        let (handle, r) ← tagHandle? cs
        let (text, r) ← tagText? r
        pure (Token.tag (some handle) text, r)
      else do
        let (text, r) ← tagText? r
        pure (Token.tag (some "!") text, r)
    | _ => none
  if atSpace r then some (token, r) else none

/-- The number at the start of a text, and what follows it. -/
def number? (cs : List Char) : Option (Nat × List Char) :=
  let (digits, r) := Digits.split cs
  if digits.isEmpty then none else some (Digits.value digits, r)

/-- The text without the spaces at its start. -/
def dropSpaces (cs : List Char) : List Char :=
  cs.dropWhile (· == ' ')

/-- The directive behind its indicator, and what follows its line. -/
def directive? (cs : List Char) : Option (Token × List Char) := do
  let (name, r) ← name? cs
  if !atSpace r then none
  else
    let (token, r) ←
      if name = "YAML".toList then do
        let (major, r) ← number? (dropSpaces r)
        match r with
        | '.' :: r => do
          let (_, r) ← number? r
          if atSpace r then pure (Token.versionDirective major, r) else none
        | _ => none
      else if name = "TAG".toList then do
        let (handle, r) ← tagHandle? (dropSpaces r)
        if r.head? = some ' ' then do
          let (text, r) ← tagText? (dropSpaces r)
          if atSpace r then pure (Token.tagDirective handle text, r) else none
        else none
      else pure (Token.otherDirective, r.dropWhile (!isBreak ·))
    return (token, ← afterLine? r)

/-! ### The state of the lexer -/

/-- Where a text has been read to. -/
structure Spot where
  index : Nat := 0
  line : Nat := 0
  column : Nat := 0

/-- The spot behind one more character.  A byte order mark takes no column. -/
def Spot.next (s : Spot) (c : Char) : Spot :=
  if isBreak c then ⟨s.index + 1, s.line + 1, 0⟩
  else ⟨s.index + 1, s.line, if c = '\ufeff' then s.column else s.column + 1⟩

/-- The place of what may turn out to be a key. -/
structure SavedKey where
  /-- Where its token is to be put in. -/
  token : Nat
  /-- Whether nothing else may stand there. -/
  needed : Bool
  spot : Spot

/-- A lexer under way. -/
structure Lexer where
  rest : List Char
  /-- How many characters the rest has. -/
  left : Nat
  spot : Spot := {}
  tokens : Array Token := #[]
  /-- How many flow collections are open. -/
  flowLevel : Nat := 0
  /-- The column of the innermost block collection. -/
  indent : Int := -1
  /-- The columns of the ones around it. -/
  outer : List Int := []
  /-- Whether a key without an indicator may start here. -/
  keyAllowed : Bool := true
  /-- Saved places, by the flow level that they are on. -/
  keys : List (Nat × SavedKey) := []
  /-- What stops the lexer at the end of its text, when that is not the end of the document. -/
  cut : Option Fault := none
  finished : Bool := false

namespace Lexer

/-- The lexer with so many more characters read. -/
def pass (s : Lexer) (n : Nat) : Lexer :=
  { s with
    rest := s.rest.drop n, left := s.left - n, spot := (s.rest.take n).foldl Spot.next s.spot }

/-- The lexer with the text read up to a rest of it. -/
def moveTo (s : Lexer) (rest : List Char) : Lexer :=
  s.pass (s.left - rest.length)

/-- The lexer with one more token. -/
def emit (s : Lexer) (t : Token) : Lexer :=
  { s with tokens := s.tokens.push t }

/-- Whether the text stands in a flow collection. -/
def inFlow (s : Lexer) : Bool :=
  s.flowLevel != 0

/-! ### Blanks and indentation -/

/-- How many characters of spaces, comments and breaks a text starts with, behind so many others, and
whether there was a break. -/
def blanks : Bool → Bool → Nat → List Char → Nat × Bool
  | _, passed, n, [] => (n, passed)
  | inComment, passed, n, c :: r =>
    if isBreak c then blanks false true (n + 1) r
    else if inComment || c == ' ' then blanks inComment passed (n + 1) r
    else if c = '#' then blanks true passed (n + 1) r
    else (n, passed)

/-- How many characters a byte order mark takes at the start of the text. -/
def markLength (s : Lexer) : Nat :=
  match s.spot.index, s.rest with
  | 0, '\ufeff' :: _ => 1
  | _, _ => 0

/-- The lexer at its next token. -/
def toNextToken (s : Lexer) : Lexer :=
  let (n, passed) := blanks false false s.markLength (s.rest.drop s.markLength)
  let s := s.pass n
  if passed && !s.inFlow then { s with keyAllowed := true } else s

/-- The lexer with the collections closed that a column ends. -/
def closeTo (column : Int) (s : Lexer) : Lexer :=
  if s.inFlow then s
  else
    let closed := (s.indent :: s.outer).takeWhile fun i => decide (column < i)
    let left := (s.indent :: s.outer).dropWhile fun i => decide (column < i)
    { s with
      tokens := s.tokens ++ Array.replicate closed.length Token.blockEnd
      indent := left.headD (-1), outer := left.tail }

/-- The lexer with a collection opened at a column, if that is further in. -/
def openAt (column : Int) (s : Lexer) : Option Lexer :=
  if s.indent < column then some { s with indent := column, outer := s.indent :: s.outer }
  else none

/-! ### Saved places of keys -/

/-- The lexer without the place saved on its flow level, which must not be needed. -/
def dropKey (s : Lexer) : Except Fault Lexer :=
  match s.keys.lookup s.flowLevel with
  | none => .ok s
  | some k =>
    if k.needed then .error .malformed
    else .ok { s with keys := s.keys.filter fun (level, _) => level != s.flowLevel }

/-- Whether a place is on another line or too far back. -/
def isStale (s : Lexer) (k : SavedKey) : Bool :=
  k.spot.line != s.spot.line || 1024 < s.spot.index - k.spot.index

/-- The lexer without the saved places that no longer count, none of which must be needed. -/
def dropStale (s : Lexer) : Except Fault Lexer :=
  if s.keys.any fun (_, k) => s.isStale k && k.needed then .error .malformed
  else .ok { s with keys := s.keys.filter fun (_, k) => !s.isStale k }

/-- The lexer with its place saved, if a key may start there. -/
def saveKey (s : Lexer) : Except Fault Lexer :=
  if s.keyAllowed then do
    let s ← s.dropKey
    let needed := !s.inFlow && decide (s.indent = (s.spot.column : Int))
    return { s with keys := (s.flowLevel, ⟨s.tokens.size, needed, s.spot⟩) :: s.keys }
  else .ok s

/-! ### Tokens -/

/-- What a part of the text was read as, which must be something. -/
def known {α : Type} (x : Option α) : Except Fault α :=
  x.elim (.error .malformed) .ok

/-- The lexer, which must not have come to a place where the text is cut off. -/
def beforeCut (s : Lexer) : Except Fault Lexer :=
  match s.rest with
  | [] | [_] => s.cut.elim (.ok s) .error
  | _ => .ok s

/-- The end of the text. -/
def finish (s : Lexer) : Except Fault Lexer := do
  let s ← (s.closeTo (-1)).dropKey
  return { s.emit .textEnd with finished := true }

/-- A directive. -/
def directive (s : Lexer) : Except Fault Lexer := do
  let s ← (s.closeTo (-1)).dropKey
  let (token, rest) ← known (directive? s.rest.tail)
  return { (s.moveTo rest).emit token with keyAllowed := false }

/-- The start or the end of a document. -/
def marker (s : Lexer) (t : Token) : Except Fault Lexer := do
  let s ← (s.closeTo (-1)).dropKey
  return { (s.pass 3).emit t with keyAllowed := false }

/-- The start of a flow collection, which may be a key. -/
def flowStart (s : Lexer) (t : Token) : Except Fault Lexer := do
  let s ← s.saveKey
  return { (s.pass 1).emit t with keyAllowed := true, flowLevel := s.flowLevel + 1 }

/-- The end of a flow collection. -/
def flowEnd (s : Lexer) (t : Token) : Except Fault Lexer := do
  let s ← s.dropKey
  if s.inFlow then
    return { (s.pass 1).emit t with keyAllowed := false, flowLevel := s.flowLevel - 1 }
  else throw .malformed

/-- A comma between the entries of a flow collection. -/
def flowEntry (s : Lexer) : Except Fault Lexer := do
  let s ← s.dropKey
  return { (s.pass 1).emit .flowEntry with keyAllowed := true }

/-- The lexer with a block collection opened here, if this is further in; it must be a place where a
key may start. -/
def openHere (s : Lexer) (t : Token) : Except Fault Lexer :=
  if s.inFlow then .ok s
  else if !s.keyAllowed then .error .malformed
  else
    match s.openAt s.spot.column with
    | some s => .ok (s.emit t)
    | none => .ok s

/-- The dash of an entry of a sequence. -/
def blockEntry (s : Lexer) : Except Fault Lexer := do
  let s ← (← s.openHere .blockSequenceStart).dropKey
  return { (s.pass 1).emit .blockEntry with keyAllowed := true }

/-- The question mark of a key. -/
def key (s : Lexer) : Except Fault Lexer := do
  let s ← (← s.openHere .blockMappingStart).dropKey
  return { (s.pass 1).emit .key with keyAllowed := !s.inFlow }

/-- The lexer with a token put in at a place. -/
def insert (s : Lexer) (place : Nat) (t : Token) : Lexer :=
  { s with tokens := s.tokens.insertIdxIfInBounds place t }

/-- The lexer with a key at its saved place, and with the block mapping opened that it is the first key
of. -/
def insertKey (s : Lexer) (k : SavedKey) : Lexer :=
  let s := { s with keys := s.keys.filter fun (level, _) => level != s.flowLevel }
  let s := s.insert k.token .key
  if s.inFlow then s
  else
    match s.openAt k.spot.column with
    | some s => s.insert k.token .blockMappingStart
    | none => s

/-- The colon of a value.  What stands before it is the key, if its place was saved. -/
def value (s : Lexer) : Except Fault Lexer := do
  let s ←
    match s.keys.lookup s.flowLevel with
    | some k => pure { s.insertKey k with keyAllowed := false }
    | none => do
      let s ← (← s.openHere .blockMappingStart).dropKey
      pure { s with keyAllowed := !s.inFlow }
  return (s.pass 1).emit .value

/-- An anchor, an alias, a tag or a quoted scalar, which may be a key. -/
def word (s : Lexer) (read : List Char → Except Fault (Token × List Char)) : Except Fault Lexer := do
  let s ← s.saveKey
  let (token, rest) ← read s.rest
  return { (s.moveTo rest).emit token with keyAllowed := false }

/-- A quoted scalar. -/
def quoted (double : Bool) (beyond : Fault) (cs : List Char) : Except Fault (Token × List Char) :=
  (quotedText double beyond cs.length cs.tail).map fun (text, rest) =>
    (.scalar (String.ofList text) false, rest)

/-- A plain scalar, behind which a key may start when the line has ended. -/
def plain (s : Lexer) : Except Fault Lexer := do
  let s ← s.saveKey
  let p := plainText s.inFlow (s.indent + 1) s.rest.length false s.rest
  return { (s.moveTo p.rest).emit (.scalar (String.ofList p.text) true) with keyAllowed := p.passedLine }

/-- A block scalar, behind which a key may start. -/
def block (s : Lexer) (folded : Bool) : Except Fault Lexer := do
  let s ← s.dropKey
  let (text, rest) ← known (blockText? folded s.indent s.rest.tail)
  return { (s.moveTo rest).emit (.scalar (String.ofList text) false) with keyAllowed := true }

/-- Whether a plain scalar may start with a character. -/
def startsPlain (inFlow : Bool) (c : Char) (rest : List Char) : Bool :=
  !(isBreak c || isSpaceOrTab c || "-?:,[]\x7b\x7d#&*!|>'\"%@\x60".toList.contains c)
    || (!atBlank rest && (c == '-' || (!inFlow && (c == '?' || c == ':'))))

/-- The lexer with the token read that starts here, with a character before others. -/
def token (s : Lexer) (c : Char) (r : List Char) : Except Fault Lexer :=
  let first := s.spot.column == 0
  if first && c == '%' then s.directive
  else if first && atMarker (c :: r) then
    s.marker (if c = '-' then .documentStart else .documentEnd)
  else if c = '[' then s.flowStart .flowSequenceStart
  else if c = '\x7b' then s.flowStart .flowMappingStart
  else if c = ']' then s.flowEnd .flowSequenceEnd
  else if c = '\x7d' then s.flowEnd .flowMappingEnd
  else if c = ',' then s.flowEntry
  else if c == '-' && atBlank r then s.blockEntry
  else if c == '?' && (s.inFlow || atBlank r) then s.key
  else if c == ':' && (s.inFlow || atBlank r) then s.value
  else if c = '*' then
    s.word fun cs => known ((anchorName? cs.tail).map fun (name, rest) => (.alias name, rest))
  else if c = '&' then
    s.word fun cs => known ((anchorName? cs.tail).map fun (name, rest) => (.anchor name, rest))
  else if c = '!' then s.word fun cs => known (tagToken? cs)
  else if (c == '|' || c == '>') && !s.inFlow then s.block (c == '>')
  else if c = '\'' then s.word (quoted false (s.cut.getD .malformed))
  else if c = '"' then s.word (quoted true (s.cut.getD .malformed))
  else if startsPlain s.inFlow c r then s.plain
  else .error .malformed

/-- The lexer before its next token, with the collections closed that end there. -/
def settle (s : Lexer) : Except Fault Lexer := do
  let s ← (← s.toNextToken.beforeCut).dropStale
  return s.closeTo s.spot.column

/-- The lexer with its next token read. -/
def step (s : Lexer) : Except Fault Lexer := do
  let s ← s.settle
  match s.rest with
  | [] => s.finish
  | c :: r => s.token c r

/-- The lexer with its next token read, which must end before the text is cut off. -/
def advance (s : Lexer) : Except Fault Lexer := do
  (← s.step).beforeCut

/-- How many tokens are told before the next one has to be read: all of them, or those before the
first place where a key may still have to be put in. -/
def told (s : Lexer) : Nat :=
  match s.dropStale with
  | .ok s => s.keys.foldl (fun n (_, k) => min n k.token) s.tokens.size
  | .error _ => s.tokens.size

end Lexer

/-- The tokens of a text, as far as they can be told, and what stops the lexer behind them. -/
structure Tokens where
  known : List Token
  fault : Option Fault

/-- The tokens of what is left to a lexer.  Each token but the last takes a character, so as many steps
as there are characters and one more are enough. -/
def Lexer.run : Nat → Lexer → Tokens
  | 0, s => ⟨s.tokens.toList, some .malformed⟩
  | steps + 1, s =>
    match s.advance with
    | .error f => ⟨s.tokens.toList.take s.told, some f⟩
    | .ok s => if s.finished then ⟨s.tokens.toList, none⟩ else run steps s

/-- The tokens of a text that may be cut off.  Characters that YAML does not allow cut it off too, before
the portion that holds the first of them. -/
def Token.lex (cs : List Char) (cut : Option Fault) : Tokens :=
  let allowed := (cs.takeWhile isAllowed).length
  if allowed = cs.length then Lexer.run (cs.length + 1) { rest := cs, left := cs.length, cut }
  else
    match Text.handedOn allowed with
    | 0 => ⟨[], some .malformed⟩
    | n => Lexer.run (n + 1) { rest := cs.take n, left := n, cut := some .malformed }

end WorkflowCheck.Yaml
