import WorkflowCheck.Json.Token
import WorkflowCheck.Yaml.Char
import WorkflowCheck.Yaml.Fault

/-!
# Scalars of YAML

The text of a scalar in each of its styles, and what follows the scalar.  A break between two lines
of a quoted, plain or folded scalar is a space when no empty line follows it, and otherwise the empty
lines stand for themselves.
-/

namespace WorkflowCheck.Yaml

/-- The text that a break and the empty lines behind it stand for. -/
def foldedBreak (first : Char) (more : List Char) : List Char :=
  if first ≠ '\n' then first :: more
  else if more.isEmpty then [' ']
  else more

/-! ### Quoted scalars -/

/-- The breaks of empty lines in a quoted scalar, and what follows them.  No document may end
there. -/
def quotedBreaks : Nat → List Char → Option (List Char × List Char)
  | 0, _ => none
  | steps + 1, cs =>
    if atMarker cs then none
    else
      let r := cs.dropWhile isSpaceOrTab
      match break? r with
      | some (b, r) => (quotedBreaks steps r).map fun (bs, rest) => (b :: bs, rest)
      | none => some ([], r)

/-- The character that a backslash and a character stand for. -/
def escaped? : Char → Option Char
  | '0' => some '\x00'
  | 'a' => some '\x07'
  | 'b' => some '\x08'
  | 't' => some '\t'
  | '\t' => some '\t'
  | 'n' => some '\n'
  | 'v' => some '\x0b'
  | 'f' => some '\x0c'
  | 'r' => some '\r'
  | 'e' => some '\x1b'
  | ' ' => some ' '
  | '"' => some '"'
  | '\\' => some '\\'
  | '/' => some '/'
  | 'N' => some '\u0085'
  | '_' => some '\u00a0'
  | 'L' => some '\u2028'
  | 'P' => some '\u2029'
  | _ => none

/-- How many digits an escape by code point has. -/
def escapeWidth? : Char → Option Nat
  | 'x' => some 2
  | 'u' => some 4
  | 'U' => some 8
  | _ => none

/-- The number that as many hexadecimal digits stand for, and what follows them. -/
def hexNumber? (width : Nat) (cs : List Char) : Option (Nat × List Char) :=
  if cs.length < width then none
  else
    ((cs.take width).foldlM (fun n c => (Json.Token.hexDigit? c).map (16 * n + ·)) 0).map
      (·, cs.drop width)

/-- The character of a code point in as many hexadecimal digits, and what follows it. -/
def charOfHex (beyond : Fault) (width : Nat) (cs : List Char) : Except Fault (Char × List Char) :=
  match hexNumber? width cs with
  | none =>
    let ends := (cs.take width).all fun c => (Json.Token.hexDigit? c).isSome
    .error (if ends then beyond else .malformed)
  | some (n, r) => if n < 0x110000 then .ok (Text.charOfCode n, r) else .error (.codePoint n)

/-- The text that an escape behind its backslash stands for, and what follows it. -/
def escape (beyond : Fault) : List Char → Except Fault (List Char × List Char)
  | [] => .error beyond
  | e :: r =>
    match escaped? e, escapeWidth? e, asBreak? e with
    | some x, _, _ => .ok ([x], r)
    | none, some width, _ => (charOfHex beyond width r).map fun (x, r) => ([x], r)
    | none, none, some _ => (quotedBreaks r.length.succ r).elim (.error .malformed) .ok
    | none, none, none => .error .malformed

/-- The text of a quoted scalar behind its opening quote, and what follows its closing one.  The text
must not end before that. -/
def quotedText (double : Bool) (beyond : Fault) : Nat → List Char →
    Except Fault (List Char × List Char)
  | 0, _ => .error beyond
  | _, [] => .error beyond
  | steps + 1, c :: r =>
    let continued (text rest : List Char) : Except Fault (List Char × List Char) :=
      (quotedText double beyond steps rest).map fun (more, rest) => (text ++ more, rest)
    if double && c == '"' then .ok ([], r)
    else if !double && c == '\'' then
      match r with
      | '\'' :: r => continued ['\''] r
      | _ => .ok ([], r)
    else if double && c == '\\' then do
      let (text, r) ← escape beyond r
      continued text r
    else if isSpaceOrTab c || isBreak c then
      match break? ((c :: r).dropWhile isSpaceOrTab) with
      | some (b, r) => do
        let (bs, r) ← (quotedBreaks r.length.succ r).elim (.error .malformed) .ok
        continued (foldedBreak b bs) r
      | none => continued [c] r
    else continued [c] r

/-! ### Plain scalars -/

/-- Whether a run of a plain scalar stops before a character. -/
def stopsPlain (inFlow : Bool) (c : Char) (rest : List Char) : Bool :=
  isBreak c || isSpaceOrTab c
    || (c == ':' && (atBlank rest || (inFlow && rest.head?.any (",[]\x7b\x7d".toList.contains ·))))
    || (inFlow && ",?[]\x7b\x7d".toList.contains c)

/-- A run of a plain scalar without blanks, and what follows it. -/
def plainRun (inFlow : Bool) : List Char → List Char × List Char
  | [] => ([], [])
  | c :: r =>
    if stopsPlain inFlow c r then ([], c :: r)
    else
      let (run, rest) := plainRun inFlow r
      (c :: run, rest)

/-- The breaks and the indentation before the next line of a plain scalar, and what follows; there
are no breaks when a document ends there. -/
def plainLines : Nat → List Char → Option (List Char) × Nat × List Char
  | column, [] => (some [], column, [])
  | column, c :: r =>
    if c = ' ' then plainLines (column + 1) r
    else
      match asBreak? c with
      | none => (some [], column, c :: r)
      | some b =>
        if atMarker r then (none, 0, r)
        else
          let (bs, column, rest) := plainLines 0 r
          (bs.map (b :: ·), column, rest)

/-- What stands between two runs of a plain scalar. -/
structure PlainGap where
  /-- The text that it stands for; it is empty when no run can follow. -/
  text : List Char
  /-- The column of the next line, when the gap runs over the end of a line. -/
  nextColumn : Option Nat
  rest : List Char

/-- The gap at the start of a text. -/
def plainGap (cs : List Char) : PlainGap :=
  let spaces := cs.takeWhile (· == ' ')
  let r := cs.dropWhile (· == ' ')
  match break? r with
  | none => ⟨spaces, none, r⟩
  | some (b, r) =>
    if atMarker r then ⟨[], some 0, r⟩
    else
      match plainLines 0 r with
      | (some bs, column, rest) => ⟨foldedBreak b bs, some column, rest⟩
      | (none, column, rest) => ⟨[], some column, rest⟩

/-- A plain scalar. -/
structure PlainText where
  text : List Char
  /-- Whether the ends of lines were passed behind the last run. -/
  passedLine : Bool
  rest : List Char

/-- The plain scalar at the start of a text.  In block context its further lines stand at least in a
given column. -/
def plainText (inFlow : Bool) (column : Int) : Nat → Bool → List Char → PlainText
  | 0, passed, cs => ⟨[], passed, cs⟩
  | steps + 1, passed, cs =>
    let (run, r) := plainRun inFlow cs
    if run.isEmpty then ⟨[], passed, cs⟩
    else
      let gap := plainGap r
      let outdented := !inFlow && gap.nextColumn.any fun (c : Nat) => decide ((c : Int) < column)
      if gap.text.isEmpty || gap.rest.head? == some '#' || outdented then
        ⟨run, gap.nextColumn.isSome, gap.rest⟩
      else
        let next := plainText inFlow column steps gap.nextColumn.isSome gap.rest
        { next with text := if next.text.isEmpty then run else run ++ gap.text ++ next.text }

/-! ### Block scalars -/

/-- What becomes of the breaks at the end of a block scalar. -/
inductive Chomping where
  /-- All are dropped. -/
  | strip
  /-- One is kept. -/
  | clip
  /-- All are kept. -/
  | keep
  deriving DecidableEq

/-- The chomping at the start of a text, and what follows it. -/
def chomping? : List Char → Option (Chomping × List Char)
  | '+' :: r => some (.keep, r)
  | '-' :: r => some (.strip, r)
  | _ => none

/-- The indentation digit at the start of a text, and what follows it.  It is not zero. -/
def indentDigit? : List Char → Option (Option Nat × List Char)
  | c :: r =>
    if c.isDigit then
      if c = '0' then none else some (some (c.toNat - '0'.toNat), r)
    else some (none, c :: r)
  | [] => some (none, [])

/-- The chomping and the indentation digit of a block scalar, in either order, and what follows
them. -/
def blockHeader? (cs : List Char) : Option (Chomping × Option Nat × List Char) := do
  let (chomping, indent, r) ←
    match chomping? cs with
    | some (chomping, r) => do
      let (indent, r) ← indentDigit? r
      pure (chomping, indent, r)
    | none => do
      let (indent, r) ← indentDigit? cs
      match indent, chomping? r with
      | some _, some (chomping, r) => pure (chomping, indent, r)
      | _, _ => pure (Chomping.clip, indent, r)
  if atSpace r then some (chomping, indent, r) else none

/-- The breaks before the first line of a block scalar, the widest indentation seen, the column of
that line, and what follows. -/
def blockStart : Nat → Nat → List Char → List Char × Nat × Nat × List Char
  | column, widest, [] => ([], widest, column, [])
  | column, widest, c :: r =>
    if c = ' ' then blockStart (column + 1) (max widest (column + 1)) r
    else
      match asBreak? c with
      | none => ([], widest, column, c :: r)
      | some b =>
        let (bs, more) := blockStart 0 widest r
        (b :: bs, more)

/-- The breaks of empty lines in a block scalar of an indentation, the column behind them, and what
follows. -/
def blockBreaks (indent : Nat) : Nat → List Char → List Char × Nat × List Char
  | column, [] => ([], column, [])
  | column, c :: r =>
    if c = ' ' ∧ column < indent then blockBreaks indent (column + 1) r
    else
      match asBreak? c with
      | none => ([], column, c :: r)
      | some b =>
        let (bs, more) := blockBreaks indent 0 r
        (b :: bs, more)

/-- The lines of a block scalar: their text, the break behind the last one, the empty lines behind
that, and what follows. -/
structure BlockLines where
  text : List Char
  lastBreak : List Char
  emptyLines : List Char
  rest : List Char

/-- The lines of a block scalar from a line in its column on, with the empty lines before it. -/
def blockLines (folded : Bool) (indent : Nat) : Nat → List Char → List Char → BlockLines
  | 0, emptyLines, cs => ⟨[], [], emptyLines, cs⟩
  | steps + 1, emptyLines, cs =>
    let line := cs.takeWhile (!isBreak ·)
    let r := cs.dropWhile (!isBreak ·)
    let (lineBreak, r) := match break? r with
      | some (b, r) => ([b], r)
      | none => ([], r)
    let (following, column, r) := blockBreaks indent 0 r
    let indented (cs : List Char) : Bool := cs.head?.any isSpaceOrTab
    if column = indent ∧ r ≠ [] then
      let joint :=
        if folded && lineBreak == ['\n'] && !indented cs && !indented r then
          if following.isEmpty then [' '] else []
        else lineBreak
      let more := blockLines folded indent steps following r
      { more with text := emptyLines ++ line ++ joint ++ more.text }
    else ⟨emptyLines ++ line, lineBreak, following, r⟩

/-- The text of a block scalar behind its indicator, and what follows it.  Its lines stand further in
than the given column. -/
def blockText? (folded : Bool) (outer : Int) (cs : List Char) : Option (List Char × List Char) := do
  let (chomping, digit, r) ← blockHeader? cs
  let r ← afterLine? r
  let least : Nat := (max (outer + 1) 1).toNat
  let (indent, emptyLines, column, r) := match digit with
    | none =>
      let (bs, widest, column, r) := blockStart 0 0 r
      (max least widest, bs, column, r)
    | some d =>
      let indent := least + d - 1
      let (bs, column, r) := blockBreaks indent 0 r
      (indent, bs, column, r)
  let lines : BlockLines :=
    if column = indent ∧ r ≠ [] then blockLines folded indent r.length emptyLines r
    else ⟨[], [], emptyLines, r⟩
  let tail := match chomping with
    | .strip => []
    | .clip => lines.lastBreak
    | .keep => lines.lastBreak ++ lines.emptyLines
  return (lines.text ++ tail, lines.rest)

end WorkflowCheck.Yaml
