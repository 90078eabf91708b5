import WorkflowCheck.Text.Lines

/-!
# Texts in portions

A long text is not read at once.  Its bytes come in chunks and its characters are handed on in portions
of one size, the first two of them together.  So a fault far behind is met only when what is before it
has been looked at: `Text.Decoded` holds the characters of the portions before the first byte that
belongs to no character.
-/

namespace WorkflowCheck.Text

/-- How many characters a portion has. -/
def portionSize : Nat :=
  4096

/-- How many bytes a chunk has. -/
def chunkSize : Nat :=
  8192

/-- How many of so many characters are handed on before the portion that holds the next one. -/
def handedOn (n : Nat) : Nat :=
  if n < 2 * portionSize then 0 else portionSize * (n / portionSize)

/-! ### Bytes of characters -/

/-- The bounds of the bytes that follow a first byte of a character; none if there is no such one. -/
def tailBounds? (b : UInt8) : Option (List (UInt8 × UInt8)) :=
  let any : UInt8 × UInt8 := (0x80, 0xBF)
  if b < 0x80 then some []
  else if b < 0xC2 then none
  else if b < 0xE0 then some [any]
  else if b = 0xE0 then some [(0xA0, 0xBF), any]
  else if b = 0xED then some [(0x80, 0x9F), any]
  else if b < 0xF0 then some [any, any]
  else if b = 0xF0 then some [(0x90, 0xBF), any, any]
  else if b < 0xF4 then some [any, any, any]
  else if b = 0xF4 then some [(0x80, 0x8F), any, any]
  else none

/-- How many bytes there are before the first one that belongs to no character, given the bounds of those
that the character under way still lacks. -/
def soundBytes : List (UInt8 × UInt8) → List UInt8 → Nat
  | _, [] => 0
  | (low, high) :: bounds, b :: bs =>
    if low ≤ b ∧ b ≤ high then soundBytes bounds bs + 1 else 0
  | [], b :: bs =>
    match tailBounds? b with
    | some bounds => soundBytes bounds bs + 1
    | none => 0

/-- How many bytes at the end begin a character that is not complete, up to three of them. -/
def unfinishedBytes (bs : List UInt8) : Nat :=
  let starts (n : Nat) : Bool :=
    match bs.drop (bs.length - n) with
    | b :: _ => (tailBounds? b).any fun bounds => n ≤ bounds.length
    | [] => false
  ([1, 2, 3].find? fun n => n ≤ bs.length && starts n).getD 0

/-! ### Texts of bytes -/

/-- The text of bytes as far as it can be handed on. -/
structure Decoded where
  text : String
  /-- Whether it is the text of all bytes. -/
  whole : Bool
  deriving DecidableEq, Repr

/-- The text of bytes with every end of a line made a line feed. -/
def decode? (bytes : ByteArray) : Option String :=
  (String.fromUTF8? bytes).map fun s => String.ofList (normalizeLines s.toList)

/-- The characters of the chunks that can be decoded.  A carriage return at the end of a chunk waits for
the next one. -/
def decodedStart (bytes : ByteArray) : String :=
  let bs := bytes.toList
  let sound := soundBytes [] bs
  let known := bs.take (if sound < bs.length then chunkSize * (sound / chunkSize) else sound)
  let complete := known.take (known.length - unfinishedBytes known)
  let text := (String.fromUTF8? ⟨complete.toArray⟩).getD ""
  let text := if text.toList.getLast? = some '\r' then text.toList.dropLast else text.toList
  String.ofList (normalizeLines text)

/-- The text of bytes as far as it can be handed on. -/
def Decoded.ofBytes (bytes : ByteArray) : Decoded :=
  match decode? bytes with
  | some text => ⟨text, true⟩
  | none =>
    let start := (decodedStart bytes).toList
    ⟨String.ofList (start.take (handedOn start.length)), false⟩

end WorkflowCheck.Text
