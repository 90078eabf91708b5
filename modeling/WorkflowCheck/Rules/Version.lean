/-!
# Versions

The version tag of a node: three numbers between points, which may be followed by a pre-release and
a build; `latest`, perhaps on a channel; or three numbers behind an operator.
-/

namespace WorkflowCheck

/-- What a version asks for. -/
inductive VersionKind where
  | exact | latest | caret | tilde | comparison
  deriving DecidableEq, Repr

/-- The word for what a version asks for. -/
def VersionKind.word : VersionKind → String
  | .exact => "exact"
  | .latest => "latest"
  | .caret => "caret"
  | .tilde => "tilde"
  | .comparison => "comparison"

/-- A version tag that was understood. -/
structure Version where
  raw : String
  kind : VersionKind
  prerelease : Option String
  deriving DecidableEq, Repr

namespace Version

/-- The characters of a channel. -/
def isChannelChar (c : Char) : Bool :=
  c.isAlphanum || c == '.'

/-- The characters of a pre-release and of a build. -/
def isLabelChar (c : Char) : Bool :=
  isChannelChar c || c == '-'

/-- What follows a run of digits; none if there is no digit. -/
def afterDigits? (cs : List Char) : Option (List Char) :=
  match cs with
  | c :: _ => if c.isDigit then some (cs.dropWhile Char.isDigit) else none
  | [] => none

/-- What follows a point. -/
def afterPoint? : List Char → Option (List Char)
  | '.' :: r => some r
  | _ => none

/-- What follows three numbers between points. -/
def afterCore? (cs : List Char) : Option (List Char) := do
  let r ← afterDigits? cs
  let r ← afterDigits? (← afterPoint? r)
  afterDigits? (← afterPoint? r)

/-- Whether a text is a label: not empty, and of its characters. -/
def isLabel (inClass : Char → Bool) (cs : List Char) : Bool :=
  !cs.isEmpty && cs.all inClass

/-- Whether a text is empty or a plus sign and a build. -/
def isBuild : List Char → Bool
  | [] => true
  | '+' :: r => isLabel isLabelChar r
  | _ => false

/-- The pre-release of what follows the three numbers of an exact version, or that there is none. -/
def exactTail? : List Char → Option (Option String)
  | '-' :: r =>
    let label := r.takeWhile isLabelChar
    if !label.isEmpty && isBuild (r.dropWhile isLabelChar) then some (some (String.ofList label))
    else none
  | r => if isBuild r then some none else none

/-- Three numbers, with a pre-release and a build if need be. -/
def exactTag? (raw : String) : Option Version :=
  ((afterCore? raw.toList).bind exactTail?).map fun label => ⟨raw, .exact, label⟩

/-- The channel of what follows the word `latest`, or that there is none. -/
def latestTail? : List Char → Option (Option String)
  | [] => some none
  | '-' :: r => if isLabel isChannelChar r then some (some (String.ofList r)) else none
  | _ => none

/-- The word `latest`, with a channel if need be. -/
def latestTag? (raw : String) : Option Version :=
  match raw.toList with
  | 'l' :: 'a' :: 't' :: 'e' :: 's' :: 't' :: r =>
    (latestTail? r).map fun channel => ⟨raw, .latest, channel⟩
  | _ => none

/-- The operator at the start of a text, and what follows it. -/
def operator? : List Char → Option (VersionKind × List Char)
  | '^' :: r => some (.caret, r)
  | '~' :: r => some (.tilde, r)
  | '>' :: '=' :: r => some (.comparison, r)
  | '<' :: '=' :: r => some (.comparison, r)
  | '>' :: r => some (.comparison, r)
  | '<' :: r => some (.comparison, r)
  | _ => none

/-- An operator and three numbers. -/
def rangeTag? (raw : String) : Option Version := do
  let (kind, r) ← operator? raw.toList
  let rest ← afterCore? r
  if rest.isEmpty then some ⟨raw, kind, none⟩ else none

/-- The version that a tag stands for. -/
def ofTag? (raw : String) : Option Version :=
  (exactTag? raw).orElse fun _ => (latestTag? raw).orElse fun _ => rangeTag? raw

/-- Whether the version is not a final one. -/
def isPrerelease (v : Version) : Bool :=
  v.prerelease.isSome

end Version

end WorkflowCheck
