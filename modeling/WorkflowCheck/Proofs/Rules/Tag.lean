import WorkflowCheck.Proofs.Rules.Version

/-!
# Tags and their parts

`Tag` has the three forms of a version tag as constructors: their parts are runs of digits, labels and
operators, each with what makes it well-formed, and nothing else can be built.  A tag is written by putting
its parts one behind the other (`Tag.text`), and they can be told apart again, since the mark behind a run is
no character of the run (`Tag.text_injective`).  Reading accepts exactly the texts of tags and names the parts
of the one tag that a text is of (`ofTag?_reads_tags`).
-/

namespace WorkflowCheck.Version

/-! ### Parts -/

/-- A text that is not empty and of one class of characters. -/
abbrev Run (inClass : Char → Bool) : Type :=
  { text : String // IsRun inClass text.toList }

/-- Three numbers. -/
structure Core where
  major : Run Char.isDigit
  minor : Run Char.isDigit
  patch : Run Char.isDigit

/-- What stands before three numbers that are not meant exactly. -/
inductive Operator where
  | caret | tilde | atLeast | atMost | above | below
  deriving DecidableEq, Repr

/-- A version tag. -/
inductive Tag where
  | exact (core : Core) (pre build : Option (Run isLabelChar))
  | latest (channel : Option (Run isChannelChar))
  | range (op : Operator) (core : Core)

namespace Core

/-- The three numbers between points. -/
def chars (core : Core) : List Char :=
  core.major.1.toList ++ '.' :: (core.minor.1.toList ++ '.' :: core.patch.1.toList)

end Core

namespace Operator

/-- The characters of an operator. -/
def chars : Operator → List Char
  | caret => ['^']
  | tilde => ['~']
  | atLeast => ['>', '=']
  | atMost => ['<', '=']
  | above => ['>']
  | below => ['<']

/-- What an operator asks for. -/
def kind : Operator → VersionKind
  | caret => .caret
  | tilde => .tilde
  | atLeast | atMost | above | below => .comparison

end Operator

/-- The characters of a part that may be left out, behind its mark. -/
def partChars (mark : Char) {inClass : Char → Bool} : Option (Run inClass) → List Char
  | none => []
  | some label => mark :: label.1.toList

namespace Tag

/-- The characters of a tag. -/
def chars : Tag → List Char
  | exact core pre build => core.chars ++ (partChars '-' pre ++ partChars '+' build)
  | latest channel => ['l', 'a', 't', 'e', 's', 't'] ++ partChars '-' channel
  | range op core => op.chars ++ core.chars

/-- The tag as it is written. -/
def text (t : Tag) : String :=
  String.ofList t.chars

/-- What a tag asks for. -/
def kind : Tag → VersionKind
  | exact .. => .exact
  | latest _ => .latest
  | range op _ => op.kind

/-- The pre-release of an exact version, or the channel of the latest one. -/
def label : Tag → Option String
  | exact _ pre _ => pre.map (·.1)
  | latest channel => channel.map (·.1)
  | range .. => none

end Tag

/-! ### The grammar has just these parts -/

section Grammar

variable {cs : List Char} {kind : VersionKind} {label : Option String}

theorem isRun_iff {inClass : Char → Bool} :
    IsRun inClass cs ↔ ∃ run : Run inClass, run.1.toList = cs := by
  constructor
  · intro h
    exact ⟨⟨String.ofList cs, by rwa [String.toList_ofList]⟩, String.toList_ofList⟩
  · rintro ⟨run, rfl⟩
    exact run.2

theorem isCore_iff : IsCore cs ↔ ∃ core : Core, core.chars = cs := by
  constructor
  · rintro ⟨a, b, c, ha, hb, hc, rfl⟩
    obtain ⟨major, rfl⟩ := isRun_iff.mp ha
    obtain ⟨minor, rfl⟩ := isRun_iff.mp hb
    obtain ⟨patch, rfl⟩ := isRun_iff.mp hc
    exact ⟨⟨major, minor, patch⟩, rfl⟩
  · rintro ⟨core, rfl⟩
    exact ⟨_, _, _, core.major.2, core.minor.2, core.patch.2, rfl⟩

theorem isPart_iff {mark : Char} {inClass : Char → Bool} :
    IsPart mark inClass label cs ↔
      ∃ part : Option (Run inClass), partChars mark part = cs ∧ part.map (·.1) = label := by
  constructor
  · intro h
    cases label with
    | none => exact ⟨none, h.symm, rfl⟩
    | some text =>
      obtain ⟨rfl, hrun⟩ := h
      exact ⟨some ⟨text, hrun⟩, rfl, rfl⟩
  · rintro ⟨_ | run, rfl, rfl⟩
    · rfl
    · exact ⟨rfl, run.2⟩

theorem mem_operators_iff :
    (cs, kind) ∈ operators ↔ ∃ op : Operator, op.chars = cs ∧ op.kind = kind := by
  constructor
  · intro h
    simp only [operators, List.mem_cons, Prod.mk.injEq, List.not_mem_nil, or_false] at h
    rcases h with ⟨rfl, rfl⟩ | ⟨rfl, rfl⟩ | ⟨rfl, rfl⟩ | ⟨rfl, rfl⟩ | ⟨rfl, rfl⟩ | ⟨rfl, rfl⟩
    · exact ⟨.caret, rfl, rfl⟩
    · exact ⟨.tilde, rfl, rfl⟩
    · exact ⟨.atLeast, rfl, rfl⟩
    · exact ⟨.atMost, rfl, rfl⟩
    · exact ⟨.above, rfl, rfl⟩
    · exact ⟨.below, rfl, rfl⟩
  · rintro ⟨op, rfl, rfl⟩
    cases op <;> decide

theorem spellsExact_iff :
    SpellsExact cs label ↔ ∃ core pre build, (Tag.exact core pre build).chars = cs ∧
      (Tag.exact core pre build).label = label := by
  constructor
  · rintro ⟨core, pre, build, hcore, hpre, ⟨tag, hbuild⟩, rfl⟩
    obtain ⟨core, rfl⟩ := isCore_iff.mp hcore
    obtain ⟨pre, rfl, rfl⟩ := isPart_iff.mp hpre
    obtain ⟨build, rfl, -⟩ := isPart_iff.mp hbuild
    exact ⟨core, pre, build, rfl, rfl⟩
  · rintro ⟨core, pre, build, rfl, rfl⟩
    exact ⟨_, _, _, isCore_iff.mpr ⟨core, rfl⟩, isPart_iff.mpr ⟨pre, rfl, rfl⟩,
      ⟨_, isPart_iff.mpr ⟨build, rfl, rfl⟩⟩, rfl⟩

theorem spellsLatest_iff :
    SpellsLatest cs label ↔ ∃ channel, (Tag.latest channel).chars = cs ∧
      (Tag.latest channel).label = label := by
  constructor
  · rintro ⟨rest, hpart, rfl⟩
    obtain ⟨channel, rfl, rfl⟩ := isPart_iff.mp hpart
    exact ⟨channel, rfl, rfl⟩
  · rintro ⟨channel, rfl, rfl⟩
    exact ⟨_, isPart_iff.mpr ⟨channel, rfl, rfl⟩, rfl⟩

theorem spellsRange_iff :
    SpellsRange cs kind ↔ ∃ op core, (Tag.range op core).chars = cs ∧ (Tag.range op core).kind = kind := by
  constructor
  · rintro ⟨op, core, hop, hcore, rfl⟩
    obtain ⟨op, rfl, rfl⟩ := mem_operators_iff.mp hop
    obtain ⟨core, rfl⟩ := isCore_iff.mp hcore
    exact ⟨op, core, rfl, rfl⟩
  · rintro ⟨op, core, rfl, rfl⟩
    exact ⟨_, _, mem_operators_iff.mpr ⟨op, rfl, rfl⟩, isCore_iff.mpr ⟨core, rfl⟩, rfl⟩

/-- The grammar spells just the tags. -/
theorem spells_iff :
    Spells cs kind label ↔ ∃ t : Tag, t.chars = cs ∧ t.kind = kind ∧ t.label = label := by
  rw [Spells, spellsExact_iff, spellsLatest_iff, spellsRange_iff]
  constructor
  · rintro (⟨rfl, core, pre, build, hcs, hlabel⟩ | ⟨rfl, channel, hcs, hlabel⟩ |
      ⟨⟨op, core, hcs, hkind⟩, rfl⟩)
    · exact ⟨.exact core pre build, hcs, rfl, hlabel⟩
    · exact ⟨.latest channel, hcs, rfl, hlabel⟩
    · exact ⟨.range op core, hcs, hkind, rfl⟩
  · rintro ⟨t, hcs, rfl, hlabel⟩
    cases t with
    | exact core pre build => exact Or.inl ⟨rfl, core, pre, build, hcs, hlabel⟩
    | latest channel => exact Or.inr (Or.inl ⟨rfl, channel, hcs, hlabel⟩)
    | range op core => exact Or.inr (Or.inr ⟨⟨op, core, hcs, rfl⟩, hlabel.symm⟩)

end Grammar

/-! ### Telling the parts apart -/

section Unique

variable {inClass : Char → Bool} {rest rest' : List Char}

/-- A run ends where a character of another class follows. -/
theorem Run.append_inj {run run' : Run inClass} (hrest : StartsOutside inClass rest)
    (hrest' : StartsOutside inClass rest') (h : run.1.toList ++ rest = run'.1.toList ++ rest') :
    run = run' ∧ rest = rest' := by
  obtain ⟨htake, hdrop⟩ := isRun_takeWhile_append run.2.2 hrest
  obtain ⟨htake', hdrop'⟩ := isRun_takeWhile_append run'.2.2 hrest'
  rw [h] at htake hdrop
  exact ⟨Subtype.ext (String.toList_injective (htake.symm.trans htake')), hdrop.symm.trans hdrop'⟩

theorem Core.append_inj {core core' : Core} (hrest : StartsOutside Char.isDigit rest)
    (hrest' : StartsOutside Char.isDigit rest') (h : core.chars ++ rest = core'.chars ++ rest') :
    core = core' ∧ rest = rest' := by
  obtain ⟨major, minor, patch⟩ := core
  obtain ⟨major', minor', patch'⟩ := core'
  simp only [chars, List.append_assoc, List.cons_append] at h
  obtain ⟨rfl, hminor⟩ := Run.append_inj startsOutside_point startsOutside_point h
  obtain ⟨rfl, hpatch⟩ := Run.append_inj startsOutside_point startsOutside_point (List.cons.inj hminor).2
  obtain ⟨rfl, hsame⟩ := Run.append_inj hrest hrest' (List.cons.inj hpatch).2
  exact ⟨rfl, hsame⟩

theorem partChars_injective (mark : Char) :
    Function.Injective (partChars mark : Option (Run inClass) → List Char) := by
  intro part part' h
  cases part with
  | none =>
    cases part' with
    | none => rfl
    | some run' => cases h
  | some run =>
    cases part' with
    | none => cases h
    | some run' =>
      exact congrArg some (Subtype.ext (String.toList_injective (List.cons.inj h).2))

/-- An operator ends where the first digit stands. -/
theorem Operator.append_inj {op op' : Operator} {core core' : Core}
    (h : op.chars ++ core.chars = op'.chars ++ core'.chars) : op = op' ∧ core = core' := by
  have hsigns : ∀ op : Operator, ∀ c ∈ op.chars, (!c.isDigit) = true := by
    intro op
    rw [← List.all_eq_true]
    cases op <;> decide
  have hdigit : ∀ core : Core, StartsOutside (fun c => !c.isDigit) core.chars := by
    intro core c hc
    obtain ⟨d, more, hcons, hd⟩ := (isCore_iff.mpr ⟨core, rfl⟩).exists_digit
    rw [hcons] at hc
    cases hc
    exact congrArg Bool.not hd
  obtain ⟨htake, hdrop⟩ := isRun_takeWhile_append (hsigns op) (hdigit core)
  obtain ⟨htake', hdrop'⟩ := isRun_takeWhile_append (hsigns op') (hdigit core')
  rw [h] at htake hdrop
  have hop : op.chars = op'.chars := htake.symm.trans htake'
  have hcore : core.chars ++ [] = core'.chars ++ [] := by
    rw [List.append_nil, List.append_nil]
    exact hdrop.symm.trans hdrop'
  have hnil : StartsOutside Char.isDigit [] := by rintro _ ⟨⟩
  refine ⟨?_, (Core.append_inj hnil hnil hcore).1⟩
  revert hop
  cases op <;> cases op' <;> decide

end Unique

/-! ### Reading what is written -/

namespace Tag

/-- The text of a tag is read as what the tag says. -/
theorem ofTag?_text (t : Tag) : ofTag? t.text = some ⟨t.text, t.kind, t.label⟩ :=
  ofTag?_eq_some_iff.mpr ⟨rfl, spells_iff.mpr ⟨t, String.toList_ofList.symm, rfl, rfl⟩⟩

/-- What is behind the numbers of an exact version starts with no digit. -/
theorem startsOutside_parts (pre build : Option (Run isLabelChar)) :
    StartsOutside Char.isDigit (partChars '-' pre ++ partChars '+' build) :=
  startsOutside_tail (isPart_iff.mpr ⟨pre, rfl, rfl⟩) ⟨_, isPart_iff.mpr ⟨build, rfl, rfl⟩⟩

/-- A text is of one tag at most.  Two tags with one text are read alike, so they have one form, and the same
label behind the numbers or the word. -/
theorem text_injective : Function.Injective text := by
  intro t t' h
  have hread : (⟨t.text, t.kind, t.label⟩ : Version) = ⟨t'.text, t'.kind, t'.label⟩ := by
    rw [← Option.some.injEq, ← ofTag?_text, ← ofTag?_text, h]
  have hkind : t.kind = t'.kind := congrArg Version.kind hread
  have hlabel : t.label = t'.label := congrArg Version.prerelease hread
  have hchars : t.chars = t'.chars := String.ofList_injective h
  have hval : ∀ inClass, Function.Injective (Option.map (Subtype.val : Run inClass → String)) :=
    fun _ => Option.map_injective Subtype.val_injective
  cases t with
  | exact core pre build =>
    cases t' with
    | exact core' pre' build' =>
      obtain rfl := hval _ hlabel
      obtain ⟨rfl, hrest⟩ := Core.append_inj (startsOutside_parts _ _) (startsOutside_parts _ _) hchars
      obtain rfl := partChars_injective '+' (List.append_cancel_left hrest)
      rfl
    | latest channel' => cases hkind
    | range op' core' => cases op' <;> cases hkind
  | latest channel =>
    cases t' with
    | exact core' pre' build' => cases hkind
    | latest channel' =>
      obtain rfl := hval _ hlabel
      rfl
    | range op' core' => cases op' <;> cases hkind
  | range op core =>
    cases t' with
    | exact core' pre' build' => cases op <;> cases hkind
    | latest channel' => cases op <;> cases hkind
    | range op' core' =>
      obtain ⟨rfl, rfl⟩ := Operator.append_inj hchars
      rfl

end Tag

/-- **Version tags.**  A text is read exactly if it is the text of a tag, and then of one tag only; it is read
as what the tag asks for, with its pre-release or its channel.  What stands behind a plus sign is never a
pre-release, whatever hyphens it has. -/
theorem ofTag?_reads_tags :
    (∀ raw, (∃ v, ofTag? raw = some v) ↔ ∃ t : Tag, t.text = raw) ∧
    (∀ t t' : Tag, t.text = t'.text → t = t') ∧
    (∀ t : Tag, ofTag? t.text = some ⟨t.text, t.kind, t.label⟩) ∧
    ∀ core build, ofTag? (Tag.exact core none build).text =
      some ⟨(Tag.exact core none build).text, .exact, none⟩ := by
  refine ⟨fun raw => ⟨?read, ?written⟩, fun t t' h => Tag.text_injective h, Tag.ofTag?_text,
    fun core build => Tag.ofTag?_text _⟩
  case read =>
    rintro ⟨v, hv⟩
    obtain ⟨t, hchars, -⟩ := spells_iff.mp (ofTag?_eq_some_iff.mp hv).2
    refine ⟨t, ?_⟩
    rw [Tag.text, hchars, String.ofList_toList]
  case written =>
    rintro ⟨t, rfl⟩
    exact ⟨_, t.ofTag?_text⟩

/-- Three numbers and a build with a hyphen. -/
def builtTag : Tag :=
  .exact ⟨⟨"1", isRun_iff_isLabel.mpr (by decide)⟩, ⟨"2", isRun_iff_isLabel.mpr (by decide)⟩,
    ⟨"3", isRun_iff_isLabel.mpr (by decide)⟩⟩ none (some ⟨"build-7", isRun_iff_isLabel.mpr (by decide)⟩)

theorem builtTag_read :
    ofTag? "1.2.3+build-7" = some ⟨"1.2.3+build-7", .exact, none⟩ ∧
      ∀ t : Tag, t.text = "1.2.3+build-7" → t = builtTag := by
  obtain ⟨-, hunique, hreads, -⟩ := ofTag?_reads_tags
  have htext : builtTag.text = "1.2.3+build-7" := by decide
  refine ⟨?_, fun t ht => hunique t builtTag (ht.trans htext.symm)⟩
  have hread := hreads builtTag
  rwa [htext] at hread

end WorkflowCheck.Version
