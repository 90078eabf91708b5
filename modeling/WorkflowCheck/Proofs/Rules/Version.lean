import Mathlib.Data.List.TakeWhile
import WorkflowCheck.Rules.Version

/-!
# The grammar of version tags

`Version.Spells` gives the three forms of a tag as a grammar: three numbers with a pre-release and a build
if need be, the word `latest` with a channel if need be, and three numbers behind an operator.  Reading
a tag accepts exactly these texts and finds in them what the grammar names
(`Version.ofTag?_eq_some_iff`).  No form can be taken for another, since the first character tells them
apart: a digit, a letter, or a sign.
-/

namespace WorkflowCheck.Version

/-! ### The grammar -/

/-- A text that is not empty and of one class of characters. -/
def IsRun (inClass : Char → Bool) (cs : List Char) : Prop :=
  cs ≠ [] ∧ ∀ c ∈ cs, inClass c = true

/-- Three numbers between points. -/
def IsCore (cs : List Char) : Prop :=
  ∃ a b c, IsRun Char.isDigit a ∧ IsRun Char.isDigit b ∧ IsRun Char.isDigit c ∧
    cs = a ++ '.' :: (b ++ '.' :: c)

/-- A part that may be left out, or else is a label behind a mark. -/
def IsPart (mark : Char) (inClass : Char → Bool) : Option String → List Char → Prop
  | none, cs => cs = []
  | some label, cs => cs = mark :: label.toList ∧ IsRun inClass label.toList

/-- Three numbers, a pre-release if there is one, and perhaps a build. -/
def SpellsExact (cs : List Char) (label : Option String) : Prop :=
  ∃ core pre build, IsCore core ∧ IsPart '-' isLabelChar label pre ∧
    (∃ tag, IsPart '+' isLabelChar tag build) ∧ cs = core ++ (pre ++ build)

/-- The word `latest`, and a channel if there is one. -/
def SpellsLatest (cs : List Char) (channel : Option String) : Prop :=
  ∃ rest, IsPart '-' isChannelChar channel rest ∧ cs = ['l', 'a', 't', 'e', 's', 't'] ++ rest

/-- The operators and what they ask for. -/
def operators : List (List Char × VersionKind) :=
  [(['^'], .caret), (['~'], .tilde), (['>', '='], .comparison), (['<', '='], .comparison),
    (['>'], .comparison), (['<'], .comparison)]

/-- Three numbers behind an operator. -/
def SpellsRange (cs : List Char) (kind : VersionKind) : Prop :=
  ∃ op core, (op, kind) ∈ operators ∧ IsCore core ∧ cs = op ++ core

/-- A text is a tag of a kind, with a pre-release or a channel if there is one. -/
def Spells (cs : List Char) (kind : VersionKind) (label : Option String) : Prop :=
  (kind = .exact ∧ SpellsExact cs label) ∨ (kind = .latest ∧ SpellsLatest cs label) ∨
    (SpellsRange cs kind ∧ label = none)

/-! ### Runs at the start of a text -/

/-- The text does not start with a character of a class. -/
def StartsOutside (inClass : Char → Bool) (cs : List Char) : Prop :=
  ∀ c ∈ cs.head?, inClass c = false

section Runs

variable {inClass : Char → Bool} {cs rest : List Char}

theorem startsOutside_dropWhile (inClass : Char → Bool) (cs : List Char) :
    StartsOutside inClass (cs.dropWhile inClass) := by
  intro c hc
  have h := List.head?_dropWhile_not inClass cs
  rw [Option.mem_def.mp hc] at h
  exact h

theorem isRun_takeWhile_append (h : ∀ c ∈ cs, inClass c = true)
    (hrest : StartsOutside inClass rest) :
    (cs ++ rest).takeWhile inClass = cs ∧ (cs ++ rest).dropWhile inClass = rest := by
  rw [List.takeWhile_append_of_pos h, List.dropWhile_append_of_pos h]
  cases rest with
  | nil => simp
  | cons c rest =>
    have hc : inClass c = false := hrest c rfl
    simp [hc]

theorem isRun_iff_isLabel : IsRun inClass cs ↔ isLabel inClass cs = true := by
  rw [IsRun, isLabel, Bool.and_eq_true, List.all_eq_true]
  cases cs <;> simp

end Runs

/-! ### The three numbers -/

section Core

variable {cs rest : List Char}

theorem afterDigits?_eq_some_iff :
    afterDigits? cs = some rest ↔
      ∃ run, IsRun Char.isDigit run ∧ cs = run ++ rest ∧ StartsOutside Char.isDigit rest := by
  constructor
  · intro h
    cases cs with
    | nil => simp [afterDigits?] at h
    | cons c cs =>
      rw [afterDigits?] at h
      split_ifs at h with hc
      rw [Option.some.injEq] at h
      refine ⟨(c :: cs).takeWhile Char.isDigit, ⟨?_, ?_⟩, ?_, ?_⟩
      · simp [hc]
      · exact fun d hd => List.mem_takeWhile_imp hd
      · rw [← h, List.takeWhile_append_dropWhile]
      · rw [← h]
        exact startsOutside_dropWhile _ _
  · rintro ⟨run, ⟨hne, hrun⟩, rfl, hrest⟩
    obtain ⟨c, run, rfl⟩ := List.exists_cons_of_ne_nil hne
    have hdrop := (isRun_takeWhile_append hrun hrest).2
    have hc : c.isDigit = true := hrun c List.mem_cons_self
    rw [List.cons_append] at hdrop ⊢
    rw [afterDigits?, if_pos hc, hdrop]

theorem afterPoint?_eq_some_iff : afterPoint? cs = some rest ↔ cs = '.' :: rest := by
  unfold afterPoint?
  split
  · simp
  · rename_i hne
    refine ⟨fun h => by simp at h, ?_⟩
    rintro rfl
    exact absurd rfl (hne rest)

theorem startsOutside_point : StartsOutside Char.isDigit ('.' :: rest) := by
  intro c hc
  obtain rfl : '.' = c := by simpa using hc
  decide

theorem afterCore?_eq_some_iff :
    afterCore? cs = some rest ↔
      ∃ core, IsCore core ∧ cs = core ++ rest ∧ StartsOutside Char.isDigit rest := by
  simp only [afterCore?, Option.bind_eq_bind, Option.bind_eq_some_iff, afterPoint?_eq_some_iff]
  constructor
  · rintro ⟨_, ha, _, rfl, _, hb, _, rfl, hc⟩
    obtain ⟨a, hra, rfl, -⟩ := afterDigits?_eq_some_iff.mp ha
    obtain ⟨b, hrb, rfl, -⟩ := afterDigits?_eq_some_iff.mp hb
    obtain ⟨c, hrc, rfl, hrest⟩ := afterDigits?_eq_some_iff.mp hc
    exact ⟨_, ⟨a, b, c, hra, hrb, hrc, rfl⟩, by simp, hrest⟩
  · rintro ⟨_, ⟨a, b, c, hra, hrb, hrc, rfl⟩, rfl, hrest⟩
    refine ⟨'.' :: (b ++ '.' :: (c ++ rest)), ?_, _, rfl, '.' :: (c ++ rest), ?_, _, rfl, ?_⟩
    · exact afterDigits?_eq_some_iff.mpr ⟨a, hra, by simp, startsOutside_point⟩
    · exact afterDigits?_eq_some_iff.mpr ⟨b, hrb, rfl, startsOutside_point⟩
    · exact afterDigits?_eq_some_iff.mpr ⟨c, hrc, rfl, hrest⟩

/-- Three numbers start with a digit. -/
theorem IsCore.exists_digit (h : IsCore cs) : ∃ c more, cs = c :: more ∧ c.isDigit = true := by
  obtain ⟨a, b, c, ⟨hne, ha⟩, -, -, rfl⟩ := h
  obtain ⟨d, a, rfl⟩ := List.exists_cons_of_ne_nil hne
  exact ⟨d, _, rfl, ha d List.mem_cons_self⟩

end Core

/-! ### The three forms -/

section Forms

variable {cs : List Char} {label : Option String} {v : Version} {raw : String}

theorem isBuild_iff : isBuild cs = true ↔ ∃ tag, IsPart '+' isLabelChar tag cs := by
  constructor
  · intro h
    unfold isBuild at h
    split at h
    · exact ⟨none, rfl⟩
    · rename_i rest
      exact ⟨some (String.ofList rest), by simp, by simpa using isRun_iff_isLabel.mpr h⟩
    · simp at h
  · rintro ⟨_ | tag, h⟩
    · obtain rfl : cs = [] := h
      rfl
    · obtain ⟨rfl, hrun⟩ := h
      exact isRun_iff_isLabel.mp hrun

theorem startsOutside_build {inClass : Char → Bool} (hplus : inClass '+' = false)
    (h : ∃ tag, IsPart '+' isLabelChar tag cs) : StartsOutside inClass cs := by
  obtain ⟨_ | tag, h⟩ := h
  · obtain rfl : cs = [] := h
    simp [StartsOutside]
  · obtain ⟨rfl, -⟩ := h
    intro c hc
    obtain rfl : '+' = c := by simpa using hc
    exact hplus

theorem exactTail?_eq_some_iff :
    exactTail? cs = some label ↔
      ∃ pre build, IsPart '-' isLabelChar label pre ∧ (∃ tag, IsPart '+' isLabelChar tag build) ∧
        cs = pre ++ build := by
  constructor
  · intro h
    unfold exactTail? at h
    split at h
    · rename_i rest
      simp only [Option.ite_none_right_eq_some, Bool.and_eq_true, Option.some.injEq] at h
      obtain ⟨⟨hne, hbuild⟩, rfl⟩ := h
      refine ⟨'-' :: rest.takeWhile isLabelChar, rest.dropWhile isLabelChar, ⟨by simp, ?_, ?_⟩,
        isBuild_iff.mp hbuild, ?_⟩
      · simpa using hne
      · intro c hc
        rw [String.toList_ofList] at hc
        exact List.mem_takeWhile_imp hc
      · rw [List.cons_append, List.takeWhile_append_dropWhile]
    · simp only [Option.ite_none_right_eq_some, Option.some.injEq] at h
      obtain ⟨hbuild, rfl⟩ := h
      exact ⟨[], cs, rfl, isBuild_iff.mp hbuild, rfl⟩
  · rintro ⟨pre, build, hpre, hbuild, rfl⟩
    have hb := isBuild_iff.mpr hbuild
    cases label with
    | none =>
      obtain rfl : pre = [] := hpre
      rw [List.nil_append]
      unfold exactTail?
      split
      · simp [isBuild] at hb
      · rw [if_pos hb]
    | some label =>
      obtain ⟨rfl, hne, hrun⟩ := hpre
      obtain ⟨htake, hdrop⟩ :=
        isRun_takeWhile_append hrun (startsOutside_build (by decide) hbuild)
      rw [List.cons_append, exactTail?]
      simp only [htake, hdrop, hb, Bool.and_true, String.ofList_toList]
      rw [if_pos]
      simpa using hne

theorem startsOutside_tail {pre build : List Char} (hpre : IsPart '-' isLabelChar label pre)
    (hbuild : ∃ tag, IsPart '+' isLabelChar tag build) :
    StartsOutside Char.isDigit (pre ++ build) := by
  cases label with
  | none =>
    obtain rfl : pre = [] := hpre
    exact startsOutside_build (by decide) hbuild
  | some label =>
    obtain ⟨rfl, -⟩ := hpre
    intro c hc
    obtain rfl : '-' = c := by simpa using hc
    decide

theorem exactTag?_eq_some_iff :
    exactTag? raw = some v ↔
      v.raw = raw ∧ v.kind = .exact ∧ SpellsExact raw.toList v.prerelease := by
  rw [exactTag?, Option.map_eq_some_iff]
  simp only [Option.bind_eq_some_iff, afterCore?_eq_some_iff, exactTail?_eq_some_iff]
  constructor
  · rintro ⟨label, ⟨_, ⟨core, hcore, hraw, -⟩, pre, build, hpre, hbuild, rfl⟩, rfl⟩
    exact ⟨rfl, rfl, core, pre, build, hcore, hpre, hbuild, hraw⟩
  · rintro ⟨rfl, hkind, core, pre, build, hcore, hpre, hbuild, hraw⟩
    refine ⟨v.prerelease, ⟨pre ++ build, ⟨core, hcore, hraw, ?_⟩, pre, build, hpre, hbuild, rfl⟩, ?_⟩
    · exact startsOutside_tail hpre hbuild
    · rw [← hkind]

theorem latestTail?_eq_some_iff :
    latestTail? cs = some label ↔ IsPart '-' isChannelChar label cs := by
  unfold latestTail?
  split
  · cases label <;> simp [IsPart]
  · rename_i rest
    rw [Option.ite_none_right_eq_some, ← isRun_iff_isLabel, Option.some.injEq]
    constructor
    · rintro ⟨hrun, rfl⟩
      exact ⟨by simp, by simpa using hrun⟩
    · intro h
      cases label with
      | none => simp [IsPart] at h
      | some label =>
        obtain ⟨heq, hrun⟩ := h
        obtain rfl : rest = label.toList := by simpa using heq
        exact ⟨hrun, by simp⟩
  · rename_i hnil hdash
    refine ⟨fun h => by simp at h, fun h => ?_⟩
    cases label with
    | none => exact absurd h hnil
    | some label => exact absurd h.1 (hdash _)

theorem latestTag?_eq_some_iff :
    latestTag? raw = some v ↔
      v.raw = raw ∧ v.kind = .latest ∧ SpellsLatest raw.toList v.prerelease := by
  unfold latestTag?
  split
  · rename_i rest hraw
    rw [Option.map_eq_some_iff]
    simp only [latestTail?_eq_some_iff]
    constructor
    · rintro ⟨channel, hpart, rfl⟩
      exact ⟨rfl, rfl, rest, hpart, hraw⟩
    · rintro ⟨rfl, hkind, rest', hpart, heq⟩
      rw [hraw] at heq
      obtain rfl : rest = rest' := by simpa using heq
      exact ⟨v.prerelease, hpart, by rw [← hkind]⟩
  · rename_i hne
    refine ⟨fun h => by simp at h, ?_⟩
    rintro ⟨-, -, rest, -, heq⟩
    exact absurd heq (hne rest)

/-- An operator is read as far as it goes, and what follows it is kept. -/
theorem operator?_sound {kind : VersionKind} {rest : List Char}
    (h : operator? cs = some (kind, rest)) :
    ∃ op, (op, kind) ∈ operators ∧ cs = op ++ rest := by
  unfold operator? at h
  split at h <;> simp only [Option.some.injEq, Prod.mk.injEq, reduceCtorEq] at h <;>
    obtain ⟨rfl, rfl⟩ := h
  · exact ⟨['^'], by simp [operators], rfl⟩
  · exact ⟨['~'], by simp [operators], rfl⟩
  · exact ⟨['>', '='], by simp [operators], rfl⟩
  · exact ⟨['<', '='], by simp [operators], rfl⟩
  · exact ⟨['>'], by simp [operators], rfl⟩
  · exact ⟨['<'], by simp [operators], rfl⟩

/-- In front of three numbers an operator is read whole. -/
theorem operator?_complete {kind : VersionKind} {op core : List Char}
    (hop : (op, kind) ∈ operators) (hcore : IsCore core) :
    operator? (op ++ core) = some (kind, core) := by
  obtain ⟨c, more, rfl, hc⟩ := hcore.exists_digit
  have heq : c ≠ '=' := by
    rintro rfl
    exact absurd hc (by decide)
  simp only [operators, List.mem_cons, Prod.mk.injEq, List.not_mem_nil, or_false] at hop
  rcases hop with ⟨rfl, rfl⟩ | ⟨rfl, rfl⟩ | ⟨rfl, rfl⟩ | ⟨rfl, rfl⟩ | ⟨rfl, rfl⟩ | ⟨rfl, rfl⟩ <;>
    simp [operator?, heq]

theorem rangeTag?_eq_some_iff :
    rangeTag? raw = some v ↔
      v.raw = raw ∧ SpellsRange raw.toList v.kind ∧ v.prerelease = none := by
  simp only [rangeTag?, Option.bind_eq_bind, Option.bind_eq_some_iff, Prod.exists,
    Option.ite_none_right_eq_some, Option.some.injEq, List.isEmpty_iff]
  constructor
  · rintro ⟨kind, behind, hop, rest, hafter, rfl, rfl⟩
    obtain ⟨op, hmem, hraw⟩ := operator?_sound hop
    obtain ⟨core, hcore, rfl, -⟩ := afterCore?_eq_some_iff.mp hafter
    rw [List.append_nil] at hraw
    exact ⟨rfl, ⟨op, core, hmem, hcore, hraw⟩, rfl⟩
  · rintro ⟨rfl, ⟨op, core, hmem, hcore, hraw⟩, hnone⟩
    refine ⟨v.kind, core, ?_, [], ?_, rfl, ?_⟩
    · rw [hraw]
      exact operator?_complete hmem hcore
    · exact afterCore?_eq_some_iff.mpr ⟨core, hcore, by simp, by simp [StartsOutside]⟩
    · rw [← hnone]

/-! ### Telling the forms apart -/

theorem SpellsExact.exists_digit (h : SpellsExact cs label) :
    ∃ c more, cs = c :: more ∧ c.isDigit = true := by
  obtain ⟨core, pre, build, hcore, -, -, rfl⟩ := h
  obtain ⟨c, more, rfl, hc⟩ := hcore.exists_digit
  exact ⟨c, _, rfl, hc⟩

theorem SpellsLatest.exists_letter (h : SpellsLatest cs label) :
    ∃ more, cs = 'l' :: more := by
  obtain ⟨rest, -, rfl⟩ := h
  exact ⟨_, rfl⟩

theorem SpellsRange.exists_sign {kind : VersionKind} (h : SpellsRange cs kind) :
    ∃ c more, cs = c :: more ∧ c ∈ ['^', '~', '>', '<'] := by
  obtain ⟨op, core, hop, -, rfl⟩ := h
  simp only [operators, List.mem_cons, Prod.mk.injEq, List.not_mem_nil, or_false] at hop
  rcases hop with ⟨rfl, -⟩ | ⟨rfl, -⟩ | ⟨rfl, -⟩ | ⟨rfl, -⟩ | ⟨rfl, -⟩ | ⟨rfl, -⟩ <;>
    exact ⟨_, _, rfl, by decide⟩

theorem exactTag?_eq_none_of_cons {c : Char} {more : List Char} (h : raw.toList = c :: more)
    (hc : c.isDigit = false) : exactTag? raw = none := by
  rw [Option.eq_none_iff_forall_not_mem]
  intro v hv
  obtain ⟨-, -, hspells⟩ := exactTag?_eq_some_iff.mp hv
  obtain ⟨d, more', heq, hd⟩ := hspells.exists_digit
  rw [h, List.cons.injEq] at heq
  rw [← heq.1, hc] at hd
  exact absurd hd (by decide)

theorem latestTag?_eq_none_of_cons {c : Char} {more : List Char} (h : raw.toList = c :: more)
    (hc : c ≠ 'l') : latestTag? raw = none := by
  rw [Option.eq_none_iff_forall_not_mem]
  intro v hv
  obtain ⟨-, -, hspells⟩ := latestTag?_eq_some_iff.mp hv
  obtain ⟨more', heq⟩ := hspells.exists_letter
  rw [h, List.cons.injEq] at heq
  exact hc heq.1

/-- A text is read as the version that the grammar finds in it. -/
theorem ofTag?_eq_some_iff :
    ofTag? raw = some v ↔ v.raw = raw ∧ Spells raw.toList v.kind v.prerelease := by
  simp only [ofTag?, Option.orElse_eq_or, Option.or_eq_some_iff,
    Spells]
  constructor
  · rintro (h | ⟨-, h | ⟨-, h⟩⟩)
    · obtain ⟨hraw, hkind, hspells⟩ := exactTag?_eq_some_iff.mp h
      exact ⟨hraw, Or.inl ⟨hkind, hspells⟩⟩
    · obtain ⟨hraw, hkind, hspells⟩ := latestTag?_eq_some_iff.mp h
      exact ⟨hraw, Or.inr (Or.inl ⟨hkind, hspells⟩)⟩
    · obtain ⟨hraw, hspells, hnone⟩ := rangeTag?_eq_some_iff.mp h
      exact ⟨hraw, Or.inr (Or.inr ⟨hspells, hnone⟩)⟩
  · rintro ⟨hraw, ⟨hkind, hspells⟩ | ⟨hkind, hspells⟩ | ⟨hspells, hnone⟩⟩
    · exact Or.inl (exactTag?_eq_some_iff.mpr ⟨hraw, hkind, hspells⟩)
    · obtain ⟨more, hcons⟩ := hspells.exists_letter
      exact Or.inr ⟨exactTag?_eq_none_of_cons hcons (by decide),
        Or.inl (latestTag?_eq_some_iff.mpr ⟨hraw, hkind, hspells⟩)⟩
    · obtain ⟨c, more, hcons, hc⟩ := hspells.exists_sign
      have hsign : c.isDigit = false ∧ c ≠ 'l' := by
        revert hc
        simp only [List.mem_cons, List.not_mem_nil, or_false]
        rintro (rfl | rfl | rfl | rfl) <;> decide
      exact Or.inr ⟨exactTag?_eq_none_of_cons hcons hsign.1,
        Or.inr ⟨latestTag?_eq_none_of_cons hcons hsign.2,
          rangeTag?_eq_some_iff.mpr ⟨hraw, hspells, hnone⟩⟩⟩

/-- A text is a tag when some form of the grammar spells it. -/
def IsTag (raw : String) : Prop :=
  ∃ kind label, Spells raw.toList kind label

theorem isSome_ofTag?_iff : (ofTag? raw).isSome = true ↔ IsTag raw := by
  rw [Option.isSome_iff_exists]
  constructor
  · rintro ⟨v, hv⟩
    exact ⟨v.kind, v.prerelease, (ofTag?_eq_some_iff.mp hv).2⟩
  · rintro ⟨kind, label, h⟩
    exact ⟨⟨raw, kind, label⟩, ofTag?_eq_some_iff.mpr ⟨rfl, h⟩⟩

end Forms

end WorkflowCheck.Version
