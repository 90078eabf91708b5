import Mathlib.Data.List.DropRight
import WorkflowCheck.Proofs.Json.Strings
import WorkflowCheck.Yaml.Token

/-!
# Strings of JSON as quoted scalars

A string as JSON writes it is a double-quoted scalar: every escape that is written is one of YAML, and no line is
folded, since no line ends inside.  Only the halves of a wide character are two escapes, which stay two lone
surrogates (`halved`); so the scalar is of the same text if and only if this holds no such character (`Narrow`).
-/

namespace WorkflowCheck.Yaml

open Json (IsWide stringChar stringText unitEscape)

/-! ### Characters that are printed -/

/-- A character of ASCII that is no control character. -/
def IsPrinted (c : Char) : Prop :=
  0x20 ≤ c.toNat ∧ c.toNat < 0x7F

instance : DecidablePred IsPrinted := fun c =>
  inferInstanceAs (Decidable (0x20 ≤ c.toNat ∧ c.toNat < 0x7F))

section Printed

variable {c : Char}

theorem IsPrinted.asBreak? (h : IsPrinted c) : asBreak? c = none := by
  have hnot : ∀ b : Char, b.toNat < 0x20 ∨ 0x7F ≤ b.toNat → c ≠ b := by
    rintro b hb rfl
    have hlow := h.1
    have hhigh := h.2
    omega
  rw [Yaml.asBreak?, if_neg (not_or.mpr ⟨hnot _ (by decide), hnot _ (by decide)⟩),
    if_neg (not_or.mpr ⟨hnot _ (by decide), hnot _ (by decide)⟩)]

theorem IsPrinted.isBreak (h : IsPrinted c) : isBreak c = false := by
  rw [Yaml.isBreak, h.asBreak?]
  rfl

theorem IsPrinted.isAllowed (h : IsPrinted c) : isAllowed c = true := by
  have hle : c.toNat ≤ 0x7E := Nat.le_of_lt_succ h.2
  simp [Yaml.isAllowed, h.1, hle]

theorem isPrinted_of_hexDigit? {n : Nat} (h : Json.Token.hexDigit? c = some n) : IsPrinted c := by
  have hrange : ∀ {a b : Char}, 0x20 ≤ a.toNat → b.toNat < 0x7F → a ≤ c → c ≤ b → IsPrinted c :=
    fun ha hb hac hcb => ⟨ha.trans hac, Nat.lt_of_le_of_lt hcb hb⟩
  unfold Json.Token.hexDigit? at h
  split_ifs at h with hdigit hlower hupper
  · rw [Char.isDigit, Bool.and_eq_true, decide_eq_true_eq, decide_eq_true_eq] at hdigit
    exact hrange (a := '0') (b := '9') (by decide) (by decide) hdigit.1 hdigit.2
  · exact hrange (by decide) (by decide) hlower.1 hlower.2
  · exact hrange (by decide) (by decide) hupper.1 hupper.2

theorem isPrinted_of_escaped? {x : Char} (h : Json.Token.escaped? x = some c) : IsPrinted x := by
  unfold Json.Token.escaped? at h
  split at h
  case h_9 => cases h
  all_goals exact ⟨by decide, by decide⟩

end Printed

/-! ### Blanks -/

/-- A space or the end of a line. -/
def isGap (c : Char) : Bool :=
  c == ' ' || c == '\n'

/-- A text from its next token on. -/
def ahead (cs : List Char) : List Char :=
  cs.dropWhile isGap

/-- A text of printed characters and ends of lines. -/
def IsText (cs : List Char) : Prop :=
  ∀ c ∈ cs, IsPrinted c ∨ c = '\n'

section Blanks

variable {bs cs : List Char} {c : Char}

theorem isGap_iff : isGap c = true ↔ c = ' ' ∨ c = '\n' := by
  rw [isGap, Bool.or_eq_true, beq_iff_eq, beq_iff_eq]

theorem ahead_of_gap (hc : isGap c = true) (cs : List Char) : ahead (c :: cs) = ahead cs :=
  List.dropWhile_cons_of_pos hc

theorem ahead_of_not_gap (hc : ¬isGap c = true) (cs : List Char) : ahead (c :: cs) = c :: cs :=
  List.dropWhile_cons_of_neg hc

theorem ahead_append (h : ∀ c ∈ bs, isGap c = true) : ahead (bs ++ cs) = ahead cs :=
  List.dropWhile_append_of_pos h

theorem ahead_ahead (cs : List Char) : ahead (ahead cs) = ahead cs :=
  List.dropWhile_idempotent isGap cs

theorem ahead_suffix (cs : List Char) : ahead cs <:+ cs :=
  List.dropWhile_suffix _

theorem ahead_eq_drop (cs : List Char) : cs.drop (cs.takeWhile isGap).length = ahead cs := by
  have hsplit : cs.takeWhile isGap ++ ahead cs = cs := List.takeWhile_append_dropWhile
  calc cs.drop (cs.takeWhile isGap).length
      = (cs.takeWhile isGap ++ ahead cs).drop (cs.takeWhile isGap).length := by rw [hsplit]
    _ = ahead cs := List.drop_left

end Blanks

/-! ### Single characters -/

section Characters

variable {c : Char} {n : Nat}

/-- The escape of a unit has four printed digits that stand for it. -/
theorem unitEscape_digits (h : n < 0x10000) :
    ∃ ds : List Char, unitEscape n = '\\' :: 'u' :: ds ∧ (∀ d ∈ ds, IsPrinted d) ∧
      ∀ rest, hexNumber? 4 (ds ++ rest) = some (n, rest) := by
  obtain ⟨a, b, c, d, heq, hunit⟩ := Json.unitEscape_eq h
  simp only [Json.Token.unit?, Option.bind_eq_bind, Option.bind_eq_some_iff, Option.pure_def,
    Option.some.injEq] at hunit
  obtain ⟨x, hx, y, hy, z, hz, w, hw, rfl⟩ := hunit
  refine ⟨[a, b, c, d], heq, ?_, fun rest => ?_⟩
  · simp only [List.forall_mem_cons]
    exact ⟨isPrinted_of_hexDigit? hx, isPrinted_of_hexDigit? hy, isPrinted_of_hexDigit? hz,
      isPrinted_of_hexDigit? hw, fun _ hd => absurd hd List.not_mem_nil⟩
  · have hlong : ¬([a, b, c, d] ++ rest).length < 4 := by simp
    rw [hexNumber?, if_neg hlong]
    simp [hx, hy, hz, hw, Nat.mul_comm]

/-- What is written of a character is printed. -/
theorem isPrinted_stringChar (c : Char) : ∀ x ∈ stringChar c, IsPrinted x := by
  have hslash : IsPrinted '\\' := ⟨by decide, by decide⟩
  have hletter : IsPrinted 'u' := ⟨by decide, by decide⟩
  have hunit : ∀ {n : Nat}, n < 0x10000 → ∀ x ∈ unitEscape n, IsPrinted x := by
    intro n hn
    obtain ⟨ds, heq, hds, -⟩ := unitEscape_digits hn
    rw [heq]
    exact List.forall_mem_cons.mpr ⟨hslash, List.forall_mem_cons.mpr ⟨hletter, hds⟩⟩
  obtain ⟨-, ⟨x, -, hx, hc⟩ | ⟨-, -, hlow, hhigh, hc⟩ | ⟨n, hn, -, hc, -⟩⟩ | ⟨hwide, hc⟩ := Json.stringChar_cases c
  all_goals rw [hc]
  · exact List.forall_mem_cons.mpr ⟨hslash, List.forall_mem_singleton.mpr (isPrinted_of_escaped? hx)⟩
  · exact List.forall_mem_singleton.mpr ⟨hlow, hhigh⟩
  · exact hunit hn
  · exact List.forall_mem_append.mpr ⟨hunit hwide.halves.1, hunit hwide.halves.2.1⟩

theorem escaped?_of_json {x : Char} (h : Json.Token.escaped? x = some c) : escaped? x = some c := by
  unfold Json.Token.escaped? at h
  split at h
  case h_9 => cases h
  all_goals exact h

end Characters

/-! ### Quoted scalars -/

/-- No character of a text is wide. -/
def Narrow (s : String) : Prop :=
  ∀ c ∈ s.toList, ¬IsWide c

-- by the members of the list, not by all characters
instance (s : String) : Decidable (Narrow s) :=
  List.decidableBAll (fun c => ¬IsWide c) s.toList

/-- What is read of a written character: itself, or its halves when it is wide. -/
def halves (c : Char) : List Char :=
  if IsWide c then [Text.charOfCode (Text.highHalf c.toNat), Text.charOfCode (Text.lowHalf c.toNat)] else [c]

/-- A text with two lone surrogates for each wide character. -/
def halved (s : String) : String :=
  String.ofList (s.toList.flatMap halves)

section Halves

variable {c : Char} {cs : List Char} {s : String}

theorem halves_of_wide (h : IsWide c) :
    halves c = [Text.charOfCode (Text.highHalf c.toNat), Text.charOfCode (Text.lowHalf c.toNat)] :=
  if_pos h

theorem halves_of_not_wide (h : ¬IsWide c) : halves c = [c] :=
  if_neg h

theorem length_halves (c : Char) : (halves c).length = if IsWide c then 2 else 1 := by
  rw [halves]
  split_ifs <;> rfl

/-- A text is longer with halves for each wide character that it has. -/
theorem length_flatMap_halves : ∀ cs : List Char,
    (cs.flatMap halves).length = cs.length + cs.countP fun c => decide (IsWide c)
  | [] => rfl
  | c :: cs => by
    rw [List.flatMap_cons, List.length_append, length_halves, length_flatMap_halves cs, List.length_cons,
      List.countP_cons]
    simp only [decide_eq_true_eq]
    split_ifs <;> omega

theorem halved_eq_self_iff : halved s = s ↔ Narrow s := by
  constructor
  · intro h c hc hwide
    have hsame : s.toList.flatMap halves = s.toList := by
      have hlist := congrArg String.toList h
      rwa [halved, String.toList_ofList] at hlist
    have hlength := congrArg List.length hsame
    rw [length_flatMap_halves] at hlength
    have hcount : 0 < s.toList.countP fun c => decide (IsWide c) :=
      List.countP_pos_iff.mpr ⟨c, hc, decide_eq_true hwide⟩
    omega
  · intro h
    have hsame : s.toList.flatMap halves = s.toList := by
      rw [List.flatMap_congr fun c hc => halves_of_not_wide (h c hc), List.flatMap_singleton']
    rw [halved, hsame, String.ofList_toList]

theorem map_halved_eq_self_iff {ss : List String} : ss.map halved = ss ↔ ∀ s ∈ ss, Narrow s := by
  have hmap : ss.map halved = ss.map id ↔ ∀ s ∈ ss, halved s = s := List.map_inj_left
  rw [List.map_id] at hmap
  exact hmap.trans (forall₂_congr fun s _ => halved_eq_self_iff)

end Halves

section Strings

variable {beyond : Fault} {steps : Nat} {c : Char} {cs rest : List Char}

/-- In front of a quote no line ends behind blanks. -/
theorem break?_dropWhile_printed (rest : List Char) : ∀ {cs : List Char}, (∀ c ∈ cs, IsPrinted c) →
    break? ((cs ++ '"' :: rest).dropWhile isSpaceOrTab) = none
  | [], _ => rfl
  | c :: cs, h => by
    obtain ⟨hc, hcs⟩ := List.forall_mem_cons.mp h
    rw [List.cons_append, List.dropWhile_cons]
    split
    case isTrue => exact break?_dropWhile_printed rest hcs
    case isFalse => rw [break?, hc.asBreak?, Option.map_none]

/-- An escape is read as its character. -/
theorem quotedText_unitEscape {n : Nat} (hn : n < 0x10000) (cs : List Char) :
    quotedText true beyond (steps + 1) (unitEscape n ++ cs) =
      (quotedText true beyond steps cs).map fun (more, rest) => (Text.charOfCode n :: more, rest) := by
  obtain ⟨ds, hunit, -, hnumber⟩ := unitEscape_digits hn
  have hchar : charOfHex beyond 4 (ds ++ cs) = .ok (Text.charOfCode n, cs) := by
    rw [charOfHex, hnumber]
    exact if_pos (by omega)
  have hescape : escape beyond ('u' :: (ds ++ cs)) = .ok ([Text.charOfCode n], cs) := by
    show Except.map _ (charOfHex beyond 4 _) = _
    rw [hchar]
    rfl
  rw [hunit]
  simp [quotedText, hescape, bind, Except.bind]

/-- A written character is read as itself, or as its halves. -/
theorem quotedText_stringChar (hcs : ∀ x ∈ cs, IsPrinted x) :
    quotedText true beyond ((halves c).length + steps) (stringChar c ++ (cs ++ '"' :: rest)) =
      (quotedText true beyond steps (cs ++ '"' :: rest)).map fun (more, rest) => (halves c ++ more, rest) := by
  obtain ⟨hnarrow, hcases⟩ | ⟨hwide, heq⟩ := Json.stringChar_cases c
  · rw [halves_of_not_wide hnarrow, List.length_singleton, Nat.add_comm]
    obtain ⟨x, -, hx, heq⟩ | ⟨hquote, hslash, hlow, hhigh, heq⟩ | ⟨n, hn, hcode, heq, -⟩ := hcases
    · rw [heq]
      simp [quotedText, escape, escaped?_of_json hx, bind, Except.bind]
    · rw [heq, List.singleton_append]
      have hbreak : isBreak c = false := IsPrinted.isBreak ⟨hlow, hhigh⟩
      have hline := break?_dropWhile_printed rest (List.forall_mem_cons.mpr ⟨⟨hlow, hhigh⟩, hcs⟩)
      rw [List.cons_append] at hline
      simp [quotedText, hquote, hslash, hbreak, hline]
    · rw [heq, quotedText_unitEscape hn, hcode]
      rfl
  · obtain ⟨hhigh, hlow, -⟩ := hwide.halves
    rw [halves_of_wide hwide, heq, List.append_assoc, Nat.add_comm]
    show quotedText true beyond (steps + 1 + 1) _ = _
    rw [quotedText_unitEscape hhigh, quotedText_unitEscape hlow]
    cases quotedText true beyond steps (cs ++ '"' :: rest) <;> rfl

theorem isPrinted_flatMap (cs : List Char) : ∀ x ∈ cs.flatMap stringChar, IsPrinted x := by
  intro x hx
  obtain ⟨c, -, hx⟩ := List.mem_flatMap.mp hx
  exact isPrinted_stringChar c x hx

/-- No more characters are read than are written. -/
theorem length_halves_le (c : Char) : (halves c).length ≤ (stringChar c).length := by
  obtain ⟨hnarrow, hcases⟩ | ⟨hwide, heq⟩ := Json.stringChar_cases c
  · have hpos : 0 < (stringChar c).length := by
      obtain ⟨x, -, -, heq⟩ | ⟨-, -, -, -, heq⟩ | ⟨n, -, -, heq, -⟩ := hcases
      all_goals
        rw [heq]
        exact Nat.succ_pos _
    rwa [length_halves, if_neg hnarrow]
  · have hunit : ∀ n, 2 ≤ (unitEscape n).length := by
      intro n
      rw [unitEscape, List.length_cons, List.length_cons]
      exact Nat.le_add_left 2 _
    rw [length_halves, if_pos hwide, heq, List.length_append]
    exact (hunit _).trans (Nat.le_add_right _ _)

theorem length_flatMap_halves_le : ∀ cs : List Char, (cs.flatMap halves).length ≤ (cs.flatMap stringChar).length
  | [] => Nat.le_refl 0
  | c :: cs => by
    rw [List.flatMap_cons, List.flatMap_cons, List.length_append, List.length_append]
    exact Nat.add_le_add (length_halves_le c) (length_flatMap_halves_le cs)

theorem quotedText_flatMap (rest : List Char) : ∀ {cs : List Char} {steps : Nat}, (cs.flatMap halves).length < steps →
    quotedText true beyond steps (cs.flatMap stringChar ++ '"' :: rest) = .ok (cs.flatMap halves, rest)
  | [], 0, hsteps => absurd hsteps (Nat.not_lt_zero _)
  | [], steps + 1, _ => rfl
  | c :: cs, steps, hsteps => by
    rw [List.flatMap_cons, List.length_append] at hsteps
    obtain ⟨more, rfl⟩ := Nat.exists_eq_add_of_le ((Nat.le_add_right _ _).trans hsteps.le)
    rw [List.flatMap_cons, List.append_assoc, quotedText_stringChar (isPrinted_flatMap cs),
      quotedText_flatMap rest (by omega)]
    rfl

/-- The text of a string is a quoted scalar, whatever follows it, with lone surrogates for the wide characters. -/
theorem quoted_stringText (s : String) (beyond : Fault) (rest : List Char) :
    Lexer.quoted true beyond ((stringText s).toList ++ rest) = .ok (.scalar (halved s) false, rest) := by
  rw [stringText, String.toList_ofList, List.cons_append, List.cons_append, List.append_assoc,
    List.singleton_append, Lexer.quoted, List.tail_cons, quotedText_flatMap]
  · rfl
  · have hle := length_flatMap_halves_le s.toList
    simp only [List.length_cons, List.length_append]
    omega

/-- A string is written in printed characters. -/
theorem isPrinted_stringText (s : String) : ∀ c ∈ (stringText s).toList, IsPrinted c := by
  have hquote : IsPrinted '"' := ⟨by decide, by decide⟩
  rw [stringText, String.toList_ofList]
  exact List.forall_mem_append.mpr ⟨List.forall_mem_cons.mpr ⟨hquote, isPrinted_flatMap _⟩,
    List.forall_mem_singleton.mpr hquote⟩

end Strings

/-! ### Plain scalars -/

/-- Behind blanks a text is over, or there is what may follow an item of a flow collection. -/
def Ends (cs : List Char) : Prop :=
  ∀ c, (ahead cs).head? = some c → c = ',' ∨ c = ']' ∨ c = '\x7d'

section Plain

variable {c : Char} {word cs : List Char}

theorem Ends.of_cons (h : Ends (c :: cs)) (hc : isGap c = true) : Ends cs := by
  rwa [Ends, ahead_of_gap hc] at h

theorem Ends.head (h : Ends (c :: cs)) : isGap c = true ∨ c = ',' ∨ c = ']' ∨ c = '\x7d' := by
  by_cases hc : isGap c = true
  · exact .inl hc
  · refine .inr (h c ?_)
    rw [ahead_of_not_gap hc]
    rfl

theorem Ends.atMarker (h : Ends cs) : atMarker cs = false := by
  unfold Yaml.atMarker
  split
  case h_3 => rfl
  all_goals exact absurd h.head (by decide)

theorem Ends.plainRun (h : Ends cs) : plainRun true cs = ([], cs) := by
  cases cs with
  | nil => rfl
  | cons c cs =>
    have hstops : stopsPlain true c cs = true := by
      rcases h.head with hc | rfl | rfl | rfl
      · rcases isGap_iff.mp hc with rfl | rfl <;> rfl
      all_goals rfl
    exact if_pos hstops

/-- The lines behind a plain scalar are passed up to what ends it. -/
theorem Ends.plainLines (h : Ends cs) (hcs : IsText cs) (column : Nat) :
    ∃ bs column', plainLines column cs = (some bs, column', ahead cs) := by
  induction cs generalizing column with
  | nil => exact ⟨[], column, rfl⟩
  | cons c cs ih =>
    obtain ⟨hc, htext⟩ := List.forall_mem_cons.mp hcs
    by_cases hgap : isGap c = true
    · have hrest := h.of_cons hgap
      rw [ahead_of_gap hgap]
      rcases isGap_iff.mp hgap with rfl | rfl
      · exact ih hrest htext (column + 1)
      · obtain ⟨bs, column', hlines⟩ := ih hrest htext 0
        refine ⟨'\n' :: bs, column', ?_⟩
        simp [Yaml.plainLines, asBreak?, hrest.atMarker, hlines]
    · obtain ⟨hspace, hline⟩ := not_or.mp (mt isGap_iff.mpr hgap)
      have hbreak := (hc.resolve_right hline).asBreak?
      exact ⟨[], column, by simp [Yaml.plainLines, hspace, hbreak, ahead_of_not_gap hgap]⟩

theorem Ends.plainGap (h : Ends cs) (hcs : IsText cs) : (plainGap cs).rest = ahead cs := by
  have hsplit : cs.takeWhile (· == ' ') ++ cs.dropWhile (· == ' ') = cs := List.takeWhile_append_dropWhile
  have hspaces : ∀ c ∈ cs.takeWhile (· == ' '), isGap c = true := by
    intro c hc
    have hspace := List.mem_takeWhile_imp hc
    exact isGap_iff.mpr (.inl (beq_iff_eq.mp hspace))
  have hahead : ahead (cs.dropWhile (· == ' ')) = ahead cs := by
    rw [← ahead_append hspaces, hsplit]
  have hends : Ends (cs.dropWhile (· == ' ')) := by
    rwa [Ends, hahead]
  have htext : IsText (cs.dropWhile (· == ' ')) := fun c hc => hcs c ((List.dropWhile_suffix _).mem hc)
  have hnospace : ∀ c r, cs.dropWhile (· == ' ') = c :: r → c ≠ ' ' := by
    rintro c r hr rfl
    have hhead := List.head?_dropWhile_not (· == ' ') cs
    rw [hr] at hhead
    cases hhead
  rw [← hahead]
  unfold Yaml.plainGap
  generalize cs.dropWhile (· == ' ') = r at *
  cases r with
  | nil => rfl
  | cons c r =>
    obtain ⟨hc, hr⟩ := List.forall_mem_cons.mp htext
    by_cases hline : c = '\n'
    · subst hline
      have hrest := hends.of_cons rfl
      obtain ⟨bs, column, hlines⟩ := hrest.plainLines hr 0
      simp [break?, asBreak?, hrest.atMarker, hlines]
      rfl
    · have hgap : ¬isGap c = true := mt isGap_iff.mp (not_or.mpr ⟨hnospace c r rfl, hline⟩)
      rw [ahead_of_not_gap hgap]
      simp [break?, (hc.resolve_right hline).asBreak?]

theorem Ends.plainText (h : Ends cs) (column : Int) (steps : Nat) (passed : Bool) :
    plainText true column steps passed cs = ⟨[], passed, cs⟩ := by
  cases steps with
  | zero => rfl
  | succ steps =>
    rw [Yaml.plainText, h.plainRun]
    rfl

theorem plainRun_append (hword : ∀ c ∈ word, ∀ r, stopsPlain true c r = false) (h : Ends cs) :
    plainRun true (word ++ cs) = (word, cs) := by
  induction word with
  | nil => exact h.plainRun
  | cons c word ih =>
    obtain ⟨hc, hword⟩ := List.forall_mem_cons.mp hword
    rw [List.cons_append, plainRun, if_neg (Bool.eq_false_iff.mp (hc _)), ih hword]

/-- A word is a plain scalar where an item of a flow collection ends. -/
theorem plainText_word (hword : ∀ c ∈ word, ∀ r, stopsPlain true c r = false) (hne : word ≠ [])
    (hcs : IsText cs) (h : Ends cs) (column : Int) (steps : Nat) (passed : Bool) :
    (plainText true column (steps + 1) passed (word ++ cs)).text = word ∧
      (plainText true column (steps + 1) passed (word ++ cs)).rest = ahead cs := by
  have hempty : ¬word.isEmpty = true := fun hw => hne (List.isEmpty_iff.mp hw)
  have hahead : Ends (ahead cs) := by
    rwa [Ends, ahead_ahead]
  rw [Yaml.plainText, plainRun_append hword h]
  dsimp only
  rw [if_neg hempty, h.plainGap hcs]
  rw [hahead.plainText]
  simp only [List.isEmpty_nil, if_true]
  split_ifs
  · exact ⟨rfl, rfl⟩
  · exact ⟨rfl, rfl⟩

end Plain

end WorkflowCheck.Yaml
