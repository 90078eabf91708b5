import Mathlib.Data.List.Chain
import WorkflowCheck.Json.Printer
import WorkflowCheck.Json.Token

/-!
# Written strings are read back

A character is written as itself, as an escape, or as the escapes of its two halves.  An escape is read alone
unless the next one is its other half.  So what is written of a text is read as that text, if no two lone
surrogates in it are the halves of one character (`Unpaired`).
-/

namespace WorkflowCheck.Json

open Token (hexDigit? unit? pair? stringBody)

/-! ### Units -/

section Units

variable {n : Nat}

theorem hexDigit?_digitChar : ∀ k < 16, hexDigit? k.digitChar = some k := by
  decide

theorem hexPadded_succ {width : Nat} (hwidth : 0 < width) (n : Nat) :
    Text.hexPadded (width + 1) n = Text.hexPadded width (n / 16) ++ [(n % 16).digitChar] := by
  unfold Text.hexPadded
  rcases Nat.lt_or_ge n 16 with hlt | hge
  · rw [Nat.toDigits_of_lt_base hlt, Nat.div_eq_of_lt hlt, Nat.mod_eq_of_lt hlt, Nat.toDigits_zero]
    obtain ⟨w, rfl⟩ := Nat.exists_eq_add_of_lt hwidth
    simp [List.replicate_succ']
  · rw [Nat.toDigits_of_base_le (by decide) hge]
    simp [List.append_assoc]

theorem hexPadded_one (h : n < 16) : Text.hexPadded 1 n = [n.digitChar] := by
  rw [Text.hexPadded, Nat.toDigits_of_lt_base h]
  rfl

/-- The escape of a unit has four digits, and they are read as that unit. -/
theorem unitEscape_eq (h : n < 0x10000) :
    ∃ a b c d, unitEscape n = ['\\', 'u', a, b, c, d] ∧ unit? a b c d = some n := by
  have hfour : Text.hexPadded 4 n = [(n / 16 / 16 / 16).digitChar, (n / 16 / 16 % 16).digitChar,
      (n / 16 % 16).digitChar, (n % 16).digitChar] := by
    rw [hexPadded_succ (by decide), hexPadded_succ (by decide), hexPadded_succ (by decide),
      hexPadded_one (by omega)]
    rfl
  refine ⟨_, _, _, _, by rw [unitEscape, hfour], ?_⟩
  simp only [unit?, hexDigit?_digitChar _ (show n / 16 / 16 / 16 < 16 by omega),
    hexDigit?_digitChar _ (Nat.mod_lt _ (show 0 < 16 by decide)), bind, Option.bind, pure]
  congr 1
  omega

end Units

/-! ### Escapes -/

/-- The unit whose escape a text begins with. -/
def unitAhead? : List Char → Option Nat
  | '\\' :: 'u' :: e :: f :: g :: h :: _ => unit? e f g h
  | _ => none

section Escapes

variable {cs : List Char} {n high low : Nat}

theorem unitAhead?_unitEscape (h : n < 0x10000) : unitAhead? (unitEscape n ++ cs) = some n := by
  obtain ⟨a, b, c, d, heq, hunit⟩ := unitEscape_eq h
  rw [heq]
  exact hunit

/-- The escape of a unit is read alone unless the other half of a character is ahead. -/
theorem stringBody_unitEscape (h : n < 0x10000) (hahead : ∀ m ∈ unitAhead? cs, pair? n m = none) :
    stringBody (unitEscape n ++ cs) =
      (stringBody cs).map fun body => (Text.charOfCode n :: body.1, body.2) := by
  obtain ⟨a, b, c, d, heq, hunit⟩ := unitEscape_eq h
  rw [heq]
  show stringBody ('\\' :: 'u' :: a :: b :: c :: d :: cs) = _
  generalize hbody : stringBody cs = body
  unfold Token.stringBody
  split
  case h_1 hcs => cases hcs
  case h_2 e f g h rest hcs =>
    cases hcs
    have hnone : (unit? e f g h).bind (pair? n) = none := by
      cases hm : unit? e f g h with
      | none => rfl
      | some m => exact hahead m hm
    simp only [hunit, hnone, hbody, Option.bind_eq_bind, Option.bind_some]
    cases body <;> rfl
  case h_3 hcs =>
    cases hcs
    simp only [hunit, hbody, Option.bind_eq_bind, Option.bind_some]
    cases body <;> rfl
  case h_4 hno hcs =>
    cases hcs
    exact absurd rfl (hno _ _ _ _ _ rfl)
  case h_5 hno hcs =>
    cases hcs
    exact absurd rfl (hno _ _ rfl)
  case h_6 hcs => cases hcs

/-- The escapes of the halves of a character are read as that character. -/
theorem stringBody_pair (hhigh : high < 0x10000) (hlow : low < 0x10000) (hpair : pair? high low = some n) :
    stringBody (unitEscape high ++ (unitEscape low ++ cs)) =
      (stringBody cs).map fun body => (Char.ofNat n :: body.1, body.2) := by
  obtain ⟨a, b, c, d, heq, hunit⟩ := unitEscape_eq hhigh
  obtain ⟨e, f, g, h, heq', hunit'⟩ := unitEscape_eq hlow
  rw [heq, heq']
  show stringBody ('\\' :: 'u' :: a :: b :: c :: d :: '\\' :: 'u' :: e :: f :: g :: h :: cs) = _
  rw [Token.stringBody]
  simp only [hunit, hunit', hpair, Option.bind_eq_bind, Option.bind_some]
  cases stringBody cs <;> rfl

theorem stringBody_escaped {c x : Char} (hx : x ≠ 'u') (hc : Token.escaped? x = some c) :
    stringBody ('\\' :: x :: cs) = (stringBody cs).map fun body => (c :: body.1, body.2) := by
  rw [Token.stringBody.eq_4 _ _ (fun _ _ _ _ _ _ _ _ _ h => absurd h hx) fun _ _ _ _ _ h => absurd h hx, hc]
  simp only [Option.bind_eq_bind, Option.bind_some]
  cases stringBody cs <;> rfl

theorem stringBody_self {c : Char} (hquote : c ≠ '"') (hslash : c ≠ '\\') (hc : 0x20 ≤ c.toNat) :
    stringBody (c :: cs) = (stringBody cs).map fun body => (c :: body.1, body.2) := by
  rw [Token.stringBody.eq_5 _ _ hquote (fun _ _ _ _ _ _ _ _ _ h => absurd h hslash)
    (fun _ _ _ _ _ h => absurd h hslash) fun _ _ h => absurd h hslash, if_neg (Nat.not_lt.mpr hc)]
  cases stringBody cs <;> rfl

end Escapes

/-! ### Characters -/

/-- A character beyond the first plane, but for those that stand for lone surrogates. -/
def IsWide (c : Char) : Prop :=
  0x10000 ≤ c.toNat ∧ Text.surrogate? c = none

instance : DecidablePred IsWide := fun c =>
  inferInstanceAs (Decidable (0x10000 ≤ c.toNat ∧ Text.surrogate? c = none))

section Characters

variable {c : Char} {cs : List Char} {n m high low : Nat}

theorem pair?_eq_some_iff : pair? high low = some n ↔
    (0xD800 ≤ high ∧ high < 0xDC00 ∧ 0xDC00 ≤ low ∧ low < 0xE000) ∧
      0x10000 + (high - 0xD800) * 0x400 + (low - 0xDC00) = n := by
  rw [Token.pair?, Option.ite_none_right_eq_some, Option.some.injEq]

/-- What is no surrogate is not one of the halves of a character. -/
theorem pair?_eq_none_of_not_surrogate (h : Text.isSurrogate n = false) (m : Nat) :
    pair? n m = none ∧ pair? m n = none := by
  simp only [Text.isSurrogate, Bool.and_eq_false_iff, decide_eq_false_iff_not] at h
  constructor
  all_goals
    refine Option.eq_none_iff_forall_ne_some.mpr fun k hk => ?_
    have hhalves := (pair?_eq_some_iff.mp hk).1
    omega

/-- The first half of a character is the second half of none. -/
theorem pair?_eq_none_of_first (h : pair? high low = some n) (m : Nat) : pair? m high = none := by
  have hhigh := (pair?_eq_some_iff.mp h).1
  refine Option.eq_none_iff_forall_ne_some.mpr fun k hk => ?_
  have hlow := (pair?_eq_some_iff.mp hk).1
  omega

theorem surrogate?_eq_some (h : Text.surrogate? c = some n) :
    Text.isSurrogate n = true ∧ c.toNat = 0x100000 + n := by
  unfold Text.surrogate? at h
  split at h
  case isTrue hc =>
    rw [Bool.and_eq_true, decide_eq_true_eq] at hc
    obtain rfl := Option.some.inj h
    exact ⟨hc.2, by omega⟩
  case isFalse => cases h

theorem toNat_valid (c : Char) : c.toNat < 0xD800 ∨ 0xDFFF < c.toNat ∧ c.toNat < 0x110000 :=
  c.valid

/-- The halves of a wide character are units, and make it. -/
theorem IsWide.halves (h : IsWide c) : Text.highHalf c.toNat < 0x10000 ∧ Text.lowHalf c.toNat < 0x10000 ∧
    pair? (Text.highHalf c.toNat) (Text.lowHalf c.toNat) = some c.toNat := by
  have hlow := h.1
  have hhigh := toNat_valid c
  refine ⟨?_, ?_, pair?_eq_some_iff.mpr ?_⟩
  all_goals
    simp only [Text.highHalf, Text.lowHalf]
    omega

theorem isSurrogate_toNat (c : Char) : Text.isSurrogate c.toNat = false := by
  have hvalid := toNat_valid c
  rw [Text.isSurrogate, Bool.and_eq_false_iff, decide_eq_false_iff_not, decide_eq_false_iff_not]
  omega

/-- How a character is written: as a letter behind a backslash, as itself, as the escape of a unit, or as the
escapes of its two halves when it is wide. -/
theorem stringChar_cases (c : Char) :
    (¬IsWide c ∧
      ((∃ x, x ≠ 'u' ∧ Token.escaped? x = some c ∧ stringChar c = ['\\', x]) ∨
        (c ≠ '"' ∧ c ≠ '\\' ∧ 0x20 ≤ c.toNat ∧ c.toNat < 0x7F ∧ stringChar c = [c]) ∨
        ∃ n < 0x10000, Text.charOfCode n = c ∧ stringChar c = unitEscape n ∧
          (Text.surrogate? c = some n ∨ Text.isSurrogate n = false))) ∨
      IsWide c ∧ stringChar c = unitEscape (Text.highHalf c.toNat) ++ unitEscape (Text.lowHalf c.toNat) := by
  unfold stringChar
  split
  case h_8 hquote hslash _ _ _ _ _ =>
    dsimp only
    by_cases hself : 0x20 ≤ c.toNat ∧ c.toNat < 0x7F
    · rw [if_pos hself]
      have hnarrow : ¬IsWide c := fun h => absurd h.1 (by omega)
      exact .inl ⟨hnarrow, .inr (.inl ⟨hquote, hslash, hself.1, hself.2, rfl⟩)⟩
    · rw [if_neg hself]
      cases hs : Text.surrogate? c with
      | some n =>
        obtain ⟨hn, hc⟩ := surrogate?_eq_some hs
        have hlt : n < 0x10000 := by
          rw [Text.isSurrogate, Bool.and_eq_true, decide_eq_true_eq, decide_eq_true_eq] at hn
          omega
        have hnarrow : ¬IsWide c := fun h => absurd (h.2.symm.trans hs) nofun
        refine .inl ⟨hnarrow, .inr (.inr ⟨n, hlt, ?_, rfl, .inl rfl⟩)⟩
        rw [Text.charOfCode, if_pos hn, ← hc, Char.ofNat_toNat]
      | none =>
        have hn : Text.isSurrogate c.toNat = false := isSurrogate_toNat c
        dsimp only
        split_ifs with hlt
        · have hnarrow : ¬IsWide c := fun h => Nat.not_lt.mpr h.1 hlt
          refine .inl ⟨hnarrow, .inr (.inr ⟨c.toNat, hlt, ?_, rfl, .inr hn⟩)⟩
          rw [Text.charOfCode, if_neg (Bool.eq_false_iff.mp hn), Char.ofNat_toNat]
        · exact .inr ⟨⟨Nat.le_of_not_lt hlt, hs⟩, rfl⟩
  all_goals exact .inl ⟨by decide, .inl ⟨_, by decide, rfl, rfl⟩⟩

theorem exists_of_unitAhead? (h : unitAhead? cs = some m) : ∃ rest, cs = '\\' :: 'u' :: rest := by
  unfold unitAhead? at h
  split at h
  · exact ⟨_, rfl⟩
  · cases h

/-- The unit that a written character begins with is that of its surrogate, or it is the second half of
nothing. -/
theorem surrogate?_of_unitAhead? (h : unitAhead? (stringChar c ++ cs) = some m) :
    Text.surrogate? c = some m ∨ ∀ n, pair? n m = none := by
  obtain ⟨-, ⟨x, hx, hescaped, hc⟩ | ⟨hquote, hslash, -, -, hc⟩ | ⟨n, hn, -, hc, hsurrogate⟩⟩ | ⟨hwide, hc⟩ :=
    stringChar_cases c
  · obtain ⟨rest, hrest⟩ := exists_of_unitAhead? h
    rw [hc] at hrest
    cases hrest
    exact absurd rfl hx
  · obtain ⟨rest, hrest⟩ := exists_of_unitAhead? h
    rw [hc] at hrest
    cases hrest
    exact absurd rfl hslash
  · rw [hc, unitAhead?_unitEscape hn] at h
    cases h
    exact hsurrogate.imp_right fun hn n => (pair?_eq_none_of_not_surrogate hn n).2
  · obtain ⟨hhigh, -, hpair⟩ := hwide.halves
    rw [hc, List.append_assoc, unitAhead?_unitEscape hhigh] at h
    cases h
    exact .inr fun n => pair?_eq_none_of_first hpair n

/-- A written character is read back, unless it is a surrogate and the other half is ahead. -/
theorem stringBody_stringChar
    (h : ∀ n ∈ Text.surrogate? c, ∀ m ∈ unitAhead? cs, pair? n m = none) :
    stringBody (stringChar c ++ cs) = (stringBody cs).map fun body => (c :: body.1, body.2) := by
  obtain ⟨-, ⟨x, hx, hescaped, hc⟩ | ⟨hquote, hslash, hlow, -, hc⟩ | ⟨n, hn, hcode, hc, hsurrogate⟩⟩ | ⟨hwide, hc⟩ :=
    stringChar_cases c
  · rw [hc]
    exact stringBody_escaped hx hescaped
  · rw [hc]
    exact stringBody_self hquote hslash hlow
  · rw [hc, stringBody_unitEscape hn, hcode]
    rcases hsurrogate with hsurrogate | hn
    · exact h n hsurrogate
    · exact fun m _ => (pair?_eq_none_of_not_surrogate hn m).1
  · obtain ⟨hhigh, hlow, hpair⟩ := hwide.halves
    rw [hc, List.append_assoc, stringBody_pair hhigh hlow hpair, Char.ofNat_toNat]

end Characters

/-! ### Texts -/

/-- Two characters are not the lone surrogates that are the halves of one character. -/
def Apart (c c' : Char) : Prop :=
  ∀ n ∈ Text.surrogate? c, ∀ m ∈ Text.surrogate? c', pair? n m = none

/-- No two lone surrogates that stand side by side in a text are the halves of one character. -/
def Unpaired (s : String) : Prop :=
  s.toList.IsChain Apart

theorem unpaired_of_no_surrogate {s : String} (h : Text.holdsSurrogate s = false) : Unpaired s := by
  refine (List.pairwise_of_forall_mem_list fun c hc _ _ n hn => ?_).isChain
  have hnone := List.any_eq_false.mp h c hc
  rw [hn] at hnone
  exact absurd rfl hnone

theorem stringBody_flatMap : ∀ {cs : List Char}, cs.IsChain Apart → ∀ rest,
    stringBody (cs.flatMap stringChar ++ '"' :: rest) = some (cs, rest)
  | [], _, rest => by rw [List.flatMap_nil, List.nil_append, Token.stringBody]
  | c :: cs, h, rest => by
    rw [List.flatMap_cons, List.append_assoc, stringBody_stringChar,
      stringBody_flatMap (show cs.IsChain Apart from h.tail)]
    · rfl
    · intro n hn m hm
      cases cs with
      | nil => cases hm
      | cons c' cs =>
        rw [List.flatMap_cons, List.append_assoc] at hm
        rcases surrogate?_of_unitAhead? hm with hm | hm
        · exact (List.isChain_cons_cons.mp h).1 n hn m hm
        · exact hm n

/-- A written text is read as that text, up to its closing quote. -/
theorem next?_stringText {s : String} (h : Unpaired s) (rest : List Char) :
    Token.next? ((stringText s).toList ++ rest) = some (.str s, rest) := by
  rw [stringText, String.toList_ofList, List.cons_append, List.cons_append, List.append_assoc,
    List.singleton_append]
  show (stringBody _).map _ = _
  rw [stringBody_flatMap h, Option.map_some]
  dsimp only
  rw [String.ofList_toList]

end WorkflowCheck.Json
