import Mathlib.Logic.Relation
import WorkflowCheck.Proofs.Yaml.Scalar

/-!
# Tokens of a flow collection

What a lexer reads next in a text that holds flow collections only.  Blanks before a token do not matter, so a
lexer is described by what is ahead of it (`Before`).  Nothing there needs to be a key; a key is a quoted scalar
with a colon right behind it, whose place is still known when the colon is met (`Before.key`).
-/

namespace WorkflowCheck.Yaml

namespace Lexer

/-! ### Blanks -/

/-- The blanks of a text that no comment follows are its spaces and ends of lines. -/
theorem blanks_eq {cs : List Char} (hcs : IsText cs) (hcomment : (ahead cs).head? ≠ some '#') (passed : Bool)
    (n : Nat) : ∃ passed', blanks false passed n cs = (n + (cs.takeWhile isGap).length, passed') := by
  induction cs generalizing passed n with
  | nil => exact ⟨passed, rfl⟩
  | cons c cs ih =>
    obtain ⟨hc, hcs⟩ := List.forall_mem_cons.mp hcs
    by_cases hgap : isGap c = true
    · rw [ahead_of_gap hgap] at hcomment
      have hstep : ∃ p, blanks false passed n (c :: cs) = blanks false p (n + 1) cs := by
        rcases isGap_iff.mp hgap with rfl | rfl
        · exact ⟨passed, rfl⟩
        · exact ⟨true, rfl⟩
      obtain ⟨p, hp⟩ := hstep
      obtain ⟨p', hp'⟩ := ih hcs hcomment p (n + 1)
      refine ⟨p', ?_⟩
      rw [hp, hp', List.takeWhile_cons_of_pos hgap, List.length_cons]
      congr 1
      omega
    · rw [ahead_of_not_gap hgap, List.head?_cons, ne_eq, Option.some.injEq] at hcomment
      obtain ⟨hspace, hline⟩ := not_or.mp (mt isGap_iff.mpr hgap)
      have hbreak : isBreak c = false := (hc.resolve_right hline).isBreak
      refine ⟨passed, ?_⟩
      simp [blanks, hbreak, hspace, hline, hcomment, isGap]

/-! ### Lexers in flow collections -/

/-- A lexer stands in so many flow collections and in no other ones, and has read some tokens.  No key is needed
where it stands. -/
structure Stands (level : Nat) (ts : List Token) (s : Lexer) : Prop where
  text : IsText s.rest
  left : s.left = s.rest.length
  tokens : s.tokens.toList = ts
  level : s.flowLevel = level
  indent : s.indent = -1
  outer : s.outer = []
  keys : ∀ k ∈ s.keys, k.2.needed = false
  cut : s.cut = none
  finished : s.finished = false

section Standing

variable {level : Nat} {ts : List Token} {s : Lexer}

theorem Stands.pass (h : Stands level ts s) (n : Nat) : Stands level ts (s.pass n) where
  text c hc := h.text c (List.mem_of_mem_drop hc)
  left := by
    show s.left - n = (s.rest.drop n).length
    rw [h.left, List.length_drop]
  tokens := h.tokens
  level := h.level
  indent := h.indent
  outer := h.outer
  keys := h.keys
  cut := h.cut
  finished := h.finished

theorem Stands.emit (h : Stands level ts s) (t : Token) : Stands level (ts ++ [t]) (s.emit t) where
  text := h.text
  left := h.left
  tokens := by
    show (s.tokens.push t).toList = ts ++ [t]
    rw [Array.toList_push, h.tokens]
  level := h.level
  indent := h.indent
  outer := h.outer
  keys := h.keys
  cut := h.cut
  finished := h.finished

theorem Stands.withKeys (h : Stands level ts s) {ks : List (Nat × SavedKey)}
    (hks : ∀ k ∈ ks, k.2.needed = false) : Stands level ts { s with keys := ks } :=
  { h with keys := hks }

theorem Stands.withLevel (h : Stands level ts s) (allowed : Bool) (level' : Nat) :
    Stands level' ts { s with keyAllowed := allowed, flowLevel := level' } :=
  { h with level := rfl }

theorem Stands.withAllowed (h : Stands level ts s) (allowed : Bool) :
    Stands level ts { s with keyAllowed := allowed } :=
  { h with }

theorem Stands.inFlow (h : Stands (level + 1) ts s) : s.inFlow = true := by
  rw [Lexer.inFlow, h.level]
  rfl

theorem beforeCut_eq (h : s.cut = none) : s.beforeCut = .ok s := by
  unfold Lexer.beforeCut
  rw [h]
  split <;> rfl

theorem Stands.beforeCut (h : Stands level ts s) : s.beforeCut = .ok s :=
  beforeCut_eq h.cut

theorem Stands.closeTo (h : Stands level ts s) {column : Int} (hcolumn : -1 ≤ column) :
    s.closeTo column = s := by
  obtain ⟨rest, left, spot, tokens, flowLevel, indent, outer, allowed, keys, cut, finished⟩ := s
  obtain rfl : indent = -1 := h.indent
  obtain rfl : outer = [] := h.outer
  have hopen : ¬column < -1 := Int.not_lt.mpr hcolumn
  simp [Lexer.closeTo, hopen]

theorem Stands.dropStale (h : Stands level ts s) :
    s.dropStale = .ok { s with keys := s.keys.filter fun k => !s.isStale k.2 } := by
  have hnone : ¬(s.keys.any fun k => s.isStale k.2 && k.2.needed) = true := by
    rw [List.any_eq_true]
    rintro ⟨k, hk, hneeded⟩
    rw [h.keys k hk, Bool.and_false] at hneeded
    cases hneeded
  exact if_neg hnone

theorem Stands.dropKey (h : Stands level ts s) :
    ∃ ks, s.dropKey = .ok { s with keys := ks } ∧ ∀ k ∈ ks, k.2.needed = false := by
  unfold Lexer.dropKey
  split
  case h_1 => exact ⟨s.keys, rfl, h.keys⟩
  case h_2 k hk =>
    obtain ⟨before, behind, hsplit, -⟩ := List.lookup_eq_some_iff.mp hk
    have hmem : (s.flowLevel, k) ∈ s.keys := hsplit ▸ List.mem_append_right before List.mem_cons_self
    rw [if_neg (Bool.eq_false_iff.mp (h.keys _ hmem))]
    exact ⟨_, rfl, fun k hk => h.keys k (List.mem_of_mem_filter hk)⟩

/-- Where a key may start, its place is saved; it is not needed, for no block collection is open. -/
theorem Stands.saveKey (h : Stands level ts s) :
    ∃ ks, s.saveKey = .ok { s with keys := ks } ∧ (∀ k ∈ ks, k.2.needed = false) ∧
      (s.keyAllowed = true → ks.head? = some (level, ⟨ts.length, false, s.spot⟩)) := by
  obtain ⟨ks, hdrop, hks⟩ := h.dropKey
  by_cases hallowed : s.keyAllowed = true
  case neg => exact ⟨s.keys, if_neg hallowed, h.keys, fun htrue => absurd htrue hallowed⟩
  case pos =>
    have hneeded : (!s.inFlow && decide (s.indent = (s.spot.column : Int))) = false := by
      have hcolumn : ¬(-1 : Int) = s.spot.column := by omega
      rw [h.indent, decide_eq_false hcolumn, Bool.and_false]
    have hlength : s.tokens.size = ts.length := by rw [← h.tokens, Array.length_toList]
    refine ⟨(level, ⟨ts.length, false, s.spot⟩) :: ks, ?_, ?_, fun _ => rfl⟩
    · rw [Lexer.saveKey, if_pos hallowed, hdrop, ← hneeded, ← hlength, ← h.level]
      rfl
    · exact List.forall_mem_cons.mpr ⟨rfl, hks⟩

/-- What a lexer becomes in front of its next token: the blanks are passed, and the places of keys forgotten that
are stale there. -/
structure Settles (s t : Lexer) : Prop where
  settle : s.settle = .ok t
  rest : t.rest = ahead s.rest
  allowed : s.keyAllowed = true → t.keyAllowed = true
  keys : t.keys = s.keys.filter fun k => !t.isStale k.2
  spot : ahead s.rest = s.rest → t.spot = s.spot

theorem Stands.toNextToken_eq (h : Stands level ts s) (hcomment : (ahead s.rest).head? ≠ some '#') :
    ∃ allowed, (s.keyAllowed = true → allowed = true) ∧
      s.toNextToken = { s.pass (s.rest.takeWhile isGap).length with keyAllowed := allowed } := by
  obtain ⟨passed, hblanks⟩ := blanks_eq h.text hcomment false 0
  have hmark : s.markLength = 0 := by
    unfold Lexer.markLength
    split
    case h_1 r hr =>
      have hprinted := h.text '\ufeff' (hr ▸ List.mem_cons_self)
      exact absurd hprinted (by unfold IsPrinted; decide)
    case h_2 => rfl
  rw [Nat.zero_add] at hblanks
  rw [Lexer.toNextToken, hmark, List.drop_zero, hblanks]
  dsimp only
  split_ifs
  · exact ⟨true, fun _ => rfl, rfl⟩
  · exact ⟨s.keyAllowed, id, rfl⟩

theorem Stands.settle (h : Stands level ts s) (hcomment : (ahead s.rest).head? ≠ some '#') :
    ∃ t, Settles s t ∧ Stands level ts t := by
  obtain ⟨allowed, hallowed, hnext⟩ := h.toNextToken_eq hcomment
  have hstands := (h.pass (s.rest.takeWhile isGap).length).withAllowed allowed
  generalize hu : ({ s.pass (s.rest.takeWhile isGap).length with keyAllowed := allowed } : Lexer) = u at hnext hstands
  have hkept : Stands level ts { u with keys := u.keys.filter fun k => !u.isStale k.2 } :=
    hstands.withKeys fun k hk => hstands.keys k (List.mem_of_mem_filter hk)
  refine ⟨_, ⟨?_, ?_, ?_, ?_, fun hahead => ?_⟩, hkept⟩
  · have hcolumn : (-1 : Int) ≤ u.spot.column := by omega
    rw [Lexer.settle, hnext, hstands.beforeCut]
    show (u.dropStale >>= _) = _
    rw [hstands.dropStale]
    exact congrArg Except.ok (hkept.closeTo hcolumn)
  · rw [← hu]
    exact ahead_eq_drop s.rest
  · rw [← hu]
    exact hallowed
  · rw [← hu]
    rfl
  · have hzero : (s.rest.takeWhile isGap).length = 0 := by
      have hlength := congrArg List.length (List.takeWhile_append_dropWhile (p := isGap) (l := s.rest))
      rw [List.length_append, show s.rest.dropWhile isGap = s.rest from hahead] at hlength
      omega
    rw [← hu]
    show (s.rest.take _).foldl Spot.next s.spot = s.spot
    rw [hzero]
    rfl

end Standing

/-! ### Runs of a lexer -/

/-- A token is read, not the last one, and the text becomes shorter. -/
structure Advances (s t : Lexer) : Prop where
  advance : s.advance = .ok t
  finished : t.finished = false
  shorter : t.rest.length < s.rest.length

/-- Some tokens are read. -/
abbrev Leads : Lexer → Lexer → Prop :=
  Relation.ReflTransGen Advances

theorem Leads.run {s t : Lexer} (h : Leads s t) {steps : Nat} (hsteps : s.rest.length < steps) :
    ∃ steps', t.rest.length < steps' ∧ run steps s = run steps' t := by
  induction h with
  | refl => exact ⟨steps, hsteps, rfl⟩
  | tail _ hadvance ih =>
    obtain ⟨steps', hsteps', hrun⟩ := ih
    obtain ⟨steps', rfl⟩ : ∃ k, steps' = k + 1 := ⟨steps' - 1, by omega⟩
    have hshorter := hadvance.shorter
    refine ⟨steps', by omega, hrun.trans ?_⟩
    rw [Lexer.run, hadvance.advance]
    dsimp only
    rw [hadvance.finished, if_neg Bool.false_ne_true]

/-- A lexer in flow collections, and the text from its next token on. -/
structure Before (level : Nat) (cs : List Char) (ts : List Token) (s : Lexer) : Prop extends Stands level ts s where
  ahead : ahead s.rest = ahead cs

section Reading

variable {level : Nat} {ts : List Token} {s t u : Lexer} {bs cs r : List Char} {c : Char} {token : Token}

theorem Before.blank (h : Before level (bs ++ cs) ts s) (hbs : ∀ c ∈ bs, isGap c = true) : Before level cs ts s :=
  { h with ahead := h.ahead.trans (ahead_append hbs) }

/-- The character that a token starts with. -/
structure IsStart (c : Char) : Prop where
  gap : isGap c = false
  comment : c ≠ '#'

theorem Before.settle (h : Before level (c :: cs) ts s) (hc : IsStart c) :
    ∃ t, Settles s t ∧ Stands level ts t ∧ t.rest = c :: cs := by
  have hahead : Yaml.ahead s.rest = c :: cs := h.ahead.trans (ahead_of_not_gap (Bool.eq_false_iff.mp hc.gap) cs)
  have hcomment : (Yaml.ahead s.rest).head? ≠ some '#' := by
    rw [hahead]
    exact fun heq => hc.comment (Option.some.inj heq)
  obtain ⟨t, hsettles, ht⟩ := h.toStands.settle hcomment
  exact ⟨t, hsettles, ht, hsettles.rest.trans hahead⟩

theorem Settles.step_cons (h : Settles s t) (hrest : t.rest = c :: cs) : s.step = t.token c cs := by
  simp only [Lexer.step, h.settle, bind, Except.bind, hrest]

theorem Settles.step_nil (h : Settles s t) (hrest : t.rest = []) : s.step = t.finish := by
  simp only [Lexer.step, h.settle, bind, Except.bind, hrest]

/-- What is read at a token leads on, if the text becomes shorter. -/
theorem Settles.leads (h : Settles s t) (hrest : t.rest = c :: cs) (htoken : t.token c cs = .ok u)
    (hu : Stands level ts u) (hshorter : u.rest.length ≤ cs.length) : Leads s u := by
  refine .single ⟨?_, hu.finished, ?_⟩
  · rw [Lexer.advance, h.step_cons hrest, htoken]
    exact hu.beforeCut
  · have hle := (ahead_suffix s.rest).length_le
    rw [← h.rest, hrest, List.length_cons] at hle
    omega

/-! ### Brackets and commas -/

/-- A token of one character. -/
theorem Settles.leads_single (h : Settles s t) (ht : Stands level ts t) (hrest : t.rest = c :: cs)
    {ks : List (Nat × SavedKey)} (hks : ∀ k ∈ ks, k.2.needed = false) {allowed : Bool} {level' : Nat}
    (htoken : t.token c cs = .ok
      { (({ t with keys := ks } : Lexer).pass 1).emit token with keyAllowed := allowed, flowLevel := level' }) :
    ∃ u, Leads s u ∧ Before level' cs (ts ++ [token]) u ∧ u.keyAllowed = allowed := by
  have hu := (((ht.withKeys hks).pass 1).emit token).withLevel allowed level'
  have hread : t.rest.drop 1 = cs := by
    rw [hrest]
    rfl
  refine ⟨_, h.leads hrest htoken hu (congrArg List.length hread).le, ?_, rfl⟩
  exact { hu with ahead := congrArg Yaml.ahead hread }

/-- The start of a flow collection. -/
theorem Before.flowStart (h : Before level (c :: cs) ts s) (hc : IsStart c)
    (htoken : ∀ s r, Lexer.token s c r = s.flowStart token) :
    ∃ t, Leads s t ∧ Before (level + 1) cs (ts ++ [token]) t ∧ t.keyAllowed = true := by
  obtain ⟨t, hsettles, ht, hrest⟩ := h.settle hc
  obtain ⟨ks, hsave, hks, -⟩ := ht.saveKey
  refine hsettles.leads_single ht hrest hks ?_
  rw [htoken, Lexer.flowStart, hsave, ← ht.level]
  rfl

/-- The end of a flow collection. -/
theorem Before.flowEnd (h : Before (level + 1) (c :: cs) ts s) (hc : IsStart c)
    (htoken : ∀ s r, Lexer.token s c r = s.flowEnd token) :
    ∃ t, Leads s t ∧ Before level cs (ts ++ [token]) t := by
  obtain ⟨t, hsettles, ht, hrest⟩ := h.settle hc
  obtain ⟨ks, hdrop, hks⟩ := ht.dropKey
  have hlevel : level = t.flowLevel - 1 := by
    rw [ht.level]
    rfl
  have hinside : ({ t with keys := ks } : Lexer).inFlow = true := ht.inFlow
  have hread : ∃ u, Leads s u ∧ Before level cs (ts ++ [token]) u ∧ u.keyAllowed = false := by
    refine hsettles.leads_single ht hrest hks ?_
    rw [htoken, Lexer.flowEnd, hdrop, hlevel]
    exact if_pos hinside
  obtain ⟨u, hleads, hu, -⟩ := hread
  exact ⟨u, hleads, hu⟩

/-- A comma. -/
theorem Before.flowEntry (h : Before level (',' :: cs) ts s) :
    ∃ t, Leads s t ∧ Before level cs (ts ++ [.flowEntry]) t ∧ t.keyAllowed = true := by
  obtain ⟨t, hsettles, ht, hrest⟩ := h.settle ⟨rfl, by decide⟩
  obtain ⟨ks, hdrop, hks⟩ := ht.dropKey
  refine hsettles.leads_single ht hrest hks ?_
  have htoken : t.token ',' cs = t.flowEntry := by simp [Lexer.token, atMarker]
  rw [htoken, Lexer.flowEntry, hdrop, ← ht.level]
  rfl

/-! ### Quoted scalars and keys -/

theorem foldl_next_printed (h : ∀ c ∈ cs, IsPrinted c) (spot : Spot) :
    (cs.foldl Spot.next spot).line = spot.line ∧ (cs.foldl Spot.next spot).index = spot.index + cs.length := by
  induction cs generalizing spot with
  | nil => exact ⟨rfl, rfl⟩
  | cons c cs ih =>
    obtain ⟨hc, hcs⟩ := List.forall_mem_cons.mp h
    have hnext : (spot.next c).line = spot.line ∧ (spot.next c).index = spot.index + 1 := by
      rw [Spot.next, if_neg (Bool.eq_false_iff.mp hc.isBreak)]
      exact ⟨rfl, rfl⟩
    obtain ⟨hline, hindex⟩ := ih hcs (spot.next c)
    rw [List.foldl_cons, hline, hindex, List.length_cons]
    exact ⟨hnext.1, by omega⟩

theorem Stands.rest_moveTo (h : Stands level ts s) (hr : r <:+ s.rest) : (s.moveTo r).rest = r := by
  show s.rest.drop (s.left - r.length) = r
  rw [h.left]
  exact (List.suffix_iff_eq_drop.mp hr).symm

/-- The last place that was saved is that of a token on this line, not far back. -/
structure Saved (level place : Nat) (s : Lexer) (k : SavedKey) : Prop where
  head : s.keys.head? = some (level, k)
  token : k.token = place
  line : k.spot.line = s.spot.line
  near : s.spot.index - k.spot.index ≤ 1024

/-- A quoted scalar; where a key may start, its place is saved. -/
theorem Before.quoted {text : String} (h : Before level ((Json.stringText text).toList ++ cs) ts s) :
    ∃ t, Leads s t ∧ Before level cs (ts ++ [.scalar (halved text) false]) t ∧ t.rest = cs ∧
      (s.keyAllowed = true → (Json.stringText text).toList.length ≤ 1024 → ∃ k, Saved level ts.length t k) := by
  obtain ⟨body, hbody⟩ : ∃ body, (Json.stringText text).toList = '"' :: body := by
    rw [Json.stringText, String.toList_ofList]
    exact ⟨_, rfl⟩
  rw [hbody, List.cons_append] at h
  obtain ⟨t, hsettles, ht, hrest⟩ := h.settle ⟨rfl, by decide⟩
  obtain ⟨ks, hsave, hks, hhead⟩ := ht.saveKey
  have hkept := ht.withKeys hks
  have hwhole : t.rest = (Json.stringText text).toList ++ cs := by
    rw [hrest, hbody, List.cons_append]
  have hread : (({ t with keys := ks } : Lexer).moveTo cs).rest = cs :=
    hkept.rest_moveTo (hwhole ▸ List.suffix_append _ _)
  have hu := ((hkept.pass (t.left - cs.length)).emit (.scalar (halved text) false)).withAllowed false
  have htoken : t.token '"' (body ++ cs) = .ok
      { (({ t with keys := ks } : Lexer).moveTo cs).emit (.scalar (halved text) false) with keyAllowed := false } := by
    have hword : t.token '"' (body ++ cs) = t.word (Lexer.quoted true (t.cut.getD .malformed)) := by
      simp [Lexer.token, atMarker]
    have hquoted := quoted_stringText text (t.cut.getD .malformed) cs
    rw [← hwhole] at hquoted
    rw [hword, Lexer.word, hsave]
    show (Lexer.quoted true (t.cut.getD .malformed) t.rest >>= _) = _
    rw [hquoted]
    rfl
  have hshorter : (({ t with keys := ks } : Lexer).moveTo cs).rest.length ≤ (body ++ cs).length := by
    rw [hread, List.length_append]
    exact Nat.le_add_left _ _
  refine ⟨_, hsettles.leads hrest htoken hu hshorter, { hu with ahead := congrArg Yaml.ahead hread }, hread, ?_⟩
  intro hallowed hshort
  have hpassed : t.rest.take (t.left - cs.length) = (Json.stringText text).toList := by
    rw [ht.left, hwhole, List.length_append, Nat.add_sub_cancel, List.take_left]
  obtain ⟨hline, hindex⟩ := foldl_next_printed (isPrinted_stringText text) t.spot
  rw [← hpassed] at hline hindex
  refine ⟨_, hhead (hsettles.allowed hallowed), rfl, hline.symm, ?_⟩
  show ((t.rest.take _).foldl Spot.next t.spot).index - t.spot.index ≤ 1024
  rw [hindex, hpassed]
  omega

theorem insertIdx_length_append {α : Type} (behind : List α) (a : α) :
    ∀ before : List α, (before ++ behind).insertIdx before.length a = before ++ a :: behind
  | [] => List.insertIdx_zero
  | b :: before => by
    rw [List.cons_append, List.length_cons, List.insertIdx_succ_cons, insertIdx_length_append behind a before,
      List.cons_append]

theorem Stands.insert {before behind : List Token} (h : Stands level (before ++ behind) s) (t : Token) :
    Stands level (before ++ t :: behind) (s.insert before.length t) :=
  { h with
    tokens := by
      have htokens : s.tokens = (before ++ behind).toArray := by
        rw [← h.tokens, Array.toArray_toList]
      show (s.tokens.insertIdxIfInBounds before.length t).toList = _
      rw [htokens, List.insertIdxIfInBounds_toArray]
      exact insertIdx_length_append behind t before }

/-- The colon behind a key: the token of the key is put in where its place was saved. -/
theorem Before.value {k : SavedKey} {before behind : List Token}
    (h : Before (level + 1) (':' :: cs) (before ++ behind) s) (hrest : s.rest = ':' :: cs)
    (hk : Saved (level + 1) before.length s k) :
    ∃ t, Leads s t ∧ Before (level + 1) cs (before ++ .key :: behind ++ [.value]) t := by
  obtain ⟨t, hsettles, ht, htrest⟩ := h.settle ⟨rfl, by decide⟩
  have hspot : t.spot = s.spot := hsettles.spot (hrest ▸ rfl)
  have hfresh : (!t.isStale k) = true := by
    rw [Lexer.isStale, hspot, hk.line, bne_self_eq_false, Bool.false_or, Bool.not_eq_true',
      decide_eq_false_iff_not, Nat.not_lt]
    exact hk.near
  have hlookup : t.keys.lookup t.flowLevel = some k := by
    obtain ⟨more, hmore⟩ := List.head?_eq_some_iff.mp hk.head
    rw [hsettles.keys, hmore, List.filter_cons, if_pos hfresh, ht.level, List.lookup_cons_self]
  have hinside := ht.inFlow
  have hkept : Stands (level + 1) (before ++ behind) { t with keys := t.keys.filter fun k => k.1 != t.flowLevel } :=
    ht.withKeys fun k hk => ht.keys k (List.mem_of_mem_filter hk)
  have hu := (((hkept.insert .key).withAllowed false).pass 1).emit .value
  have htoken : t.token ':' cs = t.value := by
    simp [Lexer.token, atMarker, hinside]
  have hread : t.rest.drop 1 = cs := by
    rw [htrest]
    rfl
  refine ⟨_, hsettles.leads htrest ?_ hu (congrArg List.length hread).le,
    { hu with ahead := congrArg Yaml.ahead hread }⟩
  have hkey : t.insertKey k =
      ({ t with keys := t.keys.filter fun k => k.1 != t.flowLevel } : Lexer).insert before.length .key := by
    rw [← hk.token]
    exact if_pos hinside
  rw [htoken, Lexer.value, hlookup]
  dsimp only
  rw [hkey]
  rfl

/-- A quoted key with its colon. -/
theorem Before.key {name : String} (h : Before (level + 1) ((Json.stringText name).toList ++ ':' :: cs) ts s)
    (hallowed : s.keyAllowed = true) (hshort : (Json.stringText name).toList.length ≤ 1024) :
    ∃ t, Leads s t ∧ Before (level + 1) cs (ts ++ [.key, .scalar (halved name) false, .value]) t := by
  obtain ⟨t, hleads, ht, hrest, hsaved⟩ := h.quoted
  obtain ⟨k, hk⟩ := hsaved hallowed hshort
  obtain ⟨u, hleads', hu⟩ := ht.value hrest hk
  refine ⟨u, hleads.trans hleads', ?_⟩
  rwa [List.append_assoc] at hu

/-! ### Plain scalars -/

/-- A word of small letters. -/
structure IsWord (word : String) : Prop where
  filled : word.toList ≠ []
  letters : ∀ c ∈ word.toList, c.isLower = true

section Letters

variable (hc : c.isLower = true)
include hc

theorem ne_of_isLower {x : Char} (hx : x.isLower = false) : c ≠ x := by
  rintro rfl
  rw [hc] at hx
  cases hx

theorem isPrinted_of_isLower : IsPrinted c := by
  have hrange := Bool.and_eq_true_iff.mp hc
  have hlow : 'a'.toNat ≤ c.toNat := of_decide_eq_true hrange.1
  have hhigh : c.toNat ≤ 'z'.toNat := of_decide_eq_true hrange.2
  exact ⟨Nat.le_trans (by decide) hlow, Nat.lt_of_le_of_lt hhigh (by decide)⟩

theorem isStart_of_isLower : IsStart c where
  gap := by simp (disch := decide) [isGap, ne_of_isLower hc]
  comment := ne_of_isLower hc rfl

theorem stopsPlain_of_isLower (r : List Char) : stopsPlain true c r = false := by
  simp (disch := decide) [stopsPlain, (isPrinted_of_isLower hc).isBreak, isSpaceOrTab, ne_of_isLower hc]

theorem token_of_isLower (s : Lexer) (r : List Char) : s.token c r = s.plain := by
  have hmarker : atMarker (c :: r) = false := by
    unfold atMarker
    split
    case h_3 => rfl
    case h_1 heq => exact absurd (List.head_eq_of_cons_eq heq) (ne_of_isLower hc rfl)
    case h_2 heq => exact absurd (List.head_eq_of_cons_eq heq) (ne_of_isLower hc rfl)
  have hstarts : startsPlain s.inFlow c r = true := by
    simp (disch := decide) [startsPlain, (isPrinted_of_isLower hc).isBreak, isSpaceOrTab, ne_of_isLower hc]
  simp (disch := decide) [Lexer.token, hmarker, hstarts, ne_of_isLower hc]

end Letters

theorem Before.plain {word : String} (h : Before (level + 1) (word.toList ++ cs) ts s) (hword : IsWord word)
    (hcs : Ends cs) : ∃ t, Leads s t ∧ Before (level + 1) cs (ts ++ [.scalar word true]) t := by
  obtain ⟨c, r, hc⟩ := List.exists_cons_of_ne_nil hword.filled
  have hlower : c.isLower = true := hword.letters c (hc ▸ List.mem_cons_self)
  rw [hc, List.cons_append] at h
  obtain ⟨t, hsettles, ht, hrest⟩ := h.settle (isStart_of_isLower hlower)
  obtain ⟨ks, hsave, hks, -⟩ := ht.saveKey
  have hkept := ht.withKeys hks
  have hwhole : t.rest = word.toList ++ cs := by
    rw [hrest, hc, List.cons_append]
  have hinside := ht.inFlow
  have htext : IsText cs := fun c hc => ht.text c (hwhole ▸ List.mem_append_right _ hc)
  obtain ⟨hread, hbehind⟩ := plainText_word (fun c hc => stopsPlain_of_isLower (hword.letters c hc)) hword.filled htext
    hcs (t.indent + 1) (r ++ cs).length false
  have hlength : t.rest.length = (r ++ cs).length + 1 := by
    rw [hrest, List.length_cons]
  rw [← hwhole, ← hlength, ← hinside] at hread hbehind
  generalize hp : plainText t.inFlow (t.indent + 1) t.rest.length false t.rest = p at hread hbehind
  have hscalar : String.ofList p.text = word := by
    rw [hread, String.ofList_toList]
  have hsuffix : p.rest <:+ t.rest := by
    rw [hbehind, hwhole]
    exact (ahead_suffix cs).trans (List.suffix_append _ _)
  have hmoved := hkept.rest_moveTo (r := p.rest) hsuffix
  have hu := ((hkept.pass (t.left - p.rest.length)).emit (.scalar word true)).withAllowed p.passedLine
  have htoken : t.token c (r ++ cs) = .ok
      { (({ t with keys := ks } : Lexer).moveTo p.rest).emit (.scalar word true) with keyAllowed := p.passedLine } := by
    rw [token_of_isLower hlower, Lexer.plain, hsave, ← hscalar, ← hp]
    rfl
  have hshorter : p.rest.length ≤ (r ++ cs).length := by
    rw [hbehind, List.length_append]
    exact (ahead_suffix cs).length_le.trans (Nat.le_add_left _ _)
  refine ⟨_, hsettles.leads hrest htoken hu ((congrArg List.length hmoved).trans_le hshorter), { hu with ahead := ?_ }⟩
  exact (congrArg Yaml.ahead hmoved).trans (by rw [hbehind, ahead_ahead])

/-! ### The end -/

theorem Stands.finish (h : Stands level ts s) :
    ∃ t, s.finish = .ok t ∧ t.cut = none ∧ t.finished = true ∧ t.tokens.toList = ts ++ [.textEnd] := by
  obtain ⟨ks, hdrop, hks⟩ := h.dropKey
  refine ⟨{ ({ s with keys := ks } : Lexer).emit .textEnd with finished := true }, ?_, h.cut, rfl,
    ((h.withKeys hks).emit .textEnd).tokens⟩
  rw [Lexer.finish, h.closeTo (Int.le_refl (-1)), hdrop]
  rfl

theorem Before.finish (h : Before level cs ts s) (hcs : Yaml.ahead cs = []) :
    ∃ t, s.advance = .ok t ∧ t.finished = true ∧ t.tokens.toList = ts ++ [.textEnd] := by
  have hahead : Yaml.ahead s.rest = [] := h.ahead.trans hcs
  have hcomment : (Yaml.ahead s.rest).head? ≠ some '#' := by
    rw [hahead]
    exact nofun
  obtain ⟨t, hsettles, ht⟩ := h.toStands.settle hcomment
  obtain ⟨u, hfinish, hcut, hfinished, htokens⟩ := ht.finish
  refine ⟨u, ?_, hfinished, htokens⟩
  rw [Lexer.advance, hsettles.step_nil (hsettles.rest.trans hahead), hfinish]
  exact beforeCut_eq hcut

end Reading

end Lexer

end WorkflowCheck.Yaml
