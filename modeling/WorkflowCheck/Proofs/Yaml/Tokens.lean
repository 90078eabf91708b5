import WorkflowCheck.Proofs.Json.ReadBack
import WorkflowCheck.Proofs.Yaml.Lexer

/-!
# Tokens of JSON texts

JSON is cut into the tokens of flow collections: brackets and commas as they are, strings into quoted scalars and
words into plain ones (`valueTokens`).  Strings have the halves of their wide characters there (`halvedValue`).  What a
part of a text is cut into does not depend on what stands around it (`Cuts`), so the tokens of a container are those of
its items.
-/

namespace WorkflowCheck.Yaml

open Json (Layout Plain valueText stringText)
open Lexer (Before)

/-! ### Tokens of values -/

/-- The tokens of some items, one behind the other. -/
def separated : List (List Token) → List Token
  | [] => []
  | ts :: others => ts ++ others.flatMap (.flowEntry :: ·)

/-- The tokens of a key with its colon. -/
def keyTokens (name : String) : List Token :=
  [.key, .scalar name false, .value]

mutual

/-- The tokens of the text of a value. -/
def valueTokens : Value → List Token
  | .null => [.scalar "null" true]
  | .bool b => [.scalar (Json.boolText b) true]
  | .str s => [.scalar s false]
  | .arr vs => .flowSequenceStart :: (separated (itemTokens vs) ++ [.flowSequenceEnd])
  | .obj fs => .flowMappingStart :: (separated (fieldTokens fs) ++ [.flowMappingEnd])
  | _ => []

/-- The tokens of each item of an array. -/
def itemTokens : List Value → List (List Token)
  | [] => []
  | v :: vs => valueTokens v :: itemTokens vs

/-- The tokens of each field of an object. -/
def fieldTokens : List (Key × Value) → List (List Token)
  | [] => []
  | (.str name, v) :: fs => (keyTokens name ++ valueTokens v) :: fieldTokens fs
  | (_, v) :: fs => valueTokens v :: fieldTokens fs

end

theorem itemTokens_eq (vs : List Value) : itemTokens vs = vs.map valueTokens := by
  induction vs with
  | nil => rfl
  | cons v vs ih => rw [itemTokens, ih, List.map_cons]

theorem fieldTokens_eq (fs : List (String × Value)) :
    fieldTokens (fs.map fun f => (Key.str f.1, f.2)) = fs.map fun f => keyTokens f.1 ++ valueTokens f.2 := by
  induction fs with
  | nil => rfl
  | cons f fs ih => rw [List.map_cons, fieldTokens, ih, List.map_cons]

mutual

/-- A value with the halves of wide characters in its strings. -/
def halvedValue : Value → Value
  | .str s => .str (halved s)
  | .arr vs => .arr (halvedItems vs)
  | .obj fs => .obj (halvedFields fs)
  | v => v

/-- The items of an array with halves. -/
def halvedItems : List Value → List Value
  | [] => []
  | v :: vs => halvedValue v :: halvedItems vs

/-- The fields of an object with halves, but for their names. -/
def halvedFields : List (Key × Value) → List (Key × Value)
  | [] => []
  | (k, v) :: fs => (k, halvedValue v) :: halvedFields fs

end

theorem halvedItems_eq (vs : List Value) : halvedItems vs = vs.map halvedValue := by
  induction vs with
  | nil => rfl
  | cons v vs ih => rw [halvedItems, ih, List.map_cons]

theorem halvedValue_record (fs : List (String × Value)) :
    halvedValue (.record fs) = .record (fs.map fun f => (f.1, halvedValue f.2)) := by
  have hfields : ∀ fs : List (String × Value), halvedFields (fs.map fun f => (Key.str f.1, f.2)) =
      (fs.map fun f => (f.1, halvedValue f.2)).map fun f => (Key.str f.1, f.2) := by
    intro fs
    induction fs with
    | nil => rfl
    | cons f fs ih => rw [List.map_cons, List.map_cons, List.map_cons, halvedFields, ih]
  rw [Value.record, Value.record, halvedValue, hfields]

section Halved

variable {text key : String → Prop} {d : Nat} {v : Value}

/-- Strings with halves may stand in any place. -/
theorem plain_halvedValue (h : Plain text key d v) : Plain (fun _ => True) key d (halvedValue v) := by
  induction h with
  | null d => exact .null d
  | bool d b => exact .bool d b
  | str d _ => exact .str d trivial
  | arr _ ih =>
    rw [halvedValue, halvedItems_eq]
    exact .arr (List.forall_mem_map.mpr ih)
  | record hnodup hkeys _ ih =>
    rw [halvedValue_record]
    refine .record ?_ (List.forall_mem_map.mpr hkeys) (List.forall_mem_map.mpr ih)
    rwa [List.map_map]

end Halved

/-! ### Parts of a text -/

/-- In so many flow collections a text is cut into some tokens, before what may follow an item. -/
def Cuts (level : Nat) (cs : List Char) (ts : List Token) : Prop :=
  ∀ ⦃rest done s⦄, Ends rest → Before level (cs ++ rest) done s →
    ∃ t, s.Leads t ∧ Before level rest (done ++ ts) t

/-- A text is cut into some tokens where a key may start. -/
def CutsItem (level : Nat) (cs : List Char) (ts : List Token) : Prop :=
  ∀ ⦃rest done s⦄, Ends rest → s.keyAllowed = true → Before level (cs ++ rest) done s →
    ∃ t, s.Leads t ∧ Before level rest (done ++ ts) t

section Parts

variable {level : Nat} {bs cs rest : List Char} {ts : List Token} {c : Char}

theorem Cuts.item (h : Cuts level cs ts) : CutsItem level cs ts :=
  fun _ _ _ hrest _ hs => h hrest hs

theorem ends_cons (hc : c = ',' ∨ c = ']' ∨ c = '\x7d') : Ends (c :: rest) := by
  intro c' hc'
  have hgap : ¬isGap c = true := by
    rcases hc with rfl | rfl | rfl <;> decide
  rw [ahead_of_not_gap hgap] at hc'
  cases hc'
  exact hc

theorem Ends.blank (h : Ends cs) (hbs : ∀ c ∈ bs, isGap c = true) : Ends (bs ++ cs) := by
  rwa [Ends, ahead_append hbs]

theorem cuts_stringText (s : String) : Cuts level (stringText s).toList [.scalar (halved s) false] := by
  intro rest done l _ hl
  obtain ⟨t, hleads, ht, -, -⟩ := hl.quoted
  exact ⟨t, hleads, ht⟩

theorem cuts_word {word : String} (hword : Lexer.IsWord word) : Cuts (level + 1) word.toList [.scalar word true] :=
  fun _ _ _ hrest hs => hs.plain hword hrest

/-- A name that fits into a key: it is narrow, and its text is not too long. -/
structure IsKey (name : String) : Prop where
  narrow : Narrow name
  short : (stringText name).toList.length ≤ 1024

instance (name : String) : Decidable (IsKey name) :=
  decidable_of_iff (Narrow name ∧ (stringText name).toList.length ≤ 1024)
    ⟨fun h => ⟨h.1, h.2⟩, fun h => ⟨h.narrow, h.short⟩⟩

/-- The text of a field, where the one of its value is cut. -/
theorem cutsItem_fieldText {text : Value → String} {f : String × Value} (hname : IsKey f.1)
    (h : Cuts (level + 1) (text f.2).toList ts) :
    CutsItem (level + 1) (Json.fieldText text f).toList (keyTokens f.1 ++ ts) := by
  intro rest done s hrest hallowed hs
  rw [Json.toList_fieldText, List.append_assoc] at hs
  obtain ⟨t, hleads, ht⟩ := hs.key hallowed hname.short
  rw [halved_eq_self_iff.mpr hname.narrow] at ht
  have hspace : ∀ c ∈ [' '], isGap c = true := fun c hc => List.mem_singleton.mp hc ▸ rfl
  have hvalue : Before (level + 1) ([' '] ++ ((text f.2).toList ++ rest)) (done ++ keyTokens f.1) t := ht
  obtain ⟨u, hleads', hu⟩ := h hrest (hvalue.blank hspace)
  rw [List.append_assoc] at hu
  exact ⟨u, hleads.trans hleads', hu⟩

end Parts

/-! ### Containers -/

section Containers

variable {layout : Layout} {level flowLevel : Nat} {α : Type} {text : α → String} {tokens : α → List Token}

/-- What follows an item of a container ends it. -/
theorem ends_others (rest : List Char) {bs : List Char} (hbs : ∀ c ∈ bs, isGap c = true) {closing : Char}
    (hclosing : closing = ',' ∨ closing = ']' ∨ closing = '\x7d') (others : List α) (item : α → List Char) :
    Ends (others.flatMap (fun a => ',' :: item a) ++ (bs ++ closing :: rest)) := by
  cases others with
  | nil => exact (ends_cons hclosing).blank hbs
  | cons a others => exact ends_cons (.inl rfl)

/-- All further items of a container. -/
theorem cuts_others (hlayout : layout.Blank isGap) {bs rest : List Char} (hbs : ∀ c ∈ bs, isGap c = true)
    {closing : Char} (hclosing : closing = ',' ∨ closing = ']' ∨ closing = '\x7d') :
    ∀ (others : List α) {done : List Token} {s : Lexer},
      (∀ a ∈ others, CutsItem (flowLevel + 1) (text a).toList (tokens a)) →
      Before (flowLevel + 1)
        (others.flatMap (fun a => ',' :: ((layout.between level).toList ++ (text a).toList)) ++
          (bs ++ closing :: rest)) done s →
      ∃ t, s.Leads t ∧ Before (flowLevel + 1) (closing :: rest)
        (done ++ others.flatMap fun a => .flowEntry :: tokens a) t
  | [], done, s, _, hs => by
    rw [List.flatMap_nil, List.nil_append] at hs
    refine ⟨s, .refl, ?_⟩
    rw [List.flatMap_nil, List.append_nil]
    exact hs.blank hbs
  | a :: others, done, s, h, hs => by
    obtain ⟨ha, hothers⟩ := List.forall_mem_cons.mp h
    rw [List.flatMap_cons, List.append_assoc, List.cons_append] at hs
    obtain ⟨t, hcomma, ht, hallowed⟩ := hs.flowEntry
    rw [List.append_assoc] at ht
    obtain ⟨u, hitem, hu⟩ := ha (ends_others rest hbs hclosing others _) hallowed (ht.blank (hlayout.between _))
    obtain ⟨w, hmore, hw⟩ := cuts_others hlayout hbs hclosing others hothers hu
    refine ⟨w, (hcomma.trans hitem).trans hmore, ?_⟩
    rw [List.flatMap_cons]
    simpa using hw

/-- The brackets of a container, and the tokens that they are. -/
structure IsBracket (opening closing : Char) (start stop : Token) : Prop where
  isStart : Lexer.IsStart opening
  opens (s : Lexer) (r : List Char) : s.token opening r = s.flowStart start
  ends : closing = ']' ∨ closing = '\x7d'
  closes (s : Lexer) (r : List Char) : s.token closing r = s.flowEnd stop

theorem isBracket_square : IsBracket '[' ']' .flowSequenceStart .flowSequenceEnd where
  isStart := ⟨rfl, by decide⟩
  opens s r := by simp [Lexer.token, atMarker]
  ends := .inl rfl
  closes s r := by simp [Lexer.token, atMarker]

theorem isBracket_curly : IsBracket '\x7b' '\x7d' .flowMappingStart .flowMappingEnd where
  isStart := ⟨rfl, by decide⟩
  opens s r := by simp [Lexer.token, atMarker]
  ends := .inr rfl
  closes s r := by simp [Lexer.token, atMarker]

/-- A container is cut into its brackets and the tokens of its items. -/
theorem cuts_container (hlayout : layout.Blank isGap) {o c : String} {opening closing : Char}
    (hopening : o.toList = [opening]) (hclosing : c.toList = [closing]) {start stop : Token}
    (hbracket : IsBracket opening closing start stop) {items : List α}
    (h : ∀ a ∈ items, CutsItem (flowLevel + 1) (text a).toList (tokens a)) :
    Cuts flowLevel (layout.container level o c (items.map text)).toList
      (start :: (separated (items.map tokens) ++ [stop])) := by
  intro rest done s _ hs
  have hclosed : Lexer.IsStart closing := by
    rcases hbracket.ends with rfl | rfl <;> exact ⟨rfl, by decide⟩
  cases items with
  | nil =>
    rw [List.map_nil, Layout.toList_container_nil, hopening, hclosing] at hs
    obtain ⟨t, hopen, ht, -⟩ := hs.flowStart hbracket.isStart hbracket.opens
    obtain ⟨u, hclose, hu⟩ := ht.flowEnd hclosed hbracket.closes
    refine ⟨u, hopen.trans hclose, ?_⟩
    simpa [separated] using hu
  | cons a others =>
    rw [List.map_cons, Layout.toList_container_cons, List.flatMap_map, hopening, hclosing] at hs
    simp only [List.append_assoc, List.cons_append, List.nil_append] at hs
    obtain ⟨ha, hothers⟩ := List.forall_mem_cons.mp h
    obtain ⟨t, hopen, ht, hallowed⟩ := hs.flowStart hbracket.isStart hbracket.opens
    have hends := ends_others rest (hlayout.closing level) (.inr hbracket.ends) others fun a =>
      (layout.between (level + 1)).toList ++ (text a).toList
    obtain ⟨u, hfirst, hu⟩ := ha hends hallowed (ht.blank (hlayout.before _))
    obtain ⟨v, hmore, hv⟩ := cuts_others hlayout (hlayout.closing level) (.inr hbracket.ends) others hothers hu
    obtain ⟨w, hclose, hw⟩ := hv.flowEnd hclosed hbracket.closes
    refine ⟨w, ((hopen.trans hfirst).trans hmore).trans hclose, ?_⟩
    simpa [separated, List.flatMap_map] using hw

end Containers

/-! ### Values -/

section Values

variable {text key : String → Prop} {d : Nat} {v : Value}

theorem isWord_boolText (b : Bool) : Lexer.IsWord (Json.boolText b) := by
  cases b
  · exact ⟨by decide, List.all_eq_true.mp (by decide)⟩
  · exact ⟨by decide, List.all_eq_true.mp (by decide)⟩

theorem isWord_null : Lexer.IsWord "null" :=
  ⟨by decide, List.all_eq_true.mp (by decide)⟩

theorem indented_gap : Layout.indented.Blank isGap :=
  Layout.indented_blank rfl rfl

theorem cuts_arr {vs : List Value} {level flowLevel : Nat}
    (h : ∀ v ∈ vs, Cuts (flowLevel + 1) (valueText .indented (level + 1) v).toList (valueTokens (halvedValue v))) :
    Cuts flowLevel (valueText .indented level (.arr vs)).toList (valueTokens (halvedValue (.arr vs))) := by
  rw [valueText, Json.itemTexts_eq, halvedValue, halvedItems_eq, valueTokens, itemTokens_eq, List.map_map]
  exact cuts_container indented_gap rfl rfl isBracket_square fun v hv => (h v hv).item

theorem cuts_record {fs : List (String × Value)} {level flowLevel : Nat} (hkeys : ∀ f ∈ fs, IsKey f.1)
    (h : ∀ f ∈ fs, Cuts (flowLevel + 1) (valueText .indented (level + 1) f.2).toList (valueTokens (halvedValue f.2))) :
    Cuts flowLevel (valueText .indented level (.record fs)).toList (valueTokens (halvedValue (.record fs))) := by
  rw [halvedValue_record, Value.record, Value.record, valueText, Json.fieldTexts_eq, valueTokens, fieldTokens_eq,
    List.map_map]
  exact cuts_container indented_gap rfl rfl isBracket_curly fun f hf => cutsItem_fieldText (hkeys f hf) (h f hf)

/-- The text of a value is cut into its tokens, inside a container. -/
theorem cuts_valueText (h : Plain text IsKey d v) :
    ∀ level flowLevel, Cuts (flowLevel + 1) (valueText .indented level v).toList (valueTokens (halvedValue v)) := by
  induction h with
  | null d =>
    intro level flowLevel
    exact cuts_word isWord_null
  | bool d b =>
    intro level flowLevel
    exact cuts_word (isWord_boolText b)
  | str d hs =>
    intro level flowLevel
    exact cuts_stringText _
  | arr h ih => exact fun level flowLevel => cuts_arr fun v hv => ih v hv (level + 1) (flowLevel + 1)
  | record hnodup hkeys h ih =>
    exact fun level flowLevel => cuts_record hkeys fun f hf => ih f hf (level + 1) (flowLevel + 1)

/-- The text of an array or an object is cut into its tokens everywhere. -/
theorem cuts_collection (h : Plain text IsKey d v) (hv : v.isList = true ∨ v.isObject = true) (level flowLevel : Nat) :
    Cuts flowLevel (valueText .indented level v).toList (valueTokens (halvedValue v)) := by
  cases h with
  | arr h => exact cuts_arr fun v hv => cuts_valueText (h v hv) (level + 1) flowLevel
  | record hnodup hkeys h => exact cuts_record hkeys fun f hf => cuts_valueText (h f hf) (level + 1) flowLevel
  | _ => rcases hv with hv | hv <;> cases hv

/-! ### Whole texts -/

theorem isText_of_gap {bs : List Char} (h : ∀ c ∈ bs, isGap c = true) : IsText bs := by
  intro c hc
  rcases isGap_iff.mp (h c hc) with rfl | rfl
  · exact .inl ⟨by decide, by decide⟩
  · exact .inr rfl

theorem isText_of_printed {cs : List Char} (h : ∀ c ∈ cs, IsPrinted c) : IsText cs :=
  fun c hc => .inl (h c hc)

theorem IsText.append {cs cs' : List Char} (h : IsText cs) (h' : IsText cs') : IsText (cs ++ cs') :=
  List.forall_mem_append.mpr ⟨h, h'⟩

theorem isText_container {layout : Layout} (hlayout : layout.Blank isGap) {o c : String} (ho : IsText o.toList)
    (hc : IsText c.toList) {items : List String} (h : ∀ item ∈ items, IsText item.toList) (level : Nat) :
    IsText (layout.container level o c items).toList := by
  cases items with
  | nil =>
    rw [Layout.toList_container_nil]
    exact ho.append hc
  | cons first others =>
    obtain ⟨hfirst, hothers⟩ := List.forall_mem_cons.mp h
    have hmore : IsText (others.flatMap fun item => ',' :: ((layout.between (level + 1)).toList ++ item.toList)) := by
      intro x hx
      obtain ⟨item, hitem, hx⟩ := List.mem_flatMap.mp hx
      rcases List.mem_cons.mp hx with rfl | hx
      · exact .inl ⟨by decide, by decide⟩
      · exact (isText_of_gap (hlayout.between _)).append (hothers item hitem) x hx
    rw [Layout.toList_container_cons]
    exact ho.append ((isText_of_gap (hlayout.before _)).append (hfirst.append
      (hmore.append ((isText_of_gap (hlayout.closing _)).append hc))))

theorem isText_valueText (h : Plain text key d v) : ∀ level, IsText (valueText .indented level v).toList := by
  have hbracket : ∀ {s : String}, s.toList.all (fun c => decide (IsPrinted c)) = true → IsText s.toList :=
    fun h => isText_of_printed fun c hc => of_decide_eq_true (List.all_eq_true.mp h c hc)
  induction h with
  | null d => exact fun _ => isText_of_printed fun c hc => Lexer.isPrinted_of_isLower (isWord_null.letters c hc)
  | bool d b =>
    exact fun _ => isText_of_printed fun c hc => Lexer.isPrinted_of_isLower ((isWord_boolText b).letters c hc)
  | str d hs => exact fun _ => isText_of_printed (isPrinted_stringText _)
  | arr h ih =>
    intro level
    rw [valueText, Json.itemTexts_eq]
    refine isText_container indented_gap (hbracket (by decide)) (hbracket (by decide)) ?_ level
    intro item hitem
    obtain ⟨v, hv, rfl⟩ := List.mem_map.mp hitem
    exact ih v hv (level + 1)
  | record hnodup hkeys h ih =>
    intro level
    rw [Value.record, valueText, Json.fieldTexts_eq]
    refine isText_container indented_gap (hbracket (by decide)) (hbracket (by decide)) ?_ level
    intro item hitem
    obtain ⟨f, hf, rfl⟩ := List.mem_map.mp hitem
    rw [Json.toList_fieldText]
    refine (isText_of_printed (isPrinted_stringText _)).append ?_
    exact List.forall_mem_cons.mpr ⟨.inl ⟨by decide, by decide⟩, List.forall_mem_cons.mpr
      ⟨.inl ⟨by decide, by decide⟩, ih f hf (level + 1)⟩⟩

theorem isAllowed_of_isText {cs : List Char} (h : IsText cs) : (cs.takeWhile isAllowed).length = cs.length := by
  have hall : ∀ c ∈ cs, isAllowed c = true := by
    intro c hc
    rcases h c hc with hprinted | rfl
    · exact hprinted.isAllowed
    · rfl
  rw [List.takeWhile_eq_self_iff.mpr hall]

/-- **The text of a value that stands alone is cut into the tokens of the value**, if that is what it is cut into
outside of all containers. -/
theorem lex_of_cuts {cs : List Char} {ts : List Token} (hcuts : Cuts 0 cs ts) (hcs : IsText cs) :
    Token.lex (cs ++ ['\n']) none = ⟨ts ++ [.textEnd], none⟩ := by
  have htext : IsText (cs ++ ['\n']) := hcs.append fun c hc => .inr (List.mem_singleton.mp hc)
  have hends : Ends ['\n'] := nofun
  have hstart : Before 0 (cs ++ ['\n']) [] { rest := cs ++ ['\n'], left := (cs ++ ['\n']).length } :=
    ⟨⟨htext, rfl, rfl, rfl, rfl, rfl, nofun, rfl, rfl⟩, rfl⟩
  obtain ⟨t, hleads, ht⟩ := hcuts hends hstart
  obtain ⟨u, hadvance, hfinished, htokens⟩ := ht.finish rfl
  obtain ⟨steps, hsteps, hrun⟩ := hleads.run (Nat.lt_succ_self (cs ++ ['\n']).length)
  obtain ⟨steps, rfl⟩ : ∃ k, steps = k + 1 := ⟨steps - 1, by omega⟩
  rw [Token.lex, if_pos (isAllowed_of_isText htext), hrun, Lexer.run, hadvance]
  dsimp only
  rw [if_pos hfinished, htokens, List.nil_append]

end Values

end WorkflowCheck.Yaml
