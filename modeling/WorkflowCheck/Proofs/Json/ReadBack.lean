import Mathlib.Data.List.Nodup
import WorkflowCheck.Json.Reader
import WorkflowCheck.Proofs.Json.Strings

/-!
# Written values are read back

The text of a value takes a reading from where a value may come to where that value is there (`Takes`).  The
parts of a text take it from one to the next, so for an array or an object it is enough to say what one more
item does.  A value of nulls, truth values, texts, arrays and objects, that is not too deep, is therefore what
is read from its text, in whatever layout (`Plain.read_valueText`).
-/

namespace WorkflowCheck.Json

/-! ### Tokens of a text -/

/-- A text is cut into tokens, all of it. -/
def Lexes (cs : List Char) (ts : List Token) : Prop :=
  ∀ steps, cs.length ≤ steps → Token.lexWithin steps cs = (ts, true)

/-- A text of blanks. -/
def IsBlank (cs : List Char) : Prop :=
  ∀ c ∈ cs, Token.isBlank c = true

/-- A text is a token whatever follows it. -/
structure IsToken (cs : List Char) (t : Token) : Prop where
  next (rest : List Char) : Token.next? (cs ++ rest) = some (t, rest)
  head : ∃ c cs', cs = c :: cs' ∧ Token.isBlank c = false

section Lexing

variable {cs bs rest : List Char} {ts : List Token} {t : Token}

theorem lexes_nil : Lexes [] [] := by
  intro steps _
  cases steps <;> rfl

theorem isBlank_nil : IsBlank [] :=
  fun _ hc => absurd hc List.not_mem_nil

theorem IsBlank.lexWithin (h : IsBlank bs) (steps : Nat) (cs : List Char) :
    Token.lexWithin steps (bs ++ cs) = Token.lexWithin steps cs := by
  cases steps with
  | zero =>
    rw [Token.lexWithin, Token.lexWithin, List.all_append, List.all_eq_true.mpr h, Bool.true_and]
  | succ steps =>
    rw [Token.lexWithin, Token.lexWithin, List.dropWhile_append_of_pos h]

theorem Lexes.blank (h : Lexes cs ts) (hbs : IsBlank bs) : Lexes (bs ++ cs) ts := by
  intro steps hsteps
  rw [hbs.lexWithin]
  rw [List.length_append] at hsteps
  exact h steps (by omega)

theorem Lexes.token (h : Lexes rest ts) (hcs : IsToken cs t) : Lexes (cs ++ rest) (t :: ts) := by
  intro steps hsteps
  obtain ⟨c, cs', rfl, hc⟩ := hcs.head
  rw [List.length_append, List.length_cons] at hsteps
  obtain ⟨steps, rfl⟩ : ∃ k, steps = k + 1 := ⟨steps - 1, by omega⟩
  have hdrop : (c :: cs' ++ rest).dropWhile Token.isBlank = c :: cs' ++ rest := by
    rw [List.cons_append, List.dropWhile_cons_of_neg (by simp [hc])]
  have hnext := hcs.next rest
  rw [Token.lexWithin, hdrop]
  rw [List.cons_append] at hnext ⊢
  dsimp only
  rw [hnext]
  dsimp only
  rw [h steps (by omega)]

end Lexing

/-! ### Readings of a text -/

/-- A text takes a reading to another one, whatever follows it. -/
def Takes (cs : List Char) (r r' : Reading) : Prop :=
  ∃ ts, (∀ rest ts', Lexes rest ts' → Lexes (cs ++ rest) (ts ++ ts')) ∧ ts.foldlM Reading.step r = .ok r'

section Taking

variable {cs cs' bs : List Char} {r r' r'' : Reading} {t : Token}

theorem Takes.append (h : Takes cs r r') (h' : Takes cs' r' r'') : Takes (cs ++ cs') r r'' := by
  obtain ⟨ts, hlex, hread⟩ := h
  obtain ⟨ts', hlex', hread'⟩ := h'
  refine ⟨ts ++ ts', fun rest us hrest => ?_, ?_⟩
  · rw [List.append_assoc, List.append_assoc]
    exact hlex _ _ (hlex' rest us hrest)
  · rw [List.foldlM_append, hread]
    exact hread'

theorem Takes.blank (hbs : IsBlank bs) (r : Reading) : Takes bs r r :=
  ⟨[], fun _ _ hrest => hrest.blank hbs, rfl⟩

theorem Takes.token (hcs : IsToken cs t) (h : r.step t = .ok r') : Takes cs r r' := by
  refine ⟨[t], fun _ _ hrest => hrest.token hcs, ?_⟩
  rw [List.foldlM_cons, h]
  rfl

theorem read_of_takes {text : String} (h : Takes text.toList {} r) (hr : r.expected = .nothing) :
    read text = .ok r.result := by
  obtain ⟨ts, hlex, hread⟩ := h
  have htokens : Token.lex text.toList = (ts, true) := by
    have := hlex [] [] lexes_nil _ le_rfl
    rwa [List.append_nil, List.append_nil] at this
  simp only [read, htokens, hread, bind, Except.bind, hr]
  rfl

end Taking

/-! ### Layouts -/

/-- A layout puts nothing but blanks of some kind between the items of a container. -/
structure Layout.Blank (layout : Layout) (isBlank : Char → Bool) : Prop where
  before (level : Nat) : ∀ c ∈ (layout.before level).toList, isBlank c = true
  between (level : Nat) : ∀ c ∈ (layout.between level).toList, isBlank c = true
  closing (level : Nat) : ∀ c ∈ (layout.closing level).toList, isBlank c = true

theorem Layout.indented_blank {isBlank : Char → Bool} (hline : isBlank '\n' = true) (hspace : isBlank ' ' = true) :
    Layout.indented.Blank isBlank := by
  have hall : ∀ level : Nat, ∀ c ∈ '\n' :: List.replicate (2 * level) ' ', isBlank c = true := by
    intro level c hc
    rcases List.mem_cons.mp hc with rfl | hc
    · exact hline
    · rw [List.eq_of_mem_replicate hc]
      exact hspace
  constructor
  all_goals
    intro level
    rw [Layout.indented, String.toList_ofList]
    exact hall level

theorem Layout.toList_container_nil (layout : Layout) (level : Nat) (opening closing : String) :
    (layout.container level opening closing []).toList = opening.toList ++ closing.toList := by
  rw [Layout.container, if_pos (by rfl), String.toList_append]

theorem intercalate_cons (sep first : List Char) (others : List (List Char)) :
    sep.intercalate (first :: others) = first ++ others.flatMap (sep ++ ·) := by
  induction others generalizing first with
  | nil => simp
  | cons item others ih =>
    rw [List.intercalate_cons_cons, ih, List.flatMap_cons, List.append_assoc, List.append_assoc]

/-- The text of a container that is not empty: the first item, and each other one behind a comma. -/
theorem Layout.toList_container_cons (layout : Layout) (level : Nat) (opening closing first : String)
    (others : List String) :
    (layout.container level opening closing (first :: others)).toList =
      opening.toList ++ ((layout.before (level + 1)).toList ++ (first.toList ++
        (others.flatMap (fun item => ',' :: ((layout.between (level + 1)).toList ++ item.toList)) ++
          ((layout.closing level).toList ++ closing.toList)))) := by
  rw [Layout.container, if_neg (by simp)]
  simp only [String.toList_append, String.toList_intercalate, List.map_cons, intercalate_cons, List.append_assoc,
    List.flatMap_map]
  rfl

/-! ### Items and fields -/

namespace Reading

/-- A value may come next. -/
def Awaits (r : Reading) : Prop :=
  r.expected = .value ∨ r.expected = .valueOrClose

/-- The reading in an array behind its last item. -/
def inArray (r : Reading) (done : List Value) : Reading :=
  { r with opened := .items done :: r.opened, expected := .commaOrClose }

/-- The reading in an object behind its last field, whose key is told. -/
def inObject (r : Reading) (done : Fields) (key : String) : Reading :=
  { r with opened := .fields done key :: r.opened, expected := .commaOrClose }

theorem Awaits.step {r : Reading} (h : r.Awaits) {t : Token} (ht : t ≠ .closeArray) : r.step t = r.begin t := by
  obtain ⟨opened, expected, result⟩ := r
  rcases h with rfl | rfl
  · rfl
  · cases t with
    | closeArray => exact absurd rfl ht
    | _ => rfl

theorem finish_inArray (r : Reading) (done : List Value) (v : Value) (e : Expected) :
    ({ r with opened := .items done :: r.opened, expected := e } : Reading).finish v = r.inArray (v :: done) :=
  rfl

end Reading

section Containers

variable {layout : Layout} {r : Reading}

/-- A text of a value takes each reading that awaits a value, and is not in too many containers, to the one where
that value is there. -/
def Writes (d : Nat) (v : Value) (cs : List Char) : Prop :=
  ∀ r : Reading, r.Awaits → r.opened.length + d ≤ maxDepth + 1 → Takes cs r (r.finish v)

theorem isToken_comma : IsToken [','] .comma :=
  ⟨fun _ => rfl, _, _, rfl, rfl⟩

theorem isToken_colon : IsToken [':'] .colon :=
  ⟨fun _ => rfl, _, _, rfl, rfl⟩

theorem isToken_stringText {s : String} (h : Unpaired s) : IsToken (stringText s).toList (.str s) where
  next := next?_stringText h
  head := by
    rw [stringText, String.toList_ofList]
    exact ⟨_, _, rfl, rfl⟩

theorem Reading.finish_expected (r : Reading) (e : Expected) (v : Value) :
    ({ r with expected := e } : Reading).finish v = r.finish v := by
  obtain ⟨opened, expected, result⟩ := r
  cases opened with
  | nil => rfl
  | cons f outer => cases f <;> rfl

/-- One more item of an array. -/
theorem Writes.item {d : Nat} {v : Value} {cs bs : List Char} (h : Writes d v cs) (hbs : IsBlank bs)
    (hdepth : r.opened.length + (d + 1) ≤ maxDepth + 1) (done : List Value) :
    Takes (',' :: (bs ++ cs)) (r.inArray done) (r.inArray (v :: done)) := by
  have hcomma : (r.inArray done).step .comma =
      .ok { r with opened := .items done :: r.opened, expected := .value } := rfl
  refine (Takes.token isToken_comma hcomma).append ((Takes.blank hbs _).append ?_)
  refine h _ (.inl rfl) ?_
  rw [List.length_cons]
  omega

/-- All further items of an array. -/
theorem takes_items (hlayout : layout.Blank Token.isBlank) (level : Nat) {d : Nat}
    (hdepth : r.opened.length + (d + 1) ≤ maxDepth + 1) (text : Value → String) :
    ∀ (vs : List Value) (done : List Value), (∀ v ∈ vs, Writes d v (text v).toList) →
      Takes (vs.flatMap fun v => ',' :: ((layout.between level).toList ++ (text v).toList)) (r.inArray done)
        (r.inArray (vs.reverse ++ done))
  | [], _, _ => Takes.blank isBlank_nil _
  | v :: vs, done, h => by
    rw [List.flatMap_cons, List.reverse_cons, List.append_assoc]
    exact ((h v List.mem_cons_self).item (hlayout.between level) hdepth done).append
      (takes_items hlayout level hdepth text vs (v :: done) fun u hu => h u (List.mem_cons_of_mem v hu))

/-- The array of some items is written as a container of their texts. -/
theorem writes_arr (hlayout : layout.Blank Token.isBlank) {d : Nat} {text : Value → String} {vs : List Value}
    (h : ∀ v ∈ vs, Writes d v (text v).toList) (level : Nat) :
    Writes (d + 1) (.arr vs) (layout.container level "[" "]" (vs.map text)).toList := by
  intro r hr hdepth
  have hopen : r.step .openArray =
      .ok { r with opened := .items [] :: r.opened, expected := .valueOrClose } :=
    (hr.step (t := .openArray) nofun).trans (if_neg (by omega))
  have hclose : ∀ done, (r.inArray done).step .closeArray = .ok (r.finish (.arr done.reverse)) := fun done =>
    congrArg Except.ok (r.finish_expected .commaOrClose (.arr done.reverse))
  have hopened : IsToken ['['] .openArray := ⟨fun _ => rfl, _, _, rfl, rfl⟩
  have hclosed : IsToken [']'] .closeArray := ⟨fun _ => rfl, _, _, rfl, rfl⟩
  cases vs with
  | nil =>
    have hempty : Reading.step { r with opened := .items [] :: r.opened, expected := .valueOrClose } .closeArray =
        .ok (r.finish (.arr [])) :=
      congrArg Except.ok (r.finish_expected .valueOrClose (.arr []))
    rw [List.map_nil, Layout.toList_container_nil]
    exact (Takes.token hopened hopen).append (Takes.token hclosed hempty)
  | cons v vs =>
    rw [List.map_cons, Layout.toList_container_cons, List.flatMap_map]
    refine (Takes.token hopened hopen).append ((Takes.blank (hlayout.before _) _).append ?_)
    have hfirst := h v List.mem_cons_self { r with opened := .items [] :: r.opened, expected := .valueOrClose }
      (.inr rfl) (by rw [List.length_cons]; omega)
    rw [Reading.finish_inArray] at hfirst
    refine hfirst.append ?_
    have hmore := takes_items hlayout (level + 1) hdepth text vs [v] fun u hu =>
      h u (List.mem_cons_of_mem v hu)
    refine hmore.append ((Takes.blank (hlayout.closing _) _).append (Takes.token hclosed ?_))
    rw [hclose]
    simp

/-- The text of a field with its key. -/
def fieldText (text : Value → String) (f : String × Value) : String :=
  stringText f.1 ++ ": " ++ text f.2

theorem toList_fieldText (text : Value → String) (f : String × Value) :
    (fieldText text f).toList = (stringText f.1).toList ++ (':' :: ' ' :: (text f.2).toList) := by
  rw [fieldText, String.toList_append, String.toList_append, List.append_assoc]
  rfl

/-- One field of an object. -/
theorem Writes.field {d : Nat} {v : Value} {cs : List Char} (h : Writes d v cs)
    (hdepth : r.opened.length + (d + 1) ≤ maxDepth + 1) {key : String} (hkey : Unpaired key)
    {done : Fields} (hnew : .str key ∉ Table.keys done) {e : Expected}
    (he : e = .keyOrClose done ∨ e = .key done) :
    Takes ((stringText key).toList ++ (':' :: ' ' :: cs)) { r with expected := e }
      (r.inObject (done ++ [(.str key, v)]) key) := by
  have hname : Reading.step { r with expected := e } (.str key) =
      .ok { r with expected := .colon done key } := by
    rcases he with rfl | rfl <;> rfl
  have hcolon : Reading.step { r with expected := .colon done key } .colon =
      .ok { r with opened := .fields done key :: r.opened, expected := .value } := rfl
  have hblank : IsBlank [' '] := fun c hc => List.mem_singleton.mp hc ▸ rfl
  refine (Takes.token (isToken_stringText hkey) hname).append ((Takes.token isToken_colon hcolon).append
    ((Takes.blank hblank _).append ?_))
  have hvalue := h { r with opened := .fields done key :: r.opened, expected := .value } (.inl rfl)
    (by rw [List.length_cons]; omega)
  have hput : Table.put (.str key) v done = done ++ [(.str key, v)] := Table.alter_of_not_mem hnew _
  rw [Reading.inObject, ← hput]
  exact hvalue

/-- All further fields of an object. -/
theorem takes_fields (hlayout : layout.Blank Token.isBlank) (level : Nat) {d : Nat}
    (hdepth : r.opened.length + (d + 1) ≤ maxDepth + 1) (text : Value → String) :
    ∀ (fs : List (String × Value)) (done : Fields) (key : String),
      (∀ f ∈ fs, Unpaired f.1 ∧ Writes d f.2 (text f.2).toList) →
      (Table.keys (done ++ fs.map fun f => (Key.str f.1, f.2))).Nodup →
      ∃ key', Takes
        (fs.flatMap fun f => ',' :: ((layout.between level).toList ++ (fieldText text f).toList))
        (r.inObject done key) (r.inObject (done ++ fs.map fun f => (Key.str f.1, f.2)) key')
  | [], done, key, _, _ => by
    rw [List.map_nil, List.append_nil]
    exact ⟨key, Takes.blank isBlank_nil _⟩
  | f :: fs, done, key, h, hnodup => by
    obtain ⟨hname, hvalue⟩ := h f List.mem_cons_self
    have hcomma : (r.inObject done key).step .comma = .ok { r with expected := .key done } := rfl
    have hnew : Key.str f.1 ∉ Table.keys done := by
      rw [Table.keys, List.map_append, List.nodup_append] at hnodup
      exact fun hmem => hnodup.2.2 _ hmem _ List.mem_cons_self rfl
    rw [List.map_cons, List.append_cons] at hnodup ⊢
    obtain ⟨key', hmore⟩ := takes_fields hlayout level hdepth text fs _ f.1
      (fun g hg => h g (List.mem_cons_of_mem f hg)) hnodup
    refine ⟨key', ?_⟩
    rw [List.flatMap_cons, toList_fieldText]
    refine Takes.append ?_ hmore
    exact (Takes.token isToken_comma hcomma).append ((Takes.blank (hlayout.between level) _).append
      (hvalue.field hdepth hname hnew (.inr rfl)))

/-- The object of some fields is written as a container of their texts. -/
theorem writes_record (hlayout : layout.Blank Token.isBlank) {d : Nat} {text : Value → String}
    {fs : List (String × Value)} (hnodup : (fs.map (·.1)).Nodup)
    (h : ∀ f ∈ fs, Unpaired f.1 ∧ Writes d f.2 (text f.2).toList) (level : Nat) :
    Writes (d + 1) (.record fs) (layout.container level "\x7b" "\x7d" (fs.map (fieldText text))).toList := by
  intro r hr hdepth
  have hopen : r.step .openObject = .ok { r with expected := .keyOrClose [] } :=
    (hr.step (t := .openObject) nofun).trans (if_neg (by omega))
  have hclose : ∀ done key, (r.inObject done key).step .closeObject = .ok (r.finish (.obj done)) := fun done _ =>
    congrArg Except.ok (r.finish_expected .commaOrClose (.obj done))
  have hopened : IsToken ['\x7b'] .openObject := ⟨fun _ => rfl, _, _, rfl, rfl⟩
  have hclosed : IsToken ['\x7d'] .closeObject := ⟨fun _ => rfl, _, _, rfl, rfl⟩
  cases fs with
  | nil =>
    have hempty : Reading.step { r with expected := .keyOrClose [] } .closeObject =
        .ok (r.finish (.obj [])) :=
      congrArg Except.ok (r.finish_expected (.keyOrClose []) (.obj []))
    rw [List.map_nil, Layout.toList_container_nil]
    exact (Takes.token hopened hopen).append (Takes.token hclosed hempty)
  | cons f fs =>
    obtain ⟨hname, hvalue⟩ := h f List.mem_cons_self
    have hkeys : (Table.keys ([(Key.str f.1, f.2)] ++ fs.map fun f => (Key.str f.1, f.2))).Nodup := by
      have hmap := (List.nodup_map_iff fun _ _ h => Key.str.inj h).mpr hnodup
      simpa [Table.keys, Function.comp_def] using hmap
    obtain ⟨key', hmore⟩ := takes_fields (r := r) hlayout (level + 1) hdepth text fs
      [(Key.str f.1, f.2)] f.1 (fun g hg => h g (List.mem_cons_of_mem f hg)) hkeys
    rw [List.map_cons, Layout.toList_container_cons, List.flatMap_map, toList_fieldText]
    refine (Takes.token hopened hopen).append ((Takes.blank (hlayout.before _) _).append ?_)
    refine (hvalue.field hdepth hname List.not_mem_nil (.inl rfl)).append (hmore.append ?_)
    exact (Takes.blank (hlayout.closing _) _).append (Takes.token hclosed (hclose _ _))

end Containers

/-! ### Values -/

/-- A value of nulls, truth values, texts, arrays and objects, in which containers stand in each other only so
deep.  There is a condition on the texts and one on the keys, and no key comes twice. -/
inductive Plain (text key : String → Prop) : Nat → Value → Prop
  | null (d : Nat) : Plain text key d .null
  | bool (d : Nat) (b : Bool) : Plain text key d (.bool b)
  | str (d : Nat) {s : String} (hs : text s) : Plain text key d (.str s)
  | arr {d : Nat} {vs : List Value} (h : ∀ v ∈ vs, Plain text key d v) : Plain text key (d + 1) (.arr vs)
  | record {d : Nat} {fs : List (String × Value)} (hnodup : (fs.map (·.1)).Nodup)
    (hkeys : ∀ f ∈ fs, key f.1) (h : ∀ f ∈ fs, Plain text key d f.2) : Plain text key (d + 1) (.record fs)

section Values

variable {layout : Layout} {d : Nat} {v : Value}

theorem itemTexts_eq (layout : Layout) (level : Nat) (vs : List Value) :
    itemTexts layout level vs = vs.map (valueText layout level) := by
  induction vs with
  | nil => rfl
  | cons v vs ih => rw [itemTexts, ih, List.map_cons]

theorem fieldTexts_eq (layout : Layout) (level : Nat) (fs : List (String × Value)) :
    fieldTexts layout level (fs.map fun f => (Key.str f.1, f.2)) = fs.map (fieldText (valueText layout level)) := by
  induction fs with
  | nil => rfl
  | cons f fs ih =>
    rw [List.map_cons, fieldTexts, ih, List.map_cons]
    rfl

theorem Plain.writes (hlayout : layout.Blank Token.isBlank) (h : Plain Unpaired Unpaired d v) :
    ∀ level, Writes d v (valueText layout level v).toList := by
  induction h with
  | null d =>
    intro level r hr _
    have hword : IsToken "null".toList .null := ⟨fun _ => rfl, _, _, rfl, rfl⟩
    rw [valueText]
    exact Takes.token hword (hr.step (t := .null) nofun)
  | bool d b =>
    intro level r hr _
    have hword : IsToken (boolText b).toList (.bool b) := by
      cases b
      · exact ⟨fun _ => rfl, _, _, rfl, rfl⟩
      · exact ⟨fun _ => rfl, _, _, rfl, rfl⟩
    rw [valueText]
    exact Takes.token hword (hr.step (t := .bool b) nofun)
  | str d hs =>
    intro level r hr _
    rw [valueText]
    exact Takes.token (isToken_stringText hs) (hr.step (t := .str _) nofun)
  | arr h ih =>
    intro level
    rw [valueText, itemTexts_eq]
    exact writes_arr hlayout (fun v hv => ih v hv (level + 1)) level
  | record hnodup hkeys h ih =>
    intro level
    rw [Value.record, valueText, fieldTexts_eq]
    exact writes_record hlayout hnodup (fun f hf => ⟨hkeys f hf, ih f hf (level + 1)⟩) level

/-- **Written values are read back**, in whatever layout, and whatever blanks stand behind. -/
theorem Plain.read_valueText (h : Plain Unpaired Unpaired d v) (hdepth : d ≤ maxDepth + 1)
    (hlayout : layout.Blank Token.isBlank) {behind : String} (hbehind : IsBlank behind.toList) :
    read (valueText layout 0 v ++ behind) = .ok v := by
  have htakes := (h.writes hlayout 0 {} (.inl rfl) (by simpa using hdepth)).append
    (Takes.blank hbehind _)
  rw [← String.toList_append] at htakes
  exact read_of_takes htakes rfl

end Values

end WorkflowCheck.Json
