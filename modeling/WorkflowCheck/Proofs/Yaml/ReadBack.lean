import WorkflowCheck.Proofs.Yaml.Contents
import WorkflowCheck.Yaml.Document

/-!
# JSON texts are read as YAML

A place of a graph holds at most one value (`Holds.unique`), and that is the value that is built there, whatever has
been built before (`gives_build`).  So the JSON text of a value with short names of fields is a YAML text of that
value, with two lone surrogates for each wide character in its strings (`read_valueText`).
-/

namespace WorkflowCheck.Yaml

open Json (Plain)

/-! ### One value for a place -/

theorem eq_of_map_fst_eq {α β : Type} : ∀ {l l' : List (α × β)}, l.map (·.1) = l'.map (·.1) →
    (∀ e ∈ l, ∀ e' ∈ l', e.1 = e'.1 → e.2 = e'.2) → l = l'
  | [], [], _, _ => rfl
  | e :: l, e' :: l', h, hsnd => by
    obtain ⟨hfst, hrest⟩ := List.cons.inj h
    have hhead : e = e' := Prod.ext hfst (hsnd e List.mem_cons_self e' List.mem_cons_self hfst)
    have htail := eq_of_map_fst_eq hrest fun d hd d' hd' =>
      hsnd d (List.mem_cons_of_mem e hd) d' (List.mem_cons_of_mem e' hd')
    rw [hhead, htail]

theorem Holds.unique {nodes : Array Node} {p : Nat} {v w : Value} (hv : Holds nodes p v) (hw : Holds nodes p w) :
    v = w := by
  induction hv generalizing w with
  | leaf hnode hleaf =>
    cases hw with
    | leaf hnode' hleaf' =>
      cases hnode.symm.trans hnode'
      exact Except.ok.inj (hleaf.value.symm.trans hleaf'.value)
    | arr hnode' => cases hnode.symm.trans hnode'
    | record hnode' => cases hnode.symm.trans hnode'
  | arr hnode _ _ ih =>
    cases hw with
    | leaf hnode' => cases hnode.symm.trans hnode'
    | record hnode' => cases hnode.symm.trans hnode'
    | @arr _ items' hnode' _ hitems =>
      have hplaces := (Node.sequence.inj (Option.some.inj (hnode.symm.trans hnode'))).2
      rw [eq_of_map_fst_eq hplaces fun e he e' he' hp => ih e he (hp ▸ hitems e' he')]
  | record hnode _ _ hkeys _ ih =>
    cases hw with
    | leaf hnode' => cases hnode.symm.trans hnode'
    | arr hnode' => cases hnode.symm.trans hnode'
    | @record _ fields' hnode' _ _ hkeys' hfields =>
      have hplaces := (Node.mapping.inj (Option.some.inj (hnode.symm.trans hnode'))).2
      rw [eq_of_map_fst_eq hplaces fun f hf f' hf' hp => Prod.ext ?_ (ih f hf (hp ▸ hfields f' hf'))]
      have hkey := hkeys f hf
      rw [hp, hkeys' f' hf'] at hkey
      exact (Node.scalar.inj (Option.some.inj hkey)).2.symm

/-! ### Building values -/

/-- What is known is right, and no collection was found to hold itself. -/
structure Cached (nodes : Array Node) (known : Known) : Prop where
  values : ∀ p v, known.values.getD p none = some v → Holds nodes p v
  loops : ∀ p, known.loops.getD p false = false

/-- A step gives a result, whatever is known. -/
def Gives {α : Type} (nodes : Array Node) (x : Build α) (a : α) : Prop :=
  ∀ known, Cached nodes known → ∃ known', x.run known = (a, known') ∧ Cached nodes known'

section Gives

variable {α β : Type} {nodes : Array Node} {x : Build α} {a : α} {known known' : Known} {p : Nat} {v : Value}

theorem run_bind_eq (h : x.run known = (a, known')) (f : α → Build β) : (x >>= f).run known = (f a).run known' := by
  rw [StateT.run_bind, h]
  rfl

theorem gives_pure (a : α) : Gives nodes (pure a) a :=
  fun known hknown => ⟨known, rfl, hknown⟩

theorem Gives.bind {f : α → Build β} {b : β} (hx : Gives nodes x a) (hf : Gives nodes (f a) b) :
    Gives nodes (x >>= f) b := by
  intro known hknown
  obtain ⟨known', hrun, hknown'⟩ := hx known hknown
  obtain ⟨known'', hrun', hknown''⟩ := hf known' hknown'
  exact ⟨known'', (run_bind_eq hrun f).trans hrun', hknown''⟩

theorem gives_mapM {step : α → Build β} {result : α → β} : ∀ {as : List α},
    (∀ a ∈ as, Gives nodes (step a) (result a)) → Gives nodes (as.mapM step) (as.map result)
  | [], _ => gives_pure []
  | a :: as, h => by
    obtain ⟨ha, has⟩ := List.forall_mem_cons.mp h
    rw [List.mapM_cons]
    exact ha.bind ((gives_mapM has).bind (gives_pure _))

theorem marksOf_eq_nil {parts : List Part} (h : ∀ part ∈ parts, part.2 = []) : marksOf parts = [] := by
  rw [marksOf, List.flatMap_eq_nil_iff.mpr h]
  rfl

/-- A collection without marks is closed as it is, and is known from then on. -/
theorem gives_close (h : Holds nodes p v) : Gives nodes (close p v []) (v, []) := by
  intro known hknown
  refine ⟨{ known with values := known.values.setIfInBounds p (some v) }, ?_, fun q w hw => ?_, hknown.loops⟩
  · have hclose : close p v [] = do
        let known ← get
        let v := if known.loops.getD p false then .loop p v else v
        modify fun known => { known with values := known.values.setIfInBounds p (some v) }
        return (v, []) := rfl
    rw [hclose]
    show ((if known.loops.getD p false then .loop p v else v, []), (_ : Known)) = _
    rw [hknown.loops p]
    rfl
  · rw [Array.getD_eq_getD_getElem?, Array.getElem?_setIfInBounds] at hw
    split_ifs at hw with hq hp
    · cases hw
      exact hq ▸ h
    · cases hw
    · exact hknown.values q w (by rwa [Array.getD_eq_getD_getElem?])

end Gives

section Build

variable {g : Graph} {contents : Array (Option Content)} {steps : Nat} {around : List Nat} {p : Nat} {v : Value}

/-- A place is built from its content, if it has not been built before. -/
theorem gives_build_of_assemble (hcontents : g.HasContents contents) (h : Holds g.nodes p v)
    (htaken : IsTaken contents p) (haround : ∀ q ∈ around, q < p) (hsteps : g.nodes.size < steps + p)
    (hassemble : ∀ steps, g.nodes.size ≤ steps + p →
      Gives g.nodes (assemble (build contents steps (p :: around)) p (some (g.contentOf p))) (v, [])) :
    Gives g.nodes (build contents steps around p) (v, []) := by
  intro known hknown
  have hsize : p < g.nodes.size := Graph.Sound.lt_size ⟨v, h⟩
  obtain ⟨steps, rfl⟩ : ∃ k, steps = k + 1 := ⟨steps - 1, by omega⟩
  have hget : (get : Build Known).run known = (known, known) := rfl
  have hnot : ¬around.contains p = true := by
    rw [List.contains_iff_mem]
    exact fun hp => Nat.lt_irrefl p (haround p hp)
  rw [build, if_neg hnot, run_bind_eq hget]
  cases hp : known.values.getD p none with
  | some w =>
    rw [h.unique (hknown.values p w hp)]
    exact gives_pure _ known hknown
  | none =>
    rw [hcontents.content p htaken]
    exact hassemble steps (by omega) known hknown

/-- What a place holds is built from the contents of the graph. -/
theorem gives_build (hcontents : g.HasContents contents) (h : Holds g.nodes p v) (htaken : IsTaken contents p)
    (haround : ∀ q ∈ around, q < p) (hsteps : g.nodes.size < steps + p) :
    Gives g.nodes (build contents steps around p) (v, []) := by
  induction h generalizing steps around with
  | leaf hnode hleaf =>
    refine gives_build_of_assemble hcontents (.leaf hnode hleaf) htaken haround hsteps fun steps hsteps => ?_
    rw [Graph.contentOf_leaf (Graph.node_eq hnode) hleaf]
    exact gives_pure _
  | @arr p items hnode hlater hitems ih =>
    have hholds := Holds.arr hnode hlater hitems
    refine gives_build_of_assemble hcontents hholds htaken haround hsteps fun steps hsteps => ?_
    have hchildren : ∀ e ∈ items, Gives g.nodes (build contents steps (p :: around) e.1) (e.2, []) := by
      intro e he
      have hlt := hlater e he
      refine ih e he (hcontents.children p htaken e.1 ?_) (List.forall_mem_cons.mpr ⟨hlt, fun q hq => ?_⟩) (by omega)
      · rw [Graph.children, Graph.node_eq hnode]
        exact List.mem_map_of_mem he
      · exact (haround q hq).trans hlt
    have hcontent : g.contentOf p = .items (items.map (·.1)) := by rw [Graph.contentOf, Graph.node_eq hnode]
    have hmarks : marksOf (items.map fun e => (e.2, [])) = [] := marksOf_eq_nil (List.forall_mem_map.mpr fun _ _ => rfl)
    have hvalues : (items.map fun e => (e.2, ([] : List Nat))).map (·.1) = items.map (·.2) := List.map_map
    rw [hcontent, assemble, List.mapM_map]
    refine (gives_mapM hchildren).bind ?_
    rw [hmarks, hvalues]
    exact gives_close hholds
  | @record p fields hnode hlater hnodup hkeys hfields ih =>
    have hholds := Holds.record hnode hlater hnodup hkeys hfields
    refine gives_build_of_assemble hcontents hholds htaken haround hsteps fun steps hsteps => ?_
    have hchildren : ∀ f ∈ fields, Gives g.nodes (build contents steps (p :: around) f.1.2) (f.2.2, []) := by
      intro f hf
      have hlt := (hlater f hf).2
      refine ih f hf (hcontents.children p htaken f.1.2 ?_) (List.forall_mem_cons.mpr ⟨hlt, fun q hq => ?_⟩) (by omega)
      · rw [Graph.children, Graph.node_eq hnode]
        exact List.mem_map_of_mem (List.mem_map_of_mem hf)
      · exact (haround q hq).trans hlt
    have hcontent : g.contentOf p = .fields (fields.map fun f => (.str f.2.1, f.1.2)) := by
      rw [Graph.contentOf, Graph.node_eq hnode]
      show Content.fields (g.fieldsOf (fields.map (·.1))) = _
      rw [Graph.fieldsOf, List.map_map]
      refine congrArg Content.fields (List.map_congr_left fun f hf => ?_)
      show (g.keyOf f.1.1, f.1.2) = _
      rw [Graph.keyOf, Graph.node_eq (hkeys f hf)]
    have hparts : ∀ f ∈ fields, Gives g.nodes
        (do
          let part ← build contents steps (p :: around) f.1.2
          return (Key.str f.2.1, part))
        (Key.str f.2.1, f.2.2, []) :=
      fun f hf => (hchildren f hf).bind (gives_pure _)
    have hmarks : marksOf ((fields.map fun f => (Key.str f.2.1, f.2.2, ([] : List Nat))).map (·.2)) = [] :=
      marksOf_eq_nil (List.forall_mem_map.mpr (List.forall_mem_map.mpr fun _ _ => rfl))
    have hvalues : (fields.map fun f => (Key.str f.2.1, f.2.2, ([] : List Nat))).map (fun part => (part.1, part.2.1)) =
        (fields.map (·.2)).map fun f => (Key.str f.1, f.2) := by
      rw [List.map_map, List.map_map]
      rfl
    rw [hcontent, assemble, List.mapM_map]
    refine (gives_mapM hparts).bind ?_
    rw [hmarks, hvalues]
    exact gives_close hholds

end Build

/-- A graph stands for the value that its root holds. -/
theorem Graph.value_of_holds {g : Graph} {v : Value} (h : Holds g.nodes g.root v) : g.value = .ok v := by
  obtain ⟨contents, hrun, hcontents⟩ := Graph.contents_of_holds ⟨v, h⟩
  have hnothing : Cached g.nodes ⟨contents.map fun _ => none, contents.map fun _ => false⟩ := by
    refine ⟨fun p w hw => ?_, fun p => getD_map_const contents false p⟩
    rw [getD_map_const] at hw
    cases hw
  have hgives : Gives g.nodes (build contents (g.nodes.size + 2) [] g.root) (v, []) :=
    gives_build hcontents h hcontents.root nofun (by omega)
  obtain ⟨known, hbuild, -⟩ := hgives _ hnothing
  rw [Graph.value, hrun]
  show Except.ok ((build contents (g.nodes.size + 2) [] g.root).run _).1.1 = _
  rw [hbuild]

/-- **The JSON text of an array or an object is a YAML text of it**, with a line feed behind it and short names of
fields, but that it has two lone surrogates for each wide character in its strings. -/
theorem read_valueText {text : String → Prop} {d : Nat} {v : Value} (h : Plain text IsKey d v)
    (hv : v.isList = true ∨ v.isObject = true) (hdepth : d ≤ Parse.maxDepth) :
    read (Json.valueText .indented 0 v ++ "\n") none = .ok (halvedValue v) := by
  have hlex := lex_of_cuts (cuts_collection h hv 0 0) (isText_valueText h 0)
  obtain ⟨g, hread, hholds⟩ := graph_read hlex (Parse.parses_valueTokens (plain_halvedValue h)) hdepth
  have hline : (Json.valueText .indented 0 v ++ "\n").toList = (Json.valueText .indented 0 v).toList ++ ['\n'] :=
    String.toList_append
  rw [read, hline]
  show (Graph.read _ none).bind Graph.value = _
  rw [hread]
  exact Graph.value_of_holds hholds

end WorkflowCheck.Yaml
