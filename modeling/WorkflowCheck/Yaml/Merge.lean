import WorkflowCheck.Yaml.Node

/-!
# Merged mappings

A mapping takes over the entries of the mappings that are merged into it, before its own ones.  What is
merged is itself merged first, in place, so that a mapping that is merged in several places, or into
itself, has its merge keys carried out once.  Only the kinds of the merged nodes count, not their tags.
-/

namespace WorkflowCheck.Yaml

/-- An entry of a mapping, by the names of its key and its value. -/
abbrev Entry := Nat × Nat

namespace Graph

/-- The node of a name. -/
def node (g : Graph) (place : Nat) : Node :=
  g.nodes.getD place .absent

/-- The graph with another node of a name. -/
def setNode (g : Graph) (place : Nat) (n : Node) : Graph :=
  { g with nodes := g.nodes.setIfInBounds place n }

/-- The entries of a mapping; none of a node of another kind. -/
def entries? (g : Graph) (place : Nat) : Option (List Entry) :=
  match g.node place with
  | .mapping _ entries => some entries
  | _ => none

/-- The graph with other entries of a mapping. -/
def setEntries (g : Graph) (place : Nat) (entries : List Entry) : Graph :=
  g.setNode place (.mapping (g.node place).tag entries)

/-- Whether an entry is merged. -/
def isMerge (g : Graph) (e : Entry) : Bool :=
  (g.node e.1).tag == .merge

/-- How many entries are merged in the whole graph. -/
def mergeCount (g : Graph) : Nat :=
  g.nodes.toList.foldl (fun count n =>
    match n with
    | .mapping _ entries => count + (entries.filter g.isMerge).length
    | _ => count) 0

/-- The graph with the keys of default values among some entries made texts. -/
def plainKeys (g : Graph) (entries : List Entry) : Graph :=
  entries.foldl (fun g (k, _) =>
    if (g.node k).tag = .default then g.setNode k ((g.node k).withTag .text) else g) g

/-- The graph with the merge keys of a mapping carried out behind entries that are merged already.  Each
step takes a merge key out of its mapping, so as many steps as there are merge keys and one more are
enough. -/
def merge : Nat → List Entry → Nat → Graph → Except Fault Graph
  | 0, _, _, _ => .error .malformed
  | steps + 1, merged, place, g => do
    let entries := (g.entries? place).getD []
    match entries.dropWhile (!g.isMerge ·) with
    | [] =>
      let g := g.plainKeys entries
      return g.setEntries place (merged ++ entries)
    | e :: after =>
      let g := g.setEntries place (entries.takeWhile (!g.isMerge ·) ++ after)
      let mergeOne (g : Graph) (source : Nat) : Except Fault (Graph × List Entry) := do
        if (g.entries? source).isNone then throw .malformed
        let g ← g.merge steps [] source
        return (g, (g.entries? source).getD [])
      let (g, brought) ←
        match g.node e.2 with
        | .sequence _ items =>
          items.foldlM (fun (g, brought) item => do
            let (g, entries) ← mergeOne g item
            return (g, entries ++ brought)) (g, [])
        | _ => mergeOne g e.2
      g.merge steps (merged ++ brought) place

end Graph

end WorkflowCheck.Yaml
