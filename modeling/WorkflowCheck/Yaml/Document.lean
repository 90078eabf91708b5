import WorkflowCheck.Yaml.Content

/-!
# Reading YAML

The value that a YAML document stands for.  A collection that holds itself, at any depth, becomes a
loop whose mark is its name in the graph; every other node becomes a plain value, and one with several
parents is built only once.
-/

namespace WorkflowCheck.Yaml

/-! ### Building values -/

/-- What is known of the nodes of a graph while values are built. -/
structure Known where
  /-- The values of nodes that hold no mark of a collection around them. -/
  values : Array (Option Value)
  /-- The collections that hold themselves. -/
  loops : Array Bool

/-- A step of building values. -/
abbrev Build := StateM Known

/-- A value, and the marks in it of collections around it. -/
abbrev Part := Value × List Nat

/-- The marks of several parts. -/
def marksOf (parts : List Part) : List Nat :=
  (parts.flatMap (·.2)).eraseDups

/-- The value of a collection, from the values of its children.  It holds itself when there are marks in
them, its own or those of collections around it; and once that has been seen, it does so everywhere. -/
def close (place : Nat) (v : Value) (marks : List Nat) : Build Part := do
  if !marks.isEmpty then
    modify fun known => { known with loops := known.loops.setIfInBounds place true }
  let v := if (← get).loops.getD place false then .loop place v else v
  let marks := marks.filter (· ≠ place)
  if marks.isEmpty then
    modify fun known => { known with values := known.values.setIfInBounds place (some v) }
  return (v, marks)

/-- The value of a node from what it holds, and from the values of its children. -/
def assemble (child : Nat → Build Part) (place : Nat) : Option Content → Build Part
  | some (.leaf v) => return (v, [])
  | some (.members keys) => return (.set keys, [])
  | some (.items places) => do
    let parts ← places.mapM child
    close place (.arr (parts.map (·.1))) (marksOf parts)
  | some (.fields entries) => do
    let parts ← entries.mapM fun e => return (e.1, ← child e.2)
    close place (.obj (parts.map fun part => (part.1, part.2.1))) (marksOf (parts.map (·.2)))
  | some (.pairs entries) => do
    let parts ← entries.mapM fun e => return (← child e.1, ← child e.2)
    close place (.arr (parts.map fun part => .pair part.1.1 part.2.1))
      (marksOf (parts.flatMap fun part => [part.1, part.2]))
  | some .pending | none => return (.null, [])

/-- The value of a node inside collections, which are given by their names.  No collection stands in
more of them than there are nodes, so as many steps as that and two more are enough. -/
def build (contents : Array (Option Content)) : Nat → List Nat → Nat → Build Part
  | 0, _, place => return (.again place, [place])
  | steps + 1, around, place => do
    if around.contains place then return (.again place, [place])
    if let some v := (← get).values.getD place none then return (v, [])
    assemble (build contents steps (place :: around)) place (contents.getD place none)

/-! ### Documents -/

/-- The value of the document of a graph. -/
def Graph.value (g : Graph) : Except Fault Value := do
  let contents ← g.contents
  let start : Known := ⟨contents.map fun _ => none, contents.map fun _ => false⟩
  return ((build contents (g.nodes.size + 2) [] g.root).run start).1.1

/-- The value of a YAML text, which may be cut off. -/
def read (text : String) (cut : Option Fault) : Except Fault Value := do
  (← Graph.read text.toList cut).value

/-- The value of a whole YAML text; none if there is a fault. -/
def read? (text : String) : Option Value :=
  (read text none).toOption

end WorkflowCheck.Yaml
