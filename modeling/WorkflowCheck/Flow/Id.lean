/-!
# Ids of handles, nodes and edges

The editor names the handle of a field by the field's id and a suffix.  A handle of a wire may also
name the node before a separator.
-/

namespace WorkflowCheck

/-- What the editor puts behind the id of a field to name its handle. -/
def handleSuffix : String :=
  "-handle"

/-- The handle of a field; an id that ends in the suffix is taken to be one already. -/
def handleOfField (field : String) : String :=
  if handleSuffix.toList.isSuffixOf field.toList then field else field ++ handleSuffix

/-- The field of a handle: the id without one suffix. -/
def fieldOfHandle (handle : String) : String :=
  if handleSuffix.toList.isSuffixOf handle.toList then
    String.ofList (handle.toList.take (handle.toList.length - handleSuffix.toList.length))
  else handle

/-- The parts of a text between separators. -/
def segments (separator : Char) : List Char → List (List Char)
  | [] => [[]]
  | c :: cs =>
    if c = separator then [] :: segments separator cs
    else
      match segments separator cs with
      | [] => [[c]]
      | first :: rest => (c :: first) :: rest

/-- Whether the field part of a handle names a field: as a whole, or by its second segment. -/
def namesField (handle field : String) : Bool :=
  handle == field || (segments ':' handle.toList)[1]? == some field.toList

/-- The id of the node of a type with a number. -/
def numberedId (type : String) (k : Nat) : String :=
  type ++ "_" ++ toString k

/-- The first number from `k` on whose id is not taken, when one of the next `tries` is free. -/
def freeNumber (type : String) (taken : List String) : Nat → Nat → Nat
  | 0, k => k
  | tries + 1, k =>
    if numberedId type k ∈ taken then freeNumber type taken tries (k + 1) else k

/-- An id that is not taken yet: the type with the least number from 1 on.  Of one more numbers than
there are ids one is free. -/
def freshNodeId (type : String) (taken : List String) : String :=
  numberedId type (freeNumber type taken taken.length 1)

/-- The id of an edge between two handles. -/
def edgeId (source sourceHandle target targetHandle : String) : String :=
  "edge_" ++ source ++ "_" ++ sourceHandle ++ "_to_" ++ target ++ "_" ++ targetHandle

end WorkflowCheck
