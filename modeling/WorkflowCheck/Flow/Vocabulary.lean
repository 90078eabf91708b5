/-!
# Vocabularies

The closed sets of words that fields of a flow are taken from, each in the order in which a message
lists it.
-/

namespace WorkflowCheck

/-- What kind of data a field holds. -/
inductive DataKind where
  | text | number | object | array | boolean | paragraph
  deriving DecidableEq, Repr, Inhabited

/-- The words for the kinds of data. -/
def DataKind.words : List (String × DataKind) :=
  [("text", .text), ("number", .number), ("object", .object), ("array", .array),
    ("boolean", .boolean), ("paragraph", .paragraph)]

/-- What an input is edited with. -/
inductive Control where
  | text | number | paragraph | select | searchSelect | button | object | paramMatrix
  deriving DecidableEq, Repr, Inhabited

/-- The words for the controls. -/
def Control.words : List (String × Control) :=
  [("text", .text), ("number", .number), ("paragraph", .paragraph), ("select", .select),
    ("searchSelect", .searchSelect), ("button", .button), ("object", .object),
    ("paramMatrix", .paramMatrix)]

/-- The colour of a handle. -/
inductive HandleColor where
  | sky | emerald | amber | rose
  deriving DecidableEq, Repr, Inhabited

/-- The words for the colours. -/
def HandleColor.words : List (String × HandleColor) :=
  [("sky", .sky), ("emerald", .emerald), ("amber", .amber), ("rose", .rose)]

/-- The group that a node belongs to. -/
inductive Collection where
  | input | compute | trade | core
  deriving DecidableEq, Repr, Inhabited

/-- The words for the collections. -/
def Collection.words : List (String × Collection) :=
  [("input", .input), ("compute", .compute), ("trade", .trade), ("core", .core)]

/-- How an edge is drawn. -/
inductive EdgeStyle where
  | default | step | smoothstep | straight
  deriving DecidableEq, Repr, Inhabited

/-- The words for the styles of edges. -/
def EdgeStyle.words : List (String × EdgeStyle) :=
  [("default", .default), ("step", .step), ("smoothstep", .smoothstep), ("straight", .straight)]

end WorkflowCheck
