import WorkflowCheck.Registry.Contract

/-!
# Registries

A registry says which types of node there are and what each of them promises.  It is a table from
types to contracts in the order in which the types were first added; no operation changes a registry
that is already there.
-/

namespace WorkflowCheck

open Decode

/-- The known types of node and their contracts. -/
structure Registry where
  contracts : Table String Contract
  deriving DecidableEq, Repr

/-- Why there is no registry. -/
inductive RegistryError where
  /-- The payload is no object with a list of types. -/
  | noList
  /-- A contract is not right. -/
  | faulty (problems : List Problem)
  /-- A type comes twice. -/
  | duplicate (type : String)
  deriving DecidableEq, Repr

/-- The text of an error; problems have texts of their own. -/
def RegistryError.message : RegistryError → String
  | .noList => "registry payload must contain a 'node_types' list"
  | .faulty _ => ""
  | .duplicate type => "duplicate node type in registry: " ++ type

namespace Registry

/-- No types at all. -/
def empty : Registry :=
  ⟨[]⟩

/-- The contract of a type. -/
def get? (r : Registry) (type : String) : Option Contract :=
  r.contracts.get? type

/-- Whether a type is known. -/
def contains (r : Registry) (type : String) : Bool :=
  (r.get? type).isSome

/-- The known types in order. -/
def types (r : Registry) : List String :=
  r.contracts.keys

/-- How many types are known. -/
def size (r : Registry) : Nat :=
  r.contracts.length

/-- The registry with a contract added, in the place of the one that its type had, if any. -/
def withContract (r : Registry) (c : Contract) : Registry :=
  ⟨r.contracts.put c.type c⟩

/-- The registry with a contract added whose type is new. -/
def add (r : Registry) (c : Contract) : Except RegistryError Registry :=
  if r.contains c.type then .error (.duplicate c.type) else .ok (r.withContract c)

/-- The registry of some contracts, whose types must differ. -/
def ofContracts (contracts : List Contract) : Except RegistryError Registry :=
  contracts.foldlM add empty

/-- The contracts of some values, up to the first one that is not right. -/
def readContracts : List Value → Except RegistryError (List Contract)
  | [] => .ok []
  | v :: vs =>
    match Contract.read v with
    | .valid c => (readContracts vs).map (c :: ·)
    | .faulty ps => .error (.faulty ps)

/-- The registry of an object with a list of contracts. -/
def ofPayload (v : Value) : Except RegistryError Registry :=
  match (v.field "node_types").opened with
  | .arr items => (readContracts items).bind ofContracts
  | _ => .error .noList

/-- The registry with the contracts of some values added one by one. -/
def extend (r : Registry) : List Value → Except RegistryError Registry
  | [] => .ok r
  | v :: vs =>
    match Contract.read v with
    | .valid c => (r.withContract c).extend vs
    | .faulty ps => .error (.faulty ps)

/-- The registry of the contracts of some values, each read when the ones before it are in. -/
def ofValues (values : List Value) : Except RegistryError Registry :=
  values.foldlM (fun r v =>
    match Contract.read v with
    | .valid c => r.add c
    | .faulty ps => .error (.faulty ps)) empty

end Registry

end WorkflowCheck
