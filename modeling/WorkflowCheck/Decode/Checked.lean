import WorkflowCheck.Decode.Problem

/-!
# Checked results

The outcome of reading a value: what was read, or every problem that was found.  Results of parts
are joined so that no problem hides another: the problems of a record are those of all its fields,
in the order of the fields.
-/

namespace WorkflowCheck.Decode

/-- What was read, or all that is wrong with it. -/
inductive Checked (α : Type) where
  | valid (a : α)
  | faulty (problems : List Problem)
  deriving Repr

namespace Checked

variable {α β : Type}

/-- The result with a function applied to what was read. -/
def map (f : α → β) : Checked α → Checked β
  | .valid a => .valid (f a)
  | .faulty ps => .faulty ps

/-- A function and its argument, both checked; the problems of both are listed. -/
def apply (f : Checked (α → β)) (x : Checked α) : Checked β :=
  match f, x with
  | .valid f, .valid a => .valid (f a)
  | .valid _, .faulty ps => .faulty ps
  | .faulty ps, .valid _ => .faulty ps
  | .faulty ps, .faulty qs => .faulty (ps ++ qs)

/-- The result as seen from one step further out. -/
def under (step : Step) : Checked α → Checked α
  | .valid a => .valid a
  | .faulty ps => .faulty (ps.map (·.under step))

/-- A further check that runs only on what was read without a problem. -/
def andThen (x : Checked α) (f : α → Checked β) : Checked β :=
  match x with
  | .valid a => f a
  | .faulty ps => .faulty ps

/-- A fault of the whole value. -/
def fault (f : Fault) : Checked α :=
  .faulty [⟨[], f⟩]

/-- The results of a list, the one at each place seen from outside the list. -/
def places (f : β → Checked α) : Nat → List β → Checked (List α)
  | _, [] => .valid []
  | i, x :: xs => apply (((f x).under (.place i)).map List.cons) (places f (i + 1) xs)

/-- The results of a list, up to the first one with a problem. -/
def each (f : β → Checked α) : List β → Checked (List α)
  | [] => .valid []
  | x :: xs => (f x).andThen fun y => (each f xs).andThen fun ys => .valid (y :: ys)

/-- What was read, if there was no problem. -/
def toOption : Checked α → Option α
  | .valid a => some a
  | .faulty _ => none

instance : Functor Checked := ⟨map, fun a => map fun _ => a⟩

instance : Seq Checked := ⟨fun f x => apply f (x ())⟩

end Checked

end WorkflowCheck.Decode
