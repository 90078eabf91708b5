import WorkflowCheck.Proofs.Number.Range
import WorkflowCheck.Proofs.Value.Field

/-!
# Where a position puts a node

A position has a place when its two coordinates are numbers.  The place is known when both numbers fit a
double, and otherwise nothing can be done with it.
-/

namespace WorkflowCheck

namespace Value

/-- The value is no integer past the largest double. -/
def FitsDouble (v : Value) : Prop :=
  ∀ i : Int, v = .int i → i.natAbs < Double.leastOversized

/-- A position has two numbers. -/
def HasNumbers (position : Value) : Prop :=
  (position.field "x").IsNumeric ∧ (position.field "y").IsNumeric

/-- Both coordinates of a position fit a double. -/
def HasFittingNumbers (position : Value) : Prop :=
  (position.field "x").FitsDouble ∧ (position.field "y").FitsDouble

theorem isSome_toDouble?_iff {v : Value} (h : v.IsNumeric) :
    v.toDouble?.isSome = true ↔ v.FitsDouble := by
  rcases h with ⟨i, rfl⟩ | ⟨d, rfl⟩
  · refine (Double.isSome_ofInt?_iff i).trans ⟨?_, fun h => h i rfl⟩
    rintro h _ ⟨⟩
    exact h
  · refine iff_of_true rfl ?_
    rintro i ⟨⟩

end Value

namespace Place

variable {position : Value}

/-- The three places of a position with numbers, without numbers, and with one that is too large. -/
theorem ofPosition_cases (position : Value) :
    (ofPosition position = .unknown ∧ ¬ position.HasNumbers) ∨
      (ofPosition position = .oversized ∧ position.HasNumbers ∧ ¬ position.HasFittingNumbers) ∨
      ((∃ x y, ofPosition position = .located x y) ∧ position.HasNumbers ∧
        position.HasFittingNumbers) := by
  have hnumbers : ((position.field "x").isNumber && (position.field "y").isNumber) = true ↔
      position.HasNumbers := by
    rw [Bool.and_eq_true, Value.isNumber_iff, Value.isNumber_iff, Value.HasNumbers]
  unfold ofPosition
  dsimp only
  split_ifs with h
  · right
    have hxy := hnumbers.mp h
    have hx := Value.isSome_toDouble?_iff hxy.1
    have hy := Value.isSome_toDouble?_iff hxy.2
    unfold Value.HasFittingNumbers
    rw [← hx, ← hy]
    cases (position.field "x").toDouble? with
    | none => exact Or.inl ⟨rfl, hxy, fun hboth => Bool.noConfusion hboth.1⟩
    | some a =>
      cases (position.field "y").toDouble? with
      | none => exact Or.inl ⟨rfl, hxy, fun hboth => Bool.noConfusion hboth.2⟩
      | some b => exact Or.inr ⟨⟨a, b, rfl⟩, hxy, rfl, rfl⟩
  · exact Or.inl ⟨rfl, fun hxy => h (hnumbers.mpr hxy)⟩

theorem ofPosition_eq_oversized_iff :
    ofPosition position = .oversized ↔ position.HasNumbers ∧ ¬ position.HasFittingNumbers := by
  rcases ofPosition_cases position with ⟨h, hnot⟩ | ⟨h, hboth⟩ | ⟨⟨x, y, h⟩, -, hfits⟩
  · rw [h]
    exact iff_of_false Place.noConfusion fun hboth => hnot hboth.1
  · exact iff_of_true h hboth
  · rw [h]
    exact iff_of_false Place.noConfusion fun hboth => hboth.2 hfits

theorem exists_coordinates?_iff :
    (∃ here, (ofPosition position).coordinates? = some here) ↔
      position.HasNumbers ∧ position.HasFittingNumbers := by
  rcases ofPosition_cases position with ⟨h, hnot⟩ | ⟨h, -, hnot⟩ | ⟨⟨x, y, h⟩, hboth⟩
  · rw [h]
    exact iff_of_false (fun hsome => nomatch hsome) fun hboth => hnot hboth.1
  · rw [h]
    exact iff_of_false (fun hsome => nomatch hsome) fun hboth => hnot hboth.2
  · rw [h]
    exact iff_of_true ⟨(x, y), rfl⟩ hboth

end Place

end WorkflowCheck
