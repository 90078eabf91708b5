/-!
# Sorted texts
-/

namespace WorkflowCheck.Text

/-- The different texts of a list, in the order of their code points. -/
def sortedSet (texts : List String) : List String :=
  texts.eraseDups.mergeSort fun s t => decide (s ≤ t)

end WorkflowCheck.Text
