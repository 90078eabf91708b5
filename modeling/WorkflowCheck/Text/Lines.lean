/-!
# Ends of lines

A line ends with a line feed, a carriage return, or both together.
-/

namespace WorkflowCheck.Text

/-- The text with every end of a line made a line feed. -/
def normalizeLines : List Char → List Char
  | '\r' :: '\n' :: r => '\n' :: normalizeLines r
  | '\r' :: r => '\n' :: normalizeLines r
  | c :: r => c :: normalizeLines r
  | [] => []

end WorkflowCheck.Text
