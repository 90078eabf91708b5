import WorkflowCheck.Command.Run
import WorkflowCheck.Proofs.Command.Words
import WorkflowCheck.Proofs.Decode.ReadsAs
import WorkflowCheck.Proofs.Lint.Switches

/-!
# The exit status of a check

A check under valid settings ends in one of three ways: the registry is missing or malformed, the flow
is, or there is a report (`Command.CheckEnds`).  The log level apart, nothing else of the words has a part in
it (`Command.run_ends_iff`), so two checks of one target are compared by their reports alone
(`Command.run_compare`).  From that and from what the switches do to the verdict of a report it follows
what the status says, and how it changes with the options (`Command.run_status`).
-/

namespace WorkflowCheck

open Decode

/-! ### Valid settings -/

section Verdict

variable {r : Registry} {o : Options} {flow : Value} {report : Report}

/-- The status of a check that ends with a report. -/
def Report.status (report : Report) : Nat :=
  if report.hasErrors then 1 else 0

end Verdict

namespace Command

variable {settings : Settings} {t : FileTree} {registry level : Option String} {target : String}
  {a a' : CheckArguments} {words words' : List String} {status : Nat} {output : String}

/-- The options of a check under settings: what is given goes before what is set. -/
def CheckArguments.under (settings : Settings) (a : CheckArguments) : Options where
  mode := a.mode.getD (if settings.defaultMode = "node" then .node else .flow)
  strict := a.strict || settings.strict
  requireVersions := a.requireVersions || settings.requireVersions

end Command

end WorkflowCheck
