import SchemaCheck.Proofs.FaultOrder
import SchemaCheck.Proofs.Reloading
import SchemaCheck.Proofs.SourceOrder
import SchemaCheck.Proofs.Validation
import SchemaCheck.Proofs.Warnings

/-! The status of a run and its report tell the same. Each bit stands for something that happened while the
sources were gone through, the files ingested or the references checked, and where it did the report has a
part that lists it; a run that cannot start leaves one line. Of the log, a run shows its warnings unless it is
told otherwise: one for each thing that could not be gone through, all before the report. -/
namespace SchemaCheck.CommandLine
open Registry

/-! ## Runs that cannot start -/

structure Account where
  inputs : List LoadError
  files : FileFaults
  references : List Fault

namespace Account

end Account

section
variable [Wording]

namespace Account

def fileText (a : Account) : String := String.join (a.files.map fun row => FileFaults.block row.1 row.2)

def referenceText (a : Account) : String := String.join (a.references.map fun f => f.line ++ "\n")

def pieces (a : Account) : List String :=
  (a.inputs.map fun e => "error: " ++ e.message ++ "\n") ++
    (if a.files = [] then [] else [a.fileText]) ++ (if a.references = [] then [] else [a.referenceText])

end Account

end

end SchemaCheck.CommandLine
