import SchemaCheck.Fault
import SchemaCheck.Path
import SchemaCheck.Text.Blank
/-! The faults of files by path, and their report: for each file its path, its faults with an indent of
two spaces, and an empty line. -/
namespace SchemaCheck

abbrev FileFaults := List (String × List Fault)

namespace FileFaults

/-- Sets the faults of a file. A path that is there in another spelling keeps it. -/
def insert (path : String) (faults : List Fault) : FileFaults → FileFaults
  | [] => [(path, faults)]
  | (p, fs) :: rest =>
    match Path.order path p with
    | .lt => (path, faults) :: (p, fs) :: rest
    | .eq => (p, faults) :: rest
    | .gt => (p, fs) :: insert path faults rest

def get? (path : String) : FileFaults → Option (List Fault)
  | [] => none
  | (p, fs) :: rest => if Path.order path p = .eq then some fs else get? path rest

def indented (line : List Char) : String := "  " ++ String.ofList (Text.dropBlanks line) ++ "\n"

def block [Wording] (path : String) (faults : List Fault) : String :=
  path ++ "\n" ++ String.join ((Text.lines (Fault.report faults)).map indented) ++ "\n"

def report [Wording] (files : FileFaults) : String := String.join (files.map fun (p, fs) => block p fs)

end FileFaults
end SchemaCheck
