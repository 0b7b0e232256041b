import SchemaCheck.FileTree
/-! Listing what is at and below a path: an entry, then what is in it if it is a directory, in order of
the names. A link is listed as what it is unless links are followed; the directory behind a link that the
listing starts from is listed in any case. -/
namespace SchemaCheck

inductive WalkError where
  | io (path : String) (e : IoError)
  | loop (path ancestor : String)
  deriving DecidableEq, Repr

namespace WalkError

def path : WalkError → String
  | io path _ => path
  | loop path _ => path

def message : WalkError → String
  | io path e => "IO error for operation on " ++ path ++ ": " ++ e.message
  | loop path ancestor =>
    "File system loop found: " ++ path ++ " points to an ancestor " ++ ancestor

end WalkError

structure FoundFile where
  path : String
  isLink : Bool
  deriving DecidableEq, Repr

namespace FoundFile

def name (f : FoundFile) : String := (Path.fileName? f.path).getD f.path

end FoundFile

namespace FileTree

structure WalkOptions where
  followLinks : Bool
  excludes : String → Bool

abbrev Listing := List (Except WalkError FoundFile)

abbrev Open := List (String × Location)

def listed (path : String) (isLink : Bool) : Listing := [.ok ⟨path, isLink⟩]

def listEntry (t : FileTree) (o : WalkOptions) (enter : String → Location → Open → Listing)
    (path : String) (here : Location) (above : Open) (name : String) (n : FileNode) : Listing :=
  match n with
  | .file _ => listed path false
  | .directory _ => if o.excludes name then [] else enter path (here ++ [name]) above
  | .link _ =>
    if !o.followLinks then listed path true
    else match t.find true path with
      | .error e => [.error (.io path e)]
      | .ok (place, .directory _) =>
        match above.find? (·.2 = place) with
        | some (ancestor, _) => [.error (.loop path ancestor)]
        | none => if o.excludes name then [] else enter path place above
      | .ok _ => listed path false

/-- What is in a directory, which is opened by its path. No open directory is entered again, so as many
levels are enough as there are directories. -/
def listDirectory (t : FileTree) (o : WalkOptions) : Nat → String → Location → Open → Listing
  | 0, _, _, _ => []
  | levels + 1, path, here, above =>
    if pathLimit ≤ path.utf8ByteSize then [.error (.io path .nameTooLong)]
    else match t.root.at? here with
      | some (.directory entries) =>
        entries.flatMap fun (name, n) =>
          listEntry t o (listDirectory t o levels) (Path.join path name) here
            ((path, here) :: above) name n
      | _ => []

def walk (t : FileTree) (o : WalkOptions) (path : String) : Listing :=
  let enter (place : Location) := listDirectory t o (t.root.directories + 1) path place []
  match t.find false path with
  | .error e => [.error (.io path e)]
  | .ok (_, .file _) => listed path false
  | .ok (place, .directory _) => enter place
  | .ok (_, .link _) =>
    match t.find true path with
    | .error e => [.error (.io path e)]
    | .ok (place, .directory _) =>
      if o.followLinks then enter place else listed path true ++ enter place
    | .ok _ => listed path (!o.followLinks)

end FileTree
end SchemaCheck
