import SchemaCheck.Entries
/-! Paths as they are spelled, and what they mean: a list of components, in which repeated slashes,
inner dots and a slash at the end do not count. Two paths are equal, and in order, as their components
are. -/
namespace SchemaCheck.Path

inductive Component where
  | root | current | parent
  | name (s : String)
  deriving DecidableEq, Repr

def splitFrom : List Char → List Char → List String
  | acc, [] => [String.ofList acc.reverse]
  | acc, '/' :: rest => String.ofList acc.reverse :: splitFrom [] rest
  | acc, c :: rest => splitFrom (c :: acc) rest

def parts (path : String) : List String := splitFrom [] path.toList

def isAbsolute (path : String) : Bool := path.startsWith "/"

def component (s : String) : Component := if s = ".." then .parent else .name s

/-- A dot counts only where a relative path begins with it. -/
def components (path : String) : List Component :=
  let ps := parts path
  let inner := (ps.filter fun s => s ≠ "" && s ≠ ".").map component
  if isAbsolute path then .root :: inner
  else if ps.head? = some "." then .current :: inner
  else inner

def fileName? (path : String) : Option String :=
  match (components path).getLast? with
  | some (.name s) => some s
  | _ => none

def extensionOf? (name : String) : Option String :=
  let cs := name.toList.reverse
  match cs.dropWhile (· ≠ '.') with
  | '.' :: _ :: _ => some (String.ofList (cs.takeWhile (· ≠ '.')).reverse)
  | _ => none

def extension? (path : String) : Option String := (fileName? path).bind extensionOf?

def join (directory name : String) : String :=
  if directory.isEmpty || directory.endsWith "/" then directory ++ name else directory ++ "/" ++ name

/-! ## Order -/

def Component.rank : Component → Nat
  | root => 0
  | current => 1
  | parent => 2
  | name _ => 3

def Component.text : Component → String
  | name s => s
  | _ => ""

def Component.order (a b : Component) : Ordering :=
  (Ord.compare a.rank b.rank).then (Ord.compare a.text b.text)

def orderFrom : List Component → List Component → Ordering
  | [], [] => .eq
  | [], _ :: _ => .lt
  | _ :: _, [] => .gt
  | a :: as, b :: bs => (a.order b).then (orderFrom as bs)

def order (a b : String) : Ordering := orderFrom (components a) (components b)

end SchemaCheck.Path
