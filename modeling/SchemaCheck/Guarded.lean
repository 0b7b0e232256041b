import SchemaCheck.Loader
/-! Registering with a look at the identifier wherever a node is registered, and what is built on it. An
empty identifier stops the call there, whatever was stored before. -/
namespace SchemaCheck.Guarded

mutual

def register (id : String) : Document → Registry → Except Misuse (Registry × Schema × List Fault)
  | d@{ definitions, properties, items, links, .. }, r => do
    if id.isEmpty then throw .emptyIdentifier
    let duplicate : List Fault := if r.contains id then [.duplicated id] else []
    let (r, ds, f₁) ← registerEntries (definitionId id) definitions r
    let (r, ps, f₂) ← registerEntries (propertyId id) properties r
    let (r, ls, f₃) ← registerLinks (linkId id) 0 links r
    let (r, i, f₄) ← registerOptional (itemsId id) items r
    let s := d.schemaWith id ds ps i ls
    pure (r.store s, s, duplicate ++ f₁ ++ f₂ ++ f₃ ++ f₄ ++ d.nodeFaults id)

def registerOptional (id : String) : Option Document → Registry →
    Except Misuse (Registry × Option Schema × List Fault)
  | none, r => pure (r, none, [])
  | some d, r => do
    let (r, s, faults) ← register id d r
    pure (r, some s, faults)

def registerEntries (idOf : String → String) : List (String × Option Document) → Registry →
    Except Misuse (Registry × List (String × Schema) × List Fault)
  | [], r => pure (r, [], [])
  | (_, none) :: rest, r => registerEntries idOf rest r
  | (name, some d) :: rest, r => do
    let (r, s, f₁) ← register (idOf name) d r
    let (r, ss, f₂) ← registerEntries idOf rest r
    pure (r, (name, s) :: ss, f₁ ++ f₂)

def registerLinks (idOf : Nat → String) (index : Nat) : List (Link Document) → Registry →
    Except Misuse (Registry × List (Link Schema) × List Fault)
  | [], r => pure (r, [], [])
  | { title, href, method, rel, description, schema } :: rest, r => do
    let (r, s, f₁) ← registerOptional (idOf index) schema r
    let (r, ls, f₂) ← registerLinks idOf (index + 1) rest r
    pure (r, { title, href, method, rel, description, schema := s } :: ls, f₁ ++ f₂)

end

def registerRoot (id : String) (d : Option Document) (r : Registry) :
    Except Misuse (Registry × Option Schema × List Fault) := do
  let (r, s, faults) ← registerOptional id d r
  pure (if s.isSome then r.addRoot id else r, s, faults)

def addDocument (d : Document) (r : Registry) : Except Misuse (Registry × List Fault) := do
  match Registry.rejection? d with
  | some f => pure (r, [f])
  | none =>
    let (r, _, faults) ← registerRoot (lastSegment d.id) (some d) r
    pure (r, faults)

def ingest (t : FileTree) (path : String) (r : Registry) : Except Misuse (Registry × List Fault) :=
  match t.readDocument path with
  | .error f => pure (r, [f])
  | .ok d => addDocument d r

def takeFile (l : Loader) (t : FileTree) (s : Loader.State) (f : FoundFile) :
    Except Misuse Loader.State := do
  let (r, o) := s
  if l.filter.accepts f.name then
    let (r, faults) ← ingest t f.path r
    let fileFaults := if faults.isEmpty then o.fileFaults else o.fileFaults.insert f.path faults
    pure (r, { o with files := o.files + 1, fileFaults, log := o.log ++ t.ingestLog f.path })
  else pure (r, o)

def take (l : Loader) (t : FileTree) (s : Loader.State) (e : Except WalkError FoundFile) :
    Except Misuse Loader.State :=
  match e with
  | .ok f => takeFile l t s f
  | .error e => pure (Loader.fail s (.walk e))

def takeSource (l : Loader) (t : FileTree) (s : Loader.State) (source : String) :
    Except Misuse Loader.State :=
  if t.exists? source then (t.walk l.options source).foldlM (take l t) s
  else pure (Loader.fail s (.missingSource source))

def load (l : Loader) (t : FileTree) (sources : List String) (r : Registry) :
    Except Misuse Loader.State := do
  let (r, o) ← sources.foldlM (takeSource l t) (r, {})
  pure (r, o.withSummary)

end SchemaCheck.Guarded
