import SchemaCheck.Loader
import SchemaCheck.Proofs.Documents

/-! A load as two lists that do not depend on the registry: what cannot be gone through, and the paths
handed over for registration. Registry and faults of files come from the paths in their order. -/
namespace SchemaCheck

def FileTree.ingestAll (t : FileTree) : List String → Registry → Registry × List (String × List Fault)
  | [], r => (r,[])
  | path :: rest, r =>
    let (r,faults) := t.ingest path r
    let (r,later) := ingestAll t rest r
    (r,(path,faults) :: later)

def FileFaults.record (files : FileFaults) (row : String × List Fault) : FileFaults :=
  if row.2.isEmpty then files else files.insert row.1 row.2

namespace Loader

abbrev Found := Except LoadError FoundFile

def visit (l : Loader) (t : FileTree) (source : String) : List Found :=
  if t.exists? source then (t.walk l.options source).map (Except.mapError .walk)
  else [.error (.missingSource source)]

def found (l : Loader) (t : FileTree) (sources : List String) : List Found :=
  sources.flatMap (l.visit t)

def errorOf? : Found → Option LoadError
  | .ok _ => none
  | .error e => some e

def acceptedPath? (l : Loader) : Found → Option String
  | .ok f => if l.filter.accepts f.name then some f.path else none
  | .error _ => none

def handed (l : Loader) (t : FileTree) (sources : List String) : List String :=
  (l.found t sources).filterMap l.acceptedPath?

def logOf (l : Loader) (t : FileTree) : Found → List LogRecord
  | .ok f => if l.filter.accepts f.name then t.ingestLog f.path else []
  | .error e => e.warning?.toList

def takeFound (l : Loader) (t : FileTree) (s : State) : Found → State
  | .ok f => l.takeFile t s f
  | .error e => fail s e

theorem takeSourceFound (l : Loader) (t : FileTree) (s : State) (source : String) :
    l.takeSource t s source = (l.visit t source).foldl (l.takeFound t) s := by
  have each : ∀ s e, l.takeFound t s (Except.mapError .walk e) = l.take t s e := by
    intro s e
    cases e <;> rfl
  unfold takeSource visit
  split
  · simp only [List.foldl_map,each]
  · rfl

theorem loadFound (l : Loader) (t : FileTree) (sources : List String) (s : State) :
    sources.foldl (l.takeSource t) s = (l.found t sources).foldl (l.takeFound t) s := by
  have each : l.takeSource t = fun s source => (l.visit t source).foldl (l.takeFound t) s :=
    funext fun s => funext fun source => takeSourceFound l t s source
  rw [each,found,List.foldl_flatMap]

def after (l : Loader) (t : FileTree) (xs : List Found) (s : State) : State :=
  let ingested := t.ingestAll (xs.filterMap l.acceptedPath?) s.1
  (ingested.1,
    { files := s.2.files + ingested.2.length
      fileFaults := ingested.2.foldl FileFaults.record s.2.fileFaults
      walkErrors := s.2.walkErrors ++ xs.filterMap errorOf?
      log := s.2.log ++ xs.flatMap (l.logOf t) })

theorem foldAfter (l : Loader) (t : FileTree) (xs : List Found) (s : State) :
    xs.foldl (l.takeFound t) s = l.after t xs s := by
  induction xs generalizing s with
  | nil => simp [after,FileTree.ingestAll]
  | cons x rest ih =>
    rw [List.foldl_cons,ih]
    obtain ⟨r,o⟩ := s
    cases x with
    | error e =>
      have path : (.error e :: rest : List Found).filterMap l.acceptedPath? =
          rest.filterMap l.acceptedPath? := rfl
      have error : (.error e :: rest : List Found).filterMap errorOf? =
          e :: rest.filterMap errorOf? := rfl
      simp only [after,takeFound,fail,path,error,logOf,List.flatMap_cons,List.append_assoc,
        List.singleton_append]
    | ok f =>
      have error : (.ok f :: rest : List Found).filterMap errorOf? = rest.filterMap errorOf? := rfl
      by_cases accepts : l.filter.accepts f.name
      · have path : (.ok f :: rest : List Found).filterMap l.acceptedPath? =
            f.path :: rest.filterMap l.acceptedPath? := by simp [acceptedPath?,accepts]
        simp only [after,takeFound,takeFile,logOf,accepts,if_true,path,error,FileTree.ingestAll,
          List.length_cons,List.foldl_cons,List.flatMap_cons,List.append_assoc,FileFaults.record]
        rw [Nat.add_assoc,Nat.add_comm 1]
      · have path : (.ok f :: rest : List Found).filterMap l.acceptedPath? =
            rest.filterMap l.acceptedPath? := by simp [acceptedPath?,accepts]
        simp only [after,takeFound,takeFile,logOf,accepts,path,error,Bool.false_eq_true,if_false,
          List.flatMap_cons,List.nil_append]

theorem loadAfter (l : Loader) (t : FileTree) (sources : List String) (r : Registry) :
    l.load t sources r = ((l.after t (l.found t sources) (r,{})).1,
      (l.after t (l.found t sources) (r,{})).2.withSummary) := by
  rw [load,loadFound,foldAfter]

theorem loadedRegistry (l : Loader) (t : FileTree) (sources : List String) (r : Registry) :
    (l.load t sources r).1 = (t.ingestAll (l.handed t sources) r).1 := by
  rw [loadAfter]
  rfl

theorem loadedErrors (l : Loader) (t : FileTree) (sources : List String) (r : Registry) :
    (l.load t sources r).2.walkErrors = (l.found t sources).filterMap errorOf? := by
  rw [loadAfter]
  exact List.nil_append _

theorem walkErrorsEmpty {l : Loader} {t : FileTree} {sources : List String} :
    (l.found t sources).filterMap errorOf? = [] ↔
      ∀ s ∈ sources, t.exists? s = true ∧ ∀ e ∈ t.walk l.options s, ∃ f, e = .ok f := by
  have each : ∀ s, (∀ x ∈ l.visit t s, errorOf? x = none) ↔
      t.exists? s = true ∧ ∀ e ∈ t.walk l.options s, ∃ f, e = .ok f := by
    intro s
    unfold visit
    split
    · rename_i present
      simp only [present,true_and,List.forall_mem_map]
      refine forall_congr' fun e => forall_congr' fun _ => ?_
      cases e with
      | ok f => exact ⟨fun _ => ⟨f,rfl⟩,fun _ => rfl⟩
      | error e =>
        constructor
        · exact fun none => absurd none (Option.some_ne_none _)
        · rintro ⟨f,h⟩
          cases h
    · rename_i missing
      simp [missing,errorOf?]
  simp only [List.filterMap_eq_nil_iff,found,List.mem_flatMap]
  constructor
  · intro h s member
    exact (each s).mp fun x inside => h x ⟨s,member,inside⟩
  · rintro h x ⟨s,member,inside⟩
    exact (each s).mpr (h s member) x inside

end Loader

theorem FileFaults.insertNonempty (path : String) (faults : List Fault) (files : FileFaults) :
    files.insert path faults ≠ [] := by
  cases files with
  | nil => simp [FileFaults.insert]
  | cons head rest =>
    obtain ⟨p,fs⟩ := head
    simp only [FileFaults.insert]
    split <;> simp

theorem FileFaults.recordedEmpty {rows : List (String × List Fault)} {files : FileFaults} :
    rows.foldl FileFaults.record files = [] ↔ files = [] ∧ ∀ row ∈ rows, row.2 = [] := by
  induction rows generalizing files with
  | nil => simp
  | cons row rest ih =>
    rw [List.foldl_cons,ih,FileFaults.record]
    cases faults : row.2 with
    | nil => simp [faults]
    | cons f fs =>
      have inserted := FileFaults.insertNonempty row.1 (f :: fs) files
      simp [faults,inserted]

namespace FileTree

theorem ingestedPaths (t : FileTree) (paths : List String) (r : Registry) :
    (t.ingestAll paths r).2.map Prod.fst = paths := by
  induction paths generalizing r with
  | nil => rfl
  | cons path rest ih => simp [ingestAll,ih]

def documents (t : FileTree) (paths : List String) : List Document :=
  paths.filterMap fun path => (t.readDocument path).toOption

theorem ingestUnread {t : FileTree} {path : String} {f : Fault} (read : t.readDocument path = .error f)
    (r : Registry) : t.ingest path r = (r,[f]) := by
  simp only [ingest,read]

theorem ingestRead {t : FileTree} {path : String} {d : Document} (read : t.readDocument path = .ok d)
    (r : Registry) : t.ingest path r = r.addDocument d := by
  simp only [ingest,read]

theorem documentsUnread {t : FileTree} {path : String} {f : Fault} (read : t.readDocument path = .error f)
    (rest : List String) : t.documents (path :: rest) = t.documents rest := by
  simp [documents,read,Except.toOption]

theorem documentsRead {t : FileTree} {path : String} {d : Document} (read : t.readDocument path = .ok d)
    (rest : List String) : t.documents (path :: rest) = d :: t.documents rest := by
  simp [documents,read,Except.toOption]

theorem ingestedDocuments (t : FileTree) (paths : List String) (r : Registry) :
    (t.ingestAll paths r).1 = (Registry.addDocuments (t.documents paths) r).1 ∧
    ((∀ row ∈ (t.ingestAll paths r).2, row.2 = []) ↔
      (∀ path ∈ paths, ∃ d, t.readDocument path = .ok d) ∧
      ∀ faults ∈ (Registry.addDocuments (t.documents paths) r).2, faults = []) := by
  induction paths generalizing r with
  | nil => simp [ingestAll,documents,Registry.addDocuments]
  | cons path rest ih =>
    cases read : t.readDocument path with
    | error f =>
      rw [documentsUnread read]
      simp only [ingestAll,ingestUnread read]
      exact ⟨(ih r).1,by simp [read]⟩
    | ok d =>
      rw [documentsRead read]
      simp only [ingestAll,ingestRead read,Registry.addDocuments]
      obtain ⟨registry,clean⟩ := ih (r.addDocument d).1
      refine ⟨registry,?_⟩
      simp only [List.forall_mem_cons,clean,read,Except.ok.injEq,exists_eq',true_and]
      exact and_left_comm

end FileTree
end SchemaCheck
