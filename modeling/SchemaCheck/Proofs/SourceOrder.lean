import SchemaCheck.Proofs.CleanRun
import SchemaCheck.Proofs.FaultTable
import SchemaCheck.Proofs.LoadOrder

/-! The order of the sources of a run. What cannot be gone through and which files have no document does not
depend on it, nor does whether a file is faulty at all; which file is blamed for a duplicate does. -/
namespace SchemaCheck

namespace Loader

theorem foundPerm (l : Loader) (t : FileTree) {sources others : List String} (perm : sources.Perm others) :
    (l.found t sources).Perm (l.found t others) := perm.flatMap_right _

theorem handedPerm (l : Loader) (t : FileTree) {sources others : List String} (perm : sources.Perm others) :
    (l.handed t sources).Perm (l.handed t others) := (l.foundPerm t perm).filterMap _

theorem documentsPerm (l : Loader) (t : FileTree) {sources others : List String}
    (perm : sources.Perm others) :
    (t.documents (l.handed t sources)).Perm (t.documents (l.handed t others)) :=
  (l.handedPerm t perm).filterMap _

theorem loadedClean {l : Loader} {t : FileTree} {sources : List String} :
    (l.load t sources {}).2.fileFaults = [] ↔
      (∀ path ∈ l.handed t sources, ∃ d, t.readDocument path = .ok d) ∧
      ∀ faults ∈ (Registry.addDocuments (t.documents (l.handed t sources)) {}).2, faults = [] := by
  rw [loadedFaults,FileFaults.recordedEmpty,and_iff_right rfl]
  exact (t.ingestedDocuments (l.handed t sources) {}).2

theorem cleanPerm {l : Loader} {t : FileTree} {sources others : List String} (perm : sources.Perm others) :
    (l.load t sources {}).2.fileFaults = [] ↔ (l.load t others {}).2.fileFaults = [] := by
  have nodes := Registry.admittedPerm (l.documentsPerm t perm)
  rw [loadedClean,loadedClean,Registry.reportsEmpty,Registry.reportsEmpty]
  simp only [(l.handedPerm t perm).mem_iff,(l.documentsPerm t perm).mem_iff,nodes.mem_iff,
    (nodes.map Prod.fst).nodup_iff,Document.nodeIds]

end Loader

namespace FileTree

theorem documentReports (t : FileTree) (paths : List String) (r : Registry) :
    (Registry.addDocuments (t.documents paths) r).2.Sublist ((t.ingestAll paths r).2.map Prod.snd) := by
  induction paths generalizing r with
  | nil => exact .refl _
  | cons path rest ih =>
    cases read : t.readDocument path with
    | error f =>
      simp only [documentsUnread read,ingestAll,ingestUnread read]
      exact .cons _ (ih r)
    | ok d =>
      simp only [documentsRead read,ingestAll,ingestRead read,Registry.addDocuments]
      exact .cons_cons _ (ih _)

end FileTree

namespace CommandLine
open Registry

theorem validationPerm {l : Loader} {t : FileTree} {sources others : List String}
    (perm : sources.Perm others)
    (unique : ∀ row ∈ l.reports t sources {}, ∀ k, .duplicated k ∉ row.2) :
    (l.load t sources {}).1.validate = (l.load t others {}).1.validate := by
  have none : ∀ k, .duplicated k ∉
      (addDocuments (t.documents (l.handed t sources)) {}).2.flatten := by
    intro k member
    obtain ⟨faults,report,inside⟩ := List.mem_flatten.mp member
    obtain ⟨row,called,rfl⟩ := List.mem_map.mp ((t.documentReports _ {}).subset report)
    exact unique row called k inside
  rw [l.loadedRegistry,l.loadedRegistry,(t.ingestedDocuments _ {}).1,(t.ingestedDocuments _ {}).1]
  exact sameValidation (distinctTables (l.documentsPerm t perm)
    ((runDistinct _).mp (noDuplicateReport.mp none)))

theorem inputPerm {l : Loader} {t : FileTree} {sources others : List String} (perm : sources.Perm others) :
    (l.load t sources {}).2.walkErrors.isEmpty = (l.load t others {}).2.walkErrors.isEmpty := by
  rw [l.loadedErrors,l.loadedErrors]
  exact ((l.foundPerm t perm).filterMap _).isEmpty_eq

theorem filePerm {l : Loader} {t : FileTree} {sources others : List String} (perm : sources.Perm others) :
    (l.load t sources {}).2.fileFaults.isEmpty = (l.load t others {}).2.fileFaults.isEmpty := by
  have same := Loader.cleanPerm (l := l) (t := t) perm
  rw [Bool.eq_iff_iff]
  simpa using same

theorem statusBits [Wording] (l : Loader) (t : FileTree) (sources : List String) :
    (check l t sources).status.testBit 1 = !(l.load t sources {}).2.fileFaults.isEmpty ∧
    (check l t sources).status.testBit 2 = !(l.load t sources {}).2.walkErrors.isEmpty := by
  simp only [check]
  cases (l.load t sources {}).2.fileFaults.isEmpty <;>
    cases (l.load t sources {}).2.walkErrors.isEmpty <;>
      cases (l.load t sources {}).1.validate.isEmpty <;> exact ⟨rfl,rfl⟩

/-- The order of the sources changes neither the bit for faulty files nor the bit for failed input, and it
changes nothing in the status if no file is reported as a duplicate. -/
theorem statusIgnoresSourceOrder [Wording] {t : FileTree} {o : Options} {others : List String}
    (perm : o.sources.Perm others) :
    (run t o).status.testBit 1 = (run t { o with sources := others }).status.testBit 1 ∧
    (run t o).status.testBit 2 = (run t { o with sources := others }).status.testBit 2 ∧
    ((∀ l, loader t o = .ok l → ∀ row ∈ l.reports t o.sources {}, ∀ k, .duplicated k ∉ row.2) →
      (run t o).status = (run t { o with sources := others }).status) := by
  have usable : loader t { o with sources := others } = loader t o := rfl
  unfold run
  rw [usable]
  cases loader t o with
  | error message => exact ⟨rfl,rfl,fun _ => rfl⟩
  | ok l =>
    simp only
    refine ⟨?_,?_,fun unique => ?_⟩
    · rw [(statusBits ..).1,(statusBits ..).1,filePerm perm]
    · rw [(statusBits ..).2,(statusBits ..).2,inputPerm perm]
    · simp only [check,filePerm perm,inputPerm perm,validationPerm perm (unique l rfl)]

theorem friendMissing : friendTree.exists? "none.json" = false := by
  have proper : ProperName "none.json" := by decide
  have short : ¬ FileTree.nameLimit < "none.json".utf8ByteSize := by decide
  have whole : ¬ FileTree.pathLimit ≤ "none.json".utf8ByteSize := by decide
  have located : friendTree.locate true "none.json" = .error .notFound := by
    simp [FileTree.locate,FileTree.stepsNamed proper,FileTree.start,Path.nameRelative proper,whole,short,
      FileTree.go,friendTree,FileNode.at?,Entries.get?]
  rw [FileTree.exists?,FileTree.find,located]
  rfl

theorem friendEntries : ({} : Loader).found friendTree ["none.json","user.json"] =
    [.error (.missingSource "none.json"),.ok ⟨"user.json",false⟩] := by
  have walked : friendTree.walk ({} : Loader).options "user.json" = [.ok ⟨"user.json",false⟩] := by
    rw [FileTree.walk,friendFound]
    rfl
  have present : friendTree.exists? "user.json" = true := by rw [FileTree.exists?,friendFound]; rfl
  simp [Loader.found,Loader.visit,friendMissing,present,walked,Except.mapError]

theorem friendReports :
    ({} : Loader).reports friendTree ["none.json","user.json"] {} = [("user.json",[])] := by
  have read : friendTree.readDocument "user.json" = SourceFormat.json.parse friends := by
    simp only [FileTree.readDocument,friendFormat,FileTree.read,friendFound]
    rfl
  obtain ⟨d,parsed,good,sound⟩ := friendsSound
  have clean : (addDocument d {}).2 = [] := by
    obtain ⟨reports,_⟩ := addedSound.mpr ⟨List.forall_mem_singleton.mpr good,by simpa using sound⟩
    exact reports _ (List.mem_singleton.mpr rfl)
  have handed : ({} : Loader).handed friendTree ["none.json","user.json"] = ["user.json"] := by
    rw [Loader.handed,friendEntries]
    rfl
  simp only [Loader.reports,handed,FileTree.ingestAll,FileTree.ingestRead (read.trans parsed),clean]

theorem missingSourceMoved :
    ["none.json","user.json"].Perm ["user.json","none.json"] ∧
    (∀ l, loader friendTree { sources := ["none.json","user.json"] } = .ok l →
      ∀ row ∈ l.reports friendTree ["none.json","user.json"] {}, ∀ k, .duplicated k ∉ row.2) ∧
    (run friendTree { sources := ["none.json","user.json"] }).status =
      (run friendTree { sources := ["user.json","none.json"] }).status := by
  have perm : ["none.json","user.json"].Perm ["user.json","none.json"] := .swap ..
  have unique : ∀ l, loader friendTree { sources := ["none.json","user.json"] } = .ok l →
      ∀ row ∈ l.reports friendTree ["none.json","user.json"] {}, ∀ k, .duplicated k ∉ row.2 := by
    intro l usable row member k
    obtain rfl : l = {} := (Except.ok.inj usable).symm
    rw [friendReports] at member
    cases List.mem_singleton.mp member
    exact List.not_mem_nil
  exact ⟨perm,unique,(statusIgnoresSourceOrder perm).2.2 unique⟩

end CommandLine
end SchemaCheck
