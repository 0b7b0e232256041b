import SchemaCheck.CommandLine
import SchemaCheck.Proofs.Finding
import SchemaCheck.Proofs.Loading
import SchemaCheck.Proofs.References

/-! A run that finds nothing. The status is zero exactly if all sources can be gone through and the
documents of all files that were handed over are sound, each on its own and together. -/
namespace SchemaCheck

namespace Document

def Admissible (d : Document) : Prop := d.id ≠ "" ∧ d.id.endsWith "/" = false ∧ d.dialect = draft04

def ownNodes (d : Document) : List Node := nodes (lastSegment d.id) d

/- What is asked of the nodes of all documents together; a node counts as often as it occurs. -/
structure Sound (ns : List Node) : Prop where
  distinct : (ns.map Prod.fst).Nodup
  rules : ∀ n ∈ ns, n.2.WellFormed
  references : ∀ n ∈ ns, n.2.reference ≠ "" → ∃ m ∈ ns, n.2.reference = localPrefix ++ m.1

instance (d : Document) : Decidable d.Admissible := by unfold Admissible; infer_instance
instance (ns : List Node) : Decidable (Sound ns) :=
  decidable_of_iff ((ns.map Prod.fst).Nodup ∧ (∀ n ∈ ns, n.2.WellFormed) ∧
      ∀ n ∈ ns, n.2.reference ≠ "" → ∃ m ∈ ns, n.2.reference = localPrefix ++ m.1)
    ⟨fun h => ⟨h.1,h.2.1,h.2.2⟩,fun h => ⟨h.distinct,h.rules,h.references⟩⟩

end Document

namespace Registry
open Document

theorem admissible {d : Document} : rejection? d = none ↔ d.Admissible := by
  unfold rejection? Admissible
  have id : d.id.isEmpty = true ↔ d.id = "" := String.isEmpty_iff
  have dialect : d.dialect.isEmpty = true ↔ d.dialect = "" := String.isEmpty_iff
  have nonempty : draft04 ≠ "" := by decide
  simp only [id,dialect]
  repeat' split
  all_goals simp_all

theorem admittedAll {ds : List Document} (admitted : ∀ d ∈ ds, rejection? d = none) :
    admittedNodes ds = ds.flatMap ownNodes := by
  have all : (ds.filter fun d => (rejection? d).isNone) = ds :=
    List.filter_eq_self.mpr fun d member => by simp [admitted d member]
  rw [admittedNodes,all]
  rfl

theorem documentFaultsEmpty {d : Document} :
    documentFaults d = [] ↔ rejection? d = none ∧ ∀ n ∈ ownNodes d, n.2.WellFormed := by
  unfold documentFaults ownNodes
  cases rejection? d with
  | some f => simp
  | none => simp [ownFaultsOf,ownFaultsEmpty]

theorem reportsEmpty {ds : List Document} :
    (∀ faults ∈ (addDocuments ds {}).2, faults = []) ↔
      (∀ d ∈ ds, rejection? d = none) ∧ (nodeIds (admittedNodes ds)).Nodup ∧
      ∀ n ∈ admittedNodes ds, n.2.WellFormed := by
  have others : Fault.others (addDocuments ds {}).2.flatten = (ds.map documentFaults).flatten := by
    rw [← runOthers ds {},Fault.others,List.filter_flatten]
    rfl
  rw [← List.flatten_eq_nil_iff,Fault.emptyIff,runDistinct,others]
  simp only [List.flatten_eq_nil_iff,List.forall_mem_map,documentFaultsEmpty]
  constructor
  · rintro ⟨distinct,each⟩
    have admitted : ∀ d ∈ ds, rejection? d = none := fun d member => (each d member).1
    refine ⟨admitted,distinct,?_⟩
    intro n member
    rw [admittedAll admitted] at member
    obtain ⟨d,inside,own⟩ := List.mem_flatMap.mp member
    exact (each d inside).2 n own
  · rintro ⟨admitted,distinct,rules⟩
    refine ⟨distinct,fun d member => ⟨admitted d member,?_⟩⟩
    intro n own
    apply rules
    rw [admittedAll admitted]
    exact List.mem_flatMap.mpr ⟨d,member,own⟩

theorem addedSound {ds : List Document} :
    ((∀ faults ∈ (addDocuments ds {}).2, faults = []) ∧ (addDocuments ds {}).1.validate = []) ↔
      (∀ d ∈ ds, d.Admissible) ∧ Sound (ds.flatMap ownNodes) := by
  rw [reportsEmpty]
  constructor
  · rintro ⟨⟨admitted,distinct,rules⟩,valid⟩
    have references := (validateEmpty distinct).mp valid
    rw [admittedAll admitted] at distinct rules references
    exact ⟨fun d member => admissible.mp (admitted d member),distinct,rules,references⟩
  · rintro ⟨all,sound⟩
    have admitted : ∀ d ∈ ds, rejection? d = none := fun d member => admissible.mpr (all d member)
    have nodes := admittedAll admitted
    have distinct : (nodeIds (admittedNodes ds)).Nodup := nodes ▸ sound.distinct
    exact ⟨⟨admitted,distinct,nodes ▸ sound.rules⟩,
      (validateEmpty distinct).mpr (nodes ▸ sound.references)⟩

end Registry

theorem Loader.loneHanded {name : String} {content : List UInt8} (proper : ProperName name)
    (fits : name.utf8ByteSize ≤ FileTree.nameLimit) (spelled : '\x00' ∉ name.toList) :
    ({} : Loader).handed (FileTree.lone name content) [name] = [name] := by
  have located : ∀ follow, (FileTree.lone name content).find follow name = .ok ([name],.file content) :=
    FileTree.loneFound proper fits spelled
  have present : (FileTree.lone name content).exists? name = true := by rw [FileTree.exists?,located]; rfl
  have walked : (FileTree.lone name content).walk ({} : Loader).options name = [.ok ⟨name,false⟩] := by
    rw [FileTree.walk,located]
    rfl
  have visited : ({} : Loader).visit (FileTree.lone name content) name = [.ok ⟨name,false⟩] := by
    rw [visit,if_pos present,walked]
    rfl
  simp [handed,found,visited,acceptedPath?]

namespace CommandLine
open Document

def Holds (t : FileTree) (path : String) (d : Document) : Prop :=
  ∃ format content, SourceFormat.ofPath? path = some format ∧ t.read path = .ok content ∧
    format.parse content = .ok d

theorem holdsRead {t : FileTree} {path : String} {d : Document} :
    Holds t path d ↔ t.readDocument path = .ok d := by
  unfold Holds FileTree.readDocument
  cases SourceFormat.ofPath? path with
  | none => simp
  | some format => cases t.read path <;> simp

theorem checkZero [Wording] {l : Loader} {t : FileTree} {sources : List String} :
    (check l t sources).status = 0 ↔
      (l.load t sources {}).2.walkErrors = [] ∧ (l.load t sources {}).2.fileFaults = [] ∧
      (l.load t sources {}).1.validate = [] := by
  simp only [check,inputBit,fileBit,referenceBit,List.isEmpty_iff]
  repeat' split
  all_goals simp_all

theorem documentsAdmissible {t : FileTree} {paths : List String}
    (read : ∀ path ∈ paths, ∃ d, t.readDocument path = .ok d) :
    (∀ d ∈ t.documents paths, d.Admissible) ↔ ∀ path ∈ paths, ∃ d, Holds t path d ∧ d.Admissible := by
  simp only [holdsRead,FileTree.documents,List.mem_filterMap]
  constructor
  · intro h path member
    obtain ⟨d,found⟩ := read path member
    exact ⟨d,found,h d ⟨path,member,by simp [found,Except.toOption]⟩⟩
  · rintro h d ⟨path,member,found⟩
    obtain ⟨d',read,good⟩ := h path member
    rw [read] at found
    exact Option.some.inj found ▸ good

/-- Status zero is sound and complete: it is left exactly if every source can be gone through without an
error, every file handed over holds an admissible document, and the nodes of all these documents are
sound together. -/
theorem statusZeroSoundComplete [Wording] {t : FileTree} {arguments : List String} {o : Options} {l : Loader}
    (parsed : parse arguments = .check o) (usable : loader t o = .ok l) :
    (answer t (parse arguments)).status = 0 ↔
      (∀ s ∈ o.sources, t.exists? s = true ∧ ∀ e ∈ t.walk l.options s, ∃ f, e = .ok f) ∧
      (∀ path ∈ l.handed t o.sources, ∃ d, Holds t path d ∧ d.Admissible) ∧
      Sound ((t.documents (l.handed t o.sources)).flatMap ownNodes) := by
  have run : answer t (parse arguments) = check l t o.sources := by
    simp only [parsed,answer,run,usable]
  have paths : (l.found t o.sources).filterMap l.acceptedPath? = l.handed t o.sources := rfl
  obtain ⟨registry,clean⟩ := t.ingestedDocuments (l.handed t o.sources) {}
  rw [run,checkZero,Loader.loadAfter,← Loader.walkErrorsEmpty]
  simp only [Loader.after,Outcome.withSummary,List.nil_append]
  rw [FileFaults.recordedEmpty]
  simp only [true_and]
  rw [paths,clean,registry]
  -- The errors of going through the sources are the same on both sides; what is left concerns files only.
  refine and_congr_right fun _ => ?_
  constructor
  · rintro ⟨⟨read,reports⟩,valid⟩
    obtain ⟨all,sound⟩ := Registry.addedSound.mp ⟨reports,valid⟩
    exact ⟨(documentsAdmissible read).mp all,sound⟩
  · rintro ⟨all,sound⟩
    have read : ∀ path ∈ l.handed t o.sources, ∃ d, t.readDocument path = .ok d := by
      intro path member
      obtain ⟨d,holds,_⟩ := all path member
      exact ⟨d,holdsRead.mp holds⟩
    obtain ⟨reports,valid⟩ := Registry.addedSound.mpr ⟨(documentsAdmissible read).mpr all,sound⟩
    exact ⟨⟨read,reports⟩,valid⟩

def friends : List UInt8 :=
  ("\x7b\"id\": \"api/user\", \"$schema\": \"http://json-schema.org/draft-04/hyper-schema\", " ++
    "\"type\": \"object\", \"properties\": \x7b\"friend\": \x7b\"$ref\": \"#/user\"\x7d\x7d\x7d").toUTF8.toList

def friendTree : FileTree := { root := .directory [("user.json",.file friends)] }

theorem friendsSound : ∃ d, SourceFormat.json.parse friends = .ok d ∧ d.Admissible ∧
    Sound d.ownNodes := by
  have evaluated : (match SourceFormat.json.parse friends with
    | .ok d => decide (d.Admissible ∧ Sound d.ownNodes)
    | .error _ => false) = true := by decide +kernel
  split at evaluated
  · exact ⟨_,by assumption,of_decide_eq_true evaluated⟩
  · contradiction

theorem friendFound (follow : Bool) :
    friendTree.find follow "user.json" = .ok (["user.json"],.file friends) :=
  FileTree.loneFound (by decide) (by decide) (by decide) follow

theorem friendFormat : SourceFormat.ofPath? "user.json" = some .json := by
  rw [SourceFormat.ofPath?,Path.nameExtension (by decide)]
  rfl

theorem friendsRunClean : parse ["user.json"] = .check { sources := ["user.json"] } ∧
    (answer friendTree (parse ["user.json"])).status = 0 := by
  have parsed : parse ["user.json"] = .check { sources := ["user.json"] } := by decide
  have usable : loader friendTree { sources := ["user.json"] } = .ok {} := rfl
  have present : friendTree.exists? "user.json" = true := by rw [FileTree.exists?,friendFound]; rfl
  have walked : friendTree.walk ({} : Loader).options "user.json" = [.ok ⟨"user.json",false⟩] := by
    rw [FileTree.walk,friendFound]
    rfl
  have handed : ({} : Loader).handed friendTree ["user.json"] = ["user.json"] :=
    Loader.loneHanded (by decide) (by decide) (by decide)
  obtain ⟨d,read,good,sound⟩ := friendsSound
  have holds : Holds friendTree "user.json" d := by
    refine ⟨.json,friends,friendFormat,?_,read⟩
    rw [FileTree.read,friendFound]
    rfl
  have documents : friendTree.documents ["user.json"] = [d] := by
    simp [FileTree.documents,holdsRead.mp holds,Except.toOption]
  refine ⟨parsed,(statusZeroSoundComplete parsed usable).mpr ⟨?_,?_,?_⟩⟩
  · simp [present,walked]
  · simp only [handed,List.mem_singleton,forall_eq]
    exact ⟨d,holds,good⟩
  · rw [handed,documents]
    simpa using sound

end CommandLine
end SchemaCheck
