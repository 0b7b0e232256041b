import Mathlib
import SchemaCheck.Proofs.FaultLines
import SchemaCheck.Proofs.FaultTable
import SchemaCheck.Proofs.Growth
import SchemaCheck.Proofs.Refusals

/-! The lines of what is reported. Names in a report are those of the checks and values are dumped, so only an
identifier, a reference or what a parser says can break a line. -/
namespace SchemaCheck

theorem Document.ownFaultsChecked {id : String} {d : Document} {f : Fault} (member : f ∈ ownFaults id d) :
    f.Checked := by
  have names : ∀ name ∈ nodeProperties, name ∈ Fault.propertyNames := by decide
  cases ownFault member with
  | property known => exact names _ known
  | shape v => exact ⟨by decide,Declaration.dumpUnbroken (.other v)⟩
  | typeName name => exact ⟨by decide,Text.quotedUnbroken name⟩

namespace Registry
open Document

theorem registeredChecked {id : String} {d : Document} {r : Registry} {f : Fault}
    (member : f ∈ faultsOf id d r) : f.Checked := by
  by_cases duplicate : f.kind = .duplicated
  · cases f <;> simp_all [Fault.kind,Fault.Checked]
  · have other : f ∈ Fault.others (faultsOf id d r) := List.mem_filter.mpr ⟨member,decide_eq_true duplicate⟩
    rw [otherFaults] at other
    obtain ⟨n,_,own⟩ := List.mem_flatMap.mp other
    exact ownFaultsChecked own

theorem rejectionChecked {d : Document} {f : Fault} (rejected : rejection? d = some f) : f.Checked := by
  unfold rejection? at rejected
  repeat' split at rejected
  all_goals cases rejected
  · trivial
  · trivial
  · simp [Fault.Checked,Fault.propertyNames]
  · exact ⟨by decide,Text.quotedUnbroken d.dialect⟩

theorem addedChecked {d : Document} {r : Registry} {f : Fault} (member : f ∈ (addDocument d r).2) :
    f.Checked := by
  cases rejected : rejection? d with
  | none =>
    rw [addAdmitted rejected] at member
    exact registeredChecked member
  | some g =>
    rw [addRejected rejected] at member
    cases List.mem_singleton.mp member
    exact rejectionChecked rejected

theorem performChecked {c : Call} {r : Registry} {faults : List Fault} (reported : (perform c r).2 = .ok faults)
    {f : Fault} (member : f ∈ faults) : f.Checked := by
  cases c with
  | add d =>
    cases reported
    exact addedChecked member
  | register id d =>
    cases given : (Call.register id d).registered? with
    | some n =>
      obtain ⟨_,performed⟩ := performDocument given r
      rw [performed] at reported
      cases reported
      exact registeredChecked member
    | none =>
      cases d with
      | none =>
        cases reported
        contradiction
      | some d =>
        have empty : id = "" := by simpa [Call.registered?] using given
        subst empty
        cases reported

theorem runChecked {cs : List Call} {r : Registry} {c : Call} {faults : List Fault}
    (logged : (c,.ok faults) ∈ (run cs r).2) {f : Fault} (member : f ∈ faults) : f.Checked := by
  induction cs generalizing r with
  | nil => simp [run] at logged
  | cons head rest ih =>
    rcases List.mem_cons.mp logged with here | later
    · exact performChecked (Prod.mk.inj here).2.symm member
    · exact ih later

theorem validateChecked {r : Registry} {f : Fault} (member : f ∈ r.validate) : f.Checked := by
  obtain ⟨⟨id,reference⟩,_,found⟩ := List.mem_filterMap.mp member
  simp only [referenceFault?] at found
  split at found
  · contradiction
  · split at found
    · cases found
      exact ⟨by decide,Text.quotedUnbroken reference⟩
    · split at found
      · contradiction
      · cases found
        trivial

end Registry

theorem FileTree.ingestListed (t : FileTree) (path : String) (r : Registry) :
    Fault.Listed (t.ingest path r).2 := by
  cases read : t.readDocument path with
  | ok d =>
    rw [ingestRead read]
    exact Or.inl fun f member => Registry.addedChecked member
  | error f =>
    obtain ⟨cause,rfl⟩ := readFailure read
    rw [ingestUnread read]
    cases cause with
    | none => exact Or.inl (List.forall_mem_singleton.mpr rfl)
    | some cause => exact Or.inr ⟨cause,rfl⟩

namespace FileFaults

theorem insertMember {files : FileFaults} {path : String} {faults : List Fault} {row : String × List Fault}
    (member : row ∈ files.insert path faults) : row.2 = faults ∨ row ∈ files := by
  induction files with
  | nil =>
    cases List.mem_singleton.mp member
    exact Or.inl rfl
  | cons head rest ih =>
    obtain ⟨p,fs⟩ := head
    simp only [insert] at member
    split at member
    · rcases List.mem_cons.mp member with rfl | later
      · exact Or.inl rfl
      · exact Or.inr later
    · rcases List.mem_cons.mp member with rfl | later
      · exact Or.inl rfl
      · exact Or.inr (List.mem_cons_of_mem _ later)
    · rcases List.mem_cons.mp member with rfl | later
      · exact Or.inr List.mem_cons_self
      · exact (ih later).imp_right (List.mem_cons_of_mem _)

theorem recordedMember {rows : List (String × List Fault)} {files : FileFaults} {row : String × List Fault}
    (member : row ∈ rows.foldl record files) : (∃ call ∈ rows, row.2 = call.2) ∨ row ∈ files := by
  induction rows generalizing files with
  | nil => exact Or.inr member
  | cons call rest ih =>
    rcases ih member with ⟨later,inside,same⟩ | before
    · exact Or.inl ⟨later,List.mem_cons_of_mem _ inside,same⟩
    · unfold record at before
      split at before
      · exact Or.inr before
      · exact (insertMember before).imp_left fun same => ⟨call,List.mem_cons_self,same⟩

end FileFaults

/- What is reported as one list: by a call, by validation, or for a file that was loaded. -/
inductive Reported : List Fault → Prop where
  | call {cs : List Call} {r : Registry} {c : Call} {faults : List Fault}
      (logged : (c,.ok faults) ∈ (Registry.run cs r).2) : Reported faults
  | validation (r : Registry) : Reported r.validate
  | file {l : Loader} {t : FileTree} {sources : List String} {r : Registry} {path : String}
      {faults : List Fault} (kept : (path,faults) ∈ (l.load t sources r).2.fileFaults) : Reported faults

theorem Reported.listed {faults : List Fault} (reported : Reported faults) : Fault.Listed faults := by
  cases reported with
  | call logged => exact Or.inl fun f member => Registry.runChecked logged member
  | validation r => exact Or.inl fun f member => Registry.validateChecked member
  | file kept =>
    rw [Loader.loadedFaults] at kept
    rcases FileFaults.recordedMember kept with ⟨row,inside,same⟩ | none
    · obtain ⟨s,_,reports⟩ := FileTree.ingestedRow inside
      rw [show faults = _ from same.trans reports]
      exact FileTree.ingestListed ..
    · contradiction

/-- A report has, in the order of its faults, the lines of each: one, and one more for every line feed in the
identifiers and references that the fault repeats, or in what a parser says of its file, unless that ends
there. So each fault is on one line exactly if none of these has a line feed; the block of a file then has its
path, a line with an indent for each fault, and an empty line. -/
theorem reportedLines [Wording] {faults : List Fault} (reported : Reported faults) :
    Text.lines (Fault.report faults) = faults.flatMap (fun f => Text.lines f.line) ∧
    (Text.lines (Fault.report faults)).length = faults.length + Fault.breaksOf faults ∧
    (Text.lines (Fault.report faults) = faults.map (fun f => f.line.toList) ↔
      ∀ f ∈ faults, ∀ s ∈ f.bare, Unbroken s) ∧
    ∀ path, Unbroken path →
      (Text.lines (FileFaults.block path faults)).length = faults.length + Fault.breaksOf faults + 2 ∧
      ((∀ f ∈ faults, ∀ s ∈ f.bare, Unbroken s) →
        Text.lines (FileFaults.block path faults) = Text.dropReturn path.toList ::
          (faults.map fun f => Text.dropReturn (' ' :: ' ' :: f.line.toList)) ++ [[]]) := by
  have listed := reported.listed
  have count := Fault.reportCount listed
  refine ⟨Fault.reportLines listed,count,Fault.reportExact listed,fun path flat => ⟨?_,?_⟩⟩
  · rw [FileFaults.blockLines flat,List.length_append,List.length_cons,List.length_map,count]
    rfl
  · exact FileFaults.blockExact flat listed

def broken : Document := { id := "a\nb", dialect := "x\ny" }

def brokenFault : Fault := .propertyIncorrect "a\nb" "schema" "\"x\\ny\""

theorem brokenReported : Reported [brokenFault] := by
  have rejected : Registry.rejection? broken = some brokenFault := by decide +kernel
  have log : (Registry.run [.add broken] {}).2 = [(.add broken,.ok [brokenFault])] := by
    simp only [Registry.run,Registry.perform,Registry.addRejected rejected]
  exact .call (log ▸ List.mem_singleton.mpr rfl)

/- One fault, but the line feed in the identifier stands in the report as it is; the one in the value does
not. -/
theorem brokenLine : Reported [brokenFault] ∧
    (Text.lines (Fault.report [brokenFault])).map String.ofList =
      ["schema in 'a","b', \"x\\ny\" is incorrect(5)"] :=
  ⟨brokenReported,by decide +kernel⟩

def keyed : List UInt8 := "definitions: \x7b\"a\\nb\": \x7bminLength: many\x7d\x7d".toUTF8.toList

def keyedFault : Fault := .unsupportedFile (some (@Cause.yaml keyed))

abbrev keyedWording : Wording where
  cause _ := "definitions.a\nb.minLength: invalid type: string \"many\", expected i64 at line 1 column 35"
  configuration _ := ""
  pattern _ := ""

def keyedGraph : Yaml.Graph where
  root := some (.mapping none [(.scalar none "definitions" .plain,
    .mapping none [(.scalar none "a\nb" .doubleQuoted,
      .mapping none [(.scalar none "minLength" .plain,.scalar none "many" .plain)])])])
  anchors := { place := 10 }

theorem keyedRefused : SourceFormat.yaml.parse keyed = .error keyedFault := by
  have graph : Yaml.Graph.ofBytes? keyed = some keyedGraph := by
    refine Yaml.graphRead "definitions: \x7b\"a\\nb\": \x7bminLength: many\x7d\x7d"
      [.blockMappingStart,.key,.scalar "definitions" .plain,.value,.flowMappingStart,.key,
        .scalar "a\nb" .doubleQuoted,.value,.flowMappingStart,.key,.scalar "minLength" .plain,.value,
        .scalar "many" .plain,.flowMappingEnd,.flowMappingEnd,.blockEnd,.streamEnd] ?_ ?_ ?_ ?_
    · cbv
    · cbv
    · cbv
    · rfl
  have failed : (keyedGraph.read {} fun r n => r.readDocument Yaml.depthLimit n).isOk = false := by
    decide +kernel
  simp only [SourceFormat.parse,Yaml.readDocument,Yaml.readWith,graph]
  cases read : keyedGraph.read {} fun r n => r.readDocument Yaml.depthLimit n with
  | ok d => simp [read,Except.isOk,Except.toBool] at failed
  | error e => rfl

theorem keyedReported : Reported [keyedFault] := by
  have format : SourceFormat.ofPath? "k.yaml" = some .yaml := by
    rw [SourceFormat.ofPath?,Path.nameExtension (by decide)]
    rfl
  have located : (FileTree.lone "k.yaml" keyed).find true "k.yaml" = .ok (["k.yaml"],.file keyed) :=
    FileTree.loneFound (by decide) (by decide) (by decide) true
  have read : (FileTree.lone "k.yaml" keyed).readDocument "k.yaml" = .error keyedFault := by
    simp only [FileTree.readDocument,format,FileTree.read,located]
    exact keyedRefused
  have handed : ({} : Loader).handed (FileTree.lone "k.yaml" keyed) ["k.yaml"] = ["k.yaml"] :=
    Loader.loneHanded (by decide) (by decide) (by decide)
  have kept : ("k.yaml",[keyedFault]) ∈
      (({} : Loader).load (FileTree.lone "k.yaml" keyed) ["k.yaml"] {}).2.fileFaults := by
    simp [Loader.loadedFaults,Loader.reports,handed,FileTree.ingestAll,FileTree.ingestUnread read,
      FileFaults.record,FileFaults.insert]
  exact .file kept

theorem brokenCounted :
    (Reported [brokenFault] ∧ Unbroken "a.json" ∧
      (Text.lines (Fault.report [brokenFault])).length = 1 + 1 ∧
      (Text.lines (FileFaults.block "a.json" [brokenFault])).length = 1 + 1 + 2) ∧
    Reported [keyedFault] ∧ Unbroken "k.yaml" ∧
      (Text.lines (@Fault.report keyedWording [keyedFault])).length = 1 + 1 ∧
      (Text.lines (@FileFaults.block keyedWording "k.yaml" [keyedFault])).length = 1 + 1 + 2 := by
  obtain ⟨_,count,_,blocks⟩ := reportedLines brokenReported
  obtain ⟨_,keyedCount,_,keyedBlocks⟩ := @reportedLines keyedWording _ keyedReported
  have flat : Unbroken "a.json" := by decide
  have keyedFlat : Unbroken "k.yaml" := by decide
  have one : Fault.breaksOf [brokenFault] = 1 := by decide
  have keyedOne : @Fault.breaksOf keyedWording [keyedFault] = 1 := by decide
  exact ⟨⟨brokenReported,flat,one ▸ count,one ▸ (blocks "a.json" flat).1⟩,keyedReported,keyedFlat,
    keyedOne ▸ keyedCount,keyedOne ▸ (keyedBlocks "k.yaml" keyedFlat).1⟩

end SchemaCheck
