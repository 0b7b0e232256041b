import SchemaCheck.Proofs.Growth
import SchemaCheck.Proofs.Respelling
import SchemaCheck.Proofs.Selection

/-! A path taken more than once. Every path that is handed over ends in a name, so its spellings are read
alike, and a later call reports what an earlier one did. -/
namespace SchemaCheck

namespace FileTree
open FileNode SchemaCheck.Path

theorem endsNamed {t : FileTree} {follow : Bool} {path : String} {place : Location} {n : FileNode}
    (found : t.find follow path = .ok (place,n)) (leaf : n.isDirectory = false) : EndsNamed path := by
  obtain ⟨⟨nonempty,_⟩,went,inside⟩ := findExact.mp found
  obtain ⟨before,x,split,named⟩ := stepsLast path nonempty
  have notCurrent : x ≠ "." := by
    intro dot
    obtain ⟨entries,directory⟩ := dotDirectory (goes went) (by simp [split,dot])
    cases inside.symm.trans directory
    contradiction
  obtain ⟨given,init,parts⟩ := named notCurrent
  exact ⟨x,by simp [parts],given,notCurrent⟩

theorem joinedNamed (path : String) {name : String} (proper : ProperName name) :
    EndsNamed (join path name) := by
  obtain ⟨before,split⟩ := partsJoin path proper.flat
  exact ⟨name,by simp [split],proper.nonempty,proper.notCurrent⟩

def ListsNamed (xs : Listing) : Prop := ∀ f, .ok f ∈ xs → EndsNamed f.path

theorem ListsNamed.nothing : ListsNamed [] := fun _ member => absurd member List.not_mem_nil

theorem ListsNamed.listed {path : String} (ends : EndsNamed path) (isLink : Bool) :
    ListsNamed (listed path isLink) := by
  intro f member
  cases List.mem_singleton.mp member
  exact ends

theorem ListsNamed.failed (e : WalkError) : ListsNamed [.error e] := by
  intro f member
  cases List.mem_singleton.mp member

theorem listEntryNamed {t : FileTree} {o : WalkOptions} {enter : String → Location → Open → Listing}
    {path name : String} (ends : EndsNamed path) (here : Location) (above : Open) (n : FileNode)
    (entered : ∀ place, ListsNamed (enter path place above)) :
    ListsNamed (t.listEntry o enter path here above name n) := by
  unfold listEntry
  split
  · exact .listed ends _
  · split
    · exact .nothing
    · exact entered _
  · split
    · exact .listed ends _
    · split
      · exact .failed _
      · split
        · exact .failed _
        · split
          · exact .nothing
          · exact entered _
      · exact .listed ends _

theorem listDirectoryNamed {t : FileTree} (proper : t.root.Proper) (o : WalkOptions) (levels : Nat)
    (path : String) (here : Location) (above : Open) : ListsNamed (t.listDirectory o levels path here above) := by
  induction levels generalizing path here above with
  | zero => exact .nothing
  | succ levels ih =>
    rw [listDirectory]
    split
    · exact .failed _
    · split
      · rename_i entries inside
        intro f member
        obtain ⟨⟨name,n⟩,entry,listed⟩ := List.mem_flatMap.mp member
        cases proper.at inside with
        | directory ordered named below =>
          exact listEntryNamed (joinedNamed path (named _ entry)) here _ n (fun place => ih _ _ _) f listed
      · exact .nothing

theorem walkNamed {t : FileTree} (proper : t.root.Proper) (o : WalkOptions) (path : String) :
    ListsNamed (t.walk o path) := by
  have entered : ∀ place, ListsNamed (t.listDirectory o (t.root.directories + 1) path place []) :=
    fun place => listDirectoryNamed proper o _ path place []
  unfold walk
  split
  · exact .failed _
  · rename_i found
    exact .listed (endsNamed found rfl) _
  · exact entered _
  · rename_i found
    have ends := endsNamed found rfl
    split
    · exact .failed _
    · split
      · exact entered _
      · intro f member
        rcases List.mem_append.mp member with own | below
        · exact ListsNamed.listed ends true f own
        · exact entered _ f below
    · exact .listed ends _

end FileTree

theorem FileFaults.lastKeeps {path : String} {rows : List (String × List Fault)}
    (grow : rows.Pairwise fun x y => Path.SameKey path x.1 → Path.SameKey path y.1 → x.2.Sublist y.2)
    {row : String × List Fault} (member : row ∈ rows) (key : Path.SameKey path row.1) (failed : row.2 ≠ []) :
    ∃ faults, Last path faults rows ∧ row.2.Sublist faults := by
  induction rows generalizing row with
  | nil => simp at member
  | cons head rest ih =>
    obtain ⟨first,others⟩ := List.pairwise_cons.mp grow
    rcases List.mem_cons.mp member with rfl | later
    · by_cases again : ∃ other ∈ rest, Path.SameKey path other.1 ∧ other.2 ≠ []
      · obtain ⟨other,later,same,failing⟩ := again
        obtain ⟨faults,last,inside⟩ := ih others later same failing
        exact ⟨faults,.later last,(first other later key same).trans inside⟩
      · refine ⟨row.2,.here key failed fun other later same => ?_,.refl _⟩
        exact not_not.mp fun failing => again ⟨other,later,same,failing⟩
    · obtain ⟨faults,last,inside⟩ := ih others later key failed
      exact ⟨faults,.later last,inside⟩

namespace Loader
open SchemaCheck.Path FileTree FileNode

theorem handedNamed {t : FileTree} (proper : t.root.Proper) {l : Loader} {sources : List String}
    {path : String} (handed : path ∈ l.handed t sources) : EndsNamed path := by
  obtain ⟨x,found,accepted⟩ := List.mem_filterMap.mp handed
  obtain ⟨source,_,visited⟩ := List.mem_flatMap.mp found
  unfold visit at visited
  split at visited
  · obtain ⟨e,listed,rfl⟩ := List.mem_map.mp visited
    cases e with
    | error e => contradiction
    | ok f =>
      obtain ⟨_,same⟩ := Option.ite_none_right_eq_some.mp accepted
      cases same
      exact walkNamed proper l.options source f listed
  · cases List.mem_singleton.mp visited
    contradiction

/- Both spellings are short enough to be opened, or neither is. -/
def SameSide (p q : String) : Prop := pathLimit ≤ p.utf8ByteSize ↔ pathLimit ≤ q.utf8ByteSize

/-- What a call reports is reported again by every later call on the same path, and the faults that the load
leaves for the path hold all of it; unless only one of the spellings is too long. -/
theorem reingestionKeeps {t : FileTree} (proper : t.root.Proper) (l : Loader) (sources : List String)
    (r : Registry) :
    ((l.reports t sources r).Pairwise fun x y =>
      SameKey x.1 y.1 → SameSide x.1 y.1 → x.2.Sublist y.2) ∧
    ∀ row ∈ l.reports t sources r, row.2 ≠ [] →
      (∀ other ∈ l.reports t sources r, SameKey row.1 other.1 → SameSide row.1 other.1) →
      ∃ kept, (l.load t sources r).2.fileFaults.get? row.1 = some kept ∧ row.2.Sublist kept := by
  have named : ∀ row ∈ l.reports t sources r, EndsNamed row.1 := fun row member =>
    handedNamed proper (t.ingestedPaths (l.handed t sources) r ▸ List.mem_map_of_mem member)
  have later : (l.reports t sources r).Pairwise fun x y =>
      SameKey x.1 y.1 → SameSide x.1 y.1 → x.2.Sublist y.2 := by
    refine (laterReports t (l.handed t sources) r).imp_of_mem fun {x y} left right grows key side => ?_
    exact grows (readRespelled key (named x left) (named y right) side)
  refine ⟨later,fun row member failed sides => ?_⟩
  have own : (l.reports t sources r).Pairwise fun x y =>
      SameKey row.1 x.1 → SameKey row.1 y.1 → x.2.Sublist y.2 := by
    refine later.imp_of_mem fun {x y} left right grows first second => ?_
    exact grows (first.symm.trans second) ((sides x left first).symm.trans (sides y right second))
  obtain ⟨kept,last,inside⟩ := FileFaults.lastKeeps own member rfl failed
  exact ⟨kept,(loadFaults l t sources r row.1 kept).mpr last,inside⟩

def unnamed : List UInt8 := "\x7b\x7d".toUTF8.toList

theorem unnamedRejected (r : Registry) :
    ∃ d, SourceFormat.json.parse unnamed = .ok d ∧ r.addDocument d = (r,[.missingId]) := by
  have evaluated : (match SourceFormat.json.parse unnamed with
    | .ok d => decide (Registry.rejection? d = some .missingId)
    | .error _ => false) = true := by decide +kernel
  split at evaluated
  · exact ⟨_,by assumption,Registry.addRejected (of_decide_eq_true evaluated) r⟩
  · contradiction

def flatTree : FileTree := { root := .directory [("a",.directory [("b.json",.file unnamed)])] }

theorem flatProper : flatTree.root.Proper :=
  .directory (by decide) (by decide) <| List.forall_mem_singleton.mpr <|
  .directory (by decide) (by decide) <| List.forall_mem_singleton.mpr <| .file _

theorem flatFree : flatTree.root.LinkFree :=
  .directory <| List.forall_mem_singleton.mpr <| .directory <| List.forall_mem_singleton.mpr <| .file _

theorem flatFound (slashes : Nat) (short : slashes + 1 < pathLimit) :
    flatTree.find true (padded "a" slashes) = .ok (["a"],.directory [("b.json",.file unnamed)]) :=
  findPadded (by decide) (by decide) (by decide) (Nat.add_comm .. ▸ short) rfl

theorem flatVisited (slashes : Nat) (short : slashes + 1 < pathLimit) :
    (({} : Loader).visit flatTree (padded "a" slashes)).filterMap ({} : Loader).acceptedPath? =
      [along (padded "a" slashes) ["b.json"]] := by
  have one : "a".utf8ByteSize = 1 := rfl
  have entered : ¬ pathLimit ≤ (padded "a" slashes).utf8ByteSize := by
    rw [paddedSize,one]
    omega
  have leaves : ({} : Loader).leaves flatTree (padded "a" slashes) = [(["b.json"],.file)] := by
    simp only [Loader.leaves,flatFound _ short,FileNode.leaves,entered,if_false,leavesOf,isDirectory]
    rfl
  rw [visitHanded flatProper flatFree,files,leaves]
  rfl

theorem flatSpelled : along "a" ["b.json"] = "a/b.json" ∧ isAbsolute "a/b.json" = false ∧
    components "a/b.json" = [.name "a",.name "b.json"] ∧ FileTree.steps "a/b.json" = ["a","b.json"] ∧
    SourceFormat.ofPath? "a/b.json" = some .json := by decide +kernel

theorem flatRead : flatTree.readDocument "a/b.json" = SourceFormat.json.parse unnamed := by
  obtain ⟨_,relative,_,steps,format⟩ := flatSpelled
  have found : flatTree.find true "a/b.json" = .ok (["a","b.json"],.file unnamed) := by
    refine findExact.mpr ⟨by decide,?_,rfl⟩
    rw [steps]
    simp [start,relative,go,flatTree,at?,child?,Entries.get?,show ¬ nameLimit < "a".utf8ByteSize by decide,
      show ¬ nameLimit < "b.json".utf8ByteSize by decide]
  simp only [readDocument,format,FileTree.read,found]
  rfl

theorem flatKey (slashes : Nat) : SameKey (along (padded "a" (slashes + 1)) ["b.json"]) "a/b.json" := by
  obtain ⟨_,_,short,_⟩ := flatSpelled
  exact (paddedComponents (by decide) (by decide) slashes).trans short.symm

theorem flatBare : (({} : Loader).visit flatTree "a").filterMap ({} : Loader).acceptedPath? = ["a/b.json"] := by
  have bare : padded "a" 0 = "a" := by simp [padded]
  simpa only [bare,flatSpelled.1] using flatVisited 0 (by decide)

theorem flatUnread {t : FileTree} (slashes : Nat) (long : pathLimit ≤ slashes + 8) :
    t.readDocument (along (padded "a" (slashes + 1)) ["b.json"]) =
      .error (.unsupportedFile (some (.io .nameTooLong))) := by
  have one : "a".utf8ByteSize = 1 := rfl
  have six : "b.json".utf8ByteSize = 6 := rfl
  obtain ⟨_,_,_,_,known⟩ := flatSpelled
  have spelled : along (padded "a" (slashes + 1)) ["b.json"] = padded "a" (slashes + 1) ++ "b.json" :=
    joinPadded ..
  refine longUnread ((sameFormat (flatKey slashes)).trans known) ?_ ?_
  · rw [spelled]
    simp [padded]
  · rw [spelled,String.utf8ByteSize_append,paddedSize,one,six]
    omega

theorem flatReports (slashes : Nat) (short : slashes + 2 < pathLimit) (long : pathLimit ≤ slashes + 8) :
    ({} : Loader).reports flatTree [padded "a" (slashes + 1),"a"] {} =
      [(along (padded "a" (slashes + 1)) ["b.json"],[.unsupportedFile (some (.io .nameTooLong))]),
       ("a/b.json",[.missingId])] := by
  obtain ⟨d,parsed,rejected⟩ := unnamedRejected {}
  simp only [reports,handed,found,List.flatMap_cons,List.flatMap_nil,List.append_nil,List.filterMap_append,
    flatVisited _ short,flatBare,List.singleton_append,ingestAll,ingestUnread (flatUnread _ long),
    ingestRead (flatRead.trans parsed),rejected]

/- Both calls are on one path, but the first spelling is too long to be read: what it reports is lost. -/
theorem respelledLoses :
    SameKey (along (padded "a" 4090) ["b.json"]) "a/b.json" ∧
    ({} : Loader).reports flatTree [padded "a" 4090,"a"] {} =
      [(along (padded "a" 4090) ["b.json"],[.unsupportedFile (some (.io .nameTooLong))]),
       ("a/b.json",[.missingId])] ∧
    ¬ [Fault.unsupportedFile (some (.io .nameTooLong))].Sublist [.missingId] ∧
    (({} : Loader).load flatTree [padded "a" 4090,"a"] {}).2.fileFaults.get? "a/b.json" =
      some [.missingId] := by
  have reported := flatReports 4089 (by decide) (by decide)
  refine ⟨flatKey 4089,reported,by simp,?_⟩
  rw [loadFaults,reported]
  exact .later (.here rfl (by simp) (by simp))

theorem againKept : flatTree.root.Proper ∧
    (("a/b.json",[Fault.missingId]) ∈ ({} : Loader).reports flatTree ["a","a"] {} ∧
      ∀ other ∈ ({} : Loader).reports flatTree ["a","a"] {},
        SameKey "a/b.json" other.1 → SameSide "a/b.json" other.1) ∧
    ∃ kept, (({} : Loader).load flatTree ["a","a"] {}).2.fileFaults.get? "a/b.json" = some kept ∧
      [Fault.missingId].Sublist kept := by
  have reported : ({} : Loader).reports flatTree ["a","a"] {} =
      [("a/b.json",[.missingId]),("a/b.json",[.missingId])] := by
    obtain ⟨d,parsed,rejected⟩ := unnamedRejected {}
    simp only [reports,handed,found,List.flatMap_cons,List.flatMap_nil,List.append_nil,List.filterMap_append,
      flatBare,List.singleton_append,ingestAll,ingestRead (flatRead.trans parsed),rejected]
  have member : ("a/b.json",[Fault.missingId]) ∈ ({} : Loader).reports flatTree ["a","a"] {} := by
    simp [reported]
  have sides : ∀ other ∈ ({} : Loader).reports flatTree ["a","a"] {},
      SameKey "a/b.json" other.1 → SameSide "a/b.json" other.1 := by
    simp [reported,SameSide]
  exact ⟨flatProper,⟨member,sides⟩,(reingestionKeeps flatProper {} ["a","a"] {}).2 _ member (by simp) sides⟩

end Loader
end SchemaCheck
