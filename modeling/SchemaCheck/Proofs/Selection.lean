import SchemaCheck.Proofs.FaultTable
import SchemaCheck.Proofs.Listing

/-! What a load takes from its sources, if there are no links: the files and the directories it cannot open
are told by their place in the tree, without the walk. -/
namespace SchemaCheck

namespace Loader
open FileTree FileNode

/- The file at a place below a source is to be registered: its name is accepted, and no directory between
it and the source is excluded or has a path too long to be opened. -/
inductive Selects (l : Loader) (t : FileTree) (source : String) (below : Location) : Prop where
  | intro {place : Location} {n : FileNode} {content : List UInt8} {name : String}
      (found : t.find true source = .ok (place,n)) (file : n.at? below = some (.file content))
      (named : (place ++ below).getLast? = some name) (accepted : l.filter.accepts name = true)
      (entered : ∀ name ∈ below.dropLast, name ∉ l.filter.excluded)
      (opened : (Path.along source below.dropLast).utf8ByteSize < pathLimit)

inductive Refuses (l : Loader) (t : FileTree) (source : String) (below : Location) : Prop where
  | intro {place : Location} {n : FileNode} {entries : List (String × FileNode)}
      (found : t.find true source = .ok (place,n)) (directory : n.at? below = some (.directory entries))
      (entered : ∀ name ∈ below, name ∉ l.filter.excluded)
      (opened : (Path.along source below.dropLast).utf8ByteSize < pathLimit)
      (long : pathLimit ≤ (Path.along source below).utf8ByteSize)

def leaves (l : Loader) (t : FileTree) (source : String) : List (Location × Leaf) :=
  match t.find true source with
  | .ok (_,n) => n.leaves l.filter.excludes source
  | .error _ => []

def accepted (l : Loader) (source : String) (x : Location × Leaf) : Bool :=
  x.2 = .file && l.filter.accepts (FoundFile.name ⟨Path.along source x.1,false⟩)

def files (l : Loader) (t : FileTree) (source : String) : List Location :=
  ((l.leaves t source).filter (l.accepted source)).map Prod.fst

def refused (l : Loader) (t : FileTree) (source : String) : List Location :=
  ((l.leaves t source).filter fun x => x.2 = .refused).map Prod.fst

theorem notExcluded {f : Filter} {name : String} : f.excludes name = false ↔ name ∉ f.excluded := by
  simp only [Filter.excludes,List.any_eq_false,beq_iff_eq]
  exact ⟨fun h inside => h name inside rfl,fun h x inside same => h (same ▸ inside)⟩

theorem leavesMember {l : Loader} {t : FileTree} (proper : t.root.Proper) {source : String}
    {below : Location} {kind : Leaf} :
    (below,kind) ∈ l.leaves t source ↔
      ∃ place n, t.find true source = .ok (place,n) ∧ LeafAt l.filter.excludes source n below kind := by
  unfold leaves
  split
  · rename_i place n found
    rw [leavesExact (proper.at (findAt found).2)]
    constructor
    · exact fun leaf => ⟨place,n,found,leaf⟩
    · intro leaf
      obtain ⟨_,_,again,leaf⟩ := leaf
      cases found.symm.trans again
      exact leaf
  · rename_i missing
    simp [missing]

theorem leavesOrdered {l : Loader} {t : FileTree} (proper : t.root.Proper) (source : String) :
    (l.leaves t source).Pairwise fun x y => x.1 < y.1 := by
  unfold leaves
  split
  · rename_i found
    exact leavesAscending (proper.at (findAt found).2)
  · exact .nil

theorem nameBelow {t : FileTree} (proper : t.root.Proper) (free : t.root.LinkFree) {source : String}
    {place below : Location} {n : FileNode} {content : List UInt8}
    (found : t.find true source = .ok (place,n)) (file : n.at? below = some (.file content)) :
    (place ++ below).getLast? = some (FoundFile.name ⟨Path.along source below,false⟩) := by
  rcases List.eq_nil_or_concat below with rfl | ⟨above,name,rfl⟩
  · cases file
    obtain ⟨name,spelled,last⟩ := fileFound free found
    simpa [FoundFile.name,Path.along,spelled] using last
  · rw [List.concat_eq_append] at file ⊢
    have own := entryNamed (proper.at (findAt found).2) file
    rw [FoundFile.name,Path.alongLast source own (List.getLast?_concat ..)]
    simp

theorem filesMember {l : Loader} {t : FileTree} (proper : t.root.Proper) (free : t.root.LinkFree)
    {source : String} {below : Location} : below ∈ l.files t source ↔ l.Selects t source below := by
  have own : below ∈ l.files t source ↔ (below,Leaf.file) ∈ l.leaves t source ∧
      l.filter.accepts (FoundFile.name ⟨Path.along source below,false⟩) = true := by
    simp [files,accepted]
  rw [own,leavesMember proper]
  constructor
  · intro taken
    obtain ⟨⟨place,n,found,leaf⟩,accepted⟩ := taken
    cases leaf with
    | file way =>
      obtain ⟨file,passed,_,short⟩ := wayExact.mp way
      refine .intro found file (nameBelow proper free found file) accepted
        (fun d member => notExcluded.mp (passed d member)) ?_
      by_cases here : below = []
      · subst here
        exact (findExact.mp found).1.2.2
      · exact short here
  · intro selects
    obtain ⟨found,file,named,accepted,entered,opened⟩ := selects
    have name := Option.some.inj (named.symm.trans (nameBelow proper free found file))
    refine ⟨⟨_,_,found,.file (wayExact.mpr ⟨file,?_,?_,fun _ => opened⟩)⟩,name ▸ accepted⟩
    · exact fun d member => notExcluded.mpr (entered d member)
    · exact fun directory => absurd directory Bool.false_ne_true

theorem refusedMember {l : Loader} {t : FileTree} (proper : t.root.Proper)
    {source : String} {below : Location} : below ∈ l.refused t source ↔ l.Refuses t source below := by
  have own : below ∈ l.refused t source ↔ (below,Leaf.refused) ∈ l.leaves t source := by
    simp [refused]
  rw [own,leavesMember proper]
  constructor
  · intro leaf
    obtain ⟨place,n,found,leaf⟩ := leaf
    cases leaf with
    | refused way long =>
      obtain ⟨directory,_,passed,short⟩ := wayExact.mp way
      have inner : below ≠ [] := by
        intro empty
        subst empty
        exact Nat.not_le_of_lt (findExact.mp found).1.2.2 long
      exact .intro found directory (fun d member => notExcluded.mp (passed rfl d member)) (short inner) long
  · intro refuses
    obtain ⟨found,directory,entered,opened,long⟩ := refuses
    have passed := fun d member => notExcluded.mpr (entered d member)
    refine ⟨_,_,found,.refused (wayExact.mpr ⟨directory,?_,fun _ => passed,fun _ => opened⟩) long⟩
    exact fun d member => passed d (List.dropLast_subset _ member)

theorem filesOrdered {l : Loader} {t : FileTree} (proper : t.root.Proper) (source : String) :
    (l.files t source).Pairwise (· < ·) :=
  List.pairwise_map.mpr ((leavesOrdered proper source).filter _)

theorem refusedOrdered {l : Loader} {t : FileTree} (proper : t.root.Proper) (source : String) :
    (l.refused t source).Pairwise (· < ·) :=
  List.pairwise_map.mpr ((leavesOrdered proper source).filter _)

theorem visitLeaves {t : FileTree} (proper : t.root.Proper) (free : t.root.LinkFree) (l : Loader)
    {source : String} (present : t.exists? source = true) :
    l.visit t source = (l.leaves t source).map fun x => (listedLeaf source x).mapError .walk := by
  obtain ⟨place,n,found⟩ := existsFound.mp present
  have listed : t.walk l.options source = (l.leaves t source).map (listedLeaf source) := by
    rw [walkLeaves proper free l.options found]
    simp only [leaves,found]
    rfl
  rw [visit,if_pos present,listed,List.map_map]
  rfl

theorem missingLeaves {l : Loader} {t : FileTree} {source : String} (missing : ¬ t.exists? source = true) :
    l.leaves t source = [] := by
  unfold leaves
  split
  · rename_i place n found
    exact absurd (existsFound.mpr ⟨place,n,found⟩) missing
  · rfl

theorem mapFilter {α β : Type} (p : α → Bool) (g : α → β) (xs : List α) :
    (xs.filter p).map g = xs.filterMap fun x => if p x then some (g x) else none := by
  rw [← List.filterMap_eq_map,List.filterMap_filter]
  rfl

theorem visitHanded {t : FileTree} (proper : t.root.Proper) (free : t.root.LinkFree) (l : Loader)
    (source : String) :
    (l.visit t source).filterMap l.acceptedPath? = (l.files t source).map (Path.along source) := by
  by_cases present : t.exists? source = true
  · rw [visitLeaves proper free l present,files,List.map_map,mapFilter,List.filterMap_map]
    refine List.filterMap_congr fun x _ => ?_
    obtain ⟨below,kind⟩ := x
    cases kind <;> simp [accepted,acceptedPath?,listedLeaf,Except.mapError]
  · rw [visit,if_neg present,files,missingLeaves present]
    rfl

theorem visitErrors {t : FileTree} (proper : t.root.Proper) (free : t.root.LinkFree) (l : Loader)
    (source : String) :
    (l.visit t source).filterMap errorOf? =
      if t.exists? source then
        (l.refused t source).map fun below => .walk (.io (Path.along source below) .nameTooLong)
      else [.missingSource source] := by
  by_cases present : t.exists? source = true
  · rw [visitLeaves proper free l present,refused,List.map_map,mapFilter,List.filterMap_map,
      if_pos present]
    refine List.filterMap_congr fun x _ => ?_
    obtain ⟨below,kind⟩ := x
    cases kind <;> simp [errorOf?,listedLeaf,Except.mapError]
  · rw [visit,if_neg present,if_neg present]
    rfl

/-- A load takes exactly the selected files, source by source and in order of their places: one call for
each, the registry is what the calls leave, and the faults of a path are those of its last call with any. What
cannot be gone through is a missing source, or a directory whose path is too long. -/
theorem loadSelects {t : FileTree} (proper : t.root.Proper) (free : t.root.LinkFree) (l : Loader)
    (sources : List String) (r : Registry) :
    ∃ files refused : String → List Location,
      (∀ source, (files source).Pairwise (· < ·) ∧ ∀ below, below ∈ files source ↔ l.Selects t source below) ∧
      (∀ source, (refused source).Pairwise (· < ·) ∧
        ∀ below, below ∈ refused source ↔ l.Refuses t source below) ∧
      let calls := sources.flatMap fun source => (files source).map (Path.along source)
      let ingested := t.ingestAll calls r
      let loaded := l.load t sources r
      loaded.1 = ingested.1 ∧ loaded.2.files = calls.length ∧
      (∀ path faults, loaded.2.fileFaults.get? path = some faults ↔
        FileFaults.Last path faults ingested.2) ∧
      loaded.2.walkErrors = sources.flatMap fun source =>
        if t.exists? source then
          (refused source).map fun below => .walk (.io (Path.along source below) .nameTooLong)
        else [.missingSource source] := by
  have calls : l.handed t sources =
      sources.flatMap fun source => (l.files t source).map (Path.along source) := by
    simp only [handed,found,List.filterMap_flatMap,visitHanded proper free]
  have errors : (l.found t sources).filterMap errorOf? = sources.flatMap fun source =>
      if t.exists? source then
        (l.refused t source).map fun below => .walk (.io (Path.along source below) .nameTooLong)
      else [.missingSource source] := by
    simp only [found,List.filterMap_flatMap,visitErrors proper free]
  refine ⟨l.files t,l.refused t,fun source => ⟨filesOrdered proper source,fun below => filesMember proper free⟩,
    fun source => ⟨refusedOrdered proper source,fun below => refusedMember proper⟩,?_⟩
  simp only
  rw [← calls,← errors]
  refine ⟨l.loadedRegistry t sources r,?_,loadFaults l t sources r,l.loadedErrors t sources r⟩
  have counted := congrArg List.length (t.ingestedPaths (l.handed t sources) r)
  rw [List.length_map] at counted
  rw [loadAfter,← counted]
  exact Nat.zero_add _

def deepTree : FileTree :=
  { root := .directory [("a",.directory [("bb",.directory [("c.json",.file [])])])] }

theorem deepFound (slashes : Nat) (short : slashes + 1 < pathLimit) :
    deepTree.find true (Path.padded "a" slashes) =
      .ok (["a"],.directory [("bb",.directory [("c.json",.file [])])]) :=
  findPadded (by decide) (by decide) (by decide) (Nat.add_comm .. ▸ short) rfl

theorem deepProper : deepTree.root.Proper :=
  .directory (by decide) (by decide) <| List.forall_mem_singleton.mpr <|
  .directory (by decide) (by decide) <| List.forall_mem_singleton.mpr <|
  .directory (by decide) (by decide) <| List.forall_mem_singleton.mpr <| .file _

theorem deepFree : deepTree.root.LinkFree :=
  .directory <| List.forall_mem_singleton.mpr <| .directory <| List.forall_mem_singleton.mpr <|
  .directory <| List.forall_mem_singleton.mpr <| .file _

theorem deepSelected : deepTree.root.Proper ∧ deepTree.root.LinkFree ∧
    ∃ files : String → List Location, ["bb","c.json"] ∈ files "a" ∧
      (({} : Loader).load deepTree ["a"] {}).1 =
        (deepTree.ingestAll ((files "a").map (Path.along "a")) {}).1 ∧
      (({} : Loader).load deepTree ["a"] {}).2.files = (files "a").length := by
  obtain ⟨files,_,selected,_,registry,counted,_⟩ := loadSelects deepProper deepFree {} ["a"] {}
  have here : Path.padded "a" 0 = "a" := by simp [Path.padded]
  have short : (Path.along "a" ["bb"]).utf8ByteSize < pathLimit := by decide +kernel
  refine ⟨deepProper,deepFree,files,?_,?_,?_⟩
  · refine ((selected "a").2 _).mpr (.intro (here ▸ deepFound _ (by decide)) rfl rfl rfl ?_ short)
    exact fun _ _ => List.not_mem_nil
  · simpa using registry
  · simpa using counted

theorem deepLeaves (slashes : Nat) (opened : slashes + 2 < pathLimit) (long : pathLimit ≤ slashes + 4) :
    ({} : Loader).leaves deepTree (Path.padded "a" (slashes + 1)) = [(["bb"],.refused)] := by
  have one : "a".utf8ByteSize = 1 := rfl
  have two : "bb".utf8ByteSize = 2 := rfl
  have joined := Path.joinPadded "a" "bb" slashes
  have entered : ¬ pathLimit ≤ (Path.padded "a" (slashes + 1)).utf8ByteSize := by
    rw [Path.paddedSize,one]
    omega
  have refused : pathLimit ≤ (Path.padded "a" (slashes + 1) ++ "bb").utf8ByteSize := by
    rw [String.utf8ByteSize_append,Path.paddedSize,one,two]
    omega
  simp only [Loader.leaves,deepFound _ opened,FileNode.leaves,entered,if_false,leavesOf,isDirectory,joined,
    refused,if_true]
  rfl

theorem deepErrors (slashes : Nat) (opened : slashes + 2 < pathLimit) (long : pathLimit ≤ slashes + 4) :
    ({} : Loader).found deepTree [Path.padded "a" (slashes + 1)] =
      [.error (.walk (.io (Path.along (Path.padded "a" (slashes + 1)) ["bb"]) .nameTooLong))] := by
  have present := existsFound.mpr ⟨_,_,deepFound _ opened⟩
  rw [Loader.found,List.flatMap_singleton,visitLeaves deepProper deepFree _ present,deepLeaves _ opened long]
  rfl

/- The source exists and the file below it is to be registered, but the directory that holds it is not
opened by a path of this length. -/
theorem deepRefused :
    deepTree.root.LinkFree ∧
    deepTree.find true (Path.padded "a" 4093) =
      .ok (["a"],.directory [("bb",.directory [("c.json",.file [])])]) ∧
    (({} : Loader).filter.accepts "c.json" = true ∧ ({} : Loader).filter.excluded = []) ∧
    (({} : Loader).load deepTree [Path.padded "a" 4093] {}).2.files = 0 ∧
    (({} : Loader).load deepTree [Path.padded "a" 4093] {}).2.walkErrors =
      [.walk (.io (Path.along (Path.padded "a" 4093) ["bb"]) .nameTooLong)] := by
  have errors := deepErrors 4092 (by decide) (by decide)
  refine ⟨deepFree,deepFound _ (by decide),⟨rfl,rfl⟩,?_,?_⟩
  · rw [loadAfter,errors]
    rfl
  · rw [loadAfter,errors]
    rfl

end Loader
end SchemaCheck
