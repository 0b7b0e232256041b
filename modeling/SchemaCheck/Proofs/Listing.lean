import SchemaCheck.FileTree.Walk
import SchemaCheck.Proofs.Finding

/-! Going through a tree without links. The listing ends at files and at directories whose path is too
long to be opened; these leaves, their order and the way to each are told without the walk. -/
namespace SchemaCheck

inductive Leaf where
  | file | refused
  deriving DecidableEq, Repr

namespace FileNode
open FileTree (pathLimit)

mutual

def leaves (excludes : String → Bool) (path : String) : FileNode → List (Location × Leaf)
  | .file _ => [([],.file)]
  | .link _ => []
  | .directory entries =>
    if pathLimit ≤ path.utf8ByteSize then [([],.refused)] else leavesOf excludes path entries

def leavesOf (excludes : String → Bool) (path : String) :
    List (String × FileNode) → List (Location × Leaf)
  | [] => []
  | (name, n) :: rest =>
    (if n.isDirectory && excludes name then []
      else (leaves excludes (Path.join path name) n).map fun x => (name :: x.1,x.2)) ++
    leavesOf excludes path rest

end

def entryLeaves (excludes : String → Bool) (path : String) (e : String × FileNode) :
    List (Location × Leaf) :=
  if e.2.isDirectory && excludes e.1 then []
  else (leaves excludes (Path.join path e.1) e.2).map fun x => (e.1 :: x.1,x.2)

theorem leavesOfEntries (excludes : String → Bool) (path : String) (entries : List (String × FileNode)) :
    leavesOf excludes path entries = entries.flatMap (entryLeaves excludes path) := by
  induction entries with
  | nil => rfl
  | cons head rest ih => rw [leavesOf,ih,List.flatMap_cons]; rfl

theorem entryLeavesMember {excludes : String → Bool} {path : String} {e : String × FileNode}
    {b : Location} {kind : Leaf} :
    (b,kind) ∈ entryLeaves excludes path e ↔
      (e.2.isDirectory = true → excludes e.1 = false) ∧
        ∃ rest, b = e.1 :: rest ∧ (rest,kind) ∈ e.2.leaves excludes (Path.join path e.1) := by
  unfold entryLeaves
  split
  · rename_i skipped
    simp_all
  · rename_i entered
    rw [and_iff_right (by simpa using entered),List.mem_map]
    constructor
    · intro listed
      obtain ⟨⟨rest,_⟩,inside,same⟩ := listed
      cases same
      exact ⟨rest,rfl,inside⟩
    · intro listed
      obtain ⟨rest,same,inside⟩ := listed
      subst same
      exact ⟨_,inside,rfl⟩

/- The way from a node, found under a path, to one inside it: every directory on it can be opened, and
none that is entered is excluded. -/
inductive Way (excludes : String → Bool) : String → FileNode → Location → FileNode → Prop where
  | here {path : String} {n : FileNode} : Way excludes path n [] n
  | inside {path name : String} {entries : List (String × FileNode)} {m n : FileNode} {rest : Location}
      (short : path.utf8ByteSize < pathLimit) (entry : Entries.get? name entries = some m)
      (entered : m.isDirectory = true → excludes name = false)
      (way : Way excludes (Path.join path name) m rest n) :
      Way excludes path (.directory entries) (name :: rest) n

inductive LeafAt (excludes : String → Bool) (path : String) (n : FileNode) (b : Location) : Leaf → Prop where
  | file {content : List UInt8} (way : Way excludes path n b (.file content)) :
      LeafAt excludes path n b .file
  | refused {entries : List (String × FileNode)} (way : Way excludes path n b (.directory entries))
      (long : pathLimit ≤ (Path.along path b).utf8ByteSize) : LeafAt excludes path n b .refused

theorem LeafAt.inside {excludes : String → Bool} {path name : String}
    {entries : List (String × FileNode)} {m : FileNode} {rest : Location} {kind : Leaf}
    (short : path.utf8ByteSize < pathLimit) (entry : Entries.get? name entries = some m)
    (entered : m.isDirectory = true → excludes name = false)
    (leaf : LeafAt excludes (Path.join path name) m rest kind) :
    LeafAt excludes path (.directory entries) (name :: rest) kind := by
  cases leaf with
  | file way => exact .file (.inside short entry entered way)
  | refused way long => exact .refused (.inside short entry entered way) long

theorem LeafAt.belowDirectory {excludes : String → Bool} {path : String}
    {entries : List (String × FileNode)} {b : Location} {kind : Leaf}
    (leaf : LeafAt excludes path (.directory entries) b kind) :
    (b = [] ∧ kind = .refused ∧ pathLimit ≤ path.utf8ByteSize) ∨
    ∃ name rest m, b = name :: rest ∧ path.utf8ByteSize < pathLimit ∧
      Entries.get? name entries = some m ∧ (m.isDirectory = true → excludes name = false) ∧
      LeafAt excludes (Path.join path name) m rest kind := by
  cases leaf with
  | file way =>
    cases way with
    | inside short entry entered way => exact Or.inr ⟨_,_,_,rfl,short,entry,entered,.file way⟩
  | refused way long =>
    cases way with
    | here => exact Or.inl ⟨rfl,rfl,long⟩
    | inside short entry entered way => exact Or.inr ⟨_,_,_,rfl,short,entry,entered,.refused way long⟩

theorem leavesExact {excludes : String → Bool} {path : String} {n : FileNode} (proper : n.Proper)
    {b : Location} {kind : Leaf} :
    (b,kind) ∈ n.leaves excludes path ↔ LeafAt excludes path n b kind := by
  induction n using treeInduction generalizing path b with
  | file content =>
    simp only [leaves,List.mem_singleton,Prod.mk.injEq]
    constructor
    · intro own
      obtain ⟨rfl,rfl⟩ := own
      exact .file .here
    · intro leaf
      cases leaf with
      | file way =>
        cases way
        exact ⟨rfl,rfl⟩
      | refused way long => cases way
  | link target =>
    simp only [leaves,List.not_mem_nil,false_iff]
    intro leaf
    cases leaf with
    | file way => cases way
    | refused way long => cases way
  | directory entries ih =>
    obtain ⟨ordered,inside⟩ : Entries.Ordered entries ∧ ∀ e ∈ entries, e.2.Proper := by
      cases proper
      exact ⟨by assumption,by assumption⟩
    rw [leaves]
    split
    · rename_i long
      simp only [List.mem_singleton,Prod.mk.injEq]
      constructor
      · intro own
        obtain ⟨rfl,rfl⟩ := own
        exact .refused .here long
      · intro leaf
        rcases leaf.belowDirectory with ⟨rfl,rfl,_⟩ | ⟨_,_,_,_,short,_⟩
        · exact ⟨rfl,rfl⟩
        · exact absurd long (Nat.not_le_of_lt short)
    · rename_i short
      rw [leavesOfEntries,List.mem_flatMap]
      simp only [entryLeavesMember]
      constructor
      · intro listed
        obtain ⟨e,member,entered,rest,rfl,leaf⟩ := listed
        exact .inside (Nat.lt_of_not_le short) ((Entries.getMember ordered).mpr member) entered
          ((ih e member (inside e member)).mp leaf)
      · intro leaf
        rcases leaf.belowDirectory with ⟨_,_,long⟩ | ⟨name,rest,m,rfl,_,entry,entered,leaf⟩
        · exact absurd long short
        · have member := (Entries.getMember ordered).mp entry
          exact ⟨_,member,entered,rest,rfl,(ih _ member (inside _ member)).mpr leaf⟩

theorem leavesAscending {excludes : String → Bool} {path : String} {n : FileNode} (proper : n.Proper) :
    (n.leaves excludes path).Pairwise fun x y => x.1 < y.1 := by
  induction n using treeInduction generalizing path with
  | file content => simp [leaves]
  | link target => simp [leaves]
  | directory entries ih =>
    rw [leaves]
    split
    · exact List.pairwise_singleton ..
    · cases proper with
      | directory ordered named inside =>
        rw [leavesOfEntries,List.flatMap,List.pairwise_flatten]
        simp only [List.forall_mem_map,List.pairwise_map]
        refine ⟨fun e member => ?_,ordered.imp fun {d e} first => ?_⟩
        · unfold entryLeaves
          split
          · exact .nil
          · exact List.pairwise_map.mpr ((ih e member (inside e member)).imp fun less =>
              List.cons_lt_cons_iff.mpr (Or.inr ⟨rfl,less⟩))
        · intro x here y later
          obtain ⟨_,_,left,_⟩ := entryLeavesMember.mp here
          obtain ⟨_,_,right,_⟩ := entryLeavesMember.mp later
          rw [left,right]
          exact List.cons_lt_cons_iff.mpr (Or.inl first)

theorem enteredDirectory {n m : FileNode} {name : String} {rest : Location}
    (found : n.at? (name :: rest) = some m) : n.isDirectory = true := by
  obtain ⟨_,child,_⟩ := Option.bind_eq_some_iff.mp found
  obtain ⟨_,rfl,_⟩ := childEntry child
  rfl

theorem wayExact {excludes : String → Bool} {path : String} {n m : FileNode} {b : Location} :
    Way excludes path n b m ↔
      n.at? b = some m ∧ (∀ name ∈ b.dropLast, excludes name = false) ∧
      (m.isDirectory = true → ∀ name ∈ b, excludes name = false) ∧
      (b ≠ [] → (Path.along path b.dropLast).utf8ByteSize < pathLimit) := by
  induction b generalizing path n with
  | nil =>
    simp only [at?,Option.some.injEq,List.dropLast_nil,List.not_mem_nil,ne_eq,not_true,false_implies,
      implies_true,and_true]
    constructor
    · intro way
      cases way
      rfl
    · intro same
      exact same ▸ .here
  | cons name rest ih =>
    constructor
    · intro way
      obtain _ | ⟨short,entry,entered,way⟩ := way
      obtain ⟨found,passed,inner,shorter⟩ := ih.mp way
      refine ⟨Option.bind_eq_some_iff.mpr ⟨_,entry,found⟩,?_⟩
      cases rest with
      | nil =>
        cases found
        simpa [Path.along] using ⟨entered,short⟩
      | cons next rest =>
        have own := entered (enteredDirectory found)
        exact ⟨List.forall_mem_cons.mpr ⟨own,passed⟩,
          fun directory => List.forall_mem_cons.mpr ⟨own,inner directory⟩,fun _ => shorter (by simp)⟩
    · intro found
      obtain ⟨found,passed,inner,short⟩ := found
      obtain ⟨child,entry,below⟩ := Option.bind_eq_some_iff.mp found
      obtain ⟨entries,rfl,_⟩ := childEntry entry
      have opened : path.utf8ByteSize < pathLimit :=
        Nat.lt_of_le_of_lt (Path.alongSize path _) (short (by simp))
      cases rest with
      | nil =>
        cases below
        exact .inside opened entry (fun directory => inner directory name (by simp)) .here
      | cons next rest =>
        obtain ⟨own,passed⟩ := List.forall_mem_cons.mp passed
        refine .inside opened entry (fun _ => own) (ih.mpr ⟨below,passed,?_,fun _ => short (by simp)⟩)
        exact fun directory => (List.forall_mem_cons.mp (inner directory)).2

end FileNode

namespace FileTree
open FileNode

def listedLeaf (path : String) (x : Location × Leaf) : Except WalkError FoundFile :=
  match x.2 with
  | .file => .ok ⟨Path.along path x.1,false⟩
  | .refused => .error (.io (Path.along path x.1) .nameTooLong)

theorem listedBelow (path name : String) (x : Location × Leaf) :
    listedLeaf path (name :: x.1,x.2) = listedLeaf (Path.join path name) x := rfl

theorem listEntryLeaves {t : FileTree} {o : WalkOptions} {enter : String → Location → Open → Listing}
    {path : String} {here : Location} {above : Open} {e : String × FileNode} (free : e.2.LinkFree)
    (entered : e.2.isDirectory = true → enter (Path.join path e.1) (here ++ [e.1]) above =
      (e.2.leaves o.excludes (Path.join path e.1)).map (listedLeaf (Path.join path e.1))) :
    t.listEntry o enter (Path.join path e.1) here above e.1 e.2 =
      (entryLeaves o.excludes path e).map (listedLeaf path) := by
  obtain ⟨name,n⟩ := e
  cases free with
  | file content => rfl
  | directory inside =>
    simp only [listEntry,entryLeaves,isDirectory,Bool.true_and]
    split
    · rfl
    · rw [entered rfl,List.map_map]
      exact List.map_congr_left fun x _ => (listedBelow path name x).symm

theorem listDirectoryLeaves {t : FileTree} (o : WalkOptions) {n : FileNode} (proper : n.Proper)
    (free : n.LinkFree) (directory : n.isDirectory = true) {levels : Nat} (enough : n.directories ≤ levels)
    {path : String} {here : Location} {above : Open} (inside : t.root.at? here = some n) :
    t.listDirectory o levels path here above = (n.leaves o.excludes path).map (listedLeaf path) := by
  induction n using treeInduction generalizing levels path here above with
  | file content => contradiction
  | link target => contradiction
  | directory entries ih =>
    cases proper with
    | directory ordered named properInside =>
    cases free with
    | directory freeInside =>
    cases levels with
    | zero => simp [directories] at enough
    | succ levels =>
      rw [listDirectory,leaves]
      split
      · rfl
      · rw [inside,leavesOfEntries,List.map_flatMap]
        refine List.flatMap_congr fun e member => ?_
        have few : e.2.directories ≤ levels :=
          Nat.le_trans (entryDirectories member) (Nat.le_of_succ_le_succ enough)
        have child : t.root.at? (here ++ [e.1]) = some e.2 := by
          rw [atAppend,inside,Option.bind_some]
          exact Option.bind_eq_some_iff.mpr ⟨e.2,(Entries.getMember ordered).mpr member,rfl⟩
        exact listEntryLeaves (freeInside e member) fun directory =>
          ih e member (properInside e member) (freeInside e member) directory few child

theorem walkLeaves {t : FileTree} (proper : t.root.Proper) (free : t.root.LinkFree) (o : WalkOptions)
    {path : String} {place : Location} {n : FileNode} (found : t.find true path = .ok (place,n)) :
    t.walk o path = (n.leaves o.excludes path).map (listedLeaf path) := by
  have inside := (findAt found).2
  cases n with
  | file content =>
    rw [walk,findSame free,found]
    rfl
  | link target => cases free.at inside
  | directory entries =>
    rw [walk,findSame free,found]
    exact listDirectoryLeaves o (proper.at inside) (free.at inside) rfl
      (Nat.le_succ_of_le (directoriesAt inside)) inside

end FileTree
end SchemaCheck
