import SchemaCheck.FileTree
import SchemaCheck.Proofs.Spelling
import SchemaCheck.Proofs.Table

/-! Trees as a file system has them, and the nodes inside them. -/
namespace SchemaCheck

namespace FileNode

/- What is in a directory is in order of the names, and paths can spell these. -/
inductive Proper : FileNode → Prop where
  | file (content : List UInt8) : Proper (.file content)
  | link (target : String) : Proper (.link target)
  | directory {entries : List (String × FileNode)} (ordered : Entries.Ordered entries)
      (named : ∀ e ∈ entries, ProperName e.1) (inside : ∀ e ∈ entries, Proper e.2) :
      Proper (.directory entries)

inductive LinkFree : FileNode → Prop where
  | file (content : List UInt8) : LinkFree (.file content)
  | directory {entries : List (String × FileNode)} (inside : ∀ e ∈ entries, LinkFree e.2) :
      LinkFree (.directory entries)

theorem treeInduction {motive : FileNode → Prop} (file : ∀ content, motive (.file content))
    (link : ∀ target, motive (.link target))
    (directory : ∀ entries, (∀ e ∈ entries, motive e.2) → motive (.directory entries)) :
    ∀ n, motive n
  | .file content => file content
  | .link target => link target
  | .directory entries => directory entries fun e _ => treeInduction file link directory e.2
termination_by n => sizeOf n
decreasing_by
  have smaller := List.sizeOf_lt_of_mem ‹e ∈ entries›
  obtain ⟨name,n⟩ := e
  simp only [Prod.mk.sizeOf_spec,FileNode.directory.sizeOf_spec] at smaller ⊢
  omega

theorem atAppend (a b : Location) (n : FileNode) : n.at? (a ++ b) = (n.at? a).bind (at? b) := by
  induction a generalizing n with
  | nil => rfl
  | cons name rest ih => cases child : n.child? name <;> simp [at?,child,ih]

theorem childEntry {n m : FileNode} {name : String} (child : n.child? name = some m) :
    ∃ entries, n = .directory entries ∧ (name,m) ∈ entries := by
  cases n with
  | directory entries => exact ⟨entries,rfl,Entries.memberGet child⟩
  | file content => contradiction
  | link target => contradiction

theorem atKeeps {P : FileNode → Prop}
    (inside : ∀ entries, P (.directory entries) → ∀ e ∈ entries, P e.2) {n m : FileNode} {place : Location}
    (whole : P n) (found : n.at? place = some m) : P m := by
  induction place generalizing n with
  | nil => cases found; exact whole
  | cons name rest ih =>
    obtain ⟨child,present,below⟩ := Option.bind_eq_some_iff.mp found
    obtain ⟨entries,rfl,member⟩ := childEntry present
    exact ih (inside entries whole _ member) below

theorem Proper.at {n m : FileNode} {place : Location} (proper : n.Proper)
    (found : n.at? place = some m) : m.Proper :=
  atKeeps (fun _ proper => by cases proper; assumption) proper found

theorem LinkFree.at {n m : FileNode} {place : Location} (free : n.LinkFree)
    (found : n.at? place = some m) : m.LinkFree :=
  atKeeps (fun _ free => by cases free; assumption) free found

theorem entryDirectories {entries : List (String × FileNode)} {e : String × FileNode}
    (member : e ∈ entries) : e.2.directories ≤ directoriesOf entries := by
  induction entries with
  | nil => simp at member
  | cons head rest ih =>
    rcases List.mem_cons.mp member with rfl | later
    · exact Nat.le_add_right ..
    · exact Nat.le_trans (ih later) (Nat.le_add_left ..)

theorem directoriesAt {n m : FileNode} {place : Location} (found : n.at? place = some m) :
    m.directories ≤ n.directories := by
  refine atKeeps (P := fun m => m.directories ≤ n.directories) ?_ (Nat.le_refl _) found
  intro entries whole e member
  exact Nat.le_trans (Nat.le_succ_of_le (entryDirectories member)) whole

theorem directoryAbove {n m : FileNode} {place : Location} {name : String}
    (found : n.at? (place ++ [name]) = some m) :
    ∃ entries, n.at? place = some (.directory entries) ∧ (name,m) ∈ entries := by
  rw [atAppend] at found
  obtain ⟨parent,above,found⟩ := Option.bind_eq_some_iff.mp found
  obtain ⟨child,present,last⟩ := Option.bind_eq_some_iff.mp found
  obtain ⟨entries,rfl,member⟩ := childEntry present
  exact ⟨entries,above,Option.some.inj last ▸ member⟩

theorem entryNamed {n m : FileNode} {place : Location} {name : String} (proper : n.Proper)
    (found : n.at? (place ++ [name]) = some m) : ProperName name := by
  obtain ⟨entries,above,member⟩ := directoryAbove found
  cases proper.at above with
  | directory ordered named inside => exact named _ member

end FileNode

end SchemaCheck
