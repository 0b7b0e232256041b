import Mathlib.Algebra.GroupWithZero.Nat
import SchemaCheck.FileFaults
import SchemaCheck.Proofs.Lines

/-! The lines of faults. The line of a fault has what it repeats of a document, or what a parser says, as it
is; all else in it is on one line, so that the lines of a report are those of its faults, and a block has
them with an indent. -/
namespace SchemaCheck

namespace Fault
open Text

def propertyNames : List String :=
  ["schema","$ref","type","items","$ref, type","min, minValue","max, maxValue"]

def Checked : Fault → Prop
  | unsupportedFile cause => cause = none
  | property _ name _ => name ∈ propertyNames
  | propertyIncorrect _ name value => name ∈ propertyNames ∧ Unbroken value
  | _ => True

def Listed (faults : List Fault) : Prop :=
  (∀ f ∈ faults, f.Checked) ∨ ∃ cause, faults = [unsupportedFile (some cause)]

theorem nameFeeds {name : String} (known : name ∈ propertyNames) : feeds (name ++ " in '") = 0 := by
  revert name
  decide

theorem messageShown {f : Fault} (checked : f.Checked) : Shown f.message := by
  have names : ∀ name ∈ propertyNames, Shown name := by decide
  cases f with
  | unsupportedFile cause => exact (by decide : Shown "not supported file")
  | missingId => exact (by decide : Shown "ID is empty")
  | extraSlash id => exact .before (.before (by decide) _) _
  | duplicated id => exact .before (.before (by decide) _) _
  | property id name problem => exact .before (.before (.before (.before (names _ checked) _) _) _) _
  | propertyIncorrect id name value =>
    exact .before (.before (.before (.before (.before (names _ checked.1) _) _) _) _) _
  | invalidRef id reference => exact .before (.before (.before (.before (by decide) _) _) _) _

variable [Wording]

def bare : Fault → List String
  | unsupportedFile (some cause) => [cause.summary]
  | unsupportedFile none | missingId => []
  | extraSlash id | duplicated id | property id _ _ | propertyIncorrect id _ _ => [id]
  | invalidRef id reference => [id,reference]

/- A cause stands last in its line, so that a line feed at its end begins no other line. -/
def breaks : Fault → Nat
  | unsupportedFile (some cause) => Text.breaks cause.summary
  | f => (f.bare.map feeds).sum

theorem messageFeeds {f : Fault} (checked : f.Checked) : feeds f.message = (f.bare.map feeds).sum := by
  cases f with
  | unsupportedFile cause =>
    obtain rfl : cause = none := checked
    exact feedsUnbroken.mpr (by decide : Unbroken "not supported file")
  | missingId => exact feedsUnbroken.mpr (by decide)
  | extraSlash id => exact feedsBetween (by decide) (by decide) id
  | duplicated id => exact feedsBetween (by decide) (by decide) id
  | property id name problem =>
    have text : feeds problem.text = 0 := by cases problem <;> decide
    exact (feedsBefore text _).trans (feedsBetween (nameFeeds checked) (by decide) id)
  | propertyIncorrect id name value =>
    have subject := feedsBetween (nameFeeds checked.1) (by decide : feeds "', " = 0) id
    have dumped : feeds value = 0 := feedsUnbroken.mpr checked.2
    exact ((feedsBefore (by decide) _).trans (feedsBefore dumped _)).trans subject
  | invalidRef id reference =>
    have subject : feeds ("referred from '" ++ id ++ "' to ") = feeds id :=
      feedsBetween (by decide) (by decide) id
    have whole : feeds (invalidRef id reference).message =
        feeds ("referred from '" ++ id ++ "' to ") + feeds reference :=
      (feedsBefore (by decide) _).trans (feedsAppend ..)
    exact whole.trans (congrArg (· + feeds reference) subject)

theorem checkedBreaks {f : Fault} (checked : f.Checked) : f.breaks = (f.bare.map feeds).sum := by
  cases f with
  | unsupportedFile cause => obtain rfl : cause = none := checked; rfl
  | _ => rfl

def head (f : Fault) : String := f.message ++ "(" ++ toString f.kind.code ++ ")"

theorem checkedLine {f : Fault} (checked : f.Checked) : f.line = f.head := by
  cases f with
  | unsupportedFile cause => obtain rfl : cause = none := checked; rfl
  | _ => rfl

theorem causeLine (cause : Cause) :
    (unsupportedFile (some cause)).line = "not supported file(0);internal:" ++ cause.summary := by
  have before : "not supported file" ++ "(" ++ toString 0 ++ ")" ++ ";internal:" =
      "not supported file(0);internal:" := by decide
  exact congrArg (· ++ cause.summary) before

theorem lineFeeds {f : Fault} (checked : f.Checked) : feeds f.line = (f.bare.map feeds).sum := by
  have code : feeds (toString f.kind.code) = 0 := feedsUnbroken.mpr (naturalUnbroken _)
  rw [checkedLine checked,head,feedsBefore (by decide),feedsBefore code,feedsBefore (by decide),
    messageFeeds checked]

theorem lineClosed {f : Fault} (checked : f.Checked) : Closed f.line.toList := by
  rw [checkedLine checked,head,String.toList_append]
  exact .after _ ⟨')',rfl,by decide⟩

structure Spelled (f : Fault) : Prop where
  shown : Shown f.line
  breaks : Text.breaks f.line = f.breaks
  unbroken : Unbroken f.line ↔ ∀ s ∈ f.bare, Unbroken s

theorem checkedSpelled {f : Fault} (checked : f.Checked) : f.Spelled where
  shown := checkedLine checked ▸ .before (.before (.before (messageShown checked) _) _) _
  breaks := by rw [breaksClosed (lineClosed checked),lineFeeds checked,checkedBreaks checked]
  unbroken := by
    rw [← feedsUnbroken,lineFeeds checked]
    simp only [List.sum_eq_zero_iff_forall_eq_nat,List.forall_mem_map,feedsUnbroken]

theorem causeSpelled (cause : Cause) : (unsupportedFile (some cause)).Spelled := by
  have flat : Unbroken "not supported file(0);internal:" := by decide
  constructor
  · exact causeLine cause ▸ .before (by decide) _
  · rw [causeLine]
    exact breaksAfter flat _
  · rw [causeLine,← feedsUnbroken,feedsAppend,feedsUnbroken.mpr flat,Nat.zero_add,feedsUnbroken]
    exact List.forall_mem_singleton.symm

theorem listedSpelled {faults : List Fault} (listed : Listed faults) : ∀ f ∈ faults, f.Spelled := by
  intro f member
  rcases listed with checked | ⟨cause,rfl⟩
  · exact checkedSpelled (checked f member)
  · cases List.mem_singleton.mp member
    exact causeSpelled cause

/-! ## Reports and blocks -/

theorem reportLines {faults : List Fault} (listed : Listed faults) :
    lines (report faults) = faults.flatMap fun f => lines f.line := by
  rcases listed with checked | ⟨cause,rfl⟩
  · induction faults with
    | nil => rfl
    | cons f rest ih =>
      obtain ⟨own,later⟩ := List.forall_mem_cons.mp checked
      cases rest with
      | nil => simp [report]
      | cons g rest =>
        have spelled : (report (f :: g :: rest)).toList =
            f.line.toList ++ '\n' :: (report (g :: rest)).toList := by
          simp only [report,List.map_cons,String.intercalate_cons_cons,String.toList_append,
            List.append_assoc]
          rfl
        rw [lines,spelled,linesFromClosed [] (lineClosed own),List.flatMap_cons,← ih later]
        rfl
  · simp [report]

theorem Spelled.count {f : Fault} (spelled : f.Spelled) : (lines f.line).length = f.breaks + 1 := by
  rw [linesCount spelled.shown.given,spelled.breaks]

theorem Spelled.single {f : Fault} (spelled : f.Spelled) :
    lines f.line = [f.line.toList] ↔ ∀ s ∈ f.bare, Unbroken s := by
  rw [linesSingle spelled.shown.given,spelled.unbroken]

def breaksOf (faults : List Fault) : Nat := (faults.map breaks).sum

theorem reportCount {faults : List Fault} (listed : Listed faults) :
    (lines (report faults)).length = faults.length + breaksOf faults := by
  have spelled := listedSpelled listed
  rw [reportLines listed]
  clear listed
  induction faults with
  | nil => rfl
  | cons f rest ih =>
    obtain ⟨own,later⟩ := List.forall_mem_cons.mp spelled
    rw [List.flatMap_cons,List.length_append,own.count,ih later]
    simp only [breaksOf,List.map_cons,List.sum_cons,List.length_cons]
    omega

theorem reportExact {faults : List Fault} (listed : Listed faults) :
    lines (report faults) = faults.map (fun f => f.line.toList) ↔ ∀ f ∈ faults, ∀ s ∈ f.bare, Unbroken s := by
  have spelled := listedSpelled listed
  constructor
  · intro same f member
    have line : f.line.toList ∈ lines (report faults) := same ▸ List.mem_map_of_mem member
    exact (spelled f member).unbroken.mp (linesFromUnbroken List.not_mem_nil line)
  · intro unbroken
    rw [reportLines listed,List.map_eq_flatMap]
    exact List.flatMap_congr fun f member => (spelled f member).single.mpr (unbroken f member)

end Fault

namespace FileFaults
open Text Fault

variable [Wording]

theorem blockText (path : String) (faults : List Fault) :
    (block path faults).toList = path.toList ++ '\n' ::
      ((((lines (Fault.report faults)).map fun line => ' ' :: ' ' :: dropBlanks line).flatMap fun piece =>
        piece ++ ['\n']) ++ ['\n']) := by
  have feed : "\n".toList = ['\n'] := rfl
  have indent : "  ".toList = [' ',' '] := rfl
  have each : ∀ line, (indented line).toList = (' ' :: ' ' :: dropBlanks line) ++ ['\n'] := by
    intro line
    simp [indented,feed,indent]
  simp only [block,String.toList_append,String.toList_join,List.flatMap_map,each,feed,List.append_assoc,
    List.cons_append,List.nil_append]

theorem blockLines {path : String} (flat : Unbroken path) (faults : List Fault) :
    lines (block path faults) = dropReturn path.toList ::
      ((lines (Fault.report faults)).map fun line => dropReturn (' ' :: ' ' :: dropBlanks line)) ++ [[]] := by
  have pieces : ∀ piece ∈ (lines (Fault.report faults)).map fun line => ' ' :: ' ' :: dropBlanks line,
      '\n' ∉ piece := by
    refine List.forall_mem_map.mpr fun line member => ?_
    have own : '\n' ∉ line := linesFromUnbroken List.not_mem_nil member
    have kept : '\n' ∉ dropBlanks line := fun inside => own ((List.dropWhile_sublist _).subset inside)
    simpa using kept
  rw [lines,blockText,linesFromFlat [] flat,linesFromEnded pieces,List.map_map]
  rfl

theorem blockExact {path : String} (flat : Unbroken path) {faults : List Fault} (listed : Listed faults)
    (unbroken : ∀ f ∈ faults, ∀ s ∈ f.bare, Unbroken s) :
    lines (block path faults) = dropReturn path.toList ::
      (faults.map fun f => dropReturn (' ' :: ' ' :: f.line.toList)) ++ [[]] := by
  have each : faults.map ((fun line => dropReturn (' ' :: ' ' :: dropBlanks line)) ∘ fun f => f.line.toList) =
      faults.map fun f => dropReturn (' ' :: ' ' :: f.line.toList) := by
    refine List.map_congr_left fun f member => ?_
    rw [Function.comp,(listedSpelled listed f member).shown.kept]
  rw [blockLines flat,(reportExact listed).mpr unbroken,List.map_map,each]

end FileFaults

end SchemaCheck
