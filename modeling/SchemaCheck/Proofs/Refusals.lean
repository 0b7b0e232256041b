import SchemaCheck.Proofs.CleanRun

/-! Documents taken as a whole. A document that does not pass one of four checks is refused with one fault and
changes nothing; any other is stored node by node, and what is then reported are faults of its nodes. The
two kinds of reports have no fault in common. -/
namespace SchemaCheck

namespace Document

inductive Refused (d : Document) : Fault → Prop where
  | unnamed (empty : d.id = "") : Refused d .missingId
  | closed (given : d.id ≠ "") (slash : d.id.endsWith "/" = true) : Refused d (.extraSlash d.id)
  | undeclared (given : d.id ≠ "") (plain : d.id.endsWith "/" = false) (empty : d.dialect = "") :
      Refused d (.property d.id "schema" .empty)
  | foreign (given : d.id ≠ "") (plain : d.id.endsWith "/" = false) (declared : d.dialect ≠ "")
      (other : d.dialect ≠ draft04) :
      Refused d (.propertyIncorrect d.id "schema" (Text.quoted d.dialect))

end Document

/- Whether a fault can be one of a node, said by what a report shows of it. -/
def Fault.OfNode (f : Fault) : Prop :=
  f.kind ∈ [.duplicated,.property,.propertyIncorrect] ∧ f.propertyName? ≠ some "schema"

instance (f : Fault) : Decidable f.OfNode := by unfold Fault.OfNode; infer_instance

namespace Registry
open Document

theorem refusedExact {d : Document} {f : Fault} : rejection? d = some f ↔ d.Refused f := by
  constructor
  · intro rejected
    unfold rejection? at rejected
    split at rejected
    · cases rejected
      exact .unnamed (String.isEmpty_iff.mp (by assumption))
    · rename_i given
      have given : d.id ≠ "" := fun empty => given (String.isEmpty_iff.mpr empty)
      split at rejected
      · cases rejected
        exact .closed given (by assumption)
      · rename_i plain
        have plain : d.id.endsWith "/" = false := Bool.not_eq_true _ ▸ plain
        split at rejected
        · cases rejected
          exact .undeclared given plain (String.isEmpty_iff.mp (by assumption))
        · rename_i declared
          split at rejected
          · cases rejected
            exact .foreign given plain (fun empty => declared (String.isEmpty_iff.mpr empty)) (by assumption)
          · contradiction
  · intro refused
    unfold rejection?
    cases refused with
    | unnamed empty => simp [empty]
    | closed given slash => simp [given,slash]
    | undeclared given plain empty => simp [given,plain,empty]
    | foreign given plain declared other => simp [given,plain,declared,other,Fault.incorrectText]

theorem refusedForeign {d : Document} {f : Fault} (refused : d.Refused f) : ¬ f.OfNode := by
  cases refused <;> simp [Fault.OfNode,Fault.kind,Fault.propertyName?]

theorem ownFaultOfNode {id : String} {f : Fault} (own : OwnFault id f) : f.OfNode := by
  have names : ∀ name ∈ nodeProperties, name ≠ "schema" := by decide
  cases own with
  | property known => exact ⟨by simp [Fault.kind],fun same => names _ known (Option.some.inj same)⟩
  | shape v => simp [Fault.OfNode,Fault.kind,Fault.propertyName?]
  | typeName name => simp [Fault.OfNode,Fault.kind,Fault.propertyName?,Fault.incorrectText]

theorem registeredOfNode {id : String} {d : Document} {r : Registry} {f : Fault}
    (member : f ∈ faultsOf id d r) : f.OfNode := by
  obtain ⟨n,_,rfl | own⟩ := faultOrigin member
  · simp [Fault.OfNode,Fault.kind,Fault.propertyName?]
  · exact ownFaultOfNode own

theorem addedOfNode (d : Document) (r : Registry) :
    (∀ f ∈ (addDocument d r).2, f.OfNode) ↔ d.Admissible := by
  rw [← admissible]
  cases rejected : rejection? d with
  | none =>
    rw [addAdmitted rejected]
    exact iff_of_true (fun _ => registeredOfNode) rfl
  | some f =>
    rw [addRejected rejected]
    refine iff_of_false (fun all => ?_) (by simp)
    exact refusedForeign (refusedExact.mp rejected) (all f (List.mem_singleton.mpr rfl))

theorem addedRegistration {d : Document} (admitted : rejection? d = none) (r : Registry) :
    ∃ result, registration? (lastSegment d.id) (some d) r = .ok ((addDocument d r).1,result) ∧
      (addDocument d r).2 = result.faults.getD [] := by
  refine ⟨{
    schema := some (d.normalize (lastSegment d.id))
    faults := Fault.found? (faultsOf (lastSegment d.id) d r) },
    (registrationCall (admittedSegment admitted) d r).trans ?_,?_⟩
  · rw [addAdmitted admitted]
    rfl
  · rw [addAdmitted admitted]
    exact (Fault.foundDefault _).symm

end Registry

theorem FileTree.readFailure {t : FileTree} {path : String} {f : Fault} (failed : t.readDocument path = .error f) :
    ∃ cause, f = .unsupportedFile cause := by
  unfold readDocument at failed
  split at failed
  · exact ⟨_,(Except.error.inj failed).symm⟩
  · split at failed
    · exact ⟨_,(Except.error.inj failed).symm⟩
    · simp only [SourceFormat.parse] at failed
      split at failed <;> split at failed
      all_goals first | exact ⟨_,(Except.error.inj failed).symm⟩ | contradiction

namespace Registry
open Document

/-- A document is refused with the fault of the first check that it does not pass, and then nothing changes;
otherwise it is registered under the last segment of its identifier, with all its nodes, and its faults are
those of the registration. Which of the two it was can be told from the faults alone, also where the
document comes from a file; a file that holds none changes nothing either. -/
theorem addedWholeOrRefused (d : Document) (r : Registry) :
    (∀ f, d.Refused f → addDocument d r = (r,[f])) ∧
    (d.Admissible →
      ∃ r' result, registration? (lastSegment d.id) (some d) r = .ok (r',result) ∧
        addDocument d r = (r',result.faults.getD []) ∧
        (∀ n ∈ nodes (lastSegment d.id) d, r'.contains n.1 = true) ∧
        (∀ before n after, nodes (lastSegment d.id) d = before ++ n :: after →
          n.1 ∉ after.map Prod.fst → r'.get? n.1 = some (n.2.normalize n.1)) ∧
        ∀ f ∈ result.faults.getD [], f.OfNode) ∧
    ((∀ f ∈ (addDocument d r).2, f.OfNode) ↔ d.Admissible) ∧
    ((∃ f, d.Refused f) ↔ ¬ d.Admissible) ∧
    ∀ (t : FileTree) (path : String),
      ((∃ cause, t.readDocument path = .error (.unsupportedFile cause) ∧
          t.ingest path r = (r,[.unsupportedFile cause])) ∨
        ∃ e, t.readDocument path = .ok e ∧ t.ingest path r = addDocument e r) ∧
      ((∀ f ∈ (t.ingest path r).2, f.OfNode) ↔ ∃ e, t.readDocument path = .ok e ∧ e.Admissible) := by
  refine ⟨fun f refused => addRejected (refusedExact.mpr refused) r,?_,addedOfNode d r,?_,?_⟩
  · intro sound
    have admitted := admissible.mpr sound
    obtain ⟨result,call,faults⟩ := addedRegistration admitted r
    have stored : (addDocument d r).1 = storeDocument (lastSegment d.id) d r := by rw [addAdmitted admitted]
    refine ⟨_,result,call,by rw [← faults],?_,?_,?_⟩
    · intro n member
      rw [stored,documentContains]
      exact Or.inr (List.mem_map.mpr ⟨n,member,rfl⟩)
    · intro before n after split last
      rw [stored]
      exact documentLast split last
    · rw [← faults]
      exact (addedOfNode d r).mpr sound
  · rw [← admissible]
    simp only [← refusedExact,← Option.isSome_iff_exists,Option.isSome_iff_ne_none,ne_eq]
  · intro t path
    cases read : t.readDocument path with
    | ok e =>
      rw [FileTree.ingestRead read]
      refine ⟨Or.inr ⟨e,rfl,rfl⟩,(addedOfNode e r).trans ?_⟩
      simp
    | error f =>
      obtain ⟨cause,rfl⟩ := FileTree.readFailure read
      rw [FileTree.ingestUnread read]
      exact ⟨Or.inl ⟨cause,rfl,rfl⟩,by simp [Fault.OfNode,Fault.kind]⟩

def slashed : Document := { id := "v1/user/", dialect := draft04, declaration := some (.name "object") }

def listed : Document :=
  { id := "v1/user", dialect := draft04, declaration := some (.name "object")
    properties := [("a",some { declaration := some (.name "array"), items := some (.referring "#/a") }),
      ("a/items",some (.referring "#/b"))] }

theorem slashedRefusedListedStored :
    (slashed.Refused (.extraSlash "v1/user/") ∧
      addDocument slashed (addDocument listed {}).1 = ((addDocument listed {}).1,[.extraSlash "v1/user/"])) ∧
    listed.Admissible ∧ ∃ r, addDocument listed {} = (r,[.duplicated "user/properties/a/items"]) ∧
      r.get? "user/properties/a/items" =
        some ((Document.referring "#/b").normalize "user/properties/a/items") := by
  have refused : slashed.Refused (.extraSlash "v1/user/") := .closed (by decide) (by decide +kernel)
  have sound : listed.Admissible := by decide +kernel
  have segment : lastSegment listed.id = "user" := by decide +kernel
  have spelled : propertyId "user" "a/items" = "user/properties/a/items" := by decide +kernel
  obtain ⟨whole,_⟩ := addedWholeOrRefused slashed (addDocument listed {}).1
  obtain ⟨_,stored,_⟩ := addedWholeOrRefused listed {}
  obtain ⟨r,_,_,added,_,last,_⟩ := stored sound
  have faults : (addDocument listed {}).2 = [.duplicated "user/properties/a/items"] := by decide +kernel
  refine ⟨⟨refused,whole _ refused⟩,sound,r,?_,?_⟩
  · rw [← faults,added]
  · rw [segment] at last
    rw [← spelled]
    exact last [_,_] (propertyId "user" "a/items",.referring "#/b") [("user",listed)] rfl (by decide +kernel)

end Registry
end SchemaCheck
