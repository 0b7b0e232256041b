import SchemaCheck.Guarded
import SchemaCheck.Proofs.CleanRun
import SchemaCheck.Proofs.Steps

/-! Where an identifier can be empty. The ones that are derived are longer than their owner's, and the last
segment of one that is admitted is not empty; so the look at the identifier of every node finds what the look
at the first one does, and documents that are added or loaded never fail it. -/
namespace SchemaCheck

theorem Below.longer {owner id : String} (below : Below owner id) : owner.length < id.length := by
  obtain ⟨rest,rfl⟩ := below
  have slash : "/".length = 1 := by decide
  simp only [String.length_append,slash]
  omega

theorem Derived.present {owner id : String} (derived : Derived owner id) : id ≠ "" := by
  rintro rfl
  exact absurd derived.below.longer (Nat.not_lt_zero _)

theorem lastSegmentSplit (id : String) :
    ∃ before, id = before ++ lastSegment id ∧ (before = "" ∨ before.endsWith "/" = true) := by
  let back := id.toList.reverse
  have whole : id.toList =
      (back.dropWhile (· ≠ '/')).reverse ++ (back.takeWhile (· ≠ '/')).reverse := by
    rw [← List.reverse_append,List.takeWhile_append_dropWhile,List.reverse_reverse]
  refine ⟨String.ofList (back.dropWhile (· ≠ '/')).reverse,?_,?_⟩
  · rw [← String.toList_inj,String.toList_append,lastSegment,String.toList_ofList,String.toList_ofList]
    exact whole
  · rw [endsWithSlash,String.toList_ofList]
    cases rest : back.dropWhile (· ≠ '/') with
    | nil => exact Or.inl rfl
    | cons c cs =>
      have slash : c = '/' := by
        have first := List.head_dropWhile_not (· ≠ '/') (rest ▸ List.cons_ne_nil c cs)
        simp only [rest,List.head_cons] at first
        simpa using first
      exact Or.inr ⟨cs.reverse,by rw [slash,List.reverse_cons]⟩

namespace Guarded
open Registry Document

/-! ## Registering -/

mutual

theorem registerPassed {id : String} (present : id ≠ "") : ∀ (d : Document) (r : Registry),
    register id d r = .ok (Registry.register id d r)
  | { definitions, properties, items, links, .. }, r => by
    have given : id.isEmpty = false := by simpa using present
    simp only [register,Registry.register,given,Bool.false_eq_true,if_false,
      registerEntriesPassed (fun name => Derived.present (.definition name)),
      registerEntriesPassed (fun name => Derived.present (.property name)),
      registerLinksPassed (fun index => Derived.present (.link index)),
      registerOptionalPassed (Derived.present .items)]
    rfl

theorem registerOptionalPassed {id : String} (present : id ≠ "") : ∀ (d : Option Document) (r : Registry),
    registerOptional id d r = .ok (Registry.registerOptional id d r)
  | none, r => rfl
  | some d, r => by
    simp only [registerOptional,Registry.registerOptional,registerPassed present d r]
    rfl

theorem registerEntriesPassed {idOf : String → String} (present : ∀ name, idOf name ≠ "") :
    ∀ (ds : List (String × Option Document)) (r : Registry),
      registerEntries idOf ds r = .ok (Registry.registerEntries idOf ds r)
  | [], r => rfl
  | (_,none) :: rest, r => registerEntriesPassed present rest r
  | (name,some d) :: rest, r => by
    simp only [registerEntries,Registry.registerEntries,registerPassed (present name) d r]
    show registerEntries idOf rest _ >>= _ = _
    rw [registerEntriesPassed present rest]
    rfl

theorem registerLinksPassed {idOf : Nat → String} (present : ∀ index, idOf index ≠ "") {index : Nat} :
    ∀ (ls : List (Link Document)) (r : Registry),
      registerLinks idOf index ls r = .ok (Registry.registerLinks idOf index ls r)
  | [], r => rfl
  | { schema, .. } :: rest, r => by
    simp only [registerLinks,Registry.registerLinks,registerOptionalPassed (present index) schema r]
    show registerLinks idOf (index + 1) rest _ >>= _ = _
    rw [registerLinksPassed present rest]
    rfl

end

theorem rootEqual (id : String) (d : Option Document) (r : Registry) :
    registerRoot id d r = register? id d r := by
  cases d with
  | none => rfl
  | some d =>
    by_cases empty : id = ""
    · subst empty
      cases d
      rfl
    · have given : id.isEmpty = false := by simpa using empty
      simp only [registerRoot,registerOptionalPassed empty,register?,given,Registry.registerOptional]
      rfl

theorem directRefused {id : String} {d : Option Document} {r : Registry} :
    (∃ misuse, register? id d r = .error misuse) ↔ id = "" ∧ d ≠ none := by
  cases d with
  | none => simp [register?]
  | some d =>
    by_cases empty : id = ""
    · exact iff_of_true ⟨.emptyIdentifier,by simp [register?,empty]⟩ ⟨empty,Option.some_ne_none d⟩
    · simp [register?,empty]

theorem documentPassed (d : Document) (r : Registry) : addDocument d r = .ok (Registry.addDocument d r) := by
  cases rejected : rejection? d with
  | some f => simp only [addDocument,Registry.addDocument,rejected]; rfl
  | none =>
    have given : (lastSegment d.id).isEmpty = false := by simpa using admittedSegment rejected
    simp only [addDocument,Registry.addDocument,rejected,rootEqual,register?,given]
    rfl

/-! ## Loading -/

theorem ingestPassed (t : FileTree) (path : String) (r : Registry) : ingest t path r = .ok (t.ingest path r) := by
  unfold ingest FileTree.ingest
  cases t.readDocument path with
  | error f => rfl
  | ok d => exact documentPassed d r

variable (l : Loader) (t : FileTree)

theorem takePassed (s : Loader.State) (e : Except WalkError FoundFile) : take l t s e = .ok (l.take t s e) := by
  obtain ⟨r,o⟩ := s
  cases e with
  | error e => rfl
  | ok f =>
    simp only [take,takeFile,Loader.take,Loader.takeFile,ingestPassed]
    split <;> rfl

theorem sourcePassed (s : Loader.State) (source : String) :
    takeSource l t s source = .ok (l.takeSource t s source) := by
  unfold takeSource Loader.takeSource
  have each : take l t = fun s e => pure (l.take t s e) := funext fun s => funext (takePassed l t s)
  split
  · rw [each]
    exact List.foldlM_pure
  · rfl

theorem loadPassed (sources : List String) (r : Registry) : load l t sources r = .ok (l.load t sources r) := by
  have each : takeSource l t = fun s source => pure (l.takeSource t s source) :=
    funext fun s => funext (sourcePassed l t s)
  have folded : sources.foldlM (takeSource l t) (r,{}) = .ok (sources.foldl (l.takeSource t) (r,{})) := by
    rw [each]
    exact List.foldlM_pure
  rw [load,folded]
  rfl

end Guarded

namespace Registry
open Document

/-- Whatever the registry, and whatever names a document has: no document that is added, and none that is found
in a file tree, gets to the refusal of an empty identifier, and all comes out as it does without the look at
every node. What is registered directly is refused exactly if its own identifier is empty. -/
theorem emptyIdentifierUnreached (r : Registry) :
    (∀ d, Guarded.addDocument d r = .ok (addDocument d r)) ∧
    (∀ d : Document, d.Admissible → lastSegment d.id ≠ "" ∧ SlashFree (lastSegment d.id) ∧
      ∃ before, d.id = before ++ lastSegment d.id ∧ (before = "" ∨ before.endsWith "/" = true)) ∧
    (∀ id d, ∀ n ∈ nodes id d, ∀ p ∈ parts n.1 n.2, Derived n.1 p.1 ∧ n.1.length < p.1.length) ∧
    (∀ id d, Guarded.registerRoot id d r = register? id d r ∧
      ((∃ misuse, Guarded.registerRoot id d r = .error misuse) ↔ id = "" ∧ d ≠ none)) ∧
    ∀ (l : Loader) (t : FileTree) (sources : List String), Guarded.load l t sources r = .ok (l.load t sources r) := by
  refine ⟨fun d => Guarded.documentPassed d r,fun d sound => ?_,fun id d n _ p part => ?_,fun id d => ?_,
    fun l t sources => Guarded.loadPassed l t sources r⟩
  · exact ⟨admittedSegment (admissible.mpr sound),lastSegmentFlat d.id,lastSegmentSplit d.id⟩
  · exact ⟨partDerived part,(partBelow part).longer⟩
  · refine ⟨Guarded.rootEqual id d r,?_⟩
    rw [Guarded.rootEqual]
    exact Guarded.directRefused

def slashes : Document where
  id := "//a"
  dialect := draft04
  declaration := some (.name "object")
  definitions := [("",some (.typed (.name "string"))),("//",some (.referring "#/a"))]

theorem slashesPassed :
    (slashes.Admissible ∧ lastSegment slashes.id ≠ "") ∧
    (∃ r, Guarded.addDocument slashes {} = .ok (r,[]) ∧ r.ids = ["a","a/definitions/","a/definitions///"]) ∧
    ∃ misuse, Guarded.registerRoot "" (some slashes) {} = .error misuse := by
  obtain ⟨added,segment,_,direct,_⟩ := emptyIdentifierUnreached {}
  have sound : slashes.Admissible := by decide +kernel
  have clean : (addDocument slashes {}).2 = [] := by decide +kernel
  refine ⟨⟨sound,(segment slashes sound).1⟩,⟨(addDocument slashes {}).1,?_,by decide +kernel⟩,?_⟩
  · rw [added,← clean]
  · exact (direct "" (some slashes)).2.mpr ⟨rfl,Option.some_ne_none slashes⟩

end Registry
end SchemaCheck
