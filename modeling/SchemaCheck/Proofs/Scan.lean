import SchemaCheck.Proofs.Preorder
import SchemaCheck.Registry

/-! The walk as a scan of one flat list. The list is fixed beforehand, each schema ahead of what it holds;
a visitor that skips makes the scan jump over as many entries as the schema at hand has below it. -/
namespace SchemaCheck

structure Tour (σ ε : Type) where
  calls : List (Schema × σ)
  state : σ
  result : Except ε Unit

def Tour.after (call : Schema × σ) (t : Tour σ ε) : Tour σ ε := { t with calls := call :: t.calls }

def Tour.outcome (t : Tour σ ε) : σ × Except ε Unit := (t.state,t.result)

namespace Schema

/-- A scan of a list of schemas, the first so many of which are jumped over. -/
def scan (visit : Visitor σ ε) : Nat → List Schema → σ → Tour σ ε
  | _, [], state => ⟨[],state,.ok ()⟩
  | jump + 1, _ :: rest, state => scan visit jump rest state
  | 0, s :: rest, state =>
    match visit s state with
    | (next, .error e) => ⟨[(s,state)],next,.error e⟩
    | (next, .ok .skip) => (scan visit (s.preorder.length - 1) rest next).after (s,state)
    | (next, .ok .descend) => (scan visit 0 rest next).after (s,state)

def recording (visit : Visitor σ ε) : Visitor (σ × List (Schema × σ)) ε := fun s state =>
  let (next,verdict) := visit s state.1
  ((next,state.2 ++ [(s,state.1)]),verdict)

theorem childSmaller {s c : Schema} (member : c ∈ s.children) : sizeOf c < sizeOf s := by
  cases s
  simp only [children,List.mem_append,List.mem_map,List.mem_filterMap,Option.mem_toList,Prod.exists] at member
  simp only [Schema.mk.sizeOf_spec]
  rcases member with ((⟨name,_,inside,rfl⟩ | ⟨name,_,inside,rfl⟩) | present) | ⟨l,inside,schema⟩
  · have := List.sizeOf_lt_of_mem inside
    simp only [Prod.mk.sizeOf_spec] at this
    omega
  · have := List.sizeOf_lt_of_mem inside
    simp only [Prod.mk.sizeOf_spec] at this
    omega
  · cases present
    simp only [Option.some.sizeOf_spec]
    omega
  · have := List.sizeOf_lt_of_mem inside
    cases l
    cases schema
    simp only [Link.mk.sizeOf_spec,Option.some.sizeOf_spec] at this
    omega

theorem childrenInduction {motive : Schema → Prop} (step : ∀ s, (∀ c ∈ s.children, motive c) → motive s)
    (s : Schema) : motive s :=
  step s fun c _ => childrenInduction step c
termination_by sizeOf s
decreasing_by exact childSmaller (by assumption)

theorem andThenDone (t : σ × Except ε Unit) : andThen (fun state => (state,.ok ())) t = t := by
  obtain ⟨state,result⟩ := t
  cases result <;> rfl

theorem andThenAgain (f g : σ → σ × Except ε Unit) (t : σ × Except ε Unit) :
    andThen g (andThen f t) = andThen (fun state => andThen g (f state)) t := by
  obtain ⟨state,result⟩ := t
  cases result <;> rfl

theorem walkAllAppend (visit : Visitor σ ε) (xs ys : List Schema) :
    walkAll visit (xs ++ ys) = fun state => andThen (walkAll visit ys) (walkAll visit xs state) := by
  induction xs with
  | nil => rfl
  | cons s rest ih =>
    funext state
    simp only [List.cons_append,walkAll,ih,andThenAgain]

theorem walkOptionalAll (visit : Visitor σ ε) (s : Option Schema) :
    walkOptional visit s = walkAll visit s.toList := by
  funext state
  cases s with
  | none => rfl
  | some s => exact (andThenDone _).symm

theorem walkEntriesAll (visit : Visitor σ ε) (ss : List (String × Schema)) :
    walkEntries visit ss = walkAll visit (ss.map Prod.snd) := by
  induction ss with
  | nil => rfl
  | cons head rest ih =>
    funext state
    simp only [walkEntries,List.map_cons,walkAll,ih]

theorem walkLinksAll (visit : Visitor σ ε) (ls : List (Link Schema)) :
    walkLinks visit ls = walkAll visit (ls.filterMap Link.schema) := by
  induction ls with
  | nil => rfl
  | cons l rest ih =>
    funext state
    have listed : (l :: rest).filterMap Link.schema = l.schema.toList ++ rest.filterMap Link.schema := by
      cases schema : l.schema <;> simp [schema]
    simp only [walkLinks,listed,walkAllAppend,← walkOptionalAll,ih]

theorem walkEqual (visit : Visitor σ ε) (s : Schema) (state : σ) :
    s.walk visit state = match visit s state with
      | (next, .error e) => (next,.error e)
      | (next, .ok .skip) => (next,.ok ())
      | (next, .ok .descend) => walkAll visit s.children next := by
  have below : ∀ next, walkAll visit s.children next =
      andThen (walkLinks visit s.links) (andThen (walkOptional visit s.items)
        (andThen (walkEntries visit s.properties) (walkEntries visit s.definitions next))) := by
    intro next
    simp only [children,walkAllAppend,walkEntriesAll,walkOptionalAll,walkLinksAll]
  simp only [below]
  cases s
  rfl

theorem scanJump (visit : Visitor σ ε) (jump : Nat) (ss : List Schema) (state : σ) :
    scan visit jump ss state = scan visit 0 (ss.drop jump) state := by
  induction ss generalizing jump with
  | nil => cases jump <;> rfl
  | cons s rest ih =>
    cases jump with
    | zero => rfl
    | succ jump => exact ih jump

theorem walkAllScanned {visit : Visitor σ ε} {ss : List Schema}
    (each : ∀ s ∈ ss, ∀ rest state, (scan visit 0 (s.preorder ++ rest) state).outcome =
      andThen (fun next => (scan visit 0 rest next).outcome) (s.walk visit state))
    (rest : List Schema) (state : σ) :
    (scan visit 0 (preorderOfAll ss ++ rest) state).outcome =
      andThen (fun next => (scan visit 0 rest next).outcome) (walkAll visit ss state) := by
  induction ss generalizing state with
  | nil => rfl
  | cons s later ih =>
    have here := each s (by simp) (preorderOfAll later ++ rest) state
    have after := ih fun c member => each c (by simp [member])
    simp only [preorderOfAll,List.flatMap_cons,List.append_assoc] at here after ⊢
    simp only [walkAll,andThenAgain,here,after]

theorem walkScanned (visit : Visitor σ ε) (s : Schema) (rest : List Schema) (state : σ) :
    (scan visit 0 (s.preorder ++ rest) state).outcome =
      andThen (fun next => (scan visit 0 rest next).outcome) (s.walk visit state) := by
  induction s using childrenInduction generalizing rest state with
  | step s ih =>
    rw [walkEqual,preorderEqual,List.cons_append,scan]
    rcases visit s state with ⟨next,e | _ | _⟩
    · rfl
    · exact walkAllScanned ih rest next
    · have jumped : (preorderOfAll s.children ++ rest).drop (s.preorder.length - 1) = rest :=
        List.drop_left' (by simp [preorderEqual])
      dsimp only
      rw [scanJump,jumped]
      rfl

theorem scanRecorded (visit : Visitor σ ε) (jump : Nat) (ss : List Schema) (state : σ)
    (calls : List (Schema × σ)) :
    (scan (recording visit) jump ss (state,calls)).outcome =
      (((scan visit jump ss state).state,calls ++ (scan visit jump ss state).calls),
        (scan visit jump ss state).result) := by
  induction ss generalizing jump state calls with
  | nil => cases jump <;> simp [scan,Tour.outcome]
  | cons s rest ih =>
    cases jump with
    | succ jump => exact ih jump state calls
    | zero =>
      rw [scan,scan,recording]
      rcases visit s state with ⟨next,e | _ | _⟩
      · rfl
      · exact (ih 0 next _).trans (by simp [Tour.after])
      · exact (ih _ next _).trans (by simp [Tour.after])

theorem scannedCalls {ss : List Schema} (go : ∀ {τ : Type}, Visitor τ ε → τ → τ × Except ε Unit)
    (same : ∀ {τ : Type} (visit : Visitor τ ε) (state : τ), go visit state = (scan visit 0 ss state).outcome)
    (visit : Visitor σ ε) (state : σ) :
    go visit state = ((scan visit 0 ss state).state,(scan visit 0 ss state).result) ∧
    go (recording visit) (state,[]) =
      (((scan visit 0 ss state).state,(scan visit 0 ss state).calls),(scan visit 0 ss state).result) :=
  ⟨same visit state,(same (recording visit) (state,[])).trans (scanRecorded visit 0 ss state [])⟩

end Schema

namespace Registry

/-- A walk comes to a scan of the schemas ahead of what they hold, root by root in the order of registration:
the calls are the same, each in the same state, and so are the last state and the result. The walk of a
single schema comes to a scan of its own list. -/
theorem walkScansPreorder (visit : Visitor σ ε) (state : σ) :
    (∀ r : Registry,
      let tour := Schema.scan visit 0 ((r.roots.filterMap r.get?).flatMap Schema.preorder) state
      r.walk visit state = (tour.state,tour.result) ∧
      r.walk (Schema.recording visit) (state,[]) = ((tour.state,tour.calls),tour.result)) ∧
    ∀ s : Schema,
      let tour := Schema.scan visit 0 s.preorder state
      s.walk visit state = (tour.state,tour.result) ∧
      s.walk (Schema.recording visit) (state,[]) = ((tour.state,tour.calls),tour.result) := by
  constructor
  · intro r
    refine Schema.scannedCalls (fun visit => r.walk visit) (fun visit state => ?_) visit state
    have scanned := Schema.walkAllScanned (fun s (_ : s ∈ r.rootSchemas) => Schema.walkScanned visit s) [] state
    rw [List.append_nil] at scanned
    exact (Schema.andThenDone _).symm.trans scanned.symm
  · intro s
    refine Schema.scannedCalls (fun visit => s.walk visit) (fun visit state => ?_) visit state
    have scanned := Schema.walkScanned visit s [] state
    rw [List.append_nil] at scanned
    exact (Schema.andThenDone _).symm.trans scanned.symm

end Registry
end SchemaCheck
