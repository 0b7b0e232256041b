import SchemaCheck.Proofs.EncodedDocuments
import SchemaCheck.Proofs.Retyping

/-! The places of schemas in a JSON tree. A document that is read from a tree has its schemas where the tree
has them, by the same steps, and each is read from the tree that stands there. -/
namespace SchemaCheck.Json

namespace Tree

def isText (name : String) : Tree → Bool
  | string (.ok s) => s == name
  | _ => false

def lookup? (name : String) : List (Tree × Tree) → Option Tree
  | [] => none
  | (k,v) :: rest => (lookup? name rest).or (if k.isText name then some v else none)

def member? (name : String) : Tree → Option Tree
  | object members _ => lookup? name members
  | _ => none

def item? (index : Nat) : Tree → Option Tree
  | array items _ => items[index]?
  | _ => none

def recorded? [DecidableEq κ] (keys : List κ) (text : κ → String) (k : κ) (t : Tree) : Option Tree :=
  (t.member? (text k)).or (t.item? (keys.idxOf k))

def part? (k : Keyword) (t : Tree) : Option Tree := t.recorded? Keyword.all Keyword.text k

def linkPart? (k : LinkKeyword) (t : Tree) : Option Tree := t.recorded? LinkKeyword.all LinkKeyword.text k

def written? (t : Tree) : Step → Option Tree
  | .definition name => (t.part? .definitions).bind (member? name)
  | .property name => (t.part? .properties).bind (member? name)
  | .link index => ((t.part? .links).bind (item? index)).bind (linkPart? .schema)
  | .items => t.part? .items

def child? (t : Tree) (s : Step) : Option Tree := (t.written? s).filter (!·.isNull)

def schema? : List Step → Tree → Option Tree
  | [], t => some t
  | s :: path, t => (t.child? s).bind (schema? path)

end Tree

theorem bindOk {ε : Type} {c : Except ε α} {f : α → Except ε β} {y : β} :
    c >>= f = .ok y ↔ ∃ x, c = .ok x ∧ f x = .ok y := by
  cases c <;> simp [bind,Except.bind]

theorem mapMRead {ε α β : Type} {f : α → Except ε β} {xs : List α} {ys : List β} (run : xs.mapM f = .ok ys) :
    List.Forall₂ (fun x y => f x = .ok y) xs ys := by
  have ended : ends (xs.mapM f) 0 ys 0 := ⟨run,rfl⟩
  refine mapMEnds ?_ ended
  rintro x _ y s t ⟨here,_⟩
  exact here

section
variable {α β γ δ : Type} {R : α → β → Prop} {S : γ → δ → Prop} {a : Option α} {b : Option β}

theorem relatedMono {R' : α → β → Prop} (weaker : ∀ x y, R x y → R' x y) (related : Option.Rel R a b) :
    Option.Rel R' a b := by
  cases related with
  | none => exact .none
  | some both => exact .some (weaker _ _ both)

theorem relatedBind {f : α → Option γ} {g : β → Option δ} (related : Option.Rel R a b)
    (each : ∀ x y, R x y → Option.Rel S (f x) (g y)) : Option.Rel S (a.bind f) (b.bind g) := by
  cases related with
  | none => exact .none
  | some both => exact each _ _ both

theorem relatedLeft {x : α} (related : Option.Rel R (some x) b) : ∃ y, b = some y ∧ R x y := by
  cases related with
  | some both => exact ⟨_,rfl,both⟩

theorem relatedRight {y : β} (related : Option.Rel R a (some y)) : ∃ x, a = some x ∧ R x y := by
  cases related with
  | some both => exact ⟨_,rfl,both⟩

theorem relatedNone (related : Option.Rel R none b) : b = none := by
  cases related
  rfl

theorem filterBind (o : Option α) (f : α → Option γ) (p : γ → Bool) :
    (o.bind f).filter p = o.bind fun x => (f x).filter p := by
  cases o <;> rfl

end

/-! ## Members of records -/

section
variable {κ α β : Type} [DecidableEq κ] {known : String → Option κ} {text : κ → String}
  {read : Nat → κ → α → Tree → Except Fault α} {k : κ} {get : α → β} {own : Nat → Tree → Except Fault β}

structure Field (read : Nat → κ → α → Tree → Except Fault α) (k : κ) (get : α → β)
    (own : Nat → Tree → Except Fault β) : Prop where
  here {depth : Nat} {x y : α} {n : Tree} (given : read depth k x n = .ok y) : own depth n = .ok (get y)
  apart {depth : Nat} {j : κ} {x y : α} {n : Tree} (different : j ≠ k) (given : read depth j x n = .ok y) :
    get y = get x

inductive Filled (own : Nat → Tree → Except Fault β) (empty : β) : Option Tree → β → Prop where
  | given {depth : Nat} {n : Tree} {y : β} (read : own depth n = .ok y) : Filled own empty (some n) y
  | left : Filled own empty none empty

theorem refuseFails {w : Wanted} {t : Tree} {x : α} : (t.refuse w : Except Fault α) ≠ .ok x := by
  intro given
  obtain ⟨_,_,last⟩ := bindOk.mp given
  contradiction

theorem keyRead {n : Tree} {name : String} (read : reader.readKey n = .ok name) : n = .string (.ok name) := by
  have text : n.text = .ok name := read
  cases n with
  | string s => exact congrArg Tree.string text
  | _ => exact absurd text refuseFails

theorem lookupNamed (name : String) (v : Tree) (rest : List (Tree × Tree)) :
    Tree.lookup? name ((.string (.ok name),v) :: rest) = (Tree.lookup? name rest).or (some v) := by
  simp [Tree.lookup?,Tree.isText]

theorem lookupOther {s name : String} (different : s ≠ name) (v : Tree) (rest : List (Tree × Tree)) :
    Tree.lookup? name ((.string (.ok s),v) :: rest) = Tree.lookup? name rest := by
  simp [Tree.lookup?,Tree.isText,different]

variable (field : Field read k get own)
include field

theorem fieldListed {depth : Nat} {next : Except Fault Unit} {close : List Tree → Except Fault Unit}
    {keys : List κ} (distinct : keys.Nodup) {x y : α} {items : List Tree}
    (run : Reader.readListed (read depth) next close keys x items = .ok y) :
    (k ∉ keys → get y = get x) ∧ (k ∈ keys → Filled own (get x) items[keys.idxOf k]? (get y)) := by
  induction keys generalizing x items with
  | nil =>
    obtain ⟨_,_,last⟩ := bindOk.mp run
    cases last
    exact ⟨fun _ => rfl,nofun⟩
  | cons key keys ih =>
    obtain ⟨fresh,distinct⟩ := List.nodup_cons.mp distinct
    cases items with
    | nil =>
      obtain ⟨_,_,later⟩ := bindOk.mp run
      obtain ⟨outside,inside⟩ := ih distinct later
      refine ⟨fun absent => outside fun member => absent (List.mem_cons_of_mem _ member),fun member => ?_⟩
      by_cases same : key = k
      · rw [outside (same ▸ fresh)]
        exact .left
      · exact inside ((List.mem_cons.mp member).resolve_left (Ne.symm same))
    | cons n items =>
      obtain ⟨z,given,later⟩ := bindOk.mp run
      obtain ⟨outside,inside⟩ := ih distinct later
      by_cases same : key = k
      · subst same
        refine ⟨fun absent => absurd List.mem_cons_self absent,fun _ => ?_⟩
        rw [List.idxOf_cons_self,outside fresh]
        exact .given (field.here given)
      · have kept := field.apart same given
        rw [kept] at outside inside
        refine ⟨fun absent => outside fun member => absent (List.mem_cons_of_mem _ member),fun member => ?_⟩
        rw [List.idxOf_cons_ne _ same]
        exact inside ((List.mem_cons.mp member).resolve_left (Ne.symm same))

variable (parsed : ∀ k, known (text k) = some k) (named : ∀ {s k}, known s = some k → text k = s)
include parsed named

theorem fieldKeyed {depth : Nat} {ms : List (Tree × Tree)} {x : α} {seen : List κ} {s : α × List κ}
    (run : ms.foldlM (reader.memberStep known (read depth)) (x,seen) = .ok s) :
    (k ∈ seen → Tree.lookup? (text k) ms = none ∧ get s.1 = get x) ∧
    (k ∉ seen → Filled own (get x) (Tree.lookup? (text k) ms) (get s.1)) := by
  induction ms generalizing x seen with
  | nil =>
    cases run
    exact ⟨fun _ => ⟨rfl,rfl⟩,fun _ => .left⟩
  | cons m rest ih =>
    obtain ⟨key,v⟩ := m
    rw [List.foldlM_cons] at run
    obtain ⟨⟨y,met⟩,step,later⟩ := bindOk.mp run
    obtain ⟨name,key,member⟩ := bindOk.mp step
    obtain rfl := keyRead key
    have after := ih later
    cases found : known name with
    | none =>
      rw [found] at member
      obtain ⟨_,_,last⟩ := bindOk.mp member
      cases last
      have other : name ≠ text k := fun same => by simp [same,parsed k] at found
      rw [lookupOther other]
      exact after
    | some j =>
      rw [found] at member
      dsimp only at member
      split at member
      · contradiction
      · rename_i fresh
        obtain ⟨z,given,last⟩ := bindOk.mp member
        cases last
        by_cases same : j = k
        · subst same
          obtain ⟨none,kept⟩ := after.1 List.mem_cons_self
          refine ⟨fun again => absurd again fresh,fun _ => ?_⟩
          rw [← named found,lookupNamed,none,kept]
          exact .given (field.here given)
        · have other : name ≠ text k := fun equal => same (Option.some.inj (found.symm.trans (equal ▸ parsed k)))
          rw [lookupOther other,← field.apart same given]
          refine ⟨fun before => after.1 (List.mem_cons_of_mem _ before),fun absent => after.2 fun member => ?_⟩
          exact absent ((List.mem_cons.mp member).resolve_left (Ne.symm same))

theorem fieldRead {wanted : Wanted} {keys : List κ} (distinct : keys.Nodup) (all : ∀ k, k ∈ keys) {start x : α}
    {depth : Nat} {t : Tree} (run : reader.readRecord wanted keys known read start depth t = .ok x) :
    Filled own (get start) (t.recorded? keys text k) (get x) := by
  obtain ⟨_,same,run⟩ := bindOk.mp run
  cases same
  obtain ⟨record,opened,run⟩ := bindOk.mp run
  cases t with
  | array items stop =>
    cases opened
    cases depth with
    | zero => contradiction
    | succ depth => exact (fieldListed field distinct run).2 (all k)
  | object members stop =>
    cases opened
    cases depth with
    | zero => contradiction
    | succ depth =>
      obtain ⟨s,fold,run⟩ := bindOk.mp ((reader.keyedEqual known (read depth) start _).symm.trans run)
      obtain ⟨_,_,last⟩ := bindOk.mp run
      cases last
      have whole : (Tree.object members stop).recorded? keys text k = Tree.lookup? (text k) members := Option.or_none
      rw [whole]
      exact (fieldKeyed field parsed named fold).2 List.not_mem_nil
  | _ => exact absurd opened refuseFails

end

/-! ## Members of schemas and of links -/

open Document

section
variable {read : Nat → Tree → Except Fault Document}

theorem memberPut {depth : Nat} {j : Keyword} {d e : Document} {n : Tree}
    (given : reader.readMember read depth j d n = .ok e) : e = e.put j d := by
  cases j
  all_goals
    obtain ⟨_,_,last⟩ := bindOk.mp given
    cases last
    rfl

theorem memberField {β : Type} {k : Keyword} {get : Document → β} {own : Nat → Tree → Except Fault β}
    (set : Document → β → Document)
    (read_ : ∀ depth d n, reader.readMember read depth k d n = own depth n >>= fun x => .ok (set d x))
    (back : ∀ d x, get (set d x) = x) (apart : ∀ j ≠ k, ∀ d e : Document, get (e.put j d) = get d) :
    Field (reader.readMember read) k get own where
  here {depth d _ n} given := by
    rw [read_ depth d n] at given
    obtain ⟨x,found,last⟩ := bindOk.mp given
    cases last
    rw [back]
    exact found
  apart {_ j d e _} different given := by
    rw [memberPut given]
    exact apart j different d e

theorem definitionsField : Field (reader.readMember read) .definitions Document.definitions
    (reader.readTable fun depth => reader.optional (read depth)) :=
  memberField (fun d x => { d with definitions := x }) (fun _ _ _ => rfl) (fun _ _ => rfl)
    fun j different d e => by cases j <;> first | rfl | contradiction

theorem propertiesField : Field (reader.readMember read) .properties Document.properties
    (reader.readTable fun depth => reader.optional (read depth)) :=
  memberField (fun d x => { d with properties := x }) (fun _ _ _ => rfl) (fun _ _ => rfl)
    fun j different d e => by cases j <;> first | rfl | contradiction

theorem itemsField : Field (reader.readMember read) .items Document.items
    (fun depth => reader.optional (read depth)) :=
  memberField (fun d x => { d with items := x }) (fun _ _ _ => rfl) (fun _ _ => rfl)
    fun j different d e => by cases j <;> first | rfl | contradiction

theorem linksField : Field (reader.readMember read) .links Document.links
    (reader.readList (reader.readLink read)) :=
  memberField (fun d x => { d with links := x }) (fun _ _ _ => rfl) (fun _ _ => rfl)
    fun j different d e => by cases j <;> first | rfl | contradiction

theorem declarationField : Field (reader.readMember read) .declaration Document.declaration
    (fun depth => reader.optional (reader.readDeclaration depth)) :=
  memberField (fun d x => { d with declaration := x }) (fun _ _ _ => rfl) (fun _ _ => rfl)
    fun j different d e => by cases j <;> first | rfl | contradiction

theorem schemaField : Field (reader.readLinkMember read) .schema Link.schema
    (fun depth => reader.optional (read depth)) where
  here given := by
    obtain ⟨x,found,last⟩ := bindOk.mp given
    cases last
    exact found
  apart {_ j _ _ _} different given := by
    cases j
    case schema => contradiction
    all_goals
      obtain ⟨_,_,last⟩ := bindOk.mp given
      cases last
      rfl

theorem partRead {β : Type} {k : Keyword} {get : Document → β} {own : Nat → Tree → Except Fault β}
    (field : Field (reader.readMember read) k get own) {depth : Nat} {t : Tree} {d : Document}
    (given : reader.readRecord .document Keyword.all Keyword.ofText? (reader.readMember read) {} depth t = .ok d) :
    Filled own (get {}) (t.part? k) (get d) :=
  fieldRead field Keyword.parsedText Keyword.textOfParsed (by decide) Keyword.memberAll given

theorem linkPartRead {depth : Nat} {t : Tree} {l : Link Document} (given : reader.readLink read depth t = .ok l) :
    Filled (fun depth => reader.optional (read depth)) none (t.linkPart? .schema) l.schema := by
  rw [reader.linkEqual] at given
  exact fieldRead schemaField LinkKeyword.parsedText LinkKeyword.textOfParsed (by decide) LinkKeyword.memberAll
    given

end

/-! ## Collections -/

section
variable {α : Type} {read : Nat → Tree → Except Fault α}

abbrev From (read : Nat → Tree → Except Fault α) : Option Tree → Option α → Prop :=
  Option.Rel fun n x => ∃ depth, read depth n = .ok x

theorem nullLeft {o : Option Tree} {x : Option (Option α)}
    (found : From (fun depth => reader.optional (read depth)) o x) :
    From read (o.filter (!·.isNull)) x.join := by
  cases found with
  | none => exact .none
  | @some n x given =>
    obtain ⟨depth,given⟩ := given
    have opened : (if n.isNull then .ok none else some <$> read depth n) = Except.ok x := given
    cases null : n.isNull with
    | true =>
      rw [null] at opened
      cases opened
      simp only [Option.filter,null]
      exact .none
    | false =>
      rw [null] at opened
      simp only [Option.filter,null]
      cases run : read depth n with
      | error f => simp [run] at opened
      | ok y =>
        rw [run] at opened
        cases opened
        exact .some ⟨depth,run⟩

theorem optionalFrom {o : Option Tree} {x : Option α}
    (filled : Filled (fun depth => reader.optional (read depth)) none o x) :
    From read (o.filter (!·.isNull)) x := by
  cases filled with
  | left => exact .none
  | @given depth n _ run => exact nullLeft (.some ⟨depth,run⟩)

theorem itemsFrom {items : List Tree} {xs : List α} {depth : Nat}
    (each : List.Forall₂ (fun n x => read depth n = .ok x) items xs) (index : Nat) :
    From read items[index]? xs[index]? := by
  induction each generalizing index with
  | nil => exact .none
  | cons here _ ih =>
    cases index with
    | zero => exact .some ⟨depth,here⟩
    | succ index => exact ih index

theorem listFrom {o : Option Tree} {xs : List α} (filled : Filled (reader.readList read) [] o xs) (index : Nat) :
    From read (o.bind (Tree.item? index)) xs[index]? := by
  cases filled with
  | left => exact .none
  | @given depth n _ run =>
    obtain ⟨_,same,run⟩ := bindOk.mp run
    cases same
    obtain ⟨c,opened,run⟩ := bindOk.mp run
    cases n with
    | array items stop =>
      cases opened
      cases depth with
      | zero => contradiction
      | succ depth =>
        obtain ⟨ys,each,run⟩ := bindOk.mp run
        obtain ⟨_,_,last⟩ := bindOk.mp run
        cases last
        exact itemsFrom (mapMRead each) index
    | _ => exact absurd opened refuseFails

theorem rowsFrom {ms : List (Tree × Tree)} {rows : List (String × α)} {depth : Nat}
    (each : List.Forall₂ (fun m row => m.1 = .string (.ok row.1) ∧ read depth m.2 = .ok row.2) ms rows)
    {name : String} {before : Option Tree} {acc : Entries α} (first : From read before (acc.get? name)) :
    From read ((Tree.lookup? name ms).or before)
      (Entries.get? name (rows.foldl (fun acc x => Entries.insert x.1 x.2 acc) acc)) := by
  induction each generalizing before acc with
  | nil => exact first
  | @cons m row ms rows here _ ih =>
    obtain ⟨key,v⟩ := m
    obtain ⟨rfl,value⟩ := here
    rw [List.foldl_cons,Tree.lookup?,Option.or_assoc]
    refine ih ?_
    rw [Entries.getInsert]
    by_cases same : name = row.1
    · simp only [Tree.isText,same,beq_self_eq_true,if_true,Option.some_or]
      exact .some ⟨depth,value⟩
    · have other : (row.1 == name) = false := beq_false_of_ne (Ne.symm same)
      simp only [Tree.isText,other,same,Bool.false_eq_true,if_false,Option.none_or]
      exact first

theorem tableFrom {o : Option Tree} {xs : Entries α} (filled : Filled (reader.readTable read) [] o xs)
    (name : String) : From read (o.bind (Tree.member? name)) (xs.get? name) := by
  cases filled with
  | left => exact .none
  | @given depth n _ run =>
    obtain ⟨_,same,run⟩ := bindOk.mp run
    cases same
    obtain ⟨c,opened,run⟩ := bindOk.mp run
    cases n with
    | object members stop =>
      cases opened
      cases depth with
      | zero => contradiction
      | succ depth =>
        obtain ⟨rows,each,run⟩ := bindOk.mp run
        obtain ⟨_,_,last⟩ := bindOk.mp run
        cases last
        have rows : List.Forall₂ (fun m row => m.1 = .string (.ok row.1) ∧ read depth m.2 = .ok row.2)
            members rows := by
          refine (mapMRead each).imp fun m row ended => ?_
          obtain ⟨key,named,later⟩ := bindOk.mp ended
          obtain ⟨x,value,last⟩ := bindOk.mp later
          cases last
          exact ⟨keyRead named,value⟩
        have found : From read ((Tree.lookup? name members).or none) (Entries.get? name (Entries.ofList _)) :=
          rowsFrom rows .none
        rwa [Option.or_none] at found
    | _ => exact absurd opened refuseFails

end

/-! ## Schemas -/

abbrev Reads : Option Tree → Option Document → Prop :=
  Option.Rel fun n e => ∃ fuel depth, reader.readDocumentWithin fuel depth n = .ok e

theorem childReads {fuel depth : Nat} {t : Tree} {d : Document}
    (given : reader.readDocumentWithin fuel depth t = .ok d) (s : Step) : Reads (t.child? s) (d.child? s) := by
  cases fuel with
  | zero => contradiction
  | succ fuel =>
    suffices found : From (reader.readDocumentWithin fuel) (t.child? s) (d.child? s) from
      relatedMono (fun _ _ run => ⟨fuel,run⟩) found
    cases s with
    | definition name => exact nullLeft (tableFrom (partRead definitionsField given) name)
    | property name => exact nullLeft (tableFrom (partRead propertiesField given) name)
    | items => exact optionalFrom (partRead itemsField given)
    | link index =>
      show From _ ((((t.part? .links).bind (Tree.item? index)).bind (Tree.linkPart? .schema)).filter (!·.isNull))
        (d.links[index]?.bind Link.schema)
      rw [filterBind]
      exact relatedBind (listFrom (partRead linksField given) index) fun _ _ ⟨_,run⟩ =>
        optionalFrom (linkPartRead run)

theorem schemaReads {path : List Step} {fuel depth : Nat} {t : Tree} {d : Document}
    (given : reader.readDocumentWithin fuel depth t = .ok d) : Reads (t.schema? path) (at? path d) := by
  induction path generalizing fuel depth t d with
  | nil => exact .some ⟨fuel,depth,given⟩
  | cons s path ih => exact relatedBind (childReads given s) fun _ _ ⟨_,_,run⟩ => ih run

end SchemaCheck.Json
