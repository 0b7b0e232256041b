import SchemaCheck.Proofs.Layouts

/-! Reading a text with `type` members added. Wherever the first text gives a document the second gives the
same one with the declarations put in place, reader by reader: nothing that the rest is read for depends
on what the added members hold. -/
namespace SchemaCheck

namespace Layout

variable {L : Layout ν} {depth : Nat} {n n' t t' : ν}

inductive Reached (L : Layout ν) : Nat → Part → ν → ν → Prop where
  | leaf {depth : Nat} {p : Part} {t : ν} (leaf : L.leaf t) (still : p.Still) : Reached L depth p t t
  | opened {depth : Nat} {p : Part} {t t' : ν} (inside : L.Opened (L.Grown depth) depth p t t') :
      Reached L (depth + 1) p t t'

theorem Grown.reached {p : Part} (grown : L.Grown depth p n n') (data : p ≠ .data) (unread : p ≠ .unread) :
    ∃ c t t', L.stands n c t ∧ L.stands' n' c t' ∧ L.Reached depth p t t' := by
  cases depth with
  | zero =>
    cases grown with
    | data => contradiction
    | unread => contradiction
    | leaf old new leaf still => exact ⟨_,_,_,old,new,.leaf leaf still⟩
    | opened _ _ none => contradiction
  | succ depth =>
    cases grown with
    | data => contradiction
    | unread => contradiction
    | leaf old new leaf still => exact ⟨_,_,_,old,new,.leaf leaf still⟩
    | opened old new inside => exact ⟨_,_,_,old,new,.opened inside⟩

theorem Reached.grown {p : Part} (reached : L.Reached depth p t t') (old : L.stands t 0 t)
    (new : L.stands' t' 0 t') : L.Grown depth p t t' := by
  cases reached with
  | leaf leaf still => cases depth <;> exact .leaf old new leaf still
  | opened inside => exact .opened old new inside

theorem Grown.data (grown : L.Grown depth .data n n') : L.data depth n n' := by
  cases depth with
  | zero =>
    cases grown with
    | data same => exact same
    | leaf _ _ _ still => exact absurd still id
    | opened _ _ none => exact absurd none id
  | succ depth =>
    cases grown with
    | data same => exact same
    | leaf _ _ _ still => exact absurd still id
    | opened _ _ inside => nomatch inside

theorem Grown.unread (grown : L.Grown depth .unread n n') : L.unread n n' := by
  cases depth with
  | zero =>
    cases grown with
    | unread same => exact same
    | leaf _ _ _ still => exact absurd still id
    | opened _ _ none => exact absurd none id
  | succ depth =>
    cases grown with
    | unread same => exact same
    | leaf _ _ _ still => exact absurd still id
    | opened _ _ inside => nomatch inside

end Layout

theorem Keyword.insidePart (added : Additions) (key : Keyword) : key.part added.inside = key.part added := by
  cases key <;> rfl

theorem Document.emptyRetyped {added : Additions} (kept : added [] = none) :
    ({} : Document).retype added = {} := by
  simp [retype,retypeEntries,retypeOptional,retypeLinks,kept]

theorem Document.typeRetyped {added : Additions} {declared : Option Declaration}
    (given : added [] = some declared) (d : Document) :
    { d.retype added.inside with declaration := declared } = d.retype added := by
  cases d
  simp only [retype,given,Option.getD_some]
  rfl

def Document.retypeLink (added : Additions) (l : Link Document) : Link Document :=
  { l with schema := retypeOptional added l.schema }

namespace Reader

variable {m : Type → Type} {ε ν κ α : Type} [Monad m] [MonadExceptOf ε m] [DecidableEq κ]

def memberStep (r : Reader m ε ν) (known : String → Option κ) (read : κ → α → ν → m α)
    (s : α × List κ) (e : ν × ν) : m (α × List κ) := do
  let name ← r.readKey e.1
  match known name with
  | none => do
    r.skip e.2
    pure s
  | some key =>
    if key ∈ s.2 then throw (r.repeated name)
    else do
      let x ← read key s.1 e.2
      pure (x,key :: s.2)

theorem keyedEqual (r : Reader m ε ν) (known : String → Option κ) (read : κ → α → ν → m α) (start : α)
    (c : Contents m (ν × ν)) :
    r.readKeyed known read start c =
      c.items.foldlM (memberStep r known read) (start,[]) >>= fun s => c.close >>= fun _ => pure s.1 := rfl

def readLinkMember (r : Reader m ε ν) (read : Nat → ν → m Document) (depth : Nat) (key : LinkKeyword)
    (l : Link Document) (n : ν) : m (Link Document) := do
  match key with
  | .title => pure { l with title := ← r.readText n }
  | .href => pure { l with href := ← r.readText n }
  | .method => pure { l with method := ← r.readText n }
  | .rel => pure { l with rel := ← r.readText n }
  | .description => pure { l with description := ← r.readText n }
  | .schema => pure { l with schema := ← r.optional (read depth) n }

theorem linkEqual (r : Reader m ε ν) (read : Nat → ν → m Document) :
    r.readLink read = r.readRecord .link LinkKeyword.all LinkKeyword.ofText? (r.readLinkMember read) {} := rfl

end Reader

namespace Layout.Read
open Document

variable {m : Type → Type} {ε ν κ α : Type} [Monad m] [MonadExceptOf ε m] [Runs m ε]
  {L : Layout ν} {r r' : Reader m ε ν} {depth : Nat} {n n' : ν} {added : Additions}
  {K : AddSubmonoid Nat} (laws : L.Read K r r')
include laws

theorem resolved {t t' : ν} {c : Nat} (old : L.stands n c t) (new : L.stands' n' c t') :
    Follows K (fun x y => x = t ∧ y = t') (r.resolve n) (r'.resolve n') :=
  .ofEnds (laws.stood old).2 (laws.stood' new).2

theorem keyRead {k k' : ν} {name : String} (key : L.Key k k' name) :
    Follows K (fun a b => a = name ∧ b = name) (r.readKey k) (r'.readKey k') := by
  obtain ⟨c,t,t',old,new,text,text'⟩ := key
  refine (laws.resolved old new).bind fun x y both => ?_
  obtain ⟨rfl,rfl⟩ := both
  rw [(laws.keyText text).1,(laws.keyText text').2]
  exact .pure ⟨rfl,rfl⟩

theorem openedAbsent {G : Part → ν → ν → Prop} {t t' : ν} (inside : L.Opened G depth (.schema added) t t') :
    Follows K (· = ·) (r.absent t) (r'.absent t') := by
  cases inside with
  | schema _ old new _ =>
    rw [(laws.membersAbsent old).1,(laws.membersAbsent new).2]
    exact .pure rfl
  | schemaListed _ old new _ =>
    rw [(laws.itemsAbsent old).1,(laws.itemsAbsent new).2]
    exact .pure rfl
  | typed _ old new _ _ _ _ _ =>
    rw [(laws.membersAbsent old).1,(laws.membersAbsent new).2]
    exact .pure rfl
  | blank _ old new _ _ _ =>
    rw [(laws.blankRecord old).1,(laws.membersAbsent new).2]
    exact .pure rfl

theorem membersRead [DecidableEq κ] {known : String → Option κ} {part : κ → Part} {here : String → Prop}
    {read read' : κ → α → ν → m α} {Q : α × List κ → α × List κ → Prop} {xs ys : List (ν × ν)}
    (members : List.Forall₂ (L.Member (L.Grown depth) known part here) xs ys)
    (each : ∀ s s' name key x y, Q s s' → here name → known name = some key → L.Grown depth (part key) x y →
      key ∉ s.2 → key ∉ s'.2 ∧
        Follows K (fun a b => Q (a,key :: s.2) (b,key :: s'.2)) (read key s.1 x) (read' key s'.1 y))
    {s s' : α × List κ} (start : Q s s') :
    Follows K Q (xs.foldlM (r.memberStep known read) s) (ys.foldlM (r'.memberStep known read') s') := by
  refine Follows.foldlM members ?_ start
  rintro s s' x y related ⟨name,inside,key,value⟩
  refine (laws.keyRead key).bind fun a b both => ?_
  rw [both.1,both.2]
  cases found : known name with
  | none =>
    simp only [found] at value ⊢
    exact (laws.skipped value.unread).bind fun _ _ _ => .pure related
  | some key =>
    simp only [found] at value ⊢
    by_cases met : key ∈ s.2
    · rw [if_pos met]
      exact .thrown
    · obtain ⟨fresh,follows⟩ := each s s' name key x.2 y.2 related inside found value met
      rw [if_neg met,if_neg fresh]
      exact follows.bind fun x y kept => .pure kept

omit laws in
theorem listedRead {part : κ → Part} {read read' : κ → α → ν → m α} {R : α → α → Prop} {next next' : m Unit}
    {close close' : List ν → m Unit} (closes : Follows K (· = ·) (close []) (close' [])) {keys : List κ}
    {xs ys : List ν} (listed : Listed (L.Grown depth) part keys xs ys)
    (each : ∀ key a b x y, R a b → L.Grown depth (part key) x y → Follows K R (read key a x) (read' key b y))
    {a b : α} (start : R a b) :
    Follows K R (Reader.readListed read next close keys a xs)
      (Reader.readListed read' next' close' keys b ys) := by
  induction listed generalizing a b with
  | nil => exact closes.bind fun _ _ _ => .pure start
  | cons here later ih => exact (each _ a b _ _ start here).bind fun a b kept => ih kept

theorem recordListed [DecidableEq κ] {wanted : Wanted} {keys : List κ} {known : String → Option κ}
    {part : κ → Part} {read read' : Nat → κ → α → ν → m α} {R : α → α → Prop} {c : Nat} {t t' : ν}
    {xs ys : List ν} {start start' : α} (stands : L.stands n c t) (stands' : L.stands' n' c t')
    (old : L.items t xs) (new : L.items t' ys) (listed : Listed (L.Grown depth) part keys xs ys)
    (each : ∀ key a b x y, R a b → L.Grown depth (part key) x y →
      Follows K R (read depth key a x) (read' depth key b y)) (first : R start start') :
    Follows K R (r.readRecord wanted keys known read start (depth + 1) n)
      (r'.readRecord wanted keys known read' start' (depth + 1) n') := by
  refine (laws.resolved stands stands').bind fun x y both => ?_
  rw [both.1,both.2]
  refine (laws.itemsRecord old new wanted).bind fun f f' records => ?_
  obtain ⟨next,close,next',close',rfl,rfl,closes⟩ := records
  exact listedRead closes listed each first

theorem recordLeaf [DecidableEq κ] {wanted : Wanted} {keys : List κ} {known : String → Option κ}
    {read read' : Nat → κ → α → ν → m α} {R : α → α → Prop} {c : Nat} {t : ν} {start start' : α}
    (stands : L.stands n c t) (stands' : L.stands' n' c t) (leaf : L.leaf t) (first : R start start') :
    Follows K R (r.readRecord wanted keys known read start depth n)
      (r'.readRecord wanted keys known read' start' depth n') := by
  refine (laws.resolved stands stands').bind fun x y both => ?_
  rw [both.1,both.2]
  refine (laws.leafRecord leaf wanted).bind fun f f' none => ?_
  obtain ⟨rfl,rfl⟩ := none
  exact .pure first

theorem typeAdded (read' : Nat → ν → m Document) {k v : ν} {declared : Option Declaration}
    (given : added [] = some declared) (itself : L.stands' k 0 k) (key : L.text k "type")
    (value : L.declared depth v declared) (d : Document) {seen : List Keyword} (fresh : .declaration ∉ seen) :
    Gives K (r'.memberStep Keyword.ofText? (r'.readMember read' depth) (d.retype added.inside,seen) (k,v))
      (d.retype added,.declaration :: seen) := by
  have known : Keyword.ofText? "type" = some .declaration := Keyword.parsedText .declaration
  refine Gives.bind (Gives.bind (.ofEnds (laws.stood' itself).2) ?_) (x := "type") ?_
  · rw [(laws.keyText key).2]
    exact .pure _
  · simp only [known]
    rw [if_neg fresh]
    refine Gives.bind (Gives.bind (laws.declared value) (.pure _)) ?_
    rw [typeRetyped given]
    exact .pure _

variable [LawfulMonad m]

theorem recordKeyed [DecidableEq κ] {wanted : Wanted} {keys : List κ} {known : String → Option κ}
    {read read' : Nat → κ → α → ν → m α} {Q : α × List κ → α × List κ → Prop} {R : α → α → Prop} {c : Nat}
    {t t' : ν} {xs ys : List (ν × ν)} {start start' : α} (stands : L.stands n c t)
    (stands' : L.stands' n' c t') (old : L.members t xs) (new : L.members t' ys)
    (fold : Follows K Q (xs.foldlM (r.memberStep known (read depth)) (start,[]))
      (ys.foldlM (r'.memberStep known (read' depth)) (start',[])))
    (done : ∀ s s', Q s s' → R s.1 s'.1) :
    Follows K R (r.readRecord wanted keys known read start (depth + 1) n)
      (r'.readRecord wanted keys known read' start' (depth + 1) n') := by
  refine (laws.resolved stands stands').bind fun x y both => ?_
  rw [both.1,both.2,(laws.membersRecord old wanted).1,(laws.membersRecord new wanted).2,pure_bind,pure_bind]
  refine fold.bind fun s s' related => ?_
  exact (Follows.pure rfl).bind fun _ _ (_ : () = ()) => .pure (done s s' related)

variable {read read' : Nat → ν → m Document}
  (each : ∀ {k : Nat} {added : Additions} {n n' : ν}, L.Grown k (.schema added) n n' →
    Follows K (fun d d' => d' = d.retype added) (read k n) (read' k n'))

section
include each

theorem optionalRead (grown : L.Grown depth (.schema added) n n') :
    Follows K (fun d d' => d' = retypeOptional added d) (r.optional (read depth) n)
      (r'.optional (read' depth) n') := by
  obtain ⟨c,t,t',old,new,reached⟩ := grown.reached (by simp) (by simp)
  have settled := reached.grown (laws.stood old).1 (laws.stood' new).1
  have absent : Follows K (· = ·) (r.absent t) (r'.absent t') := by
    cases reached with
    | leaf leaf _ => exact laws.leafAbsent leaf
    | opened inside => exact laws.openedAbsent inside
  refine (laws.resolved old new).bind fun x y both => ?_
  obtain ⟨rfl,rfl⟩ := both
  refine absent.bind fun a b same => ?_
  subst same
  cases a
  · exact (each settled).map fun d d' same => same ▸ rfl
  · exact .pure rfl

theorem rowsRead {added : String → Additions} {names : List String} {xs ys : List (ν × ν)}
    (rows : L.Rows (L.Grown depth) added names xs ys) :
    Follows K (fun ds ds' => RetypedRows added ds ds' ∧ ds.map Prod.fst = names)
      (xs.mapM fun (k,v) => do
        let name ← r.readKey k
        let d ← r.optional (read depth) v
        pure (name,d))
      (ys.mapM fun (k,v) => do
        let name ← r'.readKey k
        let d ← r'.optional (read' depth) v
        pure (name,d)) := by
  induction rows with
  | nil => exact .pure ⟨.nil,rfl⟩
  | @cons name own names x y xs ys key last value later ih =>
    rw [List.mapM_cons,List.mapM_cons]
    refine Follows.bind (R := fun e e' => e.1 = name ∧ e' = (name,retypeOptional own e.2)) ?_ ?_
    · refine (laws.keyRead key).bind fun a b both => ?_
      obtain ⟨rfl,rfl⟩ := both
      exact (laws.optionalRead each value).bind fun d d' same => .pure ⟨rfl,by rw [same]⟩
    · rintro ⟨_,d⟩ _ ⟨rfl,rfl⟩
      refine ih.bind fun ds ds' later => .pure ⟨.cons ?_ later.1,by simp [later.2]⟩
      rw [later.2]
      exact last

theorem tableRead {added : String → Additions} (grown : L.Grown depth (.table added) n n') :
    Follows K (fun ds ds' => ds' = retypeEntries added ds)
      (r.readTable (fun k => r.optional (read k)) depth n)
      (r'.readTable (fun k => r'.optional (read' k)) depth n') := by
  obtain ⟨c,t,t',old,new,reached⟩ := grown.reached (by simp) (by simp)
  refine (laws.resolved old new).bind fun x y both => ?_
  obtain ⟨rfl,rfl⟩ := both
  cases reached with
  | leaf leaf _ =>
    refine (laws.leafMap leaf).bind fun c c' both => ?_
    obtain ⟨rfl,rfl⟩ := both
    exact .pure rfl
  | opened inside =>
    cases inside with
    | table old new rows =>
      rw [(laws.membersMap old).1,(laws.membersMap new).2,pure_bind,pure_bind]
      refine (laws.rowsRead each rows).bind fun ds ds' related => ?_
      exact (Follows.pure rfl).bind fun _ _ (_ : () = ()) => .pure (rowsRetyped related.1)

theorem linkMemberRead (key : LinkKeyword) {l : Link Document} (grown : L.Grown depth (key.part added) n n') :
    Follows K (fun l l' => l' = retypeLink added l) (r.readLinkMember read depth key l n)
      (r'.readLinkMember read' depth key (retypeLink added l) n') := by
  cases key with
  | schema => exact (laws.optionalRead each grown).bind fun d d' same => .pure (same ▸ rfl)
  | _ => exact (laws.dataText grown.data).bind fun x y same => .pure (same ▸ rfl)

theorem linkRead (grown : L.Grown depth (.link added) n n') :
    Follows K (fun l l' => l' = retypeLink added l) (r.readLink read depth n)
      (r'.readLink read' depth n') := by
  obtain ⟨c,t,t',old,new,reached⟩ := grown.reached (by simp) (by simp)
  rw [r.linkEqual,r'.linkEqual]
  cases reached with
  | leaf leaf _ => exact laws.recordLeaf old new leaf rfl
  | opened inside =>
    cases inside with
    | link before after members =>
      refine laws.recordKeyed (Q := fun s s' => s'.1 = retypeLink added s.1 ∧ s'.2 = s.2) old new before after
        (laws.membersRead members ?_ ⟨rfl,rfl⟩) fun _ _ related => related.1
      rintro s ⟨_,_⟩ name key x y ⟨rfl,rfl⟩ - - value fresh
      exact ⟨fresh,(laws.linkMemberRead each key value).mono fun a b same => ⟨same,rfl⟩⟩
    | linkListed before after listed =>
      refine laws.recordListed old new before after listed ?_ rfl
      rintro key a _ x y rfl value
      exact laws.linkMemberRead each key value

theorem linkRowsRead {added : Nat → Additions} {xs ys : List ν} (links : Links (L.Grown depth) added xs ys) :
    Follows K (fun ls ls' => ls' = retypeLinks added ls) (xs.mapM (r.readLink read depth))
      (ys.mapM (r'.readLink read' depth)) := by
  induction links with
  | nil => exact .pure rfl
  | cons here _ ih =>
    rw [List.mapM_cons,List.mapM_cons]
    refine (laws.linkRead each here).bind fun l l' first => ih.bind fun ls ls' later => .pure ?_
    rw [first,later]
    rfl

theorem linksRead {added : Nat → Additions} (grown : L.Grown depth (.links added) n n') :
    Follows K (fun ls ls' => ls' = retypeLinks added ls) (r.readList (r.readLink read) depth n)
      (r'.readList (r'.readLink read') depth n') := by
  obtain ⟨c,t,t',old,new,reached⟩ := grown.reached (by simp) (by simp)
  refine (laws.resolved old new).bind fun x y both => ?_
  rw [both.1,both.2]
  cases reached with
  | leaf leaf _ =>
    refine (laws.leafSequence leaf).bind fun c c' none => ?_
    obtain ⟨rfl,rfl⟩ := none
    exact .pure rfl
  | opened inside =>
    cases inside with
    | links before after links =>
      rw [(laws.itemsSequence before).1,(laws.itemsSequence after).2,pure_bind,pure_bind]
      refine (laws.linkRowsRead each links).bind fun ls ls' same => ?_
      exact (Follows.pure rfl).bind fun _ _ (_ : () = ()) => .pure same

theorem memberRead (key : Keyword) {d : Document} (kept : added [] = none ∨ key ≠ .declaration)
    (grown : L.Grown depth (key.part added) n n') :
    Follows K (fun e e' => e' = e.retype added) (r.readMember read depth key d n)
      (r'.readMember read' depth key (d.retype added) n') := by
  cases key with
  | id | dialect | description | reference | pattern =>
    exact (laws.dataText grown.data).bind fun x y same => .pure (by subst same; cases d; rfl)
  | min | minValue | max | maxValue =>
    exact (laws.dataNumber grown.data).bind fun x y same => .pure (by subst same; cases d; rfl)
  | minLength | maxLength =>
    exact (laws.dataLength grown.data).bind fun x y same => .pure (by subst same; cases d; rfl)
  | required | choices =>
    exact (laws.dataTexts grown.data).bind fun x y same => .pure (by subst same; cases d; rfl)
  | sample => exact (laws.dataValue grown.data).bind fun x y same => .pure (by subst same; cases d; rfl)
  | declaration =>
    have none : added [] = none := kept.resolve_right (not_not.mpr rfl)
    refine (laws.dataDeclaration grown.data).bind fun x y same => .pure ?_
    cases d
    simp only [retype,none,Option.getD_none,same]
  | definitions | properties =>
    exact (laws.tableRead each grown).bind fun x y same => .pure (by subst same; cases d; rfl)
  | items => exact (laws.optionalRead each grown).bind fun x y same => .pure (by subst same; cases d; rfl)
  | links => exact (laws.linksRead each grown).bind fun x y same => .pure (by subst same; cases d; rfl)

theorem typedRead {xs ys xs' ys' : List (ν × ν)} {k v : ν} {declared : Option Declaration}
    (given : added [] = some declared) (itself : L.stands' k 0 k) (key : L.text k "type")
    (value : L.declared depth v declared) (before : L.SchemaMembers (L.Grown depth) added (· ≠ "type") xs xs')
    (after : L.SchemaMembers (L.Grown depth) added (· ≠ "type") ys ys') :
    Follows K (fun s s' => s'.1 = s.1.retype added)
      ((xs ++ ys).foldlM (r.memberStep Keyword.ofText? (r.readMember read depth)) ({},[]))
      ((xs' ++ (k,v) :: ys').foldlM (r'.memberStep Keyword.ofText? (r'.readMember read' depth)) ({},[])) := by
  have other : ∀ name key, name ≠ "type" → Keyword.ofText? name = some key → key ≠ .declaration := by
    rintro name key different found rfl
    exact different (Keyword.textOfParsed found).symm
  rw [List.foldlM_append,List.foldlM_append]
  refine Follows.bind
    (R := fun s s' => s'.1 = s.1.retype added.inside ∧ s'.2 = s.2 ∧ Keyword.declaration ∉ s.2) ?_ ?_
  · refine laws.membersRead before ?_ ⟨(emptyRetyped rfl).symm,rfl,by simp⟩
    rintro s ⟨_,_⟩ name key x y ⟨rfl,rfl,none⟩ here found value fresh
    have different := other name key here found
    rw [← key.insidePart added] at value
    refine ⟨fresh,(laws.memberRead each key (Or.inl rfl) value).mono fun a b same => ⟨same,rfl,?_⟩⟩
    simp [none,different.symm]
  · rintro s ⟨_,_⟩ ⟨rfl,rfl,none⟩
    rw [List.foldlM_cons]
    refine Follows.after (laws.typeAdded read' given itself key value s.1 none) ?_
    refine (laws.membersRead after (Q := fun s s' => s'.1 = s.1.retype added ∧
      ∀ key ≠ .declaration, key ∈ s'.2 → key ∈ s.2) ?_ ⟨rfl,?_⟩).mono fun _ _ related => related.1
    · rintro s ⟨_,seen⟩ name key x y ⟨rfl,met⟩ here found value fresh
      have different := other name key here found
      refine ⟨fun again => fresh (met key different again),?_⟩
      refine (laws.memberRead each key (Or.inr different) value).mono fun a b same => ⟨same,?_⟩
      intro j further inside
      rcases List.mem_cons.mp inside with rfl | earlier
      · exact List.mem_cons_self
      · exact List.mem_cons_of_mem _ (met j further earlier)
    · intro j further inside
      exact (List.mem_cons.mp inside).resolve_left further

end

theorem blankRead {c : Nat} {t t' k v : ν} {declared : Option Declaration} (given : added [] = some declared)
    (old : L.stands n c t) (new : L.stands' n' c t') (nothing : r.record .document t = pure none)
    (members : L.members t' [(k,v)]) (itself : L.stands' k 0 k) (key : L.text k "type")
    (value : L.declared depth v declared) (fuel : Nat) :
    Follows K (fun d d' => d' = d.retype added) (r.readDocumentWithin (fuel + 1) (depth + 1) n)
      (r'.readDocumentWithin (fuel + 1) (depth + 1) n') := by
  refine (laws.resolved old new).bind fun x y both => ?_
  rw [both.1,both.2,nothing,(laws.membersRecord members .document).2,pure_bind,pure_bind]
  have read := laws.typeAdded (r'.readDocumentWithin fuel) given itself key value {} List.not_mem_nil
  rw [emptyRetyped rfl] at read
  refine Follows.after (z := (({} : Document).retype added,[.declaration])) ?_ ?_
  · exact read.bind (.pure _)
  · exact Follows.after (.pure ()) (.pure rfl)

theorem documentRead (fuel : Nat) (grown : L.Grown depth (.schema added) n n') :
    Follows K (fun d d' => d' = d.retype added) (r.readDocumentWithin fuel depth n)
      (r'.readDocumentWithin fuel depth n') := by
  induction fuel generalizing depth added n n' with
  | zero => exact .thrown
  | succ fuel ih =>
    obtain ⟨c,t,t',old,new,reached⟩ := grown.reached (by simp) (by simp)
    cases reached with
    | leaf leaf still => exact laws.recordLeaf old new leaf (emptyRetyped still).symm
    | opened inside =>
      cases inside with
      | schema kept before after members =>
        refine laws.recordKeyed (Q := fun s s' => s'.1 = s.1.retype added ∧ s'.2 = s.2) old new before after
          (laws.membersRead members ?_ ⟨(emptyRetyped kept).symm,rfl⟩) fun _ _ related => related.1
        rintro s ⟨_,_⟩ name key x y ⟨rfl,rfl⟩ - - value fresh
        exact ⟨fresh,(laws.memberRead ih key (Or.inl kept) value).mono fun a b same => ⟨same,rfl⟩⟩
      | schemaListed kept before after listed =>
        refine laws.recordListed old new before after listed ?_ (emptyRetyped kept).symm
        rintro key a _ x y rfl value
        exact laws.memberRead ih key (Or.inl kept) value
      | typed given before after itself key value first later =>
        exact laws.recordKeyed old new before after (laws.typedRead ih given itself key value first later)
          fun _ _ related => related
      | blank given before after itself key value =>
        exact laws.blankRead given old new (laws.blankRecord before).2 after itself key value fuel

end Layout.Read
end SchemaCheck
