import SchemaCheck.Proofs.KeptData
import SchemaCheck.Yaml.Read

/-! YAML nodes that can be kept as data: all but the mappings with a name that is no text, what has a local
tag, scalars that are not what their tag says, and integers too large for 64 bits that fit in 128. -/
namespace SchemaCheck.Yaml

inductive Leads (a : Anchors) : Node → Nat → Node → Prop where
  | itself {n : Node} (plain : ∀ k, n ≠ .alias k) : Leads a n 0 n
  | behind {k : Nat} {n : Node} (found : a.node? k = some n) : Leads a (.alias k) 1 n

/-- Data may stand behind aliases if `K` has a count for following them: `⊥` has none, `⊤` has every count. -/
def dataLayout (K : AddSubmonoid Nat) (a : Anchors) : DataLayout Node where
  leads n c t := Leads a n c t ∧ c ∈ K
  null n := ∃ tag s, n = .scalar tag s .plain ∧
    ((tag = some (coreTag "null") ∧ nullWord s = true) ∨ (tag = none ∧ (s = "" ∨ nullWord s = true)))
  scalar n v := ∃ tag s style, n = .scalar tag s style ∧ scalarValue? tag s style = some v
  list n xs := ∃ tag, n = .sequence tag xs ∧ isLocalTag tag = false
  object n xs := ∃ tag, n = .mapping tag xs ∧ isLocalTag tag = false
  name n s := ∃ tag t style, n = .scalar tag t style ∧ scalarValue? tag t style = some (.string s)

variable {a : Anchors} {K : AddSubmonoid Nat}

theorem resolvePlain {n : Node} (plain : ∀ k, n ≠ .alias k) : resolve a n = pure n := by
  cases n <;> first | rfl | exact absurd rfl (plain _)

theorem resolveBehind {k : Nat} {t : Node} (found : a.node? k = some t) (s : Nat) :
    (resolve a (.alias k)).run (s + 1) = .ok (t,s) := by
  simp only [resolve,found,ofOption]
  rfl

theorem leadsExact {n x : Node} {s u : Nat} :
    ends (resolve a n) s x u ↔ ∃ c, Leads a n c x ∧ s = u + c := by
  constructor
  · intro ended
    by_cases plain : ∀ k, n ≠ .alias k
    · rw [resolvePlain plain] at ended
      obtain ⟨rfl,rfl⟩ := endsPure.mp ended
      exact ⟨0,.itself plain,rfl⟩
    · simp only [ne_eq,not_forall,not_not] at plain
      obtain ⟨k,rfl⟩ := plain
      cases s with
      | zero =>
        have failed : (resolve a (.alias k)).run 0 = .error .malformed := rfl
        cases failed.symm.trans ended
      | succ left =>
        cases found : a.node? k with
        | none =>
          have failed : (resolve a (.alias k)).run (left + 1) = .error .malformed := by
            simp only [resolve,found,ofOption]
            rfl
          cases failed.symm.trans ended
        | some t =>
          cases (resolveBehind found left).symm.trans ended
          exact ⟨1,.behind found,rfl⟩
  · rintro ⟨c,leads,rfl⟩
    cases leads with
    | itself plain =>
      rw [resolvePlain plain]
      exact endsPure.mpr ⟨rfl,rfl⟩
    | behind found => exact resolveBehind found u

theorem leadsUnique {n x y : Node} {c d : Nat} (one : Leads a n c x) (two : Leads a n d y) :
    x = y ∧ c = d := by
  cases one with
  | itself plain =>
    cases two with
    | itself _ => exact ⟨rfl,rfl⟩
    | behind _ => exact absurd rfl (plain _)
  | behind found =>
    cases two with
    | itself plain => exact absurd rfl (plain _)
    | behind found' => exact ⟨Option.some.inj (found.symm.trans found'),rfl⟩

theorem nullTagged {s : String} {style : Style} {v : Value}
    (value : scalarValue? (some (coreTag "null")) s style = some v) : nullWord s = true := by
  have bool : coreTag "null" ≠ coreTag "bool" := by decide
  have int : coreTag "null" ≠ coreTag "int" := by decide
  have float : coreTag "null" ≠ coreTag "float" := by decide
  rw [scalarValue?] at value
  by_cases outside : isLocalTag (some (coreTag "null")) = true
  · rw [if_pos outside] at value
    contradiction
  · rw [if_neg outside,if_neg bool,if_neg int,if_neg float,if_pos rfl] at value
    exact (Option.ite_none_right_eq_some.mp value).1

theorem scalarPresent {tag : Option String} {s : String} {style : Style} {v : Value}
    (given : ¬ (dataLayout K a).null (.scalar tag s style)) (value : scalarValue? tag s style = some v) :
    Node.absent (.scalar tag s style) = pure false := by
  cases style with
  | plain =>
    show (if tag = some (coreTag "null") then if nullWord s then pure true else fail
      else pure (tag.isNone && (s.isEmpty || nullWord s)) : Read Bool) = pure false
    by_cases null : tag = some (coreTag "null")
    · exact absurd ⟨tag,s,rfl,Or.inl ⟨null,nullTagged (null ▸ value)⟩⟩ given
    · rw [if_neg null]
      cases tag with
      | some t => rfl
      | none =>
        have word : ¬ (s = "" ∨ nullWord s = true) := fun word => given ⟨none,s,rfl,Or.inr ⟨rfl,word⟩⟩
        obtain ⟨full,word⟩ := not_or.mp word
        have nonempty : s.isEmpty = false := Bool.eq_false_iff.mpr (mt String.isEmpty_iff.mp full)
        simp [nonempty,word]
  | _ => rfl

theorem dataRead : (dataLayout K a).Read K (reader a) where
  leads {_ _ c} leads := ⟨leads.2,fun _ => leadsExact.mpr ⟨c,leads.1,rfl⟩⟩
  null := by
    rintro n ⟨tag,s,rfl,given⟩
    rcases given with ⟨rfl,word⟩ | ⟨rfl,rfl | word⟩
    · simp [reader,Node.absent,word]
    · rfl
    · simp [reader,Node.absent,word]
  given := by
    rintro n t c ⟨leads,_⟩ given kept
    cases leads with
    | behind _ => rfl
    | itself _ =>
      rcases kept with ⟨v,tag,s,style,rfl,value⟩ | ⟨xs,tag,rfl,_⟩ | ⟨xs,tag,rfl,_⟩
      · exact scalarPresent given value
      · rfl
      · rfl
  scalar := by
    rintro n v ⟨tag,s,style,rfl,value⟩
    simp [reader,Node.shape,value,ofOption]
  list := by
    rintro n xs ⟨tag,rfl,kept⟩
    simp [reader,Node.shape,kept]
  object := by
    rintro n xs ⟨tag,rfl,kept⟩
    simp [reader,Node.shape,kept]
  name := by
    rintro n s ⟨tag,t,style,rfl,text⟩
    simp [reader,Node.declarationKey,Node.shape,text,ofOption]

section
variable {n : Node} {depth s t : Nat}

theorem optionEnds {α : Type} {o : Option α} {x : α} (ended : ends (ofOption o) s x t) : o = some x := by
  cases o with
  | none => exact absurd ended endsThrow
  | some y => exact congrArg some (endsPure.mp ended).1.symm

theorem shapeHeld {shape : Shape Read Node} (ended : ends n.shape s shape t) :
    (∃ v, shape = .scalar v ∧ (dataLayout K a).scalar n v) ∨
      (∃ xs, shape = .sequence ⟨xs,pure ()⟩ ∧ (dataLayout K a).list n xs) ∨
        ∃ xs, shape = .map ⟨xs,pure ()⟩ ∧ (dataLayout K a).object n xs := by
  cases n with
  | scalar tag text style =>
    obtain ⟨v,u,found,last⟩ := endsBind.mp ended
    exact Or.inl ⟨v,(endsPure.mp last).1,tag,text,style,rfl,optionEnds found⟩
  | sequence tag xs =>
    rw [Node.shape] at ended
    split at ended
    · exact absurd ended endsThrow
    · rename_i kept
      exact Or.inr (Or.inl ⟨xs,(endsPure.mp ended).1,tag,rfl,Bool.eq_false_iff.mpr kept⟩)
  | mapping tag xs =>
    rw [Node.shape] at ended
    split at ended
    · exact absurd ended endsThrow
    · rename_i kept
      exact Or.inr (Or.inr ⟨xs,(endsPure.mp ended).1,tag,rfl,Bool.eq_false_iff.mpr kept⟩)
  | _ => exact absurd ended endsThrow

theorem nameHeld {name : String} (ended : ends n.declarationKey s name t) : (dataLayout K a).name n name := by
  obtain ⟨shape,u,first,last⟩ := endsBind.mp ended
  rcases shapeHeld (K := K) (a := a) first with ⟨v,rfl,tag,text,style,rfl,value⟩ | ⟨xs,rfl,-⟩ | ⟨xs,rfl,-⟩
  · cases v with
    | string found =>
      obtain ⟨rfl,_⟩ := endsPure.mp last
      exact ⟨tag,text,style,rfl,value⟩
    | _ => exact absurd last endsThrow
  · exact absurd last endsThrow
  · exact absurd last endsThrow

theorem valueHeld {v : Value} (ended : ends ((reader a).readValue Node.declarationKey depth n) s v t) :
    (dataLayout ⊤ a).Holds depth n v := by
  induction depth generalizing n s v t with
  | zero =>
    rw [Reader.valueEqual] at ended
    obtain ⟨x,w,found,later⟩ := endsBind.mp ended
    obtain ⟨c,leads,_⟩ := leadsExact.mp found
    obtain ⟨shape,u,first,last⟩ := endsBind.mp later
    rcases shapeHeld first with ⟨w,rfl,scalar⟩ | ⟨xs,rfl,-⟩ | ⟨xs,rfl,-⟩
    · obtain ⟨rfl,_⟩ := endsPure.mp last
      exact ⟨c,x,⟨leads,trivial⟩,scalar⟩
    · exact absurd last endsThrow
    · exact absurd last endsThrow
  | succ depth ih =>
    rw [Reader.valueEqual] at ended
    obtain ⟨x,w,found,later⟩ := endsBind.mp ended
    obtain ⟨c,leads,_⟩ := leadsExact.mp found
    obtain ⟨shape,u,first,last⟩ := endsBind.mp later
    refine ⟨c,x,⟨leads,trivial⟩,?_⟩
    rcases shapeHeld first with ⟨w,rfl,scalar⟩ | ⟨xs,rfl,list⟩ | ⟨xs,rfl,object⟩
    · obtain ⟨rfl,_⟩ := endsPure.mp last
      exact Or.inl scalar
    · obtain ⟨vs,_,items,last⟩ := endsBind.mp last
      obtain ⟨_,_,_,last⟩ := endsBind.mp last
      obtain ⟨rfl,_⟩ := endsPure.mp last
      exact Or.inr (.list list (mapMEnds (fun _ _ _ _ _ => ih) items))
    · obtain ⟨es,_,items,last⟩ := endsBind.mp last
      obtain ⟨_,_,_,last⟩ := endsBind.mp last
      obtain ⟨rfl,_⟩ := endsPure.mp last
      refine Or.inr (.object object (mapMEnds ?_ items))
      intro y _ e s t ended
      obtain ⟨k,_,found,later⟩ := endsBind.mp ended
      obtain ⟨c,leads,_⟩ := leadsExact.mp found
      obtain ⟨name,_,key,later⟩ := endsBind.mp later
      obtain ⟨v,_,value,last⟩ := endsBind.mp later
      obtain ⟨rfl,_⟩ := endsPure.mp last
      exact ⟨⟨c,k,⟨leads,trivial⟩,nameHeld key⟩,ih value⟩

theorem absentHeld {b : Bool} (ended : ends n.absent s b t) : b = true ↔ (dataLayout K a).null n := by
  unfold Node.absent at ended
  split at ended
  · rename_i tag text
    by_cases null : tag = some (coreTag "null")
    · rw [if_pos null] at ended
      by_cases word : nullWord text = true
      · rw [if_pos word] at ended
        obtain ⟨rfl,_⟩ := endsPure.mp ended
        exact iff_of_true rfl ⟨tag,text,rfl,Or.inl ⟨null,word⟩⟩
      · rw [if_neg word] at ended
        exact absurd ended endsThrow
    · rw [if_neg null] at ended
      obtain ⟨rfl,_⟩ := endsPure.mp ended
      simp [dataLayout,null,String.isEmpty_iff]
  · rename_i other
    obtain ⟨rfl,_⟩ := endsPure.mp ended
    refine iff_of_false Bool.false_ne_true ?_
    rintro ⟨tag,text,rfl,_⟩
    exact other tag text rfl

theorem declaresExact {declared : Option Declaration} :
    (∃ s t, ends ((reader a).optional ((reader a).readDeclaration depth) n) s declared t) ↔
      (dataLayout ⊤ a).Declares depth n declared := by
  constructor
  · rintro ⟨s,t,ended⟩
    rw [Reader.optional] at ended
    obtain ⟨x,w,found,later⟩ := endsBind.mp ended
    obtain ⟨c,leads,_⟩ := leadsExact.mp found
    obtain ⟨b,u,first,last⟩ := endsBind.mp later
    have null := absentHeld (K := ⊤) (a := a) first
    cases b with
    | true =>
      obtain ⟨rfl,_⟩ := endsPure.mp last
      exact .nothing ⟨leads,trivial⟩ (null.mp rfl)
    | false =>
      rw [if_neg Bool.false_ne_true,Reader.readDeclaration,map_eq_pure_bind,map_eq_pure_bind] at last
      obtain ⟨d,_,read,outer⟩ := endsBind.mp last
      obtain ⟨v,_,value,inner⟩ := endsBind.mp read
      obtain ⟨rfl,_⟩ := endsPure.mp outer
      obtain ⟨rfl,_⟩ := endsPure.mp inner
      have given : ¬ (dataLayout ⊤ a).null x := fun nothing => Bool.false_ne_true (null.mpr nothing)
      exact .something ⟨leads,trivial⟩ given (valueHeld value)
  · intro declares
    obtain ⟨k,_,given⟩ := dataRead.declaresRead declares
    exact ⟨k,0,Nat.zero_add k ▸ given 0⟩

theorem unnamedUnheld {tag : Option String} {xs : List (Node × Node)} {x : Node × Node} (member : x ∈ xs)
    (unnamed : ∀ name, ¬ (dataLayout K a).Named x.1 name) (declared : Option Declaration) :
    ¬ (dataLayout K a).Declares depth (.mapping tag xs) declared := by
  intro declares
  cases declares with
  | nothing leads null =>
    cases leads.1
    obtain ⟨_,_,same,_⟩ := null
    cases same
  | something leads given holds =>
    cases leads.1
    cases depth with
    | zero =>
      obtain ⟨c,t,⟨leads,_⟩,_,_,_,same,_⟩ := holds
      cases leads
      cases same
    | succ depth =>
      obtain ⟨c,t,⟨leads,_⟩,⟨_,_,_,same,_⟩ | collected⟩ := holds
      · cases leads
        cases same
      · cases leads
        cases collected with
        | list list _ =>
          obtain ⟨_,same,_⟩ := list
          cases same
        | object object each =>
          obtain ⟨_,same,_⟩ := object
          cases same
          have names := each.imp fun y e both => (⟨⟨e.1,both.1⟩,both.2⟩ : (∃ name, _) ∧ _)
          obtain ⟨name,named⟩ := ((List.forall₂_and_left ..).mp names).1 x member
          exact unnamed name named

end
end SchemaCheck.Yaml
