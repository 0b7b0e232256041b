import SchemaCheck.Proofs.TypedReading
import SchemaCheck.Proofs.YamlData

/-! YAML texts with `type` members added. What is added may push the anchors of the rest to other places, and
they may be numbered anew, so nodes are compared by what stands behind them. -/
namespace SchemaCheck.Yaml

def Stands (a : Anchors) (n : Node) (c : Nat) (t : Node) : Prop := Leads a n c t ∧ ∀ k, t ≠ .alias k

inductive SameOpened (D : Node → Node → Prop) : Node → Node → Prop where
  | scalar (tag : Option String) (s : String) (style : Style) :
      SameOpened D (.scalar tag s style) (.scalar tag s style)
  | sequence (tag : Option String) {xs ys : List Node} (each : List.Forall₂ D xs ys) :
      SameOpened D (.sequence tag xs) (.sequence tag ys)
  | mapping (tag : Option String) {xs ys : List (Node × Node)}
      (each : List.Forall₂ (fun x y => D x.1 y.1 ∧ D x.2 y.2) xs ys) :
      SameOpened D (.mapping tag xs) (.mapping tag ys)

def Near (a a' : Anchors) (O : Node → Node → Prop) (n n' : Node) : Prop :=
  ∃ c t t', Stands a n c t ∧ Stands a' n' c t' ∧ O t t'

def Same (a a' : Anchors) : Nat → Node → Node → Prop
  | 0 => Near a a' (SameOpened fun _ _ => False)
  | depth + 1 => Near a a' (SameOpened (Same a a' depth))

def Inside (a a' : Anchors) : Nat → Node → Node → Prop
  | 0 => fun _ _ => False
  | depth + 1 => Same a a' depth

def layout (K : AddSubmonoid Nat) (a a' : Anchors) : Layout Node where
  stands := Stands a
  stands' := Stands a'
  leaf n := ∃ tag s style, n = .scalar tag s style
  items n xs := ∃ tag, n = .sequence tag xs
  members n xs := ∃ tag, n = .mapping tag xs
  text n s := ∃ tag style, n = .scalar tag s style
  blank n := ∃ tag, n = .scalar (some tag) "" .plain ∧ tag ≠ coreTag "null"
  data := Same a a'
  unread _ _ := True
  declared := (dataLayout K a').Declares

variable {K : AddSubmonoid Nat} {a a' : Anchors}

theorem standsPlain {n t : Node} {c : Nat} (stands : Stands a n c t) : Stands a t 0 t :=
  ⟨.itself stands.2,stands.2⟩

theorem standsGives {n t : Node} {c : Nat} (stands : Stands a n c t) (s : Nat) :
    ends (resolve a n) (s + c) t s :=
  leadsExact.mpr ⟨c,stands.1,rfl⟩

theorem standsOnly {n t x : Node} {c s u : Nat} (stands : Stands a n c t) (ended : ends (resolve a n) s x u) :
    x = t ∧ s = u + c := by
  obtain ⟨d,leads,rfl⟩ := leadsExact.mp ended
  obtain ⟨rfl,rfl⟩ := leadsUnique leads stands.1
  exact ⟨rfl,rfl⟩

theorem resolvedBoth {n n' t t' : Node} {c : Nat} (old : Stands a n c t) (new : Stands a' n' c t') :
    Follows K (fun x y => x = t ∧ y = t') (resolve a n) (resolve a' n') :=
  .ofEnds (fun _ _ _ => standsOnly old) (standsGives new)

theorem optionSame {o : Option α} : Follows K (· = ·) (ofOption o) (ofOption o) := by
  cases o with
  | none => exact .thrown
  | some x => exact .pure rfl

section
variable {D : Node → Node → Prop} {t t' : Node} (opened : SameOpened D t t')
include opened

theorem absentSame : Follows K (· = ·) t.absent t'.absent := by
  cases opened with
  | scalar tag s style =>
    unfold Node.absent
    split
    · split_ifs <;> first | exact .pure rfl | exact .thrown
    · exact .pure rfl
  | sequence tag each => exact .pure rfl
  | mapping tag each => exact .pure rfl

theorem textSame : Follows K (· = ·) t.text t'.text := by
  cases opened with
  | scalar tag s style => exact .pure rfl
  | sequence tag each => exact .thrown
  | mapping tag each => exact .thrown

theorem typedSame (name : String) : Follows K (· = ·) (t.typed name) (t'.typed name) := by
  cases opened with
  | scalar tag s style =>
    cases style with
    | plain => exact .pure rfl
    | literal =>
      by_cases named : tag = some (coreTag name)
      · rw [Node.typed,if_pos named]
        exact .pure rfl
      · rw [Node.typed,if_neg named]
        exact .thrown
    | _ => exact .thrown
  | sequence tag each => exact .thrown
  | mapping tag each => exact .thrown

theorem floatSame : Follows K (· = ·) t.float t'.float :=
  (typedSame opened "float").bind fun _ _ same => same ▸ optionSame

theorem lengthSame : Follows K (· = ·) t.length t'.length := by
  refine (typedSame opened "int").bind fun s _ same => ?_
  subst same
  refine optionSame.bind fun k _ same => ?_
  subst same
  split_ifs
  · exact .pure rfl
  · exact .thrown

theorem shapeSame {R : α → β → Prop} {f : Shape Read Node → Read α} {f' : Shape Read Node → Read β}
    (scalar : ∀ v, Follows K R (f (.scalar v)) (f' (.scalar v)))
    (sequence : ∀ xs ys, List.Forall₂ D xs ys →
      Follows K R (f (.sequence ⟨xs,pure ()⟩)) (f' (.sequence ⟨ys,pure ()⟩)))
    (map : ∀ xs ys, List.Forall₂ (fun x y => D x.1 y.1 ∧ D x.2 y.2) xs ys →
      Follows K R (f (.map ⟨xs,pure ()⟩)) (f' (.map ⟨ys,pure ()⟩))) :
    Follows K R (t.shape >>= f) (t'.shape >>= f') := by
  cases opened with
  | scalar tag s style =>
    rw [Node.shape,bind_assoc,bind_assoc]
    refine optionSame.bind fun v _ same => ?_
    subst same
    rw [pure_bind,pure_bind]
    exact scalar v
  | sequence tag each =>
    rw [Node.shape,Node.shape]
    split_ifs
    · exact Follows.thrown.bind fun _ _ => False.elim
    · exact sequence _ _ each
  | mapping tag each =>
    rw [Node.shape,Node.shape]
    split_ifs
    · exact Follows.thrown.bind fun _ _ => False.elim
    · exact map _ _ each

theorem declarationKeySame : Follows K (· = ·) t.declarationKey t'.declarationKey := by
  refine shapeSame opened (fun v => ?_) (fun _ _ _ => .thrown) (fun _ _ _ => .thrown)
  cases v with
  | string s => exact .pure rfl
  | _ => exact .thrown

end

section
variable {n n' : Node} {depth : Nat} (same : Same a a' depth n n')
include same

theorem sameRead {R : α → β → Prop} {f : Node → Read α} {f' : Node → Read β}
    (each : ∀ t t', SameOpened (Inside a a' depth) t t' → Same a a' depth t t' → Follows K R (f t) (f' t')) :
    Follows K R (resolve a n >>= f) (resolve a' n' >>= f') := by
  have whole : Same a a' depth = Near a a' (SameOpened (Inside a a' depth)) := by cases depth <;> rfl
  have apart := same
  rw [whole] at apart
  obtain ⟨c,t,t',old,new,opened⟩ := apart
  refine (resolvedBoth old new).bind fun x y both => ?_
  obtain ⟨rfl,rfl⟩ := both
  refine each _ _ opened ?_
  rw [whole]
  exact ⟨0,_,_,standsPlain old,standsPlain new,opened⟩

theorem sameOptional {f f' : Node → Read α}
    (each : ∀ t t', Same a a' depth t t' → Follows K (· = ·) (f t) (f' t')) :
    Follows K (· = ·) ((reader a).optional f n) ((reader a').optional f' n') := by
  refine sameRead same fun t t' opened both => ?_
  refine (absentSame opened).bind fun b _ same => ?_
  subst same
  cases b with
  | true => exact .pure rfl
  | false => exact (each t t' both).map fun _ _ same => congrArg some same

end

theorem textRead {n n' : Node} {depth : Nat} (same : Same a a' depth n n') :
    Follows K (· = ·) ((reader a).readText n) ((reader a').readText n') :=
  sameRead same fun _ _ opened _ => textSame opened

theorem listedSame (tag : Option String) (s : String) (style : Style) :
    Follows K (fun c c' => c = none ∧ c' = none) (Node.listed (.scalar tag s style))
      (Node.listed (.scalar tag s style)) := by
  unfold Node.listed
  split
  · contradiction
  · exact .pure ⟨rfl,rfl⟩
  · exact .thrown

theorem keyedSame (tag : Option String) (s : String) (style : Style) :
    Follows K (fun c c' => c = none ∧ c' = none) (Node.keyed (.scalar tag s style))
      (Node.keyed (.scalar tag s style)) := by
  unfold Node.keyed
  split
  · contradiction
  · exact .pure ⟨rfl,rfl⟩
  · exact .thrown

theorem textsRead {n n' : Node} {depth : Nat} (same : Same a a' depth n n') :
    Follows K (· = ·) ((reader a).readList (fun _ => (reader a).readText) depth n)
      ((reader a').readList (fun _ => (reader a').readText) depth n') := by
  refine sameRead same fun t t' opened _ => ?_
  cases opened with
  | scalar tag s style =>
    refine (listedSame tag s style).bind fun c c' none => ?_
    obtain ⟨rfl,rfl⟩ := none
    exact .pure rfl
  | sequence tag each =>
    cases depth with
    | zero => exact .thrown
    | succ depth =>
      have opens : ∀ (a : Anchors) (xs : List Node),
          (reader a).sequence (.sequence tag xs) = pure (some ⟨xs,pure ()⟩) := fun _ _ => rfl
      rw [opens,opens,pure_bind,pure_bind]
      refine (Follows.mapM each fun _ _ => textRead).bind fun xs ys same => ?_
      rw [List.forall₂_eq_eq_eq] at same
      exact .pure same
  | mapping tag each => exact .thrown

theorem valueRead {key : Node → Read String}
    (keys : ∀ {D t t'}, SameOpened D t t' → Follows K (· = ·) (key t) (key t')) {n n' : Node} {depth : Nat}
    (same : Same a a' depth n n') :
    Follows K (· = ·) ((reader a).readValue key depth n) ((reader a').readValue key depth n') := by
  induction depth generalizing n n' with
  | zero =>
    rw [Reader.valueEqual,Reader.valueEqual]
    exact sameRead same fun t t' opened _ =>
      shapeSame opened (fun v => .pure rfl) (fun _ _ _ => .thrown) fun _ _ _ => .thrown
  | succ depth ih =>
    rw [Reader.valueEqual,Reader.valueEqual]
    refine sameRead same fun t t' opened _ => shapeSame opened (fun v => .pure rfl) ?_ ?_
    · intro xs ys each
      refine (Follows.mapM each fun _ _ => ih).bind fun vs ws same => ?_
      rw [List.forall₂_eq_eq_eq] at same
      exact .pure (same ▸ rfl)
    · intro xs ys each
      refine (Follows.mapM (R := (· = ·)) each ?_).bind fun es fs same => ?_
      · rintro x y ⟨name,value⟩
        refine sameRead name fun t t' opened _ => (keys opened).bind fun k _ same => ?_
        subst same
        exact (ih value).bind fun v _ same => .pure (same ▸ rfl)
      · rw [List.forall₂_eq_eq_eq] at same
        exact .pure (same ▸ rfl)

theorem layoutRead : (layout K a a').Read K (reader a) (reader a') where
  stood stands := ⟨standsPlain stands,fun _ _ _ => standsOnly stands⟩
  stood' stands := ⟨standsPlain stands,standsGives stands⟩
  leafAbsent := by
    rintro n ⟨tag,s,style,rfl⟩
    exact absentSame (D := Eq) (.scalar tag s style)
  leafSequence := by
    rintro n ⟨tag,s,style,rfl⟩
    exact listedSame tag s style
  leafMap := by
    rintro n ⟨tag,s,style,rfl⟩
    exact keyedSame tag s style
  leafRecord := by
    rintro n ⟨tag,s,style,rfl⟩ w
    refine (keyedSame tag s style).bind fun c c' none => ?_
    obtain ⟨rfl,rfl⟩ := none
    exact .pure ⟨rfl,rfl⟩
  blankRecord := by
    rintro n ⟨tag,rfl,given⟩
    refine ⟨?_,rfl⟩
    exact if_neg fun same => given (Option.some.inj same)
  itemsAbsent := by
    rintro n xs ⟨tag,rfl⟩
    exact ⟨rfl,rfl⟩
  itemsSequence := by
    rintro n xs ⟨tag,rfl⟩
    exact ⟨rfl,rfl⟩
  itemsRecord := by
    rintro n n' xs ys ⟨tag,rfl⟩ ⟨tag',rfl⟩ w
    exact .thrown
  membersAbsent := by
    rintro n xs ⟨tag,rfl⟩
    exact ⟨rfl,rfl⟩
  membersMap := by
    rintro n xs ⟨tag,rfl⟩
    exact ⟨rfl,rfl⟩
  membersRecord := by
    rintro n xs ⟨tag,rfl⟩ w
    exact ⟨rfl,rfl⟩
  keyText := by
    rintro n name ⟨tag,style,rfl⟩
    exact ⟨rfl,rfl⟩
  skipped _ := .pure rfl
  dataText := textRead
  dataNumber same := sameOptional same fun _ _ same => sameRead same fun _ _ opened _ => floatSame opened
  dataLength same := sameRead same fun _ _ opened _ => lengthSame opened
  dataTexts := textsRead
  dataValue same := sameOptional same fun _ _ => valueRead textSame
  dataDeclaration same := sameOptional same fun _ _ same =>
    (valueRead declarationKeySame same).map fun _ _ => congrArg Declaration.ofValue
  declared := dataRead.declaresRead

end SchemaCheck.Yaml
