import Mathlib.Data.List.Basic
import SchemaCheck.Document.Check

/-! Texts on one line. Whatever is in a value, its dump has no line feed, since texts are quoted and numbers
are made of digits. -/
namespace SchemaCheck

def Unbroken (s : String) : Prop := '\n' ∉ s.toList

instance (s : String) : Decidable (Unbroken s) := by unfold Unbroken; infer_instance

theorem Unbroken.append {a b : String} (left : Unbroken a) (right : Unbroken b) : Unbroken (a ++ b) := by
  simpa [Unbroken] using ⟨left,right⟩

theorem unbrokenChars {cs : List Char} : Unbroken (String.ofList cs) ↔ '\n' ∉ cs := by
  rw [Unbroken,String.toList_ofList]

theorem Unbroken.intercalate {between : String} (separator : Unbroken between) {ss : List String}
    (each : ∀ s ∈ ss, Unbroken s) : Unbroken (between.intercalate ss) := by
  induction ss with
  | nil => simp [Unbroken]
  | cons s rest ih =>
    obtain ⟨own,later⟩ := List.forall_mem_cons.mp each
    cases rest with
    | nil => simpa using own
    | cons t rest =>
      rw [String.intercalate_cons_cons]
      exact (own.append separator).append (ih later)

/-! ## Numbers -/

theorem digitUnbroken : ∀ n < 16, Nat.digitChar n ≠ '\n' := by decide

theorem digitsUnbroken {base : Nat} (positive : 0 < base) (few : base ≤ 16) (n : Nat) :
    '\n' ∉ Nat.toDigits base n := by
  have core : ∀ fuel n ds, '\n' ∉ ds → '\n' ∉ Nat.toDigitsCore base fuel n ds := by
    intro fuel
    induction fuel with
    | zero => exact fun _ _ unbroken => unbroken
    | succ fuel ih =>
      intro n ds unbroken
      have digit := digitUnbroken _ (Nat.lt_of_lt_of_le (Nat.mod_lt n positive) few)
      have longer := List.not_mem_cons_of_ne_of_not_mem digit.symm unbroken
      rw [Nat.toDigitsCore]
      split
      · exact longer
      · exact ih _ _ longer
  exact core _ _ _ List.not_mem_nil

theorem decimalUnbroken (n : Nat) : '\n' ∉ Nat.toDigits 10 n := digitsUnbroken (by decide) (by decide) n

theorem naturalUnbroken (n : Nat) : Unbroken (toString n) := by
  rw [Nat.toString_eq_ofList_toDigits]
  exact unbrokenChars.mpr (decimalUnbroken n)

theorem integerUnbroken (n : Int) : Unbroken (toString n) := by
  cases n with
  | ofNat n => exact naturalUnbroken n
  | negSucc n => exact .append (by decide) (naturalUnbroken (n + 1))

namespace Decimal

theorem writeDigitsUnbroken (layout : Layout) (d : Digits) : Unbroken (layout.writeDigits d) := by
  have digits := decimalUnbroken d.digits
  have zeros : ∀ n, '\n' ∉ List.replicate n '0' := by simp
  have inside : ∀ {ds : List Char}, ds.Sublist (Nat.toDigits 10 d.digits) → '\n' ∉ ds :=
    fun part member => digits (part.subset member)
  simp only [Layout.writeDigits]
  split
  · split
    · exact .append (unbrokenChars.mpr (List.not_mem_append digits (zeros _))) (by decide)
    · split
      · exact .append (by decide) (unbrokenChars.mpr (List.not_mem_append (zeros _) digits))
      · refine .append (.append (unbrokenChars.mpr ?_) (by decide)) (unbrokenChars.mpr ?_)
        · exact inside (List.take_sublist ..)
        · exact inside (List.drop_sublist ..)
  · refine .append (.append (.append ?_ (by decide)) ?_) (naturalUnbroken _)
    · split
      · decide
      · rename_i c same
        exact unbrokenChars.mpr (same ▸ digits)
      · rename_i c cs _ same
        rw [same] at digits
        rw [unbrokenChars]
        simpa using digits
    · split <;> decide

theorem writeUnbroken (layout : Layout) (x : Binary64) : Unbroken (layout.write x) := by
  have body : Unbroken (if x.isZero then "0.0" else layout.writeDigits (shortest x)) := by
    split
    · decide
    · exact writeDigitsUnbroken layout _
  simp only [Layout.write]
  cases x.negative with
  | false => exact body
  | true => exact .append (by decide) body

end Decimal

theorem Binary64.textUnbroken (x : Binary64) : Unbroken x.text := by
  unfold text
  split
  · exact Decimal.writeUnbroken _ x
  · repeat' split
    all_goals decide

/-! ## Quoted texts and values -/

theorem Text.quotedCharUnbroken (c : Char) : '\n' ∉ quotedChar c := by
  unfold quotedChar
  split
  all_goals try decide
  rename_i other _ _
  split
  · simpa using Ne.symm other
  · have hex : '\n' ∉ hexDigits c.toNat := digitsUnbroken (by decide) (by decide) c.toNat
    simp [hex]

theorem Text.quotedUnbroken (s : String) : Unbroken (quoted s) := by
  have inner : '\n' ∉ s.toList.flatMap quotedChar := by
    intro member
    obtain ⟨c,_,inside⟩ := List.mem_flatMap.mp member
    exact quotedCharUnbroken c inside
  rw [quoted,unbrokenChars]
  simpa using inner

namespace Value
open Text

mutual

theorem dumpUnbroken : ∀ v : Value, Unbroken v.dump
  | .null => by decide
  | .bool b => by cases b <;> decide
  | .int n => .append (.append (by decide) (integerUnbroken n)) (by decide)
  | .float x => .append (.append (by decide) x.textUnbroken) (by decide)
  | .string s => .append (.append (by decide) (quotedUnbroken s)) (by decide)
  | .array items => .append (.append (by decide) (dumpItemsUnbroken items)) (by decide)
  | .object members => .append (.append (by decide) (dumpMembersUnbroken members)) (by decide)

theorem dumpItemsUnbroken : ∀ vs : List Value, Unbroken (dumpItems vs)
  | [] => by decide
  | [v] => dumpUnbroken v
  | v :: w :: rest => .append (.append (dumpUnbroken v) (by decide)) (dumpItemsUnbroken (w :: rest))

theorem dumpMembersUnbroken : ∀ ms : List (String × Value), Unbroken (dumpMembers ms)
  | [] => by decide
  | [(k,v)] => .append (.append (quotedUnbroken k) (by decide)) (dumpUnbroken v)
  | (k,v) :: w :: rest =>
    .append (.append (.append (.append (quotedUnbroken k) (by decide)) (dumpUnbroken v)) (by decide))
      (dumpMembersUnbroken (w :: rest))

end

end Value

theorem Declaration.dumpUnbroken (t : Declaration) : Unbroken t.dump := by
  cases t with
  | name s => exact .append (.append (by decide) (Text.quotedUnbroken s)) (by decide)
  | names ss =>
    refine .append (.append (by decide) (.intercalate (by decide) ?_)) (by decide)
    exact List.forall_mem_map.mpr fun s _ => Text.quotedUnbroken s
  | other v => exact .append (.append (by decide) v.dumpUnbroken) (by decide)

end SchemaCheck
