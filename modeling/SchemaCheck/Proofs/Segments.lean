/-! Texts cut at slashes. A segment without a slash ends where the next slash stands or the text does, so
that it can be read off the front of a text. -/
namespace SchemaCheck

def SlashFree (s : String) : Prop := '/' ∉ s.toList

instance (s : String) : Decidable (SlashFree s) := by unfold SlashFree; infer_instance

def Cut (cs : List Char) : Prop := ∀ c ∈ cs.head?, c = '/'

theorem segmentTaken {a rest : List Char} (flat : '/' ∉ a) (cut : Cut rest) :
    (a ++ rest).takeWhile (· ≠ '/') = a := by
  have inside : ∀ c ∈ a, decide (c ≠ '/') = true := by
    intro c member
    exact decide_eq_true fun same => flat (same ▸ member)
  rw [List.takeWhile_append_of_pos inside]
  cases rest with
  | nil => simp
  | cons c rest =>
    have slash : c = '/' := cut c rfl
    simp [slash]

theorem segmentUnique {a b s t : List Char} (flatA : '/' ∉ a) (flatB : '/' ∉ b) (cutS : Cut s)
    (cutT : Cut t) (same : a ++ s = b ++ t) : a = b ∧ s = t := by
  have first := congrArg (List.takeWhile (· ≠ '/')) same
  rw [segmentTaken flatA cutS,segmentTaken flatB cutT] at first
  subst first
  exact ⟨rfl,List.append_cancel_left same⟩

theorem startsWithSlash {s : String} : s.startsWith "/" = true ↔ ∃ rest, s.toList = '/' :: rest := by
  have slash : "/".toList = ['/'] := rfl
  rw [String.startsWith_string_iff,slash]
  exact ⟨fun ⟨rest,same⟩ => ⟨rest,same.symm⟩,fun ⟨rest,same⟩ => ⟨rest,same.symm⟩⟩

theorem endsWithSlash {s : String} : s.endsWith "/" = true ↔ ∃ before, s.toList = before ++ ['/'] := by
  have slash : "/".toList = ['/'] := rfl
  rw [String.endsWith_eq_endsWith_toSlice,String.Slice.endsWith_string_iff,String.copy_toSlice,slash]
  exact ⟨fun ⟨before,same⟩ => ⟨before,same.symm⟩,fun ⟨before,same⟩ => ⟨before,same.symm⟩⟩

end SchemaCheck
