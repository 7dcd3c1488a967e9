import FlagEnum.Offer
import Mathlib.Data.List.Perm.Subperm
import Mathlib.Tactic

/-!
# Fresh names

The candidates for the name of a new member are pairwise different and more
than the members can have, so one of them is free and `freshName` never falls
back to its base.
-/

namespace FlagEnum

private theorem decimalDigits_injective : Function.Injective decimalDigits := by
  intro left right same
  have read := congrArg (fun digits => Nat.ofDigitChars 10 digits 0) same
  simpa [decimalDigits] using read

/-- A name with a number behind it. -/
def numbered (base : String) (number : Nat) : String :=
  base ++ String.ofList (decimalDigits number)

/-- Different numbers give different names. -/
theorem numbered_injective (base : String) : Function.Injective (numbered base) := by
  intro left right same
  have names := congrArg String.toList same
  simp only [numbered, String.toList_append, String.toList_ofList] at names
  exact decimalDigits_injective (List.append_cancel_left names)

/-- A numbered name is longer than its base. -/
theorem numbered_ne (base : String) (number : Nat) : numbered base number ≠ base := by
  intro same
  have lengths := congrArg (fun name => name.toList.length) same
  have positive : 0 < (decimalDigits number).length := Nat.length_toDigits_pos
  simp only [numbered, String.toList_append, String.toList_ofList, List.length_append] at lengths
  omega

/-- A base and its numbered names from 2 on are pairwise different. -/
theorem numbered_nodup (base : String) (count : Nat) :
    (base :: (List.range count).map fun index => numbered base (index + 2)).Nodup := by
  refine List.nodup_cons.mpr ⟨?_, List.nodup_range.map ?_⟩
  · intro repeated
    obtain ⟨index, _, same⟩ := List.mem_map.mp repeated
    exact numbered_ne base (index + 2) same
  · intro left right same
    exact Nat.add_right_cancel (numbered_injective base same)

namespace Declaration

variable {declaration : Declaration}

/-- A declared name is that of a member. -/
theorem declares_iff {name : String} :
    declaration.declares name = true ↔ name ∈ declaration.members.map Member.name := by
  simp [declares]

/-- Different names, more than there are members, are not all declared. -/
theorem exists_undeclared {names : List String} (distinct : names.Nodup)
    (more : declaration.members.length < names.length) :
    ∃ name ∈ names, declaration.declares name = false := by
  by_contra none
  have covered : names ⊆ declaration.members.map Member.name := by
    intro name candidate
    rw [← declares_iff]
    by_contra undeclared
    exact none ⟨name, candidate, by simpa using undeclared⟩
  have crowded := (List.subperm_of_subset distinct covered).length_le
  rw [List.length_map] at crowded
  omega

/-- The candidates are the base and its numbered names, from two on. -/
theorem nameCandidates_eq (declaration : Declaration) (base : String) :
    declaration.nameCandidates base =
      base :: (List.range (declaration.members.length + 1)).map fun index =>
        numbered base (index + 2) :=
  rfl

/-- The list of candidates is never used up. -/
theorem find?_nameCandidates (declaration : Declaration) (base : String) :
    (declaration.nameCandidates base).find? (fun name => !declaration.declares name) =
      some (declaration.freshName base) := by
  obtain ⟨free, candidate, undeclared⟩ := @exists_undeclared declaration _
    (numbered_nodup base (declaration.members.length + 1)) (by simp)
  have isSome : ((declaration.nameCandidates base).find? fun name =>
      !declaration.declares name).isSome := by
    rw [List.find?_isSome]
    exact ⟨free, candidate, by simp [undeclared]⟩
  obtain ⟨name, found⟩ := Option.isSome_iff_exists.mp isSome
  rw [freshName, found, Option.getD_some]

/-- The name found for a new member is no member's name yet. -/
theorem freshName_fresh (declaration : Declaration) (base : String) :
    declaration.freshName base ∉ declaration.members.map Member.name := by
  have fresh := List.find?_some (declaration.find?_nameCandidates base)
  rw [← declares_iff]
  simpa using fresh

end Declaration

end FlagEnum
