import FlagEnum.Proofs.FreshName
import Mathlib.Order.Bounds.Basic

/-!
# The search for a name, counted in 32 bits

`freshName` takes the first free name of a list that is made long enough for the
members. Here the same name is found by a search that knows of no such length.
It counts a 32-bit suffix upwards until it meets a name that no member has, and
would fail where the suffix has no successor. A declaration with fewer members
than there are suffixes ends it before.
-/

namespace FlagEnum

/-- Where a search for a name stands. -/
inductive NameSearch where
  /-- This suffix is tried next. -/
  | trying (suffix : UInt32)
  | found (name : String)
  /-- The suffix would have wrapped. -/
  | overflowed
deriving DecidableEq, Repr

/-- Tries one suffix. The suffix after it is counted first, and must exist. -/
def NameSearch.step (declaration : Declaration) (base : String) : NameSearch → NameSearch
  | trying suffix =>
    if suffix + 1 = 0 then overflowed
    else if declaration.declares (numbered base suffix.toNat) then trying (suffix + 1)
    else found (numbered base suffix.toNat)
  | found name => found name
  | overflowed => overflowed

namespace Declaration

/-- The search for a numbered name after some steps. It starts at 2. -/
def nameSearch (declaration : Declaration) (base : String) (steps : Nat) : NameSearch :=
  (NameSearch.step declaration base)^[steps] (.trying 2)

/-- The numbers from 2 on that make an undeclared name of the base. -/
def freeNumbers (declaration : Declaration) (base : String) : Set Nat :=
  {number | 2 ≤ number ∧ declaration.declares (numbered base number) = false}

variable {declaration : Declaration} {base : String} {suffix : Nat}

/-! ## The least free number -/

/-- The base and its numbered names up to one more than there are members are
too many to be all declared. -/
theorem exists_freeNumber (taken : declaration.declares base = true) :
    ∃ number ∈ declaration.freeNumbers base, number ≤ declaration.members.length + 1 := by
  obtain ⟨name, candidate, undeclared⟩ := @exists_undeclared declaration _
    (numbered_nodup base declaration.members.length) (by simp)
  rcases List.mem_cons.mp candidate with rfl | isNumbered
  · rw [taken] at undeclared
    cases undeclared
  · obtain ⟨index, inside, rfl⟩ := List.mem_map.mp isNumbered
    have bounded := List.mem_range.mp inside
    exact ⟨index + 2, ⟨by omega, undeclared⟩, by omega⟩

/-- Where the base is taken, there is a least number that is free, at most one
above the number of members. -/
theorem exists_least_freeNumber (taken : declaration.declares base = true) :
    ∃ suffix, IsLeast (declaration.freeNumbers base) suffix ∧
      suffix ≤ declaration.members.length + 1 := by
  obtain ⟨number, isFree, bounded⟩ := exists_freeNumber taken
  have anyFree : ∃ number, number ∈ declaration.freeNumbers base := ⟨number, isFree⟩
  classical
  exact ⟨Nat.find anyFree, ⟨Nat.find_spec anyFree, fun _ other => Nat.find_min' anyFree other⟩,
    (Nat.find_min' anyFree isFree).trans bounded⟩

private theorem declares_of_lt (least : IsLeast (declaration.freeNumbers base) suffix)
    {number : Nat} (counted : 2 ≤ number) (below : number < suffix) :
    declaration.declares (numbered base number) = true := by
  by_contra undeclared
  have isFree : number ∈ declaration.freeNumbers base := ⟨counted, by simpa using undeclared⟩
  have above := least.2 isFree
  omega

/-- A base that is free is the fresh name. -/
theorem freshName_of_undeclared (free : declaration.declares base = false) :
    declaration.freshName base = base := by
  have found := declaration.find?_nameCandidates base
  rw [nameCandidates_eq, List.find?_cons_of_pos (by simp [free]), Option.some.injEq] at found
  exact found.symm

/-- A base that is taken gets the least number that is free. -/
theorem freshName_of_declared (taken : declaration.declares base = true)
    (least : IsLeast (declaration.freeNumbers base) suffix)
    (bounded : suffix ≤ declaration.members.length + 1) :
    declaration.freshName base = numbered base suffix := by
  obtain ⟨counted, undeclared⟩ := least.1
  have first : (List.range (declaration.members.length + 1)).find?
      (fun index => !declaration.declares (numbered base (index + 2))) = some (suffix - 2) := by
    refine List.find?_range_eq_some.mpr ⟨?_, List.mem_range.mpr (by omega), ?_⟩
    · rw [Nat.sub_add_cancel counted, undeclared]
      rfl
    · intro index earlier
      rw [declares_of_lt least (by omega) (by omega)]
      rfl
  have found := declaration.find?_nameCandidates base
  rw [nameCandidates_eq, List.find?_cons_of_neg (by simp [taken]), List.find?_map,
    Function.comp_def, first, Option.map_some, Option.some.injEq,
    Nat.sub_add_cancel counted] at found
  exact found.symm

/-! ## One step -/

/-- Below the last suffix, a step moves on from a declared name and stops at any
other. -/
theorem step_trying {number : Nat} (small : number + 1 < 2 ^ 32) :
    NameSearch.step declaration base (.trying (.ofNat number)) =
      if declaration.declares (numbered base number) then .trying (.ofNat (number + 1))
      else .found (numbered base number) := by
  have next : UInt32.ofNat number + 1 = UInt32.ofNat (number + 1) := (UInt32.ofNat_add ..).symm
  have counts : UInt32.ofNat (number + 1) ≠ 0 := by
    intro wraps
    have isZero := congrArg UInt32.toNat wraps
    rw [UInt32.toNat_ofNat_of_lt' small] at isZero
    cases isZero
  have value : (UInt32.ofNat number).toNat = number :=
    UInt32.toNat_ofNat_of_lt' (Nat.lt_of_succ_lt small)
  rw [NameSearch.step, next, if_neg counts, value]

/-! ## The whole search -/

private theorem nameSearch_succ (declaration : Declaration) (base : String) (steps : Nat) :
    declaration.nameSearch base (steps + 1) =
      NameSearch.step declaration base (declaration.nameSearch base steps) :=
  Function.iterate_succ_apply' ..

/-- As long as all names tried are declared, the suffix counts the steps. -/
theorem nameSearch_trying (least : IsLeast (declaration.freeNumbers base) suffix)
    (small : suffix + 1 < 2 ^ 32) {steps : Nat} (earlier : steps + 2 ≤ suffix) :
    declaration.nameSearch base steps = .trying (.ofNat (steps + 2)) := by
  induction steps with
  | zero => rfl
  | succ steps inductionHypothesis =>
    rw [nameSearch_succ, inductionHypothesis (by omega), step_trying (by omega),
      declares_of_lt least (by omega) (by omega)]
    rfl

/-- The search ends at the least number that is free, if that is small enough to
count past. -/
theorem nameSearch_found (least : IsLeast (declaration.freeNumbers base) suffix)
    (small : suffix + 1 < 2 ^ 32) {steps : Nat} (later : suffix < steps + 2) :
    declaration.nameSearch base steps = .found (numbered base suffix) := by
  obtain ⟨counted, undeclared⟩ := least.1
  induction steps with
  | zero => omega
  | succ steps inductionHypothesis =>
    rw [nameSearch_succ]
    by_cases last : steps + 2 = suffix
    · rw [nameSearch_trying least small last.le, last, step_trying small, undeclared]
      rfl
    · rw [inductionHypothesis (by omega)]
      rfl

/-- A name found for a base is new. It is the base itself where that is free, and
else the base with the least free number from 2 on, which is at most one more
than there are members. A search with a 32-bit suffix finds it before the suffix
wraps, and neither search falls back to a declared base. -/
theorem freshName_least (few : declaration.members.length < 2 ^ 32 - 3) (base : String) :
    declaration.freshName base ∉ declaration.members.map Member.name ∧
    (declaration.freshName base = base ↔ declaration.declares base = false) ∧
    (declaration.nameCandidates base).find? (fun name => !declaration.declares name) =
      some (declaration.freshName base) ∧
    (declaration.declares base = true → ∃ suffix,
      IsLeast (declaration.freeNumbers base) suffix ∧
      suffix ≤ declaration.members.length + 1 ∧
      declaration.freshName base = numbered base suffix ∧
      declaration.nameSearch base (suffix - 1) = .found (declaration.freshName base) ∧
      ∀ steps, declaration.nameSearch base steps ≠ .overflowed) := by
  refine ⟨declaration.freshName_fresh base, ⟨?_, freshName_of_undeclared⟩,
    declaration.find?_nameCandidates base, ?_⟩
  · intro same
    have fresh := declaration.freshName_fresh base
    rw [same, ← declares_iff] at fresh
    simpa using fresh
  · intro taken
    obtain ⟨suffix, least, bounded⟩ := exists_least_freeNumber taken
    have counted := least.1.1
    have small : suffix + 1 < 2 ^ 32 := by omega
    have name := freshName_of_declared taken least bounded
    refine ⟨suffix, least, bounded, name, ?_, ?_⟩
    · rw [name, nameSearch_found least small (by omega)]
    · intro steps
      by_cases earlier : steps + 2 ≤ suffix
      · rw [nameSearch_trying least small earlier]
        nofun
      · rw [nameSearch_found least small (by omega)]
        nofun

/-- A gap between numbered names is found, past one that two members share. -/
theorem freshName_least_gap :
    let declaration : Declaration :=
      { name := "Access"
        members := [⟨"Flag", some 1⟩, ⟨"Flag4", none⟩, ⟨"Flag2", none⟩, ⟨"Flag2", some 2⟩] }
    declaration.members.length < 2 ^ 32 - 3 ∧ declaration.declares "Flag" = true ∧
      declaration.freshName "Flag" = "Flag3" ∧
      IsLeast (declaration.freeNumbers "Flag") 3 ∧
      declaration.nameSearch "Flag" 2 = .found "Flag3" := by
  intro declaration
  have few : declaration.members.length < 2 ^ 32 - 3 := by decide
  have taken : declaration.declares "Flag" = true := by decide
  have name : declaration.freshName "Flag" = "Flag3" := by decide
  obtain ⟨suffix, least, _, isName, found, _⟩ := (freshName_least few "Flag").2.2.2 taken
  obtain rfl : suffix = 3 := numbered_injective "Flag" (isName.symm.trans name)
  exact ⟨few, taken, name, least, name ▸ found⟩

end Declaration

end FlagEnum
