import FlagEnum.Proofs.Recording

/-!
# Recorded declarations are complete

An assignment has a value for the name of every member without one, so nothing
is left to assign once it is recorded, whatever policy asks next. Values are
looked up by name, and recording changes no name; the same values can therefore
be recorded again without effect. Neither needs the names to be distinct.
-/

namespace FlagEnum

namespace Declaration

variable {declaration : Declaration} {policy : Policy} {offers : List NamedFlag}

/-- Every member has a value. -/
def Complete (declaration : Declaration) : Prop :=
  ∀ member ∈ declaration.members, member.value ≠ none

/-- A complete declaration leaves nothing to assign. -/
theorem complete_iff :
    declaration.Complete ↔ declaration.unknowns Member.value = [] := by
  simp [Complete, unknowns]

/-- A complete declaration of flags is assigned nothing, which is not to decline. -/
theorem Complete.assign (complete : declaration.Complete) {domain : Domain}
    (offered : declaration.offerDomain? = some domain) (policy : Policy) :
    declaration.assign Member.value policy = some [] := by
  refine assign_eq_some_iff.mpr ⟨domain, offered, ?_⟩
  rw [complete_iff.mp complete]
  rfl

/-- Only the kind and the type of an enumeration decide about its domain. -/
theorem SameFrame.offerDomain? {after : Declaration} (frame : declaration.SameFrame after) :
    after.offerDomain? = declaration.offerDomain? := by
  rw [Declaration.offerDomain?, Declaration.offerDomain?, Declaration.domain, Declaration.domain,
    frame.isFlags, frame.typeName]

/-- Recording an assignment completes a declaration. -/
theorem record_complete (assigned : declaration.assign Member.value policy = some offers) :
    (declaration.record offers).Complete := by
  intro updated isUpdated unvalued
  obtain ⟨member, isMember, rfl⟩ := List.mem_map.mp isUpdated
  split at unvalued
  · cases unvalued
  · next unoffered =>
    exact (offeredValue?_eq_none_iff assigned).mp unoffered member isMember rfl unvalued

private theorem record_nil (declaration : Declaration) : declaration.record [] = declaration := by
  simp [record, offeredValue?]

/-- Recording the same offers again changes nothing. -/
theorem record_record (declaration : Declaration) (offers : List NamedFlag) :
    (declaration.record offers).record offers = declaration.record offers := by
  simp only [record, List.map_map]
  congr 1
  apply List.map_congr_left
  intro member _
  cases offered : offeredValue? offers member.name with
  | none => simp [offered]
  | some value => simp [offered]

/-- Recording an assignment gives every member a value. A further assignment
under any policy then has nothing to add, and neither recording that nothing nor
recording the same values again changes the declaration. -/
theorem record_settles (assigned : declaration.assign Member.value policy = some offers) :
    let updated := declaration.record offers
    (∀ member ∈ updated.members, ∃ value, member.value = some value) ∧
      (∀ next : Policy, updated.assign Member.value next = some []) ∧
      updated.record [] = updated ∧ updated.record offers = updated := by
  intro updated
  have complete : updated.Complete := record_complete assigned
  obtain ⟨domain, offered, _⟩ := assign_eq_some_iff.mp assigned
  have stillOffered : updated.offerDomain? = some domain :=
    (record_sameFrame declaration offers).offerDomain?.trans offered
  refine ⟨?_, complete.assign stillOffered, record_nil updated, record_record declaration offers⟩
  intro member isMember
  exact Option.ne_none_iff_exists'.mp (complete member isMember)

/-- Of two values for members of one name the first goes to all three of them,
and even so nothing is left to assign. -/
theorem record_settles_repeated :
    let crowded : Declaration :=
      { name := "Crowded"
        typeName := "sbyte"
        isFlags := true
        members := [⟨"A", none⟩, ⟨"A", some 16⟩, ⟨"A", none⟩] }
    let offers : List NamedFlag := [⟨"A", ⟨.sbyte, 32⟩⟩, ⟨"A", ⟨.sbyte, 64⟩⟩]
    let updated := crowded.record offers
    crowded.assign Member.value .aboveHighest = some offers ∧
      updated.members = [⟨"A", some 32⟩, ⟨"A", some 32⟩, ⟨"A", some 32⟩] ∧
      updated.assign Member.value .lowestFree = some [] ∧ updated.record offers = updated := by
  intro crowded offers updated
  have assigned : crowded.assign Member.value .aboveHighest = some offers := by decide
  obtain ⟨_, nothing, _, again⟩ := record_settles assigned
  exact ⟨assigned, by decide, nothing .lowestFree, again⟩

end Declaration

end FlagEnum
