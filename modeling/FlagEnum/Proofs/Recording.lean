import FlagEnum.Proofs.Assignment

/-!
# Writing offered values into a declaration

Values are offered by position and written in by name. The two agree exactly
where a name leads back to one position: `record_faithful_iff` states this for
the declarations whose offer was not declined. What a name cannot confuse, the
other fields and the names and number of the members, is kept in any case.
-/

namespace FlagEnum

/-! ## Positions in a filtered list -/

section Positions

variable {α : Type} {keep : α → Bool} {items : List α} {item : α} {index : Nat}

/-- A kept item stands in the filtered list behind the kept items before it. -/
theorem getElem?_filter_countP (found : items[index]? = some item) (kept : keep item = true) :
    (items.filter keep)[(items.take index).countP keep]? = some item := by
  induction items generalizing index with
  | nil => cases found
  | cons head rest inductionHypothesis =>
    cases index with
    | zero =>
      cases found
      simp [kept]
    | succ index =>
      have later := inductionHypothesis found
      by_cases headKept : keep head = true
      · simpa [headKept] using later
      · simpa [headKept] using later

/-- Every item of the filtered list comes from the position with that many kept
items before it. -/
theorem exists_getElem?_of_filter (found : (items.filter keep)[index]? = some item) :
    ∃ position, items[position]? = some item ∧ (items.take position).countP keep = index := by
  induction items generalizing index with
  | nil => cases found
  | cons head rest inductionHypothesis =>
    by_cases headKept : keep head = true
    · rw [List.filter_cons_of_pos headKept] at found
      cases index with
      | zero =>
        cases found
        exact ⟨0, rfl, rfl⟩
      | succ index =>
        obtain ⟨position, isItem, before⟩ := inductionHypothesis found
        exact ⟨position + 1, isItem, by simp [headKept, before]⟩
    · rw [List.filter_cons_of_neg headKept] at found
      obtain ⟨position, isItem, before⟩ := inductionHypothesis found
      exact ⟨position + 1, isItem, by simp [headKept, before]⟩

private theorem countP_take_lt {later : Nat} (found : items[index]? = some item)
    (kept : keep item = true) (less : index < later) :
    (items.take index).countP keep < (items.take later).countP keep := by
  obtain ⟨inside, rfl⟩ := List.getElem?_eq_some_iff.mp found
  calc (items.take index).countP keep
      < (items.take (index + 1)).countP keep := by
        rw [List.take_succ_eq_append_getElem inside, List.countP_append]
        simp [kept]
    _ ≤ (items.take later).countP keep :=
        (List.take_sublist_take_left less).countP_le

/-- The number of kept items before it determines the position of a kept item. -/
theorem countP_take_inj {left right : Nat} {other : α} (isLeft : items[left]? = some item)
    (leftKept : keep item = true) (isRight : items[right]? = some other)
    (rightKept : keep other = true)
    (same : (items.take left).countP keep = (items.take right).countP keep) : left = right := by
  rcases Nat.lt_trichotomy left right with less | equal | more
  · exact absurd same (countP_take_lt isLeft leftKept less).ne
  · exact equal
  · exact absurd same (countP_take_lt isRight rightKept more).ne'

end Positions

namespace Declaration

variable {declaration : Declaration} {policy : Policy} {offers : List NamedFlag}

/-- How many members before a position have no value. -/
def unvaluedBefore (declaration : Declaration) (index : Nat) : Nat :=
  (declaration.members.take index).countP fun member => member.value.isNone

/-- No member shares its name with a member that has no value. -/
def UnvaluedNamesUnique (declaration : Declaration) : Prop :=
  ∀ (left right : Nat) (member other : Member),
    declaration.members[left]? = some member → declaration.members[right]? = some other →
    member.value = none → member.name = other.name → left = right

/-- Two declarations differ at most in the values of their members. -/
structure SameFrame (before after : Declaration) : Prop where
  name : after.name = before.name
  typeName : after.typeName = before.typeName
  isFlags : after.isFlags = before.isFlags
  memberNames : after.members.map Member.name = before.members.map Member.name

/-- `after` has each offered value at the position it was offered for. -/
structure Faithful (before : Declaration) (offers : List NamedFlag) (after : Declaration) :
    Prop where
  /-- A member with a value is as it was. -/
  kept : ∀ (index : Nat) (member : Member), before.members[index]? = some member →
    member.value ≠ none → after.members[index]? = some member
  /-- The members without a value receive the offered ones in order. -/
  received : ∀ (index : Nat) (member : Member), before.members[index]? = some member →
    member.value = none → ∃ offer, offers[before.unvaluedBefore index]? = some offer ∧
      after.members[index]? = some { member with value := some offer.flag.value }

/-! ## Offers and positions -/

/-- The member without a value at a position has its offer, under its name. -/
theorem exists_offer_at (assigned : declaration.assign Member.value policy = some offers)
    {index : Nat} {member : Member} (found : declaration.members[index]? = some member)
    (unvalued : member.value = none) :
    ∃ offer, offers[declaration.unvaluedBefore index]? = some offer ∧
      offer.name = member.name := by
  have listed : (declaration.unknowns Member.value)[declaration.unvaluedBefore index]? =
      some member := getElem?_filter_countP found (by simp [unvalued])
  have names := congrArg (fun names => names[declaration.unvaluedBefore index]?)
    (assign_names assigned)
  simpa [listed] using names

/-- Every offer is for some member without a value. -/
theorem exists_position_of_offer (assigned : declaration.assign Member.value policy = some offers)
    {index : Nat} {offer : NamedFlag} (found : offers[index]? = some offer) :
    ∃ position member, declaration.members[position]? = some member ∧ member.value = none ∧
      member.name = offer.name ∧ declaration.unvaluedBefore position = index := by
  have names := congrArg (fun names => names[index]?) (assign_names assigned)
  simp only [List.getElem?_map, found, Option.map_some] at names
  obtain ⟨member, listed, sameName⟩ := Option.map_eq_some_iff.mp names.symm
  obtain ⟨position, isMember, before⟩ := exists_getElem?_of_filter listed
  have unvalued := List.of_mem_filter (List.mem_of_getElem? listed)
  exact ⟨position, member, isMember, by simpa using unvalued, sameName, before⟩

/-- Members without a value at different positions are offered different values. -/
theorem offers_differ (assigned : declaration.assign Member.value policy = some offers)
    {left right : Nat} {member other : Member} {first second : NamedFlag}
    (isLeft : declaration.members[left]? = some member) (leftUnvalued : member.value = none)
    (isRight : declaration.members[right]? = some other) (rightUnvalued : other.value = none)
    (isFirst : offers[declaration.unvaluedBefore left]? = some first)
    (isSecond : offers[declaration.unvaluedBefore right]? = some second)
    (same : first.flag.value = second.flag.value) : left = right := by
  have distinct : (offers.map fun offer => offer.flag.value).Nodup :=
    (assign_increasing assigned).imp ne_of_lt
  have inside : declaration.unvaluedBefore left < (offers.map (·.flag.value)).length := by
    simpa using (List.getElem?_eq_some_iff.mp isFirst).1
  have ranks : declaration.unvaluedBefore left = declaration.unvaluedBefore right :=
    (List.getElem?_inj inside distinct).mp (by simp [isFirst, isSecond, same])
  exact countP_take_inj isLeft (by simp [leftUnvalued]) isRight (by simp [rightUnvalued]) ranks

/-! ## Writing by name -/

/-- Recording changes nothing but constants. -/
theorem record_sameFrame (declaration : Declaration) (offers : List NamedFlag) :
    declaration.SameFrame (declaration.record offers) := by
  refine ⟨rfl, rfl, rfl, ?_⟩
  simp only [record, List.map_map]
  apply List.map_congr_left
  intro member _
  simp only [Function.comp_apply]
  split <;> rfl

/-- Each member gets the value that is offered for its name, or keeps its own. -/
theorem record_getElem? {index : Nat} {member : Member}
    (found : declaration.members[index]? = some member) :
    (declaration.record offers).members[index]? =
      some { member with value := (offeredValue? offers member.name).or member.value } := by
  simp only [record, List.getElem?_map, found, Option.map_some]
  cases offeredValue? offers member.name <;> rfl

/-- A value for a name comes from an offer of that name. -/
theorem exists_offer_of_offeredValue? {name : String} {value : Int}
    (offered : offeredValue? offers name = some value) :
    ∃ (index : Nat) (offer : NamedFlag), offers[index]? = some offer ∧ offer.name = name ∧
      offer.flag.value = value := by
  obtain ⟨offer, found, isValue⟩ := Option.map_eq_some_iff.mp offered
  obtain ⟨index, isOffer⟩ := List.mem_iff_getElem?.mp (List.mem_of_find?_eq_some found)
  have sameName := List.find?_some found
  exact ⟨index, offer, isOffer, by simpa using sameName, isValue⟩

/-- A value is offered under exactly the names of members without one. -/
theorem offeredValue?_eq_none_iff
    (assigned : declaration.assign Member.value policy = some offers) {name : String} :
    offeredValue? offers name = none ↔
      ∀ other ∈ declaration.members, other.name = name → other.value ≠ none := by
  have listed : name ∈ offers.map NamedFlag.name ↔
      ∃ other ∈ declaration.members, other.value = none ∧ other.name = name := by
    rw [assign_names assigned]
    simp [unknowns, and_assoc]
  have absent : offeredValue? offers name = none ↔ name ∉ offers.map NamedFlag.name := by
    simp [offeredValue?]
  rw [absent, listed]
  constructor
  · intro missing other isMember sameName unvalued
    exact missing ⟨other, isMember, unvalued, sameName⟩
  · rintro valued ⟨other, isMember, unvalued, sameName⟩
    exact valued other isMember sameName unvalued

/-- Where names lead back to positions, the values arrive where they belong. -/
theorem record_faithful (assigned : declaration.assign Member.value policy = some offers)
    (unique : declaration.UnvaluedNamesUnique) :
    declaration.Faithful offers (declaration.record offers) where
  kept := by
    intro index member found valued
    rw [record_getElem? found]
    cases offered : offeredValue? offers member.name with
    | none => rfl
    | some value =>
      obtain ⟨rank, offer, isOffer, offerName, _⟩ := exists_offer_of_offeredValue? offered
      obtain ⟨position, other, isOther, unvalued, otherName, _⟩ :=
        exists_position_of_offer assigned isOffer
      have same := unique position index other member isOther found unvalued
        (otherName.trans offerName)
      subst same
      cases isOther.symm.trans found
      exact absurd unvalued valued
  received := by
    intro index member found unvalued
    obtain ⟨offer, isOffer, offerName⟩ := exists_offer_at assigned found unvalued
    refine ⟨offer, isOffer, ?_⟩
    rw [record_getElem? found, unvalued, Option.or_none]
    cases offered : offeredValue? offers member.name with
    | none =>
      simp only [offeredValue?, Option.map_eq_none_iff, List.find?_eq_none, beq_iff_eq] at offered
      exact absurd offerName (offered offer (List.mem_of_getElem? isOffer))
    | some value =>
      -- The entry found under the name is for the same position, hence the same entry.
      obtain ⟨rank, entry, isEntry, entryName, rfl⟩ := exists_offer_of_offeredValue? offered
      obtain ⟨position, other, isOther, otherUnvalued, otherName, isRank⟩ :=
        exists_position_of_offer assigned isEntry
      have same := unique position index other member isOther found otherUnvalued
        (otherName.trans entryName)
      subst same
      rw [isRank, isEntry] at isOffer
      cases isOffer
      rfl

/-- Values that arrived where they belong had names that lead back to them: two
members of one name would hold the same value, and no two of them may. -/
theorem unvaluedNamesUnique_of_faithful
    (assigned : declaration.assign Member.value policy = some offers)
    (faithful : declaration.Faithful offers (declaration.record offers)) :
    declaration.UnvaluedNamesUnique := by
  intro left right member other isLeft isRight unvalued sameName
  obtain ⟨offer, isOffer, written⟩ := faithful.received left member isLeft unvalued
  rw [record_getElem? isLeft, unvalued, Option.or_none] at written
  have offered : offeredValue? offers member.name = some offer.flag.value := by
    simpa using written
  have writtenRight := @record_getElem? declaration offers right other isRight
  rw [← sameName, offered, Option.some_or] at writtenRight
  cases otherValue : other.value with
  | some constant =>
    -- A constant would have been overwritten by an offered value, which is none of them.
    have kept := faithful.kept right other isRight (by simp [otherValue])
    rw [writtenRight] at kept
    have overwritten : some offer.flag.value = other.value :=
      congrArg Member.value (Option.some.inj kept)
    have isConstant : offer.flag.value ∈ declaration.constants Member.value :=
      mem_constants.mpr ⟨other, List.mem_of_getElem? isRight, overwritten.symm⟩
    exact absurd isConstant (assign_unused assigned (List.mem_of_getElem? isOffer))
  | none =>
    obtain ⟨second, isSecond, writtenSecond⟩ := faithful.received right other isRight otherValue
    rw [writtenRight] at writtenSecond
    have same : some offer.flag.value = some second.flag.value :=
      congrArg Member.value (Option.some.inj writtenSecond)
    exact offers_differ assigned isLeft unvalued isRight otherValue isOffer isSecond
      (Option.some.inj same)

/-- Where no name repeats, no member without a constant shares its name. -/
theorem unvaluedNamesUnique_of_nodup (distinct : (declaration.members.map Member.name).Nodup) :
    declaration.UnvaluedNamesUnique := by
  intro left right member other isLeft isRight _ sameName
  have inside : left < (declaration.members.map Member.name).length := by
    simpa using (List.getElem?_eq_some_iff.mp isLeft).1
  exact (List.getElem?_inj inside distinct).mp (by simp [isLeft, isRight, sameName])

/-- Recording an offer changes nothing but values, and puts each value where it
was offered exactly when no member shares its name with one that had no value. -/
theorem record_faithful_iff (assigned : declaration.assign Member.value policy = some offers) :
    declaration.SameFrame (declaration.record offers) ∧
      (declaration.Faithful offers (declaration.record offers) ↔
        declaration.UnvaluedNamesUnique) :=
  ⟨record_sameFrame declaration offers, unvaluedNamesUnique_of_faithful assigned,
    record_faithful assigned⟩

/-- Two values above the highest constant, recorded under names that differ. -/
theorem record_faithful_options :
    let options : Declaration :=
      { name := "Options"
        isFlags := true
        members := [⟨"None", some 0⟩, ⟨"First", some 4⟩, ⟨"Second", none⟩, ⟨"Third", none⟩] }
    let offers : List NamedFlag := [⟨"Second", ⟨.int, 8⟩⟩, ⟨"Third", ⟨.int, 16⟩⟩]
    options.assign Member.value .aboveHighest = some offers ∧
      options.SameFrame (options.record offers) ∧
      options.Faithful offers (options.record offers) := by
  intro options offers
  have assigned : options.assign Member.value .aboveHighest = some offers := by decide
  obtain ⟨frame, faithful⟩ := record_faithful_iff assigned
  exact ⟨assigned, frame, faithful.mpr (unvaluedNamesUnique_of_nodup (by decide))⟩

/-- A constant is lost to the value offered for a later member of its name. -/
theorem record_overwrites_constant :
    let twice : Declaration :=
      { name := "E", isFlags := true, members := [⟨"A", some 5⟩, ⟨"A", none⟩] }
    let offers : List NamedFlag := [⟨"A", ⟨.int, 1⟩⟩]
    twice.assign Member.value .lowestFree = some offers ∧
      (twice.record offers).members = [⟨"A", some 1⟩, ⟨"A", some 1⟩] ∧
      ¬ twice.Faithful offers (twice.record offers) := by
  intro twice offers
  refine ⟨by decide, by decide, ?_⟩
  intro faithful
  have kept := faithful.kept 0 ⟨"A", some 5⟩ rfl (by simp)
  exact absurd kept (by decide)

end Declaration

end FlagEnum
