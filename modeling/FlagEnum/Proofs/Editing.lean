import FlagEnum.Proofs.FreshName
import FlagEnum.Proofs.Recording

/-!
# Editing sessions

A session accepts suggested members, records assigned values, and changes the
type and the kind of the enumeration in any order. `Distinct` holds in every
state of a session that starts with it, and `Continues` relates any state to
all that came before. Values from an earlier type stay in use under a later
one, also where its domain cannot store them.
-/

namespace FlagEnum

/-- A step of an editing session. Offers are made on the constants as declared. -/
inductive Edit where
  /-- Accept the suggested member, if there is one. -/
  | suggest (policy : Policy)
  /-- Record the values for all members without one, if they are offered. -/
  | assign (policy : Policy)
  | setType (typeName : String)
  | setFlags (isFlags : Bool)
deriving DecidableEq, Repr

namespace Declaration

variable {declaration : Declaration}

/-- The declaration after one step; a declined offer leaves it as it was. -/
def edit (declaration : Declaration) : Edit → Declaration
  | .suggest policy =>
    match declaration.suggest Member.value policy with
    | some offer => declaration.accept offer
    | none => declaration
  | .assign policy =>
    match declaration.assign Member.value policy with
    | some offers => declaration.record offers
    | none => declaration
  | .setType typeName => { declaration with typeName }
  | .setFlags isFlags => { declaration with isFlags }

/-- The declaration after a session. -/
def edited (declaration : Declaration) (edits : List Edit) : Declaration :=
  edits.foldl edit declaration

/-- No name and no declared value occurs twice. -/
structure Distinct (declaration : Declaration) : Prop where
  names : (declaration.members.map Member.name).Nodup
  values : (declaration.constants Member.value).Nodup

/-- `later` has the members of `earlier` first, under their names, and has kept
the values that they had. -/
structure Continues (earlier later : Declaration) : Prop where
  names : earlier.members.map Member.name <+: later.members.map Member.name
  values : ∀ (index : Nat) (member : Member), earlier.members[index]? = some member →
    member.value ≠ none → later.members[index]? = some member

/-- What two changes keep one after the other, they keep together. -/
theorem Continues.trans {first second third : Declaration} (early : first.Continues second)
    (late : second.Continues third) : first.Continues third where
  names := early.names.trans late.names
  values := by
    intro index member found valued
    exact late.values index member (early.values index member found valued) valued

/-- Declared values are distinct when no two positions hold the same one. -/
theorem constants_nodup_iff :
    (declaration.constants Member.value).Nodup ↔
      ∀ (left right : Nat) (member other : Member) (value : Int),
        declaration.members[left]? = some member → declaration.members[right]? = some other →
        member.value = some value → other.value = some value → left = right := by
  rw [constants, List.Nodup, List.pairwise_filterMap, List.pairwise_iff_getElem]
  constructor
  · intro distinct left right member other value isLeft isRight leftValue rightValue
    obtain ⟨leftInside, rfl⟩ := List.getElem?_eq_some_iff.mp isLeft
    obtain ⟨rightInside, rfl⟩ := List.getElem?_eq_some_iff.mp isRight
    rcases Nat.lt_trichotomy left right with less | equal | more
    · exact absurd rfl (distinct left right leftInside rightInside less value leftValue value
        rightValue)
    · exact equal
    · exact absurd rfl (distinct right left rightInside leftInside more value rightValue value
        leftValue)
  · intro determined left right leftInside rightInside less value leftValue other rightValue same
    subst same
    have equal := determined left right _ _ value (List.getElem?_eq_getElem leftInside)
      (List.getElem?_eq_getElem rightInside) leftValue rightValue
    omega

/-! ## One step -/

/-- A suggestion is the policy's choice beside the known constants, under a fresh
name. -/
theorem suggest_eq_some_iff {lookup : Lookup} {policy : Policy} {offer : NamedFlag} :
    declaration.suggest lookup policy = some offer ↔
      ∃ domain, declaration.offerDomain? = some domain ∧
        policy.choose domain (declaration.constants lookup) = .ok offer.flag ∧
        offer.name = declaration.freshName newMemberBase := by
  have chosen_iff (domain : Domain) (flag : Flag) :
      (policy.choose domain (declaration.constants lookup)).toOption = some flag ↔
        policy.choose domain (declaration.constants lookup) = .ok flag := by
    cases policy.choose domain (declaration.constants lookup) <;> simp [Except.toOption]
  simp only [suggest, Option.bind_eq_bind, Option.bind_eq_some_iff, Option.pure_def,
    Option.some.injEq, chosen_iff]
  constructor
  · rintro ⟨domain, offered, flag, chosen, rfl⟩
    exact ⟨domain, offered, chosen, rfl⟩
  · rintro ⟨domain, offered, chosen, named⟩
    exact ⟨domain, offered, offer.flag, chosen, by rw [← named]⟩

/-- An accepted offer adds its value to the constants. -/
theorem constants_accept (declaration : Declaration) (offer : NamedFlag) :
    (declaration.accept offer).constants Member.value =
      declaration.constants Member.value ++ [offer.flag.value] := by
  simp [accept, append, constants]

/-- An accepted member has a new name and a new value, and comes last. -/
theorem accept_distinct {policy : Policy} {offer : NamedFlag} (distinct : declaration.Distinct)
    (suggested : declaration.suggest Member.value policy = some offer) :
    (declaration.accept offer).Distinct := by
  obtain ⟨domain, _, chosen, named⟩ := suggest_eq_some_iff.mp suggested
  have names : (declaration.accept offer).members.map Member.name =
      (declaration.members.map Member.name).concat offer.name := by
    simp [accept, append]
  refine ⟨?_, ?_⟩
  · rw [names, named]
    exact List.Nodup.concat (declaration.freshName_fresh newMemberBase) distinct.names
  · rw [constants_accept, ← List.concat_eq_append]
    exact List.Nodup.concat (Policy.choose_fits chosen).unused distinct.values

/-- Accepting an offer keeps all members. -/
theorem accept_continues (declaration : Declaration) (offer : NamedFlag) :
    declaration.Continues (declaration.accept offer) where
  names := by simp [accept, append]
  values := by
    intro index member found _
    have inside := (List.getElem?_eq_some_iff.mp found).1
    simpa [accept, append, List.getElem?_append_left inside] using found

/-- A recorded value was there before or is the one offered for its position. -/
theorem record_value_cases {policy : Policy} {offers : List NamedFlag}
    (assigned : declaration.assign Member.value policy = some offers)
    (unique : declaration.UnvaluedNamesUnique) {index : Nat} {updated : Member} {value : Int}
    (found : (declaration.record offers).members[index]? = some updated)
    (isValue : updated.value = some value) :
    ∃ member, declaration.members[index]? = some member ∧
      (member.value = some value ∨ member.value = none ∧
        ∃ offer, offers[declaration.unvaluedBefore index]? = some offer ∧
          offer.flag.value = value) := by
  have faithful := record_faithful assigned unique
  have inside := (List.getElem?_eq_some_iff.mp found).1
  simp only [record, List.length_map] at inside
  obtain ⟨member, isMember⟩ : ∃ member, declaration.members[index]? = some member :=
    ⟨_, List.getElem?_eq_getElem inside⟩
  refine ⟨member, isMember, ?_⟩
  cases memberValue : member.value with
  | some constant =>
    have kept := faithful.kept index member isMember (by simp [memberValue])
    rw [found] at kept
    cases kept
    exact Or.inl (memberValue.symm.trans isValue)
  | none =>
    obtain ⟨offer, isOffer, written⟩ := faithful.received index member isMember memberValue
    rw [found] at written
    cases written
    exact Or.inr ⟨rfl, offer, isOffer, Option.some.inj isValue⟩

/-- Recorded values differ from each other and from the constants. -/
theorem record_distinct {policy : Policy} {offers : List NamedFlag}
    (distinct : declaration.Distinct)
    (assigned : declaration.assign Member.value policy = some offers) :
    (declaration.record offers).Distinct := by
  have unique := unvaluedNamesUnique_of_nodup distinct.names
  refine ⟨?_, constants_nodup_iff.mpr ?_⟩
  · rw [(record_sameFrame declaration offers).memberNames]
    exact distinct.names
  intro left right updated other value isLeft isRight leftValue rightValue
  obtain ⟨member, isMember, leftCases⟩ := record_value_cases assigned unique isLeft leftValue
  obtain ⟨second, isSecond, rightCases⟩ := record_value_cases assigned unique isRight rightValue
  have notConstant : ∀ {position rank : Nat} {holder : Member} {offer : NamedFlag},
      declaration.members[position]? = some holder → holder.value = some value →
      offers[rank]? = some offer → offer.flag.value ≠ value := by
    rintro position rank holder offer isHolder holds isOffer rfl
    exact assign_unused assigned (List.mem_of_getElem? isOffer)
      (mem_constants.mpr ⟨holder, List.mem_of_getElem? isHolder, holds⟩)
  rcases leftCases with leftKept | ⟨leftUnvalued, offer, isOffer, offered⟩ <;>
    rcases rightCases with rightKept | ⟨rightUnvalued, entry, isEntry, entered⟩
  · exact constants_nodup_iff.mp distinct.values left right member second value isMember isSecond
      leftKept rightKept
  · exact absurd entered (notConstant isMember leftKept isEntry)
  · exact absurd offered (notConstant isSecond rightKept isOffer)
  · exact offers_differ assigned isMember leftUnvalued isSecond rightUnvalued isOffer isEntry
      (offered.trans entered.symm)

/-- In a declaration without repetitions, recording an assignment keeps the members
and the constants that they have. -/
theorem record_continues {policy : Policy} {offers : List NamedFlag}
    (distinct : declaration.Distinct)
    (assigned : declaration.assign Member.value policy = some offers) :
    declaration.Continues (declaration.record offers) where
  names := by
    rw [(record_sameFrame declaration offers).memberNames]
  values := (record_faithful assigned (unvaluedNamesUnique_of_nodup distinct.names)).kept

/-- What does not touch the members keeps them distinct and continues them. -/
theorem distinct_of_same_members {other : Declaration} (distinct : declaration.Distinct)
    (same : other.members = declaration.members) :
    other.Distinct ∧ declaration.Continues other := by
  refine ⟨⟨?_, ?_⟩, ⟨?_, ?_⟩⟩
  · rw [same]
    exact distinct.names
  · rw [constants, same]
    exact distinct.values
  · rw [same]
  · intro index member found _
    rw [same]
    exact found

/-- One edit keeps names and constants distinct, and what was declared. -/
theorem edit_distinct (distinct : declaration.Distinct) (step : Edit) :
    (declaration.edit step).Distinct ∧ declaration.Continues (declaration.edit step) := by
  cases step with
  | suggest policy =>
    simp only [edit]
    split
    · next offer suggested =>
      exact ⟨accept_distinct distinct suggested, accept_continues declaration offer⟩
    · exact distinct_of_same_members distinct rfl
  | assign policy =>
    simp only [edit]
    split
    · next offers assigned =>
      exact ⟨record_distinct distinct assigned, record_continues distinct assigned⟩
    · exact distinct_of_same_members distinct rfl
  | setType typeName => exact distinct_of_same_members distinct rfl
  | setFlags isFlags => exact distinct_of_same_members distinct rfl

/-! ## Whole sessions -/

/-- Edits can be made in two goes. -/
theorem edited_append (declaration : Declaration) (earlier later : List Edit) :
    declaration.edited (earlier ++ later) = (declaration.edited earlier).edited later :=
  List.foldl_append

/-- Any number of edits keeps names and constants distinct, and what was declared.
-/
theorem edited_distinct (distinct : declaration.Distinct) (edits : List Edit) :
    (declaration.edited edits).Distinct ∧ declaration.Continues (declaration.edited edits) := by
  induction edits generalizing declaration with
  | nil => exact distinct_of_same_members distinct rfl
  | cons step rest inductionHypothesis =>
    obtain ⟨nextDistinct, nextContinues⟩ := edit_distinct distinct step
    obtain ⟨lastDistinct, lastContinues⟩ := inductionHypothesis nextDistinct
    exact ⟨lastDistinct, nextContinues.trans lastContinues⟩

/-- A session that starts with distinct names and values keeps them so in every
state, appends members only, and never changes or loses a value that any state
on the way had. -/
theorem session_keeps_declared (distinct : declaration.Distinct) (earlier later : List Edit) :
    let now := declaration.edited (earlier ++ later)
    now.Distinct ∧
      declaration.members.map Member.name <+: now.members.map Member.name ∧
      ∀ (index : Nat) (member : Member),
        (declaration.edited earlier).members[index]? = some member → member.value ≠ none →
        now.members[index]? = some member := by
  intro now
  have middle := (edited_distinct distinct earlier).1
  have continues : (declaration.edited earlier).Continues now := by
    simp only [now, edited_append]
    exact (edited_distinct middle later).2
  obtain ⟨nowDistinct, fromStart⟩ := edited_distinct distinct (earlier ++ later)
  exact ⟨nowDistinct, fromStart.names, continues.values⟩

/-- A session through three types: 256 fits only the last of them, 128 not the
second, and an offer is declined while the enumeration holds no flags. -/
theorem session_keeps_declared_access :
    let access : Declaration :=
      { name := "Access"
        typeName := "byte"
        isFlags := true
        members := [⟨"None", none⟩, ⟨"Top", some 128⟩, ⟨"Wide", some 256⟩] }
    let earlier : List Edit := [.suggest .lowestFree, .setType "sbyte", .assign .aboveHighest]
    let later : List Edit :=
      [.setFlags false, .suggest .lowestFree, .setFlags true, .setType "short",
        .suggest .aboveHighest]
    let now := access.edited (earlier ++ later)
    access.Distinct ∧
      (access.edited earlier).members =
        [⟨"None", some 2⟩, ⟨"Top", some 128⟩, ⟨"Wide", some 256⟩, ⟨"EnumMember", some 1⟩] ∧
      now.Distinct ∧ now.members[0]? = some ⟨"None", some 2⟩ ∧
      now.members[4]? = some ⟨"EnumMember2", some 512⟩ := by
  intro access earlier later now
  have distinct : access.Distinct := ⟨by decide, by decide⟩
  have reached : (access.edited earlier).members =
      [⟨"None", some 2⟩, ⟨"Top", some 128⟩, ⟨"Wide", some 256⟩, ⟨"EnumMember", some 1⟩] := by
    decide
  obtain ⟨nowDistinct, _, kept⟩ := session_keeps_declared distinct earlier later
  exact ⟨distinct, reached, nowDistinct, kept 0 _ (by rw [reached]; rfl) (by simp), by decide⟩

end Declaration

end FlagEnum
