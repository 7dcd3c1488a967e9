import FlagEnum.Proofs.Relevance

/-!
# One at a time or all at once

Values can be had by accepting suggested members one after another, or by one
assignment to the members that have none. The rounds collect the constants anew
each time and the assignment keeps its own list, but both put one value behind
the others at each step. They part only where the policy stalls: a suggestion
is then declined, and an assignment goes on with 1.
-/

namespace FlagEnum

namespace Policy

variable {policy : Policy} {domain : Domain} {values : List Int}

private theorem offers_succ (policy : Policy) (domain : Domain) (count : Nat) (values : List Int) :
    (policy.offers domain (count + 1) values).1 =
      match policy.choose domain values with
      | .error _ => []
      | .ok flag => flag :: (policy.offers domain count (values ++ [flag.value])).1 := by
  rw [offers]
  cases policy.choose domain values with
  | error failure => rfl
  | ok flag => rfl

/-- What choices give before the policy stalls: the zero of a first member. -/
def stalledStart (domain : Domain) (values : List Int) : List Flag :=
  if values = [] then [.zero domain] else []

/-- A stalled policy stays so: zero is all that it has to offer. -/
theorem Stalls.offers (stalls : policy.Stalls values) (count : Nat) :
    (policy.offers domain count values).1 = (stalledStart domain values).take count := by
  induction count generalizing values with
  | zero => rw [List.take_zero, Policy.offers]
  | succ count inductionHypothesis =>
    rw [offers_succ, stalls.choose, stalledStart]
    by_cases empty : values = []
    · have stallsAfter : policy.Stalls (values ++ [0]) := stalls_append.mpr ⟨stalls, rfl⟩
      have nothing := inductionHypothesis stallsAfter
      rw [stalledStart, if_neg (by simp), List.take_nil] at nothing
      simp only [if_pos empty, List.take_succ_cons, List.take_nil, Flag.zero, nothing]
    · simp only [if_neg empty, List.take_nil]

end Policy

namespace Declaration

variable {declaration : Declaration} {policy : Policy} {domain : Domain} {values : List Int}

/-! ## Rounds -/

/-- What up to `count` rounds offer, each suggestion being accepted before the
next round. The first decline ends them. -/
def rounds (policy : Policy) : Nat → Declaration → List NamedFlag
  | 0, _ => []
  | count + 1, declaration =>
    match declaration.suggest Member.value policy with
    | none => []
    | some offer => offer :: rounds policy count (declaration.accept offer)

/-- The names of the new members have no part in their values: rounds offer what
repeated choices beside the constants give. -/
theorem rounds_flags (offered : declaration.offerDomain? = some domain) (count : Nat) :
    (declaration.rounds policy count).map NamedFlag.flag =
      (policy.offers domain count (declaration.constants Member.value)).1 := by
  induction count generalizing declaration with
  | zero => rfl
  | succ count inductionHypothesis =>
    have suggested := @suggest_flag declaration Member.value policy domain offered
    rw [rounds, Policy.offers_succ]
    cases chosen : policy.choose domain (declaration.constants Member.value) with
    | error failure =>
      rw [chosen] at suggested
      rw [Option.map_eq_none_iff.mp suggested]
      rfl
    | ok flag =>
      rw [chosen] at suggested
      obtain ⟨offer, isOffer, rfl⟩ := Option.map_eq_some_iff.mp suggested
      have stillOffered : (declaration.accept offer).offerDomain? = some domain := offered
      simp only [isOffer, List.map_cons, inductionHypothesis stillOffered, constants_accept]

/-! ## The assignment -/

/-- An assignment that never stalls is repeated choice, all of it or nothing. -/
theorem assignNames_flags (moves : ¬ policy.Stalls values) (names : List String) :
    (assignNames policy domain values names).map (List.map NamedFlag.flag) =
      if (policy.offers domain names.length values).1.length = names.length
      then some (policy.offers domain names.length values).1 else none := by
  induction names generalizing values with
  | nil => rfl
  | cons name rest inductionHypothesis =>
    rw [assignNames, nextFlag_eq_choose moves, List.length_cons, Policy.offers_succ]
    cases policy.choose domain values with
    | error failure => rfl
    | ok flag =>
      -- A value behind the others never makes a policy stall that did not before.
      have movesOn : ¬ policy.Stalls (values ++ [flag.value]) := fun stalls =>
        moves (Policy.stalls_append.mp stalls).1
      have others := @inductionHypothesis (values ++ [flag.value]) movesOn
      simp only [List.length_cons, Nat.add_right_cancel_iff]
      split at others
      · next enough =>
        obtain ⟨offers, assigned, flags⟩ := Option.map_eq_some_iff.mp others
        simp [enough, assigned, flags]
      · next short =>
        simp [short, Option.map_eq_none_iff.mp others]

/-- Where the policy stalls, an assignment goes on with 1. -/
theorem nextFlag_after_start (stalls : policy.Stalls values) :
    nextFlag policy domain (values ++ (Policy.stalledStart domain values).map Flag.value) =
      .ok ⟨domain, 1⟩ := by
  rw [Policy.stalledStart]
  by_cases empty : values = []
  · have stallsAfter : policy.Stalls (values ++ [0]) := Policy.stalls_append.mpr ⟨stalls, rfl⟩
    rw [if_pos empty, List.map_singleton, Flag.zero, stallsAfter.nextFlag, if_neg (by simp)]
  · rw [if_neg empty, List.map_nil, List.append_nil, stalls.nextFlag, if_neg empty]

/-- Beside zeros an assignment goes on with 1, where repeated choices stop. -/
theorem assignNames_of_stalls (stalls : policy.Stalls values) {names : List String}
    {offers : List NamedFlag} (assigned : assignNames policy domain values names = some offers)
    (asked : (Policy.stalledStart domain values).length < names.length) :
    Policy.stalledStart domain values ++ [⟨domain, 1⟩] <+: offers.map NamedFlag.flag := by
  have next := @nextFlag_after_start policy domain values stalls
  by_cases empty : values = []
  · -- The first step takes the path of the empty list, and only the second one stalls.
    subst empty
    match names, asked with
    | first :: second :: rest, _ =>
      obtain ⟨zero, others, isZero, othersAssigned, rfl⟩ :=
        assignNames_cons_eq_some_iff.mp assigned
      cases isZero
      obtain ⟨one, more, isOne, _, rfl⟩ := assignNames_cons_eq_some_iff.mp othersAssigned
      cases isOne.symm.trans next
      exact ⟨more.map NamedFlag.flag, rfl⟩
  · rw [Policy.stalledStart, if_neg empty] at asked next ⊢
    match names, asked with
    | first :: rest, _ =>
      obtain ⟨one, more, isOne, _, rfl⟩ := assignNames_cons_eq_some_iff.mp assigned
      rw [List.map_nil, List.append_nil] at next
      cases isOne.symm.trans next
      exact ⟨more.map NamedFlag.flag, rfl⟩

/-! ## Both ways compared -/

/-- Unless the policy stalls, as many rounds as there are members without a value
all succeed exactly where an assignment does, and with the same values. Where it
stalls, the rounds offer the zero of a first member at most; an assignment goes
on from there with 1 and has room for every flag of the domain. -/
theorem rounds_meet_assignment (offered : declaration.offerDomain? = some domain)
    (policy : Policy) :
    let known := declaration.constants Member.value
    let unvalued := (declaration.unknowns Member.value).length
    let start := Policy.stalledStart domain known
    (¬ policy.Stalls known →
      ((declaration.rounds policy unvalued).length = unvalued ↔
        ∃ offers, declaration.assign Member.value policy = some offers) ∧
      ∀ offers, declaration.assign Member.value policy = some offers →
        (declaration.rounds policy unvalued).map NamedFlag.flag = offers.map NamedFlag.flag) ∧
    (policy.Stalls known →
      (∀ count, (declaration.rounds policy count).map NamedFlag.flag = start.take count) ∧
      nextFlag policy domain (known ++ start.map Flag.value) = .ok ⟨domain, 1⟩ ∧
      ((∃ offers, declaration.assign Member.value policy = some offers) ↔
        unvalued ≤ start.length + domain.slots) ∧
      ∀ offers, declaration.assign Member.value policy = some offers → start.length < unvalued →
        start ++ [⟨domain, 1⟩] <+: offers.map NamedFlag.flag) := by
  intro known unvalued start
  have names : ((declaration.unknowns Member.value).map Member.name).length = unvalued :=
    List.length_map ..
  rw [assign_of_offerDomain? offered]
  constructor
  · intro moves
    have flags := @assignNames_flags policy domain known moves
      ((declaration.unknowns Member.value).map Member.name)
    rw [names, ← rounds_flags offered, List.length_map] at flags
    refine ⟨?_, ?_⟩
    · rw [← Option.isSome_iff_exists, ← Option.isSome_map, flags, Option.isSome_ite]
    · intro offers assigned
      rw [assigned] at flags
      split at flags
      · exact (Option.some.inj flags).symm
      · cases flags
  · intro stalls
    refine ⟨?_, nextFlag_after_start stalls, ?_, ?_⟩
    · intro count
      rw [rounds_flags offered, stalls.offers]
    · have room : policy.capacity domain known = start.length + domain.slots := by
        rw [stalls.capacity]
        simp only [start, Policy.stalledStart]
        split <;> simp [Nat.add_comm]
      rw [← Option.isSome_iff_exists, Option.isSome_iff_ne_none, Ne, assignNames_eq_none_iff,
        room, names, Nat.not_lt]
    · intro offers assigned asked
      exact assignNames_of_stalls stalls assigned (by rwa [names])

/-- Gaps are filled alike both ways. Above the highest of no constants at all,
the rounds end behind zero and the assignment does not. -/
theorem rounds_meet_assignment_both :
    let gaps : Declaration :=
      { name := "Gaps"
        isFlags := true
        members := [⟨"A", none⟩, ⟨"Two", some 2⟩, ⟨"B", none⟩, ⟨"C", none⟩] }
    let blank : Declaration :=
      { name := "Blank"
        typeName := "sbyte"
        isFlags := true
        members := [⟨"A", none⟩, ⟨"B", none⟩, ⟨"C", none⟩] }
    (gaps.rounds .lowestFree 3).map NamedFlag.flag = [⟨.int, 1⟩, ⟨.int, 4⟩, ⟨.int, 8⟩] ∧
      gaps.assign Member.value .lowestFree =
        some [⟨"A", ⟨.int, 1⟩⟩, ⟨"B", ⟨.int, 4⟩⟩, ⟨"C", ⟨.int, 8⟩⟩] ∧
      (blank.rounds .aboveHighest 3).map NamedFlag.flag = [⟨.sbyte, 0⟩] ∧
      blank.assign Member.value .aboveHighest =
        some [⟨"A", ⟨.sbyte, 0⟩⟩, ⟨"B", ⟨.sbyte, 1⟩⟩, ⟨"C", ⟨.sbyte, 2⟩⟩] := by
  intro gaps blank
  have gapsOffered : gaps.offerDomain? = some .int := by decide
  have blankOffered : blank.offerDomain? = some .sbyte := by decide
  have gapsAssigned : gaps.assign Member.value .lowestFree =
      some [⟨"A", ⟨.int, 1⟩⟩, ⟨"B", ⟨.int, 4⟩⟩, ⟨"C", ⟨.int, 8⟩⟩] := by decide
  have moves : ¬ Policy.lowestFree.Stalls (gaps.constants Member.value) := by
    rintro ⟨differs, _⟩
    cases differs
  have stalls : Policy.aboveHighest.Stalls (blank.constants Member.value) := ⟨rfl, by decide⟩
  have gapsMeet := (rounds_meet_assignment gapsOffered .lowestFree).1 moves
  have blankMeet := (rounds_meet_assignment blankOffered .aboveHighest).2 stalls
  exact ⟨gapsMeet.2 _ gapsAssigned, gapsAssigned, blankMeet.1 3, by decide⟩

end Declaration

end FlagEnum
