import FlagEnum.Offer
import FlagEnum.Proofs.Choice

/-!
# Values for the members that have none

`assignNames` walks the names and lets each value count as used for the names
after it. `assignNames_step` turns that walk into a fact about each position,
`nextFlag_fits` and `nextFlag_increases` say what one step can do, and what
holds of a whole assignment follows from these three.
-/

namespace FlagEnum

namespace Declaration

variable {policy : Policy} {domain : Domain} {values : List Int}

/-! ## One step -/

/-- The next flag is the policy's choice, or 1 where only zeros are in use and
the policy finds nothing to double. -/
theorem nextFlag_cases {flag : Flag} (next : nextFlag policy domain values = .ok flag) :
    policy.choose domain values = .ok flag ∨
      values ≠ [] ∧ (∀ value ∈ values, value = 0) ∧ flag = ⟨domain, 1⟩ := by
  unfold nextFlag at next
  split at next
  · next offender failed =>
    split at next
    · next zeros =>
      cases next
      refine Or.inr ⟨?_, by simpa using zeros, rfl⟩
      rintro rfl
      cases failed
    · cases next
  · exact Or.inl next

/-- The flag for the next member fits beside the values in use. -/
theorem nextFlag_fits {flag : Flag} (next : nextFlag policy domain values = .ok flag) :
    flag.Fits domain values := by
  rcases nextFlag_cases next with chosen | ⟨nonempty, zeros, rfl⟩
  · exact Policy.choose_fits chosen
  · have isPower : (1 : Int) ∈ domain.powers :=
      Domain.mem_powers.mpr ⟨0, domain.slots_pos, by norm_num⟩
    refine ⟨rfl, ?_, fun empty => absurd empty nonempty, fun _ => isPower⟩
    intro isUsed
    have impossible := zeros 1 isUsed
    omega

/-- Each flag is above the one before it: `aboveHighest` exceeds every power of
two in use, and `lowestFree` has left nothing free below. -/
theorem nextFlag_increases {flag later : Flag}
    (next : nextFlag policy domain values = .ok flag)
    (afterwards : nextFlag policy domain (values ++ [flag.value]) = .ok later) :
    flag.value < later.value := by
  have laterFits := nextFlag_fits afterwards
  have laterPower := laterFits.power (by simp)
  have laterPositive := Domain.pos_of_mem_powers laterPower
  have laterUnused := laterFits.unused
  simp only [List.mem_append, List.mem_singleton, not_or] at laterUnused
  by_cases empty : values = []
  · have isZero := (nextFlag_fits next).zero empty
    omega
  have isPower := (nextFlag_fits next).power empty
  cases policy with
  | lowestFree =>
    have least : flag.value ≤ later.value := by
      rcases nextFlag_cases next with chosen | ⟨_, _, rfl⟩
      · exact Policy.lowestFree_least empty chosen laterPower laterUnused.1
      · exact laterPositive
    omega
  | aboveHighest =>
    rcases nextFlag_cases afterwards with chosen | ⟨_, zeros, _⟩
    · exact Policy.aboveHighest_exceeds chosen isPower (by simp)
    · have isZero := zeros flag.value (by simp)
      have positive := Domain.pos_of_mem_powers isPower
      omega

/-! ## The walk over the names -/

/-- The first name gets the next flag, and the others are served beside its value.
-/
theorem assignNames_cons_eq_some_iff {name : String} {rest : List String}
    {offers : List NamedFlag} :
    assignNames policy domain values (name :: rest) = some offers ↔
      ∃ flag others, nextFlag policy domain values = .ok flag ∧
        assignNames policy domain (values ++ [flag.value]) rest = some others ∧
        offers = ⟨name, flag⟩ :: others := by
  rw [assignNames]
  cases nextFlag policy domain values with
  | error failure => simp
  | ok flag => simp [Option.bind_eq_some_iff, @eq_comm _ _ offers]

/-- Every name is served, in order. -/
theorem assignNames_names {names : List String} {offers : List NamedFlag}
    (assigned : assignNames policy domain values names = some offers) :
    offers.map NamedFlag.name = names := by
  induction names generalizing values offers with
  | nil =>
    cases assigned
    rfl
  | cons name rest inductionHypothesis =>
    obtain ⟨flag, others, _, restAssigned, rfl⟩ := assignNames_cons_eq_some_iff.mp assigned
    rw [List.map_cons, inductionHypothesis restAssigned]

/-- At each position stands the next flag beside the values in use at the start
and those given before it. -/
theorem assignNames_step {names : List String} {offers : List NamedFlag}
    (assigned : assignNames policy domain values names = some offers) {index : Nat}
    {offer : NamedFlag} (found : offers[index]? = some offer) :
    nextFlag policy domain (values ++ (offers.take index).map fun earlier => earlier.flag.value) =
      .ok offer.flag := by
  induction names generalizing values offers index with
  | nil =>
    cases assigned
    cases found
  | cons name rest inductionHypothesis =>
    obtain ⟨flag, others, next, restAssigned, rfl⟩ := assignNames_cons_eq_some_iff.mp assigned
    cases index with
    | zero =>
      cases found
      simpa using next
    | succ index =>
      have later := inductionHypothesis restAssigned (by simpa using found)
      simpa using later

/-- A later name gets a greater value. -/
theorem assignNames_increasing {names : List String} {offers : List NamedFlag}
    (assigned : assignNames policy domain values names = some offers) :
    (offers.map fun offer => offer.flag.value).Pairwise (· < ·) := by
  rw [← List.isChain_iff_pairwise, List.isChain_iff_getElem]
  intro index inside
  simp only [List.length_map] at inside
  have first := assignNames_step assigned (List.getElem?_eq_getElem (Nat.lt_of_succ_lt inside))
  have second := assignNames_step assigned (List.getElem?_eq_getElem inside)
  rw [List.take_succ_eq_append_getElem (Nat.lt_of_succ_lt inside), List.map_append,
    ← List.append_assoc] at second
  simpa using nextFlag_increases first second

/-! ## The assignment of a declaration -/

variable {declaration : Declaration} {lookup : Lookup} {offers : List NamedFlag}

/-- The constants are what the lookup has for some member. -/
theorem mem_constants {value : Int} :
    value ∈ declaration.constants lookup ↔
      ∃ member ∈ declaration.members, lookup member = some value := by
  simp [constants]

private theorem constants_eq_nil_iff :
    declaration.constants lookup = [] ↔ ∀ member ∈ declaration.members, lookup member = none := by
  simp [constants]

/-- Only a flags enumeration of a known type has a domain to offer from. -/
theorem offerDomain?_eq_some_iff :
    declaration.offerDomain? = some domain ↔
      declaration.isFlags = true ∧ declaration.domain = .ok domain := by
  unfold offerDomain?
  cases declaration.isFlags with
  | false => simp
  | true => cases declaration.domain <;> simp [Except.toOption]

/-- An assignment serves the members without a constant, beside all constants. -/
theorem assign_eq_some_iff :
    declaration.assign lookup policy = some offers ↔
      ∃ domain, declaration.offerDomain? = some domain ∧
        assignNames policy domain (declaration.constants lookup)
          ((declaration.unknowns lookup).map Member.name) = some offers := by
  simp [assign, Option.bind_eq_some_iff]

/-- The offers of an assignment are for the members without a constant, in order.
-/
theorem assign_names (assigned : declaration.assign lookup policy = some offers) :
    offers.map NamedFlag.name = (declaration.unknowns lookup).map Member.name := by
  obtain ⟨domain, _, named⟩ := assign_eq_some_iff.mp assigned
  exact assignNames_names named

/-- The values of an assignment increase. -/
theorem assign_increasing (assigned : declaration.assign lookup policy = some offers) :
    (offers.map fun offer => offer.flag.value).Pairwise (· < ·) := by
  obtain ⟨domain, _, named⟩ := assign_eq_some_iff.mp assigned
  exact assignNames_increasing named

/-- Every offered flag fits the known constants together with the values offered
before it. -/
theorem assign_fits (assigned : declaration.assign lookup policy = some offers) :
    ∃ domain, declaration.domain = .ok domain ∧
      ∀ (index : Nat) (offer : NamedFlag), offers[index]? = some offer →
        offer.flag.Fits domain (declaration.constants lookup ++
          (offers.take index).map fun earlier => earlier.flag.value) := by
  obtain ⟨domain, offered, named⟩ := assign_eq_some_iff.mp assigned
  refine ⟨domain, (offerDomain?_eq_some_iff.mp offered).2, ?_⟩
  intro index offer found
  exact nextFlag_fits (assignNames_step named found)

/-- No offered value is a known constant, wherever its member stands. -/
theorem assign_unused (assigned : declaration.assign lookup policy = some offers)
    {offer : NamedFlag} (offered : offer ∈ offers) :
    offer.flag.value ∉ declaration.constants lookup := by
  obtain ⟨domain, _, fits⟩ := assign_fits assigned
  obtain ⟨index, found⟩ := List.mem_iff_getElem?.mp offered
  intro known
  exact (fits index offer found).unused (List.mem_append_left _ known)

/-- What the values offered for a declaration promise to whoever writes them
into it. -/
structure SoundOffers (declaration : Declaration) (lookup : Lookup)
    (offers : List NamedFlag) : Prop where
  /-- They are for the members without a known constant, in order. -/
  names : offers.map NamedFlag.name = (declaration.unknowns lookup).map Member.name
  /-- They lie in the domain of the declaration and carry it. -/
  inDomain : ∃ domain, declaration.domain = .ok domain ∧
    ∀ offer ∈ offers, offer.flag.domain = domain ∧ domain.contains offer.flag.value = true
  increasing : (offers.map fun offer => offer.flag.value).Pairwise (· < ·)
  unused : ∀ offer ∈ offers, ∀ member ∈ declaration.members,
    lookup member ≠ some offer.flag.value
  /-- All but the first are powers of two, and the first is one or zero. -/
  power : ∀ (index : Nat) (offer : NamedFlag), offers[index]? = some offer →
    (∃ exponent : Nat, offer.flag.value = 2 ^ exponent) ∨ index = 0 ∧ offer.flag.value = 0
  /-- The first is zero exactly where no constant is known. -/
  zero : ∀ offer : NamedFlag, offers[0]? = some offer →
    (offer.flag.value = 0 ↔ ∀ member ∈ declaration.members, lookup member = none)

/-- Whatever is offered for the members without a constant is sound, under
either policy and for any knowledge of the constants. -/
theorem assign_sound (assigned : declaration.assign lookup policy = some offers) :
    declaration.SoundOffers lookup offers := by
  obtain ⟨domain, isDomain, fits⟩ := assign_fits assigned
  refine ⟨assign_names assigned, ⟨domain, isDomain, ?_⟩, assign_increasing assigned, ?_, ?_, ?_⟩
  · intro offer offered
    obtain ⟨index, found⟩ := List.mem_iff_getElem?.mp offered
    exact ⟨(fits index offer found).inDomain, (fits index offer found).contained⟩
  · intro offer offered member isMember known
    exact assign_unused assigned offered (mem_constants.mpr ⟨member, isMember, known⟩)
  · intro index offer found
    by_cases empty : declaration.constants lookup ++
        (offers.take index).map (fun earlier => earlier.flag.value) = []
    · -- Nothing is in use only before the first offer.
      have isFirst : index = 0 := by
        have inside := (List.getElem?_eq_some_iff.mp found).1
        simp only [List.append_eq_nil_iff, List.map_eq_nil_iff, List.take_eq_nil_iff] at empty
        rcases empty.2 with isZero | noOffers
        · exact isZero
        · simp [noOffers] at inside
      exact Or.inr ⟨isFirst, (fits index offer found).zero empty⟩
    · obtain ⟨exponent, _, isPower⟩ :=
        Domain.mem_powers.mp ((fits index offer found).power empty)
      exact Or.inl ⟨exponent, isPower⟩
  · intro offer found
    rw [(fits 0 offer found).value_eq_zero_iff]
    simp only [List.take_zero, List.map_nil, List.append_nil]
    exact constants_eq_nil_iff

/-- Gaps around a later constant, with the first member still without a value. -/
theorem assign_sound_gaps :
    let style : Declaration :=
      { name := "Style"
        isFlags := true
        members := [⟨"None", none⟩, ⟨"Bold", none⟩, ⟨"Italic", some 2⟩, ⟨"Underline", none⟩] }
    let offers : List NamedFlag :=
      [⟨"None", ⟨.int, 1⟩⟩, ⟨"Bold", ⟨.int, 4⟩⟩, ⟨"Underline", ⟨.int, 8⟩⟩]
    style.assign Member.value .lowestFree = some offers ∧
      style.SoundOffers Member.value offers := by
  intro style offers
  have assigned : style.assign Member.value .lowestFree = some offers := by decide
  exact ⟨assigned, assign_sound assigned⟩

end Declaration

end FlagEnum
