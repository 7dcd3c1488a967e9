import FlagEnum.Proofs.Word

/-!
# What the two policies choose

Choices are made on words; here they are described on integers. Under
`lowestFree` a choice is the head of the list of free flags, and taking it
leaves the tail of that list, so repeated choices draw the list from its start.
Under `aboveHighest` a choice doubles the greatest power of two in use.
`Flag.Fits` is what any chosen flag satisfies.
-/

namespace FlagEnum

/-! ## The lowest free flag -/

namespace Domain

variable {domain : Domain} {values : List Int}

/-- The free flags are the powers of two that no value equals, in order. -/
theorem freeFlags_eq (domain : Domain) (values : List Int) :
    domain.freeFlags values =
      (domain.powers.filter fun value => value ∉ values).map (Flag.mk domain) := by
  rw [freeFlags, freeWords, ← Word.flags_value, List.filter_map, List.map_map]
  congr 1
  apply List.filter_congr
  intro word _
  simp

/-- Free flags are listed from the lowest up. -/
theorem freeFlags_increasing (domain : Domain) (values : List Int) :
    (domain.freeFlags values).Pairwise fun low high => low.value < high.value := by
  rw [freeFlags_eq, List.pairwise_map]
  exact domain.powers_increasing.filter _

/-- A free flag is one of the domain that no value uses. -/
theorem mem_freeFlags {flag : Flag} :
    flag ∈ domain.freeFlags values ↔
      flag.domain = domain ∧ flag.value ∈ domain.powers ∧ flag.value ∉ values := by
  rw [freeFlags_eq]
  simp only [List.mem_map, List.mem_filter, decide_eq_true_eq]
  constructor
  · rintro ⟨value, ⟨power, unused⟩, rfl⟩
    exact ⟨rfl, power, unused⟩
  · rintro ⟨rfl, power, unused⟩
    exact ⟨flag.value, ⟨power, unused⟩, rfl⟩

/-- Which flags are free depends on the flags in use only. -/
theorem freeFlags_congr {left right : List Int}
    (same : ∀ power ∈ domain.powers, power ∈ left ↔ power ∈ right) :
    domain.freeFlags left = domain.freeFlags right := by
  rw [freeFlags_eq, freeFlags_eq]
  congr 1
  apply List.filter_congr
  intro power isPower
  simp only [same power isPower]

/-- Using a value takes it from the free flags and leaves the others. -/
theorem freeFlags_append (domain : Domain) (values : List Int) (value : Int) :
    domain.freeFlags (values ++ [value]) =
      (domain.freeFlags values).filter fun flag => flag.value ≠ value := by
  rw [freeFlags_eq, freeFlags_eq, List.filter_map, List.filter_filter]
  congr 1
  apply List.filter_congr
  intro power _
  by_cases same : power = value <;> simp [same]

/-- Using the lowest free flag leaves the rest of the list. -/
theorem freeFlags_append_head {flag : Flag} {rest : List Flag}
    (free : domain.freeFlags values = flag :: rest) :
    domain.freeFlags (values ++ [flag.value]) = rest := by
  have increasing := domain.freeFlags_increasing values
  rw [free, List.pairwise_cons] at increasing
  rw [freeFlags_append, free, List.filter_cons_of_neg (by simp), List.filter_eq_self]
  intro other inRest
  have above := increasing.1 other inRest
  simp only [decide_eq_true_eq]
  omega

end Domain

namespace Policy

variable {domain : Domain} {values : List Int}

@[simp] theorem choose_nil (policy : Policy) (domain : Domain) :
    policy.choose domain [] = .ok (.zero domain) :=
  rfl

private theorem choose_of_ne_nil (policy : Policy) (domain : Domain) (nonempty : values ≠ []) :
    policy.choose domain values =
      (Choice.word policy (domain.usedWords values)).map fun word => ⟨domain, word.value⟩ := by
  rw [choose, if_neg (by simpa using nonempty)]
  rfl

/-- The first flag that is not in use is the head of the list of free flags. -/
theorem choose_lowestFree (nonempty : values ≠ []) :
    Policy.lowestFree.choose domain values =
      match domain.freeFlags values with
      | [] => .error (.exhausted domain)
      | flag :: _ => .ok flag := by
  rw [choose_of_ne_nil _ _ nonempty, Choice.word, Choice.lowestFree, ← List.head?_filter,
    Domain.freeFlags, Domain.freeWords]
  cases (Word.flags domain).filter _ with
  | nil => rfl
  | cons word rest => rfl

/-- The choice of `lowestFree` is free. -/
theorem lowestFree_mem_freeFlags (nonempty : values ≠ []) {flag : Flag}
    (chosen : Policy.lowestFree.choose domain values = .ok flag) :
    flag ∈ domain.freeFlags values := by
  rw [choose_lowestFree nonempty] at chosen
  split at chosen
  · cases chosen
  · next listed =>
    cases chosen
    rw [listed]
    exact List.mem_cons_self

/-- No free flag is below the choice of `lowestFree`. -/
theorem lowestFree_least (nonempty : values ≠ []) {flag : Flag}
    (chosen : Policy.lowestFree.choose domain values = .ok flag) {power : Int}
    (isPower : power ∈ domain.powers) (unused : power ∉ values) : flag.value ≤ power := by
  have free : ⟨domain, power⟩ ∈ domain.freeFlags values :=
    Domain.mem_freeFlags.mpr ⟨rfl, isPower, unused⟩
  have increasing := domain.freeFlags_increasing values
  rw [choose_lowestFree nonempty] at chosen
  split at chosen
  · cases chosen
  · next listed =>
    cases chosen
    rw [listed] at free increasing
    rcases List.mem_cons.mp free with isHead | inRest
    · rw [← isHead]
    · exact ((List.pairwise_cons.mp increasing).1 _ inRest).le

/-! ## The flag above the highest -/

private theorem mem_usedFlags {word : Word domain} :
    word ∈ (domain.usedWords values).filter Word.isFlag ↔
      word.value ∈ values ∧ word.value ∈ domain.powers := by
  rw [List.mem_filter, Word.mem_usedWords, Word.isFlag_iff]

/-- Values in use have a greatest power of two of the domain, or none at all. -/
theorem exists_greatest_power (domain : Domain) (values : List Int) :
    (∀ power ∈ domain.powers, power ∉ values) ∨
      ∃ power ∈ domain.powers, power ∈ values ∧
        ∀ other ∈ domain.powers, other ∈ values → other ≤ power := by
  cases found : Word.highest? ((domain.usedWords values).filter Word.isFlag) with
  | none =>
    left
    intro power isPower isUsed
    rw [Word.highest?_eq_none_iff] at found
    obtain ⟨word, rfl⟩ := Word.exists_value_eq (Domain.contains_of_mem_powers isPower)
    have listed := mem_usedFlags.mpr ⟨isUsed, isPower⟩
    rw [found] at listed
    cases listed
  | some best =>
    right
    obtain ⟨bestMem, greatest⟩ := Word.highest?_eq_some_iff.mp found
    obtain ⟨bestUsed, bestPower⟩ := mem_usedFlags.mp bestMem
    refine ⟨best.value, bestPower, bestUsed, ?_⟩
    intro other isPower isUsed
    obtain ⟨word, rfl⟩ := Word.exists_value_eq (Domain.contains_of_mem_powers isPower)
    exact greatest word (mem_usedFlags.mpr ⟨isUsed, isPower⟩)

/-- Where no flag is in use, there is none to double. -/
theorem choose_aboveHighest_none (nonempty : values ≠ [])
    (unused : ∀ power ∈ domain.powers, power ∉ values) :
    Policy.aboveHighest.choose domain values = .error (.noPowerOfTwo domain) := by
  have empty : (domain.usedWords values).filter Word.isFlag = [] := by
    apply List.eq_nil_iff_forall_not_mem.mpr
    intro word listed
    obtain ⟨isUsed, isPower⟩ := mem_usedFlags.mp listed
    exact unused word.value isPower isUsed
  rw [choose_of_ne_nil _ _ nonempty, Choice.word, Choice.aboveHighest, empty]
  rfl

/-- The greatest power of two in use is doubled, unless it is the last flag of
the domain. -/
theorem choose_aboveHighest_some {power : Int} (isPower : power ∈ domain.powers)
    (isUsed : power ∈ values)
    (greatest : ∀ other ∈ domain.powers, other ∈ values → other ≤ power) :
    Policy.aboveHighest.choose domain values =
      if 2 * power ∈ domain.powers then .ok ⟨domain, 2 * power⟩
      else .error (.overflow power domain) := by
  obtain ⟨word, rfl⟩ := Word.exists_value_eq (Domain.contains_of_mem_powers isPower)
  have found : Word.highest? ((domain.usedWords values).filter Word.isFlag) = some word := by
    refine Word.highest?_eq_some_iff.mpr ⟨mem_usedFlags.mpr ⟨isUsed, isPower⟩, ?_⟩
    intro other listed
    obtain ⟨otherUsed, otherPower⟩ := mem_usedFlags.mp listed
    exact greatest other.value otherPower otherUsed
  rw [choose_of_ne_nil _ _ (List.ne_nil_of_mem isUsed), Choice.word, Choice.aboveHighest, found]
  simp only [Word.double_isPositive_iff isPower]
  split
  · next fits =>
    rw [← Word.double_value (Domain.contains_of_mem_powers fits)]
    rfl
  · rfl

/-- The choice of `aboveHighest` is above every flag in use. -/
theorem aboveHighest_exceeds {flag : Flag}
    (chosen : Policy.aboveHighest.choose domain values = .ok flag) {power : Int}
    (isPower : power ∈ domain.powers) (isUsed : power ∈ values) : power < flag.value := by
  rcases exists_greatest_power domain values with unused | ⟨best, bestPower, bestUsed, greatest⟩
  · exact absurd isUsed (unused power isPower)
  · rw [choose_aboveHighest_some bestPower bestUsed greatest] at chosen
    split at chosen
    · cases chosen
      have below := greatest power isPower isUsed
      have positive := Domain.pos_of_mem_powers bestPower
      dsimp only
      omega
    · cases chosen

/-- The choice of `aboveHighest` is free. -/
theorem aboveHighest_mem_freeFlags (nonempty : values ≠ []) {flag : Flag}
    (chosen : Policy.aboveHighest.choose domain values = .ok flag) :
    flag ∈ domain.freeFlags values := by
  have exceeds := @aboveHighest_exceeds domain values flag chosen
  rcases exists_greatest_power domain values with unused | ⟨best, bestPower, bestUsed, greatest⟩
  · rw [choose_aboveHighest_none nonempty unused] at chosen
    cases chosen
  · rw [choose_aboveHighest_some bestPower bestUsed greatest] at chosen
    split at chosen
    · next isPower =>
      cases chosen
      exact Domain.mem_freeFlags.mpr ⟨rfl, isPower, fun isUsed => (exceeds isPower isUsed).false⟩
    · cases chosen

end Policy

/-! ## What any chosen flag satisfies -/

/-- A flag that may be chosen beside the values in use: new, and a power of two
of the domain unless it is the zero that a first member gets. -/
structure Flag.Fits (flag : Flag) (domain : Domain) (values : List Int) : Prop where
  inDomain : flag.domain = domain
  unused : flag.value ∉ values
  zero : values = [] → flag.value = 0
  power : values ≠ [] → flag.value ∈ domain.powers

namespace Flag.Fits

variable {flag : Flag} {domain : Domain} {values : List Int}

/-- Only a first member gets zero. -/
theorem value_eq_zero_iff (fits : flag.Fits domain values) : flag.value = 0 ↔ values = [] := by
  constructor
  · intro isZero
    by_contra nonempty
    have positive := Domain.pos_of_mem_powers (fits.power nonempty)
    omega
  · exact fits.zero

/-- A flag that fits is a value of its domain. -/
theorem contained (fits : flag.Fits domain values) : domain.contains flag.value = true := by
  by_cases empty : values = []
  · rw [fits.zero empty]
    exact domain.contains_zero
  · exact Domain.contains_of_mem_powers (fits.power empty)

end Flag.Fits

namespace Policy

variable {domain : Domain} {values : List Int}

/-- Whatever a policy chooses is new to the values in use and has the right
shape. -/
theorem choose_fits {policy : Policy} {flag : Flag}
    (chosen : policy.choose domain values = .ok flag) : flag.Fits domain values := by
  by_cases empty : values = []
  · subst empty
    cases chosen
    exact ⟨rfl, List.not_mem_nil, fun _ => rfl, fun nonempty => absurd rfl nonempty⟩
  have free : flag ∈ domain.freeFlags values := by
    cases policy with
    | lowestFree => exact lowestFree_mem_freeFlags empty chosen
    | aboveHighest => exact aboveHighest_mem_freeFlags empty chosen
  obtain ⟨inDomain, power, unused⟩ := Domain.mem_freeFlags.mp free
  exact ⟨inDomain, unused, fun nil => absurd nil empty, fun _ => power⟩

/-! ## Repeated choices -/

/-- The flags that up to `count` choices give in turn, each counting as used for
those after it, and the error that ended them, if any. -/
def offers (policy : Policy) (domain : Domain) :
    Nat → List Int → List Flag × Option ChoiceError
  | 0, _ => ([], none)
  | count + 1, values =>
    match policy.choose domain values with
    | .error error => ([], some error)
    | .ok flag =>
      let (flags, error) := offers policy domain count (values ++ [flag.value])
      (flag :: flags, error)

/-- `fill` keeps the values of these flags. -/
theorem fill_eq_offers (policy : Policy) (domain : Domain) (count : Nat) (values : List Int) :
    policy.fill domain count values =
      ((policy.offers domain count values).1.map Flag.value,
        (policy.offers domain count values).2) := by
  induction count generalizing values with
  | zero => rfl
  | succ count inductionHypothesis =>
    rw [fill, offers]
    cases policy.choose domain values with
    | error error => rfl
    | ok flag => simp [inductionHypothesis]

/-- What `count` draws from the start of a list of flags give: the flags drawn,
and the error of a draw from the empty list, if there was one. -/
def drawn (domain : Domain) (flags : List Flag) (count : Nat) : List Flag × Option ChoiceError :=
  (flags.take count, if flags.length < count then some (.exhausted domain) else none)

/-- One draw takes the head; the rest is drawn from the tail. -/
theorem drawn_cons (domain : Domain) (flag : Flag) (flags : List Flag) (count : Nat) :
    drawn domain (flag :: flags) (count + 1) =
      (flag :: (drawn domain flags count).1, (drawn domain flags count).2) := by
  simp [drawn]

/-- Beside some values, `lowestFree` draws from the free flags again and again. -/
theorem offers_lowestFree_of_ne_nil (nonempty : values ≠ []) (count : Nat) :
    Policy.lowestFree.offers domain count values =
      drawn domain (domain.freeFlags values) count := by
  induction count generalizing values with
  | zero => simp [offers, drawn]
  | succ count inductionHypothesis =>
    rw [offers, choose_lowestFree nonempty]
    cases free : domain.freeFlags values with
    | nil => simp [drawn]
    | cons flag rest =>
      have next : Policy.lowestFree.offers domain count (values ++ [flag.value]) =
          drawn domain rest count := by
        rw [inductionHypothesis (by simp), Domain.freeFlags_append_head free]
      simp only [next, drawn_cons]

/-- Zero is no flag, so a first member that gets it leaves every flag free. -/
theorem freeFlags_zero (domain : Domain) : domain.freeFlags [0] = domain.freeFlags [] := by
  refine Domain.freeFlags_congr fun power isPower => ?_
  have positive := Domain.pos_of_mem_powers isPower
  simp only [List.mem_singleton, positive.ne', List.not_mem_nil]

/-- Repeated choices under `lowestFree` give the listed free flags in order and
then fail as exhausted. Where no value is in use yet, zero comes before them. -/
theorem lowestFree_draws_freeFlags (domain : Domain) (values : List Int) (count : Nat) :
    let flags :=
      if values = [] then .zero domain :: domain.freeFlags [] else domain.freeFlags values
    let failure := if flags.length < count then some (.exhausted domain) else none
    Policy.lowestFree.offers domain count values = (flags.take count, failure) ∧
      Policy.lowestFree.fill domain count values =
        ((flags.take count).map Flag.value, failure) := by
  intro flags failure
  have drawnFlags : Policy.lowestFree.offers domain count values = drawn domain flags count := by
    by_cases empty : values = []
    · -- Only the first choice takes the path of the empty list; it leaves the list `[0]`.
      subst empty
      cases count with
      | zero => simp [offers, drawn]
      | succ count =>
        have rest := @offers_lowestFree_of_ne_nil domain [0] (by simp) count
        rw [freeFlags_zero] at rest
        simp only [offers, choose_nil, List.nil_append, Flag.zero, rest, flags, if_true,
          drawn_cons]
    · simp only [flags, if_neg empty]
      exact offers_lowestFree_of_ne_nil empty count
  exact ⟨drawnFlags, by rw [fill_eq_offers, drawnFlags]; rfl⟩

end Policy
end FlagEnum
