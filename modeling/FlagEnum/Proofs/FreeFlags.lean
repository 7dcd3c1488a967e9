import FlagEnum.Proofs.Capacity
import FlagEnum.Proofs.Selection
import FlagEnum.Report
import Mathlib.Data.Set.Card

/-!
# Free flags, listed and counted

Every flag of a domain is either listed as free or among the values in use, and
never both. The values may repeat, lie outside the domain or be no flags at
all, so it is the distinct flags among them that are counted. The report on
free flags ends with both numbers: those listed, and those listed or in use.
-/

namespace FlagEnum

namespace Domain

variable {domain : Domain} {values : List Int}

/-- The free values are the powers of two below the top that are not in use. -/
theorem mem_freeFlags_values {value : Int} :
    value ∈ (domain.freeFlags values).map Flag.value ↔
      (∃ exponent < domain.slots, value = 2 ^ exponent) ∧ value ∉ values := by
  rw [← mem_powers, List.mem_map]
  constructor
  · rintro ⟨flag, free, rfl⟩
    exact (mem_freeFlags.mp free).2
  · intro isFree
    exact ⟨⟨domain, value⟩, mem_freeFlags.mpr ⟨rfl, isFree⟩, rfl⟩

/-- The flags in use are those that the list of free flags leaves out. -/
theorem usedPowers_eq (domain : Domain) (values : List Int) :
    domain.usedPowers values =
      ((domain.powers.filter fun power => power ∈ values).toFinset : Set Int) := by
  ext value
  rw [mem_usedPowers, Finset.mem_coe, List.mem_toFinset, List.mem_filter, decide_eq_true_eq,
    and_comm]

private theorem ncard_usedPowers (domain : Domain) (values : List Int) :
    (domain.usedPowers values).ncard =
      (domain.powers.filter fun power => power ∈ values).length := by
  have distinct : domain.powers.Nodup := domain.powers_increasing.imp ne_of_lt
  rw [usedPowers_eq, Set.ncard_coe_finset, List.toFinset_card_of_nodup (distinct.filter _)]

/-- A flag that is not free is in use once, however often a value repeats it. -/
theorem length_freeFlags_add_used (domain : Domain) (values : List Int) :
    (domain.freeFlags values).length + (domain.usedPowers values).ncard = domain.slots := by
  have parts := List.length_eq_length_filter_add (l := domain.powers)
    fun power => decide (power ∉ values)
  have others : (domain.powers.filter fun power => !decide (power ∉ values)) =
      domain.powers.filter fun power => decide (power ∈ values) := by
    simp only [decide_not, Bool.not_not]
  rw [others, length_powers] at parts
  rw [freeFlags_eq, List.length_map, ncard_usedPowers, parts]

end Domain

namespace Report

open Text

/-- The last line of the report on free flags: how many are free, and of how
many. -/
def slotsLine (color : Bool) (free total : Nat) (domain : Domain) : String :=
  Style.greenBold.paint color (String.ofList (decimalDigits free)) ++ " of " ++
    String.ofList (decimalDigits total) ++ " slots free in " ++ domain.keyword ++ "\n"

private theorem list_plain {values : List Int} {domain : Domain} (hex color : Bool)
    (anyFree : domain.freeFlags values ≠ []) :
    (list values domain ⟨false, hex, color⟩).out =
      Table.render ⟨["Bit", "Value", "Shift"], (domain.freeFlags values).map (flagRow hex)⟩ ++
        "\n" ++ slotsLine color (domain.freeFlags values).length domain.slots domain := by
  have listed : (domain.freeFlags values).isEmpty = false := List.isEmpty_eq_false_iff.mpr anyFree
  simp only [list, listed, Bool.false_eq_true, if_false, slotsLine, count, String.append_assoc]

end Report

/-- The free flags beside any values are listed upwards, in their domain and
without an omission. Together with the distinct values that are flags they make
up all slots of the domain, which is the total under the table that shows them. -/
theorem Domain.freeFlags_exact (domain : Domain) (values : List Int) :
    let free := domain.freeFlags values
    let used := (domain.usedPowers values).ncard
    (free.map Flag.value).Pairwise (· < ·) ∧
    (∀ value, value ∈ free.map Flag.value ↔
      (∃ exponent < domain.slots, value = 2 ^ exponent) ∧ value ∉ values) ∧
    (∀ flag ∈ free, flag.domain = domain) ∧
    free.length + used = domain.slots ∧
    ∀ hex color, free ≠ [] → ∃ table : Text.Table, table.rows = free.map (Report.flagRow hex) ∧
      (Report.list values domain ⟨false, hex, color⟩).out =
        table.render ++ "\n" ++ Report.slotsLine color free.length (free.length + used) domain := by
  intro free used
  have total : free.length + used = domain.slots := domain.length_freeFlags_add_used values
  refine ⟨?_, fun value => mem_freeFlags_values, ?_, total, ?_⟩
  · exact List.pairwise_map.mpr (domain.freeFlags_increasing values)
  · intro flag isFree
    exact (mem_freeFlags.mp isFree).1
  · intro hex color anyFree
    rw [total]
    exact ⟨_, rfl, Report.list_plain hex color anyFree⟩

end FlagEnum
