import FlagEnum.Proofs.Document
import FlagEnum.Proofs.FlagText

/-!
# Hexadecimal cells

The table of an assignment shows the constants of a declaration beside the
values it was given. In hexadecimal, a given value fills the digits of its
domain, and so does a constant of the domain that is not negative. A negative
one shows its 128-bit pattern instead: the last digits are the pattern in the
domain, but there are always 32.
-/

namespace FlagEnum

/-! ## Printed rows -/

namespace Text.Table

variable {table : Table} {row : List String}

/-- The first line of a cell. -/
def firstLine (cell : String) : List Char :=
  (cellLines cell).getD 0 []

/-- The printed table has a line for the row, on which the first line of each of
its cells stands between two bars. -/
def Prints (table : Table) (row : List String) : Prop :=
  ∃ widths : List Nat, widths.length = row.length ∧
    '|' :: ['|'].intercalate (List.zipWith pad widths (row.map firstLine)) ++ ['|'] ∈ table.lines

private theorem length_columnWidths (even : ∀ row ∈ table.rows, row.length = table.header.length) :
    table.columnWidths.length = table.header.length := by
  obtain ⟨header, rows⟩ := table
  -- Each row takes the widths so far to as many widths.
  have kept : ∀ widths : List Nat, widths.length = header.length →
      (rows.foldl (fun widths row => List.zipWith max widths (row.map cellWidth)) widths).length =
        header.length := by
    induction rows with
    | nil => exact fun widths same => same
    | cons row rest inductionHypothesis =>
      simp only [List.forall_mem_cons] at even
      intro widths same
      refine inductionHypothesis even.2 _ ?_
      rw [List.length_zipWith, List.length_map, even.1, same, Nat.min_self]
  exact kept _ (List.length_map _)

private theorem mem_intercalate {α : Type} {separator group : List α} {groups : List (List α)}
    {item : α}
    (inGroup : item ∈ group) (isGroup : group ∈ groups) : item ∈ separator.intercalate groups := by
  induction groups with
  | nil => cases isGroup
  | cons first rest inductionHypothesis =>
    by_cases last : rest = []
    · rw [last, List.mem_singleton] at isGroup
      rwa [last, List.intercalate_singleton, ← isGroup]
    · rw [List.intercalate_cons_of_ne_nil last]
      rcases List.mem_cons.mp isGroup with rfl | inRest
      · simp [inGroup]
      · simp [inductionHypothesis inRest]

private theorem le_foldl_max (numbers : List Nat) (start : Nat) :
    start ≤ numbers.foldl max start := by
  induction numbers generalizing start with
  | nil => exact Nat.le_refl start
  | cons number rest inductionHypothesis =>
    exact (Nat.le_max_left start number).trans (inductionHypothesis (max start number))

/-- Every cell has a first line, so a row with cells is printed on one line at least. -/
theorem firstLine_mem_rowLines (widths : List Nat) (nonempty : row ≠ []) :
    rowLine widths (row.map cellLines) 0 ∈ rowLines widths row := by
  refine List.mem_map.mpr ⟨0, List.mem_range.mpr ?_, rfl⟩
  obtain ⟨cell, rest, rfl⟩ := List.exists_cons_of_ne_nil nonempty
  have lines : 0 < (cellLines cell).length := List.length_pos_iff.mpr (List.splitOn_ne_nil _ _)
  have least := le_foldl_max ((rest.map cellLines).map List.length) (max 0 (cellLines cell).length)
  simp only [List.map_cons, List.foldl_cons]
  omega

/-- Rows that have a cell for each column of the header are all printed. -/
theorem prints_of_mem (even : ∀ row ∈ table.rows, row.length = table.header.length)
    (nonempty : row ≠ []) (isRow : row ∈ table.rows) : table.Prints row := by
  refine ⟨table.columnWidths, (length_columnWidths even).trans (even row isRow).symm, ?_⟩
  have line := firstLine_mem_rowLines table.columnWidths nonempty
  rw [rowLine, List.zipWith_map_right] at line
  rw [List.zipWith_map_right]
  exact List.mem_append_left _ (List.mem_append_right _
    (mem_intercalate line (List.mem_map_of_mem isRow)))

end Text.Table

/-! ## Cells in hexadecimal -/

namespace Flag

open Literal

/-- A cell shows a value of the domain in hexadecimal: on its one line stands the
mark, and behind it digits in upper case that denote the value up to the word
size. -/
structure ShownBy (flag : Flag) (cell : String) (digits : List Char) : Prop where
  text : cell = String.ofList ('0' :: 'x' :: digits)
  printed : Text.Table.firstLine cell = '0' :: 'x' :: digits
  upper : ∀ character ∈ digits, character ∈ upperAlphabet
  number : (magnitude 16 (digits.map Char.toLower) : Int) ≡ flag.value [ZMOD 2 ^ flag.domain.bits]

private theorem firstLine_hexadecimal {digits : List Char}
    (upper : ∀ character ∈ digits, character ∈ upperAlphabet) :
    Text.Table.firstLine (String.ofList ('0' :: 'x' :: digits)) = '0' :: 'x' :: digits := by
  have noLineFeed : '\n' ∉ '0' :: 'x' :: digits := by
    have absent : '\n' ∉ upperAlphabet := by decide
    simp only [List.mem_cons, not_or]
    exact ⟨by decide, by decide, fun written => absent (upper _ written)⟩
  rw [Text.Table.firstLine, Text.Table.cellLines, String.toList_ofList,
    List.splitOn_eq_singleton noLineFeed]
  rfl

/-- The hexadecimal text of a flag shows it. -/
theorem toHex_shown (flag : Flag) :
    flag.ShownBy flag.toHex (flag.paddedDigits.map Char.toUpper) := by
  have upper : ∀ character ∈ flag.paddedDigits.map Char.toUpper, character ∈ upperAlphabet := by
    rw [List.forall_mem_map]
    exact fun character written => toUpper_mem_upperAlphabet (mem_paddedDigits written)
  refine ⟨flag.toHex_eq, ?_, upper, ?_⟩
  · rw [toHex_eq, firstLine_hexadecimal upper]
  · rw [map_toLower_map_toUpper fun _ => mem_paddedDigits, magnitude_paddedDigits,
      Int.toNat_of_nonneg (Int.emod_nonneg _ (by norm_num))]
    have narrower := flag.domain.bits_le
    exact (Int.mod_modEq _ _).of_dvd (pow_dvd_pow 2 (by omega))

/-- A negative value of a domain has the pattern of 128 bits with all its digits. -/
theorem length_digits_of_neg {domain : Domain} {value : Int}
    (inside : domain.contains value = true) (negative : value < 0) :
    (Nat.digits 16 (value % 2 ^ 128).toNat).length = 32 := by
  have least := (Report.isStorable_iff.mp (Report.isStorable_of_contains inside)).1
  -- The pattern lies just below `2 ^ 128`, so none of its digits is a leading zero.
  have atMost := (@Nat.digits_length_le_iff 16 32 (by omega) (value % 2 ^ 128).toNat).mpr (by omega)
  have atLeast := (@Nat.lt_digits_length_iff 16 31 (by omega) (value % 2 ^ 128).toNat).mpr (by omega)
  omega

/-- A value of the domain takes the digits of its width, unless it is negative. -/
theorem length_paddedDigits_of_contains {flag : Flag}
    (inside : flag.domain.contains flag.value = true) :
    flag.paddedDigits.length = if flag.value < 0 then 32 else flag.domain.bits / 4 := by
  have narrower := flag.domain.bits_le
  rw [length_paddedDigits]
  split
  · next negative =>
    rw [length_digits_of_neg inside negative]
    exact max_eq_right (by omega)
  · next nonneg =>
    have bounded := (Report.isStorable_iff.mp (Report.isStorable_of_contains inside)).2
    rw [pattern_of_nonneg (by omega) (by omega)]
    exact max_eq_left (length_digits_le inside)

/-- The hexadecimal digits of a value of the domain fill its width exactly, unless
the value is negative. -/
theorem length_paddedDigits_eq_iff {flag : Flag}
    (inside : flag.domain.contains flag.value = true) :
    flag.paddedDigits.length = flag.domain.bits / 4 ↔ 0 ≤ flag.value := by
  have narrower := flag.domain.bits_le
  rw [length_paddedDigits_of_contains inside]
  split <;> omega

end Flag

/-! ## The table of an assignment -/

namespace Report

open Text

variable {declaration : Declaration} {policy : Policy} {color : Bool} {report : Report}

/-- The row of a member, as a table in hexadecimal prints it. The cell of a
constant of the domain has the digits of the domain's width exactly where the
constant is not negative; a negative one has 32. -/
def ShowsMember (table : Table) (domain : Domain) (member : Member) (row : List String) : Prop :=
  ∃ cell mark, row = [member.name, cell, mark] ∧ table.Prints row ∧
    ∀ value, member.value = some value → domain.contains value = true →
      ∃ digits, Flag.ShownBy ⟨domain, value⟩ cell digits ∧
        (digits.length = domain.bits / 4 ↔ 0 ≤ value) ∧ (value < 0 → digits.length = 32)

/-- A row that is printed shows its member. -/
theorem memberRow_shows {table : Table} {domain : Domain} {offers : List NamedFlag}
    {member : Member} (printed : table.Prints (memberRow domain offers ⟨false, true, color⟩ member)) :
    ShowsMember table domain member (memberRow domain offers ⟨false, true, color⟩ member) := by
  refine ⟨_, _, rfl, printed, ?_⟩
  intro value isValue inside
  let flag : Flag := ⟨domain, value⟩
  have length := @Flag.length_paddedDigits_of_contains flag inside
  have fits := @Flag.length_paddedDigits_eq_iff flag inside
  refine ⟨flag.paddedDigits.map Char.toUpper, ?_, ?_, ?_⟩
  · rw [isValue]
    exact flag.toHex_shown
  · rwa [List.length_map]
  · intro negative
    rw [List.length_map, length, if_pos negative]

/-- The table of a declaration into which offers are written. -/
def assignTable (declaration : Declaration) (offers : List NamedFlag) (domain : Domain)
    (format : Format) : Table :=
  ⟨["Member", "Value", ""],
    (declaration.record offers).members.map (memberRow domain offers format)⟩

/-- The plain report on an assignment that was made starts with the table of the
updated declaration. -/
theorem assign_plain (hex : Bool)
    (reported : assign declaration policy ⟨false, hex, color⟩ = some report)
    (produced : report.produced = true) :
    ∃ offers domain, declaration.assign Member.value policy = some offers ∧
      declaration.domain = .ok domain ∧
      (assignTable declaration offers domain ⟨false, hex, color⟩).render.toList <+:
        report.out.toList := by
  unfold assign at reported
  cases assigned : declaration.assign Member.value policy with
  | none =>
    rw [assigned] at reported
    cases reported
    cases produced
  | some offers =>
    obtain ⟨domain, offered, _⟩ := Declaration.assign_eq_some_iff.mp assigned
    simp only [assigned, offered, Bool.false_eq_true, if_false, Option.some.injEq] at reported
    refine ⟨offers, domain, rfl, (Declaration.offerDomain?_eq_some_iff.mp offered).2, ?_⟩
    rw [← reported]
    simp only [String.toList_append, List.append_assoc, assignTable]
    exact List.prefix_append _ _

/-- The output starts with a table in hexadecimal, with a row for each member of
the updated declaration, in order. -/
def TabulatesHex (report : Report) (declaration : Declaration) (policy : Policy) : Prop :=
  ∃ (offers : List NamedFlag) (domain : Domain) (table : Table),
    declaration.assign Member.value policy = some offers ∧ declaration.domain = .ok domain ∧
    table.render.toList <+: report.out.toList ∧
    List.Forall₂ (ShowsMember table domain) (declaration.record offers).members table.rows

/-- Wherever values are assigned and reported in hexadecimal, the table shows
each constant of the domain by digits that denote it up to the word size. They
fit the width of the domain if and only if the constant is not negative. -/
theorem assign_hexCells (reported : assign declaration policy ⟨false, true, color⟩ = some report)
    (produced : report.produced = true) : report.TabulatesHex declaration policy := by
  obtain ⟨offers, domain, assigned, isDomain, printed⟩ := assign_plain true reported produced
  refine ⟨offers, domain, _, assigned, isDomain, printed, ?_⟩
  rw [assignTable, List.forall₂_map_right_iff, List.forall₂_same]
  intro member isMember
  refine memberRow_shows (Table.prints_of_mem ?_ (List.cons_ne_nil _ _)
    (List.mem_map_of_mem isMember))
  exact List.forall_mem_map.mpr fun _ _ => rfl

/-- The least value of the domain, a flag, and a member that is given a value: only
the first does not fit. -/
theorem assign_hexCells_signed :
    let mask : Declaration :=
      { name := "Mask"
        typeName := "sbyte"
        isFlags := true
        members := [⟨"Sign", some (-128)⟩, ⟨"Low", some 1⟩, ⟨"New", none⟩] }
    ∃ report, assign mask .lowestFree ⟨false, true, false⟩ = some report ∧
      report.produced = true ∧ report.TabulatesHex mask .lowestFree ∧
      Flag.toHex ⟨.sbyte, -128⟩ = "0xFFFFFFFFFFFFFFFFFFFFFFFFFFFFFF80" ∧
      Flag.toHex ⟨.sbyte, 1⟩ = "0x01" ∧ Flag.toHex ⟨.sbyte, 2⟩ = "0x02" := by
  intro mask
  have answer :
      (assign mask .lowestFree ⟨false, true, false⟩).map Report.produced = some true := by
    decide
  obtain ⟨report, reported, produced⟩ := Option.map_eq_some_iff.mp answer
  exact ⟨report, reported, produced, assign_hexCells reported produced, by decide, by decide,
    by decide⟩

/-- A constant of eight bits is shown with the digits of 128. -/
theorem assign_hexCells_overlong :
    let negative : Declaration :=
      { name := "E", typeName := "sbyte", isFlags := true, members := [⟨"A", some (-1)⟩] }
    let format : Format := ⟨false, true, false⟩
    (assign negative .lowestFree format).map Report.produced = some true ∧
      negative.assign Member.value .lowestFree = some [] ∧
      (assignTable negative [] .sbyte format).rows =
        [["A", "0xFFFFFFFFFFFFFFFFFFFFFFFFFFFFFFFF", ""]] ∧
      Domain.sbyte.contains (-1) = true ∧ Domain.sbyte.bits / 4 = 2 := by
  decide

end Report

end FlagEnum
