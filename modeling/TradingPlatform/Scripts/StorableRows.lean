/-
  TradingPlatform.Scripts.StorableRows

  Which accepted records of a CSV file the `market_data` table can store.

  The parser accepts any positive price and any nonnegative volume; the columns
  round a price to eight digits after the point and bound both.  A record outside
  `RawRow.InColumnRange` is accepted and then fails the whole import.

  PostgreSQL also bounds the digits of a numeral as it is sent, before it is
  rounded to the column (16383 after the point); that bound is not modelled.
-/

import TradingPlatform.Scripts.CsvImport

namespace TradingPlatform
namespace Scripts

open Python

-- ============================================================================
-- Rounding
-- ============================================================================

/-- Half a unit of the last digit of a price column. -/
def halfUnit : Decimal := 1 / 200000000

/-- A price that does not round to zero, and does not round up to the bound of its column. -/
def PriceInRange (price : Decimal) : Prop :=
  halfUnit ≤ price ∧ price < 10000000000 - halfUnit

instance (price : Decimal) : Decidable (PriceInRange price) :=
  inferInstanceAs (Decidable (_ ∧ _))

theorem roundToScale_of_nonneg {price : Decimal} (h : 0 ≤ price) :
    roundToScale price = ⌊price * priceScale + 1 / 2⌋ / priceScale :=
  if_pos h

theorem priceScale_pos : 0 < priceScale := by decide +kernel

theorem roundToScale_mono {low high : Decimal} (hlow : 0 ≤ low) (hle : low ≤ high) :
    roundToScale low ≤ roundToScale high := by
  rw [roundToScale_of_nonneg hlow, roundToScale_of_nonneg (hlow.trans hle)]
  have hscaled : low * priceScale + 1 / 2 ≤ high * priceScale + 1 / 2 := by
    have hmul := mul_le_mul_of_nonneg_right hle priceScale_pos.le
    linarith
  have hfloor : (⌊low * priceScale + 1 / 2⌋ : Decimal) ≤ ⌊high * priceScale + 1 / 2⌋ := by
    exact_mod_cast Int.floor_le_floor hscaled
  exact div_le_div_of_nonneg_right hfloor priceScale_pos.le

theorem roundToScale_nonneg {price : Decimal} (h : 0 ≤ price) : 0 ≤ roundToScale price := by
  have hzero : roundToScale 0 = 0 := by decide +kernel
  rw [← hzero]
  exact roundToScale_mono le_rfl h

theorem roundToScale_pos_iff {price : Decimal} (h : 0 < price) :
    0 < roundToScale price ↔ halfUnit ≤ price := by
  rw [roundToScale_of_nonneg h.le, div_pos_iff_of_pos_right priceScale_pos, Int.cast_pos,
    Int.floor_pos, halfUnit, priceScale]
  constructor <;> intro hle <;> linarith

theorem roundToScale_lt_iff {price : Decimal} (h : 0 < price) :
    roundToScale price < 10000000000 ↔ price < 10000000000 - halfUnit := by
  have hbound : (10000000000 : Decimal) * priceScale = ((1000000000000000000 : Int) : Decimal) := by
    rw [priceScale]
    norm_num
  rw [roundToScale_of_nonneg h.le, div_lt_iff₀ priceScale_pos, hbound, Int.cast_lt, Int.floor_lt,
    halfUnit, priceScale]
  push_cast
  constructor <;> intro hlt <;> linarith

theorem numericValue_eq_ok_iff {price stored : Decimal} (h : 0 < price) :
    numericValue price = .ok stored ↔
      price < 10000000000 - halfUnit ∧ stored = roundToScale price := by
  rw [numericValue, abs_of_nonneg (roundToScale_nonneg h.le)]
  split
  · rename_i hlt
    rw [Except.ok.injEq]
    exact ⟨fun heq => ⟨(roundToScale_lt_iff h).mp hlt, heq.symm⟩, fun heq => heq.2.symm⟩
  · rename_i hge
    exact iff_of_false nofun fun heq => hge ((roundToScale_lt_iff h).mpr heq.1)

-- ============================================================================
-- Rows
-- ============================================================================

/-- `char_length(symbol) between 1 and 20 and symbol = upper(symbol)` -/
def SymbolValid (upper : String → String) (symbol : String) : Prop :=
  1 ≤ symbol.length ∧ symbol.length ≤ 20 ∧ symbol = upper symbol

/-- The values of the row are in the ranges of their columns. -/
structure MarketDataRow.InColumnRange (row : MarketDataRow) : Prop where
  openPrice : PriceInRange row.openPrice
  highPrice : PriceInRange row.highPrice
  lowPrice : PriceInRange row.lowPrice
  closePrice : PriceInRange row.closePrice
  adjustedClose : ∀ adjustedClose ∈ row.adjustedClose, PriceInRange adjustedClose
  volume : row.volume ≤ 9223372036854775807

section Row

variable {upper : String → String} {symbol : String} {row : MarketDataRow}

theorem nullableNumericValue_eq_ok {value stored : Option Decimal}
    (h : nullableNumericValue value = .ok stored) (hpos : ∀ price ∈ value, 0 < price) :
    ∀ price ∈ value, price < 10000000000 - halfUnit ∧ stored = some (roundToScale price) := by
  rintro price ⟨⟩
  obtain ⟨rounded, hrounded, h⟩ := bind_eq_ok (f := fun r => .ok (some r)) (b := stored) h
  cases h
  obtain ⟨hlt, rfl⟩ := (numericValue_eq_ok_iff (hpos price rfl)).mp hrounded
  exact ⟨hlt, rfl⟩

theorem inColumnRange_of_stored (hrow : row.Consistent) {stored : MarketData}
    (h : storedRow upper symbol "1d" row = .ok stored) : row.InColumnRange := by
  obtain ⟨openPrice, hopen, h⟩ := bind_eq_ok h
  obtain ⟨highPrice, hhigh, h⟩ := bind_eq_ok h
  obtain ⟨lowPrice, hlow, h⟩ := bind_eq_ok h
  obtain ⟨closePrice, hclose, h⟩ := bind_eq_ok h
  obtain ⟨volume, hvolume, h⟩ := bind_eq_ok h
  obtain ⟨adjustedClose, hadjusted, h⟩ := bind_eq_ok h
  obtain ⟨⟨⟩, hcheck, -⟩ := bind_eq_ok h
  obtain ⟨hopenLt, rfl⟩ := (numericValue_eq_ok_iff hrow.openPrice_pos).mp hopen
  obtain ⟨hhighLt, rfl⟩ := (numericValue_eq_ok_iff hrow.highPrice_pos).mp hhigh
  obtain ⟨hlowLt, rfl⟩ := (numericValue_eq_ok_iff hrow.lowPrice_pos).mp hlow
  obtain ⟨hcloseLt, rfl⟩ := (numericValue_eq_ok_iff hrow.closePrice_pos).mp hclose
  -- the check on positive prices was passed
  unfold MarketData.check at hcheck
  split at hcheck
  · cases hcheck
  split at hcheck
  · cases hcheck
  split at hcheck
  · cases hcheck
  rename_i hpositive
  obtain ⟨hopenPos, hhighPos, hlowPos, hclosePos, hadjustedPos⟩ := not_not.mp hpositive
  refine ⟨⟨(roundToScale_pos_iff hrow.openPrice_pos).mp hopenPos, hopenLt⟩,
    ⟨(roundToScale_pos_iff hrow.highPrice_pos).mp hhighPos, hhighLt⟩,
    ⟨(roundToScale_pos_iff hrow.lowPrice_pos).mp hlowPos, hlowLt⟩,
    ⟨(roundToScale_pos_iff hrow.closePrice_pos).mp hclosePos, hcloseLt⟩, ?_, ?_⟩
  · intro price hprice
    obtain ⟨hlt, hstored⟩ :=
      nullableNumericValue_eq_ok hadjusted hrow.adjustedClose_pos price hprice
    exact ⟨(roundToScale_pos_iff (hrow.adjustedClose_pos price hprice)).mp
      (hadjustedPos _ hstored), hlt⟩
  · unfold bigintValue at hvolume
    split at hvolume
    · rename_i hrange
      exact hrange.2
    · cases hvolume

theorem stored_of_inColumnRange (hsymbol : SymbolValid upper symbol) (hrow : row.Consistent)
    (h : row.InColumnRange) : ∃ stored, storedRow upper symbol "1d" row = .ok stored := by
  have hopen := (numericValue_eq_ok_iff hrow.openPrice_pos).mpr ⟨h.openPrice.2, rfl⟩
  have hhigh := (numericValue_eq_ok_iff hrow.highPrice_pos).mpr ⟨h.highPrice.2, rfl⟩
  have hlow := (numericValue_eq_ok_iff hrow.lowPrice_pos).mpr ⟨h.lowPrice.2, rfl⟩
  have hclose := (numericValue_eq_ok_iff hrow.closePrice_pos).mpr ⟨h.closePrice.2, rfl⟩
  have hvolume : bigintValue row.volume = .ok row.volume := by
    have hnonneg := hrow.volume_nonneg
    exact if_pos ⟨by omega, h.volume⟩
  have hadjusted : nullableNumericValue row.adjustedClose =
      .ok (row.adjustedClose.map roundToScale) := by
    cases hvalue : row.adjustedClose with
    | none => rfl
    | some price =>
        have hpos := hrow.adjustedClose_pos price hvalue
        have hrounded := (numericValue_eq_ok_iff hpos).mpr ⟨(h.adjustedClose price hvalue).2, rfl⟩
        rw [nullableNumericValue, hrounded]
        rfl
  have hrange : roundToScale row.lowPrice ≤ roundToScale row.openPrice ∧
      roundToScale row.openPrice ≤ roundToScale row.highPrice ∧
      roundToScale row.lowPrice ≤ roundToScale row.closePrice ∧
      roundToScale row.closePrice ≤ roundToScale row.highPrice :=
    ⟨roundToScale_mono hrow.lowPrice_pos.le hrow.low_le_open,
      roundToScale_mono hrow.openPrice_pos.le hrow.open_le_high,
      roundToScale_mono hrow.lowPrice_pos.le hrow.low_le_close,
      roundToScale_mono hrow.closePrice_pos.le hrow.close_le_high⟩
  have hpositive : 0 < roundToScale row.openPrice ∧ 0 < roundToScale row.highPrice ∧
      0 < roundToScale row.lowPrice ∧ 0 < roundToScale row.closePrice ∧
      ∀ adjustedClose ∈ row.adjustedClose.map roundToScale, 0 < adjustedClose := by
    refine ⟨(roundToScale_pos_iff hrow.openPrice_pos).mpr h.openPrice.1,
      (roundToScale_pos_iff hrow.highPrice_pos).mpr h.highPrice.1,
      (roundToScale_pos_iff hrow.lowPrice_pos).mpr h.lowPrice.1,
      (roundToScale_pos_iff hrow.closePrice_pos).mpr h.closePrice.1, ?_⟩
    intro rounded hrounded
    obtain ⟨price, hprice, rfl⟩ := Option.mem_map.mp hrounded
    exact (roundToScale_pos_iff (hrow.adjustedClose_pos price hprice)).mpr
      (h.adjustedClose price hprice).1
  have hcheck : MarketData.check upper ⟨symbol, "1d", row.timestamp, roundToScale row.openPrice,
      roundToScale row.highPrice, roundToScale row.lowPrice, roundToScale row.closePrice,
      row.adjustedClose.map roundToScale, row.volume⟩ = .ok () := by
    rw [SymbolValid] at hsymbol
    rw [MarketData.check, if_neg (not_not.mpr rfl), if_neg (not_not.mpr hrange),
      if_neg (not_not.mpr hpositive), if_neg (not_not.mpr hsymbol),
      if_neg (not_not.mpr hrow.volume_nonneg)]
  refine ⟨⟨symbol, "1d", row.timestamp, roundToScale row.openPrice, roundToScale row.highPrice,
    roundToScale row.lowPrice, roundToScale row.closePrice, row.adjustedClose.map roundToScale,
    row.volume⟩, ?_⟩
  rw [storedRow, hopen, ok_bind, hhigh, ok_bind, hlow, ok_bind, hclose, ok_bind, hvolume, ok_bind,
    hadjusted, ok_bind]
  dsimp only
  rw [hcheck]
  rfl

/-- The table stores a consistent row exactly if its values are in range. -/
theorem storable_iff (hsymbol : SymbolValid upper symbol) (hrow : row.Consistent) :
    (∃ stored, storedRow upper symbol "1d" row = .ok stored) ↔ row.InColumnRange :=
  ⟨fun ⟨_, hstored⟩ => inColumnRange_of_stored hrow hstored,
    stored_of_inColumnRange hsymbol hrow⟩

end Row

-- ============================================================================
-- Records
-- ============================================================================

/-- The number that a field of the record spells. -/
def RawRow.number (rawRow : RawRow) (column : String) : Option Decimal :=
  match decimalOfText (strip ((rawRow.get column).getD "")) with
  | some (.finite value) => some value
  | _ => none

/-- The integer that a field of the record spells. -/
def RawRow.integer (rawRow : RawRow) (column : String) : Option Int :=
  intOfText (strip ((rawRow.get column).getD ""))

/-- The numbers of the record are in the ranges of their columns. -/
structure RawRow.InColumnRange (rawRow : RawRow) : Prop where
  prices : ∀ column ∈ ["open", "high", "low", "close", "adjusted_close"],
    ∀ price ∈ rawRow.number column, PriceInRange price
  volume : ∀ volume ∈ rawRow.integer "volume", volume ≤ 9223372036854775807

instance (rawRow : RawRow) : Decidable rawRow.InColumnRange :=
  decidable_of_iff
    ((∀ column ∈ ["open", "high", "low", "close", "adjusted_close"],
        ∀ price ∈ rawRow.number column, PriceInRange price) ∧
      ∀ volume ∈ rawRow.integer "volume", volume ≤ 9223372036854775807)
    ⟨fun ⟨hprices, hvolume⟩ => ⟨hprices, hvolume⟩, fun ⟨hprices, hvolume⟩ => ⟨hprices, hvolume⟩⟩

section Record

variable {rawRow : RawRow} {row : MarketDataRow} {column : String}

theorem number_of_parseDecimal {price : Decimal}
    (h : parseDecimal (rawRow.get column) column = .ok price) :
    rawRow.number column = some price := by
  unfold parseDecimal at h
  split at h
  · cases h
  · split at h
    · cases h
    · cases h
    · rename_i hvalue
      cases h
      -- `rw` with the definition would first compute its equation, slowly
      delta RawRow.number
      rw [hvalue]

theorem number_of_parsePositiveDecimal {price : Decimal}
    (h : parsePositiveDecimal (rawRow.get column) column = .ok price) :
    rawRow.number column = some price :=
  number_of_parseDecimal (parsePositiveDecimal_eq_ok h).1

theorem number_of_parseOptionalPositiveDecimal {price : Option Decimal}
    (h : parseOptionalPositiveDecimal (rawRow.get column) column = .ok price) :
    rawRow.number column = price := by
  unfold parseOptionalPositiveDecimal at h
  split at h
  · rename_i hblank
    cases h
    have hempty : strip ((rawRow.get column).getD "") = "" := of_decide_eq_true hblank
    delta RawRow.number
    rw [hempty]
    rfl
  · cases hvalue : parsePositiveDecimal (rawRow.get column) column with
    | error e =>
        rw [hvalue] at h
        cases h
    | ok value =>
        rw [hvalue] at h
        obtain rfl := Except.ok.inj h
        exact number_of_parsePositiveDecimal hvalue

theorem integer_of_parseNonnegativeInteger {volume : Int}
    (h : parseNonnegativeInteger (rawRow.get column) column = .ok volume) :
    rawRow.integer column = some volume := by
  unfold parseNonnegativeInteger at h
  split at h
  · cases h
  · split at h
    · cases h
    · rename_i hvalue
      split at h
      · cases h
      · cases h
        exact hvalue

/-- The row of an accepted record has the numbers of the record. -/
theorem Accepts.inColumnRange_iff (h : Accepts rawRow row) :
    row.InColumnRange ↔ rawRow.InColumnRange := by
  have hopen := number_of_parsePositiveDecimal h.openPrice
  have hhigh := number_of_parsePositiveDecimal h.highPrice
  have hlow := number_of_parsePositiveDecimal h.lowPrice
  have hclose := number_of_parsePositiveDecimal h.closePrice
  have hadjusted := number_of_parseOptionalPositiveDecimal h.adjustedClose
  have hvolume := integer_of_parseNonnegativeInteger h.volume
  constructor
  · intro hrow
    refine ⟨?_, ?_⟩
    · simp only [List.forall_mem_cons, hopen, hhigh, hlow, hclose, hadjusted,
        Option.mem_some_iff, forall_eq']
      exact ⟨hrow.openPrice, hrow.highPrice, hrow.lowPrice, hrow.closePrice,
        hrow.adjustedClose, nofun⟩
    · rw [hvolume]
      rintro _ ⟨⟩
      exact hrow.volume
  · intro hrecord
    have hprices := hrecord.prices
    simp only [List.forall_mem_cons, hopen, hhigh, hlow, hclose, hadjusted,
      Option.mem_some_iff, forall_eq'] at hprices
    obtain ⟨hopenRange, hhighRange, hlowRange, hcloseRange, hadjustedRange, -⟩ := hprices
    exact ⟨hopenRange, hhighRange, hlowRange, hcloseRange, hadjustedRange,
      hrecord.volume _ hvolume⟩

end Record

-- ============================================================================
-- Imports
-- ============================================================================

theorem exists_stores_iff {upper : String → String} {symbol interval : String}
    {rows : List MarketDataRow} :
    (∃ stored, Stores upper symbol interval rows stored) ↔
      ∀ row ∈ rows, ∃ stored, storedRow upper symbol interval row = .ok stored := by
  induction rows with
  | nil => exact iff_of_true ⟨[], rfl⟩ nofun
  | cons row rows ih =>
      rw [List.forall_mem_cons, ← ih]
      constructor
      · rintro ⟨stored, hstores⟩
        obtain ⟨first, rest, rfl, hfirst, hrest⟩ := stores_cons hstores
        exact ⟨⟨first, hfirst⟩, rest, hrest⟩
      · rintro ⟨⟨first, hfirst⟩, rest, hrest⟩
        refine ⟨first :: rest, ?_⟩
        rw [Stores] at hrest
        rw [Stores, List.mapM_cons, hfirst, ok_bind, hrest]
        rfl

theorem exists_parseMarketCsv {file : CsvFile}
    (hcolumns : ∀ column ∈ requiredColumns, column ∈ file.fieldnames) :
    ∃ rows summary, parseMarketCsv file = .ok (rows, summary) := by
  obtain ⟨state, hstate, -⟩ := parseRecords_spec file.records ParseState.parsed_initial 2
  have hpresent : requiredColumns.filter (fun column => column ∉ file.fieldnames) = [] := by
    rw [List.filter_eq_nil_iff]
    intro column hcolumn
    simpa using hcolumns column hcolumn
  refine ⟨state.rows, state.summary, ?_⟩
  rw [parseMarketCsv, hpresent]
  simp [hstate, pure, Except.pure, bind, Except.bind]

/-- An accepted record can be stored exactly if its numbers are in the ranges of the columns;
    an import returns exactly if every record that it keeps is such a record. -/
theorem importMarketCsv_rowNeverFatal_iff (upper : String → String) (path : String)
    (file : CsvFile) (prior : MarketDataTable) (symbol : String) (batchSize : Int)
    (hsymbol : SymbolValid upper symbol) (hsize : 0 < batchSize)
    (hcolumns : ∀ column ∈ requiredColumns, column ∈ file.fieldnames) :
    (∀ rawRow row, parseMarketRow rawRow = .ok row →
      ((∃ stored, storedRow upper symbol "1d" row = .ok stored) ↔ rawRow.InColumnRange)) ∧
    ((∃ result, importMarketCsv upper path (some file) prior symbol "1d" batchSize = .ok result) ↔
      ∀ rawRow ∈ file.records, ∀ row, parseMarketRow rawRow = .ok row →
        firstAccepted file.records row.timestamp = some row → rawRow.InColumnRange) := by
  have hrecord : ∀ rawRow row, parseMarketRow rawRow = .ok row →
      ((∃ stored, storedRow upper symbol "1d" row = .ok stored) ↔ rawRow.InColumnRange) := by
    intro rawRow row hrow
    have haccepts := parseMarketRow_eq_ok hrow
    exact (storable_iff hsymbol haccepts.consistent).trans haccepts.inColumnRange_iff
  obtain ⟨rows, summary, hparse⟩ := exists_parseMarketCsv hcolumns
  obtain ⟨state, hparsed, rfl, -⟩ := parseMarketCsv_spec hparse
  have hnonempty : symbol ≠ "" := by
    rintro rfl
    exact absurd hsymbol.1 (by decide)
  refine ⟨hrecord, ?_⟩
  constructor
  · rintro ⟨⟨table, result⟩, himport⟩ rawRow - row hrow hfirst
    obtain ⟨-, -, rows, parsed, stored, hparse', hstores, -⟩ := importMarketCsv_eq_ok.mp himport
    obtain ⟨rfl, rfl⟩ := Prod.mk.inj (Except.ok.inj (hparse.symm.trans hparse'))
    exact (hrecord rawRow row hrow).mp
      (exists_stores_iff.mp ⟨stored, hstores⟩ row (hparsed.mem_rows_iff.mpr hfirst))
  · intro hkept
    have hstorable : ∀ row ∈ state.rows,
        ∃ stored, storedRow upper symbol "1d" row = .ok stored := by
      intro row hrow
      have hfirst := hparsed.mem_rows_iff.mp hrow
      obtain ⟨rawRow, hmem, haccepted⟩ :=
        List.mem_filterMap.mp (List.mem_of_find?_eq_some hfirst)
      have hparsedRow := accepted_eq_some.mp haccepted
      exact (hrecord rawRow row hparsedRow).mpr (hkept rawRow hmem row hparsedRow hfirst)
    obtain ⟨stored, hstores⟩ := exists_stores_iff.mpr hstorable
    exact ⟨_, importMarketCsv_eq_ok.mpr ⟨⟨hnonempty, hsymbol.2.2, hsymbol.2.1, rfl⟩, hsize,
      state.rows, summary, stored, hparse, hstores, rfl, rfl⟩⟩

/-- An import of records in range. -/
theorem importMarketCsv_rowNeverFatal_iff_flat :
    ∃ result, importMarketCsv (·.map Char.toUpper) "spy.csv" (some flatFile) flatTable "SPY" "1d"
      500 = .ok result := by
  refine (importMarketCsv_rowNeverFatal_iff (·.map Char.toUpper) "spy.csv" flatFile flatTable
    "SPY" 500 ⟨by decide, by decide, by decide +kernel⟩ (by decide) (by decide)).2.mpr ?_
  have hrange : ∀ rawRow ∈ flatFile.records, rawRow.InColumnRange := by decide +kernel
  exact fun rawRow hmem _ _ _ => hrange rawRow hmem

/-- A valid record, and one whose price is below the last digit of the columns. -/
def tinyFile : CsvFile where
  fieldnames := flatFile.fieldnames
  records := [flatRecord "2024-01-02" "100", flatRecord "2024-01-03" "0.000000001"]

/-- A row that can be stored, and one whose price rounds to zero. -/
def tinyRows : List MarketDataRow :=
  [flatRow 1704153600000000 100, flatRow 1704240000000000 (1 / 1000000000)]

/-- The second record is accepted and stops the import of the first. -/
theorem tinyFile_fatal :
    importMarketCsv (·.map Char.toUpper) "spy.csv" (some tinyFile) flatTable "SPY" "1d" 500 =
        .error (.database (.checkViolation "market_data_prices_positive_check")) ∧
      ¬ ∀ rawRow row, parseMarketRow rawRow = .ok row →
        ∃ stored, storedRow (·.map Char.toUpper) "SPY" "1d" row = .ok stored := by
  constructor
  · have hparse : parseMarketCsv tinyFile = .ok (tinyRows, ⟨2, 0, 0, [], none, none, 0⟩) := by
      decide +kernel
    have hrefused : tinyRows.mapM (storedRow (·.map Char.toUpper) "SPY" "1d") =
        .error (.checkViolation "market_data_prices_positive_check") := by decide +kernel
    have hsymbol : ¬ ("SPY" = "" ∨ "SPY" ≠ "SPY".map Char.toUpper ∨ "SPY".length > 20) := by
      decide +kernel
    have hdistinct : (tinyRows.map (·.timestamp)).Nodup := by decide
    have hloop : (batched tinyRows (Int.toNat 500)).foldlM
        (importBatch (·.map Char.toUpper) "SPY" "1d") (flatTable, ⟨2, 0, 0, [], none, none, 0⟩) =
        .error (.checkViolation "market_data_prices_positive_check") := by
      have hbatches : batched tinyRows (Int.toNat 500) = [tinyRows] := by rfl
      rw [hbatches, List.foldlM_cons, importBatch_eq hdistinct, hrefused]
      rfl
    unfold importMarketCsv
    dsimp only
    rw [if_neg hsymbol, if_neg (by decide), if_neg (by decide), hparse]
    simp only [Except.mapError, ok_bind, hloop]
    rfl
  · intro hstored
    have htiny : parseMarketRow (flatRecord "2024-01-03" "0.000000001") =
        .ok (flatRow 1704240000000000 (1 / 1000000000)) := by decide +kernel
    have hrefused : storedRow (·.map Char.toUpper) "SPY" "1d"
        (flatRow 1704240000000000 (1 / 1000000000)) =
        .error (.checkViolation "market_data_prices_positive_check") := by decide +kernel
    obtain ⟨stored, h⟩ := hstored _ _ htiny
    rw [hrefused] at h
    cases h

end Scripts
end TradingPlatform
