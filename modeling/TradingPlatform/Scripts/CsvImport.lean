/-
  TradingPlatform.Scripts.CsvImport

  What an import leaves in the table, whatever the batch size.

  - `firstAccepted` is the abstract content of a file: the first row of a date that
    `parse_market_row` accepts.  `parseMarketCsv_spec` compares the parsed rows with it.
  - `importBatch_append` splits a batch; so the loop over the batches is one upsert of all
    rows (`foldlM_importBatch`).
  - `importMarketCsv_upsert` is the result.
-/

import TradingPlatform.Scripts.ImportMarketCsv
import Mathlib.Data.Finset.Card

namespace TradingPlatform
namespace Scripts

open Python

-- ============================================================================
-- The content of a file
-- ============================================================================

/-- The row of a record that `parse_market_row` accepts. -/
def accepted (rawRow : RawRow) : Option MarketDataRow := (parseMarketRow rawRow).toOption

/-- The first accepted row of a timestamp. -/
def firstAccepted (records : List RawRow) (timestamp : Timestamp) : Option MarketDataRow :=
  (records.filterMap accepted).find? fun row => row.timestamp = timestamp

/-- The dates that have an accepted row. -/
def acceptedTimestamps (records : List RawRow) : Finset Timestamp :=
  ((records.filterMap accepted).map (·.timestamp)).toFinset

theorem mem_acceptedTimestamps {records : List RawRow} {timestamp : Timestamp} :
    timestamp ∈ acceptedTimestamps records ↔ (firstAccepted records timestamp).isSome := by
  rw [acceptedTimestamps, List.mem_toFinset, firstAccepted, List.find?_isSome, List.mem_map]
  simp

/-- The price checks of an accepted row. -/
structure MarketDataRow.Consistent (row : MarketDataRow) : Prop where
  openPrice_pos : 0 < row.openPrice
  highPrice_pos : 0 < row.highPrice
  lowPrice_pos : 0 < row.lowPrice
  closePrice_pos : 0 < row.closePrice
  low_le_open : row.lowPrice ≤ row.openPrice
  low_le_close : row.lowPrice ≤ row.closePrice
  open_le_high : row.openPrice ≤ row.highPrice
  close_le_high : row.closePrice ≤ row.highPrice
  volume_nonneg : 0 ≤ row.volume
  adjustedClose_pos : ∀ adjustedClose ∈ row.adjustedClose, 0 < adjustedClose

-- ============================================================================
-- Parsing one record
-- ============================================================================

theorem parsePositiveDecimal_eq_ok {value : Option String} {fieldName : String} {price : Decimal}
    (h : parsePositiveDecimal value fieldName = .ok price) :
    parseDecimal value fieldName = .ok price ∧ 0 < price := by
  obtain ⟨decimalValue, hvalue, h⟩ := bind_eq_ok h
  split at h
  · cases h
  · rename_i hpositive
    cases h
    exact ⟨hvalue, not_le.mp hpositive⟩

theorem parseOptionalPositiveDecimal_eq_some {value : Option String} {fieldName : String}
    {price : Decimal} (h : parseOptionalPositiveDecimal value fieldName = .ok (some price)) :
    0 < price := by
  unfold parseOptionalPositiveDecimal at h
  split at h
  · cases h
  · cases hprice : parsePositiveDecimal value fieldName with
    | error error =>
        rw [hprice] at h
        cases h
    | ok price' =>
        rw [hprice] at h
        cases h
        exact (parsePositiveDecimal_eq_ok hprice).2

theorem parseNonnegativeInteger_nonneg {value : Option String} {fieldName : String} {volume : Int}
    (h : parseNonnegativeInteger value fieldName = .ok volume) : 0 ≤ volume := by
  unfold parseNonnegativeInteger at h
  split at h
  · cases h
  · split at h
    · cases h
    · split at h
      · cases h
      · rename_i hnegative
        cases h
        exact not_lt.mp hnegative

theorem checkPriceRange_eq_ok {openPrice highPrice lowPrice closePrice : Decimal}
    (h : checkPriceRange openPrice highPrice lowPrice closePrice = .ok ()) :
    lowPrice ≤ openPrice ∧ lowPrice ≤ closePrice ∧ openPrice ≤ highPrice ∧
      closePrice ≤ highPrice := by
  unfold checkPriceRange at h
  split at h
  · cases h
  · split at h
    · cases h
    · rename_i hhigh hlow
      simp only [not_or, not_lt] at hhigh hlow
      exact ⟨hlow.1, hlow.2.2, hhigh.1, hhigh.2.2⟩

/-- What `parse_market_row` reads of an accepted record. -/
structure Accepts (rawRow : RawRow) (row : MarketDataRow) : Prop where
  openPrice : parsePositiveDecimal (rawRow.get "open") "open" = .ok row.openPrice
  highPrice : parsePositiveDecimal (rawRow.get "high") "high" = .ok row.highPrice
  lowPrice : parsePositiveDecimal (rawRow.get "low") "low" = .ok row.lowPrice
  closePrice : parsePositiveDecimal (rawRow.get "close") "close" = .ok row.closePrice
  adjustedClose : parseOptionalPositiveDecimal (rawRow.get "adjusted_close") "adjusted_close" =
    .ok row.adjustedClose
  volume : parseNonnegativeInteger (rawRow.get "volume") "volume" = .ok row.volume
  priceRange : checkPriceRange row.openPrice row.highPrice row.lowPrice row.closePrice = .ok ()

theorem parseMarketRow_eq_ok {rawRow : RawRow} {row : MarketDataRow}
    (h : parseMarketRow rawRow = .ok row) : Accepts rawRow row := by
  obtain ⟨date, -, h⟩ := bind_eq_ok h
  obtain ⟨openPrice, hopen, h⟩ := bind_eq_ok h
  obtain ⟨highPrice, hhigh, h⟩ := bind_eq_ok h
  obtain ⟨lowPrice, hlow, h⟩ := bind_eq_ok h
  obtain ⟨closePrice, hclose, h⟩ := bind_eq_ok h
  obtain ⟨adjustedClose, hadjusted, h⟩ := bind_eq_ok h
  obtain ⟨volume, hvolume, h⟩ := bind_eq_ok h
  obtain ⟨⟨⟩, hrange, h⟩ := bind_eq_ok h
  cases h
  exact ⟨hopen, hhigh, hlow, hclose, hadjusted, hvolume, hrange⟩

theorem Accepts.consistent {rawRow : RawRow} {row : MarketDataRow} (h : Accepts rawRow row) :
    row.Consistent := by
  obtain ⟨hlowOpen, hlowClose, hopenHigh, hcloseHigh⟩ := checkPriceRange_eq_ok h.priceRange
  exact {
    openPrice_pos := (parsePositiveDecimal_eq_ok h.openPrice).2
    highPrice_pos := (parsePositiveDecimal_eq_ok h.highPrice).2
    lowPrice_pos := (parsePositiveDecimal_eq_ok h.lowPrice).2
    closePrice_pos := (parsePositiveDecimal_eq_ok h.closePrice).2
    low_le_open := hlowOpen
    low_le_close := hlowClose
    open_le_high := hopenHigh
    close_le_high := hcloseHigh
    volume_nonneg := parseNonnegativeInteger_nonneg h.volume
    adjustedClose_pos := fun adjustedClose hadjusted =>
      parseOptionalPositiveDecimal_eq_some (h.adjustedClose.trans (congrArg _ hadjusted)) }

theorem accepted_eq_some {rawRow : RawRow} {row : MarketDataRow} :
    accepted rawRow = some row ↔ parseMarketRow rawRow = .ok row := by
  unfold accepted
  cases parseMarketRow rawRow <;> simp [Except.toOption]

-- ============================================================================
-- A record never stops the file
-- ============================================================================

/-- The only exception of the computation is a `ValueError`. -/
def RaisesValueError {α : Type} (x : Except PyError α) : Prop :=
  ∀ error, x = .error error → ∃ reason, error = .valueError reason

section ValueErrors

variable {α β : Type}

theorem raisesValueError_ok (a : α) : RaisesValueError (Except.ok a : Except PyError α) := nofun

theorem raisesValueError_valueError (reason : String) :
    RaisesValueError (Except.error (.valueError reason) : Except PyError α) := by
  rintro _ ⟨⟩
  exact ⟨reason, rfl⟩

theorem RaisesValueError.bind {x : Except PyError α} {f : α → Except PyError β}
    (hx : RaisesValueError x) (hf : ∀ a, RaisesValueError (f a)) : RaisesValueError (x >>= f) := by
  cases x with
  | error error =>
      obtain ⟨reason, rfl⟩ := hx error rfl
      exact raisesValueError_valueError reason
  | ok a => exact hf a

theorem RaisesValueError.map {x : Except PyError α} (hx : RaisesValueError x) (f : α → β) :
    RaisesValueError (x.map f) := by
  cases x with
  | error error =>
      obtain ⟨reason, rfl⟩ := hx error rfl
      exact raisesValueError_valueError reason
  | ok a => exact raisesValueError_ok (f a)

theorem parseDate_raises (value : Option String) : RaisesValueError (parseDate value) := by
  unfold parseDate
  split
  · exact raisesValueError_valueError _
  · split
    · exact raisesValueError_ok _
    · exact raisesValueError_valueError _

theorem parseDecimal_raises (value : Option String) (fieldName : String) :
    RaisesValueError (parseDecimal value fieldName) := by
  unfold parseDecimal
  split
  · exact raisesValueError_valueError _
  · split
    · exact raisesValueError_valueError _
    · exact raisesValueError_valueError _
    · exact raisesValueError_ok _

theorem parsePositiveDecimal_raises (value : Option String) (fieldName : String) :
    RaisesValueError (parsePositiveDecimal value fieldName) := by
  refine (parseDecimal_raises value fieldName).bind fun decimalValue => ?_
  split
  · exact raisesValueError_valueError _
  · exact raisesValueError_ok _

theorem parseOptionalPositiveDecimal_raises (value : Option String) (fieldName : String) :
    RaisesValueError (parseOptionalPositiveDecimal value fieldName) := by
  unfold parseOptionalPositiveDecimal
  split
  · exact raisesValueError_ok _
  · exact (parsePositiveDecimal_raises value fieldName).map some

theorem parseNonnegativeInteger_raises (value : Option String) (fieldName : String) :
    RaisesValueError (parseNonnegativeInteger value fieldName) := by
  unfold parseNonnegativeInteger
  split
  · exact raisesValueError_valueError _
  · split
    · exact raisesValueError_valueError _
    · split
      · exact raisesValueError_valueError _
      · exact raisesValueError_ok _

theorem checkPriceRange_raises (openPrice highPrice lowPrice closePrice : Decimal) :
    RaisesValueError (checkPriceRange openPrice highPrice lowPrice closePrice) := by
  unfold checkPriceRange
  split
  · exact raisesValueError_valueError _
  · split
    · exact raisesValueError_valueError _
    · exact raisesValueError_ok _

theorem parseMarketRow_raises (rawRow : RawRow) : RaisesValueError (parseMarketRow rawRow) := by
  refine (parseDate_raises _).bind fun date => ?_
  refine (parsePositiveDecimal_raises _ _).bind fun openPrice => ?_
  refine (parsePositiveDecimal_raises _ _).bind fun highPrice => ?_
  refine (parsePositiveDecimal_raises _ _).bind fun lowPrice => ?_
  refine (parsePositiveDecimal_raises _ _).bind fun closePrice => ?_
  refine (parseOptionalPositiveDecimal_raises _ _).bind fun adjustedClose => ?_
  refine (parseNonnegativeInteger_raises _ _).bind fun volume => ?_
  exact (checkPriceRange_raises _ _ _ _).bind fun _ => raisesValueError_ok _

end ValueErrors

-- ============================================================================
-- Parsing the file
-- ============================================================================

theorem firstAccepted_append (past : List RawRow) (rawRow : RawRow) (timestamp : Timestamp) :
    firstAccepted (past ++ [rawRow]) timestamp =
      (firstAccepted past timestamp).or
        ((accepted rawRow).filter fun row => row.timestamp = timestamp) := by
  rw [firstAccepted, List.filterMap_append, List.find?_append, firstAccepted]
  congr 1
  cases h : accepted rawRow with
  | none => simp [h]
  | some row =>
      by_cases htimestamp : row.timestamp = timestamp <;>
        simp [h, Option.filter, htimestamp]

/-- The state of the loop after some records. -/
structure ParseState.Parsed (past : List RawRow) (state : ParseState) : Prop where
  seen_iff : ∀ timestamp,
    timestamp ∈ state.seenTimestamps ↔ timestamp ∈ state.rows.map (·.timestamp)
  distinct : (state.rows.map (·.timestamp)).Nodup
  find_eq : ∀ timestamp,
    state.rows.find? (fun row => row.timestamp = timestamp) = firstAccepted past timestamp
  total_eq : state.summary.totalCsvRows = past.length
  counts : state.rows.length + state.summary.skippedCount = past.length
  inserted_eq : state.summary.insertedRows = 0
  updated_eq : state.summary.updatedRows = 0

theorem ParseState.parsed_initial : ParseState.initial.Parsed [] := by
  constructor <;> simp [initial, ImportSummary.empty, ImportSummary.skippedCount, firstAccepted]

section Parse

variable {past : List RawRow} {state : ParseState}

/-- A record that is kept. -/
theorem ParseState.Parsed.keep (hparsed : state.Parsed past) {rawRow : RawRow}
    {row : MarketDataRow} (haccepted : accepted rawRow = some row)
    (hnew : row.timestamp ∉ state.seenTimestamps) :
    ParseState.Parsed (past ++ [rawRow]) {
      rows := state.rows ++ [row]
      summary := { state.summary with totalCsvRows := state.summary.totalCsvRows + 1 }
      seenTimestamps := row.timestamp :: state.seenTimestamps } where
  seen_iff timestamp := by
    rw [List.mem_cons, hparsed.seen_iff, List.map_append, List.mem_append, List.map_singleton,
      List.mem_singleton, or_comm]
  distinct := by
    rw [hparsed.seen_iff] at hnew
    rw [List.map_append, List.map_singleton]
    exact List.nodup_append.mpr ⟨hparsed.distinct, List.nodup_singleton _,
      fun a ha b hb => by rw [List.mem_singleton.mp hb]; exact fun heq => hnew (heq ▸ ha)⟩
  find_eq timestamp := by
    rw [List.find?_append, hparsed.find_eq, firstAccepted_append, haccepted]
    congr 1
    by_cases htimestamp : row.timestamp = timestamp <;>
      simp [Option.filter, htimestamp]
  total_eq := by rw [List.length_append, List.length_singleton, hparsed.total_eq]
  counts := by
    have hcounts := hparsed.counts
    rw [ImportSummary.skippedCount] at hcounts
    simp only [List.length_append, List.length_singleton, ImportSummary.skippedCount]
    omega
  inserted_eq := hparsed.inserted_eq
  updated_eq := hparsed.updated_eq

/-- A record that is skipped: it is refused, or its date was seen. -/
theorem ParseState.Parsed.skip (hparsed : state.Parsed past) {rawRow : RawRow}
    (hskipped : ∀ row, accepted rawRow = some row → row.timestamp ∈ state.seenTimestamps)
    (skippedRow : SkippedRow) :
    ParseState.Parsed (past ++ [rawRow]) { state with
      summary := { state.summary with
        totalCsvRows := state.summary.totalCsvRows + 1
        skippedRows := state.summary.skippedRows ++ [skippedRow] } } where
  seen_iff := hparsed.seen_iff
  distinct := hparsed.distinct
  find_eq timestamp := by
    rw [hparsed.find_eq, firstAccepted_append]
    cases haccepted : accepted rawRow with
    | none => simp
    | some row =>
        have hseen := hskipped row haccepted
        by_cases htimestamp : row.timestamp = timestamp
        · -- an earlier row of the date was kept
          rw [htimestamp, hparsed.seen_iff, List.mem_map] at hseen
          have hfound : (firstAccepted past timestamp).isSome := by
            rw [← hparsed.find_eq, List.find?_isSome]
            simpa using hseen
          obtain ⟨first, hfirst⟩ := Option.isSome_iff_exists.mp hfound
          simp [hfirst]
        · simp [Option.filter, htimestamp]
  total_eq := by rw [List.length_append, List.length_singleton, hparsed.total_eq]
  counts := by
    have hcounts := hparsed.counts
    rw [ImportSummary.skippedCount] at hcounts
    simp only [List.length_append, List.length_singleton, ImportSummary.skippedCount]
    omega
  inserted_eq := hparsed.inserted_eq
  updated_eq := hparsed.updated_eq

theorem parseRecord_spec (hparsed : state.Parsed past) (rowNumber : Nat) (rawRow : RawRow) :
    ∃ next, parseRecord state rowNumber rawRow = .ok next ∧ next.Parsed (past ++ [rawRow]) := by
  cases hrow : parseMarketRow rawRow with
  | error error =>
      obtain ⟨reason, rfl⟩ := parseMarketRow_raises rawRow error hrow
      have hskipped : accepted rawRow = none := by rw [accepted, hrow]; rfl
      refine ⟨_, ?_, hparsed.skip (fun row haccepted => ?_) ⟨rowNumber, reason⟩⟩
      · simp [parseRecord, parseNewRow, hrow, bind, Except.bind]
      · rw [hskipped] at haccepted
        cases haccepted
  | ok row =>
      have haccepted : accepted rawRow = some row := accepted_eq_some.mpr hrow
      by_cases hseen : row.timestamp ∈ state.seenTimestamps
      · refine ⟨_, ?_, hparsed.skip (fun other hother => ?_)
          ⟨rowNumber, "duplicate timestamp in CSV"⟩⟩
        · simp [parseRecord, parseNewRow, hrow, hseen, bind, Except.bind, throw, throwThe,
            MonadExceptOf.throw]
        · obtain rfl := Option.some.inj (haccepted.symm.trans hother)
          exact hseen
      · refine ⟨_, ?_, hparsed.keep haccepted hseen⟩
        simp [parseRecord, parseNewRow, hrow, hseen, bind, Except.bind, pure, Except.pure]

theorem parseRecords_spec (records : List RawRow) (hparsed : state.Parsed past) (rowNumber : Nat) :
    ∃ final, parseRecords state rowNumber records = .ok final ∧ final.Parsed (past ++ records) := by
  induction records generalizing past state rowNumber with
  | nil => exact ⟨state, rfl, by rwa [List.append_nil]⟩
  | cons rawRow rest ih =>
      obtain ⟨next, hnext, hparsed⟩ := parseRecord_spec hparsed rowNumber rawRow
      obtain ⟨final, hfinal, hparsed⟩ := ih hparsed (rowNumber + 1)
      refine ⟨final, ?_, by rwa [List.append_assoc, List.singleton_append] at hparsed⟩
      rw [parseRecords, hnext]
      exact hfinal

end Parse

/-- A file with the required columns is parsed to the end. -/
theorem parseMarketCsv_spec {file : CsvFile} {rows : List MarketDataRow} {summary : ImportSummary}
    (h : parseMarketCsv file = .ok (rows, summary)) :
    ∃ state : ParseState, state.Parsed file.records ∧ state.rows = rows ∧
      state.summary = summary := by
  unfold parseMarketCsv at h
  dsimp only at h
  split at h
  · cases h
  obtain ⟨state, hstate, h⟩ := bind_eq_ok h
  obtain ⟨final, hfinal, hparsed⟩ := parseRecords_spec file.records ParseState.parsed_initial 2
  obtain rfl := Except.ok.inj (hfinal.symm.trans hstate)
  obtain ⟨rfl, rfl⟩ := Prod.mk.inj (Except.ok.inj h)
  exact ⟨final, hparsed, rfl, rfl⟩

-- ============================================================================
-- Batches
-- ============================================================================

theorem flatten_slices {α : Type} (rows : List α) (batchSize : Nat) : ∀ n : Nat,
    ((List.range n).map fun i => (rows.drop (i * batchSize)).take batchSize).flatten =
      rows.take (n * batchSize) := by
  intro n
  induction n with
  | zero => simp
  | succ n ih =>
      rw [List.range_succ, List.map_append, List.flatten_append, ih, Nat.succ_mul, List.take_add]
      simp

/-- The batches are the rows, each once and in order. -/
theorem flatten_batched {α : Type} (rows : List α) {batchSize : Nat} (hsize : 0 < batchSize) :
    (batched rows batchSize).flatten = rows := by
  rw [batched, flatten_slices, List.take_of_length_le]
  have hdiv := Nat.div_add_mod (rows.length + batchSize - 1) batchSize
  have hmod := Nat.mod_lt (rows.length + batchSize - 1) hsize
  rw [Nat.mul_comm] at hdiv
  omega

-- ============================================================================
-- One statement
-- ============================================================================

section Import

variable {upper : String → String} {symbol interval : String}

theorem storedRow_key {row : MarketDataRow} {stored : MarketData}
    (h : storedRow upper symbol interval row = .ok stored) :
    stored.key = (symbol, interval, row.timestamp) := by
  obtain ⟨openPrice, -, h⟩ := bind_eq_ok h
  obtain ⟨highPrice, -, h⟩ := bind_eq_ok h
  obtain ⟨lowPrice, -, h⟩ := bind_eq_ok h
  obtain ⟨closePrice, -, h⟩ := bind_eq_ok h
  obtain ⟨volume, -, h⟩ := bind_eq_ok h
  obtain ⟨adjustedClose, -, h⟩ := bind_eq_ok h
  obtain ⟨⟨⟩, -, h⟩ := bind_eq_ok h
  cases h
  rfl

/-- All rows of the file can be stored, as `stored`. -/
def Stores (upper : String → String) (symbol interval : String) (rows : List MarketDataRow)
    (stored : List MarketData) : Prop :=
  rows.mapM (storedRow upper symbol interval) = .ok stored

theorem stores_cons {row : MarketDataRow} {rows : List MarketDataRow}
    {stored : List MarketData} (h : Stores upper symbol interval (row :: rows) stored) :
    ∃ first rest, stored = first :: rest ∧ storedRow upper symbol interval row = .ok first ∧
      Stores upper symbol interval rows rest := by
  rw [Stores, List.mapM_cons] at h
  obtain ⟨first, hfirst, h⟩ := bind_eq_ok h
  obtain ⟨rest, hrest, h⟩ := bind_eq_ok h
  cases h
  exact ⟨first, rest, rfl, hfirst, hrest⟩

theorem Stores.keys {rows : List MarketDataRow} {stored : List MarketData}
    (h : Stores upper symbol interval rows stored) :
    stored.map MarketData.key = rows.map fun row => (symbol, interval, row.timestamp) := by
  induction rows generalizing stored with
  | nil =>
      cases h
      rfl
  | cons row rows ih =>
      obtain ⟨first, rest, rfl, hfirst, hrest⟩ := stores_cons h
      rw [List.map_cons, List.map_cons, storedRow_key hfirst, ih hrest]

theorem Stores.exists_mem {rows : List MarketDataRow} {stored : List MarketData}
    (h : Stores upper symbol interval rows stored) {row : MarketDataRow} (hrow : row ∈ rows) :
    ∃ s ∈ stored, storedRow upper symbol interval row = .ok s := by
  induction rows generalizing stored with
  | nil => cases hrow
  | cons first rows ih =>
      obtain ⟨s, rest, rfl, hs, hrest⟩ := stores_cons h
      rcases List.mem_cons.mp hrow with rfl | hrow
      · exact ⟨s, List.mem_cons_self .., hs⟩
      · obtain ⟨s', hmem, hs'⟩ := ih hrest hrow
        exact ⟨s', List.mem_cons_of_mem _ hmem, hs'⟩

/-- Rows of distinct dates have distinct keys. -/
theorem Stores.distinct {rows : List MarketDataRow} {stored : List MarketData}
    (h : Stores upper symbol interval rows stored) (hrows : (rows.map (·.timestamp)).Nodup) :
    (stored.map MarketData.key).Nodup := by
  rw [h.keys]
  have hpairs : (rows.map (·.timestamp)).map (fun t => (symbol, interval, t)) =
      rows.map fun row => (symbol, interval, row.timestamp) := by rw [List.map_map]; rfl
  rw [← hpairs]
  exact hrows.map fun a b hab => (Prod.mk.inj (Prod.mk.inj hab).2).2

theorem foldlM_upsert (table : MarketDataTable) (rows : List MarketDataRow) :
    rows.foldlM (fun table row => return table.upsert (← storedRow upper symbol interval row))
        table =
      (rows.mapM (storedRow upper symbol interval)).map table.upsertAll := by
  induction rows generalizing table with
  | nil => rfl
  | cons row rows ih =>
      rw [List.foldlM_cons, List.mapM_cons]
      cases hrow : storedRow upper symbol interval row with
      | error error => rfl
      | ok stored =>
          refine (ih (table.upsert stored)).trans ?_
          cases rows.mapM (storedRow upper symbol interval) <;> rfl

/-- The key of a date is in the table. -/
def present (table : MarketDataTable) (symbol interval : String) (timestamp : Timestamp) : Bool :=
  (table.get? (symbol, interval, timestamp)).isSome

theorem mem_existingTimestamps {table : MarketDataTable} {timestamps : List Timestamp}
    {timestamp : Timestamp} :
    timestamp ∈ existingTimestamps table symbol interval timestamps ↔
      timestamp ∈ timestamps ∧ present table symbol interval timestamp = true := by
  rw [existingTimestamps, List.mem_dedup, List.mem_map, present, Option.isSome_iff_exists]
  constructor
  · rintro ⟨row, hrow, rfl⟩
    obtain ⟨hmem, hcolumns⟩ := List.mem_filter.mp hrow
    obtain ⟨rfl, rfl, htimestamp⟩ := of_decide_eq_true hcolumns
    exact ⟨htimestamp, row, Table.get?_eq_some.mpr ⟨hmem, rfl⟩⟩
  · rintro ⟨htimestamp, row, hfound⟩
    obtain ⟨hmem, hkey⟩ := Table.get?_eq_some.mp hfound
    obtain ⟨hsymbol, hkey⟩ := Prod.mk.inj hkey
    obtain ⟨hinterval, htime⟩ := Prod.mk.inj hkey
    exact ⟨row, List.mem_filter.mpr ⟨hmem, decide_eq_true ⟨hsymbol, hinterval, htime ▸ htimestamp⟩⟩,
      htime⟩

theorem existingTimestamps_length {timestamps : List Timestamp} (table : MarketDataTable)
    (hdistinct : timestamps.Nodup) :
    (existingTimestamps table symbol interval timestamps).length =
      timestamps.countP (present table symbol interval) := by
  have hset : (existingTimestamps table symbol interval timestamps).Nodup := List.nodup_dedup _
  have hperm : (existingTimestamps table symbol interval timestamps).Perm
      (timestamps.filter (present table symbol interval)) := by
    refine (List.perm_ext_iff_of_nodup hset (hdistinct.filter _)).mpr ?_
    intro timestamp
    rw [mem_existingTimestamps, List.mem_filter]
  rw [hperm.length_eq, List.countP_eq_length_filter]

/-- The counts of a statement that writes `total` rows, `updated` of them there before. -/
def ImportSummary.counted (summary : ImportSummary) (total updated : Nat) : ImportSummary :=
  { summary with
    updatedRows := summary.updatedRows + updated
    insertedRows := summary.insertedRows + ((total : Int) - updated) }

theorem importBatch_eq {batch : List MarketDataRow} (hdistinct : (batch.map (·.timestamp)).Nodup)
    (table : MarketDataTable) (summary : ImportSummary) :
    importBatch upper symbol interval (table, summary) batch =
      (batch.mapM (storedRow upper symbol interval)).map fun stored =>
        (table.upsertAll stored, summary.counted batch.length
          ((batch.map (·.timestamp)).countP (present table symbol interval))) := by
  rw [importBatch, executeUpsert, if_pos hdistinct, foldlM_upsert,
    existingTimestamps_length table hdistinct]
  cases batch.mapM (storedRow upper symbol interval) <;> rfl

/-- Rows of other dates are as present after a statement as before. -/
theorem present_upsertAll {rows : List MarketDataRow} {stored : List MarketData}
    (h : Stores upper symbol interval rows stored) (table : MarketDataTable)
    {timestamp : Timestamp} (hother : timestamp ∉ rows.map (·.timestamp)) :
    present (table.upsertAll stored) symbol interval timestamp =
      present table symbol interval timestamp := by
  rw [present, present, Table.get?_upsertAll_of_not_mem]
  intro s hs hkey
  have hmem : s.key ∈ stored.map MarketData.key := List.mem_map_of_mem hs
  rw [h.keys] at hmem
  obtain ⟨row, hrow, hrowKey⟩ := List.mem_map.mp hmem
  rw [hkey] at hrowKey
  exact hother (List.mem_map.mpr ⟨row, hrow, (Prod.mk.inj (Prod.mk.inj hrowKey).2).2⟩)

/-- Two statements over consecutive rows do what one does. -/
theorem importBatch_append {first second : List MarketDataRow}
    (hdistinct : ((first ++ second).map (·.timestamp)).Nodup)
    (state : MarketDataTable × ImportSummary) :
    (importBatch upper symbol interval state first >>= fun state =>
        importBatch upper symbol interval state second) =
      importBatch upper symbol interval state (first ++ second) := by
  obtain ⟨table, summary⟩ := state
  have hsplit := hdistinct
  rw [List.map_append] at hsplit
  obtain ⟨hfirst, hsecond, hdisjoint⟩ := List.nodup_append.mp hsplit
  rw [importBatch_eq hdistinct, importBatch_eq hfirst, List.mapM_append]
  cases hstored : first.mapM (storedRow upper symbol interval) with
  | error error => rfl
  | ok stored =>
      refine (importBatch_eq hsecond _ _).trans ?_
      have hcount : (second.map (·.timestamp)).countP
            (present (table.upsertAll stored) symbol interval) =
          (second.map (·.timestamp)).countP (present table symbol interval) := by
        refine List.countP_congr fun timestamp hmem => ?_
        rw [present_upsertAll hstored table fun hold => hdisjoint _ hold _ hmem rfl]
      cases second.mapM (storedRow upper symbol interval) with
      | error error => rfl
      | ok rest =>
          simp only [Except.map, bind, Except.bind, pure, Except.pure, Table.upsertAll_append,
            hcount, ImportSummary.counted, List.map_append, List.countP_append,
            List.length_append, Except.ok.injEq, Prod.mk.injEq, true_and]
          congr 1 <;> push_cast <;> omega

variable (upper symbol interval) in
/-- The loop over the batches is one statement over all rows. -/
theorem foldlM_importBatch {batches : List (List MarketDataRow)}
    (hdistinct : (batches.flatten.map (·.timestamp)).Nodup)
    (state : MarketDataTable × ImportSummary) :
    batches.foldlM (importBatch upper symbol interval) state =
      importBatch upper symbol interval state batches.flatten := by
  induction batches generalizing state with
  | nil =>
      obtain ⟨table, summary⟩ := state
      have hempty : (([] : List MarketDataRow).map (·.timestamp)).Nodup := List.nodup_nil
      rw [List.flatten_nil, importBatch_eq hempty]
      simp [ImportSummary.counted, Except.map, Table.upsertAll, pure, Except.pure]
  | cons batch batches ih =>
      rw [List.flatten_cons] at hdistinct ⊢
      have hrest : (batches.flatten.map (·.timestamp)).Nodup := by
        rw [List.map_append] at hdistinct
        exact (List.nodup_append.mp hdistinct).2.1
      rw [List.foldlM_cons, ← importBatch_append hdistinct]
      exact congrArg _ (funext fun state => ih hrest state)

-- ============================================================================
-- The import
-- ============================================================================

/-- The import returns exactly if its arguments are valid, the file has the required columns
    and every kept row can be stored; what it returns does not depend on the batch size. -/
theorem importMarketCsv_eq_ok {path : String} {file : CsvFile} {prior table : MarketDataTable}
    {batchSize : Int} {summary : ImportSummary} :
    importMarketCsv upper path (some file) prior symbol interval batchSize =
        .ok (table, summary) ↔
      (symbol ≠ "" ∧ symbol = upper symbol ∧ symbol.length ≤ 20 ∧ interval = "1d") ∧
        0 < batchSize ∧
        ∃ rows parsed stored, parseMarketCsv file = .ok (rows, parsed) ∧
          Stores upper symbol interval rows stored ∧ table = prior.upsertAll stored ∧
          summary = storedSummary symbol interval table (parsed.counted rows.length
            ((rows.map (·.timestamp)).countP (present prior symbol interval))) := by
  unfold importMarketCsv
  dsimp only
  split
  · rename_i hsymbol
    refine iff_of_false nofun ?_
    rintro ⟨⟨hne, hupper, hlength, -⟩, -⟩
    rcases hsymbol with hempty | hlower | hlong
    · exact hne hempty
    · exact hlower hupper
    · omega
  rename_i hsymbol
  split
  · rename_i hinterval
    exact iff_of_false nofun fun h => hinterval h.1.2.2.2
  rename_i hinterval
  split
  · rename_i hsize
    exact iff_of_false nofun fun h => by omega
  rename_i hsize
  simp only [not_or, not_not, not_lt] at hsymbol hinterval
  have hvalid : symbol ≠ "" ∧ symbol = upper symbol ∧ symbol.length ≤ 20 ∧ interval = "1d" :=
    ⟨hsymbol.1, hsymbol.2.1, by omega, hinterval⟩
  cases hparse : parseMarketCsv file with
  | error error =>
      refine iff_of_false nofun ?_
      rintro ⟨-, -, rows, parsed, stored, hrows, -⟩
      cases hrows
  | ok result =>
      obtain ⟨rows, parsed⟩ := result
      obtain ⟨state, hparsed, rfl, -⟩ := parseMarketCsv_spec hparse
      have hflatten := flatten_batched state.rows (show 0 < batchSize.toNat by omega)
      have hloop := foldlM_importBatch upper symbol interval
        (hflatten ▸ hparsed.distinct) (prior, parsed)
      rw [hflatten, importBatch_eq hparsed.distinct] at hloop
      simp only [Except.mapError, ok_bind, hloop]
      cases hstored : state.rows.mapM (storedRow upper symbol interval) with
      | error error =>
          refine iff_of_false nofun ?_
          rintro ⟨-, -, rows, parsed, stored, hrows, hstores, -⟩
          cases hrows
          cases hstored.symm.trans hstores
      | ok stored =>
          constructor
          · intro h
            cases h
            exact ⟨hvalid, by omega, _, _, stored, rfl, hstored, rfl, rfl⟩
          · rintro ⟨-, -, rows, parsed, stored', hrows, hstores, rfl, rfl⟩
            cases hrows
            cases hstored.symm.trans hstores
            rfl

-- ============================================================================
-- What the import leaves
-- ============================================================================

theorem ParseState.Parsed.mem_rows_iff {past : List RawRow} {state : ParseState}
    (hparsed : state.Parsed past) {row : MarketDataRow} :
    row ∈ state.rows ↔ firstAccepted past row.timestamp = some row := by
  rw [← hparsed.find_eq]
  constructor
  · intro hrow
    cases hfound : state.rows.find? fun other => other.timestamp = row.timestamp with
    | none =>
        have hnone := List.find?_eq_none.mp hfound row hrow
        simp at hnone
    | some other =>
        have hsame : other.timestamp = row.timestamp := by simpa using List.find?_some hfound
        rw [List.inj_on_of_nodup_map hparsed.distinct (List.mem_of_find?_eq_some hfound) hrow
          hsame]
  · exact List.mem_of_find?_eq_some

theorem ParseState.Parsed.acceptedTimestamps_eq {past : List RawRow} {state : ParseState}
    (hparsed : state.Parsed past) :
    acceptedTimestamps past = (state.rows.map (·.timestamp)).toFinset := by
  ext timestamp
  rw [mem_acceptedTimestamps, ← hparsed.find_eq, List.find?_isSome, List.mem_toFinset,
    List.mem_map]
  simp

theorem ParseState.Parsed.consistent {past : List RawRow} {state : ParseState}
    (hparsed : state.Parsed past) {row : MarketDataRow} (hrow : row ∈ state.rows) :
    row.Consistent := by
  have hfirst := hparsed.mem_rows_iff.mp hrow
  obtain ⟨rawRow, -, haccepted⟩ := List.mem_filterMap.mp (List.mem_of_find?_eq_some hfirst)
  exact (parseMarketRow_eq_ok (accepted_eq_some.mp haccepted)).consistent

/-- Of the dates of a file, those that are not present are inserted. -/
theorem card_absent {timestamps : List Timestamp} (hdistinct : timestamps.Nodup)
    (table : MarketDataTable) :
    ((timestamps.toFinset.filter fun t => table.get? (symbol, interval, t) = none).card : Int) =
      (timestamps.length : Int) - timestamps.countP (present table symbol interval) := by
  have habsent : (timestamps.toFinset.filter fun t => table.get? (symbol, interval, t) = none) =
      (timestamps.filter fun t => !present table symbol interval t).toFinset := by
    ext timestamp
    simp [present]
  rw [habsent, List.toFinset_card_of_nodup (hdistinct.filter _), ← List.countP_eq_length_filter,
    List.length_eq_countP_add_countP (present table symbol interval)]
  push_cast
  simp

theorem Stores.get?_upsertAll {rows : List MarketDataRow} {stored : List MarketData}
    (h : Stores upper symbol interval rows stored)
    (hdistinct : (rows.map (·.timestamp)).Nodup) (prior : MarketDataTable) {row : MarketDataRow}
    (hrow : row ∈ rows) :
    ∃ s, storedRow upper symbol interval row = .ok s ∧
      (prior.upsertAll stored).get? (symbol, interval, row.timestamp) = some s := by
  obtain ⟨s, hmem, hs⟩ := h.exists_mem hrow
  refine ⟨s, hs, ?_⟩
  rw [← storedRow_key hs]
  exact Table.get?_upsertAll_of_mem (h.distinct hdistinct) hmem prior

theorem Stores.get?_of_not_mem {rows : List MarketDataRow} {stored : List MarketData}
    (h : Stores upper symbol interval rows stored) (prior : MarketDataTable)
    {key : String × String × Timestamp}
    (hother : ∀ row ∈ rows, (symbol, interval, row.timestamp) ≠ key) :
    (prior.upsertAll stored).get? key = prior.get? key := by
  refine Table.get?_upsertAll_of_not_mem (fun s hs hkey => ?_) prior
  have hmem : s.key ∈ stored.map MarketData.key := List.mem_map_of_mem hs
  rw [h.keys] at hmem
  obtain ⟨row, hrow, hrowKey⟩ := List.mem_map.mp hmem
  exact hother row hrow (hrowKey.trans hkey)

/-- Rows that are stored are stored again without effect. -/
theorem Stores.upsertAll_again {rows : List MarketDataRow} {stored : List MarketData}
    (h : Stores upper symbol interval rows stored)
    (hdistinct : (rows.map (·.timestamp)).Nodup) (prior : MarketDataTable) :
    (prior.upsertAll stored).upsertAll stored = prior.upsertAll stored :=
  Table.upsertAll_eq_self fun _ hs =>
    Table.get?_upsertAll_of_mem (h.distinct hdistinct) hs prior

/-- And they are all present. -/
theorem Stores.countP_present {rows : List MarketDataRow} {stored : List MarketData}
    (h : Stores upper symbol interval rows stored)
    (hdistinct : (rows.map (·.timestamp)).Nodup) (prior : MarketDataTable) :
    (rows.map (·.timestamp)).countP (present (prior.upsertAll stored) symbol interval) =
      rows.length := by
  rw [← List.length_map (fun row : MarketDataRow => row.timestamp), List.countP_eq_length]
  intro timestamp htimestamp
  obtain ⟨row, hrow, rfl⟩ := List.mem_map.mp htimestamp
  obtain ⟨s, -, hs⟩ := h.get?_upsertAll hdistinct prior hrow
  rw [present, hs]
  rfl

end Import

/-- An import overrides the table by the first accepted row of each date of the file; its
    counts say so, a second import changes nothing, and the batch size is immaterial. -/
theorem importMarketCsv_upsert (upper : String → String) (path : String) (file : CsvFile)
    (prior table : MarketDataTable) (symbol interval : String) (batchSize : Int)
    (summary : ImportSummary)
    (himport : importMarketCsv upper path (some file) prior symbol interval batchSize =
      .ok (table, summary)) :
    (∀ timestamp row, firstAccepted file.records timestamp = some row →
      ∃ stored, storedRow upper symbol interval row = .ok stored ∧
        table.get? (symbol, interval, timestamp) = some stored) ∧
    (∀ timestamp, firstAccepted file.records timestamp = none →
      table.get? (symbol, interval, timestamp) = prior.get? (symbol, interval, timestamp)) ∧
    (∀ key : String × String × Timestamp, ¬ (key.1 = symbol ∧ key.2.1 = interval) →
      table.get? key = prior.get? key) ∧
    (∃ rows parsed, parseMarketCsv file = .ok (rows, parsed) ∧
      (rows.map (·.timestamp)).Nodup ∧ ∀ row ∈ rows, row.Consistent) ∧
    summary.totalCsvRows = file.records.length ∧
    (summary.totalCsvRows : Int) =
      summary.insertedRows + summary.updatedRows + summary.skippedCount ∧
    summary.insertedRows = ((acceptedTimestamps file.records).filter fun t =>
      prior.get? (symbol, interval, t) = none).card ∧
    (∀ otherSize > 0, importMarketCsv upper path (some file) prior symbol interval otherSize =
      .ok (table, summary)) ∧
    ∀ otherSize > 0, ∃ again,
      importMarketCsv upper path (some file) table symbol interval otherSize =
        .ok (table, again) ∧ again.insertedRows = 0 := by
  obtain ⟨hvalid, -, rows, parsed, stored, hparse, hstores, htable, hsummary⟩ :=
    importMarketCsv_eq_ok.mp himport
  obtain ⟨state, hparsed, rfl, rfl⟩ := parseMarketCsv_spec hparse
  have hdistinct := hparsed.distinct
  refine ⟨?_, ?_, ?_, ⟨state.rows, state.summary, hparse, hdistinct,
    fun row hrow => hparsed.consistent hrow⟩, ?_, ?_, ?_, ?_, ?_⟩
  · intro timestamp row hfirst
    have htimestamp : row.timestamp = timestamp := by simpa using List.find?_some hfirst
    subst htimestamp
    rw [htable]
    exact hstores.get?_upsertAll hdistinct prior (hparsed.mem_rows_iff.mpr hfirst)
  · intro timestamp hnone
    rw [htable]
    refine hstores.get?_of_not_mem prior fun row hrow hkey => ?_
    have hfirst := hparsed.mem_rows_iff.mp hrow
    rw [(Prod.mk.inj (Prod.mk.inj hkey).2).2, hnone] at hfirst
    cases hfirst
  · intro key hkey
    rw [htable]
    refine hstores.get?_of_not_mem prior fun row _ hrow => hkey ?_
    rw [← hrow]
    exact ⟨rfl, rfl⟩
  · rw [hsummary]
    exact hparsed.total_eq
  · have hcounts := hparsed.counts
    have htotal := hparsed.total_eq
    have hinserted := hparsed.inserted_eq
    have hupdated := hparsed.updated_eq
    simp only [hsummary, storedSummary, ImportSummary.counted, ImportSummary.skippedCount] at *
    omega
  · rw [hparsed.acceptedTimestamps_eq, card_absent hdistinct, List.length_map, hsummary]
    show state.summary.insertedRows + _ = _
    rw [hparsed.inserted_eq, zero_add]
  · intro otherSize hsize
    exact importMarketCsv_eq_ok.mpr ⟨hvalid, hsize, state.rows, state.summary, stored, hparse,
      hstores, htable, hsummary⟩
  · intro otherSize hsize
    refine ⟨_, importMarketCsv_eq_ok.mpr ⟨hvalid, hsize, state.rows, state.summary, stored,
      hparse, hstores, ?_, rfl⟩, ?_⟩
    · rw [htable, hstores.upsertAll_again hdistinct]
    · show state.summary.insertedRows + _ = _
      rw [htable, hstores.countP_present hdistinct, hparsed.inserted_eq, sub_self, add_zero]

-- ============================================================================
-- A file
-- ============================================================================

/-- A record with one price. -/
def flatRecord (date price : String) : RawRow :=
  [("date", some date), ("open", some price), ("high", some price), ("low", some price),
    ("close", some price), ("volume", some "1"), ("adjusted_close", some "")]

/-- Two dates, one of them twice, and a record without a date. -/
def flatFile : CsvFile where
  fieldnames := ["date", "open", "high", "low", "close", "volume", "adjusted_close"]
  records := [flatRecord "2024-01-02" "100", flatRecord "" "100", flatRecord "2024-01-03" "101",
    flatRecord "2024-01-02" "102"]

/-- A parsed record with one price. -/
def flatRow (timestamp : Timestamp) (price : Decimal) : MarketDataRow :=
  ⟨timestamp, price, price, price, price, 1, none⟩

/-- The row it is stored as. -/
def flatStored (timestamp : Timestamp) (price : Decimal) : MarketData :=
  ⟨"SPY", "1d", timestamp, price, price, price, price, none, 1⟩

/-- A table that has the second date of the file. -/
def flatTable : MarketDataTable :=
  Table.upsertAll ⟨[], List.nodup_nil⟩ [flatStored 1704240000000000 99]

/-- The counts of the import of the file. -/
theorem importMarketCsv_upsert_flat :
    ∃ table summary,
      importMarketCsv (·.map Char.toUpper) "spy.csv" (some flatFile) flatTable "SPY" "1d" 1 =
        .ok (table, summary) ∧
      summary.totalCsvRows = 4 ∧ summary.insertedRows = 1 ∧
      ∃ again,
        importMarketCsv (·.map Char.toUpper) "spy.csv" (some flatFile) table "SPY" "1d" 500 =
          .ok (table, again) ∧ again.insertedRows = 0 := by
  have hparse : parseMarketCsv flatFile = .ok
      ([flatRow 1704153600000000 100, flatRow 1704240000000000 101],
        ⟨4, 0, 0, [⟨3, "date is required"⟩, ⟨5, "duplicate timestamp in CSV"⟩], none, none,
          0⟩) := by
    decide +kernel
  have hstores : Stores (·.map Char.toUpper) "SPY" "1d"
      [flatRow 1704153600000000 100, flatRow 1704240000000000 101]
      [flatStored 1704153600000000 100, flatStored 1704240000000000 101] := by
    unfold Stores
    decide +kernel
  have himport : importMarketCsv (·.map Char.toUpper) "spy.csv" (some flatFile) flatTable
      "SPY" "1d" 1 = .ok (flatTable.upsertAll
        [flatStored 1704153600000000 100, flatStored 1704240000000000 101], _) :=
    importMarketCsv_eq_ok.mpr ⟨⟨by decide, by decide +kernel, by decide, rfl⟩, Int.one_pos,
      _, _, _, hparse, hstores, rfl, rfl⟩
  obtain ⟨-, -, -, -, htotal, -, -, -, hagain⟩ := importMarketCsv_upsert _ _ _ _ _ _ _ _ _ himport
  exact ⟨_, _, himport, htotal, by decide +kernel, hagain 500 (by decide)⟩

end Scripts
end TradingPlatform
