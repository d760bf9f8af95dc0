/-
  TradingPlatform.Scripts.ImportMarketCsv

  `app/scripts/import_market_csv.py`: the rows of a CSV file, and their upsert
  into the `market_data` table in batches.

  PostgreSQL is modelled by its documented behaviour: a price is rounded to the
  scale of its column, half away from zero, and has to fit its precision; the
  checks of the table are those of the migration.  The table has the columns
  that the import writes; `upper` stands for the upper-case function of both.
-/

import TradingPlatform.Core.Calendar
import TradingPlatform.Core.Numerals
import TradingPlatform.Lib.Table
import Mathlib.Data.Rat.Floor
import Mathlib.Algebra.Order.Group.Abs

namespace TradingPlatform
namespace Scripts

open Python

-- ============================================================================
-- Rows of the file
-- ============================================================================

/-- A row of `csv.DictReader`. -/
abbrev RawRow := List (String × Option String)

/-- `raw_row.get(column)` -/
def RawRow.get (raw : RawRow) (column : String) : Option String := (raw.lookup column).join

/-- The columns of the file, and its records. -/
structure CsvFile where
  fieldnames : List String
  records : List RawRow
deriving Repr

/-- `REQUIRED_COLUMNS`, sorted. -/
def requiredColumns : List String :=
  ["adjusted_close", "close", "date", "high", "low", "open", "volume"]

/-- A validated row of the file. -/
structure MarketDataRow where
  timestamp : Timestamp
  openPrice : Decimal
  highPrice : Decimal
  lowPrice : Decimal
  closePrice : Decimal
  volume : Int
  adjustedClose : Option Decimal
deriving DecidableEq, Repr

/-- A record that was not accepted, and why. -/
structure SkippedRow where
  rowNumber : Nat
  reason : String
deriving DecidableEq, Repr

/-- What an import reports. -/
structure ImportSummary where
  totalCsvRows : Nat
  insertedRows : Int
  updatedRows : Int
  skippedRows : List SkippedRow
  earliestStoredTimestamp : Option Timestamp
  latestStoredTimestamp : Option Timestamp
  totalSymbolRows : Nat
deriving DecidableEq, Repr

/-- The summary before the first record. -/
def ImportSummary.empty : ImportSummary := ⟨0, 0, 0, [], none, none, 0⟩

/-- The number of records that were not accepted. -/
def ImportSummary.skippedCount (summary : ImportSummary) : Nat := summary.skippedRows.length

-- ============================================================================
-- Parsing
-- ============================================================================

/-- `value is None or not value.strip()` -/
def isBlank (value : Option String) : Bool := strip (value.getD "") = ""

/-- `parse_date` -/
def parseDate (value : Option String) : Except PyError Date :=
  if value.getD "" = "" then
    .error (.valueError "date is required")
  else
    match Date.fromisoformat (strip (value.getD "")) with
    | some date => .ok date
    | none => .error (.valueError "date must use ISO format YYYY-MM-DD")

/-- `parse_decimal` -/
def parseDecimal (value : Option String) (fieldName : String) : Except PyError Decimal :=
  if isBlank value then
    .error (.valueError (fieldName ++ " is required"))
  else
    match decimalOfText (strip (value.getD "")) with
    | none => .error (.valueError (fieldName ++ " must be a decimal number"))
    | some .special => .error (.valueError (fieldName ++ " must be finite"))
    | some (.finite decimalValue) => .ok decimalValue

/-- `parse_positive_decimal` -/
def parsePositiveDecimal (value : Option String) (fieldName : String) : Except PyError Decimal := do
  let decimalValue ← parseDecimal value fieldName
  if decimalValue ≤ 0 then
    throw (.valueError (fieldName ++ " must be positive"))
  return decimalValue

/-- `parse_optional_positive_decimal`; a blank cell is `None`. -/
def parseOptionalPositiveDecimal (value : Option String) (fieldName : String) :
    Except PyError (Option Decimal) :=
  if isBlank value then .ok none else (parsePositiveDecimal value fieldName).map some

/-- `parse_nonnegative_integer` -/
def parseNonnegativeInteger (value : Option String) (fieldName : String) : Except PyError Int :=
  if isBlank value then
    .error (.valueError (fieldName ++ " is required"))
  else
    match intOfText (strip (value.getD "")) with
    | none => .error (.valueError (fieldName ++ " must be an integer"))
    | some integerValue =>
        if integerValue < 0 then
          .error (.valueError (fieldName ++ " must be nonnegative"))
        else
          .ok integerValue

/-- The checks of the price range. -/
def checkPriceRange (openPrice highPrice lowPrice closePrice : Decimal) : Except PyError Unit :=
  if highPrice < openPrice ∨ highPrice < lowPrice ∨ highPrice < closePrice then
    .error (.valueError "high must be greater than or equal to open, low, and close")
  else if lowPrice > openPrice ∨ lowPrice > highPrice ∨ lowPrice > closePrice then
    .error (.valueError "low must be less than or equal to open, high, and close")
  else
    .ok ()

/-- `parse_market_row` -/
def parseMarketRow (rawRow : RawRow) : Except PyError MarketDataRow := do
  let date ← parseDate (rawRow.get "date")
  let openPrice ← parsePositiveDecimal (rawRow.get "open") "open"
  let highPrice ← parsePositiveDecimal (rawRow.get "high") "high"
  let lowPrice ← parsePositiveDecimal (rawRow.get "low") "low"
  let closePrice ← parsePositiveDecimal (rawRow.get "close") "close"
  let adjustedClose ← parseOptionalPositiveDecimal (rawRow.get "adjusted_close") "adjusted_close"
  let volume ← parseNonnegativeInteger (rawRow.get "volume") "volume"
  checkPriceRange openPrice highPrice lowPrice closePrice
  return {
    timestamp := date.midnight
    openPrice := openPrice
    highPrice := highPrice
    lowPrice := lowPrice
    closePrice := closePrice
    volume := volume
    adjustedClose := adjustedClose }

/-- The local variables of the loop of `parse_market_csv`. -/
structure ParseState where
  rows : List MarketDataRow
  summary : ImportSummary
  seenTimestamps : List Timestamp
deriving Repr

/-- No record has been read. -/
def ParseState.initial : ParseState := ⟨[], .empty, []⟩

/-- A parsed row whose timestamp was not seen. -/
def parseNewRow (seenTimestamps : List Timestamp) (rawRow : RawRow) :
    Except PyError MarketDataRow := do
  let row ← parseMarketRow rawRow
  if row.timestamp ∈ seenTimestamps then
    throw (.valueError "duplicate timestamp in CSV")
  return row

/-- One iteration of the loop of `parse_market_csv`. -/
def parseRecord (state : ParseState) (rowNumber : Nat) (rawRow : RawRow) :
    Except PyError ParseState :=
  let summary := { state.summary with totalCsvRows := state.summary.totalCsvRows + 1 }
  match parseNewRow state.seenTimestamps rawRow with
  | .ok row =>
      .ok {
        rows := state.rows ++ [row]
        summary := summary
        seenTimestamps := row.timestamp :: state.seenTimestamps }
  | .error (.valueError reason) =>
      .ok { state with
        summary := { summary with skippedRows := summary.skippedRows ++ [⟨rowNumber, reason⟩] } }
  | .error error => .error error

/-- The loop of `parse_market_csv`, from a row number on. -/
def parseRecords (state : ParseState) (rowNumber : Nat) : List RawRow → Except PyError ParseState
  | [] => .ok state
  | rawRow :: rest => do
      let state ← parseRecord state rowNumber rawRow
      parseRecords state (rowNumber + 1) rest

/-- `parse_market_csv`: the accepted rows, and the summary so far. -/
def parseMarketCsv (file : CsvFile) : Except PyError (List MarketDataRow × ImportSummary) := do
  let missing := requiredColumns.filter fun column => column ∉ file.fieldnames
  if missing ≠ [] then
    throw (.valueError
      ("CSV is missing required columns: " ++ ", ".intercalate missing ++ "."))
  let state ← parseRecords .initial 2 file.records
  return (state.rows, state.summary)

-- ============================================================================
-- The table
-- ============================================================================

/-- Why PostgreSQL refuses a statement. -/
inductive DatabaseError where
  | numericValueOutOfRange
  | checkViolation (constraint : String)
  | cardinalityViolation
deriving DecidableEq, Repr

/-- A row of `public.market_data`. -/
structure MarketData where
  symbol : String
  interval : String
  timestamp : Timestamp
  openPrice : Decimal
  highPrice : Decimal
  lowPrice : Decimal
  closePrice : Decimal
  adjustedClose : Option Decimal
  volume : Int
deriving DecidableEq, Repr

/-- The primary key of the table. -/
def MarketData.key (row : MarketData) : String × String × Timestamp :=
  (row.symbol, row.interval, row.timestamp)

/-- The table `market_data`. -/
abbrev MarketDataTable := Table MarketData.key

/-- The scale of the price columns: ten to the number of digits after the point. -/
def priceScale : Decimal := 100000000

/-- A numeric rounded to the scale of the column, half away from zero. -/
def roundToScale (value : Decimal) : Decimal :=
  if 0 ≤ value then
    ⌊value * priceScale + 1 / 2⌋ / priceScale
  else
    -(⌊-value * priceScale + 1 / 2⌋ / priceScale)

/-- A value stored in a `numeric(18, 8)` column. -/
def numericValue (value : Decimal) : Except DatabaseError Decimal :=
  if |roundToScale value| < 10000000000 then
    .ok (roundToScale value)
  else
    .error .numericValueOutOfRange

/-- A value stored in a `bigint` column. -/
def bigintValue (value : Int) : Except DatabaseError Int :=
  if -9223372036854775808 ≤ value ∧ value ≤ 9223372036854775807 then
    .ok value
  else
    .error .numericValueOutOfRange

/-- The check constraints of the table, in the order of their names. -/
def MarketData.check (upper : String → String) (row : MarketData) : Except DatabaseError Unit :=
  if row.interval ≠ "1d" then
    .error (.checkViolation "market_data_interval_check")
  else if ¬ (row.lowPrice ≤ row.openPrice ∧ row.openPrice ≤ row.highPrice ∧
      row.lowPrice ≤ row.closePrice ∧ row.closePrice ≤ row.highPrice) then
    .error (.checkViolation "market_data_price_range_check")
  else if ¬ (0 < row.openPrice ∧ 0 < row.highPrice ∧ 0 < row.lowPrice ∧ 0 < row.closePrice ∧
      ∀ adjustedClose ∈ row.adjustedClose, 0 < adjustedClose) then
    .error (.checkViolation "market_data_prices_positive_check")
  else if ¬ (1 ≤ row.symbol.length ∧ row.symbol.length ≤ 20 ∧ row.symbol = upper row.symbol) then
    .error (.checkViolation "market_data_symbol_check")
  else if ¬ 0 ≤ row.volume then
    .error (.checkViolation "market_data_volume_check")
  else
    .ok ()

/-- A nullable `numeric(18, 8)` column. -/
def nullableNumericValue : Option Decimal → Except DatabaseError (Option Decimal)
  | none => .ok none
  | some value => (numericValue value).map some

/-- The row that the table stores for a row of the file. -/
def storedRow (upper : String → String) (symbol interval : String) (row : MarketDataRow) :
    Except DatabaseError MarketData := do
  let openPrice ← numericValue row.openPrice
  let highPrice ← numericValue row.highPrice
  let lowPrice ← numericValue row.lowPrice
  let closePrice ← numericValue row.closePrice
  let volume ← bigintValue row.volume
  let adjustedClose ← nullableNumericValue row.adjustedClose
  let stored : MarketData := {
    symbol := symbol
    interval := interval
    timestamp := row.timestamp
    openPrice := openPrice
    highPrice := highPrice
    lowPrice := lowPrice
    closePrice := closePrice
    adjustedClose := adjustedClose
    volume := volume }
  stored.check upper
  return stored

-- ============================================================================
-- The import
-- ============================================================================

/-- `range(0, len(rows), batch_size)` and the slices at its values. -/
def batched {α : Type} (rows : List α) (batchSize : Nat) : List (List α) :=
  (List.range ((rows.length + batchSize - 1) / batchSize)).map fun i =>
    (rows.drop (i * batchSize)).take batchSize

/-- The set of the timestamps that `existing_timestamp_query` returns. -/
def existingTimestamps (table : MarketDataTable) (symbol interval : String)
    (timestamps : List Timestamp) : List Timestamp :=
  ((table.rows.filter fun row =>
    row.symbol = symbol ∧ row.interval = interval ∧ row.timestamp ∈ timestamps).map
    (·.timestamp)).dedup

/-- `execute_upsert`: one statement, which may not write a key twice. -/
def executeUpsert (upper : String → String) (symbol interval : String) (table : MarketDataTable)
    (rows : List MarketDataRow) : Except DatabaseError MarketDataTable :=
  if (rows.map (·.timestamp)).Nodup then
    rows.foldlM (fun table row => return table.upsert (← storedRow upper symbol interval row))
      table
  else
    .error .cardinalityViolation

/-- One iteration of the loop of `import_market_csv`. -/
def importBatch (upper : String → String) (symbol interval : String)
    (state : MarketDataTable × ImportSummary) (batch : List MarketDataRow) :
    Except DatabaseError (MarketDataTable × ImportSummary) := do
  let (table, summary) := state
  let existing := existingTimestamps table symbol interval (batch.map (·.timestamp))
  let table ← executeUpsert upper symbol interval table batch
  return (table, { summary with
    updatedRows := summary.updatedRows + existing.length
    insertedRows := summary.insertedRows + (batch.length - existing.length) })

/-- What an import raises. -/
inductive ImportError where
  | python (error : PyError)
  | database (error : DatabaseError)
deriving DecidableEq, Repr

/-- The queries after the transaction. -/
def storedSummary (symbol interval : String) (table : MarketDataTable)
    (summary : ImportSummary) : ImportSummary :=
  let timestamps := (table.rows.filter fun row =>
    row.symbol = symbol ∧ row.interval = interval).map (·.timestamp)
  { summary with
    earliestStoredTimestamp := timestamps.min?
    latestStoredTimestamp := timestamps.max?
    totalSymbolRows := timestamps.length }

/-- `import_market_csv`; `file` is `none` if there is no file at the path.  An error leaves
    the table as it was. -/
def importMarketCsv (upper : String → String) (path : String) (file : Option CsvFile)
    (table : MarketDataTable) (symbol interval : String) (batchSize : Int) :
    Except ImportError (MarketDataTable × ImportSummary) :=
  match file with
  | none => .error (.python (.valueError ("CSV file does not exist: " ++ path)))
  | some file =>
      if symbol = "" ∨ symbol ≠ upper symbol ∨ symbol.length > 20 then
        .error (.python (.valueError
          "symbol must be an uppercase value between 1 and 20 characters"))
      else if interval ≠ "1d" then
        .error (.python (.valueError "interval must be 1d"))
      else if batchSize ≤ 0 then
        .error (.python (.valueError "batch_size must be positive"))
      else do
        let (rows, summary) ← (parseMarketCsv file).mapError .python
        let (table, summary) ← ((batched rows batchSize.toNat).foldlM
          (importBatch upper symbol interval) (table, summary)).mapError .database
        return (table, storedSummary symbol interval table summary)

end Scripts
end TradingPlatform
