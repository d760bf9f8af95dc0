/-
  TradingPlatform.Scripts.ImportedHistory

  Runs of `import_market_csv` calls, and the history that a preview loads after
  them.

  A call that raises leaves the table as it was, so every call writes a partial
  map of keys to rows, the same one whatever the table holds
  (`ImportCall.get?_apply`).  The table after a run is the table before it under
  those writes, the last one on top.

  - `runImports_previews`: whatever was imported, a validated strategy previews
    unless the stored SPY days are too few.
  - `runImports_lastWriter`: the last import of a date decides what is loaded,
    and imports of different dates may come in any order.
-/

import TradingPlatform.Lib.Overlay
import TradingPlatform.Scripts.StorableRows
import TradingPlatform.Services.PreviewRuns

namespace Table

variable {α κ : Type _} {key : α → κ} [DecidableEq κ]

/-- A table without rows. -/
def empty : Table key := ⟨[], List.nodup_nil⟩

/-- Upserts override what a table holds by what they make of an empty one. -/
theorem get?_upsertAll_or (t : Table key) (as : List α) (k : κ) :
    (t.upsertAll as).get? k =
      (((empty : Table key).upsertAll as).get? k).or (t.get? k) := by
  induction as using List.reverseRecOn with
  | nil => rfl
  | append_singleton as a ih =>
      rw [upsertAll_append, upsertAll_append]
      show ((t.upsertAll as).upsert a).get? k = ((upsertAll _ as).upsert a |>.get? k).or (t.get? k)
      rw [get?_upsert, get?_upsert]
      split
      · rfl
      · exact ih

end Table

namespace TradingPlatform
namespace Scripts

open Backtesting (MarketBar loadMarketBars)
open Schemas Services

-- ============================================================================
-- Runs of imports
-- ============================================================================

/-- The arguments of one call of `import_market_csv`. -/
structure ImportCall where
  path : String
  file : Option CsvFile
  symbol : String
  interval : String
  batchSize : Int
deriving Repr

/-- The table before any import. -/
def emptyMarketData : MarketDataTable := Table.empty

section Calls

variable (upper : String → String)

/-- The table after a call. -/
def ImportCall.apply (call : ImportCall) (table : MarketDataTable) : MarketDataTable :=
  match importMarketCsv upper call.path call.file table call.symbol call.interval
    call.batchSize with
  | .ok (table, _) => table
  | .error _ => table

/-- The table after some calls, whether they raised or not. -/
def runImports (calls : List ImportCall) (table : MarketDataTable) : MarketDataTable :=
  calls.foldl (fun table call => call.apply upper table) table

/-- The rows that a call writes: what it makes of an empty table. -/
def ImportCall.write (call : ImportCall) : String × String × Timestamp → Option MarketData :=
  (call.apply upper emptyMarketData).get?

end Calls

/-- Every row passes the checks of the table. -/
def Checked (upper : String → String) (table : MarketDataTable) : Prop :=
  ∀ row ∈ table.rows, row.check upper = .ok ()

theorem emptyMarketData_checked {upper : String → String} : Checked upper emptyMarketData :=
  fun _ hrow => absurd hrow List.not_mem_nil

section Apply

variable {upper : String → String}

theorem storedRow_check {symbol interval : String} {row : MarketDataRow} {stored : MarketData}
    (h : storedRow upper symbol interval row = .ok stored) : stored.check upper = .ok () := by
  obtain ⟨openPrice, -, h⟩ := Python.bind_eq_ok h
  obtain ⟨highPrice, -, h⟩ := Python.bind_eq_ok h
  obtain ⟨lowPrice, -, h⟩ := Python.bind_eq_ok h
  obtain ⟨closePrice, -, h⟩ := Python.bind_eq_ok h
  obtain ⟨volume, -, h⟩ := Python.bind_eq_ok h
  obtain ⟨adjustedClose, -, h⟩ := Python.bind_eq_ok h
  obtain ⟨⟨⟩, hcheck, h⟩ := Python.bind_eq_ok h
  cases h
  exact hcheck

theorem Stores.check {symbol interval : String} {rows : List MarketDataRow}
    {stored : List MarketData} (h : Stores upper symbol interval rows stored) :
    ∀ row ∈ stored, row.check upper = .ok () := by
  induction rows generalizing stored with
  | nil =>
      cases h
      intro row hrow
      cases hrow
  | cons row rows ih =>
      obtain ⟨first, rest, rfl, hfirst, hrest⟩ := stores_cons h
      exact List.forall_mem_cons.mpr ⟨storedRow_check hfirst, ih hrest⟩

/-- A call raises on every table, or upserts the same rows into every table. -/
theorem ImportCall.apply_cases (upper : String → String) (call : ImportCall) :
    (∀ table, call.apply upper table = table) ∨
      ∃ stored : List MarketData, (∀ row ∈ stored, row.check upper = .ok ()) ∧
        ∀ table, call.apply upper table = table.upsertAll stored := by
  obtain ⟨path, file, symbol, interval, batchSize⟩ := call
  cases file with
  | none => exact .inl fun table => rfl
  | some file =>
      cases hempty : importMarketCsv upper path (some file) emptyMarketData symbol interval
          batchSize with
      | error e =>
          refine .inl fun table => ?_
          unfold apply
          split
          · rename_i written summary himport
            obtain ⟨hvalid, hsize, rows, parsed, stored, hparse, hstores, -⟩ :=
              importMarketCsv_eq_ok.mp himport
            have hok : importMarketCsv upper path (some file) emptyMarketData symbol interval
                batchSize = .ok (emptyMarketData.upsertAll stored, _) :=
              importMarketCsv_eq_ok.mpr
                ⟨hvalid, hsize, rows, parsed, stored, hparse, hstores, rfl, rfl⟩
            cases hempty.symm.trans hok
          · rfl
      | ok result =>
          obtain ⟨written, summary⟩ := result
          obtain ⟨hvalid, hsize, rows, parsed, stored, hparse, hstores, -⟩ :=
            importMarketCsv_eq_ok.mp hempty
          refine .inr ⟨stored, hstores.check, fun table => ?_⟩
          have hok : importMarketCsv upper path (some file) table symbol interval batchSize =
              .ok (table.upsertAll stored, _) :=
            importMarketCsv_eq_ok.mpr
              ⟨hvalid, hsize, rows, parsed, stored, hparse, hstores, rfl, rfl⟩
          unfold apply
          rw [hok]

/-- Every call overrides the table by the rows that it writes. -/
theorem ImportCall.get?_apply (call : ImportCall) (table : MarketDataTable) :
    (call.apply upper table).get? = Overlay.layer (call.write upper) table.get? := by
  funext key
  rw [Overlay.layer, write]
  rcases call.apply_cases upper with hraises | ⟨stored, -, hwrites⟩
  · rw [hraises, hraises]
    rfl
  · rw [hwrites, hwrites]
    exact Table.get?_upsertAll_or table stored key

theorem get?_runImports (calls : List ImportCall) (table : MarketDataTable) :
    (runImports upper calls table).get? =
      Overlay.latest (calls.map (·.write upper)) table.get? := by
  induction calls generalizing table with
  | nil => rfl
  | cons call calls ih =>
      rw [List.map_cons, Overlay.latest_cons, ← ImportCall.get?_apply]
      exact ih (call.apply upper table)

/-- A row of a table after some upserts was there or was upserted. -/
theorem mem_upsertAll_rows {table : MarketDataTable} {stored : List MarketData}
    {row : MarketData} (hrow : row ∈ (table.upsertAll stored).rows) :
    row ∈ table.rows ∨ row ∈ stored := by
  induction stored generalizing table with
  | nil => exact .inl hrow
  | cons first stored ih =>
      rcases ih hrow with hbefore | hlater
      · rcases Table.mem_upsert_rows.mp hbefore with rfl | ⟨hold, -⟩
        · exact .inr (List.mem_cons_self ..)
        · exact .inl hold
      · exact .inr (List.mem_cons_of_mem _ hlater)

theorem ImportCall.apply_checked (call : ImportCall) {table : MarketDataTable}
    (htable : Checked upper table) : Checked upper (call.apply upper table) := by
  rcases call.apply_cases upper with hraises | ⟨stored, hstored, hwrites⟩
  · rw [hraises]
    exact htable
  · rw [hwrites]
    intro row hrow
    rcases mem_upsertAll_rows hrow with hold | hnew
    · exact htable row hold
    · exact hstored row hnew

/-- Imports never store a row that fails a check. -/
theorem runImports_checked (calls : List ImportCall) {table : MarketDataTable}
    (htable : Checked upper table) : Checked upper (runImports upper calls table) := by
  induction calls generalizing table with
  | nil => exact htable
  | cons call calls ih => exact ih (call.apply_checked htable)

end Apply

-- ============================================================================
-- What a preview loads
-- ============================================================================

/-- The columns of a row that `load_market_bars` reads. -/
def MarketData.toLoaded (row : MarketData) : Backtesting.MarketDataRow where
  symbol := row.symbol
  interval := row.interval
  timestamp := row.timestamp
  openPrice := row.openPrice
  highPrice := row.highPrice
  lowPrice := row.lowPrice
  closePrice := row.closePrice
  volume := row.volume

/-- The rows as the loader reads them. -/
def loadedRows (table : MarketDataTable) : List Backtesting.MarketDataRow :=
  table.rows.map (·.toLoaded)

/-- The bars of a symbol in a table. -/
def storedBars (table : MarketDataTable) (symbol : String) : List MarketBar :=
  loadMarketBars (loadedRows table) symbol "1d"

theorem MarketData.consistent_of_check {upper : String → String} {row : MarketData}
    (h : row.check upper = .ok ()) : row.toLoaded.toMarketBar.Consistent := by
  unfold MarketData.check at h
  split at h
  · cases h
  split at h
  · cases h
  rename_i hrange
  split at h
  · cases h
  rename_i hpositive
  obtain ⟨hlowOpen, hopenHigh, hlowClose, hcloseHigh⟩ := not_not.mp hrange
  obtain ⟨-, -, hlow, -⟩ := not_not.mp hpositive
  exact ⟨hlow, hlowOpen, hlowClose, hopenHigh, hcloseHigh⟩

/-- A checked table as the loader's. -/
def Checked.toLoaded {upper : String → String} {table : MarketDataTable}
    (htable : Checked upper table) : Backtesting.MarketDataTable where
  rows := loadedRows table
  primaryKey := by
    rw [loadedRows, List.pairwise_map]
    exact List.pairwise_map.mp table.nodup
  prices := by
    intro row hrow
    obtain ⟨stored, hstored, rfl⟩ := List.mem_map.mp hrow
    exact MarketData.consistent_of_check (htable stored hstored)

theorem storedBars_consistent {upper : String → String} {table : MarketDataTable}
    (htable : Checked upper table) (symbol : String) :
    ∀ bar ∈ storedBars table symbol, bar.Consistent :=
  htable.toLoaded.loadMarketBars_consistent symbol "1d"

theorem storedBars_ordered {upper : String → String} {table : MarketDataTable}
    (htable : Checked upper table) (symbol : String) :
    (storedBars table symbol).Pairwise fun x y => x.timestamp < y.timestamp :=
  htable.toLoaded.loadMarketBars_ordered symbol "1d"

theorem mem_storedBars {table : MarketDataTable} {symbol : String} {bar : MarketBar} :
    bar ∈ storedBars table symbol ↔
      ∃ row, table.get? (symbol, "1d", bar.timestamp) = some row ∧
        row.toLoaded.toMarketBar = bar := by
  rw [storedBars, loadMarketBars, List.mem_map]
  constructor
  · rintro ⟨loaded, hloaded, rfl⟩
    rw [List.mem_insertionSort, List.mem_filter] at hloaded
    obtain ⟨hmem, hkey⟩ := hloaded
    obtain ⟨row, hrow, rfl⟩ := List.mem_map.mp hmem
    obtain ⟨hsymbol, hinterval⟩ := of_decide_eq_true hkey
    refine ⟨row, Table.get?_eq_some.mpr ⟨hrow, ?_⟩, rfl⟩
    show (row.symbol, row.interval, row.timestamp) = _
    rw [show row.symbol = symbol from hsymbol, show row.interval = "1d" from hinterval]
    rfl
  · rintro ⟨row, hrow, rfl⟩
    obtain ⟨hmem, hkey⟩ := Table.get?_eq_some.mp hrow
    obtain ⟨hsymbol, hrest⟩ := Prod.mk.inj hkey
    obtain ⟨hinterval, -⟩ := Prod.mk.inj hrest
    refine ⟨row.toLoaded, ?_, rfl⟩
    rw [List.mem_insertionSort, List.mem_filter]
    exact ⟨List.mem_map_of_mem hmem, decide_eq_true ⟨hsymbol, hinterval⟩⟩

/-- Tables that store the same rows for a symbol load the same bars, whatever else they store
    and in whatever order. -/
theorem storedBars_congr {upper : String → String} {table table' : MarketDataTable}
    (htable : Checked upper table) (htable' : Checked upper table') {symbol : String}
    (h : ∀ timestamp, table.get? (symbol, "1d", timestamp) =
      table'.get? (symbol, "1d", timestamp)) :
    storedBars table symbol = storedBars table' symbol := by
  have : Std.Irrefl fun x y : MarketBar => x.timestamp < y.timestamp :=
    ⟨fun x => lt_irrefl x.timestamp⟩
  have : IsTrans MarketBar fun x y => x.timestamp < y.timestamp := ⟨fun _ _ _ => lt_trans⟩
  have : Std.Asymm fun x y : MarketBar => x.timestamp < y.timestamp :=
    ⟨fun _ _ => lt_asymm⟩
  refine List.Pairwise.eq_of_mem_iff (storedBars_ordered htable symbol)
    (storedBars_ordered htable' symbol) fun bar => ?_
  rw [mem_storedBars, mem_storedBars, h]

-- ============================================================================
-- Availability
-- ============================================================================

/-- Imports only add days. -/
theorem storedBars_length_le {upper : String → String} (calls : List ImportCall)
    {prior : MarketDataTable} (hprior : Checked upper prior) (symbol : String) :
    (storedBars prior symbol).length ≤
      (storedBars (runImports upper calls prior) symbol).length := by
  have hdistinct : ((storedBars prior symbol).map (·.timestamp)).Nodup :=
    List.pairwise_map.mpr ((storedBars_ordered hprior symbol).imp fun hlt => ne_of_lt hlt)
  have hsubset : (storedBars prior symbol).map (·.timestamp) ⊆
      (storedBars (runImports upper calls prior) symbol).map (·.timestamp) := by
    intro timestamp htimestamp
    obtain ⟨bar, hbar, rfl⟩ := List.mem_map.mp htimestamp
    obtain ⟨row, hrow, -⟩ := mem_storedBars.mp hbar
    have hkept : ((runImports upper calls prior).get? (symbol, "1d", bar.timestamp)).isSome := by
      rw [get?_runImports, Overlay.latest_apply, hrow, Option.isSome_or]
      simp
    obtain ⟨later, hlater⟩ := Option.isSome_iff_exists.mp hkept
    obtain ⟨-, hkey⟩ := Table.get?_eq_some.mp hlater
    have htime : later.timestamp = bar.timestamp := (Prod.mk.inj (Prod.mk.inj hkey).2).2
    refine List.mem_map.mpr ⟨later.toLoaded.toMarketBar, mem_storedBars.mpr ⟨later, ?_, rfl⟩,
      htime⟩
    show (runImports upper calls prior).get? (symbol, "1d", later.timestamp) = some later
    rw [htime]
    exact hlater
  have hlength := (hdistinct.subperm hsubset).length_le
  simpa using hlength

theorem operandFirstEvaluableIndex_le {operand : Operand} (h : operand.Valid) :
    Backtesting.operandFirstEvaluableIndex operand ≤ 999 := by
  cases operand with
  | indicator name source period =>
      have hperiod : period ≤ 1000 := h.2
      show period - 1 ≤ 999
      omega
  | price source =>
      show (0 : Int) ≤ 999
      omega
  | constant value =>
      show (0 : Int) ≤ 999
      omega

theorem conditionFirstEligibleIndex_le {condition : Condition} (h : condition.Valid) :
    Backtesting.conditionFirstEligibleIndex condition ≤ 1000 := by
  have hleft := operandFirstEvaluableIndex_le h.left
  have hright := operandFirstEvaluableIndex_le h.right
  unfold Backtesting.conditionFirstEligibleIndex
  dsimp only
  split <;> omega

/-- The longest warm-up: an average of 1000 days, in a crossover. -/
theorem eligibleIndex_le {specification : StrategySpecification} (h : specification.Valid)
    (bars : List MarketBar) : eligibleIndex specification bars ≤ 1000 := by
  have hentry := conditionFirstEligibleIndex_le h.entry
  have hexit := conditionFirstEligibleIndex_le h.exit
  unfold eligibleIndex Backtesting.CompiledStrategy.firstSignalEligibleIndex
  dsimp only
  omega

/-- Whatever was imported into a table, a validated strategy previews and serializes, or says
    that there are not enough days; more than 1000 days are enough for every strategy, and a
    preview is never taken away. -/
theorem runImports_previews {power : Decimal → Decimal → Except PyError Decimal}
    (hpower : Backtesting.PowerTotal power) (rendering : Rendering) (upper : String → String)
    (calls : List ImportCall) (prior : MarketDataTable) (hprior : Checked upper prior)
    (specification : StrategySpecification)
    (hvalid : validateStrategySemantics specification = .ok ())
    (parsedStrategy : ParsedStrategyResult) :
    let preview := fun table => createSpecificationPreview power rendering (loadedRows table)
      specification parsedStrategy
    let after := runImports upper calls prior
    (preview after = .error marketDataUnavailable ∨ ∃ result document,
      preview after = .ok result ∧
        serializePreview rendering parsedStrategy result = .ok document) ∧
    (1000 < (storedBars after "SPY").length → ∃ result, preview after = .ok result) ∧
    ((∃ result, preview prior = .ok result) → ∃ result, preview after = .ok result) := by
  intro preview after
  have hspec := validateStrategySemantics_valid hvalid
  -- on a checked table, only the number of stored days matters
  have hload : ∀ table, loadMarketBars (loadedRows table) specification.symbol
      specification.interval = storedBars table "SPY" := fun table => by
    rw [hspec.symbol_eq, hspec.interval_eq]
    rfl
  have hpositive : ∀ {table}, Checked upper table → ∀ bar ∈ storedBars table "SPY",
      bar.Positive := fun htable bar hbar => (storedBars_consistent htable "SPY" bar hbar).positive
  have henough : ∀ {table}, Checked upper table →
      eligibleIndex specification (storedBars table "SPY") < (storedBars table "SPY").length →
      ∃ result document, preview table = .ok result ∧
        serializePreview rendering parsedStrategy result = .ok document := by
    intro table htable hstart
    obtain ⟨result, hresult, hlength⟩ := createSpecificationPreview_ok rendering parsedStrategy
      hpower hvalid (hload table) (storedBars_ordered htable "SPY") (hpositive htable) hstart
    obtain ⟨document, hdocument⟩ := serializePreview_ok rendering parsedStrategy hlength
    exact ⟨result, document, hresult, hdocument⟩
  have hafter : Checked upper after := runImports_checked calls hprior
  refine ⟨?_, fun hmany => ?_, fun ⟨result, hresult⟩ => ?_⟩
  · by_cases hstart : eligibleIndex specification (storedBars after "SPY") <
        (storedBars after "SPY").length
    · exact .inr (henough hafter hstart)
    · exact .inl (createSpecificationPreview_unavailable hvalid (hload after) (not_lt.mp hstart))
  · have hbound := eligibleIndex_le hspec (storedBars after "SPY")
    obtain ⟨result, -, hresult, -⟩ := henough hafter (by omega)
    exact ⟨result, hresult⟩
  · obtain ⟨hstart, -, -, -⟩ := createSpecificationPreview_eq_ok hvalid (hload prior)
      (hpositive hprior) hresult
    have hgrow : (storedBars prior "SPY").length ≤ (storedBars after "SPY").length :=
      storedBars_length_le calls hprior "SPY"
    -- the warm-up does not depend on the bars
    have hsame : eligibleIndex specification (storedBars after "SPY") =
        eligibleIndex specification (storedBars prior "SPY") := rfl
    obtain ⟨later, -, hlater, -⟩ := henough hafter (by omega)
    exact ⟨later, hlater⟩

/-- The two days of a file, imported into an empty table, are enough for a strategy without
    indicators. -/
theorem runImports_previews_flat :
    ∃ result document,
      createSpecificationPreview wholePower plainRendering
          (loadedRows (runImports (·.map Char.toUpper)
            [⟨"spy.csv", some flatFile, "SPY", "1d", 500⟩] emptyMarketData))
          (.ofRules ⟨.price "close", .greaterThan, .constant 10⟩
            ⟨.price "close", .lessThan, .constant 10⟩)
          (.ofSpecification (.ofRules ⟨.price "close", .greaterThan, .constant 10⟩
            ⟨.price "close", .lessThan, .constant 10⟩) "Buy above 10, sell below 10.") =
        .ok result ∧
      serializePreview plainRendering
          (.ofSpecification (.ofRules ⟨.price "close", .greaterThan, .constant 10⟩
            ⟨.price "close", .lessThan, .constant 10⟩) "Buy above 10, sell below 10.") result =
        .ok document := by
  rcases (runImports_previews wholePower_total plainRendering (·.map Char.toUpper)
    [⟨"spy.csv", some flatFile, "SPY", "1d", 500⟩] emptyMarketData emptyMarketData_checked
    (.ofRules ⟨.price "close", .greaterThan, .constant 10⟩
      ⟨.price "close", .lessThan, .constant 10⟩) (by decide +kernel)
    (.ofSpecification (.ofRules ⟨.price "close", .greaterThan, .constant 10⟩
      ⟨.price "close", .lessThan, .constant 10⟩) "Buy above 10, sell below 10.")).1
    with hshort | henough
  · have hok : (createSpecificationPreview wholePower plainRendering
        (loadedRows (runImports (·.map Char.toUpper)
          [⟨"spy.csv", some flatFile, "SPY", "1d", 500⟩] emptyMarketData))
        (.ofRules ⟨.price "close", .greaterThan, .constant 10⟩
          ⟨.price "close", .lessThan, .constant 10⟩)
        (.ofSpecification (.ofRules ⟨.price "close", .greaterThan, .constant 10⟩
          ⟨.price "close", .lessThan, .constant 10⟩)
          "Buy above 10, sell below 10.")).toOption.isSome = true := by decide +kernel
    rw [show createSpecificationPreview .. = _ from hshort] at hok
    cases hok
  · exact henough

-- ============================================================================
-- The last writer
-- ============================================================================

/-- The rows that a returning import leaves in an empty table. -/
theorem importMarketCsv_empty_get? {upper : String → String} {path symbol interval : String}
    {file : CsvFile} {batchSize : Int} {table : MarketDataTable} {summary : ImportSummary}
    (himport : importMarketCsv upper path (some file) emptyMarketData symbol interval batchSize =
      .ok (table, summary)) {key : String × String × Timestamp} {row : MarketData} :
    table.get? key = some row ↔
      ∃ kept, firstAccepted file.records key.2.2 = some kept ∧
        key = (symbol, interval, kept.timestamp) ∧
        storedRow upper symbol interval kept = .ok row := by
  obtain ⟨-, -, rows, parsed, stored, hparse, hstores, rfl, -⟩ := importMarketCsv_eq_ok.mp himport
  obtain ⟨state, hparsed, rfl, -⟩ := parseMarketCsv_spec hparse
  constructor
  · intro hrow
    obtain ⟨hmem, rfl⟩ := Table.get?_eq_some.mp hrow
    rcases mem_upsertAll_rows hmem with hold | hnew
    · cases hold
    · have hkey : row.key ∈ stored.map MarketData.key := List.mem_map_of_mem hnew
      rw [hstores.keys] at hkey
      obtain ⟨kept, hkept, heq⟩ := List.mem_map.mp hkey
      obtain ⟨s, hs, hget⟩ := hstores.get?_upsertAll hparsed.distinct emptyMarketData hkept
      rw [heq] at hget
      obtain rfl := Option.some.inj (hget.symm.trans hrow)
      refine ⟨kept, ?_, heq.symm, hs⟩
      rw [← heq]
      exact hparsed.mem_rows_iff.mp hkept
  · rintro ⟨kept, hfirst, rfl, hs⟩
    obtain ⟨s, hs', hget⟩ := hstores.get?_upsertAll hparsed.distinct emptyMarketData
      (hparsed.mem_rows_iff.mpr hfirst)
    obtain rfl := Except.ok.inj (hs.symm.trans hs')
    exact hget

/-- A call that returns writes the stored first accepted record of each date of its file, and
    one that raises writes nothing. -/
theorem ImportCall.write_eq_some {upper : String → String} {call : ImportCall}
    {key : String × String × Timestamp} {row : MarketData} :
    call.write upper key = some row ↔
      ∃ file kept table summary, call.file = some file ∧
        importMarketCsv upper call.path (some file) emptyMarketData call.symbol call.interval
          call.batchSize = .ok (table, summary) ∧
        firstAccepted file.records key.2.2 = some kept ∧
        key = (call.symbol, call.interval, kept.timestamp) ∧
        storedRow upper call.symbol call.interval kept = .ok row := by
  obtain ⟨path, file, symbol, interval, batchSize⟩ := call
  have hnothing : emptyMarketData.get? key ≠ some row := fun h => by cases h
  cases file with
  | none =>
      refine iff_of_false hnothing ?_
      rintro ⟨file, kept, table, summary, hfile, -⟩
      cases hfile
  | some file =>
      unfold write apply
      dsimp only
      cases himport : importMarketCsv upper path (some file) emptyMarketData symbol interval
          batchSize with
      | error e =>
          refine iff_of_false hnothing ?_
          rintro ⟨file', kept, table, summary, hfile, hreturned, -⟩
          cases hfile
          cases himport.symm.trans hreturned
      | ok result =>
          obtain ⟨table, summary⟩ := result
          dsimp only
          rw [importMarketCsv_empty_get? himport]
          constructor
          · rintro ⟨kept, hkept⟩
            exact ⟨file, kept, table, summary, rfl, himport, hkept⟩
          · rintro ⟨file', kept, table', summary', hfile, -, hkept⟩
            cases hfile
            exact ⟨kept, hkept⟩

theorem createSpecificationPreview_congr {power : Decimal → Decimal → Except PyError Decimal}
    {rendering : Rendering} {upper : String → String} {table table' : MarketDataTable}
    (htable : Checked upper table) (htable' : Checked upper table')
    (h : ∀ timestamp, table.get? ("SPY", "1d", timestamp) = table'.get? ("SPY", "1d", timestamp))
    (specification : StrategySpecification) (parsedStrategy : ParsedStrategyResult) :
    createSpecificationPreview power rendering (loadedRows table) specification parsedStrategy =
      createSpecificationPreview power rendering (loadedRows table') specification
        parsedStrategy := by
  unfold createSpecificationPreview Backtesting.compileStrategy
  cases hvalid : validateStrategySemantics specification with
  | error e => rfl
  | ok u =>
      have hspec := validateStrategySemantics_valid hvalid
      have hbars : loadMarketBars (loadedRows table) specification.symbol specification.interval =
          loadMarketBars (loadedRows table') specification.symbol specification.interval := by
        rw [hspec.symbol_eq, hspec.interval_eq]
        exact storedBars_congr htable htable' h
      rw [hbars]

/-- After a run of imports, the row of a date is what the last call wrote that wrote it, each
    call writing the first accepted records of its file or, if it raised, nothing; and calls of
    which no two write a row in common give the same previews in every order. -/
theorem runImports_lastWriter (upper : String → String) (calls : List ImportCall)
    (prior : MarketDataTable) (hprior : Checked upper prior) :
    (∀ key, (runImports upper calls prior).get? key =
      (calls.reverse.findSome? fun call => call.write upper key).or (prior.get? key)) ∧
    (∀ call ∈ calls, ∀ key row, call.write upper key = some row ↔
      ∃ file kept table summary, call.file = some file ∧
        importMarketCsv upper call.path (some file) emptyMarketData call.symbol call.interval
          call.batchSize = .ok (table, summary) ∧
        firstAccepted file.records key.2.2 = some kept ∧
        key = (call.symbol, call.interval, kept.timestamp) ∧
        storedRow upper call.symbol call.interval kept = .ok row) ∧
    (∀ bar, bar ∈ storedBars (runImports upper calls prior) "SPY" ↔
      ∃ row, (calls.reverse.findSome? fun call =>
          call.write upper ("SPY", "1d", bar.timestamp)).or
          (prior.get? ("SPY", "1d", bar.timestamp)) = some row ∧ row.toLoaded.toMarketBar = bar) ∧
    ∀ calls' : List ImportCall, calls.Perm calls' →
      calls.Pairwise (fun first second =>
        Overlay.Disjoint (first.write upper) (second.write upper)) →
      ∀ power rendering specification parsedStrategy,
        createSpecificationPreview power rendering
            (loadedRows (runImports upper calls prior)) specification parsedStrategy =
          createSpecificationPreview power rendering
            (loadedRows (runImports upper calls' prior)) specification parsedStrategy := by
  have hlatest : ∀ key, (runImports upper calls prior).get? key =
      (calls.reverse.findSome? fun call => call.write upper key).or (prior.get? key) := by
    intro key
    rw [get?_runImports, Overlay.latest_apply, ← List.map_reverse, List.findSome?_map]
    rfl
  refine ⟨hlatest, fun _ _ _ _ => ImportCall.write_eq_some, fun bar => ?_, ?_⟩
  · rw [mem_storedBars, hlatest]
  · intro calls' hperm hdisjoint power rendering specification parsedStrategy
    refine createSpecificationPreview_congr (runImports_checked calls hprior)
      (runImports_checked calls' hprior) (fun timestamp => ?_) specification parsedStrategy
    rw [get?_runImports, get?_runImports,
      Overlay.latest_perm (hperm.map _) (List.pairwise_map.mpr hdisjoint)]

/-- A second file without the date leaves the row of the first. -/
theorem runImports_lastWriter_two_files :
    (runImports (·.map Char.toUpper)
      [⟨"spy.csv", some flatFile, "SPY", "1d", 1⟩,
        ⟨"late.csv", some { flatFile with records := [flatRecord "2024-01-03" "105"] },
          "SPY", "1d", 500⟩] emptyMarketData).get? ("SPY", "1d", 1704153600000000) =
      some (flatStored 1704153600000000 100) :=
  ((runImports_lastWriter (·.map Char.toUpper) _ emptyMarketData emptyMarketData_checked).1
    _).trans (by decide +kernel)

end Scripts
end TradingPlatform
