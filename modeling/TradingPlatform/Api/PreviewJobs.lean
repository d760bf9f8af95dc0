/-
  TradingPlatform.Api.PreviewJobs

  `get_preview_job` of `app/api/routes/jobs.py`, and the way of a preview through
  the system: the worker serializes it, the route validates the stored document
  and the frontend checks the response.

  The three descriptions of the document agree.  `serializePreview` writes the
  dump of `StrategyPreviewResponse.ofPreview`, validation reads it back, and the
  response dumped anew passes the guard unless one of its numbers is too large
  for a double, which no number of a preview over stored prices is.
-/

import TradingPlatform.Frontend.StrategyPreviewGuard
import TradingPlatform.Jobs.JobStore
import TradingPlatform.Services.PlainReading
import TradingPlatform.Services.PreviewMagnitudes
import TradingPlatform.Services.StrategyParser

namespace TradingPlatform
namespace Schemas

open Backtesting Services

-- ============================================================================
-- The response of a preview
-- ============================================================================

/-- The response of a completed trade. -/
def BacktestTradeResponse.ofTrade (trade : CompletedTrade) : BacktestTradeResponse where
  signalTimestamp := trade.signalTimestamp
  entryTimestamp := trade.entryTimestamp
  entryPrice := trade.entryPrice
  quantity := trade.quantity
  exitSignalTimestamp := trade.exitSignalTimestamp
  exitTimestamp := trade.exitTimestamp
  exitPrice := trade.exitPrice
  profitLoss := trade.profitLoss
  returnPercentage := trade.returnPercentage
  exitReason := trade.exitReason

/-- The strategy's equity points from the comparison start on, each with its benchmark. -/
def comparisonPoints (preview : StrategyPreview) : List EquityComparisonPoint :=
  ((preview.execution.equityCurve.drop preview.comparisonStartIndex.toNat).zip
    preview.buyAndHoldEquityCurve).map fun (point, benchmark) =>
      ⟨point.timestamp, point.equity, benchmark.equity⟩

/-- The response that says what the parsed strategy and its preview say. -/
def StrategyPreviewResponse.ofPreview (parsed : ParsedStrategyResult)
    (preview : StrategyPreview) : StrategyPreviewResponse where
  parsedStrategy := .fromParsedResult parsed preview.interpretation
  backtest :=
    { symbol := parsed.specification.symbol
      interval := parsed.specification.interval
      startDate := preview.startTimestamp
      endDate := preview.endTimestamp
      barCount := preview.barCount
      startingCash := startingCash
      endingValue := preview.execution.finalPortfolioValue
      totalReturnPercent := preview.metrics.totalReturnPercentage
      cagrPercent := preview.metrics.cagrPercentage
      maxDrawdownPercent := preview.metrics.maximumDrawdownPercentage
      tradeCount := preview.execution.completedTrades.length
      winRatePercent := preview.metrics.winRatePercentage
      buyAndHoldReturnPercent := preview.metrics.buyAndHoldReturnPercentage
      equityCurve := comparisonPoints preview
      priceSeries := preview.bars.map fun bar => ⟨bar.timestamp, bar.closePrice⟩
      trades := preview.execution.completedTrades.map .ofTrade }

end Schemas

-- ============================================================================
-- The route
-- ============================================================================

namespace Api

open Pydantic Schemas Services Backtesting Jobs

/-- `PreviewJobResponse` of `app/schemas/jobs.py`. -/
structure PreviewJobResponse where
  id : JobId
  status : JobStatus
  stage : JobStage
  progress : Nat
  createdAt : Timestamp
  startedAt : Option Timestamp
  completedAt : Option Timestamp
  error : Option String
  previewResult : Option StrategyPreviewResponse
deriving Repr

/-- A job, or an `HTTPException` of the route. -/
inductive JobResponse where
  | job (body : PreviewJobResponse)
  | httpException (statusCode : Nat) (detail : String)
deriving Repr

/-- `get_job`: the user's own job of that id. -/
def getJob (rows : JobId → Option PreviewJob) (jobId : JobId) (userId : String) :
    Option PreviewJob :=
  (rows jobId).filter (·.userId = userId)

/-- The stored result of a completed job, validated. -/
def readPreviewResult (reading : Reading) (job : PreviewJob) :
    Except ValidationError (Option StrategyPreviewResponse) :=
  match job.previewResult with
  | some document =>
      if job.status = .completed then
        (StrategyPreviewResponse.modelValidate reading document).map some
      else
        .ok none
  | none => .ok none

/-- The route: 404 where the user has no such job, and 410 where its stored result no longer
    validates. -/
def getPreviewJob (reading : Reading) (rows : JobId → Option PreviewJob) (jobId : JobId)
    (userId : String) : JobResponse :=
  match getJob rows jobId userId with
  | none => .httpException 404 "Preview job not found."
  | some job =>
      match readPreviewResult reading job with
      | .error _ =>
          .httpException 410 "This preview result has expired. Run the preview again."
      | .ok previewResult =>
          .job
            { id := job.id
              status := job.status
              stage := job.stage
              progress := job.progress
              createdAt := job.createdAt
              startedAt := job.startedAt
              completedAt := job.completedAt
              error := job.errorMessage
              previewResult := previewResult }

-- ============================================================================
-- A preview through the system
-- ============================================================================

section ReadBack

variable {rendering : Rendering} {parsed : ParsedStrategyResult} {preview : StrategyPreview}

/-- The serialized preview is the dump of its response. -/
theorem serializePreview_eq_modelDump (rendering : Rendering) (parsed : ParsedStrategyResult)
    (hcurves : (preview.execution.equityCurve.drop
      preview.comparisonStartIndex.toNat).length = preview.buyAndHoldEquityCurve.length) :
    serializePreview rendering parsed preview =
      .ok ((StrategyPreviewResponse.ofPreview parsed preview).modelDump rendering) := by
  have hpoints : (comparisonPoints preview).map (·.modelDump rendering) =
      ((preview.execution.equityCurve.drop preview.comparisonStartIndex.toNat).zip
        preview.buyAndHoldEquityCurve).map (EquityPoint.serialize rendering) := by
    rw [comparisonPoints, List.map_map]
    rfl
  have hprices : (preview.bars.map fun bar =>
      (⟨bar.timestamp, bar.closePrice⟩ : PriceSeriesPoint)).map (·.modelDump rendering) =
        preview.bars.map (MarketBar.serialize rendering) := by
    rw [List.map_map]
    rfl
  have htrades : (preview.execution.completedTrades.map BacktestTradeResponse.ofTrade).map
      (·.modelDump rendering) =
        preview.execution.completedTrades.map (CompletedTrade.serialize rendering) := by
    rw [List.map_map]
    rfl
  rw [serializePreview, Python.zipStrict_of_length_eq hcurves, Python.ok_bind,
    StrategyPreviewResponse.modelDump, BacktestPreviewResponse.modelDump,
    StrategyPreviewResponse.ofPreview, hpoints, hprices, htrades]
  rfl

/-- No number of a preview within the limits overflows a double. -/
theorem magnitudes_lt_overflow (h : preview.Within storedLimits) :
    ∀ v ∈ (StrategyPreviewResponse.ofPreview parsed preview).backtest.magnitudes,
      |v| < Double.overflow := by
  have hsmall : ∀ {v bound : Decimal}, bound ≤ 10 ^ 39 → |v| ≤ bound → |v| < Double.overflow :=
    fun hbound hv => (hv.trans hbound).trans_lt (by decide +kernel)
  intro v hv
  rcases List.mem_append.mp hv with hv | hv
  · rcases List.mem_append.mp hv with hv | hv
    · obtain ⟨point, hpoint, hv⟩ := List.mem_flatMap.mp hv
      obtain ⟨⟨strategy, benchmark⟩, hpair, rfl⟩ := List.mem_map.mp hpoint
      obtain ⟨hstrategy, hbenchmark⟩ := List.of_mem_zip hpair
      simp only [EquityComparisonPoint.magnitudes, List.mem_cons, List.not_mem_nil,
        or_false] at hv
      rcases hv with rfl | rfl
      · exact hsmall (by decide +kernel) (h.equity _ (List.mem_of_mem_drop hstrategy))
      · exact hsmall (by decide +kernel) (h.benchmark _ hbenchmark)
    · obtain ⟨point, hpoint, rfl⟩ := List.mem_map.mp hv
      obtain ⟨bar, hbar, rfl⟩ := List.mem_map.mp hpoint
      exact hsmall (by decide +kernel) (h.closePrice bar hbar)
  · obtain ⟨response, hresponse, hv⟩ := List.mem_flatMap.mp hv
    obtain ⟨trade, htrade, rfl⟩ := List.mem_map.mp hresponse
    have hwithin := h.trades trade htrade
    simp only [BacktestTradeResponse.magnitudes, BacktestTradeResponse.ofTrade, List.mem_cons,
      List.not_mem_nil, or_false] at hv
    rcases hv with rfl | rfl | rfl | rfl | rfl
    · exact hsmall (by decide +kernel)
        ((abs_of_pos hwithin.entryPrice.1).trans_le hwithin.entryPrice.2)
    · exact hsmall (by decide +kernel) hwithin.quantity
    · exact hsmall (by decide +kernel)
        ((abs_of_pos hwithin.exitPrice.1).trans_le hwithin.exitPrice.2)
    · exact hsmall (by decide +kernel) hwithin.profitLoss
    · exact hsmall (by decide +kernel) hwithin.returnPercentage

/-- A row that holds a document the response validates is never answered by 410. -/
theorem getPreviewJob_of_valid {reading : Reading} {rows : JobId → Option PreviewJob}
    {jobId : JobId} {userId : String} {job : PreviewJob} {document : Json}
    {response : StrategyPreviewResponse}
    (hresponse : StrategyPreviewResponse.modelValidate reading document = .ok response)
    (hjob : getJob rows jobId userId = some job)
    (hdocument : job.previewResult = some document) :
    ∃ body, getPreviewJob reading rows jobId userId = .job body ∧
      (job.status = .completed → body.previewResult = some response) := by
  by_cases hstatus : job.status = .completed
  · have hread : readPreviewResult reading job = .ok (some response) := by
      simp only [readPreviewResult, hdocument, if_pos hstatus, hresponse]
      rfl
    simp only [getPreviewJob, hjob, hread]
    exact ⟨_, rfl, fun _ => rfl⟩
  · have hread : readPreviewResult reading job = .ok none := by
      simp only [readPreviewResult, hdocument, if_neg hstatus]
    simp only [getPreviewJob, hjob, hread]
    exact ⟨_, rfl, fun hcompleted => absurd hcompleted hstatus⟩

/-- The serialized preview validates as its response. -/
theorem serializePreview_validates {reading : Reading} {rendering : Rendering}
    (hreading : reading.Inverts rendering) (recognition : TextRecognition)
    (power : Decimal → Decimal → Except PyError Decimal) (table : MarketDataTable)
    {draft : StrategyParseDraft} {originalText : String} {parsed : ParsedStrategyResult}
    {preview : StrategyPreview}
    (hparsed : normalizeStrategyDraft rendering recognition draft originalText = .ok parsed)
    (hpreview : createPreview power rendering table.rows parsed = .ok preview) :
    ∃ document, serializePreview rendering parsed preview = .ok document ∧
      StrategyPreviewResponse.modelValidate reading document =
        .ok (.ofPreview parsed preview) := by
  have hvalid := normalizeStrategyDraft_spec hparsed
  have hcurves := createSpecificationPreview_curves hvalid.semantics rfl
    (table.loadMarketBars_ordered _ _)
    (fun bar hbar => (table.loadMarketBars_consistent _ _ bar hbar).positive) hpreview
  have hreview : (StrategyPreviewResponse.ofPreview parsed preview).parsedStrategy.Recoverable :=
    ⟨hvalid.specification, hvalid.defaultsApplied, hvalid.assumptions⟩
  exact ⟨_, serializePreview_eq_modelDump rendering parsed hcurves,
    StrategyPreviewResponse.modelValidate_modelDump hreading hreview⟩

/-- Every completed preview can be read back: the serialized document validates as the
    response with the same contents, the route of a job that holds it answers with that
    response, and the response dumped anew passes the frontend's guard exactly if none of its
    magnitudes overflows a double. -/
theorem serializePreview_readBack {reading : Reading} {rendering : Rendering}
    (hreading : reading.Inverts rendering) (recognition : TextRecognition)
    (power : Decimal → Decimal → Except PyError Decimal) (table : MarketDataTable)
    {draft : StrategyParseDraft} {originalText : String} {parsed : ParsedStrategyResult}
    {preview : StrategyPreview}
    (hparsed : normalizeStrategyDraft rendering recognition draft originalText = .ok parsed)
    (hpreview : createPreview power rendering table.rows parsed = .ok preview) :
    ∃ document, serializePreview rendering parsed preview = .ok document ∧
      StrategyPreviewResponse.modelValidate reading document = .ok (.ofPreview parsed preview) ∧
      (∀ rows jobId userId job, getJob rows jobId userId = some job →
        job.previewResult = some document →
        ∃ body, getPreviewJob reading rows jobId userId = .job body ∧
          (job.status = .completed → body.previewResult = some (.ofPreview parsed preview))) ∧
      (∀ number serialization, JavaScript.Reads number serialization →
        (Frontend.isStrategyPreview number
            ((StrategyPreviewResponse.ofPreview parsed preview).modelDump serialization) = true ↔
          ∀ v ∈ (StrategyPreviewResponse.ofPreview parsed preview).backtest.magnitudes,
            |v| < Double.overflow)) := by
  obtain ⟨document, hdocument, hresponse⟩ :=
    serializePreview_validates hreading recognition power table hparsed hpreview
  refine ⟨document, hdocument, hresponse, ?_, ?_⟩
  · intro rows jobId userId job hjob hdocument
    exact getPreviewJob_of_valid hresponse hjob hdocument
  · intro number serialization hreads
    exact Frontend.isStrategyPreview_modelDump hreads _

end ReadBack

-- ============================================================================
-- A worked example
-- ============================================================================

/-- The number in a text of `plainRendering`. -/
def plainNumber (text : String) : Option Decimal := some (plainFraction text.toList)

theorem plainNumber_reads : JavaScript.Reads plainNumber plainRendering where
  number := plainReading_inverts.decimal
  notBlank v := by
    have hslash : '/' ∈ (plainRendering.str v).toList := by simp [plainRendering]
    exact stripWhere_ne_empty hslash (by decide)

/-- Buy with the close above 10, sell with the close below it. -/
def thresholdDraft : StrategyParseDraft where
  symbol := none
  interval := none
  entry := some ⟨⟨.price, none, none, none, none⟩, some .greaterThan,
    ⟨.constant, none, none, none, some 10⟩⟩
  exit := some ⟨⟨.price, none, none, none, none⟩, some .lessThan,
    ⟨.constant, none, none, none, some 10⟩⟩
  direction := none
  positionSizePercent := none
  signalExecution := none

/-- Two daily bars, a year of 365.25 days apart. -/
def twoBarTable : MarketDataTable where
  rows := [dailyBar 0 10 11 9 11,
    { dailyBar 0 10 12 9 11 with timestamp := 31557600000000 }].map .ofSpyBar
  primaryKey := by decide +kernel
  prices := by decide +kernel

/-- The threshold draft has a preview.  None of its numbers overflows a double, since it has at
    most as many shares as `Decimal`'s `//` can count. -/
theorem thresholdPreview : ∃ parsed preview,
    normalizeStrategyDraft plainRendering plainText thresholdDraft
      "Buy above 10, sell below 10." = .ok parsed ∧
    createPreview wholePower plainRendering twoBarTable.rows parsed = .ok preview ∧
    ∀ v ∈ (StrategyPreviewResponse.ofPreview parsed preview).backtest.magnitudes,
      |v| < Double.overflow := by
  have hnumeric : ∀ row ∈ twoBarTable.rows, storedLimits.low ≤ row.lowPrice ∧
      row.highPrice ≤ storedLimits.high := by decide +kernel
  have hrun : ∃ result : ParsedStrategyResult × StrategyPreview,
      (do
        let parsed ← normalizeStrategyDraft plainRendering plainText thresholdDraft
          "Buy above 10, sell below 10."
        let preview ← createPreview wholePower plainRendering twoBarTable.rows parsed
        return (parsed, preview)) = Except.ok result ∧
      ∀ t ∈ result.2.execution.completedTrades, (t.quantity : Decimal) ≤ storedLimits.shares :=
    Python.exists_ok_of_any (by decide +kernel)
  obtain ⟨result, hresult, hshares⟩ := hrun
  obtain ⟨parsed, hparsed, hresult⟩ := Python.bind_eq_ok hresult
  obtain ⟨preview, hpreview, hresult⟩ := Python.bind_eq_ok hresult
  obtain rfl := Except.ok.inj hresult
  have hwithin := createSpecificationPreview_within twoBarTable
    (fun row hrow => ⟨(hnumeric row hrow).1, (hnumeric row hrow).2⟩)
    (normalizeStrategyDraft_spec hparsed).semantics hpreview hshares
  exact ⟨parsed, preview, hparsed, hpreview, magnitudes_lt_overflow hwithin⟩

/-- The preview of the threshold draft, liquidated at the second bar, is read back and
    accepted. -/
theorem serializePreview_readBack_threshold :
    ∃ parsed preview document,
      normalizeStrategyDraft plainRendering plainText thresholdDraft
        "Buy above 10, sell below 10." = .ok parsed ∧
      createPreview wholePower plainRendering twoBarTable.rows parsed = .ok preview ∧
      serializePreview plainRendering parsed preview = .ok document ∧
      StrategyPreviewResponse.modelValidate plainReading document =
        .ok (.ofPreview parsed preview) ∧
      Frontend.isStrategyPreview plainNumber
        ((StrategyPreviewResponse.ofPreview parsed preview).modelDump plainRendering) = true := by
  obtain ⟨parsed, preview, hparsed, hpreview, hmagnitudes⟩ := thresholdPreview
  obtain ⟨document, hdocument, hvalidated, -, hguard⟩ := serializePreview_readBack
    plainReading_inverts plainText wholePower twoBarTable hparsed hpreview
  exact ⟨parsed, preview, document, hparsed, hpreview, hdocument, hvalidated,
    (hguard plainNumber plainRendering plainNumber_reads).mpr hmagnitudes⟩

end Api
end TradingPlatform
