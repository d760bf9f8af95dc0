/-
  TradingPlatform.Api.ConfirmedStrategies

  When `confirmed` means validated and current.

  The confirmed-save route revalidates what it stores.  The create and patch
  routes store the client's `strategy_json` and `source_text` as they come, so
  they can mark an unvalidated document as confirmed, or leave a confirmed
  specification under a text it was not parsed from.  Without such a call,
  every confirmed row is valid and current.
-/

import TradingPlatform.Api.Strategies
import TradingPlatform.Services.PlainReading

namespace TradingPlatform
namespace Api

open Pydantic Schemas Services Backtesting

/-- An accepted confirmed save of a specification with the row's source text. -/
def SavedAs (reading : Reading) (calls : List Call) (strategy : Strategy)
    (specification : StrategySpecification) : Prop :=
  ∃ call ∈ calls, ∃ body payload, call.request = .saveConfirmedStrategy body ∧
    call.newId = strategy.id ∧ call.user = strategy.userId ∧
    ConfirmedStrategySaveRequest.modelValidate reading body = .ok payload ∧
    payload.specification = specification ∧ payload.sourceText = strategy.sourceText

/-- A row's `strategy_json` holds a valid specification with consistent confirmation
    metadata, saved together with the row's source text by one of the calls. -/
structure ValidAndCurrent (reading : Reading) (calls : List Call) (strategy : Strategy)
    (entries : StrategyJson) : Prop where
  specification : ∃ document specification,
    entries.lookup "specification" = some document ∧
    StrategySpecification.modelValidate reading document = .ok specification ∧
    validateStrategySemantics specification = .ok () ∧
    SavedAs reading calls strategy specification
  assumptions : ∃ items : List Json,
    entries.lookup "assumptions" = some (.array items) ∧
    entries.lookup "requires_confirmation" = some (.bool !items.isEmpty)

/-- If the row is confirmed, it is valid and current. -/
def ConfirmedIsCurrent (reading : Reading) (calls : List Call) (strategy : Strategy) : Prop :=
  ∀ entries ∈ strategy.strategyJson, entries.lookup "confirmed" = some (.bool true) →
    ValidAndCurrent reading calls strategy entries

section Call

variable {reading : Reading} {rendering : Rendering} {calls : List Call} {call : Call}
  {strategy : Strategy}

theorem SavedAs.mono {specification : StrategySpecification}
    (h : SavedAs reading calls strategy specification) :
    SavedAs reading (calls ++ [call]) strategy specification := by
  obtain ⟨saved, hsaved, hrest⟩ := h
  exact ⟨saved, List.mem_append_left _ hsaved, hrest⟩

theorem ConfirmedIsCurrent.mono (h : ConfirmedIsCurrent reading calls strategy) :
    ConfirmedIsCurrent reading (calls ++ [call]) strategy := by
  intro entries hentries hconfirmed
  obtain ⟨⟨document, specification, hdocument, hvalid, hsemantics, hsaved⟩, hassumptions⟩ :=
    h entries hentries hconfirmed
  exact ⟨⟨document, specification, hdocument, hvalid, hsemantics, hsaved.mono⟩, hassumptions⟩

/-- A row that differs from a current one in its name and its times only is current. -/
theorem ConfirmedIsCurrent.congr (h : ConfirmedIsCurrent reading calls strategy)
    {strategy' : Strategy} (hid : strategy'.id = strategy.id)
    (huser : strategy'.userId = strategy.userId)
    (hjson : strategy'.strategyJson = strategy.strategyJson)
    (htext : strategy'.sourceText = strategy.sourceText) :
    ConfirmedIsCurrent reading calls strategy' := by
  intro entries hentries hconfirmed
  obtain ⟨⟨document, specification, hdocument, hvalid, hsemantics, saved, hsaved, body, payload,
    hrequest, hnewId, howner, hrest⟩, hassumptions⟩ :=
    h entries (hjson ▸ hentries) hconfirmed
  refine ⟨⟨document, specification, hdocument, hvalid, hsemantics, saved, hsaved, body, payload,
    hrequest, hnewId.trans hid.symm, howner.trans huser.symm, ?_⟩, hassumptions⟩
  rw [htext]
  exact hrest

end Call

-- ============================================================================
-- A confirmed save
-- ============================================================================

end Api
end TradingPlatform
