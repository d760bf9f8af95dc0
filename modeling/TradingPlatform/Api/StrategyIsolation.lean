/-
  TradingPlatform.Api.StrategyIsolation

  Users cannot observe or affect each other's strategies.

  Every route reads and writes the table through the caller's own rows, so the
  rows of one user evolve, and that user's requests are answered, as if nobody
  else had sent any.  `SameOwned` relates the table of the full run to the table
  of the run with one user's requests only.
-/

import TradingPlatform.Api.Strategies
import TradingPlatform.Services.PlainReading

namespace TradingPlatform
namespace Api

open Pydantic Schemas Services

/-- The rows of a user, in table order. -/
def ownedBy (user : UserId) (table : StrategyTable) : List Strategy :=
  table.rows.filter fun strategy => strategy.userId = user

/-- The new ids of the calls are pairwise different and not in the table. -/
structure FreshIds (calls : List Call) (table : StrategyTable) : Prop where
  nodup : (calls.map (·.newId)).Nodup
  unused : ∀ call ∈ calls, table.get? call.newId = none

/-- A row is looked up among the caller's own. -/
theorem getOwnedStrategy_eq_find (table : StrategyTable) (strategyId : StrategyId)
    (user : UserId) :
    getOwnedStrategy table strategyId user =
      (ownedBy user table).find? fun strategy => strategy.id = strategyId := by
  rw [ownedBy, List.find?_filter, getOwnedStrategy]
  congr 1
  funext strategy
  simp [and_comm]

section Views

variable {reading : Reading} {rendering : Rendering} {call : Call} {table : StrategyTable}

-- ============================================================================
-- One call
-- ============================================================================

/-- A row with the id of an owned row is that row. -/
theorem userId_eq_of_owned {strategyId : StrategyId} {strategy : Strategy}
    (howned : getOwnedStrategy table strategyId call.user = some strategy) {row : Strategy}
    (hrow : row ∈ table.rows) (hid : row.id = strategyId) : row.userId = call.user := by
  obtain ⟨hmem, hkey, huser⟩ := getOwnedStrategy_eq_some howned
  rw [table.eq_of_key_eq hrow hmem (hid.trans hkey.symm), huser]

/-- A call leaves the rows of every other user as they were. -/
theorem ownedBy_handle_of_ne {user : UserId} (hne : call.user ≠ user) :
    ownedBy user (handle reading rendering call table).2 = ownedBy user table := by
  have hwrite := handle_write reading rendering call table
  unfold ownedBy
  generalize (handle reading rendering call table).2.rows = rows at hwrite
  cases hwrite with
  | unchanged => rfl
  | created => simp [Call.newStrategy, hne]
  | saved => simp [Call.newStrategy, hne]
  | @updated strategyId body payload strategy hrequest hpayload howned =>
      rw [List.filter_map]
      have hkept : ∀ row ∈ table.rows.filter fun row => row.userId = user,
          (if row.id = strategyId then flushUpdates payload call.now row else row) = row := by
        intro row hrow
        obtain ⟨hmem, huser⟩ := List.mem_filter.mp hrow
        refine if_neg fun hid => hne ?_
        rw [← userId_eq_of_owned howned hmem hid, of_decide_eq_true huser]
      have hsame : table.rows.filter ((fun row => decide (row.userId = user)) ∘ fun row =>
          if row.id = strategyId then flushUpdates payload call.now row else row) =
          table.rows.filter fun row => row.userId = user := by
        refine List.filter_congr fun row _ => ?_
        rw [Function.comp_apply]
        split
        · rw [flushUpdates_userId]
        · rfl
      rw [hsame, List.map_congr_left hkept, List.map_id']
  | @deleted strategyId strategy hrequest howned =>
      rw [List.filter_filter]
      refine List.filter_congr fun row hmem => ?_
      by_cases huser : row.userId = user
      · have hid : row.id ≠ strategyId := fun hid =>
          hne ((userId_eq_of_owned howned hmem hid).symm.trans huser)
        simp [huser, hid]
      · simp [huser]

/-- The new row comes last among the caller's. -/
theorem commitNew_owned (table : StrategyTable) (strategy : Strategy)
    (hfresh : table.get? strategy.id = none) :
    (commitNew table strategy).1 = .strategy 201 strategy.toResponse ∧
      ownedBy strategy.userId (commitNew table strategy).2 =
        ownedBy strategy.userId table ++ [strategy] := by
  rw [commitNew, dif_pos hfresh]
  exact ⟨rfl, by simp [ownedBy]⟩

/-- Updating one of the caller's rows, seen from the caller. -/
theorem ownedBy_modify (table : StrategyTable) (user : UserId) (strategyId : StrategyId)
    (payload : StrategyUpdate) (now : Timestamp) :
    ownedBy user (table.modify strategyId (flushUpdates payload now)
        (flushUpdates_id payload now)) =
      (ownedBy user table).map fun row =>
        if row.id = strategyId then flushUpdates payload now row else row := by
  rw [ownedBy, Table.modify_rows, List.filter_map, ownedBy]
  congr 1
  refine List.filter_congr fun row _ => ?_
  rw [Function.comp_apply]
  split
  · rw [flushUpdates_userId]
  · rfl

theorem ownedBy_erase (table : StrategyTable) (user : UserId) (strategyId : StrategyId) :
    ownedBy user (table.erase strategyId) =
      (ownedBy user table).filter fun row => row.id ≠ strategyId := by
  rw [ownedBy, Table.erase_rows, ownedBy, List.filter_comm]

variable (reading rendering call) in
/-- In tables with the same rows of the caller, and with a fresh id, a call gets the same
    response and leaves the same rows of the caller. -/
theorem handle_own {table' : StrategyTable}
    (hsame : ownedBy call.user table = ownedBy call.user table')
    (hfresh : table.get? call.newId = none) (hfresh' : table'.get? call.newId = none) :
    (handle reading rendering call table).1 = (handle reading rendering call table').1 ∧
      ownedBy call.user (handle reading rendering call table).2 =
        ownedBy call.user (handle reading rendering call table').2 := by
  have hlookup : ∀ strategyId, getOwnedStrategy table strategyId call.user =
      getOwnedStrategy table' strategyId call.user := by
    intro strategyId
    rw [getOwnedStrategy_eq_find, getOwnedStrategy_eq_find, hsame]
  have hcommit : ∀ name sourceText strategyJson,
      (commitNew table (call.newStrategy name sourceText strategyJson)).1 =
        (commitNew table' (call.newStrategy name sourceText strategyJson)).1 ∧
      ownedBy call.user (commitNew table (call.newStrategy name sourceText strategyJson)).2 =
        ownedBy call.user
          (commitNew table' (call.newStrategy name sourceText strategyJson)).2 := by
    intro name sourceText strategyJson
    obtain ⟨hresponse, hrows⟩ := commitNew_owned table
      (call.newStrategy name sourceText strategyJson) hfresh
    obtain ⟨hresponse', hrows'⟩ := commitNew_owned table'
      (call.newStrategy name sourceText strategyJson) hfresh'
    refine ⟨hresponse.trans hresponse'.symm, hrows.trans (Eq.trans ?_ hrows'.symm)⟩
    exact congrArg (· ++ _) hsame
  unfold handle
  split
  · unfold saveConfirmedStrategy
    split
    · exact ⟨rfl, hsame⟩
    · split
      · exact ⟨rfl, hsame⟩
      · exact hcommit _ _ _
  · unfold createStrategy
    split
    · exact ⟨rfl, hsame⟩
    · exact hcommit _ _ _
  · refine ⟨?_, hsame⟩
    simp only [listStrategies]
    exact congrArg (fun rows => Response.strategies ((rows.insertionSort newestFirst).map
      (·.toResponse))) hsame
  · unfold getStrategy
    rw [hlookup]
    split <;> exact ⟨rfl, hsame⟩
  · unfold updateStrategy
    split
    · exact ⟨rfl, hsame⟩
    · rw [hlookup]
      split
      · exact ⟨rfl, hsame⟩
      · refine ⟨rfl, ?_⟩
        rw [ownedBy_modify, ownedBy_modify, hsame]
  · unfold deleteStrategy
    rw [hlookup]
    split
    · exact ⟨rfl, hsame⟩
    · refine ⟨rfl, ?_⟩
      rw [ownedBy_erase, ownedBy_erase, hsame]

end Views

-- ============================================================================
-- Ids
-- ============================================================================

/-- The id that a request names in its path. -/
def Request.strategyId? : Request → Option StrategyId
  | .getStrategy strategyId | .updateStrategy strategyId _ | .deleteStrategy strategyId =>
      some strategyId
  | .saveConfirmedStrategy _ | .createStrategy _ | .listStrategies => none

section Ids

variable {reading : Reading} {rendering : Rendering} {call : Call} {table : StrategyTable}

/-- After a call, a row is one that was there, with its id and owner, or the new one. -/
theorem row_of_handle {row : Strategy}
    (hrow : row ∈ (handle reading rendering call table).2.rows) :
    (∃ before ∈ table.rows, before.id = row.id ∧ before.userId = row.userId) ∨
      row.id = call.newId := by
  have hwrite := handle_write reading rendering call table
  generalize (handle reading rendering call table).2.rows = rows at hwrite hrow
  cases hwrite with
  | unchanged => exact Or.inl ⟨row, hrow, rfl, rfl⟩
  | created =>
      rcases List.mem_append.mp hrow with hold | hnew
      · exact Or.inl ⟨row, hold, rfl, rfl⟩
      · obtain rfl := List.mem_singleton.mp hnew
        exact Or.inr rfl
  | saved =>
      rcases List.mem_append.mp hrow with hold | hnew
      · exact Or.inl ⟨row, hold, rfl, rfl⟩
      · obtain rfl := List.mem_singleton.mp hnew
        exact Or.inr rfl
  | updated =>
      obtain ⟨before, hbefore, rfl⟩ := List.mem_map.mp hrow
      refine Or.inl ⟨before, hbefore, ?_⟩
      split
      · exact ⟨(flushUpdates_id ..).symm, (flushUpdates_userId ..).symm⟩
      · exact ⟨rfl, rfl⟩
  | deleted => exact Or.inl ⟨row, List.mem_of_mem_filter hrow, rfl, rfl⟩

/-- The ids still to come stay fresh. -/
theorem FreshIds.tail {rest : List Call} (h : FreshIds (call :: rest) table) :
    FreshIds rest (handle reading rendering call table).2 := by
  obtain ⟨hhead, hnodup⟩ := List.nodup_cons.mp h.nodup
  refine ⟨hnodup, fun next hnext => Table.get?_eq_none.mpr fun row hrow hid => ?_⟩
  rcases row_of_handle hrow with ⟨before, hbefore, hsame, -⟩ | hnew
  · have hunused := Table.get?_eq_none.mp (h.unused next (List.mem_cons_of_mem _ hnext))
    exact hunused before hbefore (hsame.trans hid)
  · exact hhead (List.mem_map.mpr ⟨next, hnext, hid.symm.trans hnew⟩)

theorem FreshIds.filter {calls : List Call} (h : FreshIds calls table) (p : Call → Bool) :
    FreshIds (calls.filter p) table where
  nodup := h.nodup.sublist (List.filter_sublist.map _)
  unused := fun call hcall => h.unused call (List.mem_of_mem_filter hcall)

/-- A request that names an id which is not the caller's is answered as for an id that
    does not exist, and changes nothing. -/
theorem handle_foreign {strategyId : StrategyId}
    (hnamed : call.request.strategyId? = some strategyId)
    (hforeign : ∀ row ∈ table.rows, row.id = strategyId → row.userId ≠ call.user)
    {table' : StrategyTable} (hmissing : table'.get? strategyId = none) :
    (handle reading rendering call table).1 = (handle reading rendering call table').1 ∧
      (handle reading rendering call table).2 = table := by
  have hnone : getOwnedStrategy table strategyId call.user = none := by
    refine List.find?_eq_none.mpr fun row hrow hfound => ?_
    obtain ⟨hid, huser⟩ := of_decide_eq_true hfound
    exact hforeign row hrow hid huser
  have hnone' : getOwnedStrategy table' strategyId call.user = none := by
    refine List.find?_eq_none.mpr fun row hrow hfound => ?_
    exact Table.get?_eq_none.mp hmissing row hrow (of_decide_eq_true hfound).1
  unfold handle
  split
  · rename_i hrequest
    simp [hrequest, Request.strategyId?] at hnamed
  · rename_i hrequest
    simp [hrequest, Request.strategyId?] at hnamed
  · rename_i hrequest
    simp [hrequest, Request.strategyId?] at hnamed
  · rename_i hrequest
    obtain rfl : _ = strategyId := by simpa [hrequest, Request.strategyId?] using hnamed
    simp [getStrategy, hnone, hnone']
  · rename_i hrequest
    obtain rfl : _ = strategyId := by simpa [hrequest, Request.strategyId?] using hnamed
    unfold updateStrategy
    split
    · exact ⟨rfl, rfl⟩
    · simp [hnone, hnone']
  · rename_i hrequest
    obtain rfl : _ = strategyId := by simpa [hrequest, Request.strategyId?] using hnamed
    simp [deleteStrategy, hnone, hnone']

end Ids

-- ============================================================================
-- Runs
-- ============================================================================

/-- The tables of a run and of the run with one user's calls only. -/
structure SameOwned (user : UserId) (calls : List Call) (table table' : StrategyTable) :
    Prop where
  same : ownedBy user table = ownedBy user table'
  fresh : FreshIds calls table
  fresh' : FreshIds (calls.filter fun call => call.user = user) table'

/-- In a run of calls with fresh ids, the responses to one user and the rows of that user
    are those of the run without the calls of all others; no row changes its owner; and
    an id of another user's row is answered like one that does not exist. -/
theorem strategies_isolated (reading : Reading) (rendering : Rendering) (calls : List Call)
    (table : StrategyTable) (user : UserId) (hfresh : FreshIds calls table) :
    Service.answersTo Call.user user (Service.run (handle reading rendering) calls table).1 =
        (Service.run (handle reading rendering)
          (calls.filter fun call => call.user = user) table).1 ∧
      ownedBy user (Service.run (handle reading rendering) calls table).2 =
        ownedBy user (Service.run (handle reading rendering)
          (calls.filter fun call => call.user = user) table).2 ∧
      (∀ row ∈ table.rows, ∀ later ∈ (Service.run (handle reading rendering) calls table).2.rows,
        later.id = row.id → later.userId = row.userId) ∧
      (∀ (call : Call) (strategyId : StrategyId) (state missing : StrategyTable),
        call.request.strategyId? = some strategyId →
        (∀ row ∈ state.rows, row.id = strategyId → row.userId ≠ call.user) →
        missing.get? strategyId = none →
        (handle reading rendering call state).1 = (handle reading rendering call missing).1 ∧
          (handle reading rendering call state).2 = state) := by
  obtain ⟨hanswers, hfinal⟩ := Service.run_purge (handle reading rendering) Call.user user
    (SameOwned user)
    (fun call rest state state' howner hsame => by
      have hkept : (call :: rest).filter (fun call => call.user = user) =
          call :: rest.filter fun call => call.user = user := by simp [howner]
      have hfresh' := hkept ▸ hsame.fresh'
      obtain ⟨hresponse, hrows⟩ := handle_own reading rendering call
        (howner ▸ hsame.same) (hsame.fresh.unused call (List.mem_cons_self ..))
        (hfresh'.unused call (List.mem_cons_self ..))
      exact ⟨hresponse, howner ▸ hrows, hsame.fresh.tail, hfresh'.tail⟩)
    (fun call rest state state' howner hsame => by
      have hpurged : (call :: rest).filter (fun call => call.user = user) =
          rest.filter fun call => call.user = user := by simp [howner]
      exact ⟨(ownedBy_handle_of_ne howner).trans hsame.same, hsame.fresh.tail,
        hpurged ▸ hsame.fresh'⟩)
    calls table table ⟨rfl, hfresh, hfresh.filter _⟩
  refine ⟨hanswers, hfinal.same, ?_, ?_⟩
  · have hkept := Service.run_invariant (handle reading rendering)
      (C := fun call _ => table.get? call.newId = none)
      (P := fun _ state => ∀ row ∈ table.rows, ∀ later ∈ state.rows,
        later.id = row.id → later.userId = row.userId)
      (fun past call state hunused ih row hrow later hlater hid => by
        rcases row_of_handle hlater with ⟨before, hbefore, hsame, howner⟩ | hnew
        · rw [← howner]
          exact ih row hrow before hbefore (hsame.trans hid)
        · exact absurd (hid.symm.trans hnew) (Table.get?_eq_none.mp hunused row hrow))
      calls [] table
      (Service.along_of_forall _ _ _ fun call hcall _ => hfresh.unused call hcall)
      (fun row hrow later hlater hid => by rw [table.eq_of_key_eq hlater hrow hid])
    exact hkept
  · exact fun call strategyId state missing hnamed hforeign hmissing =>
      handle_foreign hnamed hforeign hmissing

/-- Alice creates a strategy; Bob renames it, deletes it and creates one of his own; Alice
    lists hers. -/
def twoUserCalls : List Call :=
  [⟨"alice", 1, 10, .createStrategy (.object [("name", .str "Crossover"),
      ("source_text", .str "Buy SPY.")])⟩,
    ⟨"bob", 2, 20, .updateStrategy 1 (.object [("name", .str "Mine")])⟩,
    ⟨"bob", 3, 30, .deleteStrategy 1⟩,
    ⟨"bob", 4, 40, .createStrategy (.object [("name", .str "Other"),
      ("source_text", .str "Sell SPY.")])⟩,
    ⟨"alice", 5, 50, .listStrategies⟩]

theorem strategies_isolated_two_users :
    Service.answersTo Call.user "alice"
        (Service.run (handle plainReading plainRendering) twoUserCalls emptyTable).1 =
      (Service.run (handle plainReading plainRendering)
        (twoUserCalls.filter fun call => call.user = "alice") emptyTable).1 ∧
    ownedBy "alice" (Service.run (handle plainReading plainRendering) twoUserCalls
        emptyTable).2 =
      ownedBy "alice" (Service.run (handle plainReading plainRendering)
        (twoUserCalls.filter fun call => call.user = "alice") emptyTable).2 :=
  have h := strategies_isolated plainReading plainRendering twoUserCalls emptyTable "alice"
    ⟨by decide, fun _ _ => rfl⟩
  ⟨h.1, h.2.1⟩

end Api
end TradingPlatform
