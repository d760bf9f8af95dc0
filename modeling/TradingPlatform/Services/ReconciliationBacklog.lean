/-
  TradingPlatform.Services.ReconciliationBacklog

  Repeated passes of `reconcile_preview_jobs` over a table with more nonterminal
  rows than a batch holds.

  A pass sees the first `batch_size` nonterminal rows in the order of their
  creation.  Those that it fails make room for the next ones; those that it
  leaves alone or recovers stay in front of them.  So the backlog is a queue that
  is served in batches (`Lib.Batch`).  A row is reached when fewer than
  `batch_size` older rows survive (`reconcilePasses_reaches`), and as long as
  `batch_size` older rows survive it waits (`reconcilePasses_starves`).
-/

import TradingPlatform.Lib.Batch
import TradingPlatform.Services.PreviewReconciliation

namespace TradingPlatform
namespace Services

open Jobs Queue

-- ============================================================================
-- The backlog
-- ============================================================================

/-- A time and a key, in lexicographic order. -/
def Precedes (time : Int) (key : Nat) (time' : Int) (key' : Nat) : Prop :=
  time < time' ∨ (time = time' ∧ key ≤ key')

instance (time : Int) (key : Nat) (time' : Int) (key' : Nat) :
    Decidable (Precedes time key time' key') :=
  inferInstanceAs (Decidable (time < time' ∨ (time = time' ∧ key ≤ key')))

/-- `order_by(created_at.asc(), id.asc())` -/
def ordered (a b : PreviewJob) : Bool := decide (Precedes a.createdAt a.id b.createdAt b.id)

/-- The nonterminal rows, in the order in which they are looked at. -/
def backlog (table : JobTable) : List PreviewJob := (nonterminalRows table).mergeSort ordered

/-- A row that a pass does not fail. -/
def survives (config : PassConfig) (active : Bool) (row : PreviewJob) : Bool :=
  leftAlone config active row || recovers config active row

/-- A job of the table that a pass would not fail. -/
def stays (config : PassConfig) (table : JobTable) (rq : RqStore) (jobId : JobId) : Bool :=
  (table.get? jobId).all fun row => survives config (rq.represents jobId) row

/-- The ids that a pass looks at. -/
def batchIds (config : PassConfig) (table : JobTable) : List JobId :=
  ((backlog table).take config.settings.reconciliationBatchSize).map PreviewJob.id

section Order

variable {time time' time'' : Int} {key key' key'' : Nat}

theorem Precedes.trans (h : Precedes time key time' key') (h' : Precedes time' key' time'' key'') :
    Precedes time key time'' key'' := by
  unfold Precedes at *
  omega

theorem Precedes.total : Precedes time key time' key' ∨ Precedes time' key' time key := by
  unfold Precedes
  omega

theorem Precedes.antisymm (h : Precedes time key time' key') (h' : Precedes time' key' time key) :
    key = key' := by
  unfold Precedes at *
  omega

theorem ordered_trans (a b c : PreviewJob) (hab : ordered a b = true) (hbc : ordered b c = true) :
    ordered a c = true := by
  unfold ordered at *
  rw [decide_eq_true_iff] at *
  exact hab.trans hbc

theorem ordered_total (a b : PreviewJob) : (ordered a b || ordered b a) = true := by
  unfold ordered
  rw [Bool.or_eq_true, decide_eq_true_iff, decide_eq_true_iff]
  exact Precedes.total

theorem ordered_antisymm {a b : PreviewJob} (hab : ordered a b = true)
    (hba : ordered b a = true) : a.id = b.id := by
  unfold ordered at *
  rw [decide_eq_true_iff] at *
  exact hab.antisymm hba

end Order

section Backlog

variable {table : JobTable} {row : PreviewJob}

theorem listReconciliationCandidates_eq (limit : Nat) :
    listReconciliationCandidates table limit = (backlog table).take limit := rfl

theorem backlog_perm (table : JobTable) : (backlog table).Perm (nonterminalRows table) :=
  List.mergeSort_perm ..

theorem mem_backlog : row ∈ backlog table ↔ row ∈ table.rows ∧ row.status.Nonterminal := by
  rw [(backlog_perm table).mem_iff, nonterminalRows, List.mem_filter, decide_eq_true_iff]

theorem backlog_pairwise (table : JobTable) :
    (backlog table).Pairwise fun a b => ordered a b = true :=
  List.pairwise_mergeSort ordered_trans ordered_total _

theorem backlog_nodup (table : JobTable) : ((backlog table).map PreviewJob.id).Nodup :=
  ((backlog_perm table).map PreviewJob.id).nodup_iff.mpr
    (table.nodup.sublist (List.filter_sublist.map _))

theorem get?_of_mem_backlog (h : row ∈ backlog table) : table.get? row.id = some row :=
  Table.get?_eq_some.mpr ⟨(mem_backlog.mp h).1, rfl⟩

theorem mem_batchIds_iff {config : PassConfig} {jobId : JobId} :
    jobId ∈ batchIds config table ↔
      ∃ row ∈ (backlog table).take config.settings.reconciliationBatchSize, row.id = jobId :=
  List.mem_map

theorem mem_batchIds_of_take {config : PassConfig} {looked : PreviewJob}
    (hlooked : looked ∈ (backlog table).take config.settings.reconciliationBatchSize) :
    looked.id ∈ batchIds config table := List.mem_map_of_mem hlooked

/-- A row of the table that is looked at. -/
theorem mem_take_of_mem_batchIds {config : PassConfig} (hrow : row ∈ table.rows)
    (h : row.id ∈ batchIds config table) :
    row ∈ (backlog table).take config.settings.reconciliationBatchSize := by
  obtain ⟨looked, hlooked, hid⟩ := mem_batchIds_iff.mp h
  have hmem : looked ∈ table.rows := (mem_backlog.mp (List.mem_of_mem_take hlooked)).1
  rwa [table.eq_of_key_eq hrow hmem hid.symm]

end Backlog

-- ============================================================================
-- One pass
-- ============================================================================

/-- What a pass leaves: the rows of its batch as the reference has them, and a message for each
    recovered one. -/
structure Passed (config : PassConfig) (table : JobTable) (rq : RqStore) (pass : Pass) :
    Prop where
  rows : pass.table.rows = table.rows.map fun row =>
    if row.id ∈ batchIds config table then reconcileRow config (rq.represents row.id) row else row
  rq : pass.rq = (recovered config rq ((backlog table).take
    config.settings.reconciliationBatchSize)).foldl (enqueueRecovery config) rq

/-- A nonterminal row without a message in RQ. -/
def unrepresented (rq : RqStore) (row : PreviewJob) : Bool :=
  decide row.status.Nonterminal && !rq.represents row.id

/-- The registries have room for a message of every such row. -/
def ScanFits (config : PassConfig) (table : JobTable) (rq : RqStore) : Prop :=
  rq.ids.length + table.rows.countP (unrepresented rq) ≤ config.registryScanLimit

theorem unrepresented_iff {rq : RqStore} {row : PreviewJob} :
    unrepresented rq row = true ↔ row.status.Nonterminal ∧ rq.represents row.id = false := by
  rw [unrepresented, Bool.and_eq_true, decide_eq_true_iff, Bool.not_eq_true']

theorem unrepresented_of_recovers {config : PassConfig} {rq : RqStore} {row : PreviewJob}
    (h : recovers config (rq.represents row.id) row = true) : unrepresented rq row = true := by
  have hleft := (recovers_iff.mp h).1
  refine unrepresented_iff.mpr ⟨nonterminal_of_not_leftAlone hleft, ?_⟩
  rw [← Bool.not_eq_true]
  intro hactive
  rw [leftAlone_iff.mpr (.inr (.inl hactive))] at hleft
  cases hleft

/-- The rows that a pass recovers, counted in the table. -/
theorem length_recovered_batch_le (config : PassConfig) (table : JobTable) (rq : RqStore) :
    (recovered config rq ((backlog table).take config.settings.reconciliationBatchSize)).length ≤
      table.rows.countP fun row => unrepresented rq row &&
        (decide (row.id ∈ batchIds config table) &&
          recovers config (rq.represents row.id) row) := by
  have hsubperm : ((backlog table).take config.settings.reconciliationBatchSize).Subperm
      table.rows :=
    (List.take_sublist _ _).subperm.trans
      ((backlog_perm table).subperm.trans List.filter_sublist.subperm)
  rw [recovered, ← List.countP_eq_length_filter]
  refine (List.countP_mono_left fun row hrow hrecovers => ?_).trans (hsubperm.countP_le _)
  rw [hrecovers, unrepresented_of_recovers hrecovers,
    decide_eq_true (mem_batchIds_of_take hrow)]
  rfl

/-- A pass over a table of any size. -/
theorem reconcilePreviewJobs_passed {config : PassConfig} {table : JobTable} {rq : RqStore}
    (hlocks : ∀ j, config.acquireLock j = true) (hscan : ScanFits config table rq) :
    ∃ pass, reconcilePreviewJobs config table rq = .ok pass ∧ Passed config table rq pass := by
  have hlength : (recovered config rq ((backlog table).take
      config.settings.reconciliationBatchSize)).length ≤ table.rows.countP (unrepresented rq) :=
    (length_recovered_batch_le config table rq).trans
      (List.countP_mono_left fun row _ h => (Bool.and_eq_true_iff.mp h).1)
  unfold ScanFits at hscan
  obtain ⟨pass, hrun, htable, hrq, -⟩ := reconcileCandidates_spec hlocks
    ((backlog table).take config.settings.reconciliationBatchSize)
    (⟨table, rq, rq.activeIds, { scanned := ((backlog table).take
      config.settings.reconciliationBatchSize).length }⟩ : Pass)
    (fun job hjob => ⟨get?_of_mem_backlog (List.mem_of_mem_take hjob),
      (mem_backlog.mp (List.mem_of_mem_take hjob)).2⟩)
    ((backlog_nodup table).sublist ((List.take_sublist _ _).map _)) (fun _ => Iff.rfl)
    (Nat.le_trans (Nat.add_le_add_left hlength _) hscan)
  refine ⟨pass, ?_, htable, hrq⟩
  rw [reconcilePreviewJobs, RqStore.activePreviewJobIds_eq (by omega), Python.ok_bind,
    listReconciliationCandidates_eq]
  exact hrun

section Pass

variable {config : PassConfig} {table : JobTable} {rq : RqStore} {pass : Pass} {row : PreviewJob}

theorem Passed.represents_iff (h : Passed config table rq pass) {jobId : JobId} :
    pass.rq.represents jobId = true ↔ rq.represents jobId = true ∨
      ∃ row ∈ (backlog table).take config.settings.reconciliationBatchSize,
        recovers config (rq.represents row.id) row = true ∧ row.id = jobId := by
  unfold RqStore.represents
  rw [decide_eq_true_iff, decide_eq_true_iff, h.rq, mem_activeIds_foldl_enqueue, List.mem_map]
  simp only [recovered, List.mem_filter, and_assoc, RqStore.represents]

/-- A job that is not looked at is represented as before. -/
theorem Passed.represents_outside (h : Passed config table rq pass) {jobId : JobId}
    (hout : jobId ∉ batchIds config table) :
    pass.rq.represents jobId = rq.represents jobId := by
  rw [Bool.eq_iff_iff, h.represents_iff]
  refine or_iff_left fun hnew => ?_
  obtain ⟨looked, hlooked, -, hid⟩ := hnew
  exact hout (mem_batchIds_iff.mpr ⟨looked, hlooked, hid⟩)

theorem Passed.represents_mono (h : Passed config table rq pass) {jobId : JobId}
    (hactive : rq.represents jobId = true) : pass.rq.represents jobId = true :=
  h.represents_iff.mpr (.inl hactive)

theorem Passed.get?_outside (h : Passed config table rq pass) (hrow : row ∈ table.rows)
    (hout : row.id ∉ batchIds config table) : pass.table.get? row.id = some row := by
  refine Table.get?_eq_some.mpr ⟨?_, rfl⟩
  rw [h.rows]
  exact List.mem_map.mpr ⟨row, hrow, if_neg hout⟩

theorem Passed.get?_inside (h : Passed config table rq pass) (hrow : row ∈ table.rows)
    (hin : row.id ∈ batchIds config table) :
    pass.table.get? row.id = some (reconcileRow config (rq.represents row.id) row) := by
  refine Table.get?_eq_some.mpr ⟨?_, reconcileRow_id⟩
  rw [h.rows]
  exact List.mem_map.mpr ⟨row, hrow, if_pos hin⟩

end Pass

-- ============================================================================
-- The backlog after a pass
-- ============================================================================

/-- A row of the table after the pass. -/
def passedRow (config : PassConfig) (table : JobTable) (rq : RqStore) (row : PreviewJob) :
    PreviewJob :=
  if row.id ∈ batchIds config table then reconcileRow config (rq.represents row.id) row else row

theorem transition_createdAt (willRetry : Bool) (finalError : String) (now : Timestamp)
    (row : PreviewJob) :
    (transitionJobAfterOperationalFailure willRetry finalError now row).createdAt =
      row.createdAt := by
  unfold transitionJobAfterOperationalFailure
  split
  · split <;> rfl
  · rfl

section Settled

variable {config : PassConfig} {active : Bool} {row : PreviewJob}

theorem reconcileRow_createdAt : (reconcileRow config active row).createdAt = row.createdAt := by
  unfold reconcileRow
  split
  · rfl
  · split
    · exact transition_createdAt ..
    · split
      · exact transition_createdAt ..
      · rfl

/-- What survives: a terminal row, one with a message in RQ, and one with attempts and life
    left. -/
theorem survives_iff : survives config active row = true ↔
    ¬ row.status.Nonterminal ∨ active = true ∨
      (exhausted config.settings row = false ∧ expired config.now row = false) := by
  rw [survives, Bool.or_eq_true, recovers_iff]
  by_cases hleft : leftAlone config active row = true
  · refine iff_of_true (.inl hleft) ?_
    rcases leftAlone_iff.mp hleft with h | h | h
    · exact .inl h
    · exact .inr (.inl h)
    · rw [awaitsActiveState, decide_eq_true_iff] at h
      exact .inr (.inr h.2.2)
  · have hother := hleft
    rw [leftAlone_iff, not_or, not_or] at hother
    rw [Bool.not_eq_true] at hleft
    rw [hleft, or_iff_right (Bool.false_ne_true), or_iff_right hother.1, or_iff_right hother.2.1]
    exact and_iff_right rfl

theorem survives_of_leftAlone (h : leftAlone config active row = true) :
    survives config active row = true := by
  rw [survives, h, Bool.true_or]

/-- A row that survives stays nonterminal, and no other does. -/
theorem nonterminal_reconcileRow (hrow : row.status.Nonterminal) :
    (reconcileRow config active row).status.Nonterminal ↔ survives config active row = true := by
  by_cases hleft : leftAlone config active row = true
  · rw [reconcileRow_leftAlone hleft]
    exact iff_of_true hrow (survives_of_leftAlone hleft)
  · rw [Bool.not_eq_true] at hleft
    by_cases hover : exhausted config.settings row = true ∨ expired config.now row = true
    · rw [reconcileRow_failed hleft hover, survives, hleft, Bool.false_or, recovers_iff]
      refine iff_of_false (transition_terminal _ _ _) fun hrecovers => ?_
      rcases hover with h | h
      · rw [hrecovers.2.1] at h
        cases h
      · rw [hrecovers.2.2] at h
        cases h
    · rw [not_or, Bool.not_eq_true, Bool.not_eq_true] at hover
      have hrecovers : recovers config active row = true := recovers_iff.mpr ⟨hleft, hover⟩
      rw [survives, hrecovers, Bool.or_true]
      exact iff_of_true (.inl (reconcileRow_recovers hrecovers).1) rfl

end Settled

section Served

variable {config : PassConfig} {table : JobTable} {rq : RqStore} {pass : Pass} {row : PreviewJob}

theorem passedRow_id : (passedRow config table rq row).id = row.id := by
  unfold passedRow
  split
  · exact reconcileRow_id
  · rfl

theorem passedRow_createdAt : (passedRow config table rq row).createdAt = row.createdAt := by
  unfold passedRow
  split
  · exact reconcileRow_createdAt
  · rfl

theorem ordered_passedRow {a b : PreviewJob} :
    ordered (passedRow config table rq a) (passedRow config table rq b) = ordered a b := by
  unfold ordered
  rw [passedRow_id, passedRow_id, passedRow_createdAt, passedRow_createdAt]

/-- A terminal row is not revived. -/
theorem nonterminal_of_passedRow (h : (passedRow config table rq row).status.Nonterminal) :
    row.status.Nonterminal := by
  unfold passedRow at h
  split at h
  · by_contra hterminal
    rw [reconcileRow_leftAlone (leftAlone_iff.mpr (.inl hterminal))] at h
    exact hterminal h
  · exact h

/-- The order of the rows outlives the pass: the new backlog is the old one without the rows that
    were failed. -/
theorem Passed.backlog_eq (h : Passed config table rq pass) :
    backlog pass.table =
      ((backlog table).filter fun row =>
        decide (passedRow config table rq row).status.Nonterminal).map
          (passedRow config table rq) := by
  have hrows : pass.table.rows = table.rows.map (passedRow config table rq) := h.rows
  have hmem : ∀ b, b ∈ ((backlog table).filter fun row =>
      decide (passedRow config table rq row).status.Nonterminal).map
        (passedRow config table rq) → b ∈ pass.table.rows := by
    intro b hb
    obtain ⟨row, hrow, rfl⟩ := List.mem_map.mp hb
    rw [hrows]
    exact List.mem_map_of_mem (mem_backlog.mp (List.mem_of_mem_filter hrow)).1
  have hperm : (backlog pass.table).Perm (((backlog table).filter fun row =>
      decide (passedRow config table rq row).status.Nonterminal).map
        (passedRow config table rq)) := by
    refine (backlog_perm pass.table).trans ?_
    rw [nonterminalRows, hrows, List.filter_map]
    refine List.Perm.map _ (List.Perm.trans ?_ ((backlog_perm table).filter _).symm)
    rw [nonterminalRows, List.filter_filter]
    refine List.Perm.of_eq (List.filter_congr fun row _ => ?_)
    rw [Function.comp_apply, Bool.eq_iff_iff, Bool.and_eq_true, decide_eq_true_iff,
      decide_eq_true_iff]
    exact ⟨fun hkept => ⟨hkept, nonterminal_of_passedRow hkept⟩, And.left⟩
  refine List.Perm.eq_of_pairwise (fun a b ha hb hab hba => ?_) (backlog_pairwise _) ?_ hperm
  · exact pass.table.eq_of_key_eq (mem_backlog.mp ha).1 (hmem b hb) (ordered_antisymm hab hba)
  · rw [List.pairwise_map]
    refine ((backlog_pairwise table).filter _).imp fun hab => ?_
    rwa [ordered_passedRow]

theorem not_mem_batchIds_of_drop {waiting : PreviewJob}
    (hwaiting : waiting ∈ (backlog table).drop config.settings.reconciliationBatchSize) :
    waiting.id ∉ batchIds config table := by
  intro hin
  have hnodup := backlog_nodup table
  rw [← List.take_append_drop config.settings.reconciliationBatchSize (backlog table),
    List.map_append, List.nodup_append] at hnodup
  exact hnodup.2.2 _ hin _ (List.mem_map_of_mem hwaiting) rfl

/-- The backlog is served in batches: one pass is one pass over the queue of its ids. -/
theorem Passed.backlog_ids (h : Passed config table rq pass) :
    (backlog pass.table).map PreviewJob.id =
      Batch.pass (stays config table rq) config.settings.reconciliationBatchSize
        ((backlog table).map PreviewJob.id) := by
  have hids : (PreviewJob.id ∘ passedRow config table rq) = PreviewJob.id :=
    funext fun _ => passedRow_id
  rw [h.backlog_eq, List.map_map, hids]
  conv_lhs => rw [← List.take_append_drop config.settings.reconciliationBatchSize (backlog table)]
  rw [List.filter_append, List.map_append, Batch.pass, ← List.map_take, ← List.map_drop,
    List.filter_map]
  refine congrArg₂ _ (congrArg _ (List.filter_congr fun row hrow => ?_))
    (congrArg _ (List.filter_eq_self.mpr fun row hrow => ?_))
  · have hlooked := List.mem_of_mem_take hrow
    rw [Function.comp_apply, stays, get?_of_mem_backlog hlooked, Option.all_some, passedRow,
      if_pos (mem_batchIds_of_take hrow), Bool.eq_iff_iff, decide_eq_true_iff]
    exact nonterminal_reconcileRow (mem_backlog.mp hlooked).2
  · rw [passedRow, if_neg (not_mem_batchIds_of_drop hrow), decide_eq_true_iff]
    exact (mem_backlog.mp (List.mem_of_mem_drop hrow)).2

/-- A message more is a row less without one. -/
theorem Passed.scanFits (h : Passed config table rq pass) (hscan : ScanFits config table rq) :
    ScanFits config pass.table pass.rq := by
  have hrows : pass.table.rows = table.rows.map (passedRow config table rq) := h.rows
  have hafter : pass.table.rows.countP (unrepresented pass.rq) ≤
      table.rows.countP fun row => unrepresented rq row &&
        !(decide (row.id ∈ batchIds config table) &&
          recovers config (rq.represents row.id) row) := by
    rw [hrows, List.countP_map]
    refine List.countP_mono_left fun row hrow hunrepresented => ?_
    rw [Function.comp_apply, unrepresented_iff, passedRow_id] at hunrepresented
    obtain ⟨hnonterminal, hinactive⟩ := hunrepresented
    have hbefore : rq.represents row.id = false := by
      rw [← Bool.not_eq_true] at hinactive ⊢
      exact fun hactive => hinactive (h.represents_mono hactive)
    rw [unrepresented_iff.mpr ⟨nonterminal_of_passedRow hnonterminal, hbefore⟩, Bool.true_and,
      Bool.not_eq_true', ← Bool.not_eq_true, Bool.and_eq_true, decide_eq_true_iff]
    rintro ⟨hin, hrecovers⟩
    rw [h.represents_iff.mpr (.inr ⟨row, mem_take_of_mem_batchIds hrow hin, hrecovers, rfl⟩)]
      at hinactive
    cases hinactive
  have hbatch := length_recovered_batch_le config table rq
  have hsplit : table.rows.countP (unrepresented rq) =
      (table.rows.countP fun row => unrepresented rq row &&
        (decide (row.id ∈ batchIds config table) && recovers config (rq.represents row.id) row)) +
      table.rows.countP fun row => unrepresented rq row &&
        !(decide (row.id ∈ batchIds config table) &&
          recovers config (rq.represents row.id) row) := by
    rw [List.countP_eq_countP_filter_add table.rows (unrepresented rq) fun row =>
      decide (row.id ∈ batchIds config table) && recovers config (rq.represents row.id) row,
      List.countP_filter, List.countP_filter]
  unfold ScanFits at hscan ⊢
  rw [h.rq, length_ids_foldl_enqueue, ← h.rq]
  omega

end Served

-- ============================================================================
-- As time passes
-- ============================================================================

/-- When a pass runs: its reference time, and the clock of its updates. -/
structure Tick where
  now : Timestamp
  clock : JobId → Timestamp

/-- The configuration of the pass at a tick. -/
def PassConfig.at (config : PassConfig) (tick : Tick) : PassConfig :=
  { config with now := tick.now, clock := tick.clock }

/-- Whether a job of the table survives a pass at a time. -/
def staysAt (config : PassConfig) (time : Timestamp) (table : JobTable) (rq : RqStore)
    (jobId : JobId) : Bool := stays { config with now := time } table rq jobId

section Time

variable {config : PassConfig} {tick : Tick} {time : Timestamp} {table : JobTable} {rq : RqStore}
  {pass : Pass} {row : PreviewJob}

/-- What survives a pass survives an earlier one. -/
theorem survives_earlier {earlier : Timestamp} {active : Bool} (hle : earlier ≤ time)
    (h : survives { config with now := time } active row = true) :
    survives { config with now := earlier } active row = true := by
  rw [survives_iff] at h ⊢
  refine h.imp_right (Or.imp_right (And.imp_right fun hexpired => ?_))
  rw [expired, decide_eq_false_iff_not] at hexpired ⊢
  exact fun hover => hexpired (Int.le_trans hover hle)

theorem survives_at {active : Bool} :
    survives (config.at tick) active row = survives { config with now := tick.now } active row :=
  rfl

/-- A row that is settled and would survive later still does. -/
theorem survives_settled (hpassed : Passed (config.at tick) table rq pass)
    (hle : tick.now ≤ time) (hrow : row ∈ table.rows)
    (hin : row.id ∈ batchIds (config.at tick) table)
    (h : survives { config with now := time } (rq.represents row.id) row = true) :
    survives { config with now := time } (pass.rq.represents row.id)
      (reconcileRow (config.at tick) (rq.represents row.id) row) = true := by
  have hnow : survives (config.at tick) (rq.represents row.id) row = true := by
    rw [survives_at]
    exact survives_earlier hle h
  rw [survives, Bool.or_eq_true] at hnow
  rcases hnow with hleft | hrecovers
  · rw [reconcileRow_leftAlone hleft]
    rw [survives_iff] at h ⊢
    exact h.imp_right (Or.imp_left hpassed.represents_mono)
  · have hlooked := mem_take_of_mem_batchIds hrow hin
    have hactive : pass.rq.represents row.id = true :=
      hpassed.represents_iff.mpr (.inr ⟨row, hlooked, hrecovers, rfl⟩)
    exact survives_iff.mpr (.inr (.inl hactive))

theorem staysAt_of_mem (h : row ∈ backlog table) :
    staysAt config time table rq row.id =
      survives { config with now := time } (rq.represents row.id) row := by
  rw [staysAt, stays, get?_of_mem_backlog h, Option.all_some]

/-- A job of the new backlog that stays at a later pass stayed at this one. -/
theorem Passed.stays_before (h : Passed (config.at tick) table rq pass) (hle : tick.now ≤ time)
    {jobId : JobId} (hjob : jobId ∈ (backlog pass.table).map PreviewJob.id)
    (hstays : staysAt config time pass.table pass.rq jobId = true) :
    staysAt config tick.now table rq jobId = true := by
  rw [h.backlog_eq, List.map_map] at hjob
  obtain ⟨row, hkept, rfl⟩ := List.mem_map.mp hjob
  rw [Function.comp_apply, passedRow_id] at hstays ⊢
  obtain ⟨hrow, hnonterminal⟩ := List.mem_filter.mp hkept
  have hmem : row ∈ table.rows := (mem_backlog.mp hrow).1
  rw [staysAt_of_mem hrow, ← survives_at]
  rw [decide_eq_true_iff, passedRow] at hnonterminal
  by_cases hin : row.id ∈ batchIds (config.at tick) table
  · rwa [if_pos hin, nonterminal_reconcileRow (mem_backlog.mp hrow).2] at hnonterminal
  · rw [staysAt, stays, h.get?_outside hmem hin, h.represents_outside hin,
      Option.all_some] at hstays
    exact survives_earlier hle hstays

/-- A job of the backlog that would stay at a later pass stays there after this one. -/
theorem Passed.stays_after (h : Passed (config.at tick) table rq pass) (hle : tick.now ≤ time)
    {jobId : JobId} (hjob : jobId ∈ (backlog table).map PreviewJob.id)
    (hstays : staysAt config time table rq jobId = true) :
    staysAt config time pass.table pass.rq jobId = true := by
  obtain ⟨row, hrow, rfl⟩ := List.mem_map.mp hjob
  have hmem : row ∈ table.rows := (mem_backlog.mp hrow).1
  rw [staysAt_of_mem hrow] at hstays
  rw [staysAt, stays]
  by_cases hin : row.id ∈ batchIds (config.at tick) table
  · rw [h.get?_inside hmem hin, Option.all_some]
    exact survives_settled h hle hmem hin hstays
  · rw [h.get?_outside hmem hin, Option.all_some, h.represents_outside hin]
    exact hstays

end Time

-- ============================================================================
-- Repeated passes
-- ============================================================================

/-- One pass after another. -/
def reconcilePasses (config : PassConfig) (table : JobTable) (rq : RqStore) :
    List Tick → Except PyError (JobTable × RqStore)
  | [] => .ok (table, rq)
  | tick :: ticks => do
      let pass ← reconcilePreviewJobs (config.at tick) table rq
      reconcilePasses config pass.table pass.rq ticks

/-- The rows among the older ones that survive a pass at a time. -/
def surviving (config : PassConfig) (time : Timestamp) (rq : RqStore) (older : List PreviewJob) :
    List PreviewJob :=
  older.filter fun row => survives { config with now := time } (rq.represents row.id) row

section Passes

variable {config : PassConfig} {table : JobTable} {rq : RqStore} {row : PreviewJob}
  {front back : List JobId}

theorem batchIds_eq : batchIds config table =
    ((backlog table).map PreviewJob.id).take config.settings.reconciliationBatchSize :=
  List.map_take

theorem reconcilePreviewJobs_at (tick : Tick) (hlocks : ∀ j, config.acquireLock j = true)
    (hscan : ScanFits config table rq) :
    ∃ pass, reconcilePreviewJobs (config.at tick) table rq = .ok pass ∧
      Passed (config.at tick) table rq pass ∧ ScanFits config pass.table pass.rq := by
  have hlocks' : ∀ j, (config.at tick).acquireLock j = true := hlocks
  have hscan' : ScanFits (config.at tick) table rq := hscan
  obtain ⟨pass, hrun, hpassed⟩ := reconcilePreviewJobs_passed hlocks' hscan'
  exact ⟨pass, hrun, hpassed, hpassed.scanFits hscan'⟩

/-- Every pass of a run succeeds. -/
theorem reconcilePasses_eq_ok (hlocks : ∀ j, config.acquireLock j = true) (ticks : List Tick) :
    ∀ (table : JobTable) (rq : RqStore), ScanFits config table rq →
      ∃ table' rq', reconcilePasses config table rq ticks = .ok (table', rq') := by
  induction ticks with
  | nil => exact fun table rq _ => ⟨table, rq, rfl⟩
  | cons tick ticks ih =>
      intro table rq hscan
      obtain ⟨pass, hrun, -, hscan'⟩ := reconcilePreviewJobs_at tick hlocks hscan
      obtain ⟨table', rq', hruns⟩ := ih pass.table pass.rq hscan'
      refine ⟨table', rq', ?_⟩
      rw [reconcilePasses, hrun, Python.ok_bind]
      exact hruns

/-- Less than a batch in front of a row: the next pass looks at it. -/
theorem mem_batchIds_of_short (tick : Tick)
    (hqueue : (backlog table).map PreviewJob.id = front ++ row.id :: back)
    (hshort : front.length < config.settings.reconciliationBatchSize) :
    row.id ∈ batchIds (config.at tick) table := by
  rw [batchIds_eq, hqueue, List.take_append, List.mem_append]
  obtain ⟨room, hroom⟩ := Nat.exists_eq_succ_of_ne_zero (Nat.sub_ne_zero_of_lt hshort)
  have hsize : (config.at tick).settings.reconciliationBatchSize - front.length = room + 1 := hroom
  rw [hsize, List.take_succ_cons]
  exact .inr List.mem_cons_self

/-- A whole batch in front of a row: the next pass does not. -/
theorem not_mem_batchIds_of_long (tick : Tick)
    (hqueue : (backlog table).map PreviewJob.id = front ++ row.id :: back)
    (hlong : config.settings.reconciliationBatchSize ≤ front.length) :
    row.id ∉ batchIds (config.at tick) table := by
  have hnodup := backlog_nodup table
  have hlong' : (config.at tick).settings.reconciliationBatchSize ≤ front.length := hlong
  rw [hqueue, List.nodup_append] at hnodup
  rw [batchIds_eq, hqueue, List.take_append_of_le_length hlong']
  exact fun hin => hnodup.2.2 _ (List.mem_of_mem_take hin) _ List.mem_cons_self rfl

/-- What a pass makes of the queue in front of a row that it does not look at. -/
theorem Passed.front_eq {tick : Tick} {pass : Pass} (h : Passed (config.at tick) table rq pass)
    (hqueue : (backlog table).map PreviewJob.id = front ++ row.id :: back)
    (hlong : config.settings.reconciliationBatchSize ≤ front.length) :
    (backlog pass.table).map PreviewJob.id =
      Batch.pass (staysAt config tick.now table rq) config.settings.reconciliationBatchSize front ++
        row.id :: back := by
  rw [h.backlog_ids, hqueue]
  exact Batch.pass_append hlong _

/-- The run in front of a row: as long as nobody outstays the set `keep`, and it leaves room in a
    batch, each pass serves one element more. -/
theorem reconcilePasses_reached (hlocks : ∀ j, config.acquireLock j = true)
    (keep : JobId → Bool) (ticks : List Tick) :
    ∀ (table : JobTable) (rq : RqStore) (front : List JobId), ScanFits config table rq →
      row ∈ table.rows → (backlog table).map PreviewJob.id = front ++ row.id :: back →
      ticks.Pairwise (fun tick later => tick.now ≤ later.now) →
      (∀ tick ∈ ticks, ∀ j ∈ front, staysAt config tick.now table rq j = true → keep j = true) →
      (front.filter keep).length < config.settings.reconciliationBatchSize →
      Batch.leaving keep front < ticks.length →
      ∃ early tick late, ticks = early ++ tick :: late ∧ ∃ table' rq' pass,
        reconcilePasses config table rq early = .ok (table', rq') ∧ table'.get? row.id = some row ∧
        reconcilePreviewJobs (config.at tick) table' rq' = .ok pass ∧
        pass.table.get? row.id =
          some (reconcileRow (config.at tick) (rq.represents row.id) row) := by
  induction ticks with
  | nil => exact fun _ _ _ _ _ _ _ _ _ h => absurd h (Nat.not_lt_zero _)
  | cons tick ticks ih =>
      intro table rq front hscan hrow hqueue htimes hkeep hroom hticks
      obtain ⟨pass, hrun, hpassed, hscan'⟩ := reconcilePreviewJobs_at tick hlocks hscan
      by_cases hshort : front.length < config.settings.reconciliationBatchSize
      · exact ⟨[], tick, ticks, rfl, table, rq, pass, rfl, Table.get?_eq_some.mpr ⟨hrow, rfl⟩,
          hrun, hpassed.get?_inside hrow (mem_batchIds_of_short tick hqueue hshort)⟩
      · have hlong : config.settings.reconciliationBatchSize ≤ front.length :=
          Nat.le_of_not_lt hshort
        have hout := not_mem_batchIds_of_long tick hqueue hlong
        have hqueue' := hpassed.front_eq hqueue hlong
        obtain ⟨hlater, htimes'⟩ := List.pairwise_cons.mp htimes
        have hless := Batch.leaving_pass_lt hlong hroom (hkeep tick List.mem_cons_self)
        have hkeep' : ∀ later ∈ ticks, ∀ j ∈ Batch.pass (staysAt config tick.now table rq)
            config.settings.reconciliationBatchSize front,
            staysAt config later.now pass.table pass.rq j = true → keep j = true := by
          intro later hmem j hj hstays
          refine hkeep tick List.mem_cons_self j ((Batch.pass_sublist front).mem hj) ?_
          refine hpassed.stays_before (hlater later hmem) ?_ hstays
          rw [hqueue']
          exact List.mem_append_left _ hj
        rw [List.length_cons] at hticks
        obtain ⟨early, reached, late, rfl, table', rq', pass', hruns, hget, hlast, hsettled⟩ :=
          ih pass.table pass.rq _ hscan'
            (Table.get?_eq_some.mp (hpassed.get?_outside hrow hout)).1 hqueue' htimes' hkeep'
            (Nat.lt_of_le_of_lt ((Batch.pass_sublist front).filter keep).length_le hroom) (by omega)
        refine ⟨tick :: early, reached, late, rfl, table', rq', pass', ?_, hget, hlast, ?_⟩
        · rw [reconcilePasses, hrun, Python.ok_bind]
          exact hruns
        · rwa [hpassed.represents_outside hout] at hsettled

/-- As long as a set that fills a batch outstays every pass, the row behind it waits. -/
theorem reconcilePasses_waiting (hlocks : ∀ j, config.acquireLock j = true)
    (keep : JobId → Bool) (ticks : List Tick) :
    ∀ (table : JobTable) (rq : RqStore) (front : List JobId), ScanFits config table rq →
      row ∈ table.rows → (backlog table).map PreviewJob.id = front ++ row.id :: back →
      ticks.Pairwise (fun tick later => tick.now ≤ later.now) →
      (∀ tick ∈ ticks, ∀ j ∈ front, keep j = true → staysAt config tick.now table rq j = true) →
      config.settings.reconciliationBatchSize ≤ (front.filter keep).length →
      ∃ table' rq', reconcilePasses config table rq ticks = .ok (table', rq') ∧
        table'.get? row.id = some row ∧ rq'.represents row.id = rq.represents row.id := by
  induction ticks with
  | nil => exact fun table rq _ _ hrow _ _ _ _ =>
      ⟨table, rq, rfl, Table.get?_eq_some.mpr ⟨hrow, rfl⟩, rfl⟩
  | cons tick ticks ih =>
      intro table rq front hscan hrow hqueue htimes hkeep hfull
      obtain ⟨pass, hrun, hpassed, hscan'⟩ := reconcilePreviewJobs_at tick hlocks hscan
      have hlong : config.settings.reconciliationBatchSize ≤ front.length :=
        Nat.le_trans hfull (List.length_filter_le _ _)
      have hout := not_mem_batchIds_of_long tick hqueue hlong
      have hqueue' := hpassed.front_eq hqueue hlong
      obtain ⟨hlater, htimes'⟩ := List.pairwise_cons.mp htimes
      have hkeep' : ∀ later ∈ ticks, ∀ j ∈ Batch.pass (staysAt config tick.now table rq)
          config.settings.reconciliationBatchSize front,
          keep j = true → staysAt config later.now pass.table pass.rq j = true := by
        intro later hmem j hj hj'
        have hfront : j ∈ front := (Batch.pass_sublist front).mem hj
        refine hpassed.stays_after (hlater later hmem) ?_
          (hkeep later (List.mem_cons_of_mem _ hmem) j hfront hj')
        rw [hqueue]
        exact List.mem_append_left _ hfront
      obtain ⟨table', rq', hruns, hget, hrepresents⟩ :=
        ih pass.table pass.rq _ hscan'
          (Table.get?_eq_some.mp (hpassed.get?_outside hrow hout)).1 hqueue' htimes' hkeep'
          (by rwa [Batch.filter_pass (hkeep tick List.mem_cons_self)])
      refine ⟨table', rq', ?_, hget, by rw [hrepresents, hpassed.represents_outside hout]⟩
      rw [reconcilePasses, hrun, Python.ok_bind]
      exact hruns

/-- The ids in front of a row, and those of them that survive. -/
theorem backlog_ids_eq {older newer : List PreviewJob}
    (hbacklog : backlog table = older ++ row :: newer) :
    (backlog table).map PreviewJob.id =
      older.map PreviewJob.id ++ row.id :: newer.map PreviewJob.id := by
  rw [hbacklog, List.map_append, List.map_cons]

theorem length_filter_staysAt (config : PassConfig) (rq : RqStore) (time : Timestamp)
    {older newer : List PreviewJob} (hbacklog : backlog table = older ++ row :: newer) :
    ((older.map PreviewJob.id).filter (staysAt config time table rq)).length =
      (surviving config time rq older).length := by
  rw [List.filter_map, List.length_map, surviving]
  refine congrArg _ (List.filter_congr fun other hother => ?_)
  rw [Function.comp_apply, staysAt_of_mem]
  rw [hbacklog]
  exact List.mem_append_left _ hother

theorem staysAt_earlier {earlier time : Timestamp} {jobId : JobId} (hle : earlier ≤ time)
    (hjob : jobId ∈ (backlog table).map PreviewJob.id)
    (h : staysAt config time table rq jobId = true) :
    staysAt config earlier table rq jobId = true := by
  obtain ⟨other, hother, rfl⟩ := List.mem_map.mp hjob
  rw [staysAt_of_mem hother] at h ⊢
  exact survives_earlier hle h

/-- Passes at times that do not run backwards succeed, and reach a row when fewer older rows
    survive at their start than fit in a batch: as many passes as there are older rows to fail
    leave it as it is, at most, and the next one settles it. -/
theorem reconcilePasses_reaches (hlocks : ∀ j, config.acquireLock j = true)
    (hscan : ScanFits config table rq) {older newer : List PreviewJob}
    (hbacklog : backlog table = older ++ row :: newer) {start : Timestamp} {ticks : List Tick}
    (htimes : ticks.Pairwise fun tick later => tick.now ≤ later.now)
    (hstart : ∀ tick ∈ ticks, start ≤ tick.now)
    (hroom : (surviving config start rq older).length < config.settings.reconciliationBatchSize)
    (hticks : older.length - (surviving config start rq older).length < ticks.length) :
    (∃ table' rq', reconcilePasses config table rq ticks = .ok (table', rq')) ∧
    ∃ early tick late, ticks = early ++ tick :: late ∧ ∃ table' rq' pass,
      reconcilePasses config table rq early = .ok (table', rq') ∧ table'.get? row.id = some row ∧
      reconcilePreviewJobs (config.at tick) table' rq' = .ok pass ∧
      pass.table.get? row.id =
        some (reconcileRow (config.at tick) (rq.represents row.id) row) := by
  refine ⟨reconcilePasses_eq_ok hlocks ticks table rq hscan, ?_⟩
  have hrow : row ∈ backlog table := by
    rw [hbacklog]
    exact List.mem_append_right _ List.mem_cons_self
  have hqueue := backlog_ids_eq hbacklog
  have hkept := length_filter_staysAt config rq start hbacklog
  have hleaving := Batch.leaving_add_length_filter (staysAt config start table rq)
    (older.map PreviewJob.id)
  rw [hkept, List.length_map] at hleaving
  refine reconcilePasses_reached hlocks (staysAt config start table rq) ticks table rq _ hscan
    (mem_backlog.mp hrow).1 hqueue htimes (fun tick htick j hj => ?_) (by rwa [hkept]) (by omega)
  refine staysAt_earlier (hstart tick htick) ?_
  rw [hqueue]
  exact List.mem_append_left _ hj

/-- An exhausted row in front of an orphaned one. -/
def exhaustedFirst : JobTable where
  rows :=
    [{ createJob defaultSettings 0 "user" "buy the dip" none 0 with attemptCount := 3 },
      { createJob defaultSettings 1 "user" "buy the dip" none 0 with
        status := .running
        startedAt := some 0
        attemptCount := 1 }]
  nodup := by decide

/-- A pass for every row. -/
def oneByOne : PassConfig :=
  { tenMinutesLater with settings := { defaultSettings with reconciliationBatchSize := 1 } }

/-- Passes at ten and at eleven minutes. -/
def twoTicks : List Tick := [⟨600000000, fun _ => 600000001⟩, ⟨660000000, fun _ => 660000001⟩]

/-- The first pass fails the exhausted row, and the second takes the orphan back to the queue. -/
theorem reconcilePasses_reaches_orphan :
    ∃ early tick late, twoTicks = early ++ tick :: late ∧ ∃ table' rq' pass,
      reconcilePasses oneByOne exhaustedFirst emptyRq early = .ok (table', rq') ∧
      table'.get? 1 = some exhaustedFirst.rows[1] ∧
      reconcilePreviewJobs (oneByOne.at tick) table' rq' = .ok pass ∧
      pass.table.get? 1 =
        some (reconcileRow (oneByOne.at tick) (emptyRq.represents 1) exhaustedFirst.rows[1]) := by
  have hlocks : ∀ j, oneByOne.acquireLock j = true := fun _ => rfl
  have hscan : ScanFits oneByOne exhaustedFirst emptyRq := by
    unfold ScanFits
    decide
  have hbacklog : backlog exhaustedFirst =
      [exhaustedFirst.rows[0]] ++ exhaustedFirst.rows[1] :: [] :=
    List.mergeSort_of_pairwise (by decide)
  have hstart : ∀ tick ∈ twoTicks, 600000000 ≤ tick.now := by decide
  exact (reconcilePasses_reaches hlocks hscan hbacklog (by decide) hstart (by decide)
    (by decide)).2

/-- A row waits through passes at times that do not run backwards as long as the older rows that
    would survive at their end fill a batch. -/
theorem reconcilePasses_starves (hlocks : ∀ j, config.acquireLock j = true)
    (hscan : ScanFits config table rq) {older newer : List PreviewJob}
    (hbacklog : backlog table = older ++ row :: newer) {stop : Timestamp} {ticks : List Tick}
    (htimes : ticks.Pairwise fun tick later => tick.now ≤ later.now)
    (hstop : ∀ tick ∈ ticks, tick.now ≤ stop)
    (hfull : config.settings.reconciliationBatchSize ≤ (surviving config stop rq older).length) :
    ∃ table' rq', reconcilePasses config table rq ticks = .ok (table', rq') ∧
      table'.get? row.id = some row ∧ rq'.represents row.id = rq.represents row.id := by
  have hrow : row ∈ backlog table := by
    rw [hbacklog]
    exact List.mem_append_right _ List.mem_cons_self
  have hqueue := backlog_ids_eq hbacklog
  refine reconcilePasses_waiting hlocks (staysAt config stop table rq) ticks table rq _ hscan
    (mem_backlog.mp hrow).1 hqueue htimes (fun tick htick j hj => ?_)
    (by rwa [length_filter_staysAt config rq stop hbacklog])
  refine staysAt_earlier (hstop tick htick) ?_
  rw [hqueue]
  exact List.mem_append_left _ hj

/-- The orphaned row in front is taken back to the queue and stays there: the exhausted one behind
    it is not failed. -/
theorem reconcilePasses_starves_exhausted :
    ∃ table' rq', reconcilePasses oneByOne orphanedRows emptyRq twoTicks = .ok (table', rq') ∧
      table'.get? 1 = some orphanedRows.rows[1] ∧
      rq'.represents 1 = emptyRq.represents 1 := by
  have hlocks : ∀ j, oneByOne.acquireLock j = true := fun _ => rfl
  have hscan : ScanFits oneByOne orphanedRows emptyRq := by
    unfold ScanFits
    decide
  have hbacklog : backlog orphanedRows = [orphanedRows.rows[0]] ++ orphanedRows.rows[1] :: [] :=
    List.mergeSort_of_pairwise (by decide)
  have hstop : ∀ tick ∈ twoTicks, tick.now ≤ 660000000 := by decide
  exact reconcilePasses_starves hlocks hscan hbacklog (by decide) hstop (by decide)

end Passes

end Services
end TradingPlatform
