import Mathlib.Logic.Relation
import Oppa.Storage.Outbox

/-!
# The lineage of a row

Where a row of the job table comes from, and what becomes of it, over any number of commits.

* `Commits` — a sequence of commits between two states of the tables.
* `RowPath` — a row and what later commits have made of it.
* **`Commits.row_cases`** — every row descends from a row that was there or was inserted on the way.
* `Commits.pending_cases` — how a row comes to be pending; `Commits.keeps_pending` — and how it stays
  so.
* **`stored_of_standing`** — a row that was inserted and not evicted since is still in the table.
-/

namespace Oppa

variable {Value : Type} {storage : SqliteStorage Value}

/-- A sequence of commits, with the events it shows. -/
inductive Commits (storage : SqliteStorage Value) :
    Database → List RepositoryEvent → Database → Prop
  | nil {db : Database} : Commits storage db [] db
  | commit {db db' db'' : Database} {es es' : List RepositoryEvent} :
      Commits storage db es db' → Commit storage db' es' db'' → Commits storage db (es ++ es') db''

lemma Commit.commits {db db' : Database} {es : List RepositoryEvent}
    (h : Commit storage db es db') : Commits storage db es db' := by
  simpa using Commits.nil.commit h

/-- What is reached by commits and goes on by commits is reached by commits. -/
lemma Committed.append {h es : List RepositoryEvent} {db db' : Database}
    (hdb : Committed storage h db) (hcommits : Commits storage db es db') :
    Committed storage (h ++ es) db' := by
  induction hcommits with
  | nil => simpa using hdb
  | commit _ hcommit ih =>
      rw [← List.append_assoc]
      exact ih.commit hcommit

/-! ## Rows -/

lemma RowStep.idempotencyKey {old row : PrintJobRow} (hstep : RowStep old row) :
    row.idempotencyKey = old.idempotencyKey := by
  cases hstep with
  | keep => rfl
  | prune => simp only [PrintJobRow.prune]; split <;> rfl
  | claim => rfl
  | finish => simp only [PrintJobRow.prune]; split <;> rfl
  | recover => rfl

lemma RowStep.sourceMessageId {old row : PrintJobRow} (hstep : RowStep old row) :
    row.sourceMessageId = old.sourceMessageId := by
  cases hstep with
  | keep => rfl
  | prune => simp only [PrintJobRow.prune]; split <;> rfl
  | claim => rfl
  | finish => simp only [PrintJobRow.prune]; split <;> rfl
  | recover => rfl

/-- Attempts are only ever counted up. -/
lemma RowStep.retryAttempts_le {old row : PrintJobRow} (hstep : RowStep old row) :
    old.retryAttempts ≤ row.retryAttempts := by
  cases hstep with
  | keep => exact le_rfl
  | prune => simp
  | claim => exact Nat.le_add_right _ _
  | finish w =>
      rw [PrintJobRow.prune_retryAttempts]
      exact Nat.le_add_right _ _
  | recover => exact le_rfl

/-- A row that is still pending has its payload. -/
lemma RowStep.payloadJson {old row : PrintJobRow} (hstep : RowStep old row)
    (hpending : row.isTerminal = false) : row.payloadJson = old.payloadJson := by
  cases hstep with
  | keep => rfl
  | prune =>
      rw [PrintJobRow.prune_isTerminal] at hpending
      simp [PrintJobRow.prune, hpending]
  | claim => rfl
  | finish w =>
      have hterminal := w.terminal
      rw [PrintJobRow.prune_isTerminal] at hpending
      exact absurd hterminal (by simpa [PrintJobRow.isTerminal, transitionUpdate] using hpending)
  | recover => rfl

/-- A row and what later commits have made of it. -/
def RowPath : PrintJobRow → PrintJobRow → Prop := Relation.ReflTransGen RowStep

namespace RowPath

variable {old row : PrintJobRow}

lemma jobId (h : RowPath old row) : row.jobId = old.jobId := by
  induction h with
  | refl => rfl
  | tail _ hstep ih => exact hstep.jobId.trans ih

lemma idempotencyKey (h : RowPath old row) : row.idempotencyKey = old.idempotencyKey := by
  induction h with
  | refl => rfl
  | tail _ hstep ih => exact hstep.idempotencyKey.trans ih

lemma sourceMessageId (h : RowPath old row) : row.sourceMessageId = old.sourceMessageId := by
  induction h with
  | refl => rfl
  | tail _ hstep ih => exact hstep.sourceMessageId.trans ih

lemma retryAttempts_le (h : RowPath old row) : old.retryAttempts ≤ row.retryAttempts := by
  induction h with
  | refl => exact le_rfl
  | tail _ hstep ih => exact ih.trans hstep.retryAttempts_le

lemma isTerminal (h : RowPath old row) (hold : old.isTerminal = true) : row.isTerminal = true := by
  induction h with
  | refl => exact hold
  | tail _ hstep ih => exact hstep.isTerminal ih

lemma payloadJson (h : RowPath old row) (hpending : row.isTerminal = false) :
    row.payloadJson = old.payloadJson := by
  induction h with
  | refl => rfl
  | tail _ hstep ih =>
      refine (hstep.payloadJson hpending).trans (ih ?_)
      by_contra hterminal
      rw [Bool.not_eq_false] at hterminal
      rw [hstep.isTerminal hterminal] at hpending
      cases hpending

end RowPath

/-- **Every row descends** from a row that was there, or from one that was inserted on the way. -/
theorem Commits.row_cases {db db' : Database} {es : List RepositoryEvent}
    (hcommits : Commits storage db es db') {row : PrintJobRow} (hrow : row ∈ db'.jobs) :
    (∃ old ∈ db.jobs, RowPath old row ∧ ∀ e ∈ es, insertionOf row.jobId e = none) ∨
      ∃ first, .inserted first ∈ es ∧ RowPath first row := by
  induction hcommits generalizing row with
  | nil => exact Or.inl ⟨row, hrow, .refl, by simp⟩
  | commit _ hcommit ih =>
      rcases hcommit.row_cases hrow with ⟨mid, hmid, hstep, hnone⟩ | ⟨rfl, -, -⟩
      · rcases ih hmid with ⟨old, hold, hpath, hnone'⟩ | ⟨first, hfirst, hpath⟩
        · refine Or.inl ⟨old, hold, hpath.tail hstep, fun e he => ?_⟩
          rcases List.mem_append.mp he with he | he
          · rw [hstep.jobId]
            exact hnone' e he
          · exact hnone e he
        · exact Or.inr ⟨first, List.mem_append_left _ hfirst, hpath.tail hstep⟩
      · exact Or.inr ⟨row, by simp, .refl⟩

/-! ## Pending rows -/

/-- How a row comes to be pending at the end of one commit. -/
inductive BecomesPending (db : Database) (es : List RepositoryEvent) (row : PrintJobRow) : Prop
  | was : row ∈ db.jobs → BecomesPending db es row
  | inserted {first : PrintJobRow} : .inserted first ∈ es → first.jobId = row.jobId →
      BecomesPending db es row
  | recovered : .recovered row.jobId ∈ es → BecomesPending db es row
  | claimed : .transitioned row.jobId .submitting ∈ es → BecomesPending db es row

lemma BecomesPending.mono {db : Database} {es es' : List RepositoryEvent} {row : PrintJobRow}
    (hes : ∀ e ∈ es, e ∈ es') (h : BecomesPending db es row) : BecomesPending db es' row := by
  cases h with
  | was h => exact .was h
  | inserted h hid => exact .inserted (hes _ h) hid
  | recovered h => exact .recovered (hes _ h)
  | claimed h => exact .claimed (hes _ h)

lemma prune_of_pending {row : PrintJobRow} (h : row.prune.isTerminal = false) : row.prune = row := by
  rw [PrintJobRow.prune_isTerminal] at h
  simp [PrintJobRow.prune, h]

lemma Commit.pending_cases {db db' : Database} {es : List RepositoryEvent}
    (hcommit : Commit storage db es db') {row : PrintJobRow} (hrow : row ∈ db'.jobs)
    (hpending : row.isTerminal = false) : BecomesPending db es row := by
  cases hcommit with
  | nothing => exact .was hrow
  | insert hprep hroom hdb' =>
      rw [(Database.insertJob_ok hdb').1, List.mem_append, List.mem_singleton] at hrow
      rcases hrow with hrow | rfl
      · exact .was hrow
      · exact .inserted (List.mem_singleton_self _) rfl
  | claim hjob hstate =>
      rcases Table.mem_updateWhere.mp hrow with ⟨hold, -⟩ | ⟨old, hold, hid, rfl⟩
      · exact .was hold
      · refine .claimed (List.mem_singleton.mpr ?_)
        rw [← of_decide_eq_true hid]
        rfl
  | finish w hjob hallowed hrec hkept =>
      subst hkept
      obtain ⟨⟨updated, hupdated, rfl⟩, -⟩ := mem_retention_jobs.mp hrow
      rw [(recordStatus_ok hrec).1] at hupdated
      have hsame := prune_of_pending hpending
      rw [hsame] at hpending ⊢
      rcases Table.mem_updateWhere.mp hupdated with ⟨hold, -⟩ | ⟨old, hold, hid, rfl⟩
      · exact .was hold
      · -- the row the write is about is terminal
        rw [w.update_isTerminal hupdated (of_decide_eq_true hid)] at hpending
        cases hpending
  | recover =>
      rcases Table.mem_updateWhere.mp hrow with ⟨hold, -⟩ | ⟨old, hold, hstate, rfl⟩
      · exact .was hold
      · exact .recovered (List.mem_map.mpr ⟨old, List.mem_filter.mpr ⟨hold, hstate⟩, rfl⟩)
  | acknowledge => exact .was hrow
  | maintain hkept =>
      subst hkept
      obtain ⟨⟨old, hold, rfl⟩, -⟩ := mem_retention_jobs.mp hrow
      rw [prune_of_pending hpending]
      exact .was hold

/-- **How a row comes to be pending**: it was there, or it was inserted, recovered or claimed on the
way. -/
theorem Commits.pending_cases {db db' : Database} {es : List RepositoryEvent}
    (hcommits : Commits storage db es db') {row : PrintJobRow} (hrow : row ∈ db'.jobs)
    (hpending : row.isTerminal = false) : BecomesPending db es row := by
  induction hcommits generalizing row with
  | nil => exact .was hrow
  | commit _ hcommit ih =>
      cases hcommit.pending_cases hrow hpending with
      | was hmid => exact (ih hmid hpending).mono fun _ => List.mem_append_left _
      | inserted h hid => exact .inserted (List.mem_append_right _ h) hid
      | recovered h => exact .recovered (List.mem_append_right _ h)
      | claimed h => exact .claimed (List.mem_append_right _ h)

/-! ## What stays -/

/-- A job that leaves the table is evicted. -/
lemma Commit.evicts {db db' : Database} {es : List RepositoryEvent}
    (hcommit : Commit storage db es db') {old : PrintJobRow} (hold : old ∈ db.jobs)
    (hgone : ∀ row ∈ db'.jobs, row.jobId ≠ old.jobId) : .evicted old.jobId ∈ es := by
  have hevicted : .evicted old.jobId ∈ evictions db db' := by
    refine List.mem_map.mpr ⟨old, List.mem_filter.mpr ⟨hold, decide_eq_true fun hmem => ?_⟩, rfl⟩
    obtain ⟨row, hrow, hid⟩ := List.mem_map.mp hmem
    exact hgone row hrow hid
  cases hcommit with
  | nothing => exact absurd rfl (hgone old hold)
  | insert hprep hroom hdb' =>
      rw [(Database.insertJob_ok hdb').1] at hgone
      exact absurd rfl (hgone old (List.mem_append_left _ hold))
  | claim =>
      refine absurd ?_ (hgone _ (List.mem_map_of_mem hold))
      split <;> rfl
  | finish w hjob hallowed hrec hkept =>
      exact List.mem_cons_of_mem _ (List.mem_append_right _ hevicted)
  | recover =>
      refine absurd ?_ (hgone _ (List.mem_map_of_mem hold))
      split <;> rfl
  | acknowledge => exact absurd rfl (hgone old hold)
  | maintain => exact hevicted

/-- A job that is not evicted keeps its row. -/
lemma Commit.keeps {db db' : Database} {es : List RepositoryEvent}
    (hcommit : Commit storage db es db') {old : PrintJobRow} (hold : old ∈ db.jobs)
    (hkept : .evicted old.jobId ∉ es) : ∃ row ∈ db'.jobs, RowStep old row := by
  by_contra hnone
  refine hkept (hcommit.evicts hold fun row hrow hid => hnone ?_)
  rcases hcommit.row_cases hrow with ⟨first, hfirst, hstep, -⟩ | ⟨-, hfree, -⟩
  · have heq : first = old := db.jobIds.eq_of_key_eq hfirst hold (hstep.jobId.symm.trans hid)
    exact ⟨row, hrow, heq ▸ hstep⟩
  · exact absurd hid.symm (Database.job_eq_none.mp hfree old hold)

/-- No event of `es` moves the job. -/
structure Untouched (id : PrintJobId) (es : List RepositoryEvent) : Prop where
  transitioned : ∀ state, .transitioned id state ∉ es
  recovered : .recovered id ∉ es

lemma Untouched.of_append {id : PrintJobId} {es es' : List RepositoryEvent}
    (h : Untouched id (es ++ es')) : Untouched id es ∧ Untouched id es' :=
  ⟨⟨fun state hmem => h.transitioned state (List.mem_append_left _ hmem),
      fun hmem => h.recovered (List.mem_append_left _ hmem)⟩,
    ⟨fun state hmem => h.transitioned state (List.mem_append_right _ hmem),
      fun hmem => h.recovered (List.mem_append_right _ hmem)⟩⟩

lemma mem_retention_of_pending {maximum : ℕ} {protectedJobId : Option PrintJobId} {db : Database}
    {row : PrintJobRow} (hrow : row ∈ db.jobs) (hpending : row.isTerminal = false) :
    row ∈ (enforceTerminalRetention maximum protectedJobId db).2.jobs := by
  have hprune : row.prune = row := by simp [PrintJobRow.prune, hpending]
  refine mem_retention_jobs.mpr ⟨⟨row, hrow, hprune⟩, fun hvictim => ?_⟩
  obtain ⟨victim, hmem, hid⟩ := List.mem_map.mp hvictim
  obtain ⟨hstored, hterminal, -⟩ := mem_retentionVictims hmem
  -- a victim is terminal, and the job has one row only
  have hpruned : row ∈ (prunePayloads db).jobs := by
    rw [prunePayloads_jobs]
    exact List.mem_map.mpr ⟨row, hrow, hprune⟩
  rw [(prunePayloads db).jobIds.eq_of_key_eq hstored hpruned hid, hpending] at hterminal
  cases hterminal

/-- A pending row that no event moves stays as it is. -/
lemma Commit.keeps_pending {db db' : Database} {es : List RepositoryEvent}
    (hcommit : Commit storage db es db') {row : PrintJobRow} (hrow : row ∈ db.jobs)
    (hpending : row.isTerminal = false) (huntouched : Untouched row.jobId es) :
    row ∈ db'.jobs := by
  cases hcommit with
  | nothing => exact hrow
  | insert hprep hroom hdb' =>
      rw [(Database.insertJob_ok hdb').1]
      exact List.mem_append_left _ hrow
  | @claim id stored now hjob hstate =>
      have hne : row.jobId ≠ id := fun h => huntouched.transitioned .submitting (by simp [h])
      exact Table.mem_updateWhere.mpr (Or.inl ⟨hrow, decide_eq_false hne⟩)
  | @finish recorded _ stored now w hjob hallowed hrec hkept =>
      subst hkept
      have hne : row.jobId ≠ w.id := fun h =>
        huntouched.transitioned w.requested (by simp [transitionEvents, h])
      refine mem_retention_of_pending ?_ hpending
      rw [(recordStatus_ok hrec).1]
      exact Table.mem_updateWhere.mpr (Or.inl ⟨hrow, decide_eq_false hne⟩)
  | recover =>
      have hne : row.state ≠ .submitting := fun h => huntouched.recovered
        (List.mem_map.mpr ⟨row, List.mem_filter.mpr ⟨hrow, decide_eq_true h⟩, rfl⟩)
      exact Table.mem_updateWhere.mpr (Or.inl ⟨hrow, decide_eq_false hne⟩)
  | acknowledge => exact hrow
  | maintain hkept =>
      subst hkept
      exact mem_retention_of_pending hrow hpending

/-- **A pending row stays as it is** over any number of commits that do not move it. -/
theorem Commits.keeps_pending {db db' : Database} {es : List RepositoryEvent}
    (hcommits : Commits storage db es db') {row : PrintJobRow} (hrow : row ∈ db.jobs)
    (hpending : row.isTerminal = false) (huntouched : Untouched row.jobId es) :
    row ∈ db'.jobs := by
  induction hcommits with
  | nil => exact hrow
  | commit _ hcommit ih =>
      obtain ⟨hbefore, hafter⟩ := huntouched.of_append
      exact hcommit.keeps_pending (ih hbefore) hpending hafter

/-- **A job that was inserted and not evicted since is still stored.** -/
theorem stored_of_standing {h : List RepositoryEvent} {db : Database}
    (hdb : Committed storage h db) {first : PrintJobRow}
    (hstanding : History.Standing (.inserted first) (· = .evicted first.jobId) h) :
    ∃ row ∈ db.jobs, RowPath first row := by
  induction hdb with
  | fresh => exact absurd hstanding History.not_standing_nil
  | @commit h es db db' _ hcommit ih =>
      rcases History.mem_or_standing_of_append hstanding with hnew | ⟨hold, hkept⟩
      · refine ⟨first, ?_, .refl⟩
        -- only an insertion shows an inserted row
        cases hcommit with
        | insert hprep hroom hdb' =>
            rw [List.mem_singleton] at hnew
            cases hnew
            rw [(Database.insertJob_ok hdb').1]
            exact List.mem_append_right _ (List.mem_singleton_self _)
        | nothing => simp at hnew
        | claim => simp at hnew
        | finish => simp [transitionEvents, evictions] at hnew
        | recover => simp at hnew
        | acknowledge => simp at hnew
        | maintain => simp [evictions] at hnew
      · obtain ⟨old, hmem, hpath⟩ := ih hold
        obtain ⟨row, hrow, hstep⟩ :=
          hcommit.keeps hmem fun he => hkept _ he (by rw [hpath.jobId])
        exact ⟨row, hrow, hpath.tail hstep⟩

end Oppa
