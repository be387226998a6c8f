import BambuBabu.Floor.Requests

/-!
# `Floor.Writes` — what every UPDATE of the service has in common

A bound on what one UPDATE does to the database is a bound on every transaction, whatever its SELECTs have seen, and
however often it writes. `Bounds now G` collects the UPDATEs of the service for a relation `G`: swaps along the graph
that are stamped with the time `now`, ORM flushes, and INSERTs into the log. There is one lemma for each operation of
`Db.Crud` and for each transaction but the upload, and `Request.within` for all of them.
-/

namespace BambuBabu

open Storage

/-- Every UPDATE of the service that is stamped with the time `now` stays within `G`. -/
structure Bounds (now : Time) (G : Db → Db → Prop) : Prop where
  /-- The compare-and-swap. -/
  swap : ∀ (d : Db) (id : JobId) (expected : List JobStatus) (new : JobStatus) (err rej : Option String),
    (∀ st ∈ expected, new ∈ allowedJobTransitions st) →
    G d (d.modifyJob id fun j => if j.status ∈ expected then j.transitioned now new err rej else j)
  /-- The ORM writes neither a status nor the time a job ended. -/
  columns : ∀ (d : Db) (id : JobId) (f : Job → Job), (∀ j, (f j).status = j.status ∧ (f j).printEndedAt = j.printEndedAt) →
    G d (d.modifyJob id f)
  printer : ∀ (d : Db) (p : PrinterID) (f : PrinterState → PrinterState), G d (d.modifyPrinter p f)
  log : ∀ (d : Db) (e : LogEntry), G d (d.insertLog e)

/-- Within the bound, whatever the outcome. -/
abbrev Writing (G : Db → Db → Prop) {α : Type} (t : Tx α) : Prop := t.Within G Txn.anyOutcome

variable {G : Db → Db → Prop} {d d' : Db} {id : JobId} {j : Job} {p : PrinterID} {now : Time} {s : Settings}

/-! ## The operations -/

/-- Most blocks read a job and return when there is none. -/
theorem getJob_writing {α : Type} {f : Option Job → Tx α} (hnone : Writing G (f none))
    (hsome : ∀ j, Writing G (f (some j))) : Writing G (getJob id >>= f) :=
  Txn.Within.select.andThen fun job => by
    cases job with
    | none => exact hnone
    | some j => exact hsome j

theorem checkReslice_writing : Writing G (checkReslice id) :=
  getJob_writing trivial fun _ => Txn.Within.ite (fun _ => trivial) fun _ => trivial

theorem acknowledgeChecks_writing : Writing G (acknowledgeChecks s p) := by
  refine Txn.Within.ite (fun _ => trivial) fun _ => Txn.Within.select.andThen fun st => ?_
  cases st with
  | none => trivial
  | some st => exact Txn.Within.ite (fun _ => trivial) fun _ => Txn.Within.ite (fun _ => trivial) fun _ => trivial

section writes

variable (hG : Bounds now G)

include hG

/-- **A swap** raises before its UPDATE unless every status it expects has the edge. -/
theorem transition_writing {loaded : Option Job} {expected : List JobStatus} {new : JobStatus}
    {err rej : Option String} : Writing G (transitionJobStatus now loaded id expected new err rej) := by
  refine Txn.Within.ite (fun _ => trivial) fun hedges => ⟨fun d => ?_, fun _ d => ?_⟩
  · apply hG.swap
    intro st hexp
    by_contra hno
    have hinvalid : st ∈ expected.filter fun st => new ∉ allowedJobTransitions st :=
      List.mem_filter.mpr ⟨hexp, decide_eq_true hno⟩
    rw [not_not.mp hedges] at hinvalid
    cases hinvalid
  · show Writing G (ite _ _ _ : Tx Job)
    refine Txn.Within.ite (fun _ => ?_) fun _ => trivial
    split <;> trivial

theorem trySwap_writing {job : Job} {expected new : JobStatus} {err : Option String} :
    Writing G (trySwap now job id expected new err) := by
  refine Txn.Within.tryCatch ((transition_writing hG).andThen fun _ => trivial) fun e => ?_
  cases e <;> trivial

theorem flushJob_writing {loaded new : Job} {columns : Job → Job}
    (h : ∀ j, (columns j).status = j.status ∧ (columns j).printEndedAt = j.printEndedAt) :
    Writing G (flushJob id loaded new columns) :=
  Txn.Within.ite (fun _ => trivial) fun _ =>
    (Txn.Within.exec fun d => hG.columns d id columns h).andThen fun _ => trivial

theorem flushPrinter_writing {loaded new : PrinterState} : Writing G (flushPrinter p loaded new) :=
  Txn.Within.ite (fun _ => trivial) fun _ => (Txn.Within.exec fun d => hG.printer d p _).andThen fun _ => trivial

theorem loadAndUpdatePrinterState_writing {set : PrinterState → PrinterState} :
    Writing G (loadAndUpdatePrinterState now p set) :=
  Txn.Within.select.andThen fun st => by
    cases st with
    | none => trivial
    | some st => exact (flushPrinter_writing hG).andThen fun _ => trivial

theorem addLog_writing {event message : String} {level : LogLevel} {jobId : Option JobId}
    {printerId : Option String} {extra : Option Analysis} :
    Writing G (addLog now event message level jobId printerId extra) :=
  Txn.Within.exec fun d => hG.log d _

/-- A swap and its log entry. -/
theorem logged_writing {α β : Type} {t : Tx α} {event message : String} {level : LogLevel}
    {jobId : Option JobId} {printerId : Option String} {extra : Option Analysis} {b : β} (h : Writing G t) :
    Writing G (do
      let _ ← t
      addLog now event message level jobId printerId extra
      pure b) :=
  h.andThen fun _ => (addLog_writing hG).andThen fun _ => trivial

/-! ## The transactions -/

theorem cancelJob_writing : Writing G (cancelJob now id) :=
  getJob_writing trivial fun j => by
    refine logged_writing hG (Txn.Within.tryCatch (transition_writing hG) fun e => ?_)
    cases e <;> first | trivial | exact Txn.Within.select.andThen fun _ => trivial

theorem cancelPendingJob_writing : Writing G (cancelPendingJob now id) :=
  getJob_writing trivial fun _ =>
    Txn.Within.ite (fun _ => trivial) fun _ => logged_writing hG (transition_writing hG)

theorem startAnalysis_writing : Writing G (startAnalysis now id) :=
  (transition_writing hG).andThen fun _ => (addLog_writing hG).andThen fun _ => trivial

theorem planSlice_writing {analysis : Analysis} {choice : Option PrinterID × Option String} :
    Writing G (planSlice now id analysis choice) :=
  getJob_writing trivial fun j => by
    refine Txn.Within.ite (fun _ => trivial) fun _ => ?_
    rcases choice with ⟨_ | p, _ | rejection⟩
    · trivial
    · exact logged_writing hG (transition_writing hG)
    · exact Txn.Within.andThen (flushJob_writing hG fun _ => ⟨rfl, rfl⟩) fun _ =>
        logged_writing hG (transition_writing hG)
    · exact logged_writing hG (transition_writing hG)

theorem storeSlice_writing {path : String} {est : Option Nat} : Writing G (storeSlice now id p path est) :=
  getJob_writing trivial fun _ => Txn.Within.ite (fun _ => trivial) fun _ =>
    Txn.Within.andThen (flushJob_writing hG fun _ => ⟨rfl, rfl⟩) fun _ =>
      (transition_writing hG).andThen fun _ => addLog_writing hG

theorem storeReslice_writing {path : String} {est : Option Nat} :
    Writing G (storeReslice now id p path est) :=
  getJob_writing trivial fun _ => Txn.Within.ite (fun _ => trivial) fun _ =>
    Txn.Within.andThen (flushJob_writing hG fun _ => ⟨rfl, rfl⟩) fun _ =>
      Txn.Within.andThen (flushJob_writing hG fun _ => ⟨rfl, rfl⟩) fun _ =>
        (transition_writing hG).andThen fun _ => addLog_writing hG

theorem failJob_writing {message : String} : Writing G (failJob now id message) :=
  getJob_writing trivial fun _ => Txn.Within.ite (fun _ => trivial) fun _ =>
    (trySwap_writing hG).andThen fun _ => Txn.Within.ite (fun _ => addLog_writing hG) fun _ => trivial

theorem abortReslice_writing {exc : String} : Writing G (abortReslice now id exc) :=
  getJob_writing trivial fun _ =>
    Txn.Within.ite (fun _ => (transition_writing hG).andThen fun _ => (addLog_writing hG)) fun _ => trivial

theorem reserveCandidate_writing {target : PrinterID} {reserved : JobId → Bool} :
    ∀ rows, Writing G (reserveCandidate s now target reserved rows)
  | [] => trivial
  | (id, job) :: rest => by
      have hrest : Writing G (reserveCandidate s now target reserved rest) := reserveCandidate_writing rest
      unfold reserveCandidate
      refine Txn.Within.ite (fun _ => hrest) fun _ => ?_
      cases job.assignedPrinter with
      | none => trivial
      | some source =>
          refine Txn.Within.select.andThen fun _ => Txn.Within.ite (fun _ => hrest) fun _ => ?_
          exact (trySwap_writing hG).andThen fun _ =>
            Txn.Within.ite (fun _ => (addLog_writing hG).andThen fun _ => trivial) fun _ => hrest

theorem tryScheduleFallback_writing {target : PrinterID} {reserved : JobId → Bool} :
    Writing G (tryScheduleFallback s now target reserved) := by
  refine Txn.Within.ite (fun _ => trivial) fun _ => Txn.Within.select.andThen fun st => ?_
  cases st with
  | none => trivial
  | some st =>
      exact Txn.Within.ite (fun _ => trivial) fun _ =>
        Txn.Within.select.andThen fun rows => reserveCandidate_writing hG rows

theorem tryDispatch_writing : Writing G (tryDispatch s now p) := by
  refine Txn.Within.ite (fun _ => trivial) fun _ => Txn.Within.select.andThen fun st => ?_
  cases st with
  | none => trivial
  | some st =>
      refine Txn.Within.ite (fun _ => trivial) fun _ => Txn.Within.select.andThen fun row => ?_
      rcases row with _ | ⟨id, job⟩
      · trivial
      · exact (trySwap_writing hG).andThen fun _ =>
          Txn.Within.ite (fun _ => logged_writing hG (flushPrinter_writing hG)) fun _ => trivial

theorem requestStart_writing : Writing G (requestStart now id p) :=
  (transition_writing hG).andThen fun _ => addLog_writing hG

theorem confirmStart_writing : Writing G (confirmStart now id p) :=
  getJob_writing trivial fun _ =>
    Txn.Within.ite
      (fun _ => (transition_writing hG).andThen fun _ => (addLog_writing hG).andThen fun _ =>
        (loadAndUpdatePrinterState_writing hG).andThen fun _ => trivial)
      fun _ => Txn.Within.ite (fun _ => trivial) fun _ =>
        (loadAndUpdatePrinterState_writing hG).andThen fun _ => trivial

theorem quarantineStart_writing {exc : Exc} : Writing G (quarantineStart now id p exc) :=
  getJob_writing trivial fun _ =>
    Txn.Within.ite
      (fun _ => (transition_writing hG).andThen fun _ =>
        (loadAndUpdatePrinterState_writing hG).andThen fun _ => (addLog_writing hG))
      fun _ => trivial

theorem releaseFailed_writing : Writing G (releaseFailed now id p) :=
  Txn.Within.select.andThen fun state => Txn.Within.select.andThen fun job => by
    cases state <;> cases job <;> first
      | trivial
      | exact Txn.Within.ite (fun _ => (flushPrinter_writing hG).andThen fun _ => trivial) fun _ => trivial

section callback

variable {snap : Snapshot} {state : PrinterState} {job : Job}

theorem confirmOwner_writing : Writing G (confirmOwner now p snap id job) := by
  refine Txn.Within.ite (fun _ => ?_) fun _ => trivial
  have hswap : Writing G (do
      let moved ← transitionJobStatus now (some job) id [job.status] .printing none none
      let event := if job.status = .starting then "PRINT_CONFIRMED" else "PRINT_RECOVERED"
      addLog now event s!"Printer confirmed {snap.gcodeState.value} on {p.value}" .info (some id) (some p.value) none
      pure moved) :=
    (transition_writing hG).andThen fun _ => (addLog_writing hG).andThen fun _ => trivial
  refine Txn.Within.ite (fun _ => Txn.Within.andThen (hswap.tryCatch fun e => ?_) fun job => ?_) fun _ => ?_
  · cases e <;> trivial
  · exact flushJob_writing hG fun _ => ⟨rfl, rfl⟩
  · exact flushJob_writing hG fun _ => ⟨rfl, rfl⟩

theorem quarantineOwner_writing : Writing G (quarantineOwner now p snap state id job) :=
  Txn.Within.ite
    (fun _ => (transition_writing hG).andThen fun _ => (flushPrinter_writing hG).andThen fun _ =>
      (addLog_writing hG).andThen fun _ => trivial)
    fun _ => trivial

theorem reportTerminal_writing : Writing G (reportTerminal now p snap state id job) := by
  have hfinished : Writing G (handlePrintFinished now p state id job) :=
    (transition_writing hG).andThen fun _ => Txn.Within.andThen (flushJob_writing hG fun _ => ⟨rfl, rfl⟩) fun _ =>
      (flushPrinter_writing hG).andThen fun _ => addLog_writing hG
  have hfailed : Writing G (handlePrintFailed now p state id job) :=
    (transition_writing hG).andThen fun _ => (flushPrinter_writing hG).andThen fun _ => addLog_writing hG
  exact Txn.Within.ite (fun _ => hfinished.andThen fun _ => trivial) fun _ =>
    Txn.Within.ite (fun _ => hfailed.andThen fun _ => trivial) fun _ => trivial

theorem onStatusUpdate_writing : Writing G (onStatusUpdate now p snap) := by
  refine Txn.Within.select.andThen fun st => ?_
  cases st with
  | none => trivial
  | some st =>
      refine (flushPrinter_writing hG).andThen fun state => ?_
      unfold reportToSlot
      cases state.currentJobId with
      | none => trivial
      | some id =>
          exact getJob_writing trivial fun job => (confirmOwner_writing hG).andThen fun _ =>
            (quarantineOwner_writing hG).andThen fun _ => reportTerminal_writing hG

end callback

theorem markPlateCleared_writing : Writing G (markPlateCleared s now p) := by
  have hresolve : ∀ {k : JobId} {job : Job}, Writing G (resolveAttention now k job) :=
    Txn.Within.ite (fun _ => transition_writing hG) fun _ => trivial
  have hrelease : ∀ {state : PrinterState} {current : Option (JobId × Job)},
      Writing G (releasePlate now p state current) := by
    intro state current
    rcases current with _ | ⟨k, job⟩
    · exact (flushPrinter_writing hG).andThen fun _ => flushPrinter_writing hG
    · exact hresolve.andThen fun _ => (flushPrinter_writing hG).andThen fun _ =>
        Txn.Within.andThen (flushJob_writing hG fun _ => ⟨rfl, rfl⟩) fun _ => flushPrinter_writing hG
  have hclear : ∀ {state : PrinterState} {current : Option (JobId × Job)},
      Writing G (clearPlate now p state current) := hrelease.andThen fun _ =>
    (addLog_writing hG).andThen fun _ => trivial
  refine Txn.Within.ite (fun _ => trivial) fun _ => Txn.Within.select.andThen fun st => ?_
  cases st with
  | none => trivial
  | some st =>
      refine Txn.Within.ite (fun _ => trivial) fun _ => Txn.Within.ite (fun _ => trivial) fun _ => ?_
      cases st.currentJobId with
      | none => exact hclear
      | some k =>
          exact getJob_writing hclear fun job => Txn.Within.ite (fun _ => trivial) fun _ => hclear

section recovery

variable (row : JobId × Job)

theorem recoverRetryable_writing : Writing G (recoverRetryable now row) :=
  (transition_writing hG).andThen fun _ => addLog_writing hG

theorem quarantineInterrupted_writing : Writing G (quarantineInterrupted now row) := by
  refine (transition_writing hG).andThen fun _ => ?_
  cases row.2.assignedPrinter with
  | none => exact addLog_writing hG
  | some q => exact (loadAndUpdatePrinterState_writing hG).andThen fun _ => addLog_writing hG

theorem restorePrinting_writing : Writing G (restorePrinting now row) := by
  obtain ⟨id, job⟩ := row
  unfold restorePrinting
  cases hp : job.assignedPrinter with
  | none =>
      simp only [hp]
      trivial
  | some q =>
      simp only [hp]
      exact (loadAndUpdatePrinterState_writing hG).andThen fun _ => trivial

theorem repairProgress_writing : Writing G (repairProgress row) :=
  Txn.Within.ite (fun _ => Txn.Within.andThen (flushJob_writing hG fun _ => ⟨rfl, rfl⟩) fun _ => trivial) fun _ => trivial

theorem reconcileInterruptedJobs_writing : Writing G (reconcileInterruptedJobs now) := by
  have loop : ∀ {f : JobId × Job → Tx PUnit} {α : Type} {t : Tx α} {q : Db → List (JobId × Job)},
      (∀ row, Writing G (f row)) → Writing G t →
      Writing G (Txn.select q >>= fun rows => rows.forM f >>= fun _ => t) := fun hf ht =>
    Txn.Within.select.andThen fun rows => (Txn.Within.forM hf rows).andThen fun _ => ht
  refine loop (recoverRetryable_writing hG) (loop (quarantineInterrupted_writing hG) ?_)
  refine loop (restorePrinting_writing hG) (Txn.Within.select.andThen fun completed => ?_)
  exact Txn.Within.forM (repairProgress_writing hG) completed

end recovery

end writes

namespace Request

/-- The time that the transaction stamps its UPDATEs with. -/
def time : Request → Option Time
  | reconcileInterruptedJobs now | commitUpload _ now _ _ | cancelJob now _ | cancelPendingJob now _
  | startAnalysis now _ | planSlice now _ _ _ | storeSlice now _ _ _ _ | failJob now _ _
  | storeReslice now _ _ _ _ | abortReslice now _ _ | tryScheduleFallback _ now _ _ | tryDispatch _ now _
  | requestStart now _ _ | confirmStart now _ _ | quarantineStart now _ _ _ | releaseFailed now _ _
  | onStatusUpdate now _ _ | markPlateCleared _ now _ | logAcknowledged now _ => some now
  | checkReslice _ | acknowledgeChecks _ _ => none

/-- **Every transaction but an upload** stays within the bound of its UPDATEs. -/
theorem within {r : Request} (hup : r.uploads = false) (hG : ∀ now, r.time = some now → Bounds now G) :
    Writing G r.program := by
  cases r with
  | commitUpload => cases hup
  | checkReslice => exact checkReslice_writing.void
  | acknowledgeChecks => exact acknowledgeChecks_writing
  | reconcileInterruptedJobs => exact (reconcileInterruptedJobs_writing (hG _ rfl)).void
  | cancelJob => exact (cancelJob_writing (hG _ rfl)).void
  | cancelPendingJob => exact (cancelPendingJob_writing (hG _ rfl)).void
  | startAnalysis => exact (startAnalysis_writing (hG _ rfl)).void
  | planSlice => exact (planSlice_writing (hG _ rfl)).void
  | storeSlice => exact storeSlice_writing (hG _ rfl)
  | failJob => exact failJob_writing (hG _ rfl)
  | storeReslice => exact storeReslice_writing (hG _ rfl)
  | abortReslice => exact abortReslice_writing (hG _ rfl)
  | tryScheduleFallback => exact (tryScheduleFallback_writing (hG _ rfl)).void
  | tryDispatch => exact (tryDispatch_writing (hG _ rfl)).void
  | requestStart => exact requestStart_writing (hG _ rfl)
  | confirmStart => exact confirmStart_writing (hG _ rfl)
  | quarantineStart => exact quarantineStart_writing (hG _ rfl)
  | releaseFailed => exact releaseFailed_writing (hG _ rfl)
  | onStatusUpdate => exact (onStatusUpdate_writing (hG _ rfl)).void
  | markPlateCleared => exact (markPlateCleared_writing (hG _ rfl)).void
  | logAcknowledged => exact addLog_writing (hG _ rfl)

end Request

end BambuBabu
