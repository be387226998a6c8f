import BambuBabu.Floor.Writes

/-!
# `Floor.Chronicle` — what the event log tells about a job

Every entry of the log that names a job stands for one status. Read in order, the entries of a job are a path of the
transition graph from PENDING to the status of its row, with one exception: clearing a plate resolves a quarantined
job to FAILED and names the printer only.

* `Db.Tells` — the log of a database tells the status of a job.
* `Ledger` — the same of a working copy, which may owe the entry of a swap.
* `Request.booked` — **every transaction commits a settled ledger**, whatever the others commit meanwhile.
-/

namespace BambuBabu

open Storage

/-! ## The log of a job -/

/-- The status that an event puts its job into. -/
def eventStatuses : List (String × JobStatus) := [
  ("JOB_UPLOADED", .pending), ("JOB_RECOVERED", .pending),
  ("ANALYSIS_STARTED", .analysing),
  ("ANALYSIS_DONE", .slicing), ("FALLBACK_SCHEDULED", .slicing),
  ("JOB_QUEUED", .queued), ("JOB_REROUTED", .queued), ("FALLBACK_ABORTED", .queued),
  ("UPLOADING", .uploading),
  ("PRINT_START_REQUESTED", .starting),
  ("PRINT_CONFIRMED", .printing), ("PRINT_RECOVERED", .printing),
  ("PRINT_FINISHED", .completed),
  ("PRINT_FAILED", .failed), ("JOB_FAILED", .failed),
  ("JOB_REJECTED", .rejected),
  ("JOB_CANCELLED", .cancelled),
  ("JOB_REQUIRES_ATTENTION", .attention), ("PRINT_START_UNCONFIRMED", .attention),
  ("PRINT_COMPLETION_UNCONFIRMED", .attention)]

def eventStatus (event : String) : Option JobStatus := eventStatuses.lookup event

/-- What the entries of job `k` stand for, the oldest first. -/
def Db.told (d : Db) (k : JobId) : List (Option JobStatus) :=
  (d.logs.filter fun e => e.jobId = some k).map fun e => eventStatus e.event

/-- A path of `ALLOWED_JOB_TRANSITIONS` from PENDING, with its end. -/
inductive Walk : List JobStatus → JobStatus → Prop
  | upload : Walk [.pending] .pending
  | move {trail : List JobStatus} {a b : JobStatus} (h : Walk trail a) (hedge : b ∈ allowedJobTransitions a) :
      Walk (trail ++ [b]) b

/-- Every entry of job `k` stands for a status, and they are a path that ends at `last`. -/
def Db.Recounts (d : Db) (k : JobId) (last : JobStatus) : Prop :=
  ∃ trail, d.told k = trail.map some ∧ Walk trail last

/-- **The log tells the status of job `k`**, up to the resolution of a quarantined job. -/
def Db.Tells (d : Db) (k : JobId) : Prop :=
  d.statusOf k = none ∧ d.told k = [] ∨
  ∃ st last, d.statusOf k = some st ∧ d.Recounts k last ∧ (st = last ∨ st = .failed ∧ last = .attention)

/-- It does so for every job. -/
def Chronicled (d : Db) : Prop := ∀ k, d.Tells k

section told

variable {d : Db} {id k : JobId} {e : LogEntry} {g : Job → Job}

theorem told_other (h : e.jobId ≠ some k) : (d.insertLog e).told k = d.told k := by
  unfold Db.told Db.insertLog
  rw [List.filter_append, List.filter_cons_of_neg (by simpa using h), List.filter_nil, List.append_nil]

theorem told_entry (h : e.jobId = some k) : (d.insertLog e).told k = d.told k ++ [eventStatus e.event] := by
  unfold Db.told Db.insertLog
  rw [List.filter_append, List.filter_cons_of_pos (by simpa using h), List.filter_nil, List.map_append]
  rfl

/-- A write that keeps the status of a row keeps all of them. -/
theorem statusOf_modifyJob (hg : ∀ j, (g j).status = j.status) (k : JobId) :
    (d.modifyJob id g).statusOf k = d.statusOf k := by
  unfold Db.statusOf
  rw [Db.job_modifyJob]
  split
  · rw [Option.map_map]
    congr 1
    funext j
    exact hg j
  · rfl

/-- Only the status and the entries of the job count. -/
theorem Db.Tells.congr {d' : Db} (h : d.Tells k) (hstatus : d'.statusOf k = d.statusOf k)
    (htold : d'.told k = d.told k) : d'.Tells k := by
  unfold Db.Tells Db.Recounts at h ⊢
  rwa [hstatus, htold]

theorem seeded_chronicled : Chronicled Db.seeded := fun _ => .inl ⟨rfl, rfl⟩

end told

/-! ## Ledgers -/

/-- A swap whose entry is still to be written. -/
structure Owed where
  job : JobId
  source : JobStatus
  status : JobStatus

/-- The log tells the status of every job but the one whose entry is owed, and that one's before its swap. -/
structure Ledger (owed : Option Owed) (d : Db) : Prop where
  settled : ∀ k, (∀ o, owed = some o → o.job ≠ k) → d.Tells k
  owing : ∀ o, owed = some o → d.statusOf o.job = some o.status ∧ o.status ∈ allowedJobTransitions o.source ∧
    d.Recounts o.job o.source

namespace Ledger

variable {owed : Option Owed} {o : Owed} {d d' : Db} {id : JobId} {j : Job} {e : LogEntry} {now : Time}

theorem chronicled (h : Ledger none d) : Chronicled d := fun k => h.settled k nofun

theorem of_chronicled (h : Chronicled d) : Ledger none d := ⟨fun k _ => h k, nofun⟩

/-- A write that neither moves a job nor adds an entry of one. -/
theorem keep (h : Ledger owed d) (hstatus : ∀ k, d'.statusOf k = d.statusOf k) (htold : ∀ k, d'.told k = d.told k) :
    Ledger owed d' := by
  refine ⟨fun k hk => (h.settled k hk).congr (hstatus k) (htold k), fun o ho => ?_⟩
  have howing := h.owing o ho
  unfold Db.Recounts at howing ⊢
  rwa [hstatus, htold]

theorem printer (h : Ledger owed d) (p : PrinterID) (f : PrinterState → PrinterState) :
    Ledger owed (d.modifyPrinter p f) :=
  h.keep (fun _ => rfl) fun _ => rfl

/-- **A swap that succeeded** owes its entry. A job that the log tells less of than its row is FAILED, and no edge
    leaves that. -/
theorem swap {new : JobStatus} {err rej : Option String} (h : Ledger none d) (hj : d.job id = some j)
    (hedge : new ∈ allowedJobTransitions j.status) :
    Ledger (some ⟨id, j.status, new⟩) (d.setJob id (j.transitioned now new err rej)) := by
  have hself : (d.setJob id (j.transitioned now new err rej)).statusOf id = some new := by
    unfold Db.statusOf
    rw [Db.job_setJob, if_pos rfl, hj]
    rfl
  constructor
  · intro k hk
    have hne : k ≠ id := fun hc => hk _ rfl hc.symm
    have hstatus : (d.setJob id (j.transitioned now new err rej)).statusOf k = d.statusOf k := by
      unfold Db.statusOf
      rw [Db.job_setJob, if_neg hne]
    exact (h.settled k nofun).congr hstatus rfl
  · rintro o ⟨⟩
    refine ⟨hself, hedge, ?_⟩
    rcases h.settled id nofun with ⟨hnone, -⟩ | ⟨st, last, hst, htrail, hagree⟩
    · rw [Db.statusOf_eq hj] at hnone
      cases hnone
    · cases (Db.statusOf_eq hj).symm.trans hst
      rcases hagree with hsame | ⟨hfailed, -⟩
      · rw [hsame]
        exact htrail
      · rw [hfailed] at hedge
        cases hedge

/-- **Its entry** settles the ledger. -/
theorem pay (h : Ledger (some o) d) (hid : e.jobId = some o.job) (hev : eventStatus e.event = some o.status) :
    Ledger none (d.insertLog e) := by
  refine of_chronicled fun k => ?_
  by_cases hk : o.job = k
  · subst hk
    obtain ⟨hstatus, hedge, trail, htold, hwalk⟩ := h.owing o rfl
    refine .inr ⟨o.status, o.status, hstatus, ⟨trail ++ [o.status], ?_, hwalk.move hedge⟩, .inl rfl⟩
    rw [told_entry hid, htold, hev, List.map_append]
    rfl
  · have htold : (d.insertLog e).told k = d.told k := told_other (by rw [hid]; exact fun hc => hk (Option.some.inj hc))
    exact (h.settled k fun o' ho' => by cases ho'; exact hk).congr rfl htold

/-- The resolution of a quarantined job has no entry. -/
theorem forgive (h : Ledger (some o) d) (hsource : o.source = .attention) (hstatus : o.status = .failed) :
    Ledger none d := by
  refine of_chronicled fun k => ?_
  by_cases hk : o.job = k
  · subst hk
    obtain ⟨hst, -, htrail⟩ := h.owing o rfl
    exact .inr ⟨o.status, o.source, hst, htrail, .inr ⟨hstatus, hsource⟩⟩
  · exact h.settled k fun o' ho' => by cases ho'; exact hk

/-- A new row and its entry. -/
theorem insert (h : Ledger none d) (hj : d.job id = none) (hs : j.status = .pending) (hid : e.jobId = some id)
    (hev : eventStatus e.event = some .pending) : Ledger none ((d.insertJob id j).insertLog e) := by
  refine of_chronicled fun k => ?_
  have htold : ∀ k, (d.insertJob id j).told k = d.told k := fun _ => rfl
  by_cases hk : k = id
  · subst hk
    rcases h.settled k nofun with ⟨-, hempty⟩ | ⟨st, last, hst, -⟩
    · refine .inr ⟨.pending, .pending, ?_, ⟨[.pending], ?_, .upload⟩, .inl rfl⟩
      · unfold Db.statusOf
        rw [Db.job_insertLog, Db.job_insertJob hj, if_pos rfl, Option.map_some, hs]
      · rw [told_entry hid, htold, hempty, hev]
        rfl
    · unfold Db.statusOf at hst
      rw [hj] at hst
      cases hst
  · have hstatus : ((d.insertJob id j).insertLog e).statusOf k = d.statusOf k := by
      unfold Db.statusOf
      rw [Db.job_insertLog, Db.job_insertJob hj, if_neg hk]
    have htold' : ((d.insertJob id j).insertLog e).told k = d.told k := by
      rw [told_other (by rw [hid]; exact fun hc => hk (Option.some.inj hc).symm), htold]
    exact (h.settled k nofun).congr hstatus htold'

end Ledger

/-! ## The operations, under interference -/

/-- The ledger of every commit is settled. -/
abbrev Settling (_ d : Db) : Prop := Chronicled d

/-- The ledger of a view: nothing is owed before the first UPDATE. -/
def Booked (owed : Option Owed) : View Db → Prop
  | .reading _ => owed = none
  | .writing _ d => Ledger owed d

section operations

variable {owed : Option Owed} {o : Owed} {v v' : View Db} {b d : Db} {now : Time} {id : JobId} {p : PrinterID}

theorem Booked.updates (hv : Booked owed v) (hu : v.Updates Settling b d) : Ledger owed d := by
  cases hu with
  | reading hl =>
      cases hv
      exact .of_chronicled hl
  | writing => exact hv

/-- A SELECT. -/
theorem select_booked {α : Type} {q : Db → α} (hv : Booked owed v) :
    (Txn.select q : Tx α).Ensures Settling (fun _ => Booked owed) v := by
  refine .select fun v' d hs => ?_
  cases hs with
  | reading => exact hv
  | writing => exact hv

/-- **The swap** owes an entry; a lost one owes nothing. -/
theorem transition_booked {loaded : Option Job} {expected : List JobStatus} {new : JobStatus}
    {err rej : Option String} (hv : Booked none v) :
    (transitionJobStatus now loaded id expected new err rej).Along Settling
      (fun r v' => (∀ a, r = .ok a → ∃ source ∈ expected, Booked (some ⟨id, source, new⟩) v') ∧
        ∀ e, r = .error e → Booked none v') v := by
  by_cases hedge : ∀ st ∈ expected, new ∈ allowedJobTransitions st
  · obtain ⟨w, k, hprog⟩ := transition_update hedge
    refine Txn.Along.of_update hprog fun b d hu => ?_
    by_cases hj : ∃ j, d.job id = some j ∧ j.status ∈ expected
    · obtain ⟨j, hj, hs⟩ := hj
      rw [transition_run now loaded expected new err rej hedge hj hs]
      exact ⟨fun a _ => ⟨j.status, hs, (hv.updates hu).swap hj (hedge _ hs)⟩, nofun⟩
    · push Not at hj
      obtain ⟨m, hm⟩ := transition_lost (d := d) now loaded expected new err rej hj
      rw [hm]
      refine ⟨fun a ha => ?_, fun _ _ => hv.updates hu⟩
      cases ha
  · have hraise : ∃ e, transitionJobStatus now loaded id expected new err rej = throw e := by
      unfold transitionJobStatus
      rw [if_pos (by simpa using hedge)]
      exact ⟨_, rfl⟩
    obtain ⟨e, he⟩ := hraise
    rw [he]
    refine ⟨fun a ha => ?_, fun _ _ => hv⟩
    cases ha

theorem swap_booked {loaded : Option Job} {expected : List JobStatus} {new : JobStatus} {err rej : Option String}
    (hv : Booked none v) : (transitionJobStatus now loaded id expected new err rej).Ensures Settling
      (fun _ v' => ∃ source ∈ expected, Booked (some ⟨id, source, new⟩) v') v :=
  (transition_booked hv).mono fun _ _ hr a ha => hr.1 a ha

/-- A swap whose loss is caught. -/
theorem trySwap_booked {job : Job} {expected new : JobStatus} {err : Option String} (hv : Booked none v) :
    (trySwap now job id expected new err).Ensures Settling
      (fun swapped v' => if swapped then Booked (some ⟨id, expected, new⟩) v' else Booked none v') v := by
  refine Txn.Along.tryCatch (Q := fun r v' =>
    (∀ swapped, r = .ok swapped → swapped = true ∧ Booked (some ⟨id, expected, new⟩) v') ∧
      ∀ e, r = .error e → Booked none v') ?_ ?_ ?_
  · refine Txn.Along.bind (transition_booked hv) (fun a v' hr => ⟨fun swapped hs => ?_, nofun⟩)
      fun e v' hr => ⟨nofun, fun _ _ => hr.2 e rfl⟩
    cases hs
    obtain ⟨source, hsource, hledger⟩ := hr.1 a rfl
    rw [List.mem_singleton.mp hsource] at hledger
    exact ⟨rfl, hledger⟩
  · rintro swapped v' hr _ ⟨⟩
    obtain ⟨rfl, hledger⟩ := hr.1 swapped rfl
    exact hledger
  · intro e v' hr
    cases e with
    | jobTransitionError m => exact Txn.Ensures.pure (hr.2 _ rfl)
    | _ => exact Txn.Ensures.throw

/-- The entry that is owed. -/
theorem logged_booked {event message : String} {level : LogLevel} {printerId : Option String}
    {extra : Option Analysis} (hv : Booked (some o) v) (hid : o.job = id) (hev : eventStatus event = some o.status) :
    (addLog now event message level (some id) printerId extra).Ensures Settling (fun _ => Booked none) v :=
  .exec fun _ _ hu => (hv.updates hu).pay (congrArg some hid.symm) hev

/-- An entry that names no job. -/
theorem noted_booked {event message : String} {level : LogLevel} {printerId : Option String}
    {extra : Option Analysis} (hv : Booked owed v) :
    (addLog now event message level none printerId extra).Ensures Settling (fun _ => Booked owed) v :=
  .exec fun _ _ hu => (hv.updates hu).keep (fun _ => rfl) fun _ => told_other nofun

/-- A flush of a job. -/
theorem flushJob_booked {loaded new : Job} {columns : Job → Job} (hv : Booked owed v)
    (hcol : ∀ cur, (columns cur).status = cur.status) :
    (flushJob id loaded new columns).Ensures Settling (fun _ => Booked owed) v :=
  .ite (fun _ => .pure hv) fun _ =>
    .bind (.exec fun _ _ hu => (hv.updates hu).keep (statusOf_modifyJob hcol) fun _ => rfl) fun _ _ hv' => .pure hv'

/-- A flush of a printer row. -/
theorem flushPrinter_booked {loaded new : PrinterState} (hv : Booked owed v) :
    (flushPrinter p loaded new).Ensures Settling (fun _ => Booked owed) v :=
  .ite (fun _ => .pure hv) fun _ =>
    .bind (.exec fun _ _ hu => (hv.updates hu).printer p _) fun _ _ hv' => .pure hv'

theorem loadAndUpdatePrinterState_booked {set : PrinterState → PrinterState} (hv : Booked owed v) :
    (loadAndUpdatePrinterState now p set).Ensures Settling (fun _ => Booked owed) v :=
  .bind (select_booked hv) fun st _ hv' => by
    cases st with
    | none => exact .pure hv'
    | some st => exact .bind (flushPrinter_booked hv') fun _ _ hv'' => .pure hv''

end operations

/-! ## The transactions -/

section transactions

variable {s : Settings} {now : Time} {id : JobId} {p : PrinterID} {d : Db} {v : View Db}

/-- Most blocks read a job and return when there is none. -/
theorem block_booked {α : Type} {f : Option Job → Tx α}
    (hnone : ∀ v, Booked none v → (f none).Ensures Settling (fun _ => Booked none) v)
    (hsome : ∀ j v, Booked none v → (f (some j)).Ensures Settling (fun _ => Booked none) v) (hv : Booked none v) :
    (getJob id >>= f).Ensures Settling (fun _ => Booked none) v :=
  .bind (select_booked hv) fun job v' hv' => by
    cases job with
    | none => exact hnone v' hv'
    | some j => exact hsome j v' hv'

theorem reading_booked : Booked none (.reading d) := rfl

theorem cancelJob_booked : (cancelJob now id).Ensures Settling (fun _ => Booked none) (.reading d) := by
  refine block_booked (fun _ _ => .throw) (fun job v hv => ?_) reading_booked
  refine .bind (P := fun _ v' => ∃ source ∈ cancellable, Booked (some ⟨id, source, .cancelled⟩) v') ?_
    fun _ v' ⟨_, _, hv'⟩ => .bind (logged_booked hv' rfl rfl) fun _ _ h => .pure h
  refine Txn.Along.tryCatch (swap_booked hv) (fun _ _ hr => hr) fun e v' _ => ?_
  cases e with
  | jobTransitionError m =>
      exact Txn.Ensures.bind (P := fun _ _ => True) (.select fun _ _ _ => trivial) fun _ _ _ => .throw
  | _ => exact Txn.Ensures.throw

theorem cancelPendingJob_booked : (cancelPendingJob now id).Ensures Settling (fun _ => Booked none) (.reading d) :=
  block_booked (fun _ hv => .pure hv) (fun _ _ hv => .ite (fun _ => .pure hv) fun _ =>
    .bind (swap_booked hv) fun _ _ ⟨_, _, hv'⟩ => .bind (logged_booked hv' rfl rfl) fun _ _ h => .pure h) reading_booked

theorem startAnalysis_booked : (startAnalysis now id).Ensures Settling (fun _ => Booked none) (.reading d) :=
  .bind (swap_booked reading_booked) fun _ _ ⟨_, _, hv⟩ => .bind (logged_booked hv rfl rfl) fun _ _ h => .pure h

theorem planSlice_booked {analysis : Analysis} {choice : Option PrinterID × Option String} :
    (planSlice now id analysis choice).Ensures Settling (fun _ => Booked none) (.reading d) := by
  refine block_booked (fun _ hv => .pure hv) (fun job v hv => .ite (fun _ => .pure hv) fun _ => ?_) reading_booked
  obtain ⟨_ | p, _ | rejection⟩ := choice
  · exact .throw
  · exact .bind (swap_booked hv) fun _ _ ⟨_, _, hv'⟩ => .bind (logged_booked hv' rfl rfl) fun _ _ h => .pure h
  · refine .bind (flushJob_booked hv fun _ => rfl) fun _ v₁ hv₁ => ?_
    exact .bind (swap_booked hv₁) fun _ _ ⟨_, _, hv₂⟩ => .bind (logged_booked hv₂ rfl rfl) fun _ _ h => .pure h
  · exact .bind (swap_booked hv) fun _ _ ⟨_, _, hv'⟩ => .bind (logged_booked hv' rfl rfl) fun _ _ h => .pure h

theorem storeSlice_booked {path : String} {est : Option Nat} :
    (storeSlice now id p path est).Ensures Settling (fun _ => Booked none) (.reading d) := by
  refine block_booked (fun _ hv => .pure hv) (fun job v hv => .ite (fun _ => .pure hv) fun _ => ?_) reading_booked
  refine .bind (flushJob_booked hv fun _ => rfl) fun _ v₁ hv₁ => ?_
  exact .bind (swap_booked hv₁) fun _ _ ⟨_, _, hv₂⟩ => logged_booked hv₂ rfl rfl

theorem storeReslice_booked {path : String} {est : Option Nat} :
    (storeReslice now id p path est).Ensures Settling (fun _ => Booked none) (.reading d) := by
  refine block_booked (fun _ hv => .pure hv) (fun job v hv => .ite (fun _ => .pure hv) fun _ => ?_) reading_booked
  refine .bind (flushJob_booked hv fun _ => rfl) fun _ v₁ hv₁ => ?_
  refine .bind (flushJob_booked hv₁ fun _ => rfl) fun _ v₂ hv₂ => ?_
  exact .bind (swap_booked hv₂) fun _ _ ⟨_, _, hv₃⟩ => logged_booked hv₃ rfl rfl

theorem failJob_booked {message : String} :
    (failJob now id message).Ensures Settling (fun _ => Booked none) (.reading d) := by
  refine block_booked (fun _ hv => .pure hv) (fun job v hv => .ite (fun _ => .pure hv) fun _ => ?_) reading_booked
  refine .bind (trySwap_booked hv) fun swapped v' hv' => .ite (fun hs => ?_) fun hs => ?_
  · rw [if_pos hs] at hv'
    exact logged_booked hv' rfl rfl
  · rw [if_neg hs] at hv'
    exact .pure hv'

theorem checkReslice_booked : (checkReslice id).Ensures Settling (fun _ => Booked none) (.reading d) :=
  block_booked (fun _ hv => .pure hv) (fun _ _ hv => .ite (fun _ => .pure hv) fun _ => .pure hv) reading_booked

theorem abortReslice_booked {exc : String} :
    (abortReslice now id exc).Ensures Settling (fun _ => Booked none) (.reading d) :=
  block_booked (fun _ hv => .pure hv) (fun _ _ hv => .ite
    (fun _ => .bind (swap_booked hv) fun _ _ ⟨_, _, hv'⟩ => logged_booked hv' rfl rfl) fun _ => .pure hv) reading_booked

theorem reserveCandidate_booked {target : PrinterID} {reserved : JobId → Bool} (rows : List (JobId × Job))
    (hv : Booked none v) :
    (reserveCandidate s now target reserved rows).Ensures Settling (fun _ => Booked none) v := by
  induction rows generalizing v with
  | nil => exact .pure hv
  | cons row rest ih =>
      obtain ⟨k, job⟩ := row
      unfold reserveCandidate
      refine .ite (fun _ => ih hv) fun _ => ?_
      cases job.assignedPrinter with
      | none => exact .throw
      | some source =>
          refine .bind (select_booked hv) fun st v' hv' => .ite (fun _ => ih hv') fun _ => ?_
          refine .bind (trySwap_booked hv') fun swapped v'' hv'' => .ite (fun hs => ?_) fun hs => ?_
          · rw [if_pos hs] at hv''
            exact .bind (logged_booked hv'' rfl rfl) fun _ _ h => .pure h
          · rw [if_neg hs] at hv''
            exact ih hv''

theorem tryScheduleFallback_booked {target : PrinterID} {reserved : JobId → Bool} :
    (tryScheduleFallback s now target reserved).Ensures Settling (fun _ => Booked none) (.reading d) := by
  refine .ite (fun _ => .pure reading_booked) fun _ => .bind (select_booked reading_booked) fun st v₁ hv₁ => ?_
  cases st with
  | none => exact .pure hv₁
  | some st =>
      exact .ite (fun _ => .pure hv₁) fun _ => .bind (select_booked hv₁) fun rows _ hv₂ =>
        reserveCandidate_booked rows hv₂

theorem tryDispatch_booked : (tryDispatch s now p).Ensures Settling (fun _ => Booked none) (.reading d) := by
  refine .ite (fun _ => .pure reading_booked) fun _ => .bind (select_booked reading_booked) fun st v₁ hv₁ => ?_
  cases st with
  | none => exact .pure hv₁
  | some st =>
      refine .ite (fun _ => .pure hv₁) fun _ => .bind (select_booked hv₁) fun row v₂ hv₂ => ?_
      obtain _ | ⟨k, job⟩ := row
      · exact .pure hv₂
      · refine .bind (trySwap_booked hv₂) fun swapped v₃ hv₃ => .ite (fun hs => ?_) fun hs => ?_
        · rw [if_pos hs] at hv₃
          refine .bind (flushPrinter_booked hv₃) fun _ v₄ hv₄ => ?_
          exact .bind (logged_booked hv₄ rfl rfl) fun _ _ h => .pure h
        · rw [if_neg hs] at hv₃
          exact .pure hv₃

theorem requestStart_booked : (requestStart now id p).Ensures Settling (fun _ => Booked none) (.reading d) :=
  .bind (swap_booked reading_booked) fun _ _ ⟨_, _, hv⟩ => logged_booked hv rfl rfl

theorem confirmStart_booked : (confirmStart now id p).Ensures Settling (fun _ => Booked none) (.reading d) := by
  refine block_booked (fun _ hv => .pure hv) (fun job v hv => .ite (fun _ => ?_) fun _ =>
    .ite (fun _ => .pure hv) fun _ => .bind (loadAndUpdatePrinterState_booked hv) fun _ _ h => .pure h) reading_booked
  refine .bind (swap_booked hv) fun _ v₁ ⟨_, _, hv₁⟩ => .bind (logged_booked hv₁ rfl rfl) fun _ v₂ hv₂ => ?_
  exact .bind (loadAndUpdatePrinterState_booked hv₂) fun _ _ h => .pure h

theorem quarantineStart_booked {exc : Exc} :
    (quarantineStart now id p exc).Ensures Settling (fun _ => Booked none) (.reading d) := by
  refine block_booked (fun _ hv => .pure hv) (fun job v hv => .ite (fun _ => ?_) fun _ => .pure hv) reading_booked
  refine .bind (swap_booked hv) fun _ v₁ ⟨_, _, hv₁⟩ => ?_
  exact .bind (loadAndUpdatePrinterState_booked hv₁) fun _ _ hv₂ => logged_booked hv₂ rfl rfl

theorem releaseFailed_booked : (releaseFailed now id p).Ensures Settling (fun _ => Booked none) (.reading d) := by
  refine .bind (select_booked reading_booked) fun st v₁ hv₁ => .bind (select_booked hv₁) fun job v₂ hv₂ => ?_
  cases st with
  | none => exact .pure hv₂
  | some st =>
      cases job with
      | none => exact .pure hv₂
      | some job =>
          exact .ite (fun _ => .bind (flushPrinter_booked hv₂) fun _ _ h => .pure h) fun _ => .pure hv₂

section callback

variable {snap : Snapshot} {state : PrinterState} {job : Job}

/-- The swap and its entry are caught together: what a lost swap leaves is settled. -/
theorem confirmOwner_booked (hv : Booked none v) :
    (confirmOwner now p snap id job).Ensures Settling (fun _ => Booked none) v := by
  refine .ite (fun _ => .ite (fun hs => ?_) fun _ => flushJob_booked hv fun _ => rfl) fun _ => .pure hv
  refine .bind (P := fun _ => Booked none) ?_ fun job' v' hv' => flushJob_booked hv' fun _ => rfl
  refine Txn.Along.tryCatch (Q := fun _ => Booked none) ?_ (fun _ _ h _ _ => h) ?_
  · refine Txn.Along.bind (transition_booked hv) ?_ fun e v' hr => hr.2 e rfl
    intro moved v' hr b d hu
    obtain ⟨source, -, hledger⟩ := hr.1 moved rfl
    refine (hledger.updates hu).pay rfl ?_
    show eventStatus (if job.status = .starting then _ else _) = _
    split <;> rfl
  · intro e v' hv'
    cases e with
    | jobTransitionError m => exact Txn.Ensures.pure hv'
    | _ => exact Txn.Ensures.throw

theorem quarantineOwner_booked (hv : Booked none v) :
    (quarantineOwner now p snap state id job).Ensures Settling (fun _ => Booked none) v := by
  refine .ite (fun _ => ?_) fun _ => .pure hv
  refine .bind (swap_booked hv) fun _ v₁ ⟨_, _, hv₁⟩ => .bind (flushPrinter_booked hv₁) fun _ v₂ hv₂ => ?_
  exact .bind (logged_booked hv₂ rfl rfl) fun _ _ h => .pure h

theorem reportTerminal_booked (hv : Booked none v) :
    (reportTerminal now p snap state id job).Ensures Settling (fun _ => Booked none) v := by
  refine .ite (fun _ => ?_) fun _ => .ite (fun _ => ?_) fun _ => .pure hv
  · refine .bind (P := fun _ => Booked none) ?_ fun _ _ h => .pure h
    refine .bind (swap_booked hv) fun _ v₁ ⟨_, _, hv₁⟩ => .bind (flushJob_booked hv₁ fun _ => rfl) fun _ v₂ hv₂ => ?_
    exact .bind (flushPrinter_booked hv₂) fun _ _ hv₃ => logged_booked hv₃ rfl rfl
  · refine .bind (P := fun _ => Booked none) ?_ fun _ _ h => .pure h
    refine .bind (swap_booked hv) fun _ v₁ ⟨_, _, hv₁⟩ => ?_
    exact .bind (flushPrinter_booked hv₁) fun _ _ hv₂ => logged_booked hv₂ rfl rfl

theorem onStatusUpdate_booked :
    (onStatusUpdate now p snap).Ensures Settling (fun _ => Booked none) (.reading d) := by
  refine .bind (select_booked reading_booked) fun st v₁ hv₁ => ?_
  cases st with
  | none => exact .pure hv₁
  | some st =>
      refine .bind (flushPrinter_booked hv₁) fun st' v₂ hv₂ => ?_
      unfold reportToSlot
      cases st'.currentJobId with
      | none => exact .pure hv₂
      | some k =>
          exact block_booked (fun _ hv => .pure hv) (fun job v hv => .bind (confirmOwner_booked hv) fun _ _ hv₄ =>
            .bind (quarantineOwner_booked hv₄) fun _ _ hv₅ => reportTerminal_booked hv₅) hv₂

end callback

/-- A quarantined job is resolved without an entry of its own. -/
theorem resolveAttention_booked {job : Job} (hv : Booked none v) :
    (resolveAttention now id job).Ensures Settling (fun _ => Booked none) v := by
  refine .ite (fun _ => Txn.Ensures.mono (fun _ v' hr => ?_) (swap_booked hv)) fun _ => .pure hv
  obtain ⟨source, hsource, hledger⟩ := hr
  cases v' with
  | reading d => cases hledger
  | writing b d => exact Ledger.forgive hledger (List.mem_singleton.mp hsource) rfl

theorem clearPlate_booked {state : PrinterState} {current : Option (JobId × Job)} (hv : Booked none v) :
    (clearPlate now p state current).Ensures Settling (fun _ => Booked none) v := by
  refine .bind (P := fun _ => Booked none) ?_ fun _ _ hv' => .bind (noted_booked hv') fun _ _ h => .pure h
  obtain _ | ⟨k, job⟩ := current
  · exact .bind (flushPrinter_booked hv) fun _ _ hv₁ => flushPrinter_booked hv₁
  · refine .bind (resolveAttention_booked hv) fun _ v₁ hv₁ => .bind (flushPrinter_booked hv₁) fun _ v₂ hv₂ => ?_
    exact .bind (flushJob_booked hv₂ fun _ => rfl) fun _ _ hv₃ => flushPrinter_booked hv₃

theorem markPlateCleared_booked :
    (markPlateCleared s now p).Ensures Settling (fun _ => Booked none) (.reading d) := by
  refine .ite (fun _ => .throw) fun _ => .bind (select_booked reading_booked) fun st v₁ hv₁ => ?_
  cases st with
  | none => exact .throw
  | some st =>
      refine .ite (fun _ => .pure hv₁) fun _ => .ite (fun _ => .throw) fun _ => ?_
      cases st.currentJobId with
      | none => exact clearPlate_booked hv₁
      | some k =>
          exact block_booked (fun _ hv => clearPlate_booked hv) (fun _ _ hv => .ite (fun _ => .throw) fun _ =>
            clearPlate_booked hv) hv₁

theorem acknowledgeChecks_booked :
    (acknowledgeChecks s p).Ensures Settling (fun _ => Booked none) (.reading d) := by
  refine .ite (fun _ => .throw) fun _ => .bind (select_booked reading_booked) fun st v₁ hv₁ => ?_
  cases st with
  | none => exact .throw
  | some st => exact .ite (fun _ => .throw) fun _ => .ite (fun _ => .throw) fun _ => .pure hv₁

theorem commitUpload_booked {form : UploadForm} :
    (commitUpload s now id form).Ensures Settling (fun _ => Booked none) (.reading d) := by
  refine Txn.Along.of_update rfl fun b d' hu a ha => ?_
  have hledger := reading_booked.updates hu
  cases hj : d'.job id with
  | some j =>
      obtain ⟨d'', hrun⟩ : ∃ d'', (commitUpload s now id form).run d' = (.error _, d'') := commitUpload_taken hj
      rw [hrun] at ha
      cases ha
  | none =>
      rw [commitUpload_new hj]
      exact hledger.insert hj rfl rfl rfl

end transactions

/-! ## Restart recovery -/

section recovery

variable {now : Time} {d : Db} {v : View Db} (row : JobId × Job)

theorem recoverRetryable_booked (hv : Booked none v) :
    (recoverRetryable now row).Ensures Settling (fun _ => Booked none) v :=
  .bind (swap_booked hv) fun _ _ ⟨_, _, hv'⟩ => logged_booked hv' rfl rfl

theorem quarantineInterrupted_booked (hv : Booked none v) :
    (quarantineInterrupted now row).Ensures Settling (fun _ => Booked none) v := by
  refine .bind (swap_booked hv) fun _ v₁ ⟨_, _, hv₁⟩ => ?_
  cases row.2.assignedPrinter with
  | none => exact logged_booked hv₁ rfl rfl
  | some p => exact .bind (loadAndUpdatePrinterState_booked hv₁) fun _ _ hv₂ => logged_booked hv₂ rfl rfl

theorem restorePrinting_booked (hv : Booked none v) :
    (restorePrinting now row).Ensures Settling (fun _ => Booked none) v := by
  obtain ⟨id, job⟩ := row
  unfold restorePrinting
  dsimp only
  cases job.assignedPrinter with
  | none => exact .pure hv
  | some p => exact .bind (loadAndUpdatePrinterState_booked hv) fun _ _ h => .pure h

theorem repairProgress_booked (hv : Booked none v) :
    (repairProgress row).Ensures Settling (fun _ => Booked none) v :=
  .ite (fun _ => .bind (flushJob_booked hv fun _ => rfl) fun _ _ h => .pure h) fun _ => .pure hv

/-- A loop. -/
theorem loop_booked {f : JobId × Job → Tx PUnit} {rows : List (JobId × Job)}
    (hf : ∀ row v, Booked none v → (f row).Ensures Settling (fun _ => Booked none) v) (hv : Booked none v) :
    (rows.forM f).Ensures Settling (fun _ => Booked none) v :=
  Txn.Ensures.forM (I := Booked none) (fun row _ => hf row) hv

theorem reconcileInterruptedJobs_booked :
    (reconcileInterruptedJobs now).Ensures Settling (fun _ => Booked none) (.reading d) := by
  refine .bind (select_booked reading_booked) fun _ _ hv₁ => ?_
  refine .bind (loop_booked (fun row _ => recoverRetryable_booked row) hv₁) fun _ _ hv₂ => ?_
  refine .bind (select_booked hv₂) fun _ _ hv₃ => ?_
  refine .bind (loop_booked (fun row _ => quarantineInterrupted_booked row) hv₃) fun _ _ hv₄ => ?_
  refine .bind (select_booked hv₄) fun _ _ hv₅ => ?_
  refine .bind (loop_booked (fun row _ => restorePrinting_booked row) hv₅) fun _ _ hv₆ => ?_
  exact .bind (select_booked hv₆) fun _ _ hv₇ => loop_booked (fun row _ => repairProgress_booked row) hv₇

end recovery

/-! ## All of them -/

namespace Request

/-- **Every transaction settles its ledger.** -/
theorem booked (r : Request) (d : Db) : r.program.Ensures Settling (fun _ => Booked none) (.reading d) := by
  cases r with
  | reconcileInterruptedJobs => exact reconcileInterruptedJobs_booked.void
  | commitUpload => exact commitUpload_booked
  | cancelJob => exact cancelJob_booked.void
  | cancelPendingJob => exact cancelPendingJob_booked.void
  | startAnalysis => exact startAnalysis_booked.void
  | planSlice => exact planSlice_booked.void
  | storeSlice => exact storeSlice_booked
  | failJob => exact failJob_booked
  | checkReslice => exact checkReslice_booked.void
  | storeReslice => exact storeReslice_booked
  | abortReslice => exact abortReslice_booked
  | tryScheduleFallback => exact tryScheduleFallback_booked.void
  | tryDispatch => exact tryDispatch_booked.void
  | requestStart => exact requestStart_booked
  | confirmStart => exact confirmStart_booked
  | quarantineStart => exact quarantineStart_booked
  | releaseFailed => exact releaseFailed_booked
  | onStatusUpdate => exact onStatusUpdate_booked.void
  | markPlateCleared => exact markPlateCleared_booked.void
  | acknowledgeChecks => exact acknowledgeChecks_booked
  | logAcknowledged => exact noted_booked reading_booked

/-- Clients that issue these requests keep the log in step with the statuses. -/
theorem chronicling_clients : Clients program Settling Settling where
  grows _ _ _ _ hG := hG
  stays _ _ h := h
  idle _ h := h
  keeps r d _ := Txn.Ensures.mono (fun _ v hv => by
    cases v with
    | reading => trivial
    | writing b d => exact Ledger.chronicled hv) (r.booked d)

end Request

end BambuBabu
