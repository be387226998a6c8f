import BambuBabu.Service.Threads
import BambuBabu.Service.Workers

/-!
# `Correctness.AmbiguousStart` — a start that was handed over

Once `client.publish` was called with the start command, the printer may act on it, whatever the call returned.
The client recognises one such case by the text of an exception: a QoS 1 acknowledgement that did not come. A
return code other than success and an exception of `wait_for_publish` pass for a start that never happened;
so does a swap to PRINTING that a status callback has made first.

* `clean_failure` — the failing handoff: a rejected publish fails the job and releases its printer.
* `Handing` — where the worker is when none of this happens.
* `never_clean_failure` — **the theorem**: then it never fails the job and never releases the printer.
-/

namespace BambuBabu

open Storage Runs

/-- The worker `h` has called `client.publish` with the start command of its job. -/
structure Published (s : Service) (h : Handoff) : Prop where
  reach : service.Reach always s
  worker : h ∈ s.handoffs
  published : ∃ baseline, h.pc = .published baseline

/-- The worker from there on, and threads that run status callbacks. -/
def handoffRace {κ : Type} (s : Service) (h : Handoff) (o : PublishOutcome) (waited : Except Exc Unit)
    (clock : Nat → Time) (calls : κ → List StatusCall) : Sessions (Option κ) Db Exc :=
  race s.db (handedOver clock h.id h.printer o waited) calls

/-- The statuses that a handed-over job may be left in: ATTENTION, and what a printer report sets. -/
def settledStatuses : List JobStatus := [.attention, .printing, .completed, .failed]

/-- The slot of the printer, which was `own`, is not released; the worker does not fail its job, and leaves it
    in a settled status. -/
structure NotReleased {κ : Type} [DecidableEq κ] (id : JobId) (p : PrinterID) (own : Option JobId)
    (f : Sessions (Option κ) Db Exc) : Prop where
  slot : (f.db.printers p).currentJobId = own
  unfailed : ∀ f', f.step none = some f' → f'.db.statusOf id = some .failed → f.db.statusOf id = some .failed
  ends : f.proc none = .ended → ∃ st ∈ settledStatuses, f.db.statusOf id = some st

/-- How the wait for a report may end. -/
def WaitEnds (waited : Except Exc Unit) : Prop :=
  ∃ (c : BambuPrinter) (cfg : Settings) (baseline : Nat) (timedOut : Bool),
    c.startWait cfg baseline timedOut = some waited

/-- No handoff is released, whatever Paho answers and the printer reports. -/
def NeverCleanFailure : Prop :=
  ∀ (κ : Type) [DecidableEq κ] s h o waited clock (calls : κ → List StatusCall) f, Published s h →
    WaitEnds waited → sessions.Path always (handoffRace s h o waited clock calls) f →
      NotReleased h.id h.printer (s.db.printers h.printer).currentJobId f

/-- Paho accepted the message, and `wait_for_publish` returned; or it raised what the client takes for a
    missing acknowledgement. -/
def PublishOutcome.accepted : PublishOutcome → Prop
  | .acknowledged | .unacknowledged => True
  | .rejected _ => False
  | .waitRaised e => (classifyPublish e).isAmbiguousStart = true

/-- An accepted message leads on, or to the quarantine. -/
theorem PublishOutcome.accepted.error {o : PublishOutcome} {e : Exc} (h : o.accepted)
    (he : startPublished o = .error e) : e.isAmbiguousStart = true := by
  cases o with
  | acknowledged => cases he
  | unacknowledged =>
      have hmissing : startPublished .unacknowledged = .error (.printStartUnconfirmed
          ("MQTT start command may have reached the printer, but its QoS 1 " ++
            "acknowledgement was not received")) := by decide +kernel
      cases hmissing.symm.trans he
      rfl
  | rejected => exact h.elim
  | waitRaised exc =>
      cases he
      exact h

/-- What a report may do to a job that was handed over. -/
def reportEdge (a b : JobStatus) : Prop := a ∈ awaitingReport ∧ b ∈ settledStatuses

theorem reportEdge_trans (a b c : JobStatus) (h : reportEdge a b) (h' : reportEdge b c) : reportEdge a c :=
  ⟨h.1, h'.2⟩

/-- Every snapshot keeps to that. -/
theorem permits_reportEdge (snap : Snapshot) : snap.Permits True reportEdge where
  start _ st hst := ⟨by rcases hst with rfl | rfl <;> decide, by decide⟩
  idle _ := ⟨trivial, by decide, by decide⟩
  finish _ := ⟨trivial, fun _ hst => ⟨hst, by decide⟩⟩
  fail _ := ⟨trivial, fun _ hst => ⟨hst, by decide⟩⟩

variable {clock : Nat → Time} {id : JobId} {p : PrinterID} {d d' : Db} {proc : Proc Db Exc}

/-- The job is in one of these statuses. -/
def Db.among (d : Db) (id : JobId) (statuses : List JobStatus) : Prop :=
  ∃ st ∈ statuses, d.statusOf id = some st

/-- Reports keep a job among the statuses they lead to. -/
theorem Writes.among {statuses : List JobStatus} (h : Writes True reportEdge d d') (hd : d.among id statuses)
    (hsub : settledStatuses ⊆ statuses) : d'.among id statuses := by
  obtain ⟨st, hst, hd⟩ := hd
  rcases h.status id with hsame | ⟨a, b, -, hb, -, hsettled⟩
  · exact ⟨st, hst, hsame.trans hd⟩
  · exact ⟨b, hsub hsettled, hb⟩

/-- A change that keeps the job and the slot. -/
def KeepsJob (id : JobId) (p : PrinterID) (d d' : Db) : Prop :=
  d'.statusOf id = d.statusOf id ∧ (d'.printers p).currentJobId = (d.printers p).currentJobId

theorem KeepsJob.refl (d : Db) : KeepsJob id p d d := ⟨rfl, rfl⟩

theorem KeepsJob.trans (a b c : Db) (h : KeepsJob id p a b) (h' : KeepsJob id p b c) : KeepsJob id p a c :=
  ⟨h'.1.trans h.1, h'.2.trans h.2⟩

/-- A worker that has not read STARTING leaves its job and the slot alone, and its transaction succeeds. -/
theorem confirmLoaded_within {now : Time} {job : Job} (hs : job.status ≠ .starting) :
    (confirmLoaded now id p job).Within (KeepsJob id p) fun r => r = .ok () := by
  by_cases hp : job.status = .printing
  · rw [confirmLoaded_printing hp]
    intro d
    refine Txn.Within.bind (Q := fun r => ∃ a, r = .ok a) ?_ (fun _ _ => rfl) fun e ⟨a, ha⟩ => by cases ha
    refine Txn.Within.bind (Q := fun r => ∃ a, r = .ok a) ?_ (fun a _ => ⟨_, rfl⟩) fun e ⟨a, ha⟩ => by cases ha
    refine Txn.Within.ite (fun _ => ⟨_, rfl⟩) fun _ => ⟨fun d' => ⟨rfl, ?_⟩, fun _ => ⟨_, rfl⟩⟩
    rw [Db.printers_modifyPrinter, if_pos rfl]
    exact if_pos rfl
  · unfold confirmLoaded
    rw [if_neg hs, if_pos hp]
    rfl

section positions

variable (clock : Nat → Time) (id : JobId) (p : PrinterID)

/-- Where the worker is while no swap of its confirming transaction is lost, and what it may rely on. -/
inductive Handing (d : Db) : Proc Db Exc → Prop
  | begin : Handing d (confirmThread clock id p)
  | swap {job : Job} (hs : job.status = .starting) (hd : d.statusOf id = some .starting) :
      Handing d (.tx (confirmLoaded (clock 0) id p job) (confirmed clock id p))
  | ambiguous {exc : Exc} : Handing d (.tx (quarantineStart (clock 1) id p exc) fun _ => .ended)
  | quarantine {job : Job} {exc : Exc} (hs : job.status = .starting) :
      Handing d (.tx (quarantineLoaded (clock 1) id p exc job) fun _ => .ended)
  | finishing {t : Txn Db Exc Unit} {next : Except Exc Unit → Proc Db Exc} (hd : d.among id settledStatuses)
      (ht : t.Within (KeepsJob id p) fun r => r = .ok ()) (hnext : next (.ok ()) = .ended) :
      Handing d (.tx t next)
  | ended (hd : d.among id settledStatuses) : Handing d .ended

end positions

/-- A callback that does not move the job under a pending swap leaves the worker where it is. -/
theorem Handing.stable (h : Handing clock id p d proc) (hw : Writes True reportEdge d d')
    (hkept : AtSwap id p proc → d'.statusOf id = d.statusOf id) : Handing clock id p d' proc := by
  cases h with
  | begin => exact .begin
  | swap hs hd => exact .swap hs ((hkept ⟨_, _, _, rfl, hs⟩).trans hd)
  | ambiguous => exact .ambiguous
  | quarantine hs => exact .quarantine hs
  | finishing hd ht hnext => exact .finishing (hw.among hd (List.Subset.refl _)) ht hnext
  | ended hd => exact .ended (hw.among hd (List.Subset.refl _))

/-- The quarantine, from its first UPDATE on: a job that is still STARTING is set to ATTENTION and its plate is
    blocked; nothing is written for any other. -/
theorem quarantineLoaded_commit (now : Time) (id : JobId) (p : PrinterID) (exc : Exc) (d : Db) {job : Job}
    (hs : job.status = .starting) :
    ∃ r d', (quarantineLoaded now id p exc job).commit d = (r, d') ∧
      ((d.statusOf id = some .starting ∧ d'.statusOf id = some .attention ∧
          (d'.printers p).currentJobId = some id) ∨
        (d.statusOf id ≠ some .starting ∧ d' = d)) := by
  by_cases hd : d.statusOf id = some .starting
  · obtain ⟨j, hj, hst⟩ := Option.map_eq_some_iff.mp hd
    obtain ⟨e, hrun⟩ := quarantineLoaded_run now p exc hs hj hst
    refine ⟨_, _, Txn.commit_of_ok hrun, .inl ⟨hd, ?_, ?_⟩⟩
    · simp [Db.statusOf, hj]
    · simp [PrinterState.blocked]
  · have hno : ∀ j, d.job id = some j → j.status ∉ [JobStatus.starting] := fun j hj hst =>
      hd ((Db.statusOf_eq hj).trans (congrArg some (List.mem_singleton.mp hst)))
    obtain ⟨m, hrun⟩ := transition_lost now (some job) [.starting] .attention (some exc.str) none hno
    have hload : (quarantineLoaded now id p exc job).run d = (.error (.jobTransitionError m), d) := by
      unfold quarantineLoaded
      rw [if_pos hs, Txn.run_bind_of_error hrun]
    exact ⟨_, _, Txn.commit_of_error hload, .inr ⟨hd, rfl⟩⟩

section steps

variable {κ : Type} [DecidableEq κ] {c c' : Blocks (Option κ) Db Exc} {i : Option κ} {own : Option JobId}

/-- A job that was started and is not STARTING is settled. -/
theorem among_settled (h : d.among id startedStatuses) (hne : d.statusOf id ≠ some .starting) :
    d.among id settledStatuses := by
  obtain ⟨st, hst, hd⟩ := h
  refine ⟨st, ?_, hd⟩
  rw [hd] at hne
  revert hst hne
  cases st <;> decide

/-- What the worker may do to its job. -/
def workerStatuses : List JobStatus := [.printing, .attention]

/-- The worker leaves the slot alone, and leaves its job alone or moves it to PRINTING or ATTENTION. -/
structure Careful (id : JobId) (p : PrinterID) (d d' : Db) : Prop where
  slot : (d'.printers p).currentJobId = (d.printers p).currentJobId
  status : d'.statusOf id = d.statusOf id ∨ d'.among id workerStatuses

theorem Careful.refl (d : Db) : Careful id p d d := ⟨rfl, .inl rfl⟩

/-- The other statuses are not of its making. -/
theorem Careful.status_was (h : Careful id p d d') {st : JobStatus} (hst : st ∉ workerStatuses)
    (hd : d'.statusOf id = some st) : d.statusOf id = some st := by
  rcases h.status with hsame | ⟨st', hmem, hd'⟩
  · exact hsame.symm.trans hd
  · cases Option.some.inj (hd'.symm.trans hd)
    exact absurd hmem hst

theorem Careful.started (h : Careful id p d d') (hd : d.among id startedStatuses) :
    d'.among id startedStatuses := by
  rcases h.status with hsame | ⟨st, hmem, hd'⟩
  · obtain ⟨st, hst, hd⟩ := hd
    exact ⟨st, hst, hsame.trans hd⟩
  · have hsub : workerStatuses ⊆ startedStatuses := by decide
    exact ⟨st, hsub hmem, hd'⟩

/-- The row that a block loads for such a job. -/
theorem Db.among.loaded {statuses : List JobStatus} (h : d.among id statuses) :
    ∃ job, d.job id = some job ∧ d.statusOf id = some job.status ∧ job.status ∈ statuses := by
  obtain ⟨st, hst, hd⟩ := h
  obtain ⟨job, hj, rfl⟩ := Option.map_eq_some_iff.mp hd
  exact ⟨job, hj, hd, hst⟩

/-- **The worker's next step**, from each of its positions. -/
theorem Handing.step (h : Handing clock id p c.db (c.proc none)) (hstarted : c.db.among id startedStatuses)
    (hown : c.db.statusOf id = some .starting → (c.db.printers p).currentJobId = some id)
    (hs : c.step none = some c') :
    Handing clock id p c'.db (c'.proc none) ∧ Careful id p c.db c'.db := by
  generalize hproc : c.proc none = proc at h
  cases h with
  | begin =>
      cases (Blocks.step_read hproc).symm.trans hs
      refine ⟨?_, .refl _⟩
      simp only [Function.update_self]
      obtain ⟨job, hj, hd, hst⟩ := hstarted.loaded
      simp only [hj]
      -- the row that was read decides what the worker does, whatever is stored by then
      by_cases hstart : job.status = .starting
      · exact .swap hstart (by rw [hd, hstart])
      · exact .finishing (among_settled ⟨_, hst, hd⟩ (by rw [hd]; simpa using hstart))
          (confirmLoaded_within hstart) rfl
  | swap hst hd =>
      obtain ⟨d', hcommit, hd', -, hslots⟩ := confirmLoaded_kept (clock 0) p hst hd
      cases (Blocks.step_block hproc (confirmLoaded_reads hst)).symm.trans hs
      simp only [hcommit, Function.update_self]
      exact ⟨.ended ⟨_, by decide, hd'⟩, hslots p, .inr ⟨_, by decide, hd'⟩⟩
  | @ambiguous exc =>
      cases (Blocks.step_read hproc).symm.trans hs
      refine ⟨?_, .refl _⟩
      simp only [Function.update_self]
      obtain ⟨job, hj, hd, hst⟩ := hstarted.loaded
      simp only [hj]
      by_cases hstart : job.status = .starting
      · exact .quarantine hstart
      · have hskip : (quarantineLoaded (clock 1) id p exc job).Within (KeepsJob id p) fun r => r = .ok () := by
          unfold quarantineLoaded
          rw [if_neg hstart]
          rfl
        exact .finishing (among_settled ⟨_, hst, hd⟩ (by rw [hd]; simpa using hstart)) hskip rfl
  | @quarantine job exc hst =>
      obtain ⟨r, d', hcommit, hcase⟩ := quarantineLoaded_commit (clock 1) id p exc c.db hst
      have hreads : (quarantineLoaded (clock 1) id p exc job).reads = false := by
        unfold quarantineLoaded
        rw [if_pos hst]
        rfl
      cases (Blocks.step_block hproc hreads).symm.trans hs
      simp only [hcommit, Function.update_self]
      rcases hcase with ⟨hd, hd', hslot⟩ | ⟨hne, rfl⟩
      · exact ⟨.ended ⟨_, by decide, hd'⟩, hslot.trans (hown hd).symm, .inr ⟨_, by decide, hd'⟩⟩
      · -- the swap was lost: a report has settled the job
        exact ⟨.ended (among_settled hstarted hne), .refl _⟩
  | @finishing t next hd ht hnext =>
      -- what is left reads on, or commits without a write to the job
      cases hr : t.reads with
      | true =>
          cases t with
          | read q =>
              cases (Blocks.step_read hproc).symm.trans hs
              simp only [Function.update_self]
              exact ⟨.finishing hd (ht _) hnext, .refl _⟩
          | _ => cases hr
      | false =>
          obtain ⟨hok, hsame, hslots⟩ := ht.commit KeepsJob.refl KeepsJob.trans c.db
          cases (Blocks.step_block hproc hr).symm.trans hs
          simp only [hok, hnext, Function.update_self]
          obtain ⟨st, hst, hd⟩ := hd
          exact ⟨.ended ⟨st, hst, hsame.trans hd⟩, hslots, .inl hsame⟩
  | ended => rw [Blocks.step, hproc] at hs; cases hs

/-- The invariant of the runs that lose no swap. A job that is still STARTING owns the slot. -/
structure Handed (clock : Nat → Time) (id : JobId) (p : PrinterID) (own : Option JobId)
    (c : Blocks (Option κ) Db Exc) : Prop where
  others : Bounded True reportEdge c
  slot : (c.db.printers p).currentJobId = own
  owner : c.db.statusOf id = some .starting → own = some id
  started : c.db.among id startedStatuses
  handing : Handing clock id p c.db (c.proc none)

/-- The worker's step, under the invariant. -/
theorem Handed.worker (h : Handed clock id p own c) (hs : c.step none = some c') :
    Handing clock id p c'.db (c'.proc none) ∧ Careful id p c.db c'.db :=
  h.handing.step h.started (fun hd => h.slot.trans (h.owner hd)) hs

theorem Handed.step (h : Handed clock id p own c) (hok : blockKept id p c i) (hs : c.step i = some c') :
    Handed clock id p own c' := by
  cases i with
  | none =>
      obtain ⟨hhand, hcareful⟩ := h.worker hs
      exact ⟨h.others.worker hs, hcareful.slot.trans h.slot,
        fun hd => h.owner (hcareful.status_was (by decide) hd), hcareful.started h.started, hhand⟩
  | some k =>
      obtain ⟨hw, hothers, hproc⟩ := h.others.callback reportEdge_trans hs
      refine ⟨hothers, (hw.slot p).trans h.slot, fun hd => ?_, hw.among h.started (by decide), ?_⟩
      · -- no report leads to STARTING
        rcases hw.status id with hsame | ⟨a, b, -, hb, -, hsettled⟩
        · exact h.owner (hsame.symm.trans hd)
        · cases Option.some.inj (hb.symm.trans hd)
          exact absurd hsettled (by decide)
      · rw [hproc]
        exact h.handing.stable hw fun hat => hok (by simp) hat c' hs

omit [DecidableEq κ] in
/-- A worker that has returned has left its job settled. -/
theorem Handed.settled (h : Handed clock id p own c) (hend : c.proc none = .ended) :
    c.db.among id settledStatuses := by
  have hhand := h.handing
  generalize hproc : c.proc none = proc at hhand
  rw [hend] at hproc
  cases hhand with
  | ended hd => exact hd
  | _ => cases hproc

/-- What the invariant says of a state at statement level. -/
theorem Handed.notReleased {f : Sessions (Option κ) Db Exc} (h : Handed clock id p own c) (hA : Abstracts f c) :
    NotReleased id p own f where
  slot := hA.db ▸ h.slot
  unfailed f' hs hfail := by
    rcases hA.step hs with hA' | ⟨c', hc', hA'⟩
    · rw [← hA.db, hA'.db]
      exact hfail
    · rw [← hA'.db] at hfail
      rw [← hA.db]
      exact (h.worker hc').2.status_was (by decide) hfail
  ends hend := hA.db ▸ h.settled (hA.ended hend)

end steps

variable {s : Service} {h : Handoff} {o : PublishOutcome} {waited : Except Exc Unit}

/-- A worker whose message was accepted goes on to wait, or to the quarantine. -/
theorem handing_start (ho : o.accepted) (hwait : WaitEnds waited) :
    Handing clock id p d (handedOver clock id p o waited) := by
  have ambiguous : ∀ {e : Exc}, e.isAmbiguousStart = true → Handing clock id p d (caught clock id p e) :=
    fun {e} he => by
      unfold caught
      rw [if_pos he]
      exact .ambiguous
  unfold handedOver
  split
  · next e he => exact ambiguous (ho.error he)
  · obtain ⟨c, cfg, baseline, timedOut, hwait⟩ := hwait
    split
    · exact ambiguous (BambuPrinter.startWait_error hwait)
    · exact .begin

theorem Published.handed {κ : Type} (hp : Published s h) (ho : o.accepted) (hwait : WaitEnds waited)
    (calls : κ → List StatusCall) :
    Handed clock h.id h.printer (s.db.printers h.printer).currentJobId
      ⟨(handoffRace s h o waited clock calls).db, (handoffRace s h o waited clock calls).proc⟩ where
  slot := rfl
  owner hd := by
    obtain ⟨j, hj, hst⟩ := Option.map_eq_some_iff.mp hd
    exact (disciplined_of_reach hp.reach).slot hp.worker hj (by rw [hst]; decide)
  others k := callbackThread_within _ fun c _ => permits_reportEdge c.snap
  started := by
    obtain ⟨j, hj, -⟩ := (disciplined_of_reach hp.reach).sent h hp.worker
    obtain ⟨baseline, hpc⟩ := hp.published
    exact ⟨j.status, requested_of_reach hp.reach h hp.worker (by rw [hpc]; trivial) j hj, Db.statusOf_eq hj⟩
  handing := handing_start ho hwait

/-- **A start that was handed over is never treated as a clean failure** if Paho accepted the message and no
    status callback moves the job between the worker's SELECT and its swap to PRINTING. -/
theorem never_clean_failure {κ : Type} [DecidableEq κ] {calls : κ → List StatusCall}
    {f : Sessions (Option κ) Db Exc} (hp : Published s h) (ho : o.accepted) (hwait : WaitEnds waited)
    (hrun : sessions.Path (swapKept h.id h.printer) (handoffRace s h o waited clock calls) f) :
    NotReleased h.id h.printer (s.db.printers h.printer).currentJobId f := by
  have hstart : Handed clock h.id h.printer _ _ := hp.handed ho hwait calls
  obtain ⟨c, hpath, hA⟩ := reduce_path (.of_unlocked rfl) hrun
  exact (hpath.keeps (.init trivial) hstart fun _ _ _ _ hH hok hs => hH.step hok hs).notReleased hA

/-! ## Concrete handoffs -/

/-- The events up to the call of `client.publish`. -/
def Script.handOver : List Event :=
  Script.online ++ Script.reportState .idle ++ [Script.upload "a"] ++ Script.slice "a" ++ Script.dispatch ++
    Script.transfer ++ Script.publish

/-- The worker without callbacks. -/
def handoffAlone (s : Service) (h : Handoff) (o : PublishOutcome) (waited : Except Exc Unit) :
    Sessions (Option Empty) Db Exc :=
  handoffRace s h o waited (fun _ => s.clock) Empty.elim

/-- The check that a worker has called `client.publish`, and that Paho's answer `o` leads it in `n` statements
    to its end, in a database with property `q`. -/
def handoffEnds (o : PublishOutcome) (waited : Except Exc Unit) (n : Nat) (q : JobId → PrinterID → Db → Bool)
    (s : Service) : Bool :=
  match s.handoffs with
  | [h] =>
      h.pc matches .published _ && (s.db.printers h.printer).currentJobId = some h.id &&
        (sessions.run Machine.anyStep (handoffAlone s h o waited) (List.replicate n none)).any fun final =>
          (final.proc none).isEnded && q h.id h.printer final.db
  | _ => false

theorem handoffEnds_spec {n : Nat} {q : JobId → PrinterID → Db → Bool} (hr : service.Reach always s)
    (hs : handoffEnds o waited n q s = true) : ∃ h final, Published s h ∧
      (s.db.printers h.printer).currentJobId = some h.id ∧ final.proc none = .ended ∧
      sessions.run Machine.anyStep (handoffAlone s h o waited) (List.replicate n none) = some final ∧
      q h.id h.printer final.db = true := by
  unfold handoffEnds at hs
  split at hs
  · next h hh =>
      simp only [Bool.and_eq_true, decide_eq_true_eq] at hs
      obtain ⟨⟨hpc, hslot⟩, hrun⟩ := hs
      obtain ⟨final, hfinal, hrest⟩ := (Option.any_eq_true _ _).mp hrun
      obtain ⟨hend, hq⟩ := Bool.and_eq_true_iff.mp hrest
      refine ⟨h, final, ⟨hr, by simp [hh], ?_⟩, hslot, Proc.eq_ended hend, hfinal, hq⟩
      split at hpc
      · next baseline hpub => exact ⟨baseline, hpub⟩
      · cases hpc
  · cases hs

/-- A wait that ends with a report of the start. -/
theorem waitEnds_ok : WaitEnds (.ok ()) :=
  ⟨{ gcodeState := .running, reportVersion := 1 }, Script.p1sOnly, 0, false, by decide⟩

/-- Paho returns MQTT_ERR_NO_CONN and keeps the message for the next connection. The worker fails its job and
    releases the printer. -/
theorem clean_failure : ¬ NeverCleanFailure := by
  intro hclaim
  obtain ⟨s, hr, hs⟩ := Machine.reach_of_run (M := service) Machine.always_of_anyStep Script.handOver
    (handoffEnds (.rejected 4) (.ok ()) 9 fun id p d =>
      d.statusOf id = some .failed && (d.printers p).currentJobId = none)
    (service_init Script.p1sOnly 0) (by decide +kernel)
  obtain ⟨h, final, hp, hslot, -, hrun, hq⟩ := handoffEnds_spec hr hs
  have hkept := hclaim Empty s h _ _ _ _ final hp waitEnds_ok
    (Machine.path_of_run Machine.always_of_anyStep hrun)
  obtain ⟨-, hnull⟩ := Bool.and_eq_true_iff.mp hq
  rw [hslot] at hkept
  cases hkept.slot.symm.trans (of_decide_eq_true hnull)

/-- An acknowledgement that does not come quarantines the job. -/
theorem never_clean_failure_unacknowledged : ∃ s h final, Published s h ∧
    sessions.Path always (handoffAlone s h .unacknowledged (.ok ())) final ∧ final.proc none = .ended ∧
    final.db.statusOf h.id = some .attention ∧ NotReleased h.id h.printer (some h.id) final := by
  obtain ⟨s, hr, hs⟩ := Machine.reach_of_run (M := service) Machine.always_of_anyStep Script.handOver
    (handoffEnds .unacknowledged (.ok ()) 7 fun id _ d => d.statusOf id = some .attention)
    (service_init Script.p1sOnly 0) (by decide +kernel)
  obtain ⟨h, final, hp, hslot, hend, hrun, hq⟩ := handoffEnds_spec hr hs
  have hpath := Machine.path_of_run Machine.always_of_anyStep hrun
  have hkept : sessions.Path (swapKept h.id h.printer) (handoffAlone s h .unacknowledged (.ok ())) final :=
    hpath.mono fun _ i _ hne => by cases i with
      | none => exact absurd rfl hne
      | some k => exact k.elim
  have hnot := never_clean_failure hp (o := .unacknowledged) trivial waitEnds_ok hkept
  rw [hslot] at hnot
  exact ⟨s, h, final, hp, hpath, hend, of_decide_eq_true hq, hnot⟩

end BambuBabu
