import BambuBabu.Service.Trans
import BambuBabu.Storage.Interleave

/-!
# `Service.Threads` — a handoff statement by statement

`Service.step` runs each transaction at once. Here the transactions of one dispatch worker and of the threads
that run status callbacks are programs of `Storage.Sessions`, so that statements of different transactions
may alternate.

`Writes` bounds what the statements of a callback can change, whatever the callback has read:
`onStatusUpdate_within`.
-/

namespace BambuBabu

open Storage Runs

/-! ## The threads -/

/-- A call of `_on_status_update`. -/
structure StatusCall where
  now : Time
  printer : PrinterID
  snap : Snapshot

/-- A thread that makes these calls one after another, whatever becomes of each. -/
def callbackThread : List StatusCall → Proc Db Exc
  | [] => .ended
  | c :: rest =>
      .tx (do
        let _ ← onStatusUpdate c.now c.printer c.snap
        pure ()) fun _ => callbackThread rest

section worker

variable (clock : Nat → Time) (id : JobId) (p : PrinterID)

/-- The `except` clauses of `_upload_start_and_confirm`. -/
def caught (exc : Exc) : Proc Db Exc :=
  if exc.isAmbiguousStart then .tx (quarantineStart (clock 1) id p exc) fun _ => .ended
  else
    .tx (failJob (clock 1) id s!"Printer handoff failed: {exc.str}") fun
      | .error _ => .ended
      | .ok _ => .tx (releaseFailed (clock 2) id p) fun _ => .ended

/-- What follows the block that commits PRINTING. -/
def confirmed : Except Exc Unit → Proc Db Exc
  | .ok _ => .ended
  | .error exc => caught clock id p exc

/-- The worker once `start_print_and_confirm` has returned. -/
def confirmThread : Proc Db Exc := .tx (confirmStart (clock 0) id p) (confirmed clock id p)

/-- The worker once `client.publish` was called: Paho's answer, then how the wait for a report ends. -/
def handedOver (o : PublishOutcome) (waited : Except Exc Unit) : Proc Db Exc :=
  match startPublished o with
  | .error exc => caught clock id p exc
  | .ok _ =>
    match waited with
    | .error exc => caught clock id p exc
    | .ok _ => confirmThread clock id p

end worker

/-- The worker (`none`) and the callback threads, before any of their statements. -/
def race {κ : Type} (d : Db) (worker : Proc Db Exc) (calls : κ → List StatusCall) :
    Sessions (Option κ) Db Exc where
  db := d
  writer := none
  proc
    | none => worker
    | some k => callbackThread (calls k)

/-! ## The swap of the confirming transaction -/

/-- The thread has read STARTING and is about to execute the swap to PRINTING. -/
def AtSwap (id : JobId) (p : PrinterID) (proc : Proc Db Exc) : Prop :=
  ∃ now job next, proc = .tx (confirmLoaded now id p job) next ∧ job.status = .starting

section swap

variable {κ : Type} [DecidableEq κ] (id : JobId) (p : PrinterID)

/-- While the worker stands between its SELECT, which saw STARTING, and its swap, no other thread commits a
    change of the job's status. -/
def swapKept (s : Sessions (Option κ) Db Exc) (i : Option κ) : Prop :=
  i ≠ none → s.holds none = false → AtSwap id p (s.proc none) →
    ∀ s', s.step i = some s' → s'.db.statusOf id = s.db.statusOf id

/-- The same of the larger steps. -/
def blockKept (c : Blocks (Option κ) Db Exc) (i : Option κ) : Prop :=
  i ≠ none → AtSwap id p (c.proc none) → ∀ c', c.step i = some c' → c'.db.statusOf id = c.db.statusOf id

variable {id p} {s s' : Sessions (Option κ) Db Exc} {c : Blocks (Option κ) Db Exc} {i : Option κ}

/-- **The reduction keeps the condition.** -/
theorem swapKept.reduce (h : swapKept id p s i) (hA : Abstracts s c) (hs : s.step i = some s') :
    Abstracts s' c ∨ ∃ i' c', blockKept id p c i' ∧ c.step i' = some c' ∧ Abstracts s' c' := by
  rcases hA.step hs with hA' | ⟨c', hc', hA'⟩
  · exact .inl hA'
  · refine .inr ⟨i, c', fun hne hat c'' hc'' => ?_, hc', hA'⟩
    cases hc'.symm.trans hc''
    rw [hA'.db, hA.db]
    cases hh : s.holds none with
    | false => exact h hne hh (hA.reader none hh ▸ hat) s' hs
    | true => rw [Sessions.step_db hs (Sessions.holds_unique hh hne)]

/-- A run at statement level whose swaps are kept is one in larger steps. -/
theorem reduce_path (hA : Abstracts s c) (h : sessions.Path (swapKept id p) s s') :
    ∃ c', blocks.Path (blockKept id p) c c' ∧ Abstracts s' c' :=
  h.simulate (fun _ _ _ _ hA hok hs => hok.reduce hA hs) hA

/-- And so is any run. -/
theorem reduce_path_always (hA : Abstracts s c) (h : sessions.Path always s s') :
    ∃ c', blocks.Path always c c' ∧ Abstracts s' c' :=
  h.simulate (fun _ e _ _ hA _ hs => (hA.step hs).imp_right fun ⟨c', hc', hA'⟩ => ⟨e, c', trivial, hc', hA'⟩) hA

end swap

section confirming

variable {now : Time} {id : JobId} {p : PrinterID} {job : Job} {d : Db}

theorem confirmLoaded_reads (hs : job.status = .starting) : (confirmLoaded now id p job).reads = false := by
  unfold confirmLoaded
  rw [if_pos hs]
  rfl

variable (now p) in
/-- The swap succeeds if the job is still STARTING, -/
theorem confirmLoaded_kept (hs : job.status = .starting) (hd : d.statusOf id = some .starting) :
    ∃ d', (confirmLoaded now id p job).commit d = (.ok (), d') ∧ d'.statusOf id = some .printing ∧
      (d'.printers p).plateCleared = false ∧
      ∀ q, (d'.printers q).currentJobId = (d.printers q).currentJobId := by
  obtain ⟨j, hj, hst⟩ := Option.map_eq_some_iff.mp hd
  obtain ⟨e, hrun⟩ := confirmLoaded_run now p hs hj hst
  refine ⟨_, Txn.commit_of_ok hrun, ?_, ?_, fun q => ?_⟩
  · simp [Db.statusOf, hj]
  · simp
  · simp only [Db.printers_setPrinter, Db.printers_insertLog, Db.printers_setJob]
    split
    · next hq => rw [hq]
    · rfl

variable (now p) in
/-- and is lost if it is not. -/
theorem confirmLoaded_lost (hs : job.status = .starting) (hd : d.statusOf id ≠ some .starting) :
    ∃ m, (confirmLoaded now id p job).commit d = (.error (.jobTransitionError m), d) := by
  have hno : ∀ j, d.job id = some j → j.status ∉ [JobStatus.starting] := fun j hj hst =>
    hd ((Db.statusOf_eq hj).trans (congrArg some (List.mem_singleton.mp hst)))
  obtain ⟨m, hrun⟩ := transition_lost now (some job) [.starting] .printing none none hno
  have hload : (confirmLoaded now id p job).run d = (.error (.jobTransitionError m), d) := by
    unfold confirmLoaded
    rw [if_pos hs, Txn.run_bind_of_error hrun]
  exact ⟨m, Txn.commit_of_error hload⟩

/-- The last write of the confirming transaction, on the printer row it has read. -/
def blockPlate (now : Time) (p : PrinterID) (state : PrinterState) : Tx Unit :=
  (updatePrinterState now p state (fun st => { st with plateCleared := false }) >>= fun state =>
    pure (some state)) >>= fun _ => pure ()

theorem confirmLoaded_printing (hs : job.status = .printing) :
    confirmLoaded now id p job = .read fun d => blockPlate now p (d.printers p) := by
  unfold confirmLoaded
  rw [if_neg (by rw [hs]; decide), if_neg (not_not.mpr hs)]
  rfl

variable (now p) in
/-- It blocks the plate, unless the flag was changed since. -/
theorem blockPlate_commit {state : PrinterState}
    (hplate : state.plateCleared = (d.printers p).plateCleared) :
    ∃ d', (blockPlate now p state).commit d = (.ok (), d') ∧ (∀ k, d'.statusOf k = d.statusOf k) ∧
      (d'.printers p).plateCleared = false ∧
      ∀ q, (d'.printers q).currentJobId = (d.printers q).currentJobId := by
  have hrun : ∃ d', (blockPlate now p state).run d = (.ok (), d') ∧ (∀ k, d'.statusOf k = d.statusOf k) ∧
      (d'.printers p).plateCleared = false ∧
      ∀ q, (d'.printers q).currentJobId = (d.printers q).currentJobId := by
    by_cases hsame : ({ state with plateCleared := false, lastSeen := some now } : PrinterState) = state
    · refine ⟨d, ?_, fun _ => rfl, ?_, fun _ => rfl⟩
      · simp [blockPlate, updatePrinterState, flushPrinter, hsame]
      · rw [← hplate, ← hsame]
    · refine ⟨d.modifyPrinter p (PrinterState.columns state
        { state with plateCleared := false, lastSeen := some now }), ?_, fun _ => rfl, ?_, fun q => ?_⟩
      · simp [blockPlate, updatePrinterState, flushPrinter, hsame]
      · simp [PrinterState.columns, ← hplate]
      · rw [Db.printers_modifyPrinter]
        split
        · next hq =>
            rw [hq]
            exact if_pos rfl
        · rfl
  obtain ⟨d', hrun, hrest⟩ := hrun
  exact ⟨d', Txn.commit_of_ok hrun, hrest⟩

theorem blockPlate_reads {state : PrinterState} : (blockPlate now p state).reads = false := by
  unfold blockPlate updatePrinterState flushPrinter
  split <;> rfl

end confirming

/-! ## What a callback can write -/

/-- A change that keeps every slot, keeps every plate flag unless `block`, and moves the status of a job only
    along `edge`. -/
structure Writes (block : Prop) (edge : JobStatus → JobStatus → Prop) (d d' : Db) : Prop where
  slot : ∀ p, (d'.printers p).currentJobId = (d.printers p).currentJobId
  plate : ¬ block → ∀ p, (d'.printers p).plateCleared = (d.printers p).plateCleared
  status : ∀ id, d'.statusOf id = d.statusOf id ∨
    ∃ st st', d.statusOf id = some st ∧ d'.statusOf id = some st' ∧ edge st st'

section writes

variable {block : Prop} {edge : JobStatus → JobStatus → Prop} {now : Time} {id : JobId} {p : PrinterID}

namespace Writes

theorem refl (d : Db) : Writes block edge d d := ⟨fun _ => rfl, fun _ _ => rfl, fun _ => .inl rfl⟩

theorem trans (hedge : ∀ a b c, edge a b → edge b c → edge a c) (d d' d'' : Db) (h : Writes block edge d d')
    (h' : Writes block edge d' d'') : Writes block edge d d'' where
  slot p := (h'.slot p).trans (h.slot p)
  plate hb p := (h'.plate hb p).trans (h.plate hb p)
  status id := by
    rcases h.status id with hsame | ⟨a, b, ha, hb, hab⟩
    · rw [← hsame]
      exact h'.status id
    · rcases h'.status id with hsame' | ⟨b', c, hb', hc, hbc⟩
      · exact .inr ⟨a, b, ha, hsame'.trans hb, hab⟩
      · cases Option.some.inj (hb.symm.trans hb')
        exact .inr ⟨a, c, ha, hc, hedge a b c hab hbc⟩

theorem modifyJob (d : Db) {f : Job → Job} (hf : ∀ j, (f j).status = j.status ∨ edge j.status (f j).status) :
    Writes block edge d (d.modifyJob id f) where
  slot _ := rfl
  plate _ _ := rfl
  status k := by
    unfold Db.statusOf
    rw [Db.job_modifyJob]
    split
    · cases d.job k with
      | none => exact .inl rfl
      | some j =>
          rcases hf j with hsame | hmoved
          · exact .inl (congrArg some hsame)
          · exact .inr ⟨j.status, (f j).status, rfl, rfl, hmoved⟩
    · exact .inl rfl

theorem modifyPrinter (d : Db) {f : PrinterState → PrinterState}
    (hslot : ∀ st, (f st).currentJobId = st.currentJobId)
    (hplate : ¬ block → ∀ st, (f st).plateCleared = st.plateCleared) :
    Writes block edge d (d.modifyPrinter p f) where
  slot q := by
    rw [Db.printers_modifyPrinter]
    split
    · next hq => rw [hq, hslot]
    · rfl
  plate hb q := by
    rw [Db.printers_modifyPrinter]
    split
    · next hq => rw [hq, hplate hb]
    · rfl
  status _ := .inl rfl

end Writes

/-- A swap moves the job along the edges it is allowed. -/
theorem transition_within {loaded : Option Job} {expected : List JobStatus} {new : JobStatus}
    {err rej : Option String} (h : ∀ st ∈ expected, edge st new) :
    (transitionJobStatus now loaded id expected new err rej).Within (Writes block edge) Txn.anyOutcome := by
  refine Txn.Within.ite (fun _ => trivial) fun _ => ⟨fun d => Writes.modifyJob d fun j => ?_, fun _ d => ?_⟩
  · by_cases hs : j.status ∈ expected
    · rw [if_pos hs]
      exact .inr (h _ hs)
    · rw [if_neg hs]
      exact .inl rfl
  · show (ite _ _ _ : Tx Job).Within _ _
    refine Txn.Within.ite (fun _ => ?_) fun _ => trivial
    split <;> trivial

theorem addLog_within {event message : String} {level : LogLevel} {jobId : Option JobId}
    {printerId : Option String} {extra : Option Analysis} :
    (addLog now event message level jobId printerId extra).Within (Writes block edge) Txn.anyOutcome :=
  ⟨fun _ => ⟨fun _ => rfl, fun _ _ => rfl, fun _ => .inl rfl⟩, fun _ => trivial⟩

theorem updateJobProgress_within {job : Job} {progress : Int} :
    (updateJobProgress id job progress).Within (Writes block edge) Txn.anyOutcome :=
  Txn.Within.ite (fun _ => trivial) fun _ => ⟨fun d => Writes.modifyJob d fun _ => .inl rfl, fun _ => trivial⟩

/-- A printer write that gives the row the owner it was loaded with keeps the slot, whoever owns it now. -/
theorem updatePrinterState_within {state : PrinterState} {set : PrinterState → PrinterState}
    (hslot : (set state).currentJobId = state.currentJobId)
    (hplate : ¬ block → (set state).plateCleared = state.plateCleared) :
    (updatePrinterState now p state set).Within (Writes block edge)
      fun r => ∀ a, r = .ok a → a.currentJobId = state.currentJobId := by
  refine Txn.Within.ite (fun _ a ha => ?_) fun _ => ⟨fun d => ?_, fun _ a ha => ?_⟩
  · cases ha
    rfl
  · refine Writes.modifyPrinter d (fun st => if_pos hslot) fun hb st => if_pos (hplate hb)
  · cases ha
    exact hslot

/-- The changes that the statements of a callback for `snap` need. -/
structure Snapshot.Permits (snap : Snapshot) (block : Prop) (edge : JobStatus → JobStatus → Prop) : Prop where
  start : snap.status = .printing → ∀ st, st = .starting ∨ st = .attention → edge st .printing
  idle : snap.gcodeState = .idle → block ∧ edge .printing .attention
  finish : snap.gcodeState = .finish → block ∧ ∀ st ∈ awaitingReport, edge st .completed
  fail : snap.gcodeState = .failed → block ∧ ∀ st ∈ awaitingReport, edge st .failed

variable {snap : Snapshot} {state : PrinterState} {job : Job}

theorem confirmOwner_within (h : snap.Permits block edge) :
    (confirmOwner now p snap id job).Within (Writes block edge) Txn.anyOutcome := by
  refine Txn.Within.ite (fun hprint => ?_) fun _ => trivial
  refine Txn.Within.ite (fun hst => Txn.Within.andThen (Txn.Within.tryCatch ?_ fun e => ?_) fun _ =>
    updateJobProgress_within) fun _ => updateJobProgress_within
  · refine Txn.Within.andThen (transition_within fun st hmem => ?_) fun _ =>
      Txn.Within.andThen addLog_within fun _ => trivial
    rw [List.mem_singleton.mp hmem]
    exact h.start hprint _ hst
  · cases e <;> trivial

theorem quarantineOwner_within (h : snap.Permits block edge) (hown : state.currentJobId = some id) :
    (quarantineOwner now p snap state id job).Within (Writes block edge)
      fun r => ∀ a, r = .ok a → a.1.currentJobId = some id := by
  refine Txn.Within.ite (fun hidle => ?_) fun _ a ha => ?_
  · obtain ⟨hblock, hedge⟩ := h.idle hidle.1
    refine Txn.Within.bind (transition_within fun st hmem => ?_) (fun moved _ => ?_) fun _ _ _ ha => by cases ha
    · rw [List.mem_singleton.mp hmem]
      exact hedge
    · refine Txn.Within.bind (updatePrinterState_within hown.symm fun hno => absurd hblock hno)
        (fun st hst => ?_) fun _ _ _ ha => by cases ha
      refine Txn.Within.bind addLog_within (fun _ _ a ha => ?_) fun _ _ _ ha => by cases ha
      cases ha
      exact (hst st rfl).trans hown
  · cases ha
    exact hown

theorem reportTerminal_within (h : snap.Permits block edge) (hown : state.currentJobId = some id) :
    (reportTerminal now p snap state id job).Within (Writes block edge) Txn.anyOutcome := by
  have write : ∀ {set : PrinterState → PrinterState}, (set state).currentJobId = some id → block →
      (updatePrinterState now p state set).Within (Writes block edge) Txn.anyOutcome := fun hset hblock =>
    (updatePrinterState_within (hset.trans hown.symm) fun hno => absurd hblock hno).mono fun _ _ => trivial
  refine Txn.Within.ite (fun hfin => ?_) fun _ => Txn.Within.ite (fun hfail => ?_) fun _ => trivial
  · obtain ⟨hblock, hedge⟩ := h.finish hfin.1
    refine Txn.Within.andThen (Txn.Within.andThen (transition_within fun st hmem => ?_) fun _ =>
      Txn.Within.andThen updateJobProgress_within fun _ =>
        Txn.Within.andThen (write rfl hblock) fun _ => addLog_within) fun _ => trivial
    rw [List.mem_singleton.mp hmem]
    exact hedge _ hfin.2
  · obtain ⟨hblock, hedge⟩ := h.fail hfail.1
    refine Txn.Within.andThen (Txn.Within.andThen (transition_within fun st hmem => ?_) fun _ =>
      Txn.Within.andThen (write rfl hblock) fun _ => addLog_within) fun _ => trivial
    rw [List.mem_singleton.mp hmem]
    exact hedge _ hfail.2

theorem reportToOwner_within (h : snap.Permits block edge) (hown : state.currentJobId = some id) :
    (reportToOwner now p snap state id job).Within (Writes block edge) Txn.anyOutcome :=
  Txn.Within.andThen (confirmOwner_within h) fun _ =>
    Txn.Within.bind (quarantineOwner_within h hown) (fun r hr => reportTerminal_within h (hr r rfl))
      fun _ _ => trivial

/-- **A callback writes what its snapshot permits**, whatever its SELECTs have seen. -/
theorem onStatusUpdate_within (h : snap.Permits block edge) :
    (onStatusUpdate now p snap).Within (Writes block edge) Txn.anyOutcome := by
  intro d
  refine Txn.Within.bind (t := updatePrinterState now p (d.printers p) _)
    (updatePrinterState_within rfl fun _ => rfl) (fun state _ => ?_) fun _ _ => trivial
  unfold reportToSlot
  cases hown : state.currentJobId with
  | none => trivial
  | some id =>
      refine Txn.Within.andThen (t := getJob id) (fun _ => trivial) fun job => ?_
      cases job with
      | none => trivial
      | some job => exact reportToOwner_within h hown

/-- **A callback thread stays within what its snapshots permit.** -/
theorem callbackThread_within : ∀ calls : List StatusCall, (∀ c ∈ calls, c.snap.Permits block edge) →
    (callbackThread calls).Within (Writes block edge)
  | [], _ => trivial
  | c :: rest, h =>
      ⟨Txn.Within.andThen (onStatusUpdate_within (h c List.mem_cons_self)) fun _ => trivial, fun _ =>
        callbackThread_within rest fun c' hc' => h c' (List.mem_cons_of_mem _ hc')⟩

end writes

/-! ## Around the worker -/

section bounded

variable {κ : Type} [DecidableEq κ] {block : Prop} {edge : JobStatus → JobStatus → Prop}
  {c c' : Blocks (Option κ) Db Exc}

/-- The threads other than the worker are bounded callbacks. -/
def Bounded (block : Prop) (edge : JobStatus → JobStatus → Prop) (c : Blocks (Option κ) Db Exc) : Prop :=
  ∀ k, (c.proc (some k)).Within (Writes block edge)

/-- A step of a callback keeps to its bound, and does not move the worker. -/
theorem Bounded.callback {k : κ} (h : Bounded block edge c) (hedge : ∀ a b c, edge a b → edge b c → edge a c)
    (hs : c.step (some k) = some c') :
    Writes block edge c.db c'.db ∧ Bounded block edge c' ∧ c'.proc none = c.proc none := by
  obtain ⟨hw, hwithin⟩ := Blocks.step_within Writes.refl (Writes.trans hedge) hs (h k)
  refine ⟨hw, fun k' => ?_, Blocks.step_frame hs (by simp)⟩
  by_cases hk : k' = k
  · rw [hk]
    exact hwithin
  · rw [Blocks.step_frame hs (by simpa using hk)]
    exact h k'

/-- A step of the worker moves no callback. -/
theorem Bounded.worker (h : Bounded block edge c) (hs : c.step none = some c') : Bounded block edge c' := by
  intro k
  rw [Blocks.step_frame hs (by simp)]
  exact h k

end bounded

end BambuBabu
