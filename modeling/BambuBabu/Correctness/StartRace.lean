import BambuBabu.Service.Threads

/-!
# `Correctness.StartRace` — the race for the start of a print

The report that shows the start wakes two threads: the dispatch worker, whose wait returns, and the status
callback. Both move the job from STARTING to PRINTING. The callback takes the write lock before it reads the
job; the worker reads the job first. If the callback commits between the worker's SELECT and its UPDATE, the
worker's swap is lost, and the exception lands in the generic `except` clause: it fails the job that has just
started, and releases its printer.

* `start_race` — the failing interleaving.
* `Confirming`, `Doomed` — where the worker is, as long as its swap is not lost and from then on.
* `start_confirmed` — **the theorem**: an interleaving ends with the start confirmed exactly if the job does
  not change between the worker's SELECT and its UPDATE.
-/

namespace BambuBabu

open Storage Runs

/-- The worker `h` has returned from `start_print_and_confirm`, and the callback for the snapshot of the same
    report is still to run; no report has moved the job since the start was requested. -/
structure Woken (s : Service) (h : Handoff) (snap : Snapshot) : Prop where
  reach : service.Reach always s
  worker : h ∈ s.handoffs
  returned : h.pc = .confirm
  starting : s.db.statusOf h.id = some .starting
  callback : (h.printer, .report snap) ∈ s.pending
  report : snap.gcodeState ∈ [.prepare, .running]

/-- The two threads from there on. -/
def startRace (s : Service) (h : Handoff) (snap : Snapshot) (clock : Nat → Time) (now : Time) :
    Sessions (Option Unit) Db Exc :=
  race s.db (confirmThread clock h.id h.printer) fun _ => [⟨now, h.printer, snap⟩]

/-- The job is PRINTING, owns the slot of its printer, and the plate is blocked. -/
structure Confirmed (id : JobId) (p : PrinterID) (d : Db) : Prop where
  status : d.statusOf id = some .printing
  slot : (d.printers p).currentJobId = some id
  plate : (d.printers p).plateCleared = false

/-- Every interleaving ends with the start confirmed. -/
def StartConfirmed : Prop :=
  ∀ s h snap clock now schedule final, Woken s h snap →
    sessions.Follows always (startRace s h snap clock now) schedule final → final.ended →
      Confirmed h.id h.printer final.db

/-- What the statements of the callback do to a job: STARTING and ATTENTION become PRINTING. -/
def startEdge (a b : JobStatus) : Prop := (a = .starting ∨ a = .attention) ∧ b = .printing

theorem startEdge_trans (a b c : JobStatus) (h : startEdge a b) (h' : startEdge b c) : startEdge a c := by
  rcases h with ⟨-, rfl⟩
  rcases h' with ⟨hc | hc, -⟩ <;> cases hc

theorem permits_start {snap : Snapshot} (h : snap.gcodeState ∈ [.prepare, .running]) :
    snap.Permits False startEdge where
  start _ st hst := ⟨hst, rfl⟩
  idle hc := by rw [hc] at h; exact absurd h (by decide)
  finish hc := by rw [hc] at h; exact absurd h (by decide)
  fail hc := by rw [hc] at h; exact absurd h (by decide)

section positions

variable (clock : Nat → Time) (id : JobId) (p : PrinterID)

/-- Where the worker is while its swap is not lost, and what it may rely on. -/
inductive Confirming (d : Db) : Proc Db Exc → Prop
  | begin (hd : d.statusOf id = some .starting ∨ d.statusOf id = some .printing) :
      Confirming d (confirmThread clock id p)
  | swap {job : Job} (hs : job.status = .starting) (hd : d.statusOf id = some .starting) :
      Confirming d (.tx (confirmLoaded (clock 0) id p job) (confirmed clock id p))
  | block {job : Job} (hs : job.status = .printing) (hd : d.statusOf id = some .printing) :
      Confirming d (.tx (confirmLoaded (clock 0) id p job) (confirmed clock id p))
  | write {state : PrinterState} (hd : d.statusOf id = some .printing)
      (hplate : state.plateCleared = (d.printers p).plateCleared) :
      Confirming d (.tx (blockPlate (clock 0) p state) (confirmed clock id p))
  | ended (hd : d.statusOf id = some .printing) (hplate : (d.printers p).plateCleared = false) :
      Confirming d .ended

/-- Where it is once its swap is lost. -/
inductive Doomed (d : Db) : Proc Db Exc → Prop
  | swap {job : Job} (hs : job.status = .starting) (hd : d.statusOf id = some .printing) :
      Doomed d (.tx (confirmLoaded (clock 0) id p job) (confirmed clock id p))
  | failing {m : String} (hd : d.statusOf id = some .printing) :
      Doomed d (caught clock id p (.jobTransitionError m))
  | failed {m : String} {job : Job} {next : Except Exc Unit → Proc Db Exc} (hs : job.status = .printing)
      (hd : d.statusOf id = some .printing)
      (hnext : ∀ r, (next r).Within fun a b => b.statusOf id = a.statusOf id) :
      Doomed d (.tx (failLoaded (clock 1) id m job) next)
  | decided {proc : Proc Db Exc} (hd : d.statusOf id = some .failed)
      (hproc : proc.Within fun a b => b.statusOf id = a.statusOf id) : Doomed d proc

end positions

variable {clock : Nat → Time} {id : JobId} {p : PrinterID} {d d' : Db} {proc : Proc Db Exc}

/-! ## What the callback does to the worker -/

/-- A callback of a started print keeps PRINTING, and FAILED. -/
theorem Writes.status_kept {st : JobStatus} (h : Writes False startEdge d d') (hd : d.statusOf id = some st)
    (hst : st ≠ .starting ∧ st ≠ .attention) : d'.statusOf id = some st := by
  rcases h.status id with hsame | ⟨a, b, ha, -, hedge, -⟩
  · exact hsame.trans hd
  · cases Option.some.inj (hd.symm.trans ha)
    exact absurd hedge (not_or.mpr hst)

/-- A change of a job that was STARTING is to PRINTING. -/
theorem Writes.status_started (h : Writes False startEdge d d') (hd : d.statusOf id = some .starting) :
    d'.statusOf id = some .starting ∨ d'.statusOf id = some .printing := by
  rcases h.status id with hsame | ⟨a, b, -, hb, -, rfl⟩
  · exact .inl (hsame.trans hd)
  · exact .inr hb

/-- A callback that does not move the job under a pending swap leaves the worker where it is. -/
theorem Confirming.stable (h : Confirming clock id p d proc) (hw : Writes False startEdge d d')
    (hkept : AtSwap id p proc → d'.statusOf id = d.statusOf id) : Confirming clock id p d' proc := by
  have hplate := hw.plate not_false p
  cases h with
  | begin hd =>
      rcases hd with hd | hd
      · exact .begin (hw.status_started hd)
      · exact .begin (.inr (hw.status_kept hd (by decide)))
  | swap hs hd => exact .swap hs ((hkept ⟨_, _, _, rfl, hs⟩).trans hd)
  | block hs hd => exact .block hs (hw.status_kept hd (by decide))
  | write hd hst => exact .write (hw.status_kept hd (by decide)) (hst.trans hplate.symm)
  | ended hd hst => exact .ended (hw.status_kept hd (by decide)) (hplate.trans hst)

/-- Nothing saves a lost swap. -/
theorem Doomed.stable (h : Doomed clock id p d proc) (hw : Writes False startEdge d d') :
    Doomed clock id p d' proc := by
  cases h with
  | swap hs hd => exact .swap hs (hw.status_kept hd (by decide))
  | failing hd => exact .failing (hw.status_kept hd (by decide))
  | failed hs hd hnext => exact .failed hs (hw.status_kept hd (by decide)) hnext
  | decided hd hproc => exact .decided (hw.status_kept hd (by decide)) hproc

/-! ## What the worker does -/

section steps

variable {κ : Type} [DecidableEq κ] {c c' : Blocks (Option κ) Db Exc} {i : Option κ}

/-- The worker's next step, from each of its positions. -/
theorem Confirming.step (h : Confirming clock id p c.db (c.proc none)) (hs : c.step none = some c') :
    Confirming clock id p c'.db (c'.proc none) ∧
      (c'.db.printers p).currentJobId = (c.db.printers p).currentJobId := by
  generalize hproc : c.proc none = proc at h
  cases h with
  | begin hd =>
      cases (Blocks.step_read hproc).symm.trans hs
      refine ⟨?_, rfl⟩
      simp only [Function.update_self]
      -- the job is there, and is STARTING or PRINTING
      cases hj : c.db.job id with
      | none => simp [Db.statusOf, hj] at hd
      | some job =>
          rw [Db.statusOf_eq hj] at hd
          rcases hd with hd | hd
          · exact .swap (Option.some.inj hd) ((Db.statusOf_eq hj).trans hd)
          · exact .block (Option.some.inj hd) ((Db.statusOf_eq hj).trans hd)
  | swap hst hd =>
      obtain ⟨d', hcommit, hd', hplate, hslot⟩ := confirmLoaded_kept (clock 0) p hst hd
      cases (Blocks.step_block hproc (confirmLoaded_reads hst)).symm.trans hs
      simp only [hcommit, Function.update_self]
      exact ⟨.ended hd' hplate, hslot p⟩
  | block hst hd =>
      rw [confirmLoaded_printing hst] at hproc
      cases (Blocks.step_read hproc).symm.trans hs
      simp only [Function.update_self]
      exact ⟨.write hd rfl, trivial⟩
  | write hd hst =>
      obtain ⟨d', hcommit, hkept, hplate, hslot⟩ := blockPlate_commit (clock 0) p hst
      cases (Blocks.step_block hproc blockPlate_reads).symm.trans hs
      simp only [hcommit, Function.update_self]
      exact ⟨.ended ((hkept id).trans hd) hplate, hslot p⟩
  | ended => rw [Blocks.step, hproc] at hs; cases hs

/-- The release touches no job. -/
theorem releaseFailed_within {now : Time} :
    (releaseFailed now id p).Within (fun a b : Db => b.statusOf id = a.statusOf id) Txn.anyOutcome := by
  refine Txn.Within.andThen (t := getPrinterState p) (fun _ => trivial) fun state => ?_
  refine Txn.Within.andThen (t := getJob id) (fun _ => trivial) fun job => ?_
  cases state with
  | none => trivial
  | some state =>
      cases job with
      | none => trivial
      | some job =>
          refine Txn.Within.ite (fun _ => ?_) fun _ => trivial
          refine Txn.Within.andThen (Txn.Within.ite (fun _ => trivial) fun _ => ?_) fun _ => trivial
          exact ⟨fun _ => rfl, fun _ => trivial⟩

/-- After a lost swap the worker fails its job. -/
theorem Doomed.step (h : Doomed clock id p c.db (c.proc none)) (hs : c.step none = some c') :
    Doomed clock id p c'.db (c'.proc none) := by
  generalize hproc : c.proc none = proc at h
  cases h with
  | swap hst hd =>
      obtain ⟨m, hcommit⟩ := confirmLoaded_lost (clock 0) p hst (by rw [hd]; decide)
      cases (Blocks.step_block hproc (confirmLoaded_reads hst)).symm.trans hs
      simp only [hcommit, Function.update_self]
      exact .failing hd
  | failing hd =>
      cases (Blocks.step_read hproc).symm.trans hs
      simp only [Function.update_self]
      cases hj : c.db.job id with
      | none => simp [Db.statusOf, hj] at hd
      | some job =>
          rw [Db.statusOf_eq hj] at hd
          refine .failed (Option.some.inj hd) ((Db.statusOf_eq hj).trans hd) fun r => ?_
          cases r with
          | error => trivial
          | ok => exact ⟨releaseFailed_within, fun _ => trivial⟩
  | @failed m job next hst hd hnext =>
      obtain ⟨j, hj, hjs⟩ := Option.map_eq_some_iff.mp hd
      have hopen : job.status ∉ terminalJobStatuses := by rw [hst]; decide
      obtain ⟨e, hrun⟩ := failLoaded_run (clock 1) m hopen hj (hjs.trans hst.symm)
      have hreads : (failLoaded (clock 1) id m job).reads = false := by
        unfold failLoaded
        rw [if_neg hopen, hst]
        rfl
      cases (Blocks.step_block hproc hreads).symm.trans hs
      simp only [Txn.commit_of_ok hrun, Function.update_self]
      exact .decided (by simp [Db.statusOf, hj]) (hnext _)
  | decided hd hwithin =>
      have hrefl : ∀ a : Db, a.statusOf id = a.statusOf id := fun _ => rfl
      have htrans : ∀ a b e : Db, b.statusOf id = a.statusOf id → e.statusOf id = b.statusOf id →
          e.statusOf id = a.statusOf id := fun _ _ _ hab hbe => hbe.trans hab
      obtain ⟨hsame, hwithin'⟩ := Blocks.step_within hrefl htrans hs (hproc ▸ hwithin)
      exact .decided (hsame.trans hd) hwithin'

/-! ## Whole runs -/

/-- The invariant of the runs that lose no swap, -/
structure Racing (clock : Nat → Time) (id : JobId) (p : PrinterID) (c : Blocks (Option κ) Db Exc) : Prop where
  others : Bounded False startEdge c
  slot : (c.db.printers p).currentJobId = some id
  confirming : Confirming clock id p c.db (c.proc none)

/-- and of the rest of a run that has lost one. -/
structure Losing (clock : Nat → Time) (id : JobId) (p : PrinterID) (c : Blocks (Option κ) Db Exc) : Prop where
  others : Bounded False startEdge c
  doomed : Doomed clock id p c.db (c.proc none)

theorem Racing.step (h : Racing clock id p c) (hok : blockKept id p c i) (hs : c.step i = some c') :
    Racing clock id p c' := by
  cases i with
  | none =>
      obtain ⟨hconf, hslot⟩ := h.confirming.step hs
      exact ⟨h.others.worker hs, hslot.trans h.slot, hconf⟩
  | some k =>
      obtain ⟨hw, hothers, hproc⟩ := h.others.callback startEdge_trans hs
      refine ⟨hothers, (hw.slot p).trans h.slot, ?_⟩
      rw [hproc]
      exact h.confirming.stable hw fun hat => hok (by simp) hat c' hs

theorem Losing.step (h : Losing clock id p c) (hs : c.step i = some c') : Losing clock id p c' := by
  cases i with
  | none => exact ⟨h.others.worker hs, h.doomed.step hs⟩
  | some k =>
      obtain ⟨hw, hothers, hproc⟩ := h.others.callback startEdge_trans hs
      refine ⟨hothers, ?_⟩
      rw [hproc]
      exact h.doomed.stable hw

/-- The statement at which a swap is lost. -/
theorem Racing.lose {s s' : Sessions (Option κ) Db Exc} (h : Racing clock id p c) (hA : Abstracts s c)
    (hbad : ¬ swapKept id p s i) (hs : s.step i = some s') :
    ∃ c', Losing clock id p c' ∧ Abstracts s' c' := by
  unfold swapKept at hbad
  push Not at hbad
  obtain ⟨hne, hfree, hat, s'', hs'', hchanged⟩ := hbad
  cases hs.symm.trans hs''
  rcases hA.step hs with hA' | ⟨c', hc, hA'⟩
  · rw [← hA'.db, ← hA.db] at hchanged
    exact absurd rfl hchanged
  · cases i with
    | none => exact absurd rfl hne
    | some k =>
        obtain ⟨hw, hothers, hproc⟩ := h.others.callback startEdge_trans hc
        rw [← hA'.db, ← hA.db] at hchanged
        rw [← hA.reader none hfree] at hat
        refine ⟨c', ⟨hothers, ?_⟩, hA'⟩
        rw [hproc]
        -- a job that is PRINTING is not moved, so the worker has read STARTING
        have hprinting : c.db.statusOf id ≠ some .printing := fun hd =>
          hchanged ((hw.status_kept hd (by decide)).trans hd.symm)
        have hconf := h.confirming
        generalize c.proc none = proc at hconf hat
        cases hconf with
        | begin =>
            obtain ⟨now, job, next, heq, hst⟩ := hat
            have hreads : (confirmLoaded now id p job).reads = false := confirmLoaded_reads hst
            rw [← (Proc.tx.inj heq).1] at hreads
            cases hreads
        | swap hst hd =>
            rcases hw.status_started hd with hsame | hstarted
            · exact absurd (hsame.trans hd.symm) hchanged
            · exact .swap hst hstarted
        | block _ hd => exact absurd hd hprinting
        | write hd => exact absurd hd hprinting
        | ended hd => exact absurd hd hprinting

omit [DecidableEq κ] in
/-- A run that loses no swap and has ended has confirmed the start. -/
theorem Racing.confirmed (h : Racing clock id p c) (hend : c.proc none = .ended) : Confirmed id p c.db := by
  have hconf := h.confirming
  generalize hproc : c.proc none = proc at hconf
  rw [hend] at hproc
  cases hconf with
  | ended hd hplate => exact ⟨hd, h.slot, hplate⟩
  | _ => cases hproc

omit [DecidableEq κ] in
/-- A run that has lost one has failed the job. -/
theorem Losing.failed (h : Losing clock id p c) (hend : c.proc none = .ended) :
    c.db.statusOf id = some .failed := by
  have hdoom := h.doomed
  generalize hproc : c.proc none = proc at hdoom
  rw [hend] at hproc
  cases hdoom with
  | decided hd => exact hd
  | _ => cases hproc

end steps

variable {s : Service} {h : Handoff} {snap : Snapshot}

/-- The two threads start out as they should. -/
theorem Woken.racing (hw : Woken s h snap) (clock : Nat → Time) (now : Time) :
    Racing clock h.id h.printer ⟨(startRace s h snap clock now).db, (startRace s h snap clock now).proc⟩ where
  slot := by
    obtain ⟨j, hj, hst⟩ := Option.map_eq_some_iff.mp hw.starting
    exact (disciplined_of_reach hw.reach).slot hw.worker hj (by rw [hst]; decide)
  others _ := callbackThread_within _ fun c hc => by
    cases List.mem_singleton.mp hc
    exact permits_start hw.report
  confirming := .begin (.inl hw.starting)

/-- **The start is confirmed** by an interleaving of the worker's next transaction with the callback of the same
    report exactly if the callback does not commit between the worker's SELECT and its swap. -/
theorem start_confirmed {clock : Nat → Time} {now : Time} {schedule : List (Option Unit)}
    {final : Sessions (Option Unit) Db Exc} (hw : Woken s h snap)
    (hrun : sessions.Follows always (startRace s h snap clock now) schedule final) (hend : final.ended) :
    Confirmed h.id h.printer final.db ↔
      sessions.Follows (swapKept h.id h.printer) (startRace s h snap clock now) schedule final := by
  have hstart := hw.racing clock now
  have hA : Abstracts (startRace s h snap clock now) _ := .of_unlocked rfl
  have racing : ∀ {s' : Sessions (Option Unit) Db Exc},
      sessions.Path (swapKept h.id h.printer) (startRace s h snap clock now) s' →
        ∃ c, Racing clock h.id h.printer c ∧ Abstracts s' c := fun hp => by
    obtain ⟨c, hpath, hA'⟩ := reduce_path hA hp
    exact ⟨c, hpath.keeps (.init trivial) hstart fun _ _ _ _ hR hok hs => hR.step hok hs, hA'⟩
  constructor
  · intro hconf
    rcases hrun.split (swapKept h.id h.printer) with hgood | ⟨s₁, i, s₂, hp, hbad, hs, hrest⟩
    · exact hgood
    · -- a lost swap ends in FAILED, whatever follows
      obtain ⟨c₁, hR, hA₁⟩ := racing hp
      obtain ⟨c₂, hL, hA₂⟩ := hR.lose hA₁ hbad hs
      obtain ⟨c₃, hpath, hA₃⟩ := reduce_path_always hA₂ hrest
      have hL₃ : Losing clock h.id h.printer c₃ :=
        hpath.keeps (.init trivial) hL fun _ _ _ _ hL _ hs => hL.step hs
      have hfailed := hL₃.failed (hA₃.ended (hend none))
      rw [hA₃.db, hconf.status] at hfailed
      cases hfailed
  · intro hgood
    obtain ⟨c, hR, hA'⟩ := racing hgood.path
    rw [← hA'.db]
    exact hR.confirmed (hA'.ended (hend none))

/-! ## Concrete interleavings -/

/-- The check that both threads of a race have been woken, and that `schedule` runs them to their end, each step
    passing `good`, in a database with property `q`. -/
def raceEnds (good : Sessions (Option Unit) Db Exc → Option Unit → Bool) (schedule : List (Option Unit))
    (q : JobId → PrinterID → Db → Bool) (s : Service) : Bool :=
  match s.handoffs, s.pending with
  | [h], [(p, .report snap)] =>
      h.printer = p && h.pc = .confirm && s.db.statusOf h.id = some .starting && snap.gcodeState = .running &&
        (sessions.run good (startRace s h snap (fun _ => s.clock) s.clock) schedule).any fun final =>
          (final.proc none).isEnded && (final.proc (some ())).isEnded && q h.id h.printer final.db
  | _, _ => false

theorem raceEnds_spec {good : Sessions (Option Unit) Db Exc → Option Unit → Bool}
    {schedule : List (Option Unit)} {q : JobId → PrinterID → Db → Bool} (hr : service.Reach always s)
    (hs : raceEnds good schedule q s = true) : ∃ h snap final, Woken s h snap ∧ final.ended ∧
      sessions.run good (startRace s h snap (fun _ => s.clock) s.clock) schedule = some final ∧
      q h.id h.printer final.db = true := by
  unfold raceEnds at hs
  split at hs
  · next h p snap hh hp =>
      simp only [Bool.and_eq_true, decide_eq_true_eq] at hs
      obtain ⟨⟨⟨⟨rfl, hpc⟩, hst⟩, hrep⟩, hrun⟩ := hs
      obtain ⟨final, hfinal, hrest⟩ := (Option.any_eq_true _ _).mp hrun
      simp only [Bool.and_eq_true] at hrest
      obtain ⟨⟨hend, hend'⟩, hq⟩ := hrest
      refine ⟨h, snap, final, ⟨hr, by simp [hh], hpc, hst, by simp [hp], by simp [hrep]⟩, fun i => ?_, hfinal, hq⟩
      cases i with
      | none => exact Proc.eq_ended hend
      | some => exact Proc.eq_ended hend'
  · cases hs

/-- The events up to the race: the start was published and acknowledged, and a RUNNING report has come. -/
def Script.wake : List Event :=
  Script.online ++ Script.reportState .idle ++ [Script.upload "a"] ++ Script.slice "a" ++ Script.dispatch ++
    Script.transfer ++ Script.publish ++
    [.handoff 0 (.answered .acknowledged), .live .p1s (.message { gcodeState := some .running }),
      .handoff 0 (.awaited false)]

/-- The worker reads STARTING; the callback runs and commits PRINTING; the worker's swap is lost, and it fails
    the job and releases the printer that is printing it. -/
theorem start_race : ¬ StartConfirmed := by
  intro hclaim
  obtain ⟨s, hr, hs⟩ := Machine.reach_of_run (M := service) Machine.always_of_anyStep Script.wake
    (raceEnds Machine.anyStep (none :: List.replicate 7 (some ()) ++ List.replicate 12 none)
      fun id p d => d.statusOf id = some .failed && (d.printers p).currentJobId = none)
    (service_init Script.p1sOnly 0) (by decide +kernel)
  obtain ⟨h, snap, final, hw, hend, hrun, hq⟩ := raceEnds_spec hr hs
  have hconf := hclaim s h snap _ _ _ final hw
    (Machine.follows_of_run Machine.always_of_anyStep hrun) hend
  obtain ⟨hfailed, -⟩ := Bool.and_eq_true_iff.mp hq
  rw [hconf.status] at hfailed
  cases of_decide_eq_true hfailed

/-- The check that the callback does not move before the worker has ended. -/
def workerFirst (s : Sessions (Option Unit) Db Exc) (i : Option Unit) : Bool :=
  i = none || (s.proc none).isEnded

theorem workerFirst_ok (id : JobId) (p : PrinterID) (s : Sessions (Option Unit) Db Exc) (i : Option Unit)
    (h : workerFirst s i = true) : swapKept id p s i := by
  rintro hne - ⟨now, job, next, hproc, -⟩
  simp [workerFirst, hne, hproc, Proc.isEnded] at h

/-- The worker commits PRINTING before the callback does. -/
theorem start_confirmed_worker_first : ∃ s h snap schedule final, Woken s h snap ∧
    sessions.Follows always (startRace s h snap (fun _ => s.clock) s.clock) schedule final ∧
    Confirmed h.id h.printer final.db := by
  obtain ⟨s, hr, hs⟩ := Machine.reach_of_run (M := service) Machine.always_of_anyStep Script.wake
    (raceEnds workerFirst (List.replicate 7 none ++ List.replicate 4 (some ())) fun _ _ _ => true)
    (service_init Script.p1sOnly 0) (by decide +kernel)
  obtain ⟨h, snap, final, hw, hend, hrun, -⟩ := raceEnds_spec hr hs
  have hgood := Machine.follows_of_run (workerFirst_ok h.id h.printer) hrun
  have hall := Machine.follows_of_run (fun _ _ _ => trivial) hrun
  exact ⟨s, h, snap, _, final, hw, hall, (start_confirmed hw hall hend).mpr hgood⟩

end BambuBabu
