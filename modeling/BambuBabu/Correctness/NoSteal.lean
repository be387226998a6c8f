import BambuBabu.Service.Workers

/-!
# `Correctness.NoSteal` — does an available printer keep its own work?

The queue loop looks at the preferred printer of a queued job when it schedules the fallback. The worker that
re-slices the job takes minutes, and its commit reassigns the job without looking again: in between the
preferred printer may have come online, been cleared, or lost its job.

* `stolen_job` — the failing run.
* `NoSteal` — no fallback that commits takes a job from an available printer; `Freeing` — the three steps that make
  a printer available.
* `no_steal` — **the theorem**: in every run in which none of these steps befalls a printer while one of its jobs is
  being re-sliced, no job is taken from an available printer.
-/

namespace BambuBabu

open Storage Runs

/-- The printer is enabled, idle, cleared and unowned: `source_available` in `_try_schedule_fallback`. -/
def Service.sourceAvailable (s : Service) (p : PrinterID) : Bool :=
  s.settings.printerEnabled p && (s.db.printers p).available

/-- The worker is in `_reslice_for_fallback`, before the end of its second block. -/
def SliceTask.reroutes : SliceTask → Bool
  | recheck _ | reslice _ _ | restore _ _ _ => true
  | start | analyse _ | plan _ _ | slice _ _ | store _ _ _ | failing _ | aborting _ | finished => false

/-- A worker is re-slicing the job for another printer. -/
def Rerouting (s : Service) (id : JobId) : Prop := ∃ task, s.slices id = some task ∧ task.reroutes = true

/-- The fallback worker of the job commits its second block, and that takes the job from printer `a` to
    printer `b`. -/
structure Reroutes (s s' : Service) (id : JobId) (a b : PrinterID) : Prop where
  worker : ∃ path est, s.slices id = some (.restore b path est)
  step : service.step s (.slice id .next) = some s'
  source : ∃ j, s.db.job id = some j ∧ j.assignedPrinter = some a
  target : ∃ j, s'.db.job id = some j ∧ j.assignedPrinter = some b
  moved : a ≠ b

/-- A fallback that commits now takes no job from an available printer. -/
def NoSteal (s : Service) : Prop :=
  ∀ s' id a b, Reroutes s s' id a b → s.sourceAvailable a = false

/-- **What makes an enabled printer available**: the step that supplies the last thing it lacks. -/
inductive Freeing (s : Service) (p : PrinterID) : Event → Prop
  /-- The status callback stores IDLE; the plate is clear and nobody owns the slot. -/
  | reportsIdle {i : Nat} {c : Callback} {snap : Snapshot} (hi : s.pending[i]? = some (p, c))
      (hc : c.payload = some snap) (hidle : statusMap snap.status = .idle)
      (hclear : (s.db.printers p).plateCleared = true) (hslot : (s.db.printers p).currentJobId = none) :
      Freeing s p (.callback i)
  /-- A plate-cleared request passes its checks; the printer is idle. -/
  | clearsPlate (hlive : s.settings.livePrinterEnabled p = true) (hblocked : (s.db.printers p).plateCleared = false)
      (hidle : (s.db.printers p).status = .idle)
      (hdone : ∀ id j, (s.db.printers p).currentJobId = some id → s.db.job id = some j →
        j.status ∉ [.printing, .starting]) : Freeing s p (.plateCleared p)
  /-- The worker of a handoff that failed gives the printer back. -/
  | releases {i : Nat} {h : Handoff} {ev : HandoffEvent} (hh : s.handoffs[i]? = some h) (hp : h.printer = p)
      (hpc : h.pc = .releasing) (hown : (s.db.printers p).currentJobId = some h.id)
      (hfailed : s.db.statusOf h.id = some .failed) : Freeing s p (.handoff i ev)

/-- The step makes no printer available while one of its jobs is being re-sliced for another one. -/
def freesNoSource (s : Service) (e : Event) : Prop :=
  ∀ id j p, Rerouting s id → s.db.job id = some j → j.status = .slicing → j.assignedPrinter = some p →
    s.settings.printerEnabled p = true → ¬ Freeing s p e

/-- **The invariant**: the printers whose jobs are being re-sliced for another one are not available. -/
def SourcesUnavailable (s : Service) : Prop :=
  ∀ id j p, Rerouting s id → s.db.job id = some j → j.status = .slicing → j.assignedPrinter = some p →
    s.sourceAvailable p = false

variable {s s' : Service} {e : Event} {id : JobId} {j : Job} {a b p : PrinterID}

/-! ## What frees a printer -/

/-- Only a start changes the configuration. -/
theorem Trans.settings_kept (ht : Trans s e s') (hno : ∀ cfg, e ≠ .boot cfg) : s'.settings = s.settings := by
  cases ht with
  | boot => exact absurd rfl (hno _)
  | live _ hstep => exact (liveStep_frame hstep).settings
  | callback _ ht => cases ht <;> rfl
  | tick _ ht => cases ht <;> rfl
  | slice _ _ ht => cases ht <;> rfl
  | handoff _ _ ht => cases ht <;> rfl
  | _ => rfl

/-- A plate-cleared request that changes the plate has passed its checks. -/
theorem clearsPlate_of_cleared (hr : service.Reach always s) (hstep : service.step s (.plateCleared p) = some s')
    (hblocked : (s.db.printers p).plateCleared = false) (hclear : (s'.db.printers p).plateCleared = true)
    (hidle : (s.db.printers p).status = .idle) : Freeing s p (.plateCleared p) := by
  have howner : ∀ id, (s.db.printers p).currentJobId = some id → s.db.job id ≠ none := fun id hid => by
    obtain ⟨j, hj, -⟩ := (disciplined_of_reach hr).floor.owner p id hid
    rw [← Db.floor_job, hj]
    exact Option.some_ne_none j
  rcases hc : (markPlateCleared s.settings s.clock p).commit s.db with ⟨r, d⟩
  have hdb : s'.db = d := by
    have hstep : s.step (.plateCleared p) = some s' := hstep
    unfold Service.step at hstep
    cases hphase : s.phase <;> simp only [hphase, hc] at hstep <;> cases hstep
    rfl
  obtain ⟨rfl, -⟩ | ⟨owner, -, hslot, hm, -, hlive, -⟩ := markPlateCleared_commit hc howner
  · rw [hdb, hblocked] at hclear
    cases hclear
  · refine .clearsPlate hlive hblocked hidle fun id j hid hj => ?_
    generalize d.floor = f at hm
    cases hm with
    | clearOwned _ hslot' hj' hs =>
        cases Option.some.inj (hslot'.symm.trans hid)
        cases Option.some.inj (hj'.symm.trans hj)
        exact hs
    | clearEmpty _ hnone =>
        cases hnone.symm.trans hid

/-- **A printer that was not available becomes so** when it reports IDLE, when its plate is cleared, when the handoff
    of a failed job gives it back, or when the service is started with it enabled. -/
theorem freeing_of_frees (hr : service.Reach always s) (hstep : service.step s e = some s')
    (hno : s.sourceAvailable p = false) (hyes : s'.sourceAvailable p = true) :
    (s.settings.printerEnabled p = true ∧ Freeing s p e) ∨ ∃ cfg, e = .boot cfg := by
  have ht := trans_of_reach hr hstep
  obtain ⟨hen, hav⟩ := Bool.and_eq_true_iff.mp hyes
  obtain ⟨hidle, hclear, hnone⟩ : (s'.db.printers p).status = .idle ∧ (s'.db.printers p).plateCleared = true ∧
      (s'.db.printers p).currentJobId = none := by
    simpa [PrinterState.available, and_assoc] using hav
  have hblocked : (s'.db.printers p).plateCleared ≠ false := by rw [hclear]; decide
  by_cases hboot : ∃ cfg, e = .boot cfg
  · exact .inr hboot
  rw [not_exists] at hboot
  rw [ht.settings_kept hboot] at hen
  refine .inl ⟨hen, ?_⟩
  cases ht.printer p with
  | kept hsame =>
      rw [Service.sourceAvailable, ht.settings_kept hboot, hsame] at hyes
      exact absurd (hno.symm.trans hyes) (by decide)
  | reported he hi hc _ hslot hplate hst =>
      subst he
      exact .reportsIdle hi hc (hst.symm.trans hidle) (hplate.symm.trans hclear) (hslot.symm.trans hnone)
  | settled _ _ _ _ _ _ _ _ hplate => exact absurd hplate hblocked
  | dispatched _ _ hslot =>
      rw [hnone] at hslot
      cases hslot
  | blocked _ _ _ _ _ hplate => exact absurd hplate hblocked
  | quarantined _ _ _ _ _ hplate => exact absurd hplate hblocked
  | released he hh hp hpc hown hj hs =>
      subst he
      exact .releases hh hp hpc hown (by rw [Db.statusOf_eq hj, hs])
  | cleared he hplate _ _ hst =>
      subst he
      exact clearsPlate_of_cleared hr hstep hplate hclear (hst.symm.trans hidle)
  | recovered _ _ hplate => exact absurd hplate hblocked

/-! ## The jobs that are being re-sliced -/

/-- A worker that goes on re-slicing has written nothing yet. -/
theorem SliceTrans.rerouting {task task' : SliceTask} (ht : SliceTrans s id task s')
    (htask' : s'.slices id = some task') (hre : task'.reroutes = true) :
    task.reroutes = true ∧ s'.db = s.db := by
  have htarget : ∀ {t : SliceTask} {d : Db}, ((s.commitDb d).setSlice id (some t)).slices id = some task' →
      t.reroutes = true := by
    intro t d h
    cases (Function.update_self ..).symm.trans h
    exact hre
  cases ht with
  | @goto t hloc =>
      have hsame : Function.update s.slices id t id = some task' := htask'
      rw [Function.update_self] at hsame
      subst hsame
      refine ⟨?_, rfl⟩
      cases hloc <;> cases hre
  | rechecked htsk | resliced htsk => exact ⟨by rw [htsk]; rfl, rfl⟩
  | sliced =>
      cases (Function.update_self ..).symm.trans htask'
      cases hre
  | _ => cases htarget htask'

/-- **A fallback begins by looking at the printer.** -/
theorem Trans.rerouting (ht : Trans s e s') (hre : Rerouting s' id) (hj : s'.db.job id = some j)
    (hp : j.assignedPrinter = some p) : Rerouting s id ∨ s'.sourceAvailable p = false := by
  obtain ⟨task, htask, hreroutes⟩ := hre
  cases ht.task htask with
  | kept hold => exact .inl ⟨task, hold, hreroutes⟩
  | submitted htsk =>
      subst htsk
      cases hreroutes
  | withdrawn _ _ _ _ _ _ hi' hsource hunavailable =>
      cases Option.some.inj (hj.symm.trans hi')
      cases Option.some.inj (hp.symm.trans hsource)
      exact .inr hunavailable
  | moved _ _ htask₀ hst => exact .inl ⟨_, htask₀, (hst.rerouting htask hreroutes).1⟩

/-- Until the fallback commits its job stays at its printer. -/
theorem Trans.still_assigned (ht : Trans s e s') (hD : Disciplined s) (hW : Working s) (hre : Rerouting s id)
    (hre' : Rerouting s' id) (hj' : s'.db.job id = some j) (hs : j.status = .slicing) :
    ∃ i, s.db.job id = some i ∧ i.status = .slicing ∧ i.assignedPrinter = j.assignedPrinter := by
  obtain ⟨task, htask, hreroutes⟩ := hre
  have hst : s.db.statusOf id ∈ [some .analysing, some .slicing, some .cancelled] := by
    rcases SliceTask.knows_cases (hW id task htask) with (rfl | rfl) | hmem
    · cases hreroutes
    · cases hreroutes
    · exact hmem
  cases hi : s.db.job id with
  | none => simp [Db.statusOf, hi] at hst
  | some i =>
      rw [Db.statusOf_eq hi] at hst
      rcases ht.undisturbed hD htask hi (by simpa using hst) with hown | ⟨i', hi', hticket, hsame | hcan⟩
      · obtain ⟨task', htask', hreroutes'⟩ := hre'
        rw [(hown.rerouting htask' hreroutes').2, hi] at hj'
        cases hj'
        exact ⟨_, rfl, hs, rfl⟩
      · cases Option.some.inj (hj'.symm.trans hi')
        exact ⟨i, rfl, hsame.symm.trans hs, (Job.ticket_assignedPrinter hticket).symm⟩
      · cases Option.some.inj (hj'.symm.trans hi')
        rw [hs] at hcan
        cases hcan

/-! ## The theorem -/

/-- **A step that frees no source printer** leaves them all unavailable. -/
theorem SourcesUnavailable.step (hr : service.Reach always s) (hU : SourcesUnavailable s)
    (hok : freesNoSource s e) (hstep : service.step s e = some s') : SourcesUnavailable s' := by
  intro id j p hre' hj' hs hp
  have ht := trans_of_reach hr hstep
  rcases ht.rerouting hre' hj' hp with hre | hunavailable
  · obtain ⟨i, hi, hst, hassigned⟩ :=
      ht.still_assigned (disciplined_of_reach hr) (working_of_reach hr) hre hre' hj' hs
    rw [hp] at hassigned
    have hno := hU id i p hre hi hst hassigned
    by_contra hav
    have hav : s'.sourceAvailable p = true := by simpa using hav
    rcases freeing_of_frees hr hstep hno hav with ⟨hen, hfrees⟩ | ⟨cfg, rfl⟩
    · exact hok id i p hre hi hst hassigned hen hfrees
    · -- no worker outlives the process
      obtain ⟨task, htask, -⟩ := hre'
      cases ht with
      | same => exact absurd (hno.symm.trans hav) (by decide)
      | cancel he => rcases he with he | he <;> cases he
      | boot => cases htask
  · exact hunavailable

theorem sourcesUnavailable_of_reach (h : service.Reach freesNoSource s) : SourcesUnavailable s := by
  refine Machine.Reach.invariant (I := SourcesUnavailable) ?_ ?_ h
  · rintro s ⟨cfg, now, rfl⟩ id j p ⟨task, htask, -⟩
    cases htask
  · intro s e s' hr hU hok hstep
    exact hU.step hr.weaken hok hstep

/-- A fallback that reassigns its job finds it SLICING. -/
theorem Reroutes.slicing (hr : service.Reach always s) (h : Reroutes s s' id a b) :
    ∃ j, s.db.job id = some j ∧ j.status = .slicing ∧ j.assignedPrinter = some a := by
  obtain ⟨path, est, htask⟩ := h.worker
  obtain ⟨j, hj, ha⟩ := h.source
  obtain ⟨j', hj', hb⟩ := h.target
  have ht := trans_of_reach hr h.step
  -- a worker that loses its swap leaves the job where it is
  have hmoved : s'.db ≠ s.db := by
    intro hsame
    rw [hsame, hj] at hj'
    cases hj'
    exact h.moved (Option.some.inj (ha.symm.trans hb))
  cases ht with
  | same => exact absurd rfl hmoved
  | cancel he => rcases he with he | he <;> cases he
  | slice _ htask' hst =>
      cases Option.some.inj (htask.symm.trans htask')
      cases hst with
      | goto => exact absurd rfl hmoved
      | restored _ hi hs =>
          cases Option.some.inj (hj.symm.trans hi)
          exact ⟨_, hj, hs, ha⟩
      | rechecked => exact absurd rfl hmoved
      | sliced => exact absurd rfl hmoved
      | resliced => exact absurd rfl hmoved
      | analysing htsk | reject htsk | planned htsk | stored htsk | failed htsk | aborted htsk => cases htsk

/-- **An available printer keeps its work** in every run in which no printer is freed while one of its jobs is being
    re-sliced for another one: every fallback that takes a job from a printer finds this printer unavailable. -/
theorem no_steal (h : service.Reach freesNoSource s) : NoSteal s := by
  intro s' id a b hsteal
  obtain ⟨path, est, htask⟩ := hsteal.worker
  obtain ⟨j, hj, hs, ha⟩ := hsteal.slicing h.weaken
  exact sourcesUnavailable_of_reach h id j a ⟨_, htask, rfl⟩ hj hs ha

/-! ## The failing run -/

/-- A deployment with both printers. -/
def bothPrinters : Settings := { Script.p1sOnly with a1MiniEnabled := true }

/-- A job for the A1 Mini, which is offline, is re-sliced for the P1S. -/
def fallbackSliced : List Event :=
  [.boot bothPrinters, .reconcile, .live .p1s .connectMqtt, .live .p1s (.onConnect 0)] ++
    Script.reportState .idle ++ [Script.upload "a"] ++ Script.slice "a" ++ [.tick, .tick, .tick, .tick] ++
    [.slice "a" .next, .slice "a" (.sliced (.sliced (some 30)))]

/-- The A1 Mini comes online and reports IDLE. -/
def a1MiniOnline : List Event :=
  [.live .a1Mini .connectMqtt, .live .a1Mini (.onConnect 0), .live .a1Mini (.message { gcodeState := some .idle }),
    .callback 0]

/-- The fallback worker of job `a` is about to commit a slice for the P1S that takes it from the A1 Mini. -/
def reroutesToP1s (s : Service) : Bool :=
  decide (s.slices "a" = some (.restore .p1s "data/sliced/a-p1s.gcode.3mf" (some 30))) &&
    (s.db.job "a").any (fun j => decide (j.assignedPrinter = some .a1Mini)) &&
    (service.step s (.slice "a" .next)).any fun s' =>
      (s'.db.job "a").any fun j => decide (j.assignedPrinter = some .p1s)

theorem reroutes_to_p1s (h : reroutesToP1s s = true) : ∃ s', Reroutes s s' "a" .a1Mini .p1s := by
  obtain ⟨hbefore, hstep⟩ := Bool.and_eq_true_iff.mp h
  obtain ⟨hworker, hsource⟩ := Bool.and_eq_true_iff.mp hbefore
  obtain ⟨j, hj, ha⟩ := (Option.any_eq_true _ _).mp hsource
  obtain ⟨s', hs', htarget⟩ := (Option.any_eq_true _ _).mp hstep
  obtain ⟨j', hj', hb⟩ := (Option.any_eq_true _ _).mp htarget
  exact ⟨s', {
    worker := ⟨_, _, of_decide_eq_true hworker⟩
    step := hs'
    source := ⟨j, hj, of_decide_eq_true ha⟩
    target := ⟨j', hj', of_decide_eq_true hb⟩
    moved := by decide }⟩

theorem stolen_job : ¬ ∀ s, service.Reach always s → NoSteal s := by
  intro hclaim
  obtain ⟨s, hr, hs⟩ := Machine.reach_of_run (M := service) Machine.always_of_anyStep
    (fallbackSliced ++ a1MiniOnline) (fun s : Service => reroutesToP1s s && s.sourceAvailable .a1Mini)
    (service_init Script.p1sOnly 0) (by decide +kernel)
  obtain ⟨hre, hav⟩ := Bool.and_eq_true_iff.mp hs
  obtain ⟨s', h⟩ := reroutes_to_p1s hre
  exact absurd (hav.symm.trans (hclaim s hr s' _ _ _ h)) (by decide)

/-- The check that nothing but the other workers moves while a job is being re-sliced. -/
def freesNoSourceCheck (s : Service) (e : Event) : Bool :=
  (s.db.jobs.rows.all fun row => !(s.slices row.1).any SliceTask.reroutes) ||
    match e with
    | .callback _ | .plateCleared _ | .handoff _ _ => false
    | _ => true

theorem freesNoSource_of_check (s : Service) (e : Event) (h : freesNoSourceCheck s e = true) :
    freesNoSource s e := by
  rintro id j p ⟨task, htask, hreroutes⟩ hj - - - hfrees
  rcases Bool.or_eq_true_iff.mp h with hnone | hother
  · have hrow := List.all_eq_true.mp hnone (id, j) (Table.mem_rows_iff.mpr hj)
    simp [htask, hreroutes] at hrow
  · cases hfrees <;> cases hother

/-- A job of the A1 Mini, which stays offline, goes to the P1S. -/
theorem no_steal_offline : ∃ s, service.Reach freesNoSource s ∧ (∃ s', Reroutes s s' "a" .a1Mini .p1s) ∧
    NoSteal s := by
  obtain ⟨s, hr, hs⟩ := Machine.reach_of_run (M := service) freesNoSource_of_check
    fallbackSliced reroutesToP1s (service_init Script.p1sOnly 0) (by decide +kernel)
  exact ⟨s, hr, reroutes_to_p1s hs, no_steal hr⟩

end BambuBabu
