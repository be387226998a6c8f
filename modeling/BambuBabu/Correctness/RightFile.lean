import BambuBabu.Service.Stock

/-!
# `Correctness.RightFile` — the right file on the right printer

The columns that decide what is uploaded (`assigned_printer`, `sliced_path` and the bounding box) are written
by different transactions of two kinds of worker, and a dispatch worker keeps the path it was given while the
row may move on. What ties them together is where the path came from: it was sliced from the job's own model
for one printer, and the box was checked against that printer.

* `Stocked` — the invariant: a queued job, a worker that slices it and a worker that uploads it each hold a
  path with that provenance, or enough of it to obtain one.
* `right_file` — **the theorem**: under fixed settings, every upload and every queued job has it.
-/

namespace BambuBabu

open Storage Runs

/-- Every start of the service is with the settings `cfg`. -/
def fixedSettings (cfg : Settings) (_ : Service) (e : Event) : Prop := ∀ c, e = .boot c → c = cfg

/-- `path` was sliced from the model of the job for printer `p`, and the job's bounding box fits `p`. -/
def Job.madeFor (cfg : Settings) (history : List Occurrence) (j : Job) (p : PrinterID) (path : String) :
    Prop :=
  .sliced j.stlPath p path ∈ history ∧ j.fitsOn cfg p = true

/-- The job's sliced file was made for the printer it is assigned to. -/
def Job.ready (cfg : Settings) (history : List Occurrence) (j : Job) : Prop :=
  ∃ p path, j.assignedPrinter = some p ∧ j.slicedPath = some path ∧ j.madeFor cfg history p path

/-- Each upload on record went to an enabled printer with a file made for it, and each queued job is ready. -/
structure RightFile (cfg : Settings) (s : Service) : Prop where
  uploads : ∀ later id p path earlier, s.history = later ++ .uploaded id p path :: earlier →
    ∃ j, s.db.job id = some j ∧ cfg.livePrinterEnabled p = true ∧ j.madeFor cfg earlier p path
  queued : ∀ id j, s.db.job id = some j → j.status = .queued → j.ready cfg s.history

section ticket

variable {cfg : Settings} {history history' : List Occurrence} {j j' : Job} {p : PrinterID} {path : String}

/-- All of this is read off the ticket of a job. -/
theorem Job.ticket_stlPath (h : j'.ticket = j.ticket) : j'.stlPath = j.stlPath := congrArg Ticket.stlPath h

theorem Job.ticket_slicedPath (h : j'.ticket = j.ticket) : j'.slicedPath = j.slicedPath :=
  congrArg Ticket.slicedPath h

theorem Job.ticket_fitsOn (h : j'.ticket = j.ticket) : j'.fitsOn cfg p = j.fitsOn cfg p := by
  have hx : j'.bboxX = j.bboxX := congrArg Ticket.bboxX h
  have hy : j'.bboxY = j.bboxY := congrArg Ticket.bboxY h
  have hz : j'.bboxZ = j.bboxZ := congrArg Ticket.bboxZ h
  unfold Job.fitsOn
  rw [hx, hy, hz]

/-- Provenance is never lost. -/
theorem Job.madeFor.mono (h : j.madeFor cfg history p path) (ht : j'.ticket = j.ticket)
    (hist : history ⊆ history') : j'.madeFor cfg history' p path := by
  obtain ⟨hsliced, hfit⟩ := h
  refine ⟨?_, (Job.ticket_fitsOn ht).trans hfit⟩
  rw [Job.ticket_stlPath ht]
  exact hist hsliced

theorem Job.ready.mono (h : j.ready cfg history) (ht : j'.ticket = j.ticket) (hist : history ⊆ history') :
    j'.ready cfg history' := by
  obtain ⟨p, path, ha, hs, hmade⟩ := h
  exact ⟨p, path, (Job.ticket_assignedPrinter ht).trans ha, (Job.ticket_slicedPath ht).trans hs,
    hmade.mono ht hist⟩

end ticket

/-! ## What the workers hold -/

/-- What a slicing worker holds while its job is being analysed or sliced. A fallback worker leaves the old
    file of the job in place until it has a new one. -/
def SliceTask.holds (cfg : Settings) (history : List Occurrence) (j : Job) : SliceTask → Prop
  | start | failing _ | finished => True
  | analyse stl | plan stl _ => stl = j.stlPath
  | slice stl p => stl = j.stlPath ∧ j.assignedPrinter = some p ∧ j.fitsOn cfg p = true
  | store p path _ => j.assignedPrinter = some p ∧ j.madeFor cfg history p path
  | recheck p => j.ready cfg history ∧ j.fitsOn cfg p = true
  | reslice stl p => j.ready cfg history ∧ stl = j.stlPath ∧ j.fitsOn cfg p = true
  | restore p path _ => j.madeFor cfg history p path
  | aborting _ => j.ready cfg history

theorem SliceTask.holds.mono {cfg : Settings} {history history' : List Occurrence} {j j' : Job}
    {task : SliceTask} (h : task.holds cfg history j) (ht : j'.ticket = j.ticket)
    (hist : history ⊆ history') : task.holds cfg history' j' := by
  have hstl := Job.ticket_stlPath ht
  have ha := Job.ticket_assignedPrinter ht
  cases task with
  | start => trivial
  | failing => trivial
  | finished => trivial
  | analyse => exact h.trans hstl.symm
  | plan => exact h.trans hstl.symm
  | slice => exact ⟨h.1.trans hstl.symm, ha.trans h.2.1, (Job.ticket_fitsOn ht).trans h.2.2⟩
  | store => exact ⟨ha.trans h.1, h.2.mono ht hist⟩
  | recheck => exact ⟨h.1.mono ht hist, (Job.ticket_fitsOn ht).trans h.2⟩
  | reslice => exact ⟨h.1.mono ht hist, h.2.1.trans hstl.symm, (Job.ticket_fitsOn ht).trans h.2.2⟩
  | restore => exact Job.madeFor.mono h ht hist
  | aborting => exact Job.ready.mono h ht hist

variable {s s' : Service} {e : Event} {id : JobId} {j j' : Job} {cfg : Settings}

/-- **A slicing worker queues its job with the file it was slicing**, or with the one the job had. -/
theorem SliceTrans.queues {task : SliceTask} (ht : SliceTrans s id task s') (hj : s.db.job id = some j)
    (hs : j.status = .slicing) (hj' : s'.db.job id = some j') (hs' : j'.status = .queued)
    (hold : task.holds cfg s.history j) : j'.ready cfg s'.history := by
  obtain ⟨hist, hcase⟩ := ht.queues_cases hj hs hj' hs'
  rw [hist]
  rcases hcase with ⟨p, path, est, now, rfl, rfl⟩ | ⟨p, path, est, now, rfl, rfl⟩ | ⟨m, rfl, htk⟩
  · exact ⟨p, path, hold.1, rfl, hold.2⟩
  · exact ⟨p, path, rfl, rfl, hold⟩
  · exact Job.ready.mono hold htk (List.Subset.refl _)

/-- **A slicing worker keeps what it holds.** -/
theorem SliceTrans.holds {task task' : SliceTask} (hset : s.settings = cfg) (ht : SliceTrans s id task s')
    (hj : s.db.job id = some j)
    (hold : j.status ∈ [.analysing, .slicing] → task.holds cfg s.history j)
    (htask' : s'.slices id = some task') (hj' : s'.db.job id = some j')
    (hs' : j'.status ∈ [.analysing, .slicing]) : task'.holds cfg s'.history j' := by
  cases ht with
  | @goto next hloc =>
      cases Option.some.inj (hj.symm.trans hj')
      cases (Function.update_self ..).symm.trans htask'
      cases hloc with
      | analysed => exact hold hs'
      | resliceFailed => exact (hold hs').1
      | _ => trivial
  | @analysing d i _ hi _ hm =>
      cases Option.some.inj (hj.symm.trans hi)
      cases (Function.update_self ..).symm.trans htask'
      obtain ⟨k, hk, hstl, -⟩ := hm.row hj
      cases Option.some.inj (hk.symm.trans hj')
      exact hstl.symm
  | @planned d stl a p i now htsk hchoice hi hst hf =>
      subst htsk
      cases Option.some.inj (hj.symm.trans hi)
      cases (Function.update_self ..).symm.trans htask'
      have hd : d.job id = some ((j.analysed a p).transitioned now .slicing none none) := Db.job_of_floor hf
      cases Option.some.inj (hd.symm.trans hj')
      -- the box that is stored is the one the printer was selected for
      exact ⟨hold (by rw [hst]; decide), rfl, hset ▸ (selectPrinter_sound hchoice).2⟩
  | sliced htsk =>
      subst htsk
      cases Option.some.inj (hj.symm.trans hj')
      cases (Function.update_self ..).symm.trans htask'
      obtain ⟨rfl, ha, hfit⟩ := hold hs'
      exact ⟨ha, List.mem_cons_self, hfit⟩
  | rechecked htsk hi _ =>
      subst htsk
      cases Option.some.inj (hj.symm.trans hi)
      cases Option.some.inj (hj.symm.trans hj')
      cases (Function.update_self ..).symm.trans htask'
      obtain ⟨hready, hfit⟩ := hold hs'
      exact ⟨hready, rfl, hfit⟩
  | resliced htsk =>
      subst htsk
      cases Option.some.inj (hj.symm.trans hj')
      cases (Function.update_self ..).symm.trans htask'
      obtain ⟨-, rfl, hfit⟩ := hold hs'
      exact ⟨List.mem_cons_self, hfit⟩
  | _ =>
      cases (Function.update_self ..).symm.trans htask'
      trivial

/-- Where every path that will be uploaded, or was, came from. -/
structure Stocked (cfg : Settings) (s : Service) : Prop where
  settings : s.phase ≠ .down → s.settings = cfg
  queued : ∀ id j, s.db.job id = some j → j.status = .queued → j.ready cfg s.history
  tasks : ∀ id task j, s.slices id = some task → s.db.job id = some j →
    j.status ∈ [.analysing, .slicing] → task.holds cfg s.history j
  workers : ∀ h ∈ s.handoffs, ∀ j, s.db.job h.id = some j →
    h.slicedPath = j.slicedPath ∧ j.ready cfg s.history
  uploads : ∀ later id p path earlier, s.history = later ++ .uploaded id p path :: earlier →
    ∃ j, s.db.job id = some j ∧ j.status ∈ owning ∧ cfg.livePrinterEnabled p = true ∧
      j.madeFor cfg earlier p path

/-- What `Stocked` knows of the jobs from their slicing to the queue. -/
def provenance (cfg : Settings) (history : List Occurrence) : Stock where
  queued j := j.ready cfg history
  held task j := task.holds cfg history j

namespace Stocked

theorem inStock (hS : Stocked cfg s) : (provenance cfg s.history).In s := ⟨hS.queued, hS.tasks⟩

/-- The provenance of a job survives every step of a service with the settings `cfg`. -/
theorem survives (hS : Stocked cfg s) (ht : Trans s e s') :
    Stock.Survives (provenance cfg s.history) (provenance cfg s'.history) s s' := by
  have hmono : s.history ⊆ s'.history := fun _ ho => ht.history_mono ho
  have hset : s.phase = .running → s.settings = cfg := fun hrun => hS.settings (by rw [hrun]; decide)
  exact {
    queued := fun j j' hready htk => hready.mono htk hmono
    held := fun task j j' hholds htk => hholds.mono htk hmono
    idle := fun task j hidle => by rcases hidle with rfl | rfl <;> trivial
    withdrawn := fun p j j' hrun hfit hready htk =>
      ⟨hready.mono htk hmono, (Job.ticket_fitsOn htk).trans (hset hrun ▸ hfit)⟩
    queues := fun _ _ _ _ hslice hj hs hold hj' hs' => hslice.queues hj hs hj' hs' hold
    holds := fun _ _ _ _ _ hrun hslice hj hold htask' hj' hs' => hslice.holds (hset hrun) hj hold htask' hj' hs' }

theorem step_workers (hS : Stocked cfg s) (hD : Disciplined s) (ht : Trans s e s') {h' : Handoff}
    (hh' : h' ∈ s'.handoffs) (hj' : s'.db.job h'.id = some j') :
    h'.slicedPath = j'.slicedPath ∧ j'.ready cfg s'.history := by
  have hmono : s.history ⊆ s'.history := fun _ ho => ht.history_mono ho
  rcases ht.handoffs.mem hh' with ⟨h, hh, hid, -, hpath, -⟩ | ⟨i, i', hi, hst, hi', -, -, htk, hpath, -⟩
  · obtain ⟨j, hj, hown, -⟩ := hD.sent h hh
    obtain ⟨i, hi, -, htk⟩ := ht.moves.sent hj hown
    rw [hid] at hj'
    cases Option.some.inj (hi.symm.trans hj')
    obtain ⟨hsame, hready⟩ := hS.workers h hh j hj
    exact ⟨hpath.trans (hsame.trans (Job.ticket_slicedPath htk).symm), hready.mono htk hmono⟩
  · -- the worker was just given the path of a queued job
    cases Option.some.inj (hi'.symm.trans hj')
    exact ⟨hpath.trans (Job.ticket_slicedPath htk).symm, (hS.queued _ i hi hst).mono htk hmono⟩

theorem step_uploads (hS : Stocked cfg s) (hD : Disciplined s) (ht : Trans s e s') {p : PrinterID}
    {path : String} {later earlier : List Occurrence}
    (hsplit : s'.history = later ++ .uploaded id p path :: earlier) :
    ∃ j, s'.db.job id = some j ∧ j.status ∈ owning ∧ cfg.livePrinterEnabled p = true ∧
      j.madeFor cfg earlier p path := by
  rcases ht.history.upload_cases hsplit with ⟨later', hold⟩ | ⟨rfl, hdb, h, hh, rfl, rfl, harg⟩
  · obtain ⟨j, hj, hown, hlive, hmade⟩ := hS.uploads later' id p path earlier hold
    obtain ⟨j', hj', hown', htk⟩ := ht.moves.sent hj hown
    exact ⟨j', hj', hown', hlive, hmade.mono htk (List.Subset.refl _)⟩
  · -- the worker uploads the file of its job on the printer the job was sent to
    have hrun : s.phase ≠ .down := fun hdown => by
      rw [(hD.idle (by rw [hdown]; decide)).1] at hh
      cases hh
    obtain ⟨hlive, hpath⟩ := uploadArgument_sound harg
    obtain ⟨j, hj, hown, ha⟩ := hD.sent h hh
    obtain ⟨hsame, q, path', ha', hpath', hmade⟩ := hS.workers h hh j hj
    cases Option.some.inj (ha.symm.trans ha')
    cases Option.some.inj (hpath.symm.trans (hsame.trans hpath'))
    exact ⟨j, hdb ▸ hj, hown, hS.settings hrun ▸ hlive, hmade⟩

/-- **Every step keeps the provenance.** -/
theorem step (hS : Stocked cfg s) (hD : Disciplined s) (hW : Working s) (ht : Trans s e s')
    (hok : fixedSettings cfg s e) : Stocked cfg s' where
  settings hup := by
    rcases ht.settings with hdown | hboot | ⟨hup₀, hsame⟩
    · exact absurd hdown hup
    · exact hok _ hboot
    · exact hsame.trans (hS.settings hup₀)
  queued := (hS.inStock.step (hS.survives ht) hD hW ht).queued
  tasks := (hS.inStock.step (hS.survives ht) hD hW ht).held
  workers _ hh' _ hj' := hS.step_workers hD ht hh' hj'
  uploads _ _ _ _ _ hsplit := hS.step_uploads hD ht hsplit

end Stocked

theorem stocked_of_reach (h : service.Reach (fixedSettings cfg) s) : Stocked cfg s :=
  h.invariant
    (fun s hinit => by
      obtain ⟨c, now, rfl⟩ := hinit
      exact {
        settings := fun hup => absurd rfl hup
        queued := fun _ _ hj => (by cases hj)
        tasks := fun _ _ _ htask => (by cases htask)
        workers := fun _ hh => (by cases hh)
        uploads := fun later _ _ _ _ hsplit => (by cases later <;> cases hsplit) })
    fun _ _ _ hr hS hok hstep =>
      hS.step (disciplined_of_reach hr) (working_of_reach hr) (trans_of_reach hr hstep) hok

/-- **Right file, right printer.** In every state that the service reaches under the settings `cfg`, every
    upload was of a file sliced earlier from the job's model for that printer, which is enabled and which the
    job fits; and every queued job has such a file for the printer it is assigned to. -/
theorem right_file (h : service.Reach (fixedSettings cfg) s) : RightFile cfg s where
  uploads later id p path earlier hsplit := by
    obtain ⟨j, hj, -, hlive, hmade⟩ := (stocked_of_reach h).uploads later id p path earlier hsplit
    exact ⟨j, hj, hlive, hmade⟩
  queued := (stocked_of_reach h).queued

/-- The check that the service is started with `cfg` only. -/
def bootsWith (cfg : Settings) (_ : Service) (e : Event) : Bool :=
  match e with
  | .boot c => c = cfg
  | _ => true

theorem bootsWith_ok (cfg : Settings) (s : Service) (e : Event) (h : bootsWith cfg s e = true) :
    fixedSettings cfg s e := by
  rintro c rfl
  exact of_decide_eq_true h

/-- A job is sliced for the P1S and uploaded to it, and another one is queued. -/
theorem right_file_upload : ∃ s : Service, ∃ path, .uploaded "a" .p1s path ∈ s.history ∧
    (s.db.job "b").map Job.status = some .queued ∧ RightFile Script.p1sOnly s := by
  obtain ⟨s, hr, hs⟩ := Machine.reach_of_run (M := service) (bootsWith_ok Script.p1sOnly)
    (Script.online ++ Script.reportState .idle ++ [Script.upload "a"] ++ Script.slice "a" ++
      Script.dispatch ++ [Script.upload "b"] ++ Script.slice "b" ++ [.handoff 0 .next])
    (fun s => .uploaded "a" .p1s "data/sliced/a-p1s.gcode.3mf" ∈ s.history ∧
      (s.db.job "b").map Job.status = some .queued)
    (service_init Script.p1sOnly 0) (by decide +kernel)
  obtain ⟨hup, hqueued⟩ := of_decide_eq_true hs
  exact ⟨s, _, hup, hqueued, right_file hr⟩

end BambuBabu
