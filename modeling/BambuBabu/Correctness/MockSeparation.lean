import BambuBabu.Service.Deployment
import BambuBabu.Service.Stock

/-!
# `Correctness.MockSeparation` — does mock output stay away from the printers?

`validate_runtime` refuses live printers together with the mock slicer, in one configuration at one start. But a
queued job keeps its `sliced_path` over a restart, and reconciliation leaves QUEUED jobs alone. Started again
with live printers and the real slicer, the service dispatches what the mock slicer has left in the queue.

* `mock_uploaded` — that sequence of runs.
* `Job.genuine` — the file that would be uploaded for the job is not the mock slicer's.
* `cleanStart` — the condition: a start finds all queued jobs genuine for its printers.
* `mock_separation` — **the theorem**: in every sequence of runs whose starts are all clean, no output of the
  mock slicer is uploaded.
-/

namespace BambuBabu

open Storage Runs

/-- No step from here passes a file with mock output to `upload_file`. -/
def MockSeparated (d : Deployment) : Prop :=
  ∀ e d' id p path, deployment.step d e = some d' →
    d'.service.history = .uploaded id p path :: d.service.history → d.files path ≠ some .mock

/-- Every start is with the same directories. -/
def sameStorage (uploadDir slicedDir : String) (_ : Deployment) (e : DeploymentEvent) : Prop :=
  ∀ cfg, e = .service (.boot cfg) → cfg.uploadDir = uploadDir ∧ cfg.slicedDir = slicedDir

/-- If the job were dispatched under `cfg`, its file would not be the mock slicer's. -/
def Job.genuine (cfg : Settings) (files : String → Option Slicer) (j : Job) : Prop :=
  ∀ p path, j.assignedPrinter = some p → cfg.livePrinterEnabled p = true → j.slicedPath = some path →
    files path ≠ some .mock

/-- A start of the service finds every queued job genuine. -/
def cleanStart (d : Deployment) (e : DeploymentEvent) : Prop :=
  ∀ cfg, e = .service (.boot cfg) → ∀ id j, d.service.db.job id = some j → j.status = .queued →
    j.genuine cfg d.files

/-! ## Files only become genuine -/

/-- No file has become the mock slicer's. -/
def Untainted (files files' : String → Option Slicer) : Prop :=
  ∀ path, files path ≠ some .mock → files' path ≠ some .mock

variable {cfg : Settings} {files files' : String → Option Slicer} {j j' : Job} {d d' : Deployment}

theorem Untainted.written {file : Option (String × Slicer)}
    (h : ∀ path slicer, file = some (path, slicer) → slicer = .orca) :
    Untainted d.files (d.written file) := by
  intro path hpath
  cases file with
  | none => exact hpath
  | some entry =>
      obtain ⟨path', slicer⟩ := entry
      show Function.update d.files path' (some slicer) path ≠ some .mock
      by_cases heq : path = path'
      · subst heq
        rw [Function.update_self, h path slicer rfl]
        decide
      · rw [Function.update_of_ne heq]
        exact hpath

/-- The slicer that a worker runs is the one of the settings. -/
theorem Service.output_slicer {s : Service} {id : JobId} {path : String} {slicer : Slicer}
    (h : s.output id = some (path, slicer)) : slicer = s.settings.slicer := by
  unfold Service.output at h
  split at h <;> cases h <;> rfl

theorem Service.returned_slicer {s : Service} {e : Event} {path : String} {slicer : Slicer}
    (h : s.returned e = some (path, slicer)) : slicer = s.settings.slicer := by
  unfold Service.returned at h
  split at h
  · exact Service.output_slicer h
  · cases h

/-- A process that runs the real slicer leaves no mock output. -/
theorem step_untainted {e : DeploymentEvent} (hslicer : d.service.settings.slicer = .orca)
    (h : deployment.step d e = some d') : Untainted d.files d'.files := by
  cases e with
  | service e =>
      obtain ⟨sv, -, rfl⟩ := Option.map_eq_some_iff.mp h
      exact Untainted.written fun path slicer hfile => (Service.returned_slicer hfile).trans hslicer
  | write id =>
      obtain ⟨⟨path, slicer⟩, hout, rfl⟩ := Option.map_eq_some_iff.mp h
      show Untainted d.files (d.written (some (path, slicer)))
      refine Untainted.written fun path' slicer' hfile => ?_
      cases hfile
      exact (Service.output_slicer hout).trans hslicer
  | remove path =>
      cases h
      intro path' hpath
      show Function.update d.files path none path' ≠ some .mock
      by_cases heq : path' = path
      · subst heq
        rw [Function.update_self]
        decide
      · rw [Function.update_of_ne heq]
        exact hpath

/-! ## What live workers hold -/

theorem Job.genuine.mono (h : j.genuine cfg files) (hu : Untainted files files') (ht : j'.ticket = j.ticket) :
    j'.genuine cfg files' := by
  intro p path ha hlive hpath
  rw [Job.ticket_assignedPrinter ht] at ha
  have hpath : j.slicedPath = some path := (congrArg Ticket.slicedPath ht).symm.trans hpath
  exact hu path (h p path ha hlive hpath)

/-- A slicing worker holds a path only after its slicer has written the file, and a fallback worker leaves the
    job as genuine as it found it. -/
def SliceTask.genuine (cfg : Settings) (files : String → Option Slicer) (j : Job) : SliceTask → Prop
  | start | analyse _ | plan _ _ | slice _ _ | failing _ | finished => True
  | store _ path _ | restore _ path _ => files path ≠ some .mock
  | recheck _ | reslice _ _ | aborting _ => j.genuine cfg files

theorem SliceTask.genuine.mono {task : SliceTask} (h : task.genuine cfg files j) (hu : Untainted files files')
    (ht : j'.ticket = j.ticket) : task.genuine cfg files' j' := by
  cases task with
  | store _ path _ | restore _ path _ => exact hu path h
  | recheck | reslice | aborting => exact Job.genuine.mono h hu ht
  | _ => trivial

/-- What is known of the jobs of a live process. -/
def genuineStock (cfg : Settings) (files : String → Option Slicer) : Stock where
  queued j := j.genuine cfg files
  held task j := task.genuine cfg files j

/-- A job that is queued with a file is as genuine as the file. -/
theorem Job.genuine_queuedFor {now : Time} {p : Option PrinterID} {path : String} {est : Option Nat}
    (h : files path ≠ some .mock) : (j.queuedFor now p path est).genuine cfg files := by
  intro q path' _ _ hpath
  cases Option.some.inj (show some path = some path' from hpath)
  exact h

/-- A live process: it runs the real slicer, its queued jobs are genuine, and so is what it uploads. -/
structure Genuine (d : Deployment) : Prop where
  slicer : d.service.settings.slicer = .orca
  stock : (genuineStock d.service.settings d.files).In d.service
  workers : ∀ h ∈ d.service.handoffs, ∀ path, d.service.settings.livePrinterEnabled h.printer = true →
    h.slicedPath = some path → d.files path ≠ some .mock

/-- The process, if there is one, has live printers. -/
def Deployment.live (d : Deployment) : Prop := d.service.phase ≠ .down ∧ d.service.settings.printersEnabled = true

/-! ## Every step of a live process -/

variable {e : Event}

/-- What is known of the jobs survives a step of a live process: a slicer that returns has written its file. -/
theorem Genuine.survives {sv : Service} (hG : Genuine d) (hD : Disciplined d.service)
    (hstep : d.service.step e = some sv) (hu : Untainted d.files (d.written (d.service.returned e))) :
    Stock.Survives (genuineStock d.service.settings d.files)
      (genuineStock d.service.settings (d.written (d.service.returned e))) d.service sv := by
  have fresh : ∀ {stl path : String} {p : PrinterID}, sv.history = .sliced stl p path :: d.service.history →
      d.written (d.service.returned e) path ≠ some .mock := by
    intro stl path p hist
    rw [hD.step_returned hstep hist, hG.slicer]
    show Function.update d.files path (some .orca) path ≠ some .mock
    rw [Function.update_self]
    decide
  exact {
    queued := fun j j' hgen htk => hgen.mono hu htk
    held := fun task j j' hgen htk => hgen.mono hu htk
    idle := fun task j hidle => by rcases hidle with rfl | rfl <;> trivial
    withdrawn := fun p j j' _ _ hgen htk => hgen.mono hu htk
    queues := fun id task j j' hslice hj hs hheld hj' hs' => by
      obtain ⟨-, hcase⟩ := hslice.queues_cases hj hs hj' hs'
      rcases hcase with ⟨p, path, est, now, rfl, rfl⟩ | ⟨p, path, est, now, rfl, rfl⟩ | ⟨m, rfl, htk⟩
      · exact Job.genuine_queuedFor (hu path hheld)
      · exact Job.genuine_queuedFor (hu path hheld)
      · exact Job.genuine.mono hheld hu htk
    holds := fun id task task' j j' _ hslice hj hheld htask' hj' hs' => by
      cases hslice with
      | goto hloc =>
          cases Option.some.inj (hj.symm.trans hj')
          cases (Function.update_self ..).symm.trans htask'
          cases hloc with
          -- a fallback that fails leaves the job the file it had
          | resliceFailed => exact Job.genuine.mono (hheld hs') hu rfl
          | _ => trivial
      | sliced =>
          cases (Function.update_self ..).symm.trans htask'
          exact fresh rfl
      | resliced =>
          cases (Function.update_self ..).symm.trans htask'
          exact fresh rfl
      | rechecked htsk =>
          subst htsk
          cases Option.some.inj (hj.symm.trans hj')
          cases (Function.update_self ..).symm.trans htask'
          exact Job.genuine.mono (hheld hs') hu rfl
      | _ =>
          cases (Function.update_self ..).symm.trans htask'
          trivial }

/-- A worker that is dispatched is given the file of a queued job. -/
theorem Genuine.step_workers {sv : Service} (hG : Genuine d) (ht : Trans d.service e sv) (hu : Untainted d.files files') {h' : Handoff} {path : String}
    (hh' : h' ∈ sv.handoffs) (hen : d.service.settings.livePrinterEnabled h'.printer = true)
    (hpath : h'.slicedPath = some path) : files' path ≠ some .mock := by
  apply hu
  rcases ht.handoffs.mem hh' with ⟨h, hh, -, hp, hsame, -⟩ | ⟨j, j', hj, hs, -, -, ha, htk, hsame, -⟩
  · rw [hp] at hen
    exact hG.workers h hh path hen (hsame.symm.trans hpath)
  · rw [Job.ticket_assignedPrinter htk] at ha
    exact hG.stock.queued _ j hj hs _ path ha hen (hsame.symm.trans hpath)

/-- A clean start of a live process finds nothing but genuine files in the queue. -/
theorem genuine_of_boot {cfg : Settings} {sv : Service} (hclean : cleanStart d (.service (.boot cfg)))
    (hboot : d.service.step (.boot cfg) = some sv) (hlive : cfg.printersEnabled = true) :
    Genuine ⟨sv, d.files⟩ := by
  obtain ⟨hvalid, rfl⟩ := Service.step_boot hboot
  exact {
    slicer := Settings.slicer_of_validateRuntime hvalid hlive
    stock := {
      queued := fun id j hj hs => hclean cfg rfl id j hj hs
      held := fun _ _ _ htask => by cases htask }
    workers := fun _ hh => by cases hh }

/-- **Every step with a clean start keeps a live process genuine.** -/
theorem genuine_step {e : DeploymentEvent} (hreach : service.Reach always d.service)
    (hG : d.live → Genuine d) (hclean : cleanStart d e) (hstep : deployment.step d e = some d')
    (hlive' : d'.live) : Genuine d' := by
  obtain ⟨hup', hen'⟩ := hlive'
  -- only the files change
  have files_only : ∀ {files' : String → Option Slicer}, d' = { d with files := files' } →
      deployment.step d e = some d' → Genuine d' := by
    rintro files' rfl hstep
    have hG := hG ⟨hup', hen'⟩
    have hu := step_untainted hG.slicer hstep
    exact {
      slicer := hG.slicer
      stock := {
        queued := fun id j hj hs => (hG.stock.queued id j hj hs).mono hu rfl
        held := fun id task j htask hj hs => (hG.stock.held id task j htask hj hs).mono hu rfl }
      workers := fun h hh path hen hpath => hu path (hG.workers h hh path hen hpath) }
  cases e with
  | write id =>
      obtain ⟨file, -, hd'⟩ := Option.map_eq_some_iff.mp hstep
      exact files_only hd'.symm hstep
  | remove path => exact files_only (Option.some.inj hstep).symm hstep
  | service ev =>
      have hdep := hstep
      obtain ⟨sv, hsv, rfl⟩ := Option.map_eq_some_iff.mp hstep
      have hD := disciplined_of_reach hreach
      have ht : Trans d.service ev sv := hD.step_trans hsv
      rcases ht.settings with hdown | rfl | ⟨hup, hset⟩
      · exact absurd hdown hup'
      · exact genuine_of_boot hclean hsv hen'
      -- the settings are those of a process that was live before the step
      · have hG := hG ⟨hup, hset ▸ hen'⟩
        have hu := step_untainted hG.slicer hdep
        refine { slicer := ?_, stock := ?_, workers := ?_ }
        · show sv.settings.slicer = .orca
          rw [hset]
          exact hG.slicer
        · show (genuineStock sv.settings _).In sv
          rw [hset]
          exact hG.stock.step (hG.survives hD hsv hu) hD (working_of_reach hreach) ht
        · intro h' hh' path hen hpath
          rw [show (Deployment.mk sv _).service.settings = d.service.settings from hset] at hen
          exact hG.step_workers ht hu hh' hen hpath

/-! ## The theorem -/

theorem genuine_of_reach (h : deployment.Reach cleanStart d) : d.live → Genuine d := by
  refine Machine.Reach.invariant (I := fun d => d.live → Genuine d) ?_ ?_ h
  · rintro d ⟨⟨cfg, now, hfresh⟩, -⟩ ⟨hup, -⟩
    rw [hfresh] at hup
    exact absurd rfl hup
  · intro d e d' hr hG hclean hstep
    exact genuine_step (deployment_refines hr) hG hclean hstep

/-- **Mock separation.** In every sequence of runs, each start of which finds the queued jobs of its live printers
    without mock output, no output of the mock slicer is uploaded. -/
theorem mock_separation (h : deployment.Reach cleanStart d) : MockSeparated d := by
  intro e d' id p path hstep hup
  have hD := disciplined_of_reach (deployment_refines h)
  rcases deployment_step hstep with hsame | ⟨ev, -, hev⟩
  · rw [hsame] at hup
    exact absurd hup.symm (List.cons_ne_self _ _)
  · have ht : Trans d.service ev d'.service := hD.step_trans hev
    have hsplit : d'.service.history = [] ++ .uploaded id p path :: d.service.history := hup
    rcases ht.history.upload_cases hsplit with ⟨later, hold⟩ | ⟨-, -, worker, hh, -, rfl, harg⟩
    -- the record has grown by this upload, so that it cannot hold it already
    · have hlen := congrArg List.length hold
      simp only [List.length_append, List.length_cons] at hlen
      omega
    · obtain ⟨hen, hpath⟩ := uploadArgument_sound harg
      have hlive : d.live := by
        refine ⟨fun hdown => ?_, (Bool.and_eq_true_iff.mp hen).1⟩
        rw [(hD.idle (by rw [hdown]; decide)).1] at hh
        cases hh
      exact (genuine_of_reach h hlive).workers worker hh path hen hpath

/-! ## The failing runs -/

/-- The deployment without live printers, and with the mock slicer. -/
def mockP1s : Settings := { Script.p1sOnly with printersEnabled := false, mockSlicer := true }

/-- Job `a` is sliced in a run with these settings, and the process ends. -/
def slicedIn (cfg : Settings) : List Event :=
  [.boot cfg, .reconcile, Script.upload "a"] ++ Script.slice "a" ++ [.crash]

/-- The next run is live, and dispatches the job. -/
def dispatchedLive : List Event := Script.online ++ Script.reportState .idle ++ [.tick, .tick] ++ Script.dispatch

/-- The output of the slicer for job `a`. -/
def outputA : String := "data/sliced/a-p1s.gcode.3mf"

/-- The worker of job `a` is about to upload a file that `slicer` wrote. -/
def uploadsA (slicer : Slicer) (d : Deployment) : Bool :=
  decide (d.files outputA = some slicer) &&
    (deployment.step d (.service (.handoff 0 .next))).any fun d' =>
      decide (d'.service.history = .uploaded "a" .p1s outputA :: d.service.history)

theorem uploads_a {slicer : Slicer} (h : uploadsA slicer d = true) : d.files outputA = some slicer ∧
    ∃ d', deployment.step d (.service (.handoff 0 .next)) = some d' ∧
      d'.service.history = .uploaded "a" .p1s outputA :: d.service.history := by
  obtain ⟨hfile, hstep⟩ := Bool.and_eq_true_iff.mp h
  obtain ⟨d', hd', hist⟩ := (Option.any_eq_true _ _).mp hstep
  exact ⟨of_decide_eq_true hfile, d', hd', of_decide_eq_true hist⟩

/-- The check that a start is with the directories of `Script.p1sOnly`. -/
def keepsStorage (_ : Deployment) : DeploymentEvent → Bool
  | .service (.boot cfg) => cfg.uploadDir = Script.p1sOnly.uploadDir ∧ cfg.slicedDir = Script.p1sOnly.slicedDir
  | _ => true

theorem keepsStorage_ok (d : Deployment) (e : DeploymentEvent) (h : keepsStorage d e = true) :
    sameStorage Script.p1sOnly.uploadDir Script.p1sOnly.slicedDir d e := by
  rintro cfg rfl
  exact of_decide_eq_true h

theorem deployment_init (cfg : Settings) (now : Time) : deployment.init ⟨Service.fresh cfg now, fun _ => none⟩ :=
  ⟨⟨cfg, now, rfl⟩, rfl⟩

/-- A mock slice survives the restart with live printers, and is uploaded. -/
theorem mock_uploaded :
    ¬ ∀ up sliced d, deployment.Reach (sameStorage up sliced) d → MockSeparated d := by
  intro hclaim
  obtain ⟨d, hr, hd⟩ := Machine.reach_of_run (M := deployment) keepsStorage_ok
    ((slicedIn mockP1s ++ dispatchedLive).map .service) (uploadsA .mock) (deployment_init mockP1s 0)
    (by decide +kernel)
  obtain ⟨hfile, d', hstep, hist⟩ := uploads_a hd
  exact hclaim _ _ d hr _ d' _ _ _ hstep hist hfile

/-- The check that a job is genuine. -/
def genuineCheck (cfg : Settings) (files : String → Option Slicer) (j : Job) : Bool :=
  j.assignedPrinter.all fun p => j.slicedPath.all fun path =>
    !cfg.livePrinterEnabled p || decide (files path ≠ some .mock)

theorem genuine_of_check (h : genuineCheck cfg files j = true) : j.genuine cfg files := by
  intro p path ha hlive hpath
  simpa [genuineCheck, ha, hpath, hlive] using h

/-- The check of a clean start. -/
def cleanStartCheck (d : Deployment) : DeploymentEvent → Bool
  | .service (.boot cfg) =>
      d.service.db.jobs.rows.all fun row => decide (row.2.status ≠ .queued) || genuineCheck cfg d.files row.2
  | _ => true

theorem cleanStart_of_check (d : Deployment) (e : DeploymentEvent) (h : cleanStartCheck d e = true) :
    cleanStart d e := by
  rintro cfg rfl id j hj hs
  have hrow := List.all_eq_true.mp h (id, j) (Table.mem_rows_iff.mpr hj)
  refine genuine_of_check ?_
  simpa [hs] using hrow

/-- The mock slice is cancelled before the live run, which slices and uploads another job. -/
def mockCancelled : List Event :=
  slicedIn mockP1s ++ [.offlineCancel "a"] ++ Script.online ++ Script.reportState .idle ++ [Script.upload "b"] ++
    Script.slice "b" ++ Script.dispatch ++ [.handoff 0 .next]

theorem mock_separation_cancelled : ∃ d, deployment.Reach cleanStart d ∧
    d.files outputA = some .mock ∧ MockSeparated d ∧
    .uploaded "b" .p1s "data/sliced/b-p1s.gcode.3mf" ∈ d.service.history := by
  obtain ⟨d, hr, hd⟩ := Machine.reach_of_run (M := deployment) cleanStart_of_check
    (mockCancelled.map .service)
    (fun d => decide (d.files outputA = some .mock ∧
      .uploaded "b" .p1s "data/sliced/b-p1s.gcode.3mf" ∈ d.service.history))
    (deployment_init mockP1s 0) (by decide +kernel)
  obtain ⟨hfile, hup⟩ := of_decide_eq_true hd
  exact ⟨d, hr, hfile, mock_separation hr, hup⟩

end BambuBabu
