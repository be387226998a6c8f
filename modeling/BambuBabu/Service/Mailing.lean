import BambuBabu.Email.Mailer
import BambuBabu.Service.Views

/-!
# `Service.Mailing` — the service with the mails that its threads send

A thread sends a lifecycle mail after the transaction that was the reason for it, outside of any transaction: a status
callback reads the job again for it, a dispatch worker still has the row. In between come any steps of the others, and
a crash, with which the mail is lost.

* `Service.mail` — the mail that a step makes due.
* `mailing` — the machine: steps of the service, and mails that are sent, in any order.
* `onStatusUpdate_result`, `confirmStarted_commit` — when a transaction asks for a mail.
-/

namespace BambuBabu

open Storage Runs

/-! ## The transactions that ask for a mail -/

/-- `started_job`, once the job has been read: the block of `confirmLoaded` with its value. -/
def confirmStartedLoaded (now : Time) (id : JobId) (p : PrinterID) (job : Job) : Tx (Option Job) := do
  if job.status = .starting then
    let job ← transitionJobStatus now (some job) id [.starting] .printing none none
    addLog now "PRINT_CONFIRMED" s!"Printer confirmed start on {p.value}" .info (some id) (some p.value)
      none
    let _ ← loadAndUpdatePrinterState now p fun st => { st with plateCleared := false }
    pure (some job)
  else if job.status ≠ .printing then pure none
  else
    let _ ← loadAndUpdatePrinterState now p fun st => { st with plateCleared := false }
    pure (some job)

/-- The block after `start_print_and_confirm` returned, with the value of `started_job`. -/
def confirmStarted (now : Time) (id : JobId) (p : PrinterID) : Tx (Option Job) := do
  match ← getJob id with
  | none => pure none
  | some job => confirmStartedLoaded now id p job

/-- What a mail says about its job. -/
inductive Purpose where
  | started | completed | failed
  deriving DecidableEq, Repr

/-- The status of the row that it shows. -/
def Purpose.status : Purpose → JobStatus
  | started => .printing
  | completed => .completed
  | failed => .failed

def Notification.key : Notification → JobId × Purpose
  | complete id _ => (id, .completed)
  | failed id _ => (id, .failed)

def Notification.printer : Notification → PrinterID
  | complete _ p => p
  | failed _ p => p

/-- What the callback returns for an owner that the report finds, confirmed, in this status. -/
def Snapshot.notifies (snap : Snapshot) (id : JobId) (p : PrinterID) (st : JobStatus) : Option Notification :=
  if snap.gcodeState = .finish ∧ st ∈ awaitingReport then some (.complete id p)
  else if snap.gcodeState = .failed ∧ st ∈ awaitingReport then some (.failed id p)
  else none

/-- A notification is about an owner that the report ends. -/
theorem Snapshot.notifies_some {snap : Snapshot} {id : JobId} {p : PrinterID} {st : JobStatus} {n : Notification}
    (h : snap.notifies id p (snap.confirmed st) = some n) : st ∈ awaitingReport ∧ n.printer = p ∧
      (n.key = (id, .completed) ∧ snap.outcome st = .completed ∨ n.key = (id, .failed) ∧ snap.outcome st = .failed) := by
  have hidle : ∀ {g : GcodeState}, g ≠ .idle → snap.gcodeState = g →
      ¬ (snap.gcodeState = .idle ∧ snap.confirmed st = .printing) := fun hg hc hi => hg (hc.symm.trans hi.1)
  unfold notifies at h
  unfold outcome settled
  split at h
  · next hfinish =>
      cases h
      rw [if_neg (hidle (by decide) hfinish.1), if_pos hfinish]
      exact ⟨awaiting_confirmed.mp hfinish.2, rfl, .inl ⟨rfl, rfl⟩⟩
  · next hfinish =>
      split at h
      · next hfailed =>
          cases h
          rw [if_neg (hidle (by decide) hfailed.1), if_neg hfinish, if_pos hfailed]
          exact ⟨awaiting_confirmed.mp hfailed.2, rfl, .inr ⟨rfl, rfl⟩⟩
      · cases h

/-- A report that completes the owner notifies. -/
theorem Snapshot.notifies_completed {snap : Snapshot} {st : JobStatus} (id : JobId) (p : PrinterID)
    (h : snap.outcome st = .completed) (hne : st ≠ .completed) :
    snap.notifies id p (snap.confirmed st) = some (.complete id p) := by
  have hconfirmed : snap.confirmed st ≠ .completed := by
    unfold confirmed
    split
    · nofun
    · exact hne
  unfold outcome settled at h
  unfold notifies
  split at h
  · cases h
  · split at h
    · next hfinish => rw [if_pos hfinish]
    · split at h
      · cases h
      · exact absurd h hconfirmed

section transactions

variable {now : Time} {id : JobId} {p : PrinterID} {d d' : Db} {snap : Snapshot} {job : Job} {state : PrinterState}

/-- It commits what `confirmStart` commits. -/
theorem confirmStarted_db (now : Time) (id : JobId) (p : PrinterID) (d : Db) :
    ((confirmStarted now id p).commit d).2 = ((confirmStart now id p).commit d).2 := by
  have hrun : (confirmStart now id p).run d
      = (((confirmStarted now id p).run d).1.map fun _ => (), ((confirmStarted now id p).run d).2) := by
    unfold confirmStart confirmStarted
    simp only [Txn.run_bind, getJob_run]
    cases d.job id with
    | none => rfl
    | some job =>
        unfold confirmLoaded confirmStartedLoaded
        simp only [Txn.run_ite]
        split
        · simp only [Txn.run_bind, addLog_run, loadAndUpdatePrinterState_run]
          rcases (transitionJobStatus now (some job) id [.starting] .printing none none).run d with ⟨e | a, d₁⟩ <;> rfl
        · split
          · rfl
          · simp only [Txn.run_bind, loadAndUpdatePrinterState_run]
            rfl
  unfold Txn.commit
  rw [hrun]
  rcases (confirmStarted now id p).run d with ⟨e | a, d₁⟩ <;> rfl

/-- **A start is reported** for a job that the worker has moved to PRINTING, or that a report has. -/
theorem confirmStarted_commit {started : Job} (h : (confirmStarted now id p).commit d = (.ok (some started), d')) :
    started.status = .printing ∧ ∃ j, d.job id = some j ∧ j.status ∈ [.starting, .printing] := by
  have hrun := Txn.run_of_commit_ok h
  unfold confirmStarted at hrun
  rw [Txn.run_bind_of_ok getJob_run] at hrun
  cases hj : d.job id with
  | none =>
      rw [hj] at hrun
      cases hrun
  | some j =>
      rw [hj] at hrun
      simp only [confirmStartedLoaded, Txn.run_ite] at hrun
      split at hrun
      · next hs =>
          rw [Txn.run_bind_of_ok (transition_run now (some j) [.starting] .printing none none (by decide) hj
            (by simp [hs])), Txn.run_bind_of_ok addLog_run, Txn.run_bind_of_ok loadAndUpdatePrinterState_run] at hrun
          cases hrun
          exact ⟨rfl, j, rfl, by rw [hs]; decide⟩
      · split at hrun
        · cases hrun
        · next hs hp =>
            rw [Txn.run_bind_of_ok loadAndUpdatePrinterState_run] at hrun
            cases hrun
            exact ⟨not_not.mp hp, _, rfl, by rw [not_not.mp hp]; decide⟩

/-- The last branches return what the report says of the job they are given. -/
theorem reportTerminal_result {n : Option Notification}
    (h : (reportTerminal now p snap state id job).run d = (.ok n, d')) : n = snap.notifies id p job.status := by
  unfold reportTerminal at h
  unfold Snapshot.notifies
  simp only [Txn.run_ite] at h
  split at h
  · next hfinish =>
      obtain ⟨_, _, -, hdone⟩ := Txn.run_bind_ok h
      cases hdone
      rw [if_pos hfinish]
  · next hfinish =>
      rw [if_neg hfinish]
      split at h
      · next hfailed =>
          obtain ⟨_, _, -, hdone⟩ := Txn.run_bind_ok h
          cases hdone
          rw [if_pos hfailed]
      · next hfailed =>
          cases h
          rw [if_neg hfailed]

/-- An IDLE report notifies nobody. -/
theorem settleOwner_result {n : Option Notification} (h : (quarantineOwner now p snap state id job >>= fun r =>
    reportTerminal now p snap r.1 id r.2).run d = (.ok n, d')) : n = snap.notifies id p job.status := by
  obtain ⟨r, d₁, hr, hrest⟩ := Txn.run_bind_ok h
  rw [reportTerminal_result hrest]
  unfold quarantineOwner at hr
  simp only [Txn.run_ite] at hr
  split at hr
  · next hidle =>
      unfold Snapshot.notifies
      simp [hidle.1]
  · cases hr
    rfl

/-- **The callback asks for a mail** when its report ends the owner of the slot. -/
theorem onStatusUpdate_result (hslot : (d.printers p).currentJobId = some id) (hj : d.job id = some job) :
    ((onStatusUpdate now p snap).commit d).1 = .ok (snap.notifies id p (snap.confirmed job.status)) := by
  let state := snap.row now (d.printers p)
  have hmain := onStatusUpdate_run now p snap d
  have hsome : state.currentJobId = some id := hslot
  unfold reportToSlot at hmain
  rw [hsome] at hmain
  simp only [Txn.run_bind, getJob_run, Db.job_setPrinter] at hmain
  rw [hj] at hmain
  obtain ⟨j₁, d₁, hrun₁, hf₁, -, hs₁, -, -⟩ := confirmOwner_run (d := d.setPrinter p state) now p snap hj
  have hj₁ : d₁.job id = some j₁ := by
    rw [← Db.floor_job, hf₁]; exact Floor.job_setJob_self ..
  have hp₁ : d₁.printers p = state := by
    rw [← Db.floor_printers, hf₁, Floor.printers_setJob, Db.floor_printers]; simp
  obtain ⟨n, d₂, hrun₂, -⟩ := settleOwner_run now snap hj₁ hp₁ hsome
  have hrun : (reportToOwner now p snap state id job).run (d.setPrinter p state) = (.ok n, d₂) := by
    unfold reportToOwner
    rw [Txn.run_bind_of_ok hrun₁]
    exact hrun₂
  rw [Txn.commit_of_ok (hmain.trans hrun), settleOwner_result hrun₂, hs₁]

/-- No mail is due when no job owns the slot. -/
theorem onStatusUpdate_silent (hnone : ∀ id, (d.printers p).currentJobId = some id → d.job id = none) :
    ((onStatusUpdate now p snap).commit d).1 = .ok none := by
  have hmain := onStatusUpdate_run now p snap d
  unfold reportToSlot at hmain
  cases hslot : (d.printers p).currentJobId with
  | none =>
      have hsome : (snap.row now (d.printers p)).currentJobId = none := hslot
      rw [hsome] at hmain
      rw [Txn.commit_of_ok (hmain.trans (Txn.run_pure _ _))]
  | some id =>
      have hsome : (snap.row now (d.printers p)).currentJobId = some id := hslot
      rw [hsome] at hmain
      simp only [Txn.run_bind, getJob_run, Db.job_setPrinter] at hmain
      rw [hnone id hslot] at hmain
      rw [Txn.commit_of_ok hmain]

end transactions

/-! ## The machine -/

/-- A mail that a thread has still to send. -/
inductive MailTask where
  /-- `_send_lifecycle_email`, which reads the job first. -/
  | notify (n : Notification)
  /-- `send_print_started(started_job, ...)` -/
  | started (id : JobId) (p : PrinterID) (job : Job)

def MailTask.key : MailTask → JobId × Purpose
  | notify n => n.key
  | started id _ _ => (id, .started)

def MailTask.printer : MailTask → PrinterID
  | notify n => n.printer
  | started _ p _ => p

/-- A call of the mailer, with the row that the mail shows. -/
structure Post where
  key : JobId × Purpose
  printer : PrinterID
  job : Job

/-- What it hands to SMTP. -/
def Post.mails (cfg : Mailer.MailSettings) (x : Post) : List Mailer.Mail :=
  match x.key.2 with
  | .started => Mailer.sendPrintStarted cfg x.key.1 x.job x.printer
  | .completed => Mailer.sendPrintComplete cfg x.key.1 x.job x.printer
  | .failed => Mailer.sendPrintFailed cfg x.key.1 x.job x.printer

namespace Service

variable (s : Service)

/-- The mail that the callback at position `i` asks for. -/
def callbackMail (i : Nat) : Option MailTask := do
  let (p, c) ← s.pending[i]?
  let snap ← c.payload
  match ((onStatusUpdate s.clock p snap).commit s.db).1 with
  | .ok n => n.map .notify
  | .error _ => none

/-- The mail that the dispatch worker at position `i` sends when it is done. -/
def handoffMail (i : Nat) : Option MailTask := do
  let h ← s.handoffs[i]?
  if h.pc = .confirm then
    match ((confirmStarted s.clock h.id h.printer).commit s.db).1 with
    | .ok started => started.map (.started h.id h.printer)
    | .error _ => none
  else none

/-- The mail that a step makes due. -/
def mail : Event → Option MailTask
  | .callback i => s.callbackMail i
  | .handoff i _ => s.handoffMail i
  | _ => none

variable {s} {i : Nat} {t : MailTask}

theorem callbackMail_cases (h : s.callbackMail i = some t) : ∃ p c snap n, s.pending[i]? = some (p, c) ∧
    c.payload = some snap ∧ ((onStatusUpdate s.clock p snap).commit s.db).1 = .ok (some n) ∧ t = .notify n := by
  unfold callbackMail at h
  obtain ⟨⟨p, c⟩, hi, h⟩ := Option.bind_eq_some_iff.mp h
  obtain ⟨snap, hc, h⟩ := Option.bind_eq_some_iff.mp h
  split at h
  · next n hn =>
      obtain ⟨n, rfl, rfl⟩ := Option.map_eq_some_iff.mp h
      exact ⟨p, c, snap, n, hi, hc, hn, rfl⟩
  · cases h

theorem handoffMail_cases (h : s.handoffMail i = some t) : ∃ w job, s.handoffs[i]? = some w ∧ w.pc = .confirm ∧
    ((confirmStarted s.clock w.id w.printer).commit s.db).1 = .ok (some job) ∧ t = .started w.id w.printer job := by
  unfold handoffMail at h
  obtain ⟨w, hw, h⟩ := Option.bind_eq_some_iff.mp h
  split at h
  · next hpc =>
      split at h
      · next started hstarted =>
          obtain ⟨job, rfl, rfl⟩ := Option.map_eq_some_iff.mp h
          exact ⟨w, job, hw, hpc, hstarted, rfl⟩
      · cases h
  · cases h

variable (s)

/-- The row that the mail shows: the one that the worker has, or what the job is now. -/
def mailJob : MailTask → Option Job
  | .notify n => s.db.job n.key.1
  | .started _ _ job => some job

end Service

/-- The service, the mails that are still to be sent, and those that were sent. -/
structure Mailing where
  service : Service
  due : List MailTask
  posted : List Post

inductive MailingEvent where
  | service (e : Event)
  | send (i : Nat)

namespace Mailing

variable (m : Mailing)

/-- A step of the service; what a process that ends had still to send is lost. -/
def serve (e : Event) (s' : Service) : Mailing where
  service := s'
  due := if s'.phase = .down then [] else m.due ++ (m.service.mail e).toList
  posted := m.posted

/-- The mail at position `i` is sent, unless its job is gone. -/
def post (i : Nat) (task : MailTask) : Mailing where
  service := m.service
  due := m.due.eraseIdx i
  posted := m.posted ++ ((m.service.mailJob task).map fun job => ⟨task.key, task.printer, job⟩).toList

def step : MailingEvent → Option Mailing
  | .service e => (m.service.step e).map (m.serve e)
  | .send i => (m.due[i]?).map (m.post i)

/-- What was asked for, sent or not. -/
def keys : List (JobId × Purpose) := m.due.map MailTask.key ++ m.posted.map Post.key

end Mailing

/-- The service with its mails. -/
def mailing : Machine Mailing MailingEvent where
  init m := service.init m.service ∧ m.due = [] ∧ m.posted = []
  step m e := m.step e

end BambuBabu
