import BambuBabu.Floor.Active
import BambuBabu.Floor.Ended
import BambuBabu.Floor.Requests
import BambuBabu.Service.Trans

/-!
# `Service.Requests` — the transaction in each step

Which transaction a step of the service executes, and `step_db`: the step stores exactly what that transaction
commits. So whatever holds of all transactions, under interference or not, holds of every step of the service.
-/

namespace BambuBabu

open Storage

/-- Whether the event is an upload. -/
def Event.uploads : Event → Bool
  | .upload _ _ => true
  | _ => false

namespace Service

variable (s : Service)

/-- The block that a slicing worker executes next. -/
def sliceRequest (id : JobId) : SliceTask → Option Request
  | .start => some (.startAnalysis s.clock id)
  | .plan _ a => some (.planSlice s.clock id a (selectPrinter s.settings a))
  | .store p path est => some (.storeSlice s.clock id p path est)
  | .failing m => some (.failJob s.clock id m)
  | .recheck _ => some (.checkReslice id)
  | .restore p path est => some (.storeReslice s.clock id p path est)
  | .aborting m => some (.abortReslice s.clock id m)
  | .analyse _ | .slice _ _ | .reslice _ _ | .finished => none

/-- The block that a dispatch worker executes next. -/
def handoffRequest (h : Handoff) : Option Request :=
  match h.pc with
  | .request => some (.requestStart s.clock h.id h.printer)
  | .confirm => some (.confirmStart s.clock h.id h.printer)
  | .ambiguous e => some (.quarantineStart s.clock h.id h.printer e)
  | .failing e => some (.failJob s.clock h.id s!"Printer handoff failed: {e.str}")
  | .releasing => some (.releaseFailed s.clock h.id h.printer)
  | .begin | .transfer | .check | .publish _ | .published _ | .await _ => none

/-- The transaction that a callback is about to run. -/
def callbackRequest (p : PrinterID) : Callback → Option Request
  | .report snap => some (.onStatusUpdate s.clock p snap)
  | .disconnected snap => some (.onStatusUpdate s.clock p snap)
  | .acknowledged snap => some (.onStatusUpdate s.clock p snap)
  | .acknowledgeLog => some (.logAcknowledged s.clock p)
  | .acknowledging => none

/-- The transaction that the queue loop executes next. -/
def loopRequest : Option Request :=
  match s.loop with
  | .dispatching (p :: _) => some (.tryDispatch s.settings s.clock p)
  | .fallback p _ => some (.tryScheduleFallback s.settings s.clock p s.reserved)
  | .sleeping | .submitting _ | .dispatching [] => none

/-- The transaction in a step. -/
def request : Event → Option Request
  | .reconcile => some (.reconcileInterruptedJobs s.clock)
  | .offlineCancel id => some (.cancelPendingJob s.clock id)
  | .upload id form => some (.commitUpload s.settings s.clock id form)
  | .cancel id => some (.cancelJob s.clock id)
  | .plateCleared p => some (.markPlateCleared s.settings s.clock p)
  | .acknowledgeIdle p => some (.acknowledgeChecks s.settings p)
  | .callback i => s.pending[i]?.bind fun c => s.callbackRequest c.1 c.2
  | .tick => s.loopRequest
  | .slice id _ => (s.slices id).bind (s.sliceRequest id)
  | .handoff i _ => s.handoffs[i]?.bind s.handoffRequest
  | .boot _ | .crash | .clock _ | .live _ _ => none

/-- Only the endpoints clear a plate or upload a job. -/
theorem request_endpoint {s : Service} {e : Event} {r : Request} (h : s.request e = some r) :
    (r.clearsPlate = true → ∃ p, e = .plateCleared p) ∧ (r.uploads = true → e.uploads = true) := by
  cases e with
  | plateCleared p => exact ⟨fun _ => ⟨p, rfl⟩, by cases h; nofun⟩
  | upload => exact ⟨by cases h; nofun, fun _ => rfl⟩
  | callback i =>
      obtain ⟨⟨p, c⟩, -, hc⟩ := Option.bind_eq_some_iff.mp h
      cases c <;> cases hc <;> exact ⟨nofun, nofun⟩
  | tick =>
      change s.loopRequest = some r at h
      unfold loopRequest at h
      split at h <;> cases h <;> exact ⟨nofun, nofun⟩
  | slice id ev =>
      obtain ⟨task, -, ht⟩ := Option.bind_eq_some_iff.mp h
      cases task <;> cases ht <;> exact ⟨nofun, nofun⟩
  | handoff i ev =>
      obtain ⟨worker, -, hw⟩ := Option.bind_eq_some_iff.mp h
      unfold handoffRequest at hw
      split at hw <;> cases hw <;> exact ⟨nofun, nofun⟩
  | _ => cases h <;> exact ⟨nofun, nofun⟩

theorem request_clearsPlate {s : Service} {e : Event} {r : Request} (h : s.request e = some r)
    (he : ∀ p, e ≠ .plateCleared p) : r.clearsPlate = false := by
  rw [Bool.eq_false_iff]
  intro hc
  obtain ⟨p, hp⟩ := (request_endpoint h).1 hc
  exact he p hp

theorem request_uploads {s : Service} {e : Event} {r : Request} (h : s.request e = some r)
    (he : e.uploads = false) : r.uploads = false := by
  rw [Bool.eq_false_iff]
  intro hu
  rw [(request_endpoint h).2 hu] at he
  cases he

/-- The database after it. -/
def stored (r : Option Request) : Db := r.elim s.db fun r => (r.program.commit s.db).2

variable {s} {s' : Service}

theorem stored_void {α : Type} {t : Tx α} {r : Request} (ht : r.program = t.void) :
    s.stored (some r) = (t.commit s.db).2 := by
  show (r.program.commit s.db).2 = _
  rw [ht, Txn.commit_void]

theorem sliceStep_db {id : JobId} {task : SliceTask} {e : SliceEvent} (h : s.sliceStep id task e = some s') :
    s'.db = s.stored (s.sliceRequest id task) := by
  unfold sliceStep at h
  cases task with
  | start =>
      cases e with
      | next =>
          refine Eq.trans ?_ (stored_void rfl).symm
          simp only at h
          split at h <;> next hc => cases h; rw [hc]; rfl
      | _ => cases h
  | analyse stl =>
      cases e with
      | analysed r => cases r <;> cases h <;> rfl
      | _ => cases h
  | plan stl a =>
      cases e with
      | next =>
          refine Eq.trans ?_ (stored_void rfl).symm
          simp only at h
          rcases hc : (planSlice s.clock id a (selectPrinter s.settings a)).commit s.db with ⟨r, d⟩
          rw [hc] at h
          split at h
          · next heq _ => cases heq; cases h; rfl
          · next heq _ => cases heq; cases h; rfl
          · next heq => cases heq; cases h; rfl
      | _ => cases h
  | slice stl p =>
      cases e with
      | sliced o =>
          simp only at h
          split at h <;> cases h <;> rfl
      | _ => cases h
  | store p path est =>
      cases e with
      | next =>
          show s'.db = ((storeSlice s.clock id p path est).commit s.db).2
          simp only at h
          split at h <;> next hc => cases h; rw [hc]; rfl
      | _ => cases h
  | failing m =>
      cases e with
      | next => cases h; rfl
      | _ => cases h
  | recheck p =>
      cases e with
      | next =>
          refine Eq.trans ?_ (stored_void rfl).symm
          simp only at h
          split at h <;> next hc => cases h; rw [hc]; rfl
      | _ => cases h
  | reslice stl p =>
      cases e with
      | sliced o =>
          simp only at h
          split at h <;> cases h <;> rfl
      | _ => cases h
  | restore p path est =>
      cases e with
      | next =>
          show s'.db = ((storeReslice s.clock id p path est).commit s.db).2
          simp only at h
          split at h <;> next hc => cases h; rw [hc]; rfl
      | _ => cases h
  | aborting m =>
      cases e with
      | next => cases h; rfl
      | _ => cases h
  | finished =>
      cases e with
      | next => cases h; rfl
      | _ => cases h

theorem handoffStep_db {i : Nat} {h : Handoff} {e : HandoffEvent} (hs : s.handoffStep i h e = some s') :
    s'.db = s.stored (s.handoffRequest h) := by
  unfold handoffStep at hs
  unfold handoffRequest
  cases hpc : h.pc with
  | begin =>
      simp only [hpc] at hs ⊢
      cases e with
      | next =>
          simp only at hs
          split at hs <;> cases hs <;> rfl
      | _ => cases hs
  | transfer =>
      simp only [hpc] at hs ⊢
      cases e with
      | transferred failure => cases failure <;> cases hs <;> rfl
      | _ => cases hs
  | request =>
      simp only [hpc] at hs ⊢
      cases e with
      | next =>
          show s'.db = ((requestStart s.clock h.id h.printer).commit s.db).2
          simp only at hs
          split at hs <;> next hc => cases hs; rw [hc]; rfl
      | _ => cases hs
  | check =>
      simp only [hpc] at hs ⊢
      cases e with
      | next =>
          simp only at hs
          split at hs <;> cases hs <;> rfl
      | _ => cases hs
  | publish b =>
      simp only [hpc] at hs ⊢
      cases e with
      | next =>
          simp only at hs
          split at hs <;> cases hs <;> rfl
      | _ => cases hs
  | published b =>
      simp only [hpc] at hs ⊢
      cases e with
      | answered o =>
          simp only at hs
          split at hs <;> cases hs <;> rfl
      | _ => cases hs
  | await b =>
      simp only [hpc] at hs ⊢
      cases e with
      | awaited timedOut =>
          simp only at hs
          split at hs <;> cases hs <;> rfl
      | _ => cases hs
  | confirm =>
      simp only [hpc] at hs ⊢
      cases e with
      | next =>
          show s'.db = ((confirmStart s.clock h.id h.printer).commit s.db).2
          simp only at hs
          split at hs <;> next hc => cases hs; rw [hc]; rfl
      | _ => cases hs
  | ambiguous exc =>
      simp only [hpc] at hs ⊢
      cases e with
      | next => cases hs; rfl
      | _ => cases hs
  | failing exc =>
      simp only [hpc] at hs ⊢
      cases e with
      | next => cases hs; rfl
      | _ => cases hs
  | releasing =>
      simp only [hpc] at hs ⊢
      cases e with
      | next => cases hs; rfl
      | _ => cases hs

theorem callbackStep_db {i : Nat} (h : s.callbackStep i = some s') :
    s'.db = s.stored (s.pending[i]?.bind fun c => s.callbackRequest c.1 c.2) := by
  unfold callbackStep at h
  cases hi : s.pending[i]? with
  | none => rw [hi] at h; cases h
  | some pc =>
      obtain ⟨p, c⟩ := pc
      rw [hi] at h
      cases c with
      | report snap => cases h; exact (stored_void rfl).symm
      | disconnected snap => cases h; exact (stored_void rfl).symm
      | acknowledging =>
          simp only at h
          split at h <;> cases h <;> rfl
      | acknowledged snap => cases h; exact (stored_void rfl).symm
      | acknowledgeLog => cases h; rfl

theorem tickStep_db : s.tickStep.db = s.stored s.loopRequest := by
  unfold tickStep loopRequest
  cases hloop : s.loop with
  | sleeping => rfl
  | submitting ids =>
      cases ids with
      | nil => rfl
      | cons id rest =>
          simp only [submitSlice]
          split <;> rfl
  | dispatching ps =>
      cases ps with
      | nil => rfl
      | cons p rest =>
          refine Eq.trans ?_ (stored_void rfl).symm
          simp only
          split <;> next hc => rw [hc]; rfl
  | fallback p rest =>
      refine Eq.trans ?_ (stored_void rfl).symm
      simp only
      split <;> next hc => rw [hc]; rfl

/-- **A step stores what its transaction commits.** -/
theorem step_db {e : Event} (h : s.step e = some s') : s'.db = s.stored (s.request e) := by
  unfold step at h
  cases e with
  | clock now =>
      have hclock : some { s with clock := now } = some s' := by
        rw [← h]
      cases hclock
      rfl
  | boot cfg =>
      cases hphase : s.phase <;> simp only [hphase] at h
      · split at h <;> cases h
        rfl
      all_goals cases h
  | reconcile =>
      cases hphase : s.phase <;> simp only [hphase] at h
      · cases h
      · refine Eq.trans ?_ (stored_void rfl).symm
        rcases hc : (reconcileInterruptedJobs s.clock).commit s.db with ⟨e | a, d⟩
        · rw [hc] at h
          cases h
          exact (Txn.eq_of_commit_error hc).symm
        · rw [hc] at h
          cases h
          rfl
      · cases h
  | crash =>
      cases hphase : s.phase <;> simp only [hphase] at h <;> cases h
      all_goals rfl
  | offlineCancel id =>
      cases hphase : s.phase <;> simp only [hphase] at h <;> cases h
      exact (stored_void rfl).symm
  | upload id form =>
      cases hphase : s.phase <;> simp only [hphase] at h <;> cases h
      rfl
  | cancel id =>
      cases hphase : s.phase <;> simp only [hphase] at h <;> cases h
      exact (stored_void rfl).symm
  | plateCleared p =>
      cases hphase : s.phase <;> simp only [hphase] at h <;> cases h
      exact (stored_void rfl).symm
  | acknowledgeIdle p =>
      cases hphase : s.phase <;> simp only [hphase] at h <;> cases h
      show (s.acknowledgeIdle p).db = ((acknowledgeChecks s.settings p).commit s.db).2
      unfold acknowledgeIdle
      split <;> next hc => rw [hc]; rfl
  | live p e =>
      cases hphase : s.phase <;> simp only [hphase] at h
      · cases h
      all_goals
        split at h
        · exact (liveStep_frame h).db
        · cases h
  | callback i =>
      cases hphase : s.phase <;> simp only [hphase] at h
      · cases h
      all_goals exact callbackStep_db h
  | tick =>
      cases hphase : s.phase <;> simp only [hphase] at h <;> cases h
      exact tickStep_db
  | slice id e =>
      cases hphase : s.phase <;> simp only [hphase] at h
      · cases h
      · cases h
      · cases htask : s.slices id with
        | none => rw [htask] at h; cases h
        | some task =>
            rw [htask] at h
            refine (sliceStep_db h).trans ?_
            rw [request, htask]
            rfl
  | handoff i e =>
      cases hphase : s.phase <;> simp only [hphase] at h
      · cases h
      · cases h
      · cases hh : s.handoffs[i]? with
        | none => rw [hh] at h; cases h
        | some worker =>
            rw [hh] at h
            refine (handoffStep_db h).trans ?_
            rw [request, hh]
            rfl

/-- A callback that has a snapshot stores what `_on_status_update` commits for it. -/
theorem step_callback_db {i : Nat} {p : PrinterID} {c : Callback} {snap : Snapshot}
    (h : s.step (.callback i) = some s') (hi : s.pending[i]? = some (p, c)) (hc : c.payload = some snap) :
    s'.db = ((onStatusUpdate s.clock p snap).commit s.db).2 := by
  have hdb : s'.db = s.stored (s.pending[i]?.bind fun c => s.callbackRequest c.1 c.2) := step_db h
  rw [hi] at hdb
  refine hdb.trans ?_
  cases c with
  | report => cases hc; exact stored_void rfl
  | disconnected => cases hc; exact stored_void rfl
  | acknowledged => cases hc; exact stored_void rfl
  | acknowledging => cases hc
  | acknowledgeLog => cases hc

end Service

section reach

variable {ok : Service → Event → Prop} {s s' : Service} {e : Event}

/-- **Every step but plate clearing is audited.** -/
theorem audited_step (hr : service.Reach ok s) (h : service.step s e = some s')
    (hclear : ∀ p, e ≠ .plateCleared p) : Audited s.db s'.db := by
  have howned := (disciplined_of_reach hr).floor.owned
  rw [Service.step_db h]
  cases hreq : s.request e with
  | none => exact .refl _
  | some r =>
      have hquiet := Service.request_clearsPlate hreq hclear
      exact (Request.commits_audited s.db hquiet).atomic (.refl howned) (.refl _)

end reach

section bounds

variable {G : Db → Db → Prop} {s s' : Service} {e : Event}

/-- Every transaction is stamped with the time of its step. -/
theorem Service.request_time {r : Request} {t : Time} (h : s.request e = some r) (ht : r.time = some t) :
    t = s.clock := by
  cases e with
  | callback i =>
      obtain ⟨⟨p, c⟩, -, hc⟩ := Option.bind_eq_some_iff.mp h
      cases c <;> cases hc <;> cases ht <;> rfl
  | tick =>
      change s.loopRequest = some r at h
      unfold loopRequest at h
      split at h <;> cases h <;> cases ht <;> rfl
  | slice id ev =>
      obtain ⟨task, -, htask⟩ := Option.bind_eq_some_iff.mp h
      cases task <;> cases htask <;> cases ht <;> rfl
  | handoff i ev =>
      obtain ⟨worker, -, hw⟩ := Option.bind_eq_some_iff.mp h
      unfold handoffRequest at hw
      split at hw <;> cases hw <;> cases ht <;> rfl
  | _ => cases h <;> cases ht <;> rfl

/-- **A bound on every UPDATE bounds every step** but an upload, whatever the state of the service. -/
theorem bounded_step (hG : Bounds s.clock G) (hrefl : ∀ d, G d d)
    (htrans : ∀ d d' d'', G d d' → G d' d'' → G d d'') (h : service.step s e = some s') (he : e.uploads = false) :
    G s.db s'.db := by
  rw [Service.step_db h]
  cases hreq : s.request e with
  | none => exact hrefl s.db
  | some r =>
      have hup : r.uploads = false := Service.request_uploads hreq he
      have hr : Writing G r.program := Request.within hup fun t ht => by
        rw [Service.request_time hreq ht]
        exact hG
      exact (hr.commit hrefl htrans s.db).2

/-- **Only an upload activates a job.** -/
theorem unactivating_step (h : service.step s e = some s') (he : e.uploads = false) : NoneActivated s.db s'.db :=
  bounded_step (NoneActivated.bounds s.clock) NoneActivated.refl NoneActivated.trans h he

/-- What an upload commits. -/
theorem upload_step {id : JobId} {form : UploadForm} (h : service.step s (.upload id form) = some s') :
    s'.db = ((commitUpload s.settings s.clock id form).commit s.db).2 :=
  Service.step_db h

/-- **A job ends at the time of the step that ends it**, and keeps that time. -/
theorem stamped_step (h : service.step s e = some s') : Stamped s.clock s.db s'.db := by
  cases he : e.uploads with
  | false => exact bounded_step (Stamped.bounds s.clock) (Stamped.refl s.clock) Stamped.trans h he
  | true =>
      cases e with
      | upload id form =>
          rw [upload_step h]
          exact commitUpload_stamped form
      | _ => cases he

/-- **A row that is new** was added by an upload. -/
theorem added_step {id : JobId} {j : Job} (h : service.step s e = some s') (hnone : s.db.job id = none)
    (hj : s'.db.job id = some j) : (∃ form, e = .upload id form) ∧ j.stlPath = uploadPath s.settings id ∧
      j.slicedPath = none := by
  cases he : e.uploads with
  | false =>
      have hstill := bounded_step (NoneAdded.bounds s.clock) NoneAdded.refl NoneAdded.trans h he id hnone
      rw [hstill] at hj
      cases hj
  | true =>
      cases e with
      | upload k form =>
          have hdb := upload_step h
          rcases commitUpload_row s.settings s.clock k form s.db with hsame | ⟨hk, entry, hrow⟩
          · rw [hdb, hsame, hnone] at hj
            cases hj
          · rw [hdb, hrow, Db.job_insertLog, Db.job_insertJob hk] at hj
            split at hj
            · next hid =>
                cases hid
                cases hj
                exact ⟨⟨form, rfl⟩, rfl, rfl⟩
            · rw [hnone] at hj
              cases hj
      | _ => cases he

end bounds

end BambuBabu
