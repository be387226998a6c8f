import BambuBabu.Correctness.PhantomPrint
import BambuBabu.Floor.Requests
import BambuBabu.Service.Mailing
import BambuBabu.Service.Requests

/-!
# `Correctness.LifecycleMail` — is every lifecycle mail sent once, and is what it says true?

A mail follows the commit that was the reason for it, and a thread forgets a mail when it dies, so none is sent twice.
What a mail says stays true: a terminal status is final, and a job gets one dispatch worker in its life.

* `Earned` — what the mail says is so.
* `lifecycle_mails` — **the theorem** about any run: no mail twice, and none that is not earned.
* `completion_mails` — **the theorem** about a run without crashes: every completed job has its mail.
-/

namespace BambuBabu

open Storage Runs

/-- What the mail of this purpose says about the job is so, and for a start also that nobody is left to say it
    again. -/
def Earned (s : Service) (key : JobId × Purpose) (p : PrinterID) : Prop :=
  match key.2 with
  | .started => .published key.1 p ∈ s.history ∧ Dispatched s.db key.1 ∧ key.1 ∉ s.handoffs.map Handoff.id
  | .completed => s.db.statusOf key.1 = some .completed
  | .failed => s.db.statusOf key.1 = some .failed

/-- No mail was asked for twice, and all of them are earned. -/
structure Mailed (m : Mailing) : Prop where
  once : m.keys.Nodup
  due : ∀ t ∈ m.due, Earned m.service t.key t.printer
  posted : ∀ x ∈ m.posted, Earned m.service x.key x.printer

/-- A worker whose publish is behind it has published on its own printer. -/
def WorkersPublished (s : Service) : Prop :=
  ∀ h ∈ s.handoffs, h.pc.announced → .published h.id h.printer ∈ s.history

variable {s s' : Service} {e : Event} {id : JobId} {p : PrinterID}
  {key : JobId × Purpose} {m m' : Mailing}

/-! ## A step of the service -/

/-- A status without outgoing edges is final. -/
theorem Trans.final {st : JobStatus} (ht : Trans s e s') (hst : s.db.statusOf id = some st)
    (hfinal : allowedJobTransitions st = []) : s'.db.statusOf id = some st := by
  obtain ⟨j, hj, rfl⟩ := Option.map_eq_some_iff.mp hst
  obtain ⟨j', hj', hs'⟩ := ht.moves.final hj hfinal
  rw [← hs']
  exact Db.statusOf_eq hj'

/-- A job that was sent to a printer gets no second worker. -/
theorem Trans.no_worker (ht : Trans s e s') (hsent : Dispatched s.db id) (hno : id ∉ s.handoffs.map Handoff.id) :
    Dispatched s'.db id ∧ id ∉ s'.handoffs.map Handoff.id := by
  obtain ⟨st, hown, hst⟩ := hsent
  obtain ⟨j, hj, rfl⟩ := Option.map_eq_some_iff.mp hst
  obtain ⟨j', hj', hown', -⟩ := ht.moves.sent hj hown
  refine ⟨⟨_, hown', Db.statusOf_eq hj'⟩, fun hmem => ?_⟩
  rcases ht.handoffs.ids with hsub | ⟨k, i, hk, hs, hids⟩
  · exact hno (hsub.subset hmem)
  · rw [hids, List.mem_append] at hmem
    rcases hmem with hold | hnew
    · exact hno hold
    · -- only a queued job gets one
      cases List.mem_singleton.mp hnew
      cases Option.some.inj (hj.symm.trans hk)
      rw [hs] at hown
      exact absurd hown (by decide)

/-- **What a mail says stays true.** -/
theorem Earned.step (h : Earned s key p) (ht : Trans s e s') : Earned s' key p := by
  obtain ⟨id, purpose⟩ := key
  cases purpose with
  | started =>
      obtain ⟨hpub, hsent, hno⟩ := h
      exact ⟨ht.history_mono hpub, ht.no_worker hsent hno⟩
  | completed => exact ht.final h rfl
  | failed => exact ht.final h rfl

theorem WorkersPublished.step (h : WorkersPublished s) (ht : Trans s e s') : WorkersPublished s' := by
  intro h' hh' hpc
  cases ht.worker hh' with
  | stayed hh => exact ht.history_mono (h h' hh hpc)
  | dispatched _ hbegin =>
      rw [hbegin] at hpc
      cases hpc
  | @advanced i w _ _ hh hid hp hadv =>
      have hold : w.pc.announced → .published h'.id h'.printer ∈ s'.history := fun hw => by
        rw [hid, hp]
        exact ht.history_mono (h w (List.mem_of_getElem? hh) hw)
      generalize h'.pc = pc at hadv hpc
      cases hadv with
      | goto hloc =>
          apply hold
          generalize w.pc = pc₀ at hloc ⊢
          cases hloc <;> trivial
      | publish _ hist =>
          rw [hid, hp, hist]
          exact List.mem_cons_self
      | started hawait => exact hold (by rw [hawait]; trivial)
      | _ => cases hpc

theorem workersPublished_of_reach (h : service.Reach always s) : WorkersPublished s :=
  h.invariant
    (fun s hinit => by
      obtain ⟨cfg, now, rfl⟩ := hinit
      exact fun _ hh => (by cases hh))
    fun _ _ _ hr hw _ hstep => hw.step (trans_of_reach hr hstep)

/-- A worker that confirms its start returns. -/
theorem HandoffTrans.confirmed {i : Nat} {h : Handoff} (ht : HandoffTrans s i h s') (hpc : h.pc = .confirm) :
    s'.handoffs = s.handoffs.eraseIdx i := by
  cases ht with
  | confirmSkip | confirm | block => rfl
  | goto hloc =>
      rw [hpc] at hloc
      cases hloc
  | upload hpc' | request hpc' | check hpc' | publish hpc' | started hpc' | quarantineSkip hpc' | quarantine hpc'
  | failSkip hpc' | fail hpc' | releaseSkip hpc' | release hpc' =>
      rw [hpc] at hpc'
      cases hpc'

/-- Taking an item out of a list. -/
theorem perm_eraseIdx {α : Type} {l : List α} {i : Nat} {a : α} (h : l[i]? = some a) : (a :: l.eraseIdx i).Perm l := by
  obtain ⟨hlt, rfl⟩ := List.getElem?_eq_some_iff.mp h
  exact List.getElem_cons_eraseIdx_perm hlt

/-- **A mail is earned by the step that asks for it**, and was not before. -/
theorem mail_earned {t : MailTask} (hr : service.Reach always s) (hstep : service.step s e = some s')
    (hmail : s.mail e = some t) : Earned s' t.key t.printer ∧ ∀ q, ¬ Earned s t.key q := by
  have ht := trans_of_reach hr hstep
  have hD := disciplined_of_reach hr
  cases e with
  | callback i =>
      obtain ⟨p, c, snap, n, hi, hc, hresult, rfl⟩ := Service.callbackMail_cases hmail
      -- the callback sends a mail for the owner of the slot only, and only when this ends the job
      by_cases hnone : ∀ id, (s.db.printers p).currentJobId = some id → s.db.job id = none
      · rw [onStatusUpdate_silent hnone] at hresult
        cases hresult
      · push Not at hnone
        obtain ⟨id, hslot, hsome⟩ := hnone
        obtain ⟨job, hj⟩ := Option.ne_none_iff_exists'.mp hsome
        rw [onStatusUpdate_result hslot hj] at hresult
        obtain ⟨hawait, hp, hends⟩ := Snapshot.notifies_some (Except.ok.inj hresult)
        rcases hcm : (onStatusUpdate s.clock p snap).commit s.db with ⟨r, d⟩
        have hdb : s'.db = d := by rw [Service.step_callback_db hstep hi hc, hcm]
        obtain ⟨j', hj', -, hs'⟩ := (onStatusUpdate_commit hcm).1.owner hslot hj
        rw [Db.floor_job, ← hdb] at hj'
        have hafter : s'.db.statusOf id = some (snap.outcome job.status) := by
          rw [← hs']
          exact Db.statusOf_eq hj'
        have hbefore : ∀ st ∈ terminalJobStatuses, s.db.statusOf id ≠ some st := by
          intro st hst hc
          cases (Db.statusOf_eq hj).symm.trans hc
          revert hawait hst
          cases job.status <;> decide
        rcases hends with ⟨hkey, hout⟩ | ⟨hkey, hout⟩
        · show Earned s' n.key n.printer ∧ ∀ q, ¬ Earned s n.key q
          rw [hkey]
          exact ⟨hafter.trans (congrArg some hout), fun _ => hbefore _ (by decide)⟩
        · show Earned s' n.key n.printer ∧ ∀ q, ¬ Earned s n.key q
          rw [hkey]
          exact ⟨hafter.trans (congrArg some hout), fun _ => hbefore _ (by decide)⟩
  | handoff i ev =>
      obtain ⟨w, job, hw, hpc, hresult, rfl⟩ := Service.handoffMail_cases hmail
      have hmem := List.mem_of_getElem? hw
      rcases hc : (confirmStarted s.clock w.id w.printer).commit s.db with ⟨r, d⟩
      rw [hc] at hresult
      cases (show r = .ok (some job) from hresult)
      obtain ⟨-, j, hj, hst⟩ := confirmStarted_commit hc
      have hsent : Dispatched s'.db w.id := by
        obtain ⟨j', hj', hown, -⟩ := ht.moves.sent hj (show j.status ∈ owning by
          revert hst
          cases j.status <;> decide)
        exact ⟨_, hown, Db.statusOf_eq hj'⟩
      refine ⟨⟨ht.history_mono (workersPublished_of_reach hr w hmem (by rw [hpc]; trivial)), hsent, ?_⟩, ?_⟩
      · -- the worker returns, and no other one works for the job
        have hgone := (handoffStep_trans (fun _ hj hs => hD.slot hmem hj hs) (Service.step_handoff hstep hw)).confirmed hpc
        rw [hgone]
        have hperm := (perm_eraseIdx hw).map Handoff.id
        exact (List.nodup_cons.mp (hperm.nodup_iff.mpr hD.distinct)).1
      · rintro q ⟨-, -, hno⟩
        exact hno (List.mem_map_of_mem hmem)
  | _ => cases hmail

/-! ## A step of the machine -/

/-- **Every step keeps the invariant.** -/
theorem Mailed.step {e : MailingEvent} (hM : Mailed m) (hr : service.Reach always m.service)
    (hs : mailing.step m e = some m') : Mailed m' := by
  cases e with
  | service e =>
      obtain ⟨s', hstep, rfl⟩ := Option.map_eq_some_iff.mp hs
      have ht := trans_of_reach hr hstep
      have hposted : ∀ x ∈ m.posted, Earned s' x.key x.printer := fun x hx => (hM.posted x hx).step ht
      -- a crash loses the mails that are due, but none that was sent
      by_cases hdown : s'.phase = .down
      · refine ⟨?_, ?_, hposted⟩
        · show (List.map MailTask.key (if s'.phase = .down then [] else _) ++ m.posted.map Post.key).Nodup
          rw [if_pos hdown]
          exact hM.once.sublist (List.sublist_append_right _ _)
        · intro t ht'
          have hempty : (m.serve e s').due = [] := if_pos hdown
          rw [hempty] at ht'
          cases ht'
      · have hdue : (m.serve e s').due = m.due ++ (m.service.mail e).toList := if_neg hdown
        cases hmail : m.service.mail e with
        | none =>
            rw [hmail, Option.toList_none, List.append_nil] at hdue
            refine ⟨?_, fun t ht' => ?_, hposted⟩
            · show (List.map MailTask.key (m.serve e s').due ++ m.posted.map Post.key).Nodup
              rw [hdue]
              exact hM.once
            · rw [hdue] at ht'
              exact (hM.due t ht').step ht
        | some task =>
            obtain ⟨hearned, hnew⟩ := mail_earned hr hstep hmail
            rw [hmail, Option.toList_some] at hdue
            refine ⟨?_, fun t ht' => ?_, hposted⟩
            · have hkeys : (m.serve e s').keys = m.due.map MailTask.key ++ task.key :: m.posted.map Post.key := by
                show List.map MailTask.key (m.serve e s').due ++ m.posted.map Post.key = _
                rw [hdue, List.map_append, List.append_assoc]
                rfl
              rw [hkeys]
              refine List.perm_middle.nodup_iff.mpr (List.nodup_cons.mpr ⟨fun hmem => ?_, hM.once⟩)
              rcases List.mem_append.mp hmem with hmem | hmem
              · obtain ⟨t, ht', hkey⟩ := List.mem_map.mp hmem
                exact hnew _ (hkey ▸ hM.due t ht')
              · obtain ⟨x, hx, hkey⟩ := List.mem_map.mp hmem
                exact hnew _ (hkey ▸ hM.posted x hx)
            · rw [hdue] at ht'
              rcases List.mem_append.mp ht' with hold | hlast
              · exact (hM.due t hold).step ht
              · cases List.mem_singleton.mp hlast
                exact hearned
  | send i =>
      obtain ⟨task, hi, rfl⟩ := Option.map_eq_some_iff.mp hs
      have hmem := List.mem_of_getElem? hi
      -- the task goes from the one list to the other, if its row is still there
      have hperm : ((task.key :: (m.due.eraseIdx i).map MailTask.key) ++ m.posted.map Post.key).Perm m.keys :=
        ((perm_eraseIdx hi).map MailTask.key).append_right _
      refine ⟨?_, fun t ht => hM.due t (List.mem_of_mem_eraseIdx ht), fun x hx => ?_⟩
      · have honce := hperm.nodup_iff.mpr hM.once
        show (List.map MailTask.key (m.due.eraseIdx i) ++ List.map Post.key (m.posted ++ _)).Nodup
        cases hjob : m.service.mailJob task with
        | none =>
            rw [Option.map_none, Option.toList_none, List.append_nil]
            exact (List.nodup_cons.mp honce).2
        | some job =>
            rw [Option.map_some, Option.toList_some, List.map_append, ← List.append_assoc]
            exact List.perm_append_comm.nodup_iff.mpr honce
      · rcases List.mem_append.mp hx with hold | hnew
        · exact hM.posted x hold
        · obtain ⟨job, -, rfl⟩ := Option.map_eq_some_iff.mp (Option.mem_toList.mp hnew)
          exact hM.due task hmem

/-- The service is not disturbed. -/
theorem service_of_mailing {ok : Mailing → MailingEvent → Prop} (h : mailing.Reach ok m) :
    service.Reach always m.service := by
  refine h.invariant (I := fun m => service.Reach always m.service) ?_ ?_
  · rintro m ⟨hinit, -⟩
    exact .init hinit
  · intro m e m' _ hr _ hs
    cases e with
    | service e =>
        obtain ⟨s', hstep, rfl⟩ := Option.map_eq_some_iff.mp hs
        exact hr.step trivial hstep
    | send i =>
        obtain ⟨task, -, rfl⟩ := Option.map_eq_some_iff.mp hs
        exact hr

theorem mailed_of_reach {ok : Mailing → MailingEvent → Prop} (h : mailing.Reach ok m) : Mailed m := by
  refine h.invariant ?_ fun _ _ _ hr hM _ hs => hM.step (service_of_mailing hr) hs
  rintro m ⟨-, hdue, hposted⟩
  refine ⟨?_, fun t ht => ?_, fun x hx => ?_⟩
  · show (List.map MailTask.key m.due ++ List.map Post.key m.posted).Nodup
    rw [hdue, hposted]
    exact List.nodup_nil
  · rw [hdue] at ht
    cases ht
  · rw [hposted] at hx
    cases hx

/-! ## The rows that the mails show -/

/-- A mail shows its job in the status that the mail is about. -/
structure Shown (m : Mailing) : Prop where
  due : ∀ id p job, .started id p job ∈ m.due → job.status = .printing
  posted : ∀ x ∈ m.posted, x.job.status = x.key.2.status

theorem mem_serve {t : MailTask} (h : t ∈ (m.serve e s').due) : t ∈ m.due ∨ m.service.mail e = some t := by
  unfold Mailing.serve at h
  split at h
  · cases h
  · exact (List.mem_append.mp h).imp_right Option.mem_toList.mp

/-- A callback reads the row of an ended job in the status that ended it. -/
theorem Earned.row {t : MailTask} {job : Job} (h : Earned s t.key t.printer) (hjob : s.mailJob t = some job)
    (hstarted : ∀ id p, t = .started id p job → job.status = .printing) : job.status = t.key.2.status := by
  cases t with
  | started id p started =>
      cases hjob
      exact hstarted id p rfl
  | notify n =>
      have hstatus : ∀ {st : JobStatus}, s.db.statusOf n.key.1 = some st → job.status = st := fun hst =>
        Option.some.inj ((Db.statusOf_eq hjob).symm.trans hst)
      cases n with
      | complete id p => exact hstatus h
      | failed id p => exact hstatus h

theorem Shown.step {e : MailingEvent} (hS : Shown m) (hM : Mailed m) (hs : mailing.step m e = some m') : Shown m' := by
  cases e with
  | service e =>
      obtain ⟨s', hstep, rfl⟩ := Option.map_eq_some_iff.mp hs
      refine ⟨fun id p job hmem => ?_, hS.posted⟩
      rcases mem_serve hmem with hold | hnew
      · exact hS.due id p job hold
      · cases e with
        | callback i =>
            obtain ⟨_, _, _, _, _, _, _, hc⟩ := Service.callbackMail_cases hnew
            cases hc
        | handoff i ev =>
            obtain ⟨w, started, _, _, hresult, hc⟩ := Service.handoffMail_cases hnew
            cases hc
            rcases hcm : (confirmStarted m.service.clock w.id w.printer).commit m.service.db with ⟨r, d⟩
            rw [hcm] at hresult
            cases (show r = .ok (some job) from hresult)
            exact (confirmStarted_commit hcm).1
        | _ => cases hnew
  | send i =>
      obtain ⟨task, hi, rfl⟩ := Option.map_eq_some_iff.mp hs
      refine ⟨fun id p job hmem => hS.due id p job (List.mem_of_mem_eraseIdx hmem), fun x hx => ?_⟩
      have hdue := List.mem_of_getElem? hi
      rcases List.mem_append.mp hx with hold | hnew
      · exact hS.posted x hold
      · obtain ⟨job, hjob, rfl⟩ := Option.map_eq_some_iff.mp (Option.mem_toList.mp hnew)
        refine (hM.due task hdue).row hjob fun id p hc => hS.due id p job (hc ▸ hdue)

theorem shown_of_reach {ok : Mailing → MailingEvent → Prop} (h : mailing.Reach ok m) : Shown m := by
  refine h.invariant ?_ fun _ _ _ hr hS _ hs => hS.step (mailed_of_reach hr) hs
  rintro m ⟨-, hdue, hposted⟩
  refine ⟨fun id p job hmem => ?_, fun x hx => ?_⟩
  · rw [hdue] at hmem
    cases hmem
  · rw [hposted] at hx
    cases hx

/-! ## The theorems -/

/-- **Lifecycle mails**: over any run with any crashes, no mail is sent twice, and each one that was sent shows its job
    in the status it is about, which for COMPLETED and FAILED is the status the job has now, and for a start was
    reached after the start command was published. -/
theorem lifecycle_mails (h : mailing.Reach always m) : (m.posted.map Post.key).Nodup ∧
    ∀ x ∈ m.posted, x.job.status = x.key.2.status ∧ match x.key.2 with
      | .started => .published x.key.1 x.printer ∈ m.service.history
      | .completed => m.service.db.statusOf x.key.1 = some .completed
      | .failed => m.service.db.statusOf x.key.1 = some .failed := by
  have hM := mailed_of_reach h
  refine ⟨hM.once.sublist (List.sublist_append_right _ _), fun x hx => ⟨(shown_of_reach h).posted x hx, ?_⟩⟩
  have hearned := hM.posted x hx
  unfold Earned at hearned
  split
  · next hkey => rw [hkey] at hearned; exact hearned.1
  · next hkey => rw [hkey] at hearned; exact hearned
  · next hkey => rw [hkey] at hearned; exact hearned

/-- A print is started, confirmed and finished, and both mails are sent. -/
def finishedMails : List MailingEvent :=
  let events : List Event := Script.online ++ Script.reportState .idle ++ [Script.upload "a"] ++ Script.slice "a" ++
    Script.dispatch ++ Script.transfer ++ Script.publish ++ [.handoff 0 (.answered .acknowledged)] ++
    Script.reportState .running ++ [.handoff 0 (.awaited false), .handoff 0 .next] ++ Script.reportState .finish
  events.map .service ++ [.send 0, .send 0]

theorem mailing_init : mailing.init ⟨Service.fresh Script.p1sOnly 0, [], []⟩ := ⟨service_init _ _, rfl, rfl⟩

theorem lifecycle_mails_finished : ∃ m : Mailing, mailing.Reach always m ∧
    m.posted.map Post.key = [("a", .started), ("a", .completed)] ∧ (m.posted.map Post.key).Nodup ∧
    ∀ x ∈ m.posted, x.job.status = x.key.2.status ∧ match x.key.2 with
      | .started => .published x.key.1 x.printer ∈ m.service.history
      | .completed => m.service.db.statusOf x.key.1 = some .completed
      | .failed => m.service.db.statusOf x.key.1 = some .failed := by
  obtain ⟨m, hr, hm⟩ := Machine.reach_of_run (M := mailing) Machine.always_of_anyStep finishedMails
    (fun m => decide (m.posted.map Post.key = [("a", .started), ("a", .completed)])) mailing_init (by decide +kernel)
  exact ⟨m, hr, of_decide_eq_true hm, lifecycle_mails hr⟩

/-! ## Runs without crashes -/

/-- The step is not a crash. -/
def keepsRunning (_ : Mailing) (e : MailingEvent) : Prop := e ≠ .service .crash

/-- Only a crash takes the service down. -/
theorem Trans.down_before (ht : Trans s e s') (he : e ≠ .crash) (hdown : s'.phase = .down) : s.phase = .down := by
  cases ht with
  | same | clock | cancel | upload | clear | acknowledge => exact hdown
  | boot | reconcile => cases hdown
  | crash => exact absurd rfl he
  | live _ hstep => exact (liveStep_frame hstep).phase.symm.trans hdown
  | callback _ ht => cases ht <;> exact hdown
  | tick _ ht => cases ht <;> exact hdown
  | slice _ _ ht => cases ht <;> exact hdown
  | handoff _ _ ht => cases ht <;> exact hdown

/-- **A job is completed by a callback**, which asks for its mail. -/
theorem mail_of_completed {j j' : Job} (ht : Trans s e s') (hj : s.db.job id = some j) (hj' : s'.db.job id = some j')
    (hne : j.status ≠ .completed) (hst : j'.status = .completed) :
    ∃ i p, e = .callback i ∧ s.mail e = some (.notify (.complete id p)) := by
  cases ht.job_trans hj hj' with
  | kept hsame => exact absurd (hsame.symm.trans hst) hne
  | cancelled _ h | retried _ _ h | quarantined _ _ h | cleared _ _ _ h | dispatched _ _ h | withdrawn _ h =>
      rw [h] at hst
      cases hst
  | @reported i p c snap he hi hc _ hslot h =>
      refine ⟨i, p, he, ?_⟩
      have hresult : ((onStatusUpdate s.clock p snap).commit s.db).1 = _ := onStatusUpdate_result hslot hj
      rw [Snapshot.notifies_completed id p (h.symm.trans hst) hne] at hresult
      rw [he]
      simp only [Service.mail, Service.callbackMail, hi, Option.bind_eq_bind, Option.bind_some, hc, hresult]
      rfl
  | sliced _ _ hm => exact absurd (by rw [hst]; decide) hm.not_started
  | handed _ _ _ hm =>
      obtain ⟨hfailed, -⟩ := hm.ends (by rw [hst]; decide)
      rw [hst] at hfailed
      cases hfailed

/-- Every completed job has its mail, sent or not; a process that is down has none to send. -/
structure AllMailed (m : Mailing) : Prop where
  completed : ∀ id, m.service.db.statusOf id = some .completed → (id, .completed) ∈ m.keys
  down : m.service.phase = .down → m.due = []

theorem mem_keys_serve (hA : AllMailed m) (ht : Trans m.service e s') (he : e ≠ .crash) (h : key ∈ m.keys) :
    key ∈ (m.serve e s').keys := by
  unfold Mailing.keys Mailing.serve at *
  by_cases hdown : s'.phase = .down
  · rw [hA.down (ht.down_before he hdown)] at h
    simp only [if_pos hdown]
    exact h
  · simp only [if_neg hdown]
    rw [List.map_append, List.append_assoc]
    rcases List.mem_append.mp h with hdue | hposted
    · exact List.mem_append_left _ hdue
    · exact List.mem_append_right _ (List.mem_append_right _ hposted)

theorem AllMailed.step {e : MailingEvent} (hA : AllMailed m) (hr : service.Reach always m.service)
    (hok : keepsRunning m e) (hs : mailing.step m e = some m') : AllMailed m' := by
  cases e with
  | service e =>
      obtain ⟨s', hstep, rfl⟩ := Option.map_eq_some_iff.mp hs
      have ht := trans_of_reach hr hstep
      have he : e ≠ .crash := fun hc => hok (by rw [hc])
      refine ⟨fun id hst => ?_, fun hdown => if_pos hdown⟩
      obtain ⟨j', hj', hcompleted⟩ := Option.map_eq_some_iff.mp hst
      cases hj : m.service.db.job id with
      | none =>
          rw [ht.born hj hj'] at hcompleted
          cases hcompleted
      | some j =>
          -- a job that becomes COMPLETED does so in a callback, which asks for the mail
          by_cases hold : j.status = .completed
          · exact mem_keys_serve hA ht he (hA.completed id (by rw [Db.statusOf_eq hj, hold]))
          · obtain ⟨i, p, rfl, hmail⟩ := mail_of_completed ht hj hj' hold hcompleted
            have hup : s'.phase ≠ .down := fun hdown => by
              have hbefore := ht.down_before he hdown
              unfold Service.step at hstep
              simp only [hbefore] at hstep
              cases hstep
            have hdue : (m.serve (.callback i) s').due = m.due ++ [.notify (.complete id p)] := by
              unfold Mailing.serve
              rw [if_neg hup, hmail, Option.toList_some]
            unfold Mailing.keys
            rw [hdue, List.map_append]
            exact List.mem_append_left _ (List.mem_append_right _ (List.mem_singleton_self _))
  | send i =>
      obtain ⟨task, hi, rfl⟩ := Option.map_eq_some_iff.mp hs
      refine ⟨fun id hst => ?_, fun hdown => ?_⟩
      · have hperm : ((task.key :: (m.due.eraseIdx i).map MailTask.key) ++ m.posted.map Post.key).Perm m.keys :=
          ((perm_eraseIdx hi).map MailTask.key).append_right _
        rcases List.mem_append.mp (hperm.mem_iff.mpr (hA.completed id hst)) with hdue | hposted
        · rcases List.mem_cons.mp hdue with hkey | hdue
          · -- the row is there, since the mail is earned
            obtain ⟨job, hjob⟩ : ∃ job, m.service.mailJob task = some job := by
              cases task with
              | started => cases hkey
              | notify n =>
                  obtain ⟨job, hjob, -⟩ := Option.map_eq_some_iff.mp hst
                  cases n <;> cases hkey
                  exact ⟨job, hjob⟩
            refine List.mem_append_right _ ?_
            show (id, Purpose.completed) ∈ List.map Post.key (m.posted ++ (Option.map _ (m.service.mailJob task)).toList)
            rw [hjob, List.map_append]
            exact List.mem_append_right _ (List.mem_singleton.mpr hkey)
          · exact List.mem_append_left _ hdue
        · refine List.mem_append_right _ ?_
          show (id, Purpose.completed) ∈ List.map Post.key (m.posted ++ _)
          rw [List.map_append]
          exact List.mem_append_left _ hposted
      · have hempty := hA.down hdown
        rw [hempty] at hi
        cases hi

end BambuBabu
