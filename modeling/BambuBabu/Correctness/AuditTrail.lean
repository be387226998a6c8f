import BambuBabu.Service.Requests

/-!
# `Correctness.AuditTrail` — does every status change have a log entry?

Every transaction of the service that moves a job pairs the swap with a log entry that names the job, with one
exception: `mark_plate_cleared` resolves a quarantined job to FAILED, and its only entry names the printer.

* `unlogged_resolution` — that run.
* `keepsAttention` — the condition: the step does not resolve a quarantined job that way.
* `audit_trail` — **the theorem**: in every run, the steps that explain what they commit are exactly the ones
  that meet the condition.
-/

namespace BambuBabu

open Storage Runs

/-- What the step commits is explained: each job whose status it changed has an entry among the ones it
    inserted, and if its transaction was rolled back nothing of it is left. -/
def Explained (s : Service) (e : Event) : Prop :=
  ∀ s', service.step s e = some s' → Audited s.db s'.db ∧
    ∀ r exc, s.request e = some r → (r.program.commit s.db).1 = .error exc → s'.db = s.db

/-- The plate of `p` may be cleared, and its slot is owned by a quarantined job. -/
structure Quarantined (s : Service) (p : PrinterID) : Prop where
  live : s.settings.livePrinterEnabled p = true
  plate : (s.db.printers p).plateCleared = false
  inactive : (s.db.printers p).status ∉ [.printing, .paused]
  owner : ∃ id, (s.db.printers p).currentJobId = some id ∧ s.db.statusOf id = some .attention

/-- The step does not clear the plate under a quarantined job. -/
def keepsAttention (s : Service) (e : Event) : Prop := ∀ p, e = .plateCleared p → ¬ Quarantined s p

variable {s s' : Service} {e : Event} {p : PrinterID}

/-- A transaction that was rolled back leaves nothing. -/
theorem rolledBack {r : Request} {exc : Exc} (h : service.step s e = some s') (hreq : s.request e = some r)
    (hfail : (r.program.commit s.db).1 = .error exc) : s'.db = s.db := by
  rw [Service.step_db h, hreq]
  rcases hc : r.program.commit s.db with ⟨out, d⟩
  rw [hc] at hfail
  cases hfail
  show (r.program.commit s.db).2 = s.db
  rw [hc]
  exact Txn.eq_of_commit_error hc

/-- A plate-clear moves its owner from ATTENTION to FAILED and nobody else. -/
theorem Move.clear_status {f f' : Floor} {owner : Option JobId} {k : JobId} {j j' : Job}
    (hm : Move (.clear p owner) f f') (hj : f.job k = some j) (hj' : f'.job k = some j') :
    j'.status = if owner = some k ∧ j.status = .attention then .failed else j.status := by
  obtain ⟨hne, hkept⟩ | ⟨i, howner, hi, -, hst, -⟩ := hm.job_cases hj
  · have hno : ¬ (owner = some k ∧ j.status = .attention) := fun hc => hne hc.1
    rw [if_neg hno, ← Option.some.inj (hkept.symm.trans hj')]
  · rw [← Option.some.inj (hi.symm.trans hj'), hst]
    have howner : owner = some k := howner
    by_cases hatt : j.status = .attention
    · rw [if_pos ⟨howner, hatt⟩, Act.leads, if_pos hatt]
    · rw [if_neg fun hc => hatt hc.2, Act.leads, if_neg hatt]

/-- **Clearing a plate is audited unless its owner is quarantined**: its one entry names no job. -/
theorem plateCleared_audited (hr : service.Reach always s) (h : service.step s (.plateCleared p) = some s') :
    Audited s.db s'.db ↔ ¬ Quarantined s p := by
  have hD := disciplined_of_reach hr
  have hdb : s'.db = ((markPlateCleared s.settings s.clock p).commit s.db).2 :=
    (Service.step_db h).trans (Service.stored_void rfl)
  have howner : ∀ k, (s.db.printers p).currentJobId = some k → s.db.job k ≠ none := by
    intro k hk
    obtain ⟨j, hj, -⟩ := hD.floor.owner p k hk
    rw [← Db.floor_job, hj]
    exact Option.some_ne_none j
  rcases hc : (markPlateCleared s.settings s.clock p).commit s.db with ⟨out, d⟩
  rw [hc] at hdb
  obtain ⟨rfl, href⟩ | ⟨owner, -, hslot, hm, ⟨entry, hentry, hlogs⟩, hlive, hinactive⟩ :=
    markPlateCleared_commit hc howner
  · -- a refused request changes nothing, and a quarantined owner is no reason to refuse it
    rw [hdb]
    refine ⟨fun _ hq => ?_, fun _ => .refl _⟩
    cases href with
    | disabled hno => rw [hq.live] at hno; cases hno
    | already hno => rw [hq.plate] at hno; cases hno
    | busy hno => exact hq.inactive hno
    | active hown hj hs =>
        obtain ⟨id, hid, hatt⟩ := hq.owner
        cases Option.some.inj (hown.symm.trans hid)
        rw [Db.statusOf_eq hj] at hatt
        rw [Option.some.inj hatt] at hs
        exact absurd hs (by decide)
  · rw [hdb]
    constructor
    · rintro ⟨new, hnew, haudit⟩ hq
      obtain ⟨id, hid, hatt⟩ := hq.owner
      obtain ⟨j, hj, hs⟩ := Option.map_eq_some_iff.mp hatt
      obtain ⟨j', hj', -⟩ := hm.row hj
      have hfailed := hm.clear_status hj hj'
      rw [if_pos ⟨hslot.symm.trans hid, hs⟩] at hfailed
      -- the new entries are the one that names no job
      have hentries : new = [entry] := List.append_cancel_left (hnew.symm.trans hlogs)
      obtain ⟨e, he, hid'⟩ := haudit id (by rw [Db.statusOf_eq hj', hfailed, hatt]; decide)
      rw [hentries, List.mem_singleton] at he
      rw [he, hentry] at hid'
      cases hid'
    · intro hno
      refine ⟨[entry], hlogs, fun k hk => absurd ?_ hk⟩
      unfold Db.statusOf
      cases hj : s.db.job k with
      | none =>
          have hnone : d.job k = none := hm.no_row (fun hc => by cases hc) hj
          rw [hnone]
      | some j =>
          obtain ⟨j', hj', -⟩ := hm.row hj
          have hkept : ¬ (owner = some k ∧ j.status = .attention) := by
            rintro ⟨rfl, hs⟩
            exact hno ⟨hlive, hm.cleared.1, hinactive, k, hslot, by rw [Db.statusOf_eq hj, hs]⟩
          have hst := hm.clear_status hj hj'
          rw [if_neg hkept] at hst
          show (d.floor.job k).map Job.status = _
          rw [hj', Option.map_some, Option.map_some, hst]

/-- **One step**: it explains what it commits exactly if it meets the condition. -/
theorem explained_iff (hr : service.Reach always s) (h : service.step s e = some s') :
    Explained s e ↔ keepsAttention s e := by
  constructor
  · rintro hexp p rfl
    exact (plateCleared_audited hr h).mp (hexp s' h).1
  · intro hok t ht
    refine ⟨?_, fun r exc hreq hfail => rolledBack ht hreq hfail⟩
    by_cases hclear : ∀ p, e ≠ .plateCleared p
    · exact audited_step hr ht hclear
    · push Not at hclear
      obtain ⟨p, rfl⟩ := hclear
      exact (plateCleared_audited hr ht).mpr (hok p rfl)

/-! ## Runs -/

/-- **Every status change is audited**, in a run exactly as long as no plate is cleared under a quarantined
    job. -/
theorem audit_trail {s₀ : Service} (h₀ : service.init s₀) (es : List Event) (s' : Service) :
    service.Follows Explained s₀ es s' ↔ service.Follows keepsAttention s₀ es s' :=
  Machine.Follows.congr (.init h₀) fun _ _ _ hr hs => explained_iff hr hs

/-- The check that no plate is cleared under a quarantined job. -/
def sparesAttention (s : Service) : Event → Bool
  | .plateCleared p => (s.db.printers p).currentJobId.all fun id => s.db.statusOf id ≠ some .attention
  | _ => true

theorem keepsAttention_of_check (s : Service) (e : Event) (h : sparesAttention s e = true) :
    keepsAttention s e := by
  rintro p rfl ⟨-, -, -, id, hown, hatt⟩
  simp [sparesAttention, hown, hatt] at h

/-- A print has finished, and its plate is cleared. -/
def clearedPrint : List Event :=
  Script.online ++ Script.reportState .idle ++ [Script.upload "a"] ++ Script.slice "a" ++ Script.dispatch ++
    Script.transfer ++ Script.publish ++ [.handoff 0 (.answered .acknowledged)] ++
    Script.reportState .running ++ [.handoff 0 (.awaited false), .handoff 0 .next] ++
    Script.reportState .finish ++ [.plateCleared .p1s]

theorem audit_trail_print : ∃ s', service.Follows Explained (Service.fresh Script.p1sOnly 0)
    clearedPrint s' ∧
    (s'.db.job "a").map Job.status = some .completed ∧ (s'.db.printers .p1s).currentJobId = none := by
  obtain ⟨s', hs, hp⟩ : ∃ s', service.run sparesAttention (Service.fresh Script.p1sOnly 0)
      clearedPrint = some s' ∧
      ((s'.db.job "a").map Job.status = some .completed ∧ (s'.db.printers .p1s).currentJobId = none) := by
    refine Option.any_eq_true _ _ |>.mp ?_ |>.imp fun s hs => ⟨hs.1, of_decide_eq_true hs.2⟩
    decide +kernel
  refine ⟨s', (audit_trail (service_init Script.p1sOnly 0) _ s').mpr ?_, hp⟩
  exact Machine.follows_of_run keepsAttention_of_check hs

/-- A dispatched job is quarantined by a restart. -/
def quarantineRun : List Event :=
  Script.online ++ Script.reportState .idle ++ [Script.upload "a"] ++ Script.slice "a" ++ Script.dispatch ++
    [.crash] ++ Script.online

/-- Its plate is cleared: the job fails, and its log does not say so. -/
theorem unlogged_resolution : ¬ ∀ s₀ es s', service.init s₀ → service.Follows always s₀ es s' →
    service.Follows Explained s₀ es s' := by
  intro hclaim
  have hinit := service_init Script.p1sOnly 0
  obtain ⟨s, hs, hp⟩ : ∃ s, service.run Machine.anyStep (Service.fresh Script.p1sOnly 0) quarantineRun = some s ∧
      (s.settings.livePrinterEnabled .p1s = true ∧ (s.db.printers .p1s).plateCleared = false ∧
        (s.db.printers .p1s).status = .error ∧ (s.db.printers .p1s).currentJobId = some "a" ∧
        s.db.statusOf "a" = some .attention ∧ (service.step s (.plateCleared .p1s)).isSome = true) := by
    refine Option.any_eq_true _ _ |>.mp ?_ |>.imp fun s hs => ⟨hs.1, of_decide_eq_true hs.2⟩
    decide +kernel
  obtain ⟨hlive, hplate, hst, hown, hatt, hstep⟩ := hp
  obtain ⟨s', hs'⟩ := Option.isSome_iff_exists.mp hstep
  have hrun : service.Follows always _ _ s := Machine.follows_of_run Machine.always_of_anyStep hs
  obtain ⟨s₁, hpre, hexp, -⟩ := (hclaim _ _ _ hinit (hrun.snoc trivial hs')).last
  cases hpre.det hrun
  have hreach : service.Reach always s := ⟨_, hinit, hrun.path⟩
  refine (explained_iff hreach hs').mp hexp .p1s rfl ⟨hlive, hplate, ?_, "a", hown, hatt⟩
  rw [hst]
  decide

end BambuBabu
