import BambuBabu.Api.Uploads
import BambuBabu.Service.Requests

/-!
# `Service.Intake` — concurrent uploads

`Service.step` takes an upload as one step. Here any number of upload requests are under way at once, each
suspended at one of its awaits, on top of a running service:

* `Intake` — the service, `UPLOAD_LOCK`, and where every request is.
* `IntakeTrans` — what a step can do; `intake_trans` inverts the step function.
* `intake_refines` — the requests make the service do nothing but upload.
-/

namespace BambuBabu

open Storage Runs

/-- Where a request is suspended. -/
inductive UploadPc where
  /-- In `async with UPLOAD_LOCK`. -/
  | waiting
  /-- Holding the lock, in `file.read`. -/
  | streaming (storage written : Nat)
  deriving DecidableEq

/-- An upload request with its job id and its form. -/
structure Upload where
  id : JobId
  form : UploadForm
  pc : UploadPc

/-- Whether the request holds the lock. -/
def Upload.holds (u : Upload) : Bool :=
  match u.pc with
  | .waiting => false
  | .streaming _ _ => true

/-- The service and its upload requests `ι`. -/
structure Intake (ι : Type) where
  service : Service
  /-- `UPLOAD_LOCK` -/
  lock : Option ι
  uploads : ι → Option Upload

inductive IntakeEvent (ι : Type) where
  /-- A request arrives whose form is in order. -/
  | post (i : ι) (id : JobId) (form : UploadForm)
  /-- The request gets the lock. -/
  | enter (i : ι) (storage : Nat)
  | chunk (i : ι) (size : Nat)
  /-- The end of the file. -/
  | complete (i : ι) (stored : Except Exc Unit)
  /-- An exception is raised where the request is suspended. -/
  | abandon (i : ι)
  /-- Any other step of the service. -/
  | other (e : Event)

namespace Intake

variable {ι : Type} [DecidableEq ι] (limits : UploadLimits) (s : Intake ι)

/-- Move a request on; `none` ends it. -/
def setUpload (i : ι) (u : Option Upload) : Intake ι := { s with uploads := Function.update s.uploads i u }

/-- A request that holds the lock ends. -/
def leave (i : ι) : Intake ι := { s.setUpload i none with lock := none }

/-- After a step of the service: the requests and the lock do not outlive the process. -/
def serve (sv : Service) : Intake ι :=
  if sv.phase = .running then { s with service := sv } else ⟨sv, none, fun _ => none⟩

/-- One step. -/
def step : IntakeEvent ι → Option (Intake ι)
  | .post i id form =>
      if s.service.phase = .running ∧ (s.uploads i).isNone then some (s.setUpload i (some ⟨id, form, .waiting⟩))
      else none
  | .enter i storage =>
      match s.uploads i with
      | some ⟨id, form, .waiting⟩ =>
          if s.lock.isNone then
            match (admitUpload limits storage).commit s.service.db with
            | (.ok _, _) => some { s.setUpload i (some ⟨id, form, .streaming storage 0⟩) with lock := some i }
            | (.error _, _) => some (s.setUpload i none)
          else none
      | _ => none
  | .chunk i size =>
      match s.uploads i with
      | some ⟨id, form, .streaming storage written⟩ =>
          match receiveChunk limits written size with
          | .ok written' => some (s.setUpload i (some ⟨id, form, .streaming storage written'⟩))
          | .error _ => some (s.leave i)
      | _ => none
  | .complete i stored =>
      match s.uploads i with
      | some ⟨id, form, .streaming storage written⟩ =>
          let tx := acceptUpload limits storage written stored s.service.settings s.service.clock id form
          some { s.leave i with service := s.service.commitDb (tx.commit s.service.db).2 }
      | _ => none
  | .abandon i =>
      match s.uploads i with
      | some ⟨_, _, .waiting⟩ => some (s.setUpload i none)
      | some ⟨_, _, .streaming _ _⟩ => some (s.leave i)
      | none => none
  | .other e => if e.uploads then none else (s.service.step e).map s.serve

end Intake

/-- The machine, on any database that has room for its active jobs. -/
def intake (ι : Type) [DecidableEq ι] (limits : UploadLimits) : Machine (Intake ι) (IntakeEvent ι) where
  init s := (∃ cfg now d, s.service = { Service.fresh cfg now with db := d }) ∧
    s.service.db.countActiveJobs ≤ limits.maxActiveJobs ∧ s.lock = none ∧ ∀ i, s.uploads i = none
  step := Intake.step limits

/-! ## What one step can do -/

/-- One step of the requests or of the service under them. -/
inductive IntakeTrans {ι : Type} [DecidableEq ι] (limits : UploadLimits) (s : Intake ι) : Intake ι → Prop
  | served {e : Event} {sv : Service} (he : e.uploads = false) (hs : s.service.step e = some sv)
      (hrun : sv.phase = .running) : IntakeTrans limits s { s with service := sv }
  | stopped {e : Event} {sv : Service} (he : e.uploads = false) (hs : s.service.step e = some sv) :
      IntakeTrans limits s ⟨sv, none, fun _ => none⟩
  | posted {i : ι} {u : Upload} (hrun : s.service.phase = .running) (hnew : s.uploads i = none)
      (hu : u.holds = false) : IntakeTrans limits s (s.setUpload i (some u))
  | admitted {i : ι} {u u' : Upload} (hu : s.uploads i = some u) (hlock : s.lock = none)
      (hroom : s.service.db.countActiveJobs < limits.maxActiveJobs) :
      IntakeTrans limits s { s.setUpload i (some u') with lock := some i }
  | refused {i : ι} {u : Upload} (hu : s.uploads i = some u) (hw : u.holds = false) :
      IntakeTrans limits s (s.setUpload i none)
  | received {i : ι} {u u' : Upload} (hu : s.uploads i = some u) (hh : u.holds = true) :
      IntakeTrans limits s (s.setUpload i (some u'))
  | left {i : ι} {u : Upload} (hu : s.uploads i = some u) (hh : u.holds = true) :
      IntakeTrans limits s (s.leave i)
  | accepted {i : ι} {u : Upload} (hu : s.uploads i = some u) (hh : u.holds = true) :
      IntakeTrans limits s { s.leave i with
        service := s.service.commitDb
          ((commitUpload s.service.settings s.service.clock u.id u.form).commit s.service.db).2 }

variable {ι : Type} [DecidableEq ι] {limits : UploadLimits} {s s' : Intake ι}

theorem intake_trans {e : IntakeEvent ι} (h : s.step limits e = some s') : IntakeTrans limits s s' := by
  cases e with
  | post i id form =>
      simp only [Intake.step] at h
      split at h <;> cases h
      next hok => exact .posted hok.1 (Option.isNone_iff_eq_none.mp hok.2) rfl
  | enter i storage =>
      simp only [Intake.step] at h
      split at h
      · next id form hu =>
          split at h
          · next hlock =>
              split at h <;> cases h
              · next hadmit => exact .admitted hu (Option.isNone_iff_eq_none.mp hlock) (admitUpload_ok hadmit)
              · exact .refused hu rfl
          · cases h
      · cases h
  | chunk i size =>
      simp only [Intake.step] at h
      split at h
      · next hu =>
          split at h <;> cases h
          · exact .received hu rfl
          · exact .left hu rfl
      · cases h
  | complete i stored =>
      simp only [Intake.step] at h
      split at h <;> cases h
      next id form storage written hu =>
      -- an upload that is refused leaves like one that was abandoned
      have hcommit := acceptUpload_commit limits s.service.db storage written stored s.service.settings
        s.service.clock id form
      rcases hcommit with hkept | hcommit
      · rw [hkept]
        exact .left hu rfl
      · rw [hcommit]
        exact .accepted hu rfl
  | abandon i =>
      simp only [Intake.step] at h
      split at h <;> cases h
      · next hu => exact .refused hu rfl
      · next hu => exact .left hu rfl
  | other e =>
      simp only [Intake.step] at h
      split at h
      · cases h
      · next he =>
          obtain ⟨sv, hs, rfl⟩ := Option.map_eq_some_iff.mp h
          have he : e.uploads = false := by simpa using he
          unfold Intake.serve
          split
          · next hrun => exact .served he hs hrun
          · exact .stopped he hs

/-! ## The requests are uploads -/

/-- Requests are only under way while the service runs. -/
def Serving (s : Intake ι) : Prop := ∀ i u, s.uploads i = some u → s.service.phase = .running

/-- A change of one request, while the phase stays. -/
theorem Serving.update {s' : Intake ι} {i : ι} {o : Option Upload} (hS : Serving s)
    (hrun : o.isSome = true → s.service.phase = .running) (hphase : s'.service.phase = s.service.phase)
    (hup : s'.uploads = Function.update s.uploads i o) : Serving s' := by
  intro k u hu
  rw [hphase]
  rw [hup] at hu
  by_cases hk : k = i
  · subst hk
    rw [Function.update_self] at hu
    exact hrun (by rw [hu]; rfl)
  · rw [Function.update_of_ne hk] at hu
    exact hS k u hu

theorem Serving.step (hS : Serving s) (ht : IntakeTrans limits s s') : Serving s' := by
  cases ht with
  | served _ _ hrun => exact fun _ _ _ => hrun
  | stopped => exact fun _ _ hu => by cases hu
  | posted hrun => exact hS.update (fun _ => hrun) rfl rfl
  | admitted hu => exact hS.update (fun _ => hS _ _ hu) rfl rfl
  | refused => exact hS.update (fun h => by cases h) rfl rfl
  | received hu => exact hS.update (fun _ => hS _ _ hu) rfl rfl
  | left => exact hS.update (fun h => by cases h) rfl rfl
  | accepted => exact hS.update (fun h => by cases h) rfl rfl

/-- A step of the requests is an upload of the service, or none. -/
theorem IntakeTrans.refines (ht : IntakeTrans limits s s') (hS : Serving s) :
    s'.service = s.service ∨ ∃ e, service.step s.service e = some s'.service := by
  cases ht with
  | served _ hs => exact .inr ⟨_, hs⟩
  | stopped _ hs => exact .inr ⟨_, hs⟩
  | posted | admitted | refused | received | left => exact .inl rfl
  | @accepted i u hu =>
      refine .inr ⟨.upload u.id u.form, ?_⟩
      show s.service.step (.upload u.id u.form) = _
      simp only [Service.step, hS i u hu]

/-- **The requests make the service do nothing but upload**: what happens to the service under them is a run of
    `service`. -/
theorem intake_refines (h : (intake ι limits).Reach always s) :
    ∃ cfg now d, service.Path always { Service.fresh cfg now with db := d } s.service := by
  obtain ⟨s₀, ⟨⟨cfg, now, d, hfresh⟩, -, -, hnone⟩, hp⟩ := h
  have hstart : Serving s₀ := fun i u hu => by rw [hnone] at hu; cases hu
  have hsim : ∃ c, service.Path always s₀.service c ∧ s.service = c ∧ Serving s := by
    refine Machine.Path.simulate (R := fun s c => s.service = c ∧ Serving s) ?_ hp ⟨rfl, hstart⟩
    rintro s e s' c ⟨rfl, hS⟩ - hs
    have ht := intake_trans hs
    rcases ht.refines hS with hsame | ⟨e', hstep⟩
    · exact .inl ⟨hsame, hS.step ht⟩
    · exact .inr ⟨e', s'.service, trivial, hstep, rfl, hS.step ht⟩
  obtain ⟨c, hrun, rfl, -⟩ := hsim
  exact ⟨cfg, now, d, hfresh ▸ hrun⟩

end BambuBabu
