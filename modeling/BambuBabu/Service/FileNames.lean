import BambuBabu.Api.Paths
import BambuBabu.Core.Maintenance
import BambuBabu.Service.Deployment
import BambuBabu.Service.Requests
import BambuBabu.Service.Workers

/-!
# `Service.FileNames` — which job a stored file belongs to

`upload_job` stores the model of a job under the id of the job, and `slice_stl` stores every slice under a name that it
makes from the name of the model. The id is therefore in the path of each file that a row refers to, whichever
settings the service ran with when the file was written.

* `FileNames` — the invariant: the paths of the rows, and the ones that slicing workers hold, are so named.
* `owner_unique` — **no two jobs refer to one path**.
-/

namespace BambuBabu

open Storage Runs

/-- Every upload is named by `uuid.uuid4()`. -/
def uuidNames (_ : Service) (e : Event) : Prop := ∀ id form, e = .upload id form → IsUuid id

/-- The files of the job `id` are named after it. -/
structure Job.Named (id : JobId) (j : Job) : Prop where
  uuid : IsUuid id
  model : ∃ cfg, j.stlPath = uploadPath cfg id
  slice : ∀ path, j.slicedPath = some path → ∃ dir p, path = sliceOutput dir j.stlPath p

/-- The paths that a slicing worker holds for its job. -/
def SliceTask.named (j : Job) : SliceTask → Prop
  | analyse stl | plan stl _ | slice stl _ | reslice stl _ => stl = j.stlPath
  | store p path _ | restore p path _ => ∃ dir, path = sliceOutput dir j.stlPath p
  | start | failing _ | recheck _ | aborting _ | finished => True

/-- Every path in use is named after its job. -/
structure FileNames (s : Service) : Prop where
  rows : ∀ id j, s.db.job id = some j → j.Named id
  tasks : ∀ id task j, s.slices id = some task → s.db.job id = some j → task.named j

variable {s s' : Service} {e : Event} {id : JobId} {j j' : Job}

/-! ## What changes a path -/

/-- **No step moves the model of a job.** -/
theorem Trans.stlPath (ht : Trans s e s') (hj : s.db.job id = some j) (hj' : s'.db.job id = some j') :
    j'.stlPath = j.stlPath := by
  have hkept : ∃ i, s'.db.floor.job id = some i ∧ i.stlPath = j.stlPath := by
    refine ht.moves.keeps (P := fun f => ∃ i, f.job id = some i ∧ i.stlPath = j.stlPath) ?_ ⟨j, hj, rfl⟩
    rintro a f f' - hm ⟨i, hi, hstl⟩
    obtain ⟨i', hi', hstl', -⟩ := hm.row hi
    exact ⟨i', hi', hstl'.trans hstl⟩
  obtain ⟨i, hi, hstl⟩ := hkept
  cases Option.some.inj (hi.symm.trans hj')
  exact hstl

/-- A slicing worker gives its job the slice that it holds, or leaves the one it has. -/
theorem SliceTrans.slicedPath {task : SliceTask} (ht : SliceTrans s id task s') (hj : s.db.job id = some j)
    (hj' : s'.db.job id = some j') : j'.slicedPath = j.slicedPath ∨
      ∃ p path est, (task = .store p path est ∨ task = .restore p path est) ∧ j'.slicedPath = some path := by
  have kept : s'.db = s.db → j'.slicedPath = j.slicedPath := fun hdb => by
    rw [hdb, hj] at hj'
    cases hj'
    rfl
  -- the swaps touch no column of the ticket
  have swapped : ∀ {old new : JobStatus} {d : Db}, Move (.swap id old new) s.db.floor d.floor →
      d.job id = some j' → j'.slicedPath = j.slicedPath := fun hm hd =>
    congrArg Ticket.slicedPath (hm.swap_row hj hd).2
  cases ht with
  | goto | sliced | resliced | rechecked => exact .inl (kept rfl)
  | analysing _ _ _ hm => exact .inl (swapped hm hj')
  | reject _ hm => exact .inl (swapped hm hj')
  | failed _ _ _ hm => exact .inl (swapped hm hj')
  | aborted _ _ _ hm => exact .inl (swapped hm hj')
  | @planned d stl a p i now _ _ hi _ hf =>
      cases Option.some.inj (hj.symm.trans hi)
      have hd : d.job id = some ((j.analysed a p).transitioned now .slicing none none) := Db.job_of_floor hf
      cases Option.some.inj (hd.symm.trans hj')
      exact .inl rfl
  | @stored d path p est i now htask hi _ hf =>
      cases Option.some.inj (hj.symm.trans hi)
      have hd : d.job id = some (j.queuedFor now j.assignedPrinter path est) := Db.job_of_floor hf
      cases Option.some.inj (hd.symm.trans hj')
      exact .inr ⟨p, path, est, .inl htask, rfl⟩
  | @restored d path p est i now htask hi _ hf =>
      cases Option.some.inj (hj.symm.trans hi)
      have hd : d.job id = some (j.queuedFor now (some p) path est) := Db.job_of_floor hf
      cases Option.some.inj (hd.symm.trans hj')
      exact .inr ⟨p, path, est, .inr htask, rfl⟩

/-- So do the other threads. -/
theorem Trans.slicedPath (ht : Trans s e s') (hj : s.db.job id = some j) (hj' : s'.db.job id = some j') :
    j'.slicedPath = j.slicedPath ∨ ∃ task, s.slices id = some task ∧
      ∃ p path est, (task = .store p path est ∨ task = .restore p path est) ∧ j'.slicedPath = some path := by
  cases ht.job_trans hj hj' with
  | sliced htask hst =>
      rcases hst.slicedPath hj hj' with hsame | hnew
      · exact .inl hsame
      · exact .inr ⟨_, htask, hnew⟩
  | kept _ htk | cancelled _ _ htk | retried _ _ _ htk | quarantined _ _ _ htk | reported _ _ _ _ _ _ htk
  | cleared _ _ _ _ htk | dispatched _ _ _ _ _ htk | withdrawn _ _ htk | handed _ _ _ _ _ htk =>
      exact .inl (congrArg Ticket.slicedPath htk)

/-! ## The workers -/

/-- **A slicing worker makes the paths that it holds from the model of its job.** -/
theorem sliceStep_named {task task' : SliceTask} {ev : SliceEvent} (hstep : s.sliceStep id task ev = some s')
    (hj : s.db.job id = some j) (hn : task.named j) (htask' : s'.slices id = some task') : task'.named j := by
  cases sliceStep_trans hstep with
  | goto hloc =>
      cases (Function.update_self ..).symm.trans htask'
      cases hloc with
      | analysed => exact hn
      | _ => trivial
  | analysing _ hi =>
      cases Option.some.inj (hj.symm.trans hi)
      cases (Function.update_self ..).symm.trans htask'
      rfl
  | planned htsk =>
      subst htsk
      cases (Function.update_self ..).symm.trans htask'
      exact hn
  | rechecked _ hi =>
      cases Option.some.inj (hj.symm.trans hi)
      cases (Function.update_self ..).symm.trans htask'
      rfl
  | @sliced stl path p est htsk =>
      obtain ⟨rfl, -⟩ := sliceStep_returned (.inl htsk) hstep rfl
      subst htsk
      cases (Function.update_self ..).symm.trans htask'
      cases (show stl = j.stlPath from hn)
      exact ⟨s.settings.slicedDir, rfl⟩
  | @resliced stl path p est htsk =>
      obtain ⟨rfl, -⟩ := sliceStep_returned (.inr htsk) hstep rfl
      subst htsk
      cases (Function.update_self ..).symm.trans htask'
      cases (show stl = j.stlPath from hn)
      exact ⟨s.settings.slicedDir, rfl⟩
  | _ =>
      cases (Function.update_self ..).symm.trans htask'
      trivial

theorem SliceTask.named_congr {task : SliceTask} (h : task.named j) (hstl : j'.stlPath = j.stlPath) :
    task.named j' := by
  cases task with
  | start | failing | recheck | aborting | finished => trivial
  | analyse | plan | slice | reslice => exact h.trans hstl.symm
  | store | restore =>
      show ∃ dir, _ = sliceOutput dir j'.stlPath _
      rw [hstl]
      exact h

/-! ## The invariant -/

namespace FileNames

/-- A row that is new names its model, and has no slice yet. -/
theorem step_rows (hN : FileNames s) (ht : Trans s e s') (hstep : service.step s e = some s') (hok : uuidNames s e)
    (hj' : s'.db.job id = some j') : j'.Named id := by
  cases hj : s.db.job id with
  | none =>
      obtain ⟨⟨form, rfl⟩, hstl, hnone⟩ := added_step hstep hj hj'
      exact ⟨hok id form rfl, ⟨s.settings, hstl⟩, fun path hpath => by rw [hnone] at hpath; cases hpath⟩
  | some j =>
      have hrow := hN.rows id j hj
      have hstl : j'.stlPath = j.stlPath := ht.stlPath hj hj'
      refine ⟨hrow.uuid, ?_, fun path hpath => ?_⟩
      · rw [hstl]
        exact hrow.model
      · rw [hstl]
        rcases ht.slicedPath hj hj' with hsame | ⟨task, htask, p, path', est, hcase, hnew⟩
        · exact hrow.slice path (hsame.symm.trans hpath)
        · -- the worker has stored the path that it held
          cases Option.some.inj (hpath.symm.trans hnew)
          have hheld : task.named j := hN.tasks id task j htask hj
          rcases hcase with rfl | rfl
          · exact hheld.imp fun _ h => ⟨p, h⟩
          · exact hheld.imp fun _ h => ⟨p, h⟩

/-- A worker whose job has just been uploaded has not claimed it. -/
theorem step_tasks {task' : SliceTask} (hN : FileNames s) (hW : Working s) (ht : Trans s e s')
    (hstep : service.step s e = some s') (htask' : s'.slices id = some task') (hj' : s'.db.job id = some j') :
    task'.named j' := by
  cases ht.task htask' with
  | kept hold =>
      cases hj : s.db.job id with
      | some j => exact SliceTask.named_congr (hN.tasks id task' j hold hj) (ht.stlPath hj hj')
      | none =>
          -- a worker without a job has not claimed one, or is done
          have hk := hW id task' hold
          rw [Db.statusOf, hj, Option.map_none] at hk
          rcases SliceTask.knows_cases hk with (rfl | rfl) | hst
          · trivial
          · trivial
          · simp at hst
  | submitted htsk =>
      subst htsk
      trivial
  | withdrawn htsk =>
      subst htsk
      trivial
  | @moved ev task he _ htask =>
      subst he
      cases hj : s.db.job id with
      | some j =>
          have hslice := Service.step_slice hstep htask
          have hnamed : task'.named j := sliceStep_named hslice hj (hN.tasks id task j htask hj) htask'
          exact SliceTask.named_congr hnamed (ht.stlPath hj hj')
      | none =>
          obtain ⟨⟨form, hup⟩, -⟩ := added_step hstep hj hj'
          cases hup

theorem step (hN : FileNames s) (hW : Working s) (ht : Trans s e s') (hstep : service.step s e = some s')
    (hok : uuidNames s e) : FileNames s' where
  rows _ _ hj' := hN.step_rows ht hstep hok hj'
  tasks _ _ _ htask' hj' := hN.step_tasks hW ht hstep htask' hj'

end FileNames

/-- **In every reachable state each file is named after its job.** -/
theorem fileNames_of_reach (h : service.Reach uuidNames s) : FileNames s :=
  h.invariant
    (fun s hinit => by
      obtain ⟨cfg, now, rfl⟩ := hinit
      exact ⟨fun _ _ hj => (by cases hj), fun _ _ _ htask => (by cases htask)⟩)
    fun _ _ _ hr hN hok hstep => hN.step (working_of_reach hr) (trans_of_reach hr hstep) hstep hok

/-! ## Owners -/

theorem Job.Named.owner {path : String} (h : j.Named id) (href : j.refersTo path) : fileOwner path = id := by
  obtain ⟨cfg, hstl⟩ := h.model
  rcases href with rfl | hsliced
  · rw [hstl]
    exact fileOwner_uploadPath h.uuid
  · obtain ⟨dir, p, rfl⟩ := h.slice path hsliced
    rw [hstl]
    exact fileOwner_sliceOutput h.uuid

/-- **No two jobs refer to one path.** -/
theorem owner_unique {path : String} {k : JobId} {i : Job} (hj : j.Named id) (hi : i.Named k)
    (hjp : j.refersTo path) (hip : i.refersTo path) : id = k :=
  (hj.owner hjp).symm.trans (hi.owner hip)

end BambuBabu
