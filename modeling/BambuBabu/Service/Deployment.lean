import BambuBabu.Service.Views

/-!
# `Service.Deployment` — the service and the files it slices

`Service` keeps the paths of sliced files, and says nothing of what is in them. A `Deployment` adds that for the
files under `SLICED_DIR`: which slicer wrote them. The files outlive the process, as the database does, and each
run may be with other settings.

* `Deployment` — the service with the slicer that wrote each file.
* `deployment_refines` — what happens to the service in it is a run of `service`.
* `Disciplined.step_returned` — when `slice_stl` has returned a path, its slicer has written that file.
-/

namespace BambuBabu

open Runs

structure Deployment where
  service : Service
  /-- Whose output each file holds. -/
  files : String → Option Slicer

inductive DeploymentEvent where
  | service (e : Event)
  /-- The slicer that the worker of job `id` runs writes its output file, whatever it returns later. -/
  | write (id : JobId)
  /-- Maintenance deletes a file. -/
  | remove (path : String)

/-- The output file of the slicer that the worker of job `id` is running. -/
def Service.output (s : Service) (id : JobId) : Option (String × Slicer) :=
  match s.slices id with
  | some (.slice stl p) => some (sliceOutput s.settings.slicedDir stl p, s.settings.slicer)
  | some (.reslice stl p) => some (sliceOutput s.settings.slicedDir stl p, s.settings.slicer)
  | _ => none

/-- The file that a step has written because `slice_stl` has returned: a slicer that succeeds has written its
    output. -/
def Service.returned (s : Service) : Event → Option (String × Slicer)
  | .slice id (.sliced (.sliced _)) => s.output id
  | _ => none

namespace Deployment

variable (d : Deployment)

/-- The files after one of them, or none, was written. -/
def written : Option (String × Slicer) → String → Option Slicer
  | none => d.files
  | some (path, slicer) => Function.update d.files path (some slicer)

/-- One step. -/
def step : DeploymentEvent → Option Deployment
  | .service e => (d.service.step e).map fun sv => ⟨sv, d.written (d.service.returned e)⟩
  | .write id => (d.service.output id).map fun file => { d with files := d.written (some file) }
  | .remove path => some { d with files := Function.update d.files path none }

end Deployment

/-- The machine. Its runs are the sequences of service runs on one database and one set of files. -/
def deployment : Machine Deployment DeploymentEvent where
  init d := (∃ cfg now, d.service = Service.fresh cfg now) ∧ d.files = fun _ => none
  step := Deployment.step

/-! ## The service in it -/

variable {d d' : Deployment}

/-- **A step of the deployment is a step of the service, or of the files alone.** -/
theorem deployment_step {e : DeploymentEvent} (h : deployment.step d e = some d') :
    d'.service = d.service ∨ ∃ ev, e = .service ev ∧ service.step d.service ev = some d'.service := by
  cases e with
  | service ev =>
      obtain ⟨sv, hstep, rfl⟩ := Option.map_eq_some_iff.mp h
      exact .inr ⟨ev, rfl, hstep⟩
  | write id =>
      obtain ⟨file, -, rfl⟩ := Option.map_eq_some_iff.mp h
      exact .inl rfl
  | remove path =>
      cases h
      exact .inl rfl

/-- **What happens to the service is a run of `service`.** -/
theorem deployment_refines {ok : Deployment → DeploymentEvent → Prop} (h : deployment.Reach ok d) :
    service.Reach always d.service := by
  refine Machine.Reach.invariant (I := fun d => service.Reach always d.service) ?_ ?_ h
  · rintro d ⟨⟨cfg, now, hfresh⟩, -⟩
    exact .init ⟨cfg, now, hfresh⟩
  · intro d e d' _ hreach _ hstep
    rcases deployment_step hstep with hsame | ⟨ev, -, hev⟩
    · rw [hsame]
      exact hreach
    · exact hreach.step trivial hev

/-! ## The files -/

variable {s s' : Service} {e : Event}

/-- A worker whose slicer has returned a path: the slicer succeeded, and the path is the one of its output. -/
theorem sliceStep_returned {id : JobId} {task : SliceTask} {ev : SliceEvent} {stl path : String} {p : PrinterID}
    (htask : task = .slice stl p ∨ task = .reslice stl p) (h : s.sliceStep id task ev = some s')
    (hist : s'.history = .sliced stl p path :: s.history) :
    path = sliceOutput s.settings.slicedDir stl p ∧ ∃ est, ev = .sliced (.sliced est) := by
  rcases htask with rfl | rfl
  all_goals
    cases ev with
    | next => cases h
    | analysed => cases h
    | sliced o =>
        cases o with
        | raised m =>
            cases h
            exact absurd hist (List.cons_ne_self _ _).symm
        | sliced est =>
            cases h
            cases (List.cons.inj hist).1
            exact ⟨rfl, est, rfl⟩

/-- **A path that `slice_stl` has returned is the file its slicer wrote.** -/
theorem Disciplined.step_returned {stl path : String} {p : PrinterID} (hD : Disciplined s)
    (hstep : s.step e = some s') (hist : s'.history = .sliced stl p path :: s.history) :
    s.returned e = some (path, s.settings.slicer) := by
  -- nothing else is on record for this step
  have other : ∀ {o : Occurrence}, s'.history = o :: s.history → o = .sliced stl p path := fun h =>
    (List.cons.inj (h.symm.trans hist)).1
  cases (hD.step_trans hstep).history with
  | same h => exact absurd (h.symm.trans hist) (List.cons_ne_self _ _).symm
  | uploaded _ _ _ _ _ h => cases other h
  | published _ _ _ _ h => cases other h
  | reported _ h => cases other h
  | processed _ _ _ h => cases other h
  | dispatched _ _ _ _ _ _ _ h => cases other h
  | @sliced _ _ _ id task ev _ he htask ht =>
      subst he
      have hslice := Service.step_slice hstep htask
      have hrunning : task = .slice stl p ∨ task = .reslice stl p := by
        cases ht with
        | sliced htsk =>
            cases (List.cons.inj hist).1
            exact .inl htsk
        | resliced htsk =>
            cases (List.cons.inj hist).1
            exact .inr htsk
        | _ => exact absurd hist (List.cons_ne_self _ _).symm
      obtain ⟨rfl, est, rfl⟩ := sliceStep_returned hrunning hslice hist
      show s.output id = _
      unfold Service.output
      rw [htask]
      rcases hrunning with rfl | rfl <;> rfl

end BambuBabu
