import BambuBabu.Floor.Chronicle
import BambuBabu.Correctness.Lifecycle

/-!
# `Correctness.EventLog` — can the lifecycle of a job be read off the event log?

The dashboard shows the log, and an operator tells from it what became of a job. Over any interleaving of the
statements of any number of threads the log is never rewritten, and what it says about a job is the path that the job
has taken.

* `LogGrows` — entries are only appended.
* `event_log` — **the theorem**.
-/

namespace BambuBabu

open Storage Runs

/-- The log is a continuation of what it was. -/
def LogGrows (d d' : Db) : Prop := d.logs <+: d'.logs

theorem LogGrows.refl (d : Db) : LogGrows d d := List.prefix_refl _

theorem LogGrows.trans (a b c : Db) (h : LogGrows a b) (h' : LogGrows b c) : LogGrows a c := List.IsPrefix.trans h h'

theorem LogGrows.bounds (now : Time) : Bounds now LogGrows where
  swap d _ _ _ _ _ _ := refl d
  columns d _ _ _ := refl d
  printer d _ _ := refl d
  log _ _ := List.prefix_append _ _

namespace Request

/-- No transaction rewrites the log. -/
theorem appends (r : Request) : Writing LogGrows r.program := by
  cases hup : r.uploads with
  | false => exact within hup fun now _ => LogGrows.bounds now
  | true =>
      cases r with
      | commitUpload =>
          refine Txn.Within.andThen ((Txn.Within.exec fun d => LogGrows.refl d).andThen fun taken => ?_) fun _ =>
            Txn.Within.exec fun d => List.prefix_append _ _
          exact Txn.Within.ite (fun _ => trivial) fun _ => trivial
      | _ => cases hup

theorem appending_clients : Clients program (fun _ _ => True) LogGrows where
  grows _ _ _ _ _ := trivial
  stays _ _ _ := trivial
  idle d _ := .refl d
  keeps r _ _ := Txn.Ensures.mono (fun _ _ h => h.2) (Txn.Within.ensures LogGrows.refl LogGrows.trans r.appends trivial)

end Request

variable {ι : Type} [DecidableEq ι] {s s' : Sessions ι Db Exc}

theorem logs_of_path (hr : (floorClients ι).Reach always s) (hp : (floorClients ι).Path always s s') :
    s.db.logs <+: s'.db.logs := by
  refine hp.keeps (P := fun t => s.db.logs <+: t.db.logs) hr (List.prefix_refl _) ?_
  intro a e b ha hgrown _ hs
  have hkeeps : a.Keeps (fun _ _ => True) LogGrows := Request.appending_clients.reach (fun _ _ => trivial) ha
  exact hgrown.trans (hkeeps.step Request.appending_clients hs).1

theorem chronicled_of_reach (hr : (floorClients ι).Reach always s) : Chronicled s.db := by
  obtain ⟨c, hA, hc⟩ := Request.chronicling_clients.reach (by rintro _ rfl; exact seeded_chronicled) hr
  rw [← hA.db]
  exact hc.stays

/-- **The event log tells the lifecycle**: at every point of every interleaving the entries of a job spell a path of
    the transition graph from PENDING to its status (up to the resolution of a quarantined job, which clearing the
    plate does not log under the job), and everything that is committed later only adds to the log. -/
theorem event_log (hr : (floorClients ι).Reach always s) (k : JobId) :
    s.db.Tells k ∧ ∀ s', (floorClients ι).Path always s s' → s.db.logs <+: s'.db.logs :=
  ⟨chronicled_of_reach hr k, fun _ hp => logs_of_path hr hp⟩

/-- A job whose analysis a crash interrupts, and which is cancelled after the restart. -/
def interrupted : List (ClientEvent Bool Request) :=
  [.request true (.commitUpload Script.p1sOnly 0 "a" ⟨"Ada", "ada@example.org", none, "part.stl"⟩),
    .statement true, .statement true, .statement true,
    .request true (.startAnalysis 1 "a"), .statement true, .statement true, .statement true, .statement true,
    .request false (.planSlice 2 "a" ⟨12, 1, 0, ⟨10, 10, 10⟩, 1⟩ (some .p1s, none)), .statement false,
    .crash,
    .request true (.reconcileInterruptedJobs 3), .statement true, .statement true, .statement true, .statement true,
    .statement true, .statement true, .statement true, .statement true,
    .request true (.cancelJob 4 "a"), .statement true, .statement true, .statement true, .statement true,
    .statement true]

theorem event_log_interrupted : ∃ s, (floorClients Bool).Reach always s ∧
    s.db.told "a" = [some .pending, some .analysing, some .pending, some .cancelled] ∧ s.db.Tells "a" ∧
    ∀ s', (floorClients Bool).Path always s s' → s.db.logs <+: s'.db.logs := by
  obtain ⟨s, hr, hs⟩ := Machine.reach_of_run (M := floorClients Bool) Machine.always_of_anyStep interrupted
    (fun s => decide (s.db.told "a" = [some .pending, some .analysing, some .pending, some .cancelled]))
    (s := ⟨Db.seeded, none, fun _ => .ended⟩) ⟨rfl, rfl, fun _ => rfl⟩ (by decide +kernel)
  exact ⟨s, hr, of_decide_eq_true hs, event_log hr "a"⟩

end BambuBabu
