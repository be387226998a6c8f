import BambuBabu.Floor.Commits
import BambuBabu.Service.Step

/-!
# `Service.Trans` — what one step can do

`Trans s e s'` lists everything a step of the service can change, with the transactions replaced by the moves
they make: it is the inversion of `Service.step`, and the only thing later proofs take apart. There is one
relation for each kind of thread (`HandoffTrans`, `SliceTrans`, `TickTrans`, `CallbackTrans`) and one for the
whole.

Some transactions write a printer row without looking at its slot, so the inversion needs the discipline of
the floor and of the workers (`Disciplined`), and that is proved here along with it:
`disciplined_of_reach`.
-/

namespace BambuBabu

open Storage Runs

/-! ## Dispatch workers -/

/-- A worker moves on without touching anything shared. -/
inductive HandoffLocal : HandoffPc → HandoffPc → Prop
  | refused {e} : HandoffLocal .begin (.failing e)
  | transferred : HandoffLocal .transfer .request
  | transferFailed {e} : HandoffLocal .transfer (.failing e)
  | swapLost {m} : HandoffLocal .request (.failing (.jobTransitionError m))
  | notIdle {e} : HandoffLocal .check (.failing e)
  | notConnected {b e} : HandoffLocal (.publish b) (.failing e)
  | acknowledged {b} : HandoffLocal (.published b) (.await b)
  | publishFailed {b o e} (h : startPublished o = .error e) (hclass : e.isAmbiguousStart = false) :
      HandoffLocal (.published b) (.failing e)
  | publishAmbiguous {b o e} (h : startPublished o = .error e) (hclass : e.isAmbiguousStart = true) :
      HandoffLocal (.published b) (.ambiguous e)
  | unconfirmed {b e} : HandoffLocal (.await b) (.ambiguous e)

/-- The order of a worker's positions: it only ever moves forward. -/
def HandoffPc.order : HandoffPc → Nat
  | .begin => 0
  | .transfer => 1
  | .request => 2
  | .check => 3
  | .publish _ => 4
  | .published _ => 5
  | .await _ => 6
  | .confirm => 7
  | .ambiguous _ => 8
  | .failing _ => 9
  | .releasing => 10

/-- A worker that is about to release its printer has nowhere to go on to. -/
theorem HandoffPc.order_le (pc : HandoffPc) : pc.order ≤ HandoffPc.releasing.order := by
  cases pc <;> simp [order]

theorem HandoffLocal.order_lt {a b : HandoffPc} (h : HandoffLocal a b) : a.order < b.order := by
  cases h <;> simp [HandoffPc.order]

/-- Only the failure transaction leads to the release. -/
theorem HandoffLocal.ne_releasing {pc : HandoffPc} (h : HandoffLocal pc .releasing) : False := by
  cases h

/-- Only a report that shows a start leads to the confirmation. -/
theorem HandoffLocal.ne_confirm {pc : HandoffPc} (h : HandoffLocal pc .confirm) : False := by
  cases h

/-- One step of the dispatch worker `h` at position `i`. -/
inductive HandoffTrans (s : Service) (i : Nat) (h : Handoff) : Service → Prop
  | goto {pc' : HandoffPc} (hloc : HandoffLocal h.pc pc') : HandoffTrans s i h (s.setHandoff i h pc')
  | upload {path : String} (hpc : h.pc = .begin) (harg : Service.uploadArgument s.settings h = .ok path) :
      HandoffTrans s i h ((s.setHandoff i h .transfer).record (.uploaded h.id h.printer path))
  | request {d : Db} {j : Job} (hpc : h.pc = .request) (hj : s.db.job h.id = some j)
      (hs : j.status = .uploading) (hm : Move (.swap h.id .uploading .starting) s.db.floor d.floor) :
      HandoffTrans s i h ((s.commitDb d).setHandoff i h .check)
  | check {b : Nat} {c : BambuPrinter} (hpc : h.pc = .check)
      (hok : (s.live h.printer).startCheck h.printer = .ok (b, c)) :
      HandoffTrans s i h ((s.setLive h.printer c).setHandoff i h (.publish b))
  | publish {b : Nat} (hpc : h.pc = .publish b) :
      HandoffTrans s i h ((s.setHandoff i h (.published b)).record (.published h.id h.printer))
  | started {b : Nat} {timedOut : Bool} (hpc : h.pc = .await b)
      (hok : (s.live h.printer).startWait s.settings b timedOut = some (.ok ())) :
      HandoffTrans s i h (s.setHandoff i h .confirm)
  | confirmSkip (hpc : h.pc = .confirm)
      (hno : ∀ j, s.db.job h.id = some j → j.status ∉ [.starting, .printing]) :
      HandoffTrans s i h (s.endHandoff i)
  | confirm {d : Db} {j : Job} (hpc : h.pc = .confirm) (hj : s.db.job h.id = some j)
      (hs : j.status = .starting) (hm : Move (.confirm h.id h.printer) s.db.floor d.floor) :
      HandoffTrans s i h ((s.commitDb d).endHandoff i)
  | block {d : Db} {j : Job} (hpc : h.pc = .confirm) (hj : s.db.job h.id = some j)
      (hs : j.status = .printing) (hm : Move (.block h.id h.printer) s.db.floor d.floor) :
      HandoffTrans s i h ((s.commitDb d).endHandoff i)
  | quarantineSkip {e : Exc} (hpc : h.pc = .ambiguous e)
      (hno : ∀ j, s.db.job h.id = some j → j.status ≠ .starting) : HandoffTrans s i h (s.endHandoff i)
  | quarantine {d : Db} {e : Exc} {j : Job} (hpc : h.pc = .ambiguous e) (hj : s.db.job h.id = some j)
      (hs : j.status = .starting) (hm : Move (.settle h.id h.printer .attention .error) s.db.floor d.floor) :
      HandoffTrans s i h ((s.commitDb d).endHandoff i)
  | failSkip {e : Exc} (hpc : h.pc = .failing e)
      (hno : ∀ j, s.db.job h.id = some j → j.status ∈ terminalJobStatuses) :
      HandoffTrans s i h (s.setHandoff i h .releasing)
  | fail {d : Db} {e : Exc} {j : Job} (hpc : h.pc = .failing e) (hj : s.db.job h.id = some j)
      (hs : j.status ∉ terminalJobStatuses) (hm : Move (.swap h.id j.status .failed) s.db.floor d.floor) :
      HandoffTrans s i h ((s.commitDb d).setHandoff i h .releasing)
  | releaseSkip (hpc : h.pc = .releasing)
      (hno : ¬ ((s.db.printers h.printer).currentJobId = some h.id ∧
        ∃ j, s.db.job h.id = some j ∧ j.status = .failed)) : HandoffTrans s i h (s.endHandoff i)
  | release {d : Db} {j : Job} (hpc : h.pc = .releasing)
      (hslot : (s.db.printers h.printer).currentJobId = some h.id) (hj : s.db.job h.id = some j)
      (hs : j.status = .failed) (hm : Move (.release h.id h.printer) s.db.floor d.floor) :
      HandoffTrans s i h ((s.commitDb d).endHandoff i)

/-- A start that failed before anything was published is not ambiguous. -/
theorem startError_startCheck {c : BambuPrinter} {p : PrinterID} {e : Exc} (h : c.startCheck p = .error e) :
    Service.startError e = .failing e := by
  unfold BambuPrinter.startCheck at h
  split at h
  · cases h; rfl
  · split at h
    · cases h; rfl
    · cases h

theorem startError_publishGate {c : BambuPrinter} {p : PrinterID} {e : Exc} (h : c.publishGate p = .error e) :
    Service.startError (classifyPublish e) = .failing e := by
  unfold BambuPrinter.publishGate at h
  split at h
  · cases h; cases p <;> decide +kernel
  · cases h

variable {s s' : Service}

theorem handoffStep_trans {i : Nat} {h : Handoff} {e : HandoffEvent}
    (hslot : ∀ j, s.db.job h.id = some j → j.status ∈ atPrinter →
      (s.db.printers h.printer).currentJobId = some h.id)
    (hstep : s.handoffStep i h e = some s') : HandoffTrans s i h s' := by
  unfold Service.handoffStep at hstep
  -- each position takes one kind of event; the commit lemma of its block tells what the block has done
  cases hpc : h.pc with
  | begin =>
      rw [hpc] at hstep
      cases e with
      | next =>
          simp only at hstep
          split at hstep <;> cases hstep
          · next path harg => exact .upload hpc harg
          · exact .goto (hpc ▸ .refused)
      | _ => cases hstep
  | transfer =>
      rw [hpc] at hstep
      cases e with
      | transferred failure =>
          cases failure <;> cases hstep
          · exact .goto (hpc ▸ .transferred)
          · exact .goto (hpc ▸ .transferFailed)
      | _ => cases hstep
  | request =>
      rw [hpc] at hstep
      cases e with
      | next =>
          simp only at hstep
          rcases hc : (requestStart s.clock h.id h.printer).commit s.db with ⟨e | _, d⟩
          · rw [hc] at hstep
            cases hstep
            obtain ⟨m, hm, rfl⟩ | ⟨j, hr, -⟩ := requestStart_commit hc
            · cases hm; exact .goto (hpc ▸ .swapLost)
            · cases hr
          · rw [hc] at hstep
            cases hstep
            obtain ⟨m, hm, -⟩ | ⟨j, -, hj, hs, hm⟩ := requestStart_commit hc
            · cases hm
            · exact .request hpc hj hs hm
      | _ => cases hstep
  | check =>
      rw [hpc] at hstep
      cases e with
      | next =>
          simp only at hstep
          split at hstep <;> cases hstep
          · next b c hok => exact .check hpc hok
          · next e he =>
              rw [startError_startCheck he]
              exact .goto (hpc ▸ .notIdle)
      | _ => cases hstep
  | publish b =>
      rw [hpc] at hstep
      cases e with
      | next =>
          simp only at hstep
          split at hstep <;> cases hstep
          · exact .publish hpc
          · next e he =>
              rw [startError_publishGate he]
              exact .goto (hpc ▸ .notConnected)
      | _ => cases hstep
  | published b =>
      rw [hpc] at hstep
      cases e with
      | answered o =>
          simp only at hstep
          split at hstep <;> cases hstep
          · exact .goto (hpc ▸ .acknowledged)
          · next e he =>
              unfold Service.startError
              split
              · next hc => exact .goto (hpc ▸ .publishAmbiguous he hc)
              · next hc => exact .goto (hpc ▸ .publishFailed he (by simpa using hc))
      | _ => cases hstep
  | await b =>
      rw [hpc] at hstep
      cases e with
      | awaited timedOut =>
          simp only at hstep
          split at hstep <;> cases hstep
          · next hok => exact .started hpc hok
          · next e he =>
              rw [Service.startError, if_pos (BambuPrinter.startWait_error he)]
              exact .goto (hpc ▸ .unconfirmed)
      | _ => cases hstep
  | confirm =>
      rw [hpc] at hstep
      cases e with
      | next =>
          simp only at hstep
          rcases hc : (confirmStart s.clock h.id h.printer).commit s.db with ⟨r, d⟩
          obtain ⟨rfl, hcase⟩ := confirmStart_commit hc hslot
          rw [hc] at hstep
          cases hstep
          obtain ⟨rfl, hno⟩ | ⟨j, hj, hs, hm⟩ | ⟨j, hj, hs, hm⟩ := hcase
          · exact .confirmSkip hpc hno
          · exact .confirm hpc hj hs hm
          · exact .block hpc hj hs hm
      | _ => cases hstep
  | ambiguous exc =>
      rw [hpc] at hstep
      cases e with
      | next =>
          simp only at hstep
          rcases hc : (quarantineStart s.clock h.id h.printer exc).commit s.db with ⟨r, d⟩
          obtain ⟨-, hcase⟩ := quarantineStart_commit hc hslot
          rw [hc] at hstep
          cases hstep
          obtain ⟨rfl, hno⟩ | ⟨j, hj, hs, hm⟩ := hcase
          · exact .quarantineSkip hpc hno
          · exact .quarantine hpc hj hs hm
      | _ => cases hstep
  | failing exc =>
      rw [hpc] at hstep
      cases e with
      | next =>
          simp only at hstep
          rcases hc : (failJob s.clock h.id s!"Printer handoff failed: {exc.str}").commit s.db with ⟨r, d⟩
          obtain ⟨-, hcase⟩ := failJob_commit hc
          rw [hc] at hstep
          cases hstep
          obtain ⟨rfl, hno⟩ | ⟨j, hj, hs, hm⟩ := hcase
          · exact .failSkip hpc hno
          · exact .fail hpc hj hs hm
      | _ => cases hstep
  | releasing =>
      rw [hpc] at hstep
      cases e with
      | next =>
          simp only at hstep
          rcases hc : (releaseFailed s.clock h.id h.printer).commit s.db with ⟨r, d⟩
          obtain ⟨-, hcase⟩ := releaseFailed_commit hc
          rw [hc] at hstep
          cases hstep
          obtain ⟨rfl, hno⟩ | ⟨j, hslot', hj, hs, hm⟩ := hcase
          · exact .releaseSkip hpc hno
          · exact .release hpc hslot' hj hs hm
      | _ => cases hstep

/-! ## Slicing workers -/

/-- A worker moves on without touching anything shared; `none` gives its reservation back. -/
inductive SliceLocal : SliceTask → Option SliceTask → Prop
  | lost : SliceLocal .start (some .finished)
  | analysed {stl a} : SliceLocal (.analyse stl) (some (.plan stl a))
  | analysisFailed {stl m} : SliceLocal (.analyse stl) (some (.failing m))
  | planSkip {stl a} : SliceLocal (.plan stl a) (some .finished)
  | sliceFailed {stl p m} : SliceLocal (.slice stl p) (some (.failing m))
  | storeSkip {p path est} : SliceLocal (.store p path est) (some .finished)
  | failSkip {m} : SliceLocal (.failing m) (some .finished)
  | recheckSkip {p} : SliceLocal (.recheck p) (some .finished)
  | resliceFailed {stl p m} : SliceLocal (.reslice stl p) (some (.aborting m))
  | restoreSkip {p path est} : SliceLocal (.restore p path est) (some .finished)
  | abortSkip {m} : SliceLocal (.aborting m) (some .finished)
  | done : SliceLocal .finished none

/-- The statuses of its job that the worker's next block acts on. On a job in any other status it returns. -/
def SliceTask.awaits : SliceTask → List JobStatus
  | start => [.pending]
  | plan _ _ => [.analysing]
  | store _ _ _ | recheck _ | restore _ _ _ | aborting _ => [.slicing]
  | failing _ => activeJobStatuses
  | analyse _ | slice _ _ | reslice _ _ | finished => []

/-- One step of the slicing worker of job `id`, which is at `task`. -/
inductive SliceTrans (s : Service) (id : JobId) (task : SliceTask) : Service → Prop
  | goto {task' : Option SliceTask} (hloc : SliceLocal task task')
      (hskip : task' = some .finished → ∀ j, s.db.job id = some j → j.status ∉ task.awaits) :
      SliceTrans s id task (s.setSlice id task')
  | analysing {d : Db} {j : Job} (ht : task = .start) (hj : s.db.job id = some j)
      (hs : j.status = .pending) (hm : Move (.swap id .pending .analysing) s.db.floor d.floor) :
      SliceTrans s id task ((s.commitDb d).setSlice id (some (.analyse j.stlPath)))
  | reject {d : Db} {stl : String} {a : Analysis} (ht : task = .plan stl a)
      (hm : Move (.swap id .analysing .rejected) s.db.floor d.floor) :
      SliceTrans s id task ((s.commitDb d).setSlice id (some .finished))
  | planned {d : Db} {stl : String} {a : Analysis} {p : PrinterID} {j : Job} {now : Time}
      (ht : task = .plan stl a) (hchoice : selectPrinter s.settings a = (some p, none))
      (hj : s.db.job id = some j) (hs : j.status = .analysing)
      (hf : d.floor = s.db.floor.setJob id ((j.analysed a p).transitioned now .slicing none none)) :
      SliceTrans s id task ((s.commitDb d).setSlice id (some (.slice stl p)))
  | sliced {stl path : String} {p : PrinterID} {est : Option Nat} (ht : task = .slice stl p) :
      SliceTrans s id task ((s.setSlice id (some (.store p path est))).record (.sliced stl p path))
  | stored {d : Db} {path : String} {p : PrinterID} {est : Option Nat} {j : Job} {now : Time}
      (ht : task = .store p path est) (hj : s.db.job id = some j) (hs : j.status = .slicing)
      (hf : d.floor = s.db.floor.setJob id (j.queuedFor now j.assignedPrinter path est)) :
      SliceTrans s id task ((s.commitDb d).setSlice id (some .finished))
  | failed {d : Db} {m : String} {j : Job} (ht : task = .failing m) (hj : s.db.job id = some j)
      (hs : j.status ∉ terminalJobStatuses) (hm : Move (.swap id j.status .failed) s.db.floor d.floor) :
      SliceTrans s id task ((s.commitDb d).setSlice id (some .finished))
  | rechecked {p : PrinterID} {j : Job} (ht : task = .recheck p) (hj : s.db.job id = some j)
      (hs : j.status = .slicing) : SliceTrans s id task (s.setSlice id (some (.reslice j.stlPath p)))
  | resliced {stl path : String} {p : PrinterID} {est : Option Nat} (ht : task = .reslice stl p) :
      SliceTrans s id task ((s.setSlice id (some (.restore p path est))).record (.sliced stl p path))
  | restored {d : Db} {path : String} {p : PrinterID} {est : Option Nat} {j : Job} {now : Time}
      (ht : task = .restore p path est) (hj : s.db.job id = some j) (hs : j.status = .slicing)
      (hf : d.floor = s.db.floor.setJob id (j.queuedFor now (some p) path est)) :
      SliceTrans s id task ((s.commitDb d).setSlice id (some .finished))
  | aborted {d : Db} {m : String} {j : Job} (ht : task = .aborting m) (hj : s.db.job id = some j)
      (hs : j.status = .slicing) (hm : Move (.swap id .slicing .queued) s.db.floor d.floor) :
      SliceTrans s id task ((s.commitDb d).setSlice id (some .finished))

theorem sliceStep_trans {id : JobId} {task : SliceTask} {e : SliceEvent}
    (hstep : s.sliceStep id task e = some s') : SliceTrans s id task s' := by
  -- a worker that finds its job in another status than the one it awaits returns
  have skip : ∀ {st : JobStatus}, (∀ j, s.db.job id = some j → j.status ≠ st) →
      ∀ j, s.db.job id = some j → j.status ∉ [st] := fun hno j hj => by simpa using hno j hj
  unfold Service.sliceStep at hstep
  cases task with
  | start =>
      cases e with
      | next =>
          simp only at hstep
          rcases hc : (startAnalysis s.clock id).commit s.db with ⟨r, d⟩
          rw [hc] at hstep
          obtain ⟨m, rfl, rfl, hno⟩ | ⟨j, hj, rfl, hs, hm⟩ := startAnalysis_commit hc
          · cases hstep; exact .goto .lost fun _ => skip hno
          · cases hstep; exact .analysing rfl hj hs hm
      | _ => cases hstep
  | analyse stl =>
      cases e with
      | analysed result =>
          cases result <;> cases hstep
          · exact .goto .analysisFailed nofun
          · exact .goto .analysed nofun
      | _ => cases hstep
  | plan stl a =>
      cases e with
      | next =>
          simp only at hstep
          rcases hc : (planSlice s.clock id a (selectPrinter s.settings a)).commit s.db with ⟨r, d⟩
          rw [hc] at hstep
          obtain ⟨rfl, rfl, hno⟩ | ⟨rfl, hm⟩ | ⟨hnone, -⟩ | ⟨p, j, hch, rfl, hj, hs, hf⟩ := planSlice_commit hc
          · simp only at hstep; cases hstep; exact .goto .planSkip fun _ => skip hno
          · simp only at hstep; cases hstep; exact .reject rfl hm
          · obtain ⟨p, hp⟩ | ⟨m, hm⟩ := selectPrinter_total s.settings a
            · rw [hp] at hnone; cases hnone
            · rw [hm] at hnone; cases hnone
          · rw [hch] at hstep
            simp only at hstep
            cases hstep
            exact .planned rfl hch hj hs hf
      | _ => cases hstep
  | slice stl p =>
      cases e with
      | sliced o =>
          simp only at hstep
          split at hstep <;> cases hstep
          · exact .sliced rfl
          · exact .goto .sliceFailed nofun
      | _ => cases hstep
  | store p path est =>
      cases e with
      | next =>
          simp only at hstep
          rcases hc : (storeSlice s.clock id p path est).commit s.db with ⟨r, d⟩
          rw [hc] at hstep
          obtain ⟨rfl, ⟨rfl, hno⟩ | ⟨j, hj, hs, hf⟩⟩ := storeSlice_commit hc
          · cases hstep; exact .goto .storeSkip fun _ => skip hno
          · cases hstep; exact .stored rfl hj hs hf
      | _ => cases hstep
  | failing m =>
      cases e with
      | next =>
          simp only at hstep
          rcases hc : (failJob s.clock id m).commit s.db with ⟨r, d⟩
          rw [hc] at hstep
          obtain ⟨-, ⟨rfl, hno⟩ | ⟨j, hj, hs, hm⟩⟩ := failJob_commit hc
          · cases hstep
            exact .goto .failSkip fun _ j hj hactive => (active_iff_not_terminal _).mp hactive (hno j hj)
          · cases hstep; exact .failed rfl hj hs hm
      | _ => cases hstep
  | recheck p =>
      cases e with
      | next =>
          simp only at hstep
          rcases hc : (checkReslice id).commit s.db with ⟨r, d⟩
          rw [hc] at hstep
          obtain ⟨rfl, ⟨rfl, hno⟩ | ⟨j, hj, hs, rfl⟩⟩ := checkReslice_commit hc
          · cases hstep; exact .goto .recheckSkip fun _ => skip hno
          · cases hstep; exact .rechecked rfl hj hs
      | _ => cases hstep
  | reslice stl p =>
      cases e with
      | sliced o =>
          simp only at hstep
          split at hstep <;> cases hstep
          · exact .resliced rfl
          · exact .goto .resliceFailed nofun
      | _ => cases hstep
  | restore p path est =>
      cases e with
      | next =>
          simp only at hstep
          rcases hc : (storeReslice s.clock id p path est).commit s.db with ⟨r, d⟩
          rw [hc] at hstep
          obtain ⟨rfl, ⟨rfl, hno⟩ | ⟨j, hj, hs, hf⟩⟩ := storeReslice_commit hc
          · cases hstep; exact .goto .restoreSkip fun _ => skip hno
          · cases hstep; exact .restored rfl hj hs hf
      | _ => cases hstep
  | aborting m =>
      cases e with
      | next =>
          simp only at hstep
          rcases hc : (abortReslice s.clock id m).commit s.db with ⟨r, d⟩
          rw [hc] at hstep
          obtain ⟨-, ⟨rfl, hno⟩ | ⟨j, hj, hs, hm⟩⟩ := abortReslice_commit hc
          · cases hstep; exact .goto .abortSkip fun _ => skip hno
          · cases hstep; exact .aborted rfl hj hs hm
      | _ => cases hstep
  | finished =>
      cases e with
      | next => cases hstep; exact .goto .done nofun
      | _ => cases hstep

/-! ## The queue loop -/

/-- One step of the queue loop. -/
inductive TickTrans (s : Service) : Service → Prop
  | goto {loop' : LoopPc} : TickTrans s { s with loop := loop' }
  | submit {id : JobId} {loop' : LoopPc} (hfree : s.slices id = none) :
      TickTrans s { s.setSlice id (some .start) with loop := loop' }
  | dispatch {d : Db} {id : JobId} {p : PrinterID} {j : Job} {loop' : LoopPc}
      (hj : s.db.job id = some j) (hs : j.status = .queued) (hen : s.settings.printerEnabled p = true)
      (hfree : (s.db.printers p).free) (hm : Move (.dispatch id p) s.db.floor d.floor) :
      TickTrans s { (s.commitDb d).record (.dispatched id p (s.live p).gcodeState) with
        handoffs := s.handoffs ++ [⟨id, p, j.slicedPath, .begin⟩]
        loop := loop' }
  | fallback {d : Db} {id : JobId} {p source : PrinterID} {j : Job} {loop' : LoopPc} {now : Time}
      (hj : s.db.job id = some j) (hs : j.status = .queued) (hp : j.assignedPrinter = some source)
      (hbusy : (s.settings.printerEnabled source && (s.db.printers source).available) = false)
      (hfit : j.fitsOn s.settings p = true) (hen : s.settings.printerEnabled p = true) (hfree : s.slices id = none)
      (hf : d.floor = s.db.floor.setJob id (j.transitioned now .slicing none none)) :
      TickTrans s { (s.commitDb d).setSlice id (some (.recheck p)) with loop := loop' }

theorem tickStep_trans : TickTrans s s.tickStep := by
  unfold Service.tickStep
  cases hloop : s.loop with
  | sleeping => exact .goto
  | submitting ids =>
      cases ids with
      | nil => exact .goto
      | cons id rest =>
          simp only [Service.submitSlice]
          by_cases hr : s.reserved id = true
          · rw [if_pos hr]; exact .goto
          · rw [if_neg hr]
            refine .submit ?_
            simpa [Service.reserved] using hr
  | dispatching ps =>
      cases ps with
      | nil => exact .goto
      | cons p rest =>
          simp only
          rcases hc : (tryDispatch s.settings s.clock p).commit s.db with ⟨r, d⟩
          obtain ⟨rfl, rfl⟩ | ⟨id, j, rfl, hj, hs, hen, hfree, hm⟩ := tryDispatch_commit hc
          · exact .goto
          · exact .dispatch hj hs hen hfree hm
  | fallback p rest =>
      simp only
      rcases hc : (tryScheduleFallback s.settings s.clock p s.reserved).commit s.db with ⟨r, d⟩
      obtain ⟨rfl, hne⟩ | ⟨id, j, source, rfl, hj, hs, hp, hbusy, hfit, hen, hfree, hf⟩ :=
        tryScheduleFallback_commit hc
      · rcases r with e | _ | id
        · exact .goto
        · exact .goto
        · exact absurd rfl (hne id)
      · refine .fallback hj hs hp hbusy hfit hen ?_ hf
        simpa [Service.reserved] using hfree

/-! ## Callbacks -/

/-- The snapshot that the callback is about to process. -/
def Callback.payload : Callback → Option Snapshot
  | report snap => some snap
  | disconnected snap => some snap
  | acknowledging => none
  | acknowledged snap => some snap
  | acknowledgeLog => none

/-- What the caller still does after `_on_status_update`. -/
def Callback.rest (p : PrinterID) : Callback → List (PrinterID × Callback)
  | acknowledged _ => [(p, acknowledgeLog)]
  | _ => []

/-- One step of the callback at position `i`. -/
inductive CallbackTrans (s : Service) (i : Nat) : Service → Prop
  | processed {d : Db} {p : PrinterID} {c : Callback} {snap : Snapshot}
      (hi : s.pending[i]? = some (p, c)) (hc : c.payload = some snap)
      (hr : Reported p snap s.db.floor d.floor) (hm : Moves (Act.reports p) s.db.floor d.floor) :
      CallbackTrans s i { (s.commitDb d).record (.processed p snap) with
        pending := s.pending.eraseIdx i ++ c.rest p }
  | acknowledge {p : PrinterID} {c' : BambuPrinter} (hi : s.pending[i]? = some (p, .acknowledging))
      (hok : (s.live p).acknowledgePhysicallyIdle p = .ok c') :
      CallbackTrans s i { s.setLive p c' with
        pending := s.pending.eraseIdx i ++ [(p, .acknowledged c'.snapshot)] }
  | refused {p : PrinterID} (hi : s.pending[i]? = some (p, .acknowledging)) :
      CallbackTrans s i { s with pending := s.pending.eraseIdx i }
  | logged {d : Db} {p : PrinterID} (hi : s.pending[i]? = some (p, .acknowledgeLog))
      (hf : d.floor = s.db.floor) :
      CallbackTrans s i { s.commitDb d with pending := s.pending.eraseIdx i }

theorem callbackStep_trans {i : Nat} (hstep : s.callbackStep i = some s') : CallbackTrans s i s' := by
  unfold Service.callbackStep at hstep
  cases hi : s.pending[i]? with
  | none => rw [hi] at hstep; cases hstep
  | some pc =>
      obtain ⟨p, c⟩ := pc
      rw [hi] at hstep
      have hsnap : ∀ snap, Reported p snap s.db.floor
            ((onStatusUpdate s.clock p snap).commit s.db).2.floor ∧
          Moves (Act.reports p) s.db.floor ((onStatusUpdate s.clock p snap).commit s.db).2.floor :=
        fun snap => onStatusUpdate_commit (r := ((onStatusUpdate s.clock p snap).commit s.db).1) rfl
      cases c with
      | report snap =>
          cases hstep
          have htrans := CallbackTrans.processed hi rfl (hsnap snap).1 (hsnap snap).2
          simp only [Callback.rest, List.append_nil] at htrans
          exact htrans
      | disconnected snap =>
          cases hstep
          have htrans := CallbackTrans.processed hi rfl (hsnap snap).1 (hsnap snap).2
          simp only [Callback.rest, List.append_nil] at htrans
          exact htrans
      | acknowledging =>
          simp only at hstep
          split at hstep <;> cases hstep
          · exact .refused hi
          · next c' hok => exact .acknowledge hi hok
      | acknowledged snap =>
          cases hstep
          exact .processed hi rfl (hsnap snap).1 (hsnap snap).2
      | acknowledgeLog =>
          cases hstep
          exact .logged hi (logAcknowledged_commit (r := ((logAcknowledged s.clock p).commit s.db).1) rfl)

/-! ## The discipline of the workers -/

/-- What makes the moves of the workers sound: the slots are disciplined, each dispatch worker works for a
    job that was sent to its printer, no two of them for the same job, and workers exist only while the
    service runs. -/
structure Disciplined (s : Service) : Prop where
  floor : FloorInv s.db.floor
  sent : ∀ h ∈ s.handoffs, ∃ j, s.db.job h.id = some j ∧ j.status ∈ owning ∧
    j.assignedPrinter = some h.printer
  distinct : (s.handoffs.map Handoff.id).Nodup
  idle : s.phase ≠ .running → s.handoffs = [] ∧ s.slices = fun _ => none

/-- The job of a dispatch worker, while it is at its printer, owns that printer's slot. -/
theorem Disciplined.slot {h : Handoff} {j : Job} (hD : Disciplined s) (hh : h ∈ s.handoffs)
    (hj : s.db.job h.id = some j) (hs : j.status ∈ atPrinter) :
    (s.db.printers h.printer).currentJobId = some h.id := by
  obtain ⟨i, hi, -, hp⟩ := hD.sent h hh
  cases Option.some.inj (hj.symm.trans hi)
  exact hD.floor.slot_eq hj hs hp

/-! ## The whole service -/

/-- One step of the service. -/
inductive Trans (s : Service) : Event → Service → Prop
  | same {e : Event} (he : ∀ p ev, e ≠ .live p ev) : Trans s e s
  | clock {now : Time} : Trans s (.clock now) { s with clock := now }
  | boot {cfg : Settings} (hphase : s.phase = .down) :
      Trans s (.boot cfg) { s.crashed with settings := cfg, phase := .booting }
  | crash (hphase : s.phase ≠ .down) : Trans s .crash s.crashed
  | reconcile {d : Db} (hphase : s.phase = .booting) (hm : Moves Act.recovers s.db.floor d.floor) :
      Trans s .reconcile { s.commitDb d with phase := .running }
  | cancel {e : Event} {d : Db} {id : JobId} {j : Job} (he : e = .cancel id ∨ e = .offlineCancel id)
      (hj : s.db.job id = some j) (hs : j.status ∈ cancellable)
      (hm : Move (.swap id j.status .cancelled) s.db.floor d.floor) : Trans s e (s.commitDb d)
  | upload {d : Db} {id : JobId} {form : UploadForm} (hm : Move (.submit id) s.db.floor d.floor) :
      Trans s (.upload id form) (s.commitDb d)
  | clear {d : Db} {p : PrinterID} {owner : Option JobId}
      (hslot : (s.db.printers p).currentJobId = owner) (hm : Move (.clear p owner) s.db.floor d.floor) :
      Trans s (.plateCleared p) (s.commitDb d)
  | acknowledge {p : PrinterID} : Trans s (.acknowledgeIdle p) (s.addCallback p .acknowledging)
  | live {p : PrinterID} {e : LiveEvent} {s' : Service} (hphase : s.phase ≠ .down)
      (hstep : s.liveStep p e = some s') : Trans s (.live p e) s'
  | callback {i : Nat} {s' : Service} (hphase : s.phase ≠ .down) (ht : CallbackTrans s i s') :
      Trans s (.callback i) s'
  | tick {s' : Service} (hphase : s.phase = .running) (ht : TickTrans s s') : Trans s .tick s'
  | slice {id : JobId} {task : SliceTask} {e : SliceEvent} {s' : Service} (hphase : s.phase = .running)
      (htask : s.slices id = some task) (ht : SliceTrans s id task s') : Trans s (.slice id e) s'
  | handoff {i : Nat} {h : Handoff} {e : HandoffEvent} {s' : Service} (hphase : s.phase = .running)
      (hh : s.handoffs[i]? = some h) (ht : HandoffTrans s i h s') : Trans s (.handoff i e) s'

/-- **Inversion of the step function.** -/
theorem Disciplined.step_trans {e : Event} (hD : Disciplined s) (hstep : s.step e = some s') :
    Trans s e s' := by
  unfold Service.step at hstep
  cases e with
  | clock now =>
      have hclock : some { s with clock := now } = some s' := by
        rw [← hstep]
      cases hclock
      exact .clock
  | boot cfg =>
      cases hphase : s.phase <;> simp only [hphase] at hstep
      · split at hstep <;> cases hstep
        exact .boot hphase
      all_goals cases hstep
  | reconcile =>
      cases hphase : s.phase <;> simp only [hphase] at hstep
      · cases hstep
      · rcases hc : (reconcileInterruptedJobs s.clock).commit s.db with ⟨r, d⟩
        obtain ⟨rfl, hm⟩ := reconcileInterruptedJobs_commit hc hD.floor
        rw [hc] at hstep
        cases hstep
        exact .reconcile hphase hm
      · cases hstep
  | crash =>
      cases hphase : s.phase <;> simp only [hphase] at hstep <;> cases hstep
      all_goals exact .crash (by rw [hphase]; decide)
  | offlineCancel id =>
      cases hphase : s.phase <;> simp only [hphase] at hstep <;> cases hstep
      rcases hc : (cancelPendingJob s.clock id).commit s.db with ⟨r, d⟩
      obtain rfl | ⟨j, hj, hs, hm⟩ := cancelPendingJob_commit hc
      · exact .same (by simp)
      · exact .cancel (.inr rfl) hj hs hm
  | upload id form =>
      cases hphase : s.phase <;> simp only [hphase] at hstep <;> cases hstep
      rcases hc : (commitUpload s.settings s.clock id form).commit s.db with ⟨r, d⟩
      obtain rfl | hm := commitUpload_commit hc
      · exact .same (by simp)
      · exact .upload hm
  | cancel id =>
      cases hphase : s.phase <;> simp only [hphase] at hstep <;> cases hstep
      rcases hc : (cancelJob s.clock id).commit s.db with ⟨r, d⟩
      obtain rfl | ⟨j, hj, hs, hm⟩ := cancelJob_commit hc
      · exact .same (by simp)
      · exact .cancel (.inl rfl) hj hs hm
  | plateCleared p =>
      cases hphase : s.phase <;> simp only [hphase] at hstep <;> cases hstep
      rcases hc : (markPlateCleared s.settings s.clock p).commit s.db with ⟨r, d⟩
      -- no slot names a job that is gone, so the request never clears one without looking at its job
      have howner : ∀ id, (s.db.printers p).currentJobId = some id → s.db.job id ≠ none := fun id hid => by
        obtain ⟨j, hj, -⟩ := hD.floor.owner p id hid
        rw [← Db.floor_job, hj]
        exact Option.some_ne_none j
      obtain ⟨rfl, -⟩ | ⟨owner, -, hslot, hm, -⟩ := markPlateCleared_commit hc howner
      · exact .same (by simp)
      · exact .clear hslot hm
  | acknowledgeIdle p =>
      cases hphase : s.phase <;> simp only [hphase] at hstep <;> cases hstep
      unfold Service.acknowledgeIdle
      rcases hc : (acknowledgeChecks s.settings p).commit s.db with ⟨r, d⟩
      obtain rfl := acknowledgeChecks_commit hc
      cases r
      · exact .same (by simp)
      · exact .acknowledge
  | live p e =>
      cases hphase : s.phase <;> simp only [hphase] at hstep
      · cases hstep
      all_goals
        split at hstep
        · exact .live (by rw [hphase]; decide) hstep
        · cases hstep
  | callback i =>
      cases hphase : s.phase <;> simp only [hphase] at hstep
      · cases hstep
      all_goals exact .callback (by rw [hphase]; decide) (callbackStep_trans hstep)
  | tick =>
      cases hphase : s.phase <;> simp only [hphase] at hstep <;> cases hstep
      exact .tick hphase tickStep_trans
  | slice id e =>
      cases hphase : s.phase <;> simp only [hphase] at hstep
      · cases hstep
      · cases hstep
      · cases htask : s.slices id with
        | none => rw [htask] at hstep; cases hstep
        | some task =>
            rw [htask] at hstep
            exact .slice hphase htask (sliceStep_trans hstep)
  | handoff i e =>
      cases hphase : s.phase <;> simp only [hphase] at hstep
      · cases hstep
      · cases hstep
      · cases hh : s.handoffs[i]? with
        | none => rw [hh] at hstep; cases hstep
        | some h =>
            rw [hh] at hstep
            -- the worker writes the printer's row without looking at it: its job owns the slot
            have hmem : h ∈ s.handoffs := List.mem_of_getElem? hh
            exact .handoff hphase hh
              (handoffStep_trans (fun j hj hs => hD.slot hmem hj hs) hstep)

/-! ## Coarse views of a step -/

/-- What a step of a live client leaves alone: everything but the client, the callbacks and the record of reports. -/
structure LiveFrame (s s' : Service) : Prop where
  settings : s'.settings = s.settings
  phase : s'.phase = s.phase
  db : s'.db = s.db
  slices : s'.slices = s.slices
  handoffs : s'.handoffs = s.handoffs

theorem liveStep_frame {p : PrinterID} {e : LiveEvent} (h : s.liveStep p e = some s') : LiveFrame s s' := by
  cases e <;> simp only [Service.liveStep] at h
  case connectFailed => cases h; exact ⟨rfl, rfl, rfl, rfl, rfl⟩
  all_goals
    split at h <;> cases h
    exact ⟨rfl, rfl, rfl, rfl, rfl⟩

/-- An act that neither stores the progress of a job nor completes one. -/
def Act.routine : Act → Bool
  | .progress _ => false
  | .settle _ _ new _ => new ≠ .completed
  | _ => true

/-- **A step makes one routine move or none**, unless it is a callback or the recovery. -/
theorem Trans.routine {e : Event} (ht : Trans s e s') (hrec : e ≠ .reconcile) (hcall : ∀ i, e ≠ .callback i) :
    s'.db.floor = s.db.floor ∨ ∃ a, a.routine = true ∧ Move a s.db.floor s'.db.floor := by
  cases ht with
  | same => exact .inl rfl
  | clock => exact .inl rfl
  | boot => exact .inl rfl
  | crash => exact .inl rfl
  | reconcile => exact absurd rfl hrec
  | cancel _ _ _ hm => exact .inr ⟨_, rfl, hm⟩
  | upload hm => exact .inr ⟨_, rfl, hm⟩
  | clear _ hm => exact .inr ⟨_, rfl, hm⟩
  | acknowledge => exact .inl rfl
  | live _ hstep =>
      exact .inl (by rw [(liveStep_frame hstep).db])
  | callback => exact absurd rfl (hcall _)
  | tick _ ht =>
      cases ht with
      | goto => exact .inl rfl
      | submit => exact .inl rfl
      | dispatch _ _ _ _ hm => exact .inr ⟨_, rfl, hm⟩
      | @fallback d id p _ j _ now hj hs _ _ _ _ _ hf =>
          have hm : Move (.swap id j.status .slicing) s.db.floor d.floor := by
            rw [hf]; exact .swap hj (by rw [hs]; decide) (by decide)
          exact .inr ⟨_, rfl, hm⟩
  | slice _ _ ht =>
      cases ht with
      | goto => exact .inl rfl
      | analysing _ _ _ hm => exact .inr ⟨_, rfl, hm⟩
      | reject _ hm => exact .inr ⟨_, rfl, hm⟩
      | planned _ _ hj hs hf => exact .inr ⟨_, rfl, Move.of_analysed hj hs hf⟩
      | sliced => exact .inl rfl
      | stored _ hj hs hf => exact .inr ⟨_, rfl, .of_queuedFor hj hs hf⟩
      | failed _ _ _ hm => exact .inr ⟨_, rfl, hm⟩
      | rechecked => exact .inl rfl
      | resliced => exact .inl rfl
      | restored _ hj hs hf => exact .inr ⟨_, rfl, .of_queuedFor hj hs hf⟩
      | aborted _ _ _ hm => exact .inr ⟨_, rfl, hm⟩
  | handoff _ _ ht =>
      cases ht with
      | goto => exact .inl rfl
      | upload => exact .inl rfl
      | request _ _ _ hm => exact .inr ⟨_, rfl, hm⟩
      | check => exact .inl rfl
      | publish => exact .inl rfl
      | started => exact .inl rfl
      | confirmSkip => exact .inl rfl
      | confirm _ _ _ hm => exact .inr ⟨_, rfl, hm⟩
      | block _ _ _ hm => exact .inr ⟨_, rfl, hm⟩
      | quarantineSkip => exact .inl rfl
      | quarantine _ _ _ hm => exact .inr ⟨_, rfl, hm⟩
      | failSkip => exact .inl rfl
      | fail _ _ _ hm => exact .inr ⟨_, rfl, hm⟩
      | releaseSkip => exact .inl rfl
      | release _ _ _ _ hm => exact .inr ⟨_, rfl, hm⟩

/-- What a step does to the floor: nothing, one move, or several moves that add no row. -/
inductive FloorStep (f f' : Floor) : Prop
  | same (h : f' = f)
  | one {a : Act} (hm : Move a f f')
  | many (hm : Moves (fun a => ∀ id, a ≠ .submit id) f f')

/-- **A step makes moves.** -/
theorem Trans.floor {e : Event} (ht : Trans s e s') : FloorStep s.db.floor s'.db.floor := by
  have hmany : ∀ {ok : Act → Prop}, (∀ id, ¬ ok (.submit id)) → Moves ok s.db.floor s'.db.floor →
      FloorStep s.db.floor s'.db.floor := by
    intro ok hok hm
    refine .many (hm.mono fun a ha id hc => ?_)
    subst hc
    exact hok id ha
  by_cases hrec : e = .reconcile
  · subst hrec
    cases ht with
    | same => exact .same rfl
    | reconcile _ hm => exact hmany (fun _ h => h) hm
    | cancel he => rcases he with he | he <;> cases he
  · by_cases hcall : ∃ i, e = .callback i
    · obtain ⟨i, rfl⟩ := hcall
      cases ht with
      | same => exact .same rfl
      | cancel he => rcases he with he | he <;> cases he
      | callback _ ht =>
          cases ht with
          | processed _ _ _ hm => exact hmany (fun _ h => h) hm
          | acknowledge => exact .same rfl
          | refused => exact .same rfl
          | logged _ hf => exact .same hf
    · rcases ht.routine hrec (fun i hi => hcall ⟨i, hi⟩) with hsame | ⟨a, -, hm⟩
      · exact .same hsame
      · exact .one hm

theorem Trans.moves {e : Event} (ht : Trans s e s') : Moves (fun _ => True) s.db.floor s'.db.floor := by
  cases ht.floor with
  | same h => rw [h]; exact .refl
  | one hm => exact .one trivial hm
  | many hm => exact hm.mono fun _ _ => trivial

/-- A job that a step creates is PENDING. -/
theorem Trans.born {e : Event} {id : JobId} {j' : Job} (ht : Trans s e s') (hnone : s.db.job id = none)
    (hj' : s'.db.job id = some j') : j'.status = .pending := by
  cases ht.floor with
  | same h =>
      rw [← Db.floor_job, h, Db.floor_job, hnone] at hj'
      cases hj'
  | one hm => exact hm.new_row hnone hj'
  | many hm =>
      have hstill : s'.db.floor.job id = none := hm.keeps (P := fun g => g.job id = none)
        (fun a g g' ha hmove hg => hmove.no_row (ha id) hg) hnone
      rw [Db.floor_job, hj'] at hstill
      cases hstill

/-- A job that has not been sent after a step had not been sent before. -/
theorem Trans.unsent_before {e : Event} {id : JobId} (ht : Trans s e s')
    (h : ∀ j, s'.db.job id = some j → j.status ∉ owning) :
    ∀ j, s.db.job id = some j → j.status ∉ owning := by
  intro j hj hs
  obtain ⟨j', hj', hs', -⟩ := ht.moves.sent hj hs
  exact h j' hj' hs'

/-- What a step does to the list of dispatch workers. -/
inductive HandoffsStep (s s' : Service) : Prop
  | same (h : s'.handoffs = s.handoffs)
  | lost (h : s'.handoffs = [])
  | dispatched {id : JobId} {p : PrinterID} {j j' : Job} (hj : s.db.job id = some j)
      (hs : j.status = .queued) (hj' : s'.db.job id = some j') (hs' : j'.status = .uploading)
      (hp : j'.assignedPrinter = some p) (ht : j'.ticket = j.ticket)
      (h : s'.handoffs = s.handoffs ++ [⟨id, p, j.slicedPath, .begin⟩])
  | moved {i : Nat} {h : Handoff} {pc : HandoffPc} (hh : s.handoffs[i]? = some h)
      (hlt : h.pc.order < pc.order) (hs : s'.handoffs = s.handoffs.set i { h with pc := pc })
  | ended {i : Nat} (h : s'.handoffs = s.handoffs.eraseIdx i)

theorem Trans.handoffs {e : Event} (ht : Trans s e s') : HandoffsStep s s' := by
  cases ht with
  | same => exact .same rfl
  | clock => exact .same rfl
  | boot => exact .lost rfl
  | crash => exact .lost rfl
  | reconcile => exact .same rfl
  | cancel => exact .same rfl
  | upload => exact .same rfl
  | clear => exact .same rfl
  | acknowledge => exact .same rfl
  | live _ hstep => exact .same (liveStep_frame hstep).handoffs
  | callback _ ht => cases ht <;> exact .same rfl
  | tick _ ht =>
      cases ht with
      | goto => exact .same rfl
      | submit => exact .same rfl
      | @dispatch d id p j loop' hj hs hen hfree hm =>
          -- what the new worker starts with is the row that the move has left
          have hd : ∃ j', d.job id = some j' ∧ j'.status = .uploading ∧ j'.assignedPrinter = some p ∧
              j'.ticket = j.ticket := by
            rw [← Db.floor_job d]
            generalize d.floor = f' at hm
            cases hm with
            | dispatch hj' hs' ha hfree' =>
                cases Option.some.inj (hj.symm.trans hj')
                exact ⟨_, Floor.job_setJob_self .., rfl, ha, rfl⟩
          obtain ⟨j', hj', hs', hp, ht⟩ := hd
          exact .dispatched hj hs hj' hs' hp ht rfl
      | fallback => exact .same rfl
  | slice _ _ ht => cases ht <;> exact .same rfl
  | @handoff i h _ _ _ hh ht =>
      cases ht with
      | goto hloc => exact .moved hh hloc.order_lt rfl
      | upload hpc => exact .moved hh (by simp [hpc, HandoffPc.order]) rfl
      | request hpc => exact .moved hh (by simp [hpc, HandoffPc.order]) rfl
      | check hpc => exact .moved hh (by simp [hpc, HandoffPc.order]) rfl
      | publish hpc => exact .moved hh (by simp [hpc, HandoffPc.order]) rfl
      | started hpc => exact .moved hh (by simp [hpc, HandoffPc.order]) rfl
      | failSkip hpc => exact .moved hh (by simp [hpc, HandoffPc.order]) rfl
      | fail hpc => exact .moved hh (by simp [hpc, HandoffPc.order]) rfl
      | confirmSkip => exact .ended rfl
      | confirm => exact .ended rfl
      | block => exact .ended rfl
      | quarantineSkip => exact .ended rfl
      | quarantine => exact .ended rfl
      | releaseSkip => exact .ended rfl
      | release => exact .ended rfl

/-- A worker is one of the workers before the step, further on, or the one that was just dispatched. -/
theorem HandoffsStep.mem {h' : Handoff} (hs : HandoffsStep s s') (hh : h' ∈ s'.handoffs) :
    (∃ h ∈ s.handoffs, h'.id = h.id ∧ h'.printer = h.printer ∧ h'.slicedPath = h.slicedPath ∧
      h.pc.order ≤ h'.pc.order) ∨
    ∃ j j', s.db.job h'.id = some j ∧ j.status = .queued ∧ s'.db.job h'.id = some j' ∧
      j'.status = .uploading ∧ j'.assignedPrinter = some h'.printer ∧ j'.ticket = j.ticket ∧
      h'.slicedPath = j.slicedPath ∧ h'.pc = .begin := by
  cases hs with
  | same h => exact .inl ⟨h', h ▸ hh, rfl, rfl, rfl, le_rfl⟩
  | lost h => rw [h] at hh; cases hh
  | dispatched hj hst hj' hs' hp ht h =>
      rw [h, List.mem_append, List.mem_singleton] at hh
      rcases hh with hh | rfl
      · exact .inl ⟨h', hh, rfl, rfl, rfl, le_rfl⟩
      · exact .inr ⟨_, _, hj, hst, hj', hs', hp, ht, rfl, rfl⟩
  | moved hi hlt h =>
      rw [h] at hh
      rcases List.mem_or_eq_of_mem_set hh with hh | rfl
      · exact .inl ⟨h', hh, rfl, rfl, rfl, le_rfl⟩
      · exact .inl ⟨_, List.mem_of_getElem? hi, rfl, rfl, rfl, hlt.le⟩
  | ended h =>
      rw [h] at hh
      exact .inl ⟨h', List.mem_of_mem_eraseIdx hh, rfl, rfl, rfl, le_rfl⟩

/-- The ids of the workers after a step: fewer, the same, or one more that was queued. -/
theorem HandoffsStep.ids (hs : HandoffsStep s s') :
    (s'.handoffs.map Handoff.id).Sublist (s.handoffs.map Handoff.id) ∨
    ∃ id j, s.db.job id = some j ∧ j.status = .queued ∧
      s'.handoffs.map Handoff.id = s.handoffs.map Handoff.id ++ [id] := by
  cases hs with
  | same h => rw [h]; exact .inl (List.Sublist.refl _)
  | lost h => rw [h]; exact .inl (List.nil_sublist _)
  | dispatched hj hst _ _ _ _ h => exact .inr ⟨_, _, hj, hst, by rw [h, List.map_append]; rfl⟩
  | @moved i h pc hi _ hs =>
      have hget : (s.handoffs.map Handoff.id)[i]? = some h.id := by rw [List.getElem?_map, hi]; rfl
      rw [hs, List.map_set]
      obtain ⟨hlt, hval⟩ := List.getElem?_eq_some_iff.mp hget
      rw [← hval, List.set_getElem_self]
      exact .inl (List.Sublist.refl _)
  | ended h => rw [h]; exact .inl ((List.eraseIdx_sublist ..).map _)

/-- **Every step keeps the discipline.** -/
theorem Disciplined.step {e : Event} (hD : Disciplined s) (ht : Trans s e s') : Disciplined s' where
  floor := ht.moves.inv hD.floor
  sent h' hh' := by
    rcases ht.handoffs.mem hh' with ⟨h, hh, hid, hp, -, -⟩ | ⟨j, j', -, -, hj', hs', hp', -⟩
    · obtain ⟨j, hj, hs, ha⟩ := hD.sent h hh
      obtain ⟨j', hj', hs', htk⟩ := ht.moves.sent hj hs
      exact ⟨j', hid ▸ hj', hs', by rw [Job.ticket_assignedPrinter htk, ha, hp]⟩
    · exact ⟨j', hj', by rw [hs']; decide, hp'⟩
  distinct := by
    rcases ht.handoffs.ids with hsub | ⟨id, j, hj, hs, hids⟩
    · exact hD.distinct.sublist hsub
    · rw [hids, List.nodup_append]
      refine ⟨hD.distinct, List.nodup_singleton _, fun a ha b hb heq => ?_⟩
      -- a job that a worker works for is not queued
      rw [List.mem_singleton] at hb
      obtain ⟨h, hh, hid⟩ := List.mem_map.mp ha
      obtain ⟨i, hi, hown, -⟩ := hD.sent h hh
      have hsame : h.id = id := by rw [hid, heq, hb]
      rw [hsame, hj] at hi
      cases hi
      rw [hs] at hown
      exact absurd hown (by decide)
  idle hphase := by
    cases ht with
    | same => exact hD.idle hphase
    | clock => exact hD.idle hphase
    | boot => exact ⟨rfl, rfl⟩
    | crash => exact ⟨rfl, rfl⟩
    | reconcile => exact absurd rfl hphase
    | cancel => exact hD.idle hphase
    | upload => exact hD.idle hphase
    | clear => exact hD.idle hphase
    | acknowledge => exact hD.idle hphase
    | live _ hstep =>
        obtain ⟨-, hp, -, hsl, hh⟩ := liveStep_frame hstep
        rw [hsl, hh]
        exact hD.idle (hp ▸ hphase)
    | callback _ ht => cases ht <;> exact hD.idle hphase
    | tick hrun ht => cases ht <;> exact absurd hrun hphase
    | slice hrun _ ht => cases ht <;> exact absurd hrun hphase
    | handoff hrun _ ht => cases ht <;> exact absurd hrun hphase

/-- **The discipline holds in every reachable state.** -/
theorem disciplined_of_reach {ok : Service → Event → Prop} (h : service.Reach ok s) : Disciplined s :=
  h.invariant
    (fun s hinit => by
      obtain ⟨cfg, now, rfl⟩ := hinit
      exact {
        floor := ⟨fun _ _ hj => (by cases hj), fun _ _ hs => (by cases hs), fun _ _ _ hj => (by cases hj)⟩
        sent := fun _ hh => (by cases hh)
        distinct := List.nodup_nil
        idle := fun _ => ⟨rfl, rfl⟩ })
    fun _ _ _ _ hD _ hstep => hD.step (hD.step_trans hstep)

/-- Every step from a reachable state is one of `Trans`. -/
theorem trans_of_reach {ok : Service → Event → Prop} {e : Event} (h : service.Reach ok s)
    (hstep : service.step s e = some s') : Trans s e s' := (disciplined_of_reach h).step_trans hstep

end BambuBabu
