import BambuBabu.Api.Jobs
import BambuBabu.Floor.Moves
import BambuBabu.Runs.Refinement

/-!
# `Floor.Shop` — the print shop, and the floor as one

Above the floor: a shop accepts jobs, drops some of them, and prints the others, one at a time on each plate. `Shop` says
this over arbitrary jobs and plates, with four atomic acts and nothing of how the service does it.

* `Shop.step` — the acts;
* `Shop.story_of_follows`, `Shop.shifts_of_follows` — what its runs do to one job, and at one plate;
* `Floor.shop` — a floor read as a shop;
* `Move.works` — **every move is one act or none**.
-/

namespace BambuBabu

open Runs

/-! ## The shop -/

/-- Where a job is. -/
inductive Place (P : Type) where
  | unknown
  | waiting
  | on (p : P)
  | gone
  deriving DecidableEq

/-- A print shop: no two jobs are on one plate. -/
@[ext] structure Shop (J P : Type) where
  place : J → Place P
  alone : ∀ j k p, place j = .on p → place k = .on p → j = k

namespace Shop

variable {J P : Type}

/-- The acts of the shop. -/
inductive Act (J P : Type) where
  | accept (j : J)
  | drop (j : J)
  | load (j : J) (p : P)
  | unload (j : J) (p : P)

/-- The job that the act is about. -/
def Act.job : Act J P → J
  | accept j | drop j | load j _ | unload j _ => j

/-- The plate that it is about. -/
def Act.plate : Act J P → Option P
  | accept _ | drop _ => none
  | load _ p | unload _ p => some p

/-- Where the job is before the act, -/
def Act.before : Act J P → Place P
  | accept _ => .unknown
  | drop _ | load _ _ => .waiting
  | unload _ p => .on p

/-- and where it is afterwards. -/
def Act.after : Act J P → Place P
  | accept _ => .waiting
  | drop _ | unload _ _ => .gone
  | load _ p => .on p

/-- Nothing is on the plate. -/
def Free (s : Shop J P) (p : P) : Prop := ∀ j, s.place j ≠ .on p

/-- A shop that has not opened yet. -/
def empty : Shop J P := ⟨fun _ => .unknown, nofun⟩

section step

variable [DecidableEq J]

/-- Put a job somewhere; a plate must be free for it. -/
def put (s : Shop J P) (j : J) (l : Place P) (h : ∀ p, l = .on p → s.Free p) : Shop J P where
  place := Function.update s.place j l
  alone i k p hi hk := by
    rw [Function.update_apply] at hi hk
    split at hi <;> split at hk
    · next hij hkj => rw [hij, hkj]
    · exact absurd hk (h p hi k)
    · exact absurd hi (h p hk i)
    · exact s.alone i k p hi hk

open Classical in
/-- One act: its job moves, if it is where the act takes it from and the plate is free. -/
noncomputable def step (s : Shop J P) (a : Act J P) : Option (Shop J P) :=
  if h : s.place a.job = a.before ∧ ∀ p, a.after = .on p → s.Free p then some (s.put a.job a.after h.2) else none

/-- The others stay where they are. -/
theorem step_iff {s s' : Shop J P} {a : Act J P} :
    s.step a = some s' ↔
      (s.place a.job = a.before ∧ ∀ p, a.after = .on p → s.Free p) ∧
        s'.place = Function.update s.place a.job a.after := by
  unfold step
  split
  · next h =>
      rw [Option.some.injEq, Shop.ext_iff, and_iff_right h]
      exact eq_comm
  · next h => exact ⟨nofun, fun hc => absurd hc.1 h⟩

end step

/-! ## Runs of the shop -/

/-- The acts about job `j`, and where they leave it: it is accepted once, and then dropped, or printed once. -/
inductive Story (j : J) : List (Act J P) → Place P → Prop
  | unknown : Story j [] .unknown
  | waiting : Story j [.accept j] .waiting
  | dropped : Story j [.accept j, .drop j] .gone
  | loaded {p : P} : Story j [.accept j, .load j p] (.on p)
  | unloaded {p : P} : Story j [.accept j, .load j p, .unload j p] .gone

variable {as : List (Act J P)} {a : Act J P} {j : J} {p : P}

/-- The next act of a job continues its story, -/
theorem Story.next (h : Story j as a.before) (hj : a.job = j) : Story j (as ++ [a]) a.after := by
  cases hj
  cases a with
  | accept | drop | unload | load =>
      generalize hl : Act.before _ = l at h
      cases h <;> cases hl
      all_goals constructor

variable [DecidableEq J] {s s' : Shop J P}

/-- The job on the plate, if there is one. -/
def Holds (s : Shop J P) (p : P) (o : Option J) : Prop := ∀ j, s.place j = .on p ↔ o = some j

/-- An act at another plate, or at none, leaves the plate as it is. -/
theorem Holds.frame {o : Option J} (h : s.Holds p o) (hs : s.step a = some s') (ha : a.plate ≠ some p) :
    s'.Holds p o := by
  obtain ⟨⟨hbefore, -⟩, hplace⟩ := step_iff.mp hs
  intro j
  rw [hplace, Function.update_apply]
  split
  · next hj =>
      -- neither before the act nor afterwards its job is on this plate
      have hafter : a.after ≠ .on p := by
        intro hc
        cases a <;> cases hc
        exact ha rfl
      have hbefore' : s.place j ≠ .on p := by
        rw [hj, hbefore]
        intro hc
        cases a <;> cases hc
        exact ha rfl
      exact iff_of_false hafter fun ho => hbefore' ((h j).mpr ho)
  · exact h j

end Shop

/-! ## The floor as a shop -/

/-- Where a job is, by its status and the slots. -/
def Job.place (j : Job) (id : JobId) (slot : PrinterID → Option JobId) : Place PrinterID :=
  if j.status ∈ cancellable then .waiting
  else
    match j.assignedPrinter with
    | none => .gone
    | some p => if slot p = some id then .on p else .gone

section floor

variable {f f' : Floor} {id : JobId} {j : Job} {p : PrinterID}

namespace Floor

def slot (f : Floor) (p : PrinterID) : Option JobId := (f.printers p).currentJobId

def place (f : Floor) (id : JobId) : Place PrinterID := (f.job id).elim .unknown fun j => j.place id f.slot

theorem place_row (hj : f.job id = some j) : f.place id = j.place id f.slot := by
  rw [place, hj]
  rfl

theorem slot_of_place (h : f.place id = .on p) : f.slot p = some id := by
  unfold place at h
  cases hj : f.job id with
  | none => rw [hj] at h; cases h
  | some j =>
      rw [hj] at h
      simp only [Option.elim, Job.place] at h
      split at h
      · cases h
      · split at h
        · cases h
        · split at h <;> cases h
          assumption

/-- A floor read as a shop: a job is on the plate of the printer whose slot it owns. -/
def shop (f : Floor) : Shop JobId PrinterID where
  place := f.place
  alone _ _ _ hj hk := Option.some.inj ((slot_of_place hj).symm.trans (slot_of_place hk))

end Floor

theorem Job.place_waiting {slot : PrinterID → Option JobId} (hs : j.status ∈ cancellable) :
    j.place id slot = .waiting := if_pos hs

theorem Job.place_on {slot : PrinterID → Option JobId} (hs : j.status ∉ cancellable)
    (hp : j.assignedPrinter = some p) (hslot : slot p = some id) : j.place id slot = .on p := by
  rw [Job.place, if_neg hs, hp]
  exact if_pos hslot

theorem Job.place_gone {slot : PrinterID → Option JobId} (hs : j.status ∉ cancellable)
    (hslot : ∀ p, slot p ≠ some id) : j.place id slot = .gone := by
  rw [Job.place, if_neg hs]
  split
  · rfl
  · exact if_neg (hslot _)

/-- Of a job that is sent or over only the printer counts. -/
theorem Job.place_congr {j' : Job} {slot : PrinterID → Option JobId}
    (hs : j.status ∈ cancellable ↔ j'.status ∈ cancellable)
    (hp : j.status ∉ cancellable → j'.assignedPrinter = j.assignedPrinter) : j'.place id slot = j.place id slot := by
  by_cases hw : j.status ∈ cancellable
  · rw [Job.place_waiting hw, Job.place_waiting (hs.mp hw)]
  · rw [Job.place, Job.place, if_neg hw, if_neg (fun hc => hw (hs.mpr hc)), hp hw]

/-- A job that was sent cannot be cancelled any more. -/
theorem not_cancellable_of_owning {st : JobStatus} (h : st ∈ owning) : st ∉ cancellable := by
  cases st <;> revert h <;> decide

/-- The owner of a slot is on its printer's plate. -/
theorem FloorInv.on_plate (hI : FloorInv f) (hslot : f.slot p = some id) : f.place id = .on p := by
  obtain ⟨j, hj, hown, hp⟩ := hI.owner p id hslot
  rw [Floor.place_row hj, Job.place_on (not_cancellable_of_owning hown) hp hslot]

/-! ## Moves as acts -/

/-- What a move is in the shop, if it is anything. -/
def Act.work : Act → Option (Shop.Act JobId PrinterID)
  | submit id => some (.accept id)
  | swap id old new => if old ∈ cancellable ∧ new ∉ cancellable then some (.drop id) else none
  | dispatch id p => some (.load id p)
  | release id p | clear p (some id) => some (.unload id p)
  | clear _ none | plan _ | queue _ | confirm _ _ | block _ _ | settle _ _ _ _ | restore _ _ | telemetry _ _
  | progress _ => none

/-- A swap drops its job or is nothing. -/
theorem Act.work_swap {old new : JobStatus} {w : Shop.Act JobId PrinterID} (h : (Act.swap id old new).work = some w) :
    w = .drop id ∧ old ∈ cancellable ∧ new ∉ cancellable := by
  simp only [work] at h
  split at h
  · next hc => exact ⟨(Option.some.inj h).symm, hc⟩
  · cases h

variable {a : Act}

/-- A job stays where it is while its row does and the slots that are its own do. -/
theorem Floor.place_congr (hj : f'.job id = f.job id) (hslot : ∀ q, f'.slot q = some id ↔ f.slot q = some id) :
    f'.place id = f.place id := by
  rw [Floor.place, Floor.place, hj]
  cases f.job id with
  | none => rfl
  | some j => simp only [Option.elim, Job.place, hslot]

/-- Slots change with three acts only. -/
theorem Move.slot_kept (h : Move a f f') (ha : ∀ o, a.slot o = o) : f'.slot = f.slot := by
  funext q
  rcases h.printer_cases q with hsame | ⟨-, hslot, -⟩
  · rw [Floor.slot, hsame, Floor.slot]
  · rw [Floor.slot, hslot, ha, Floor.slot]

/-- A move whose job stays on its side of the dispatch leaves the shop as it is. -/
theorem Move.rests (h : Move a f f') (ha : ∀ o, a.slot o = o) (hsubmit : ∀ id, a ≠ .submit id)
    (hside : ∀ st, a.takes st → (st ∈ cancellable ↔ a.leads st ∈ cancellable))
    (hplan : a = .plan id ∨ a = .queue id → ∀ st, a.takes st → st ∈ cancellable) : f'.place id = f.place id := by
  have hslot := h.slot_kept ha
  cases hj : f.job id with
  | none =>
      have hno := h.no_row (hsubmit id) hj
      rw [Floor.place, Floor.place, hj, hno]
      rfl
  | some j =>
      rcases h.job_cases hj with ⟨-, hsame⟩ | ⟨j', -, hj', htakes, hleads, hticket⟩
      · rw [Floor.place_row hj, Floor.place_row hsame, hslot]
      · rw [Floor.place_row hj, Floor.place_row hj', hslot]
        refine Job.place_congr (by rw [hleads]; exact hside _ htakes) fun hs => ?_
        rcases hticket with hp | hq | hsame
        · exact absurd (hplan (.inl hp) _ htakes) hs
        · exact absurd (hplan (.inr hq) _ htakes) hs
        · exact Job.ticket_assignedPrinter hsame

/-- The owner moves on, and the others stay. -/
theorem Floor.shop_step {w : Shop.Act JobId PrinterID} (hbefore : f.place w.job = w.before)
    (hfree : ∀ p, w.after = .on p → f.slot p = none) (hafter : f'.place w.job = w.after)
    (hothers : ∀ k ≠ w.job, f'.place k = f.place k) : f.shop.step w = some f'.shop := by
  refine Shop.step_iff.mpr ⟨⟨hbefore, fun p hp j hj => ?_⟩, funext fun k => ?_⟩
  · have hslot := Floor.slot_of_place hj
    rw [hfree p hp] at hslot
    cases hslot
  · rw [Function.update_apply]
    split
    · next hk => rw [hk]; exact hafter
    · next hk => exact hothers k hk

/-- No edge leads back to the jobs that can be cancelled. -/
theorem cancellable_source {s t : JobStatus} (ht : t ∈ allowedJobTransitions s) (h : t ∈ cancellable) :
    s ∈ cancellable := by
  cases s <;> cases t <;> revert ht h <;> decide

/-- A job that has not been sent has no slot. -/
theorem FloorInv.unslotted (hI : FloorInv f) (hj : f.job id = some j) (hs : j.status ∈ cancellable) :
    f.slot p ≠ some id := by
  intro hslot
  obtain ⟨i, hi, hown, -⟩ := hI.owner p id hslot
  cases Option.some.inj (hj.symm.trans hi)
  exact not_cancellable_of_owning hown hs

/-- Only the slot of printer `p` was given up, by `id`. -/
theorem Floor.unload_step (hI : FloorInv f) (hslot : f.slot p = some id)
    (hslots : ∀ q, f'.slot q = if q = p then none else f.slot q) (hjobs : ∀ k ≠ id, f'.job k = f.job k)
    (hj : f'.job id = some j) (hs : j.status ∉ cancellable) : f.shop.step (.unload id p) = some f'.shop := by
  have hone : ∀ q, f.slot q = some id → q = p := by
    intro q hq
    have h := hI.on_plate hq
    rw [hI.on_plate hslot] at h
    exact (Place.on.inj h).symm
  refine shop_step (hI.on_plate hslot) nofun ?_ fun k hk => place_congr (hjobs k hk) fun q => ?_
  · refine (place_row hj).trans (Job.place_gone hs fun q hq => ?_)
    rw [hslots] at hq
    split at hq
    · cases hq
    · next hne => exact hne (hone q hq)
  · rw [hslots]
    split
    · next hq =>
        rw [hq, hslot]
        exact iff_of_false nofun fun hc => hk (Option.some.inj hc).symm
    · rfl

/-- **Every move is one act of the shop or none.** -/
theorem Move.works (h : Move a f f') (hI : FloorInv f) :
    a.work = none ∧ f'.shop = f.shop ∨ ∃ w, a.work = some w ∧ f.shop.step w = some f'.shop := by
  have hm := h
  -- a move that takes no job out of the queue and changes no slot is no act of the shop
  have rests : (∀ o, a.slot o = o) → (∀ id, a ≠ .submit id) →
      (∀ st, a.takes st → (st ∈ cancellable ↔ a.leads st ∈ cancellable)) →
      (∀ id, a = .plan id ∨ a = .queue id → ∀ st, a.takes st → st ∈ cancellable) → f'.shop = f.shop :=
    fun hslot hsubmit hside hplan => Shop.ext (funext fun id => hm.rests hslot hsubmit hside (hplan id))
  -- an act concerns one job, and so does the move
  have others : ∀ {id}, a.target = some id → ∀ k ≠ id, f'.job k = f.job k := by
    intro id hid k hk
    refine hm.job_frame fun hc => hk ?_
    rw [hid] at hc
    exact (Option.some.inj hc).symm
  cases h with
  | @submit f id j hnew hs =>
      have hunknown : f.place id = .unknown := by
        rw [Floor.place, hnew]
        rfl
      refine .inr ⟨.accept id, rfl, Floor.shop_step hunknown nofun ?_ fun k hk => ?_⟩
      · exact (Floor.place_row (Floor.job_setJob_self ..)).trans (Job.place_waiting (by rw [hs]; decide))
      · exact Floor.place_congr (others rfl k hk) fun _ => Iff.rfl
  | @swap f id j now new err rej hj hedge hnew =>
      by_cases hdrop : j.status ∈ cancellable ∧ new ∉ cancellable
      · refine .inr ⟨.drop id, if_pos hdrop, Floor.shop_step ?_ nofun ?_ fun k hk => ?_⟩
        · exact (Floor.place_row hj).trans (Job.place_waiting hdrop.1)
        · exact (Floor.place_row (Floor.job_setJob_self ..)).trans
            (Job.place_gone hdrop.2 fun p => hI.unslotted hj hdrop.1)
        · exact Floor.place_congr (others rfl k hk) fun _ => Iff.rfl
      · refine .inl ⟨if_neg hdrop, rests (fun _ => rfl) nofun ?_ nofun⟩
        rintro st rfl
        exact ⟨fun hw => not_not.mp fun hc => hdrop ⟨hw, hc⟩, cancellable_source hedge⟩
  | plan | queue =>
      refine .inl ⟨rfl, rests (fun _ => rfl) nofun ?_ ?_⟩
      · rintro st rfl
        simp [Act.leads, cancellable]
      · rintro k - st rfl
        decide
  | @dispatch f id j now p hj hs ha hfree =>
      refine .inr ⟨.load id p, rfl, Floor.shop_step ?_ ?_ ?_ fun k hk => ?_⟩
      · exact (Floor.place_row hj).trans (Job.place_waiting (by rw [hs]; decide))
      · rintro q ⟨⟩
        exact hfree.2.2
      · refine (Floor.place_row (j := j.transitioned now .uploading none none) ?_).trans (Job.place_on ?_ ha ?_)
        · exact Floor.job_setJob_self ..
        · simp [cancellable]
        · simp [Floor.slot, Shop.Act.job]
      · refine Floor.place_congr (others rfl k hk) fun q => ?_
        simp only [Floor.slot, Floor.printers_setPrinter, Floor.printers_setJob]
        split
        · next hq =>
            rw [hq, hfree.2.2]
            exact iff_of_false (fun hc => hk (Option.some.inj hc).symm) nofun
        · rfl
  | confirm =>
      refine .inl ⟨rfl, rests (fun _ => rfl) nofun ?_ nofun⟩
      rintro st rfl
      simp [Act.leads, cancellable]
  | @settle f id j now p new err status progress hj hs hedge hnew hslot =>
      refine .inl ⟨rfl, rests (fun _ => rfl) nofun ?_ nofun⟩
      intro st (hst : st ∈ atPrinter)
      have hend : new ∉ cancellable := by
        revert hnew
        cases new <;> decide
      exact iff_of_false (not_cancellable_of_owning (owning_of_atPrinter hst)) hend
  | block | restore | telemetry | progress =>
      exact .inl ⟨rfl, rests (fun _ => rfl) nofun (fun _ _ => Iff.rfl) nofun⟩
  | @release f id j now p hj hs hslot =>
      refine .inr ⟨.unload id p, rfl, Floor.unload_step hI hslot (fun q => ?_) (fun k _ => rfl) hj (by rw [hs]; decide)⟩
      simp only [Floor.slot, Floor.printers_setPrinter]
      split <;> rfl
  | @clearOwned f id j now p msg hplate hslot hj hs =>
      refine .inr ⟨.unload id p, rfl, Floor.unload_step hI hslot (fun q => ?_) (others rfl)
        (Floor.job_setJob_self ..) ?_⟩
      · simp only [Floor.slot, Floor.printers_setPrinter]
        split <;> rfl
      · have hown := (hI.owner_row hslot hj).1
        rw [Job.inspected_status]
        revert hown
        cases j.status <;> decide
  | @clearEmpty f now p hplate hslot =>
      refine .inl ⟨rfl, Shop.ext (funext fun k => Floor.place_congr rfl fun q => ?_)⟩
      simp only [Floor.slot, Floor.printers_setPrinter]
      split
      · next hq => rw [hq, hslot]
      · rfl

end floor

end BambuBabu
