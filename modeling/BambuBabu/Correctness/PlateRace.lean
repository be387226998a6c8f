import BambuBabu.Correctness.Lifecycle
import BambuBabu.Service.Threads

/-!
# `Correctness.PlateRace` — a plate is cleared under the next job

`mark_plate_cleared` reads the printer row and the job that owns the slot, checks both, and then writes. The
job is swapped only if it is quarantined; the printer row is updated by its key alone. So when another request
clears the plate meanwhile and the queue loop gives the slot to the next job, the writes of the first request
take the slot away from a job that it never looked at.

* `Clearing` — one request among any other transactions, from its first SELECT to its commit.
* `KeepsOther` — another job than the one that the request read keeps the slot.
* `plate_clearance` — **the theorem**: it does exactly if no transaction hands the slot over while the request
  stands between its SELECT and its commit.
* `plate_race` — the failing interleaving.
-/

namespace BambuBabu

open Storage Runs

section program

variable {cfg : Settings} {now : Time} {p : PrinterID} {d : Db} {v : View Db}

/-! ## What the request writes -/

/-- A change that keeps every slot. -/
abbrev KeepsSlots : Db → Db → Prop := Writes True fun _ _ => True

/-- The slot of `p` after a flush of NULL over the owner that was loaded. -/
def Freed (p : PrinterID) (loaded : Option JobId) (b d : Db) : Prop :=
  (d.printers p).currentJobId = ormColumn loaded none (b.printers p).currentJobId

/-- The rest of the request, after its SELECT of the printer row. -/
def clearInspected (now : Time) (p : PrinterID) (state : PrinterState) : Tx String :=
  if state.plateCleared then pure alreadyCleared
  else if state.status = .printing ∨ state.status = .paused then
    throw (.httpException 409 "Cannot clear the plate while the printer is active")
  else
    match state.currentJobId with
    | none => clearPlate now p state none
    | some id => do
      match ← getJob id with
      | none => clearPlate now p state none
      | some job =>
        if job.status = .printing ∨ job.status = .starting then
          throw (.httpException 409 "Cannot clear the plate while the job is active")
        else clearPlate now p state (some (id, job))

/-- The first statement of the request is that SELECT. -/
theorem markPlateCleared_read (hlive : cfg.livePrinterEnabled p = true) :
    (Request.markPlateCleared cfg now p).program
      = .read fun d => (clearInspected now p (d.printers p)).void := by
  have hon : ¬ cfg.livePrinterEnabled p = false := by
    rw [hlive]
    decide
  show (markPlateCleared cfg now p).void = _
  unfold markPlateCleared
  rw [if_neg hon]
  rfl

theorem keepsSlots_trans (a b c : Db) (h : KeepsSlots a b) (h' : KeepsSlots b c) : KeepsSlots a c :=
  Writes.trans (fun _ _ _ _ _ => trivial) a b c h h'

theorem resolveAttention_within {id : JobId} {job : Job} :
    (resolveAttention now id job).Within KeepsSlots Txn.anyOutcome :=
  Txn.Within.ite (fun _ => transition_within fun _ _ => trivial) fun _ => trivial

theorem setPlateCleared_within {state : PrinterState} :
    (setPlateCleared p state).Within KeepsSlots
      fun r => ∀ st, r = .ok st → st.currentJobId = state.currentJobId := by
  refine Txn.Within.ite (fun _ st hst => ?_) fun _ => ⟨fun d => ?_, fun _ st hst => ?_⟩
  · cases hst
    rfl
  · exact Writes.modifyPrinter d (fun st => if_pos rfl) fun hb => absurd trivial hb
  · cases hst
    rfl

theorem updateJobPlateCleared_within {id : JobId} {job : Job} :
    (updateJobPlateCleared now id job).Within KeepsSlots Txn.anyOutcome :=
  Txn.Within.ite (fun _ => trivial) fun _ => ⟨fun d => Writes.modifyJob d fun _ => .inl rfl, fun _ => trivial⟩

/-- What a program of the request ensures, whatever the others commit. -/
abbrev Unrelied {α : Type} (P : α → View Db → Prop) (t : Tx α) (v : View Db) : Prop :=
  t.Ensures (fun _ _ => True) P v

/-- The next UPDATE finds the slot freed. -/
def FreedNext (p : PrinterID) (loaded : Option JobId) (v : View Db) : Prop :=
  ∀ b d, v.Updates (fun _ _ => True) b d → Freed p loaded b d

/-- **The last flush** writes NULL over the owner that was loaded, if there was one. -/
theorem freeSlot_ensures {state : PrinterState} (hv : v.Sat KeepsSlots) :
    Unrelied (fun _ v' => FreedNext p state.currentJobId v')
      (updatePrinterState now p state fun st => { st with currentJobId := none }) v := by
  have hkept : ∀ {b d}, v.Updates (fun _ _ => True) b d →
      (d.printers p).currentJobId = (b.printers p).currentJobId := by
    intro b d hu
    exact (hu.sat Writes.refl hv).slot p
  refine .ite (fun heq => .pure fun b d hu => ?_) fun _ => ?_
  · have hnone : state.currentJobId = none := (congrArg PrinterState.currentJobId heq).symm
    show (d.printers p).currentJobId = ormColumn _ none _
    rw [hnone, ormColumn, if_pos rfl]
    exact hkept hu
  · refine .bind (P := fun _ v' => FreedNext p state.currentJobId v') (.exec fun b d hu => ?_)
      fun _ _ h => .pure h
    rintro b' d' ⟨⟩
    show (Db.printers (d.modifyPrinter p _) p).currentJobId = _
    rw [Db.printers_modifyPrinter, if_pos rfl]
    show ormColumn state.currentJobId none (d.printers p).currentJobId = _
    rw [hkept hu]

theorem releasePlate_frees {state : PrinterState} {current : Option (JobId × Job)} (hv : v.Sat KeepsSlots) :
    Unrelied (fun _ v' => FreedNext p state.currentJobId v') (releasePlate now p state current) v := by
  obtain _ | ⟨id, job⟩ := current
  · refine .bind (setPlateCleared_within.ensures Writes.refl keepsSlots_trans hv) fun st v₁ hv₁ => ?_
    rw [← hv₁.1 st rfl]
    exact freeSlot_ensures hv₁.2
  · refine .bind (resolveAttention_within.ensures Writes.refl keepsSlots_trans hv) fun job' v₁ hv₁ => ?_
    refine .bind (setPlateCleared_within.ensures Writes.refl keepsSlots_trans hv₁.2) fun st v₂ hv₂ => ?_
    refine .bind (updateJobPlateCleared_within.ensures Writes.refl keepsSlots_trans hv₂.2) fun job'' v₃ hv₃ => ?_
    rw [← hv₂.1 st rfl]
    exact freeSlot_ensures hv₃.2

/-- **What the request commits**: nothing, or NULL over the owner that it read. -/
theorem clearInspected_commits {state : PrinterState} :
    (clearInspected now p state).void.Commits (fun _ _ => True)
      (fun b d => d = b ∨ Freed p state.currentJobId b d) (.reading d) := by
  have hclear : ∀ (v : View Db) (current : Option (JobId × Job)), v.Sat KeepsSlots →
      Unrelied (fun _ v' => v'.Sat fun b d => d = b ∨ Freed p state.currentJobId b d)
        (clearPlate now p state current) v := by
    intro v current hv
    refine .bind (releasePlate_frees hv) fun _ v₁ hv₁ => ?_
    refine .bind (.exec fun b d hu => ?_) fun _ _ h => .pure h
    exact Or.inr (hv₁ b d hu)
  refine Txn.Ensures.void ?_
  refine .ite (fun _ => .pure trivial) fun _ => .ite (fun _ => .throw) fun _ => ?_
  split
  · exact hclear (.reading d) _ trivial
  · next id hid =>
      refine .bind (.select (P := fun _ v' => v'.Sat KeepsSlots) fun v' d' hs => hs.sat trivial) fun job v₁ hv₁ => ?_
      cases job with
      | none => exact hclear v₁ _ hv₁
      | some job => exact .ite (fun _ => .throw) fun _ => hclear v₁ _ hv₁

end program

/-! ## One request among any others -/

section request

variable {ι : Type} [DecidableEq ι]

/-- The owner of the slot of `p`, as far as it is committed. -/
abbrev slotOwner (p : PrinterID) (s : Sessions ι Db Exc) : Option JobId := (s.db.printers p).currentJobId

/-- The event is not a statement of thread `i`, and starts no transaction of it. -/
def Elsewhere (i : ι) (e : ClientEvent ι Request) : Prop := e ≠ .statement i ∧ ∀ r, e ≠ .request i r

/-- Thread `i` clears the plate of `p`: the request is issued in `s₀`, its SELECT of the printer row is executed
    in `s₁`, and its writes are committed by the step from `s₃` to `s₄`. The other threads run any transactions
    all the time. -/
structure Clearing (i : ι) (cfg : Settings) (now : Time) (p : PrinterID) (s₀ s₁ s₂ s₃ s₄ : Sessions ι Db Exc) :
    Prop where
  reach : (floorClients ι).Reach always s₀
  issue : ∃ s, (floorClients ι).step s₀ (.request i (.markPlateCleared cfg now p)) = some s ∧
    (floorClients ι).Path (fun _ => Elsewhere i) s s₁
  select : (floorClients ι).step s₁ (.statement i) = some s₂
  run : (floorClients ι).Path (fun _ e => ∀ r, e ≠ .request i r) s₂ s₃
  commit : (floorClients ι).step s₃ (.statement i) = some s₄
  writes : s₄.db ≠ s₃.db

/-- Another job than the one the request read keeps the slot. -/
def KeepsOther (p : PrinterID) (s₁ s₃ s₄ : Sessions ι Db Exc) : Prop :=
  ∀ y, slotOwner p s₃ = some y → slotOwner p s₁ ≠ some y → slotOwner p s₄ = some y

/-- After the request has read an owner, a transaction hands the slot over to another job, which keeps it until
    the request commits. -/
def HandedOver (i : ι) (p : PrinterID) (s₁ s₂ s₃ : Sessions ι Db Exc) : Prop :=
  ∃ x y, slotOwner p s₁ = some x ∧ x ≠ y ∧ slotOwner p s₃ = some y ∧ ∃ s e s',
    (floorClients ι).Path (fun _ e => ∀ r, e ≠ .request i r) s₂ s ∧ slotOwner p s ≠ some y ∧
      (floorClients ι).step s e = some s' ∧
      (floorClients ι).Path (fun s e => (∀ r, e ≠ .request i r) ∧ slotOwner p s = some y) s' s₃

variable {i : ι} {cfg : Settings} {now : Time} {p : PrinterID} {s s' s₀ s₁ s₂ s₃ s₄ : Sessions ι Db Exc}
  {e : ClientEvent ι Request}

/-- A thread that has executed no statement of its transaction: it holds no lock. -/
def Issued (i : ι) (t : Tx Unit) (s : Sessions ι Db Exc) : Prop :=
  s.holds i = false ∧ (s.proc i = .ended ∨ s.proc i = .tx t fun _ => .ended)

/-- The steps of the others leave it there, or a crash ends it. -/
theorem Issued.step {t : Tx Unit} (h : Issued i t s) (hs : (floorClients ι).step s e = some s')
    (he : Elsewhere i e) : Issued i t s' := by
  obtain ⟨hholds, hproc⟩ := h
  cases e with
  | statement k =>
      have hk : i ≠ k := by
        rintro rfl
        exact he.1 rfl
      exact ⟨Sessions.step_holds hs hk hholds, by rw [Sessions.step_proc hs hk]; exact hproc⟩
  | request k r =>
      have hk : i ≠ k := by
        rintro rfl
        exact he.2 r rfl
      cases hp : s.proc k with
      | tx t next =>
          simp only [floorClients, clients, hp] at hs
          cases hs
      | ended =>
          simp only [floorClients, clients, hp] at hs
          cases hs
          refine ⟨hholds, ?_⟩
          show Function.update s.proc k _ i = _ ∨ Function.update s.proc k _ i = _
          rw [Function.update_of_ne hk]
          exact hproc
  | crash =>
      cases hs
      exact ⟨rfl, .inl rfl⟩

/-- What a run keeps, if every step that meets `ok` does. -/
theorem keeps_along {ok : Sessions ι Db Exc → ClientEvent ι Request → Prop} {P : Sessions ι Db Exc → Prop}
    (hr : (floorClients ι).Reach always s) (hp : (floorClients ι).Path ok s s') (hP : P s)
    (hstep : ∀ a e b, P a → ok a e → (floorClients ι).step a e = some b → P b) : P s' := by
  have hpath : (floorClients ι).Path (fun a e => always a e ∧ ¬ ¬ ok a e) s s' :=
    hp.mono fun a e hok => ⟨trivial, not_not_intro hok⟩
  refine hpath.keeps_until hr hP fun a e b _ ha _ hok hs => ?_
  exact hstep a e b ha (not_not.mp hok) hs

namespace Clearing

/-- Before its first statement the request holds nothing. -/
theorem issued (h : Clearing i cfg now p s₀ s₁ s₂ s₃ s₄) :
    (floorClients ι).Reach always s₁ ∧ Issued i (Request.markPlateCleared cfg now p).program s₁ := by
  obtain ⟨s, hs, hwait⟩ := h.issue
  have hr : (floorClients ι).Reach always s := h.reach.step trivial hs
  refine ⟨hr.path (hwait.mono fun _ _ _ => trivial), keeps_along hr hwait ?_ fun a e b ha he hab => ha.step hab he⟩
  obtain ⟨c, hA, -⟩ := keeps_of_reach h.reach
  cases hp : s₀.proc i with
  | tx t next =>
      simp only [floorClients, clients, hp] at hs
      cases hs
  | ended =>
      simp only [floorClients, clients, hp] at hs
      cases hs
      exact ⟨hA.idle hp, .inr (Function.update_self ..)⟩

/-- **After its SELECT** the request can only write NULL over the owner that it has read. -/
theorem binds (h : Clearing i cfg now p s₀ s₁ s₂ s₃ s₄) :
    s₂.db = s₁.db ∧ s₂.Binds (fun b d => d = b ∨ Freed p (slotOwner p s₁) b d) i := by
  obtain ⟨hr, hholds, hproc⟩ := h.issued
  have hselect : s₁.step i = some s₂ := h.select
  refine ⟨Sessions.step_db hselect hholds, ?_⟩
  obtain ⟨c, hA, -⟩ := keeps_of_reach hr
  obtain ⟨c₂, hA₂, -⟩ := keeps_of_reach (hr.step trivial h.select)
  unfold Sessions.step at hselect
  rcases hproc with hp | hp
  · rw [hp] at hselect
    cases hselect
  · rw [hp] at hselect
    by_cases hlive : cfg.livePrinterEnabled p = true
    · rw [markPlateCleared_read hlive, Sessions.sees_of_not_holds hholds] at hselect
      cases hselect
      refine ⟨_, hA.goto hholds _, ?_⟩
      show (Function.update c.proc i _ i).Keeps _ _ _
      rw [Function.update_self]
      exact ⟨⟨s₁.db, trivial, clearInspected_commits⟩, fun _ => rfl⟩
    · -- the request is refused before it reads anything
      have hoff : cfg.livePrinterEnabled p = false := by simpa using hlive
      have hprog : ∃ exc, (Request.markPlateCleared cfg now p).program = .fail exc := by
        show ∃ exc, (markPlateCleared cfg now p).void = .fail exc
        unfold markPlateCleared
        rw [if_pos hoff]
        exact ⟨_, rfl⟩
      obtain ⟨exc, hexc⟩ := hprog
      rw [hexc] at hselect
      cases hselect
      exact .ended hA₂ (Function.update_self ..)

/-- **What the commit does to the slot.** -/
theorem freed (h : Clearing i cfg now p s₀ s₁ s₂ s₃ s₄) :
    slotOwner p s₄ = ormColumn (slotOwner p s₁) none (slotOwner p s₃) := by
  obtain ⟨-, hbinds⟩ := h.binds
  have hrefl : ∀ a : Db, a = a ∨ Freed p (slotOwner p s₁) a a := fun _ => .inl rfl
  have hr₂ : (floorClients ι).Reach always s₂ := h.issued.1.step trivial h.select
  have hbinds₃ := keeps_along hr₂ h.run hbinds fun a e b ha he hab => (ha.step hrefl hab he).1
  rcases (hbinds₃.step hrefl h.commit fun r hc => by cases hc).2 rfl with hsame | hfreed
  · exact absurd hsame h.writes
  · exact hfreed

end Clearing

/-- **Plate clearance frees only what it inspected**, exactly if no transaction hands the slot over in
    between. -/
theorem plate_clearance (h : Clearing i cfg now p s₀ s₁ s₂ s₃ s₄) :
    KeepsOther p s₁ s₃ s₄ ↔ ¬ HandedOver i p s₁ s₂ s₃ := by
  have hfreed := h.freed
  constructor
  · rintro hkeeps ⟨x, y, hx, hne, hy, -⟩
    have hkept : slotOwner p s₄ = some y := by
      refine hkeeps y hy ?_
      rw [hx]
      exact fun hc => hne (Option.some.inj hc)
    rw [hx, hkept, ormColumn, if_neg (by simp)] at hfreed
    cases hfreed
  · intro hno y hy hne
    cases hx : slotOwner p s₁ with
    | none =>
        rw [hx, ormColumn, if_pos rfl] at hfreed
        exact hfreed.trans hy
    | some x =>
        have hdb := h.binds.1
        have hbefore : ¬ slotOwner p s₂ = some y := by
          show ¬ (s₂.db.printers p).currentJobId = some y
          rw [hdb]
          exact hne
        obtain ⟨s, e, s', hpre, hnot, -, hs, hrest⟩ :=
          h.run.established (P := fun s => slotOwner p s = some y) hbefore hy
        refine absurd ⟨x, y, hx, ?_, hy, s, e, s', hpre, hnot, hs, hrest⟩ hno
        rintro rfl
        exact hne hx

end request

/-! ## Concrete interleavings -/

/-- Thread `true` runs a transaction of `n` statements while the other one waits. -/
def solo (r : Request) (n : Nat) : List (ClientEvent Bool Request) :=
  .request true r :: List.replicate n (.statement true)

/-- Job `id` is uploaded, analysed and sliced for the P1S. -/
def soloQueued (id : JobId) : List (ClientEvent Bool Request) :=
  solo (.commitUpload Script.p1sOnly 0 id ⟨"Ada", "ada@example.org", none, "part.stl"⟩) 3 ++
    solo (.startAnalysis 0 id) 4 ++ solo (.planSlice 0 id ⟨12, 1, 0, ⟨10, 10, 10⟩, 1⟩ (some .p1s, none)) 6 ++
    solo (.storeSlice 0 id .p1s (sliceOutput "data/sliced" (uploadPath Script.p1sOnly id) .p1s) (some 30)) 6

/-- The snapshot of a connected printer. -/
def soloReport (g : GcodeState) : Request :=
  .onStatusUpdate 0 .p1s { status := .idle, gcodeState := g, progress := 0, nozzleTemp := 0, bedTemp := 0,
                           connected := true, lastSeen := none }

/-- Two jobs are queued; the first is printed, and its plate waits to be cleared. -/
def soloFinished : List (ClientEvent Bool Request) :=
  soloQueued "a" ++ soloQueued "b" ++ solo (soloReport .idle) 3 ++ solo (.tryDispatch Script.p1sOnly 0 .p1s) 7 ++
    solo (.requestStart 0 "a" .p1s) 4 ++ solo (.confirmStart 0 "a" .p1s) 7 ++ solo (soloReport .finish) 7

/-- The check that thread `false` starts no other request. -/
def sameRequest (_ : Sessions Bool Db Exc) : ClientEvent Bool Request → Bool
  | .request i _ => i
  | _ => true

theorem sameRequest_ok (s : Sessions Bool Db Exc) (e : ClientEvent Bool Request) (h : sameRequest s e = true) :
    ∀ r, e ≠ .request false r := by
  rintro r rfl
  cases h

/-- The check that thread `false` clears the plate of the P1S in a run where `after` happens between its SELECT
    and its commit, with property `q` of the owners at both times and after it. -/
def clearRun (after : List (ClientEvent Bool Request)) (q : Option JobId → Option JobId → Option JobId → Bool) :
    Bool :=
  ((floorClients Bool).run Machine.anyStep ⟨Db.seeded, none, fun _ => .ended⟩ soloFinished).any fun s₀ =>
    ((floorClients Bool).step s₀ (.request false (.markPlateCleared Script.p1sOnly 0 .p1s))).any fun s₁ =>
      ((floorClients Bool).step s₁ (.statement false)).any fun s₂ =>
        ((floorClients Bool).run sameRequest s₂ after).any fun s₃ =>
          ((floorClients Bool).step s₃ (.statement false)).any fun s₄ =>
            decide (s₄.db.logs.length ≠ s₃.db.logs.length) &&
              q (slotOwner .p1s s₁) (slotOwner .p1s s₃) (slotOwner .p1s s₄)

theorem clearing_of_run (after : List (ClientEvent Bool Request))
    (q : Option JobId → Option JobId → Option JobId → Bool) (h : clearRun after q = true) :
    ∃ s₀ s₁ s₂ s₃ s₄, Clearing false Script.p1sOnly 0 .p1s s₀ s₁ s₂ s₃ s₄ ∧
      q (slotOwner .p1s s₁) (slotOwner .p1s s₃) (slotOwner .p1s s₄) = true := by
  unfold clearRun at h
  obtain ⟨s₀, h₀, h⟩ := (Option.any_eq_true _ _).mp h
  obtain ⟨s₁, h₁, h⟩ := (Option.any_eq_true _ _).mp h
  obtain ⟨s₂, h₂, h⟩ := (Option.any_eq_true _ _).mp h
  obtain ⟨s₃, h₃, h⟩ := (Option.any_eq_true _ _).mp h
  obtain ⟨s₄, h₄, h⟩ := (Option.any_eq_true _ _).mp h
  obtain ⟨hlogs, hq⟩ := Bool.and_eq_true_iff.mp h
  have hreach : (floorClients Bool).Reach always s₀ :=
    ⟨_, ⟨rfl, rfl, fun _ => rfl⟩, Machine.path_of_run Machine.always_of_anyStep h₀⟩
  refine ⟨s₀, s₁, s₂, s₃, s₄, ⟨hreach, ⟨s₁, h₁, .refl⟩, h₂, ?_, h₄, fun hsame => ?_⟩, hq⟩
  · exact Machine.path_of_run sameRequest_ok h₃
  · exact of_decide_eq_true hlogs (congrArg (fun d => d.logs.length) hsame)

/-- A report comes in while the request stands before its writes. -/
theorem plate_clearance_report : ∃ s₀ s₁ s₂ s₃ s₄, Clearing false Script.p1sOnly 0 .p1s s₀ s₁ s₂ s₃ s₄ ∧
    slotOwner .p1s s₃ = some "a" ∧ slotOwner .p1s s₄ = none ∧ KeepsOther .p1s s₁ s₃ s₄ := by
  obtain ⟨s₀, s₁, s₂, s₃, s₄, h, hq⟩ := clearing_of_run
    ([.statement false] ++ solo (soloReport .idle) 3 ++ List.replicate 4 (.statement false))
    (fun before own now => decide (before = some "a" ∧ own = some "a" ∧ now = none)) (by decide +kernel)
  obtain ⟨hbefore, hown, hnow⟩ := of_decide_eq_true hq
  refine ⟨s₀, s₁, s₂, s₃, s₄, h, hown, hnow, (plate_clearance h).mpr ?_⟩
  rintro ⟨x, y, hx, hne, hy, -⟩
  rw [hbefore] at hx
  rw [hown] at hy
  exact hne (Option.some.inj (hx.symm.trans hy))

/-- **The race**: the plate is cleared and the next job dispatched between the SELECT of a second request and
    its writes, and that job loses the slot. -/
theorem plate_race : ¬ ∀ s₀ s₁ s₂ s₃ s₄ : Sessions Bool Db Exc,
    Clearing false Script.p1sOnly 0 .p1s s₀ s₁ s₂ s₃ s₄ → KeepsOther .p1s s₁ s₃ s₄ := by
  intro hclaim
  obtain ⟨s₀, s₁, s₂, s₃, s₄, h, hq⟩ := clearing_of_run
    ([.statement false] ++ solo (.markPlateCleared Script.p1sOnly 0 .p1s) 7 ++
      solo (.tryDispatch Script.p1sOnly 0 .p1s) 7 ++ List.replicate 4 (.statement false))
    (fun before own now => decide (before = some "a" ∧ own = some "b" ∧ now = none)) (by decide +kernel)
  obtain ⟨hbefore, hown, hnow⟩ := of_decide_eq_true hq
  have hkept := hclaim s₀ s₁ s₂ s₃ s₄ h "b" hown (by rw [hbefore]; decide)
  rw [hnow] at hkept
  cases hkept

end BambuBabu
