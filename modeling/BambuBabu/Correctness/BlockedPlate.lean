import BambuBabu.Service.Requests
import BambuBabu.Service.Workers

/-!
# `Correctness.BlockedPlate` — does a print block its plate?

Two threads move a job from STARTING to PRINTING, and only the dispatch worker blocks the plate; the status
callback leaves that to the worker. But a worker that missed the acknowledgement, or waited in vain, only
quarantines a job that is STARTING: when the callback was faster it returns, and the plate of the running print
stays marked as clear. So does the plate of a print that a callback confirms after a crash.

* `unblocked_print` — the failing run.
* `QuarantineBlocked` — the plate under a quarantined job is blocked, in every run.
* `PrintBlocked` — a print that no worker cares for owns its slot, and its plate is blocked; `guardsPlate` — the
  condition on a step.
* `print_blocks_plate` — **the theorem**: that holds in every run whose steps meet the condition, and the first step
  that does not meet it breaks it.
-/

namespace BambuBabu

open Storage Runs

/-- A dispatch worker of the job is outstanding. -/
def Outstanding (s : Service) (id : JobId) : Prop := ∃ h ∈ s.handoffs, h.id = id

/-- A printing job that no dispatch worker is left to care for owns the slot of its printer, and the plate is
    blocked. -/
def PrintBlocked (s : Service) : Prop :=
  ∀ id j p, s.db.job id = some j → j.status = .printing → j.assignedPrinter = some p → ¬ Outstanding s id →
    (s.db.printers p).currentJobId = some id ∧ (s.db.printers p).plateCleared = false

/-- What may not happen to a job whose plate is marked as clear: while it is PRINTING, a crash, or the handler
    of an ambiguous start; while it is STARTING without a worker, a callback that leaves it PRINTING. -/
def guardsPlate (s : Service) (e : Event) : Prop :=
  ∀ id j p, s.db.job id = some j → j.assignedPrinter = some p → (s.db.printers p).plateCleared = true →
    (j.status = .printing → e ≠ .crash ∧ ∀ i ev h exc, e = .handoff i ev → s.handoffs[i]? = some h →
      h.id = id → h.pc ≠ .ambiguous exc) ∧
    (j.status = .starting → ¬ Outstanding s id → ∀ i c snap, e = .callback i → s.pending[i]? = some (p, c) →
      c.payload = some snap → snap.outcome .starting ≠ .printing)

/-! ## Quarantined jobs -/

/-- The plate under a quarantined job is blocked. -/
def QuarantineBlocked (f : Floor) : Prop :=
  ∀ id j p, f.job id = some j → j.status = .attention → j.assignedPrinter = some p →
    (f.printers p).plateCleared = false

section moves

variable {a : Act} {f f' : Floor} {id : JobId} {j j' : Job} {p : PrinterID}

/-- A plate is only marked as clear for a printer that no job is at. -/
theorem Move.plate_kept (hm : Move a f f') (hslot : (f'.printers p).currentJobId = some id)
    (hplate : (f.printers p).plateCleared = false) : (f'.printers p).plateCleared = false := by
  rcases hm.printer_cases p with hsame | ⟨-, hslot', hplate', -⟩
  · rw [hsame]
    exact hplate
  · rw [hplate']
    rw [hslot'] at hslot
    cases a with
    | release => cases hslot
    | clear => cases hslot
    | _ => first | rfl | exact hplate

/-- Only settling quarantines a job. -/
theorem Move.swapped {old new : JobStatus} (hm : Move (.swap id old new) f f') : new ≠ .attention := by
  cases hm with
  | swap _ _ hnew =>
      rintro rfl
      exact hnew (by decide)

theorem Move.settled {new : JobStatus} {st : PrinterStatus} (hm : Move (.settle id p new st) f f') :
    (f.printers p).currentJobId = some id ∧ (f'.printers p).plateCleared = false := by
  cases hm with
  | settle _ _ _ _ _ hslot =>
      refine ⟨hslot, ?_⟩
      rw [Floor.printers_setPrinter, if_pos rfl]
      rfl

theorem Move.blocked (hm : Move (.block id p) f f') : (f'.printers p).plateCleared = false := by
  cases hm with
  | block => rw [Floor.printers_setPrinter, if_pos rfl]

theorem Move.confirmed (hm : Move (.confirm id p) f f') : (f'.printers p).plateCleared = false := by
  cases hm with
  | confirm => rw [Floor.printers_setPrinter, if_pos rfl]

/-- A move that quarantines a job blocks its plate. -/
theorem Move.quarantines (hm : Move a f f') (hI : FloorInv f) (hj : f.job id = some j)
    (hj' : f'.job id = some j') (hs : j.status ≠ .attention) (hs' : j'.status = .attention)
    (hp : j'.assignedPrinter = some p) : (f'.printers p).plateCleared = false := by
  rcases hm.job_cases hj with ⟨-, hsame⟩ | ⟨i, htgt, hi, -, hl, hticket⟩
  · cases Option.some.inj (hj'.symm.trans hsame)
    exact absurd hs' hs
  · cases Option.some.inj (hj'.symm.trans hi)
    rw [hs'] at hl
    cases a with
    | settle k q new st =>
        cases Option.some.inj htgt
        obtain ⟨hslot, hplate⟩ := hm.settled
        have htk : j'.ticket = j.ticket := (hticket.resolve_left (by simp)).resolve_left (by simp)
        rw [Job.ticket_assignedPrinter htk, (hI.owner_row hslot hj).2] at hp
        cases hp
        exact hplate
    | swap => exact absurd hl.symm hm.swapped
    | clear q owner =>
        rw [Act.leads, if_neg hs] at hl
        exact absurd hl.symm hs
    | progress => exact absurd hl.symm hs
    | block | restore | release | telemetry => cases htgt
    | submit | plan | queue | dispatch | confirm => cases hl

/-- **Every move keeps it.** -/
theorem Move.quarantine_blocked (hm : Move a f f') (hI : FloorInv f) (hQ : QuarantineBlocked f) :
    QuarantineBlocked f' := by
  intro id j' p hj' hs hp
  have hslot := (hm.inv hI).slot_eq hj' (by rw [hs]; decide) hp
  cases hj : f.job id with
  | none =>
      rw [hm.new_row hj hj'] at hs
      cases hs
  | some j =>
      by_cases hst : j.status = .attention
      · refine hm.plate_kept hslot (hQ id j p hj hst ?_)
        obtain ⟨i, hi, -, ht⟩ := hm.sent hj (by rw [hst]; decide)
        cases Option.some.inj (hj'.symm.trans hi)
        rw [← Job.ticket_assignedPrinter ht, hp]
      · exact hm.quarantines hI hj hj' hst hs hp

end moves

variable {s s' : Service} {e : Event} {id : JobId} {j : Job} {p : PrinterID}

/-- **A quarantined job blocks its plate**, in every run. -/
theorem quarantineBlocked_of_reach {ok : Service → Event → Prop} (h : service.Reach ok s) :
    QuarantineBlocked s.db.floor := by
  refine Machine.Reach.invariant (I := fun s => QuarantineBlocked s.db.floor) ?_ ?_ h
  · rintro s ⟨cfg, now, rfl⟩ id j p hj
    cases hj
  · intro s e s' hr hQ _ hstep
    have hI := (disciplined_of_reach hr).floor
    have hkeep := (trans_of_reach hr hstep).moves.keeps (P := fun f => FloorInv f ∧ QuarantineBlocked f)
      (fun a f f' _ hm hP => ⟨hm.inv hP.1, hm.quarantine_blocked hP.1 hP.2⟩) ⟨hI, hQ⟩
    exact hkeep.2

/-! ## Where workers end -/

/-- **A worker stays outstanding**, but for a crash or a step of its own. -/
theorem Trans.outstanding {h : Handoff} (ht : Trans s e s') (hD : Disciplined s) (hh : h ∈ s.handoffs) :
    Outstanding s' h.id ∨ e = .crash ∨
      ∃ i ev, e = .handoff i ev ∧ s.handoffs[i]? = some h ∧ HandoffTrans s i h s' := by
  have hkept : s'.handoffs = s.handoffs → Outstanding s' h.id := fun hsame => ⟨h, hsame ▸ hh, rfl⟩
  cases ht with
  | same => exact .inl ⟨h, hh, rfl⟩
  | clock => exact .inl ⟨h, hh, rfl⟩
  | boot hphase =>
      rw [(hD.idle (by rw [hphase]; decide)).1] at hh
      cases hh
  | crash => exact .inr (.inl rfl)
  | reconcile => exact .inl ⟨h, hh, rfl⟩
  | cancel => exact .inl ⟨h, hh, rfl⟩
  | upload => exact .inl ⟨h, hh, rfl⟩
  | clear => exact .inl ⟨h, hh, rfl⟩
  | acknowledge => exact .inl ⟨h, hh, rfl⟩
  | live _ hstep => exact .inl (hkept (liveStep_frame hstep).handoffs)
  | callback _ ht => cases ht <;> exact .inl ⟨h, hh, rfl⟩
  | tick _ ht =>
      cases ht with
      | dispatch => exact .inl ⟨h, List.mem_append_left _ hh, rfl⟩
      | _ => exact .inl ⟨h, hh, rfl⟩
  | slice _ _ ht => cases ht <;> exact .inl ⟨h, hh, rfl⟩
  | @handoff i k ev _ _ hk ht =>
      by_cases hsame : k = h
      · subst hsame
        exact .inr (.inr ⟨i, ev, rfl, hk, ht⟩)
      · exact .inl ⟨h, ht.others hk hh hsame, rfl⟩

/-- A worker returns: nobody is outstanding for its job any more. -/
theorem Disciplined.ended {i : Nat} {h : Handoff} (hD : Disciplined s) (hh : s.handoffs[i]? = some h)
    (hs : s'.handoffs = s.handoffs.eraseIdx i) : ¬ Outstanding s' h.id := by
  rintro ⟨k, hk, hid⟩
  rw [hs] at hk
  obtain ⟨n, hn, hne, rfl⟩ := List.mem_eraseIdx_iff_getElem.mp hk
  -- the ids are distinct
  have hget : (s.handoffs.map Handoff.id)[n]? = (s.handoffs.map Handoff.id)[i]? := by
    rw [List.getElem?_map, List.getElem?_map, hh, List.getElem?_eq_getElem hn]
    exact congrArg some hid
  exact hne ((List.getElem?_inj (by rwa [List.length_map]) hD.distinct).mp hget)

/-! ## The condition -/

/-- A slot that stays owned keeps its plate blocked. -/
theorem Trans.plate_kept (ht : Trans s e s') (hslot : (s'.db.printers p).currentJobId = some id)
    (hplate : (s.db.printers p).plateCleared = false) : (s'.db.printers p).plateCleared = false := by
  cases ht.printer p with
  | kept h => rw [h]; exact hplate
  | reported _ _ _ _ _ hsame => exact hsame.trans hplate
  | dispatched _ hfree =>
      rw [hfree.2.1] at hplate
      cases hplate
  | released _ _ _ _ _ _ _ hnone =>
      rw [hnone] at hslot
      cases hslot
  | cleared _ _ hnone =>
      rw [hnone] at hslot
      cases hslot
  | settled _ _ _ _ _ _ _ _ hfalse => exact hfalse
  | blocked _ _ _ _ _ hfalse => exact hfalse
  | quarantined _ _ _ _ _ hfalse => exact hfalse
  | recovered _ _ hfalse => exact hfalse

/-- Only a report of a print leaves the owner PRINTING. -/
theorem Snapshot.outcome_printing {snap : Snapshot} {st : JobStatus} (h : snap.outcome st = .printing) :
    st ∈ awaitingReport := by
  by_contra hno
  rw [Snapshot.outcome_idle hno] at h
  rw [h] at hno
  exact hno (by decide)

/-- A worker that leaves its job PRINTING blocks the plate, unless it gave up on an ambiguous start. -/
theorem HandoffTrans.blocks {i : Nat} {h : Handoff} {j' : Job} (ht : HandoffTrans s i h s') (hR : Released s)
    (hh : s.handoffs[i]? = some h) (hj' : s'.db.job h.id = some j') (hs' : j'.status = .printing)
    (hend : ¬ Outstanding s' h.id) :
    (s'.db.printers h.printer).plateCleared = false ∨ ((∃ exc, h.pc = .ambiguous exc) ∧ s'.db = s.db) := by
  have hlen : i < s.handoffs.length := (List.getElem?_eq_some_iff.mp hh).1
  -- a worker that moves on is still outstanding
  have hset : ∀ pc, s'.handoffs = s.handoffs.set i { h with pc := pc } → Outstanding s' h.id := by
    intro pc hpc
    refine ⟨{ h with pc := pc }, ?_, rfl⟩
    rw [hpc]
    exact List.mem_set hlen _
  -- one that is about to release its printer finds its job in a terminal status
  have hfinal : ∀ j, h.pc = .releasing → s.db.job h.id = some j → j.status ≠ .printing := by
    intro j hpc hj hst
    have hterm := hR h (List.mem_of_getElem? hh) hpc j hj
    rw [hst] at hterm
    exact absurd hterm (by decide)
  cases ht with
  | goto => exact absurd (hset _ rfl) hend
  | upload => exact absurd (hset _ rfl) hend
  | request => exact absurd (hset _ rfl) hend
  | check => exact absurd (hset _ rfl) hend
  | publish => exact absurd (hset _ rfl) hend
  | started => exact absurd (hset _ rfl) hend
  | failSkip => exact absurd (hset _ rfl) hend
  | fail => exact absurd (hset _ rfl) hend
  | confirmSkip _ hno => exact absurd (hno j' hj') (by rw [hs']; decide)
  | confirm _ _ _ hm => exact .inl hm.confirmed
  | block _ _ _ hm => exact .inl hm.blocked
  | quarantineSkip hpc => exact .inr ⟨⟨_, hpc⟩, rfl⟩
  | quarantine _ _ _ hm => exact .inl hm.settled.2
  | releaseSkip hpc => exact absurd hs' (hfinal j' hpc hj')
  | release hpc _ _ _ hm => exact absurd hs' (hfinal j' hpc ((hm.job_frame (by simp [Act.target])).symm.trans hj'))

/-- A worker that gives up on an ambiguous start returns, and leaves a PRINTING job alone. -/
theorem HandoffTrans.gives_up {i : Nat} {h : Handoff} {exc : Exc} (ht : HandoffTrans s i h s')
    (hpc : h.pc = .ambiguous exc) (hj : s.db.job h.id = some j) (hs : j.status = .printing) :
    s' = s.endHandoff i := by
  cases ht with
  | goto hloc =>
      rw [hpc] at hloc
      cases hloc
  | quarantineSkip => rfl
  | quarantine _ hi hst =>
      cases Option.some.inj (hj.symm.trans hi)
      rw [hs] at hst
      cases hst
  | upload hpc' | request hpc' | check hpc' | publish hpc' | started hpc' | confirmSkip hpc' | confirm hpc'
  | block hpc' | failSkip hpc' | fail hpc' | releaseSkip hpc' | release hpc' =>
      cases hpc.symm.trans hpc'

/-- The owner that a callback leaves PRINTING was waiting for a report. -/
theorem Snapshot.outcome_cases {snap : Snapshot} {st : JobStatus} (h : snap.outcome st = .printing) :
    st = .starting ∨ st = .printing ∨ st = .attention := by
  have hmem := Snapshot.outcome_printing h
  revert hmem
  cases st <;> simp [awaitingReport]

/-- **A job that becomes PRINTING without a worker** is confirmed by a callback. -/
theorem Trans.confirmed_alone {j' : Job} (ht : Trans s e s') (hI : FloorInv s.db.floor) (hj : s.db.job id = some j)
    (hj' : s'.db.job id = some j') (hs : j.status ≠ .printing) (hs' : j'.status = .printing)
    (hout : ¬ Outstanding s id) :
    ∃ i p c snap, e = .callback i ∧ s.pending[i]? = some (p, c) ∧ c.payload = some snap ∧
      j.assignedPrinter = some p ∧ snap.outcome j.status = .printing := by
  have htrans := ht.job_trans hj hj'
  have hne : ∀ {st : JobStatus}, j'.status = st → st = .printing := fun h => h.symm.trans hs'
  cases htrans with
  | kept hst => exact absurd (hst.symm.trans hs') hs
  | reported he hi hc _ hslot hst =>
      exact ⟨_, _, _, _, he, hi, hc, (hI.owner_row hslot hj).2, hst.symm.trans hs'⟩
  | cancelled _ hst => cases hne hst
  | retried _ _ hst => cases hne hst
  | quarantined _ _ hst => cases hne hst
  | cleared _ _ _ hst => cases hne hst
  | dispatched _ _ hst => cases hne hst
  | withdrawn _ hst => cases hne hst
  | sliced _ _ hm => exact absurd (by rw [hs']; decide) hm.not_started
  | handed _ hh hid => exact absurd ⟨_, List.mem_of_getElem? hh, hid⟩ hout

/-- **The condition is enough.** -/
theorem PrintBlocked.step (hr : service.Reach always s) (hP : PrintBlocked s)
    (hstep : service.step s e = some s') (hok : guardsPlate s e) : PrintBlocked s' := by
  intro id j' p hj' hs' hp hend
  have hD := disciplined_of_reach hr
  have ht := trans_of_reach hr hstep
  have hslot := (disciplined_of_reach (hr.step trivial hstep)).floor.slot_eq hj' (by rw [hs']; decide) hp
  refine ⟨hslot, ?_⟩
  by_cases hplate : (s.db.printers p).plateCleared = false
  · exact ht.plate_kept hslot hplate
  have hclear : (s.db.printers p).plateCleared = true := by simpa using hplate
  by_cases hout : Outstanding s id
  · -- its worker returned in this step, or crashed
    obtain ⟨h, hh, rfl⟩ := hout
    obtain ⟨j, hj, hown, ha⟩ := hD.sent h hh
    obtain ⟨i, hi, -, htk⟩ := ht.moves.sent hj hown
    cases Option.some.inj (hj'.symm.trans hi)
    have hprinter : h.printer = p := by
      rw [Job.ticket_assignedPrinter htk, ha] at hp
      exact Option.some.inj hp
    have hsame : s'.db = s.db → j.status = .printing := by
      intro hdb
      rw [hdb, hj] at hj'
      cases hj'
      exact hs'
    rcases ht.outstanding hD hh with hstill | rfl | ⟨i, ev, rfl, hi, hht⟩
    · exact absurd hstill hend
    -- a crash, which the guard forbids while the plate is clear
    · have hprint := hsame (Service.step_db hstep)
      exact absurd rfl ((hok _ j p hj (hprinter ▸ ha) hclear).1 hprint).1
    · rcases hht.blocks (released_of_reach hr) hi hj' hs' hend with hblocked | ⟨⟨exc, hpc⟩, hdb⟩
      · exact hprinter ▸ hblocked
      · exact absurd hpc (((hok _ j p hj (hprinter ▸ ha) hclear).1 (hsame hdb)).2 i ev h exc rfl hi rfl)
  · cases hj : s.db.job id with
    | none =>
        rw [ht.born hj hj'] at hs'
        cases hs'
    | some j =>
        by_cases hprint : j.status = .printing
        · obtain ⟨i, hi, -, htk⟩ := ht.moves.sent hj (by rw [hprint]; decide)
          cases Option.some.inj (hj'.symm.trans hi)
          rw [Job.ticket_assignedPrinter htk] at hp
          exact absurd (hP id j p hj hprint hp hout).2 hplate
        -- nobody but a callback confirms a job that has no worker
        · obtain ⟨i, q, c, snap, he, hi, hc, ha, hoc⟩ := ht.confirmed_alone hD.floor hj hj' hprint hs' hout
          have hown : j.status ∈ owning := by
            rcases Snapshot.outcome_cases hoc with hst | hst | hst <;> rw [hst] <;> decide
          obtain ⟨k, hk, -, htk⟩ := ht.moves.sent hj hown
          cases Option.some.inj (hj'.symm.trans hk)
          rw [Job.ticket_assignedPrinter htk, ha] at hp
          obtain rfl : q = p := Option.some.inj hp
          rcases Snapshot.outcome_cases hoc with hst | hst | hst
          · rw [hst] at hoc
            exact absurd hoc ((hok id j q hj ha hclear).2 hst hout i c snap he hi hc)
          · exact absurd hst hprint
          · exact absurd (quarantineBlocked_of_reach hr id j q hj hst ha) hplate

/-- **The condition is necessary.** -/
theorem PrintBlocked.guards (hr : service.Reach always s) (hstep : service.step s e = some s')
    (hP' : PrintBlocked s') : guardsPlate s e := by
  intro id j p hj ha hclear
  have hD := disciplined_of_reach hr
  have ht := trans_of_reach hr hstep
  -- a job that is left PRINTING alone over a clear plate
  have hbad : ∀ j', s'.db.job id = some j' → j'.status = .printing → j'.assignedPrinter = some p →
      ¬ Outstanding s' id → (s'.db.printers p).plateCleared = true → False := by
    intro j' hj' hs' hp hend hplate
    rw [(hP' id j' p hj' hs' hp hend).2] at hplate
    cases hplate
  refine ⟨fun hst => ⟨?_, ?_⟩, ?_⟩
  · rintro rfl
    cases Service.step_crash hstep
    exact hbad j hj hst ha (fun ⟨h, hh, _⟩ => by cases hh) hclear
  · rintro i ev h exc rfl hi rfl hpc
    have hslot := fun k hk hat => hD.slot (j := k) (List.mem_of_getElem? hi) hk hat
    have hht := handoffStep_trans hslot (Service.step_handoff hstep hi)
    cases hht.gives_up hpc hj hst
    exact hbad j hj hst ha (hD.ended hi rfl) hclear
  · rintro hst hout i c snap rfl hi hc hoc
    have hown := hD.floor.slot_eq hj (by rw [hst]; decide) ha
    have hdb := Service.step_callback_db hstep hi hc
    have hrep : Reported p snap s.db.floor s'.db.floor := by
      rw [hdb]
      exact (onStatusUpdate_commit (r := ((onStatusUpdate s.clock p snap).commit s.db).1) rfl).1
    obtain ⟨j', hj', htk, hst'⟩ := hrep.owner hown hj
    rw [hst, hoc] at hst'
    refine hbad j' hj' hst' (by rw [Job.ticket_assignedPrinter htk, ha]) ?_ ?_
    · -- a callback starts no worker
      rintro ⟨h', hh', rfl⟩
      rcases ht.handoffs.mem hh' with ⟨h, hh, hid, -⟩ | ⟨i, i', -, -, hi', hup, -⟩
      · exact hout ⟨h, hh, hid.symm⟩
      · cases Option.some.inj (hi'.symm.trans hj')
        rw [hst'] at hup
        cases hup
    · rcases hrep.printer_cases.2 with ⟨hplate, -⟩ | ⟨-, k, i', new, hk, hi', hset⟩
      · exact hplate.trans hclear
      · -- a report that settles the job does not leave it PRINTING
        cases Option.some.inj (hown.symm.trans hk)
        cases Option.some.inj (hj.symm.trans hi')
        rw [hst] at hset
        have hnew : snap.outcome .starting = new := by rw [Snapshot.outcome, hset]; rfl
        have hend := (Snapshot.settled_new hset).2.2
        rw [← hnew, hoc] at hend
        exact absurd hend (by decide)

/-- **A confirmed print blocks its plate**, exactly as long as the condition is met. -/
theorem print_blocks_plate (h : service.Reach guardsPlate s) :
    PrintBlocked s ∧ ∀ e s', service.step s e = some s' → (PrintBlocked s' ↔ guardsPlate s e) := by
  have hP : PrintBlocked s := by
    refine Machine.Reach.invariant (I := PrintBlocked) ?_ ?_ h
    · rintro s ⟨cfg, now, rfl⟩ id j p hj
      cases hj
    · intro s e s' hr hP hok hs
      exact hP.step hr.weaken hs hok
  refine ⟨hP, fun e s' hs => ⟨fun hP' => ?_, fun hok => ?_⟩⟩
  · exact hP'.guards h.weaken hs
  · exact hP.step h.weaken hs hok

/-! ## Concrete runs -/

/-- A start whose acknowledgement gets lost: the callback moves the job to PRINTING, and the worker, which only
    quarantines a job that is STARTING, returns. The plate of the running print is marked as clear. -/
theorem unblocked_print : ¬ ∀ s, service.Reach always s → PrintBlocked s := by
  intro hclaim
  obtain ⟨s, hr, hs⟩ := Machine.reach_of_run (M := service) Machine.always_of_anyStep
    (Script.online ++ Script.reportState .idle ++ [Script.upload "a"] ++ Script.slice "a" ++ Script.dispatch ++
      Script.transfer ++ Script.publish ++ Script.reportState .running ++
      [.handoff 0 (.answered .unacknowledged), .handoff 0 .next])
    (fun s : Service => s.handoffs.isEmpty && (s.db.printers .p1s).plateCleared &&
      (s.db.job "a").any fun j : Job => decide (j.status = .printing ∧ j.assignedPrinter = some .p1s))
    (service_init Script.p1sOnly 0) (by decide +kernel)
  obtain ⟨hidle, hjob⟩ := Bool.and_eq_true_iff.mp hs
  obtain ⟨hnone, hclear⟩ := Bool.and_eq_true_iff.mp hidle
  obtain ⟨j, hj, hp⟩ := (Option.any_eq_true _ _).mp hjob
  obtain ⟨hprint, ha⟩ := of_decide_eq_true hp
  have hend : ¬ Outstanding s "a" := by
    rintro ⟨h, hh, -⟩
    rw [List.isEmpty_iff.mp hnone] at hh
    cases hh
  have hblocked := (hclaim s hr "a" j .p1s hj hprint ha hend).2
  rw [hclear] at hblocked
  cases hblocked

/-- The check that nothing crashes, no start is ambiguous, and no job is STARTING without a worker when a
    callback of its printer runs. -/
def plateCheck (s : Service) : Event → Bool
  | .crash => false
  | .handoff i _ => s.handoffs[i]?.all fun h => decide (h.pc.order ≠ (HandoffPc.ambiguous (.runtimeError "")).order)
  | .callback i => s.pending[i]?.all fun pc => (s.db.printers pc.1).currentJobId.all fun id =>
      decide (s.db.statusOf id ≠ some .starting) || s.handoffs.any fun h => decide (h.id = id)
  | _ => true

theorem plateCheck_ok (hr : service.Reach always s) (h : plateCheck s e = true) : guardsPlate s e := by
  intro id j p hj ha hclear
  refine ⟨fun hst => ⟨?_, ?_⟩, ?_⟩
  · rintro rfl
    cases h
  · rintro i ev worker exc rfl hi - hpc
    simp [plateCheck, hi, hpc, HandoffPc.order] at h
  · rintro hst hout i c snap rfl hi - -
    have hslot := (disciplined_of_reach hr).floor.slot_eq hj (by rw [hst]; decide) ha
    rw [Db.floor_printers] at hslot
    simp only [plateCheck, hi, hslot, Option.all_some, Db.statusOf_eq hj, hst, ne_eq, not_true_eq_false,
      decide_false, Bool.false_or, List.any_eq_true, decide_eq_true_eq] at h
    exact hout h

/-- A print that is confirmed by its worker. -/
def confirmedPrint : List Event :=
  Script.online ++ Script.reportState .idle ++ [Script.upload "a"] ++ Script.slice "a" ++ Script.dispatch ++
    Script.transfer ++ Script.publish ++ [.handoff 0 (.answered .acknowledged)] ++
    Script.reportState .running ++ [.handoff 0 (.awaited false), .handoff 0 .next]

theorem print_blocks_plate_confirmed : ∃ s, service.Reach guardsPlate s ∧ s.db.statusOf "a" = some .printing ∧
    ¬ Outstanding s "a" ∧ PrintBlocked s := by
  obtain ⟨s, hs, hp⟩ : ∃ s, service.run plateCheck (Service.fresh Script.p1sOnly 0) confirmedPrint = some s ∧
      (s.db.statusOf "a" = some .printing ∧ s.handoffs.isEmpty = true) := by
    refine Option.any_eq_true _ _ |>.mp ?_ |>.imp fun s hs => ⟨hs.1, of_decide_eq_true hs.2⟩
    decide +kernel
  have hinit := service_init Script.p1sOnly 0
  have hchecked : service.Follows (fun s e => plateCheck s e = true) (Service.fresh Script.p1sOnly 0)
      confirmedPrint s :=
    Machine.follows_of_run (fun _ _ h => h) hs
  have hgood := hchecked.weaken_of_reach (.init hinit) fun _ _ _ hr _ h => plateCheck_ok hr h
  have hreach : service.Reach guardsPlate s := ⟨_, hinit, hgood.path⟩
  refine ⟨s, hreach, hp.1, ?_, (print_blocks_plate hreach).1⟩
  rintro ⟨h, hh, -⟩
  rw [List.isEmpty_iff.mp hp.2] at hh
  cases hh

end BambuBabu
