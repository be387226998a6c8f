import BambuBabu.Service.Trans

/-!
# `Correctness.SlotExclusivity` — one job per printer

The slot discipline of the floor, read off the states the service reaches. A job that is being uploaded is
not protected by a guard on its status: `mark_plate_cleared` would release its printer if the plate were
blocked, and what keeps it from doing so is that the plate is not.
-/

namespace BambuBabu

open Storage Runs

/-- What the slots of a state look like. -/
structure SlotExclusive (s : Service) : Prop where
  /-- A job at a printer owns the slot of the printer it is assigned to. -/
  busy_owns : ∀ id j, s.db.job id = some j →
    j.status ∈ [.uploading, .starting, .printing, .attention] →
    ∃ p, j.assignedPrinter = some p ∧ (s.db.printers p).currentJobId = some id
  /-- No two jobs are at one printer. -/
  one_job : ∀ id id' j j' p, s.db.job id = some j → s.db.job id' = some j' →
    j.status ∈ [.uploading, .starting, .printing, .attention] →
    j'.status ∈ [.uploading, .starting, .printing, .attention] →
    j.assignedPrinter = some p → j'.assignedPrinter = some p → id = id'
  /-- No job owns two slots. -/
  one_slot : ∀ id p q, (s.db.printers p).currentJobId = some id → (s.db.printers q).currentJobId = some id →
    p = q
  /-- Slots are owned by jobs that were sent to a printer. -/
  owner_sent : ∀ p id, (s.db.printers p).currentJobId = some id → ∃ j, s.db.job id = some j ∧
    j.status ∈ [.uploading, .starting, .printing, .attention, .completed, .failed]
  /-- The plate is clear under an upload. -/
  upload_clear : ∀ id j p, s.db.job id = some j → j.status = .uploading → j.assignedPrinter = some p →
    (s.db.printers p).plateCleared = true
  /-- A plate-cleared request does nothing there. -/
  upload_kept : ∀ id j p now, s.db.job id = some j → j.status = .uploading → j.assignedPrinter = some p →
    ((markPlateCleared s.settings now p).commit s.db).2 = s.db
  /-- That is because of the plate: with the plate blocked, the guards on the printer would be the only
      ones left, and the request would free the slot. -/
  plate_decides : ∀ id j p now, s.db.job id = some j → j.status = .uploading → j.assignedPrinter = some p →
    s.settings.livePrinterEnabled p = true → (s.db.printers p).status ∉ [.printing, .paused] →
    (((markPlateCleared s.settings now p).commit (s.db.setPrinter p
      { s.db.printers p with plateCleared := false })).2.printers p).currentJobId = none

variable {s : Service}

/-- With the plate clear the request is refused or has nothing to do. -/
theorem markPlateCleared_clear (cfg : Settings) (now : Time) {p : PrinterID} {d : Db} (hI : FloorInv d.floor)
    (hplate : (d.printers p).plateCleared = true) : ((markPlateCleared cfg now p).commit d).2 = d := by
  rcases hc : (markPlateCleared cfg now p).commit d with ⟨r, d'⟩
  have howner : ∀ id, (d.printers p).currentJobId = some id → d.job id ≠ none := fun id hid => by
    obtain ⟨j, hj, -⟩ := hI.owner p id hid
    rw [← Db.floor_job, hj]
    exact Option.some_ne_none j
  obtain ⟨rfl, -⟩ | ⟨owner, -, -, hm, -⟩ := markPlateCleared_commit hc howner
  · rfl
  · have hblocked := hm.cleared.1
    rw [Db.floor_printers, hplate] at hblocked
    cases hblocked

/-- With the plate blocked it frees the slot, unless a guard stops it. -/
theorem markPlateCleared_blocked (cfg : Settings) (now : Time) {p : PrinterID} {d : Db} {id : JobId} {j : Job}
    (hlive : cfg.livePrinterEnabled p = true) (hstatus : (d.printers p).status ∉ [.printing, .paused])
    (hslot : (d.printers p).currentJobId = some id) (hj : d.job id = some j)
    (hs : j.status ∉ [.printing, .starting]) (hplate : (d.printers p).plateCleared = false) :
    ∃ d', (markPlateCleared cfg now p).commit d
        = (.ok s!"Plate cleared on {p.value}. Next job will start shortly.", d') ∧
      (d'.printers p).currentJobId = none ∧ (d'.printers p).plateCleared = true := by
  rcases hc : (markPlateCleared cfg now p).commit d with ⟨r, d'⟩
  have howner : ∀ k, (d.printers p).currentJobId = some k → d.job k ≠ none := fun k hk => by
    cases Option.some.inj (hslot.symm.trans hk)
    rw [hj]
    exact Option.some_ne_none j
  obtain ⟨-, href⟩ | ⟨owner, rfl, -, hm, -⟩ := markPlateCleared_commit hc howner
  · exfalso
    cases href with
    | disabled h => rw [hlive] at h; cases h
    | already h => rw [hplate] at h; cases h
    | busy h => exact hstatus h
    | active hslot' hj' hs' =>
        cases Option.some.inj (hslot.symm.trans hslot')
        cases Option.some.inj (hj.symm.trans hj')
        exact hs hs'
  · exact ⟨d', rfl, hm.cleared.2⟩

/-- A plate-cleared request is its transaction. -/
theorem plateCleared_db {s s' : Service} {p : PrinterID} (h : service.step s (.plateCleared p) = some s') :
    s'.db = ((markPlateCleared s.settings s.clock p).commit s.db).2 := by
  change s.step (.plateCleared p) = some s' at h
  unfold Service.step at h
  cases hphase : s.phase <;> simp only [hphase] at h <;> cases h
  rfl

/-- **Slot exclusivity** holds in every reachable state. -/
theorem slot_exclusivity (h : service.Reach always s) : SlotExclusive s := by
  have hI := (disciplined_of_reach h).floor
  have hslot : ∀ {id j p}, s.db.job id = some j → j.status ∈ atPrinter → j.assignedPrinter = some p →
      (s.db.printers p).currentJobId = some id := fun hj hs hp => hI.slot_eq hj hs hp
  exact {
    busy_owns := hI.holds
    one_job := fun id id' j j' p hj hj' hs hs' hp hp' =>
      Option.some.inj ((hslot hj hs hp).symm.trans (hslot hj' hs' hp'))
    one_slot := fun id p q hp hq => by
      obtain ⟨j, hj, -, hjp⟩ := hI.owner p id hp
      obtain ⟨j', hj', -, hjq⟩ := hI.owner q id hq
      cases Option.some.inj (hj.symm.trans hj')
      exact Option.some.inj (hjp.symm.trans hjq)
    owner_sent := fun p id hp => by
      obtain ⟨j, hj, hs, -⟩ := hI.owner p id hp
      exact ⟨j, hj, hs⟩
    upload_clear := hI.cleared
    upload_kept := fun id j p now hj hs hp => markPlateCleared_clear _ now hI (hI.cleared id j p hj hs hp)
    plate_decides := fun id j p now hj hs hp hlive hstatus => by
      have hown := hslot hj (by rw [hs]; decide) hp
      obtain ⟨d', hrun, hnone, -⟩ := markPlateCleared_blocked s.settings now
        (d := s.db.setPrinter p { s.db.printers p with plateCleared := false }) hlive
        (by simpa using hstatus) (by simpa using hown) hj (by rw [hs]; decide) (by simp)
      rw [hrun]
      exact hnone }

/-- A file is being uploaded. -/
theorem slot_exclusivity_upload : ∃ s : Service, (s.db.job "a").map Job.status = some .uploading ∧
    (s.db.printers .p1s).currentJobId = some "a" ∧ SlotExclusive s := by
  obtain ⟨s, hr, hs⟩ := Machine.reach_of_run (M := service) Machine.always_of_anyStep
    (Script.online ++ Script.reportState .idle ++ [Script.upload "a"] ++ Script.slice "a" ++ Script.dispatch)
    (fun s => (s.db.job "a").map Job.status = some .uploading ∧
      (s.db.printers .p1s).currentJobId = some "a")
    (service_init Script.p1sOnly 0) (by decide +kernel)
  obtain ⟨hup, hown⟩ := of_decide_eq_true hs
  exact ⟨s, hup, hown, slot_exclusivity hr⟩

end BambuBabu
