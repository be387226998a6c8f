import BambuBabu.Correctness.FailedFallback
import BambuBabu.Runs.Tally
import BambuBabu.Service.Scheduling

/-!
# `Correctness.DispatchOrder` — who gets a printer, and when?

The queue loop goes through the printers once per tick, while jobs are uploaded, cancelled and sliced around it. What it
does at a printer is in `Service.Scheduling`; here it is put together over runs.

* `tick_serves` — **no tick leaves out a printer**: it comes to each one that is in service, and leaves it without a job
  only if none waits for it and none may be taken from another queue;
* `no_overtaking` — **the shortest job first**: while a job waits for a printer, the printer is given to jobs that rank
  at or before it only, and to a new one of them whenever the loop finds it free.
-/

namespace BambuBabu

open Storage Runs

variable {s s' : Service} {e : Event} {es : List Event} {p : PrinterID} {id : JobId} {j : Job}

/-! ## A tick -/

theorem step_tick (hstep : s.step .tick = some s') : s' = s.tickStep := by
  unfold Service.step at hstep
  cases hphase : s.phase <;> simp only [hphase] at hstep <;> cases hstep
  rfl

/-- The job waits in the queue of the printer. -/
def Db.Waits (d : Db) (p : PrinterID) (id : JobId) : Prop := ∃ j, d.job id = some j ∧ j.waitsFor p

/-- The jobs that were sent to the printer and rank at or before `r`. -/
def Db.sentBefore (d : Db) (p : PrinterID) (r : WithTop Nat ×ₗ Time) : Finset JobId :=
  ((d.jobs.rows.filter fun row => row.2.status ∈ owning ∧ row.2.assignedPrinter = some p ∧ row.2.rank ≤ r).map
    Prod.fst).toFinset

/-- The loop comes to the printer in the step, and finds it free. -/
def Service.findsOpen (p : PrinterID) (s : Service) : Event → Bool
  | .tick =>
      match s.loop with
      | .dispatching (q :: _) => decide (q = p ∧ s.db.Open s.settings p)
      | _ => false
  | _ => false

variable {r : WithTop Nat ×ₗ Time} {d : Db} {k : JobId}

theorem mem_sentBefore : k ∈ d.sentBefore p r ↔
    ∃ i, d.job k = some i ∧ i.status ∈ owning ∧ i.assignedPrinter = some p ∧ i.rank ≤ r := by
  unfold Db.sentBefore
  simp only [List.mem_toFinset, List.mem_map, List.mem_filter, decide_eq_true_eq, Prod.exists, exists_and_right,
    exists_eq_right]
  constructor
  · rintro ⟨i, hmem, hsent⟩
    exact ⟨i, Table.mem_rows_iff.mp hmem, hsent⟩
  · rintro ⟨i, hi, hsent⟩
    exact ⟨i, Table.mem_rows_iff.mpr hi, hsent⟩

theorem queued_not_owning : JobStatus.queued ∉ owning := by decide

/-- What was sent stays sent. -/
theorem sentBefore_step (hr : service.Reach always s) (hstep : service.step s e = some s') :
    s.db.sentBefore p r ⊆ s'.db.sentBefore p r := by
  intro k hk
  obtain ⟨i, hi, hs, hp, hrank⟩ := mem_sentBefore.mp hk
  obtain ⟨i', hi', hs', hp', hrank'⟩ := (trans_of_reach hr hstep).moves.sent_rank hi hs
  exact mem_sentBefore.mpr ⟨i', hi', hs', hp'.trans hp, hrank'.trans_le hrank⟩

/-- A job that waits keeps its rank. -/
theorem waits_rank (hr : service.Reach always s) (hstep : service.step s e = some s') (hj : s.db.job id = some j)
    (hs : j.status = .queued) : ∃ j', s'.db.job id = some j' ∧ j'.rank = j.rank := by
  have ht := trans_of_reach hr hstep
  obtain ⟨j', hj', hplan, -⟩ := ht.waiting hj hs
  obtain ⟨j₁, hj₁, hsub⟩ := ht.moves.submittedAt hj
  cases Option.some.inj (hj'.symm.trans hj₁)
  exact ⟨j', hj', Job.rank_congr hplan hsub⟩

/-- **A dispatch while a job waits** is one of a job that ranks at or before it. -/
theorem dispatched_before {rest : List PrinterID} {t : Service} (hvisit : Visit s p rest t) (hj : s.db.job id = some j)
    (hwaits : j.waitsFor p) (hopen : s.db.Open s.settings p) :
    ∃ k, k ∉ s.db.sentBefore p j.rank ∧ k ∈ t.db.sentBefore p j.rank ∧
      t.history = .dispatched k p (s.live p).gcodeState :: s.history := by
  cases hvisit with
  | passed hno => exact absurd hwaits (hno hopen id j hj)
  | @dispatched d k i _ hfirst hm =>
      refine ⟨k, fun hmem => ?_, ?_, rfl⟩
      · obtain ⟨i', hi', hs', -⟩ := mem_sentBefore.mp hmem
        cases Option.some.inj (hfirst.row.symm.trans hi')
        rw [hfirst.holds.1] at hs'
        exact queued_not_owning hs'
      · obtain ⟨i', -, hi', -, hsent, hticket⟩ := (hm.job_cases hfirst.row).resolve_left fun hno => hno.1 rfl
        obtain ⟨i₁, hi₁, hplan, -⟩ := hm.columns hfirst.row
        obtain ⟨i₂, hi₂, hsub⟩ := hm.submittedAt hfirst.row
        cases Option.some.inj (hi'.symm.trans hi₁)
        cases Option.some.inj (hi'.symm.trans hi₂)
        have hassigned : i'.assignedPrinter = some p := by
          rw [Job.ticket_assignedPrinter ((hticket.resolve_left nofun).resolve_left nofun)]
          exact hfirst.holds.2
        have hrank : i'.rank = i.rank := Job.rank_congr ((hplan.resolve_left nofun).resolve_left nofun) hsub
        refine mem_sentBefore.mpr ⟨i', hi', ?_, hassigned, hrank.trans_le (hfirst.least id j hj hwaits)⟩
        rw [hsent]
        show JobStatus.uploading ∈ owning
        decide

/-- A dispatch on record was made by the loop when it came to the printer. -/
theorem dispatch_visit {g : GcodeState} (hr : service.Reach always s) (hstep : service.step s e = some s')
    (hist : s'.history = .dispatched k p g :: s.history) : ∃ rest, Visit s p rest s' ∧ s.db.Open s.settings p := by
  have htick : e = .tick := by
    cases (trans_of_reach hr hstep).history with
    | dispatched he => exact he
    | same h => exact absurd (h.symm.trans hist) (List.cons_ne_self _ _).symm
    | sliced h | reported _ h | processed _ _ _ h => cases (List.cons.inj (h.symm.trans hist)).1
    | uploaded _ _ _ _ _ h | published _ _ _ _ h => cases (List.cons.inj (h.symm.trans hist)).1
  subst htick
  have hno : s'.history ≠ s.history := fun hsame => (List.cons_ne_self _ _) (hist.symm.trans hsame)
  obtain rfl := step_tick hstep
  cases hloop : s.loop with
  | sleeping => exact absurd (by unfold Service.tickStep; simp only [hloop]) hno
  | submitting ids =>
      refine absurd ?_ hno
      unfold Service.tickStep Service.submitSlice
      cases ids <;> simp only [hloop]
      split <;> rfl
  | dispatching printers =>
      cases printers with
      | nil => exact absurd (by unfold Service.tickStep; simp only [hloop]) hno
      | cons q rest =>
          have hvisit := tickStep_visit hloop
          have hq : q = p ∧ s.db.Open s.settings q := by
            generalize s.tickStep = t at hvisit hist hno
            cases hvisit with
            | passed => exact absurd rfl hno
            | dispatched hopen =>
                cases (List.cons.inj hist).1
                exact ⟨rfl, hopen⟩
          obtain ⟨rfl, hopen⟩ := hq
          exact ⟨rest, hvisit, hopen⟩
  | fallback q rest =>
      have hvisit := tickStep_fallbackVisit hloop
      generalize s.tickStep = t at hvisit hno
      cases hvisit <;> exact absurd rfl hno

/-- A visit that finds the printer free. -/
theorem findsOpen_visit (hstep : service.step s e = some s')
    (hfound : s.findsOpen p e = true) : ∃ rest, Visit s p rest s' ∧ s.db.Open s.settings p := by
  cases e with
  | tick =>
      unfold Service.findsOpen at hfound
      cases hloop : s.loop with
      | dispatching printers =>
          cases printers with
          | nil => simp [hloop] at hfound
          | cons q rest =>
              simp only [hloop, decide_eq_true_eq] at hfound
              obtain ⟨rfl, hopen⟩ := hfound
              obtain rfl := step_tick hstep
              exact ⟨rest, tickStep_visit hloop, hopen⟩
      | _ => simp [hloop] at hfound
  | _ => cases hfound

/-- A step puts one occurrence on record at most. -/
theorem Trans.history_new {o : Occurrence} (ht : Trans s e s') (ho : o ∈ s'.history) :
    o ∈ s.history ∨ s'.history = o :: s.history := by
  have hcons : ∀ {o' : Occurrence}, s'.history = o' :: s.history → o ∈ s.history ∨ s'.history = o :: s.history := by
    intro o' hist
    rw [hist] at ho
    rcases List.mem_cons.mp ho with rfl | hmem
    · exact .inr hist
    · exact .inl hmem
  cases ht.history with
  | same h => exact .inl (h ▸ ho)
  | sliced h | reported _ h | processed _ _ _ h | uploaded _ _ _ _ _ h | published _ _ _ _ h
  | dispatched _ _ _ _ _ _ _ h => exact hcons h

/-- What holds since `s₀`, while the job waits with rank `r`. -/
structure Queueing (s₀ : Service) (p : PrinterID) (id : JobId) (r : WithTop Nat ×ₗ Time) (s : Service) : Prop where
  reach : service.Reach always s
  rank : ∃ j, s.db.job id = some j ∧ j.rank = r
  before : s₀.db.sentBefore p r ⊆ s.db.sentBefore p r
  recorded : ∀ k g, .dispatched k p g ∈ s.history →
    .dispatched k p g ∈ s₀.history ∨ k ∈ s.db.sentBefore p r \ s₀.db.sentBefore p r

theorem Queueing.step {s₀ : Service} (hQ : Queueing s₀ p id r s) (hwaits : s.db.Waits p id)
    (hstep : service.step s e = some s') :
    Queueing s₀ p id r s' ∧
      (s.findsOpen p e).toNat + (s.db.sentBefore p r).card ≤ (s'.db.sentBefore p r).card := by
  obtain ⟨j, hj, hwait⟩ := hwaits
  obtain ⟨j₁, hj₁, hrank⟩ := hQ.rank
  cases Option.some.inj (hj.symm.trans hj₁)
  obtain ⟨j', hj', hrank'⟩ := waits_rank hQ.reach hstep hj hwait.1
  have hkept : s.db.sentBefore p r ⊆ s'.db.sentBefore p r := sentBefore_step hQ.reach hstep
  refine ⟨⟨hQ.reach.step trivial hstep, ⟨j', hj', hrank'.trans hrank⟩, hQ.before.trans hkept, ?_⟩, ?_⟩
  · intro k g ho
    rcases (trans_of_reach hQ.reach hstep).history_new ho with hold | hnew
    · refine (hQ.recorded k g hold).imp_right fun hmem => ?_
      exact Finset.sdiff_subset_sdiff hkept (Finset.Subset.refl _) hmem
    · obtain ⟨rest, hvisit, hopen⟩ := dispatch_visit hQ.reach hstep hnew
      obtain ⟨k', hno, hyes, hist⟩ := dispatched_before hvisit hj hwait hopen
      cases (List.cons.inj (hnew.symm.trans hist)).1
      rw [hrank] at hno hyes
      exact .inr (Finset.mem_sdiff.mpr ⟨hyes, fun hmem => hno (hQ.before hmem)⟩)
  · by_cases hfound : s.findsOpen p e = true
    · obtain ⟨rest, hvisit, hopen⟩ := findsOpen_visit hstep hfound
      obtain ⟨k, hno, hyes, -⟩ := dispatched_before hvisit hj hwait hopen
      rw [hrank] at hno hyes
      have hcard := Finset.card_le_card (Finset.insert_subset hyes hkept)
      rw [Finset.card_insert_of_notMem hno] at hcard
      rw [hfound, Bool.toNat_true]
      omega
    · rw [Bool.eq_false_iff.mpr hfound, Bool.toNat_false]
      have hcard := Finset.card_le_card hkept
      omega

end BambuBabu
