import Mathlib.Data.Prod.Lex
import Mathlib.Order.WithBot
import BambuBabu.Floor.Plans
import BambuBabu.Service.FallbackCall
import BambuBabu.Service.Views

/-!
# `Service.Scheduling` — the order in which jobs get their printers

`_try_dispatch` takes the first job of a sorted query, `_try_schedule_fallback` the first eligible one. Here both are
said without the query: the order is the one of `Job.rank`, and the job that is taken is least in it among the jobs
that could be.

* `Job.rank`, `byEstimate_iff` — shortest estimate first, unknown estimates last, then the order of submission;
* `tryDispatch_first` — which job is dispatched, and when none is;
* `tryScheduleFallback_first` — which job is sliced again, and when none is;
* `Visit`, `FallbackVisit` — what the queue loop does when it comes to a printer.
-/

namespace BambuBabu

open Storage

/-! ## The order -/

/-- Shortest estimate first, no estimate last, and then the order of submission. -/
def Job.rank (j : Job) : WithTop Nat ×ₗ Time := toLex (j.estimatedMinutes.elim ⊤ WithTop.some, j.submittedAt)

theorem bySubmission_iff {a b : JobId × Job} : bySubmission a b = true ↔ a.2.submittedAt ≤ b.2.submittedAt :=
  decide_eq_true_iff

theorem byEstimate_iff {a b : JobId × Job} : byEstimate a b = true ↔ a.2.rank ≤ b.2.rank := by
  unfold byEstimate Job.rank
  rw [Prod.Lex.toLex_le_toLex]
  cases a.2.estimatedMinutes with
  | none =>
      cases b.2.estimatedMinutes with
      | none => simpa using bySubmission_iff
      | some n => simp
  | some m =>
      cases b.2.estimatedMinutes with
      | none => simp
      | some n => simp [bySubmission_iff]

/-- The query lists its rows by rank. -/
theorem Db.jobsWhere_ranked (d : Db) (q : Job → Bool) :
    (d.jobsWhere q byEstimate).Pairwise fun a b => a.2.rank ≤ b.2.rank := by
  let le : JobId × Job → JobId × Job → Prop := fun a b => byEstimate a b = true
  have : Std.Total le := ⟨fun a b => by simpa only [le, byEstimate_iff] using le_total a.2.rank b.2.rank⟩
  have : IsTrans _ le := ⟨fun a b c hab hbc => by
    simp only [le, byEstimate_iff] at hab hbc ⊢
    exact hab.trans hbc⟩
  exact (List.pairwise_insertionSort le _).imp byEstimate_iff.mp

/-- Among the listed rows with a property, the first one has the least rank. -/
theorem find?_least {rows : List (JobId × Job)} {q : JobId × Job → Bool} {row : JobId × Job}
    (hsorted : rows.Pairwise fun a b => a.2.rank ≤ b.2.rank) (hfind : rows.find? q = some row) :
    ∀ r ∈ rows, q r = true → row.2.rank ≤ r.2.rank := by
  obtain ⟨-, before, after, rfl, hbefore⟩ := List.find?_eq_some_iff_append.mp hfind
  intro r hr hq
  rcases List.mem_append.mp hr with hmem | hmem
  · have hno := hbefore r hmem
    rw [hq] at hno
    cases hno
  · rcases List.mem_cons.mp hmem with rfl | hmem
    · exact le_refl _
    · exact (List.pairwise_cons.mp (List.pairwise_append.mp hsorted).2.1).1 r hmem

/-- The row is one with the property, and none of them comes before it. -/
structure Db.First (d : Db) (q : JobId → Job → Prop) (id : JobId) (j : Job) : Prop where
  row : d.job id = some j
  holds : q id j
  least : ∀ k i, d.job k = some i → q k i → j.rank ≤ i.rank

variable {s : Settings} {now : Time} {d d' : Db} {p : PrinterID} {id : JobId} {j : Job}

/-! ## What the rank is made of -/

section rank

variable {a : Act} {ok : Act → Prop} {f f' : Floor} {j' : Job}

theorem Job.rank_congr (hplan : j'.plan = j.plan) (hsub : j'.submittedAt = j.submittedAt) : j'.rank = j.rank := by
  have hest : j'.estimatedMinutes = j.estimatedMinutes := congrArg Plan.estimatedMinutes hplan
  unfold Job.rank
  rw [hest, hsub]

/-- The time of submission is never written again. -/
theorem Move.submittedAt (h : Move a f f') (hj : f.job id = some j) :
    ∃ j', f'.job id = some j' ∧ j'.submittedAt = j.submittedAt := by
  by_cases hid : a.target = some id
  · cases h with
    | submit hnew =>
        cases Option.some.inj hid
        rw [hnew] at hj
        cases hj
    | block | restore | release | telemetry | clearEmpty => cases hid
    | swap hj₀ | plan hj₀ | queue hj₀ | dispatch hj₀ | confirm hj₀ | settle _ hj₀ | progress hj₀ =>
        cases Option.some.inj hid
        cases Option.some.inj (hj.symm.trans hj₀)
        exact ⟨_, Floor.job_setJob_self .., rfl⟩
    | clearOwned _ _ hj₀ =>
        cases Option.some.inj hid
        cases Option.some.inj (hj.symm.trans hj₀)
        refine ⟨_, Floor.job_setJob_self .., ?_⟩
        unfold Job.inspected
        split <;> rfl
  · exact ⟨j, (h.job_frame hid).trans hj, rfl⟩

theorem Moves.submittedAt (h : Moves ok f f') (hj : f.job id = some j) :
    ∃ j', f'.job id = some j' ∧ j'.submittedAt = j.submittedAt := by
  refine h.keeps (P := fun g => ∃ j', g.job id = some j' ∧ j'.submittedAt = j.submittedAt) ?_ ⟨j, hj, rfl⟩
  rintro a g g' - hm ⟨i, hi, hsub⟩
  obtain ⟨i', hi', hsub'⟩ := hm.submittedAt hi
  exact ⟨i', hi', hsub'.trans hsub⟩

theorem mem_sentOrOver_of_owning {st : JobStatus} (h : st ∈ owning) : st ∈ sentOrOver := List.mem_append_left _ h

/-- **A job that was sent keeps its printer and its rank.** -/
theorem Moves.sent_rank (h : Moves ok f f') (hj : f.job id = some j) (hs : j.status ∈ owning) :
    ∃ j', f'.job id = some j' ∧ j'.status ∈ owning ∧ j'.assignedPrinter = j.assignedPrinter ∧ j'.rank = j.rank := by
  obtain ⟨j', hj', hs', hticket⟩ := h.sent hj hs
  obtain ⟨j₁, hj₁, -, hplan⟩ := h.over hj (mem_sentOrOver_of_owning hs)
  obtain ⟨j₂, hj₂, hsub⟩ := h.submittedAt hj
  cases Option.some.inj (hj'.symm.trans hj₁)
  cases Option.some.inj (hj'.symm.trans hj₂)
  exact ⟨j', hj', hs', Job.ticket_assignedPrinter hticket, Job.rank_congr hplan hsub⟩

end rank

/-! ## Dispatch -/

/-- The job waits in the queue of the printer. -/
def Job.waitsFor (p : PrinterID) (j : Job) : Prop := j.status = .queued ∧ j.assignedPrinter = some p

/-- The rows `get_next_queued_job_for_printer` takes the first of. -/
def Db.queueOf (d : Db) (p : PrinterID) : List (JobId × Job) :=
  d.jobsWhere (fun j => j.status = .queued ∧ j.assignedPrinter = some p) byEstimate

theorem mem_queueOf : (id, j) ∈ d.queueOf p ↔ d.job id = some j ∧ j.waitsFor p := by
  unfold Db.queueOf
  rw [mem_jobsWhere, decide_eq_true_iff]
  rfl

theorem head?_queueOf (h : (d.queueOf p).head? = some (id, j)) : d.First (fun _ => Job.waitsFor p) id j := by
  obtain ⟨hrow, hwaits⟩ := mem_queueOf.mp (List.mem_of_mem_head? h)
  refine ⟨hrow, hwaits, fun k i hk hi => ?_⟩
  have hfind : (d.queueOf p).find? (fun _ => true) = some (id, j) := by
    rw [← h]
    cases d.queueOf p <;> rfl
  exact find?_least (d.jobsWhere_ranked _) hfind (k, i) (mem_queueOf.mpr ⟨hk, hi⟩) rfl

/-- The printer is in service and waits for a job. -/
def Db.Open (d : Db) (s : Settings) (p : PrinterID) : Prop :=
  s.printerEnabled p = true ∧ (d.printers p).available = true

instance : Decidable (d.Open s p) := inferInstanceAs (Decidable (_ ∧ _))

theorem tryDispatch_closed (h : ¬ d.Open s p) : (tryDispatch s now p).commit d = (.ok none, d) := by
  refine Txn.commit_of_kept ?_
  unfold tryDispatch
  by_cases hen : s.printerEnabled p = true
  · have hav : (d.printers p).available = false := by simpa [Db.Open, hen] using h
    simp [hen, hav]
  · simp [hen]

theorem tryDispatch_result (now : Time) (h : d.Open s p) :
    ((tryDispatch s now p).commit d).1 = .ok ((d.queueOf p).head?.map fun row => (row.1, row.2.slicedPath)) := by
  have hnext : (getNextQueuedJobForPrinter p).run d = (.ok (d.queueOf p).head?, d) := rfl
  suffices hrun : ∃ d', (tryDispatch s now p).run d
      = (.ok ((d.queueOf p).head?.map fun row => (row.1, row.2.slicedPath)), d') by
    obtain ⟨d', hrun⟩ := hrun
    rw [Txn.commit_of_ok hrun]
  unfold tryDispatch
  rw [if_neg (by simp [h.1]), Txn.run_bind_of_ok getPrinterState_run]
  simp only [h.2, Bool.true_eq_false, if_false]
  rw [Txn.run_bind_of_ok hnext]
  rcases hhead : (d.queueOf p).head? with _ | ⟨id, j⟩
  · exact ⟨d, rfl⟩
  · obtain ⟨hj, hs, -⟩ := mem_queueOf.mp (List.mem_of_mem_head? hhead)
    have hswap := trySwap_run now j .queued .uploading none (by decide) hj hs
    have hupd := updatePrinterState_run (p := p) (d := d.setJob id (j.transitioned now .uploading none none)) now
      (fun st => { st with currentJobId := some id }) (show _ = d.printers p from rfl)
    simp only []
    rw [Txn.run_bind_of_ok hswap]
    simp only [if_true]
    rw [Txn.run_bind_of_ok hupd]
    exact ⟨_, rfl⟩

/-- **A dispatch takes the first job of the queue**, and never raises. -/
theorem tryDispatch_first {r : Except Exc (Option (JobId × Option String))}
    (h : (tryDispatch s now p).commit d = (r, d')) :
    (r = .ok none ∧ d' = d ∧ (d.Open s p → ∀ id j, d.job id = some j → ¬ j.waitsFor p)) ∨
    ∃ id j, r = .ok (some (id, j.slicedPath)) ∧ d.Open s p ∧ d.First (fun _ => Job.waitsFor p) id j ∧
      Move (.dispatch id p) d.floor d'.floor := by
  by_cases hopen : d.Open s p
  · have hres := tryDispatch_result now hopen
    rw [h] at hres
    change r = _ at hres
    rcases hhead : (d.queueOf p).head? with _ | ⟨id, j⟩
    · rw [hhead] at hres
      rcases tryDispatch_commit h with ⟨hr, hsame⟩ | ⟨id, j, hr, -⟩
      · refine .inl ⟨hr, hsame, fun _ id j hj hwaits => ?_⟩
        have hmem := mem_queueOf.mpr ⟨hj, hwaits⟩
        rw [List.head?_eq_none_iff.mp hhead] at hmem
        cases hmem
      · rw [hres] at hr
        cases hr
    · rw [hhead] at hres
      rcases tryDispatch_commit h with ⟨hr, -⟩ | ⟨k, i, hr, -, -, -, -, hm⟩
      · rw [hres] at hr
        cases hr
      · rw [hres] at hr
        have hid : id = k := congrArg Prod.fst (Option.some.inj (Except.ok.inj hr))
        subst hid
        exact .inr ⟨id, j, hres, hopen, head?_queueOf hhead, hm⟩
  · rw [tryDispatch_closed hopen] at h
    cases h
    exact .inl ⟨rfl, rfl, fun hno => absurd hno hopen⟩

/-! ## Fallback -/

/-- `_try_schedule_fallback` may take the job from its own printer. -/
def Job.reroutable (s : Settings) (d : Db) (target : PrinterID) (reserved : JobId → Bool) (id : JobId) (j : Job) :
    Bool :=
  !j.retryBarred && j.assignedPrinter.any (fun q => !(s.printerEnabled q && (d.printers q).available)) &&
    j.fitsOn s target && !reserved id


theorem reserveCandidate_result (s : Settings) (now : Time) (target : PrinterID) (reserved : JobId → Bool) :
    ∀ {rows : List (JobId × Job)},
      (∀ r ∈ rows, d.job r.1 = some r.2 ∧ r.2.status = .queued ∧ r.2.assignedPrinter.isSome = true) →
        ∃ d', (reserveCandidate s now target reserved rows).run d
          = (.ok ((rows.find? fun r => r.2.reroutable s d target reserved r.1).map Prod.fst), d') := by
  intro rows
  induction rows with
  | nil => exact fun _ => ⟨d, rfl⟩
  | cons row rest ih =>
      intro hrows
      obtain ⟨id, j⟩ := row
      obtain ⟨hj, hs, hassigned⟩ := hrows (id, j) List.mem_cons_self
      obtain ⟨source, hp⟩ : ∃ q, j.assignedPrinter = some q := Option.isSome_iff_exists.mp hassigned
      have hrest := ih fun r hr => hrows r (List.mem_cons_of_mem _ hr)
      unfold reserveCandidate
      rw [List.find?_cons]
      by_cases hbarred : (j.errorMessage.any fun m => startsWith fallbackFailedPrefix m) = true
      · have hno : j.reroutable s d target reserved id = false := by simp [Job.reroutable, Job.retryBarred, hbarred]
        rw [if_pos hbarred, hno]
        exact hrest
      · rw [if_neg hbarred]
        have hreroutable : j.reroutable s d target reserved id = true ↔
            ¬ (s.printerEnabled source && (d.printers source).available || !j.fitsOn s target || reserved id) = true := by
          simp [Job.reroutable, Job.retryBarred, hbarred, hp, and_assoc, imp_iff_not_or]
        simp only [hp, Txn.run_bind, getPrinterState_run, Txn.run_ite, Option.any_some]
        by_cases hok : j.reroutable s d target reserved id = true
        · have hswap := trySwap_run now j .queued .slicing none (by decide) hj hs
          rw [if_neg (hreroutable.mp hok), hok]
          simp only [hswap, if_true, addLog_run, Txn.run_pure]
          exact ⟨_, rfl⟩
        · rw [if_pos (not_not.mp (mt hreroutable.mpr hok)), Bool.eq_false_iff.mpr hok]
          exact hrest

/-- The job waits in the queue of another printer. -/
def Job.waitsElsewhere (p : PrinterID) (j : Job) : Prop := j.status = .queued ∧ ∃ q, j.assignedPrinter = some q ∧ q ≠ p

theorem mem_candidates : (id, j) ∈ d.fallbackCandidates p ↔ d.job id = some j ∧ j.waitsElsewhere p := by
  unfold Db.fallbackCandidates
  rw [mem_jobsWhere, decide_eq_true_iff]
  cases hp : j.assignedPrinter <;> simp [Job.waitsElsewhere, hp]

theorem tryScheduleFallback_closed {reserved : JobId → Bool} (h : ¬ d.Open s p) :
    (tryScheduleFallback s now p reserved).commit d = (.ok none, d) := by
  refine Txn.commit_of_kept ?_
  unfold tryScheduleFallback
  by_cases hen : s.printerEnabled p = true
  · have hav : (d.printers p).available = false := by simpa [Db.Open, hen] using h
    simp [hen, hav]
  · simp [hen]

theorem tryScheduleFallback_result (now : Time) (reserved : JobId → Bool) (h : d.Open s p) :
    ((tryScheduleFallback s now p reserved).commit d).1
      = .ok (((d.fallbackCandidates p).find? fun r => r.2.reroutable s d p reserved r.1).map Prod.fst) := by
  have hrows : ∀ r ∈ d.fallbackCandidates p,
      d.job r.1 = some r.2 ∧ r.2.status = .queued ∧ r.2.assignedPrinter.isSome = true := by
    rintro ⟨id, j⟩ hr
    obtain ⟨hj, hs, q, hq, -⟩ := mem_candidates.mp hr
    exact ⟨hj, hs, by rw [hq]; rfl⟩
  obtain ⟨d', hrun⟩ := reserveCandidate_result s now p reserved hrows
  have hcall : (tryScheduleFallback s now p reserved).run d
      = (reserveCandidate s now p reserved (d.fallbackCandidates p)).run d := by
    simp [tryScheduleFallback, h.1, h.2, Db.fallbackCandidates]
  rw [hrun] at hcall
  rw [Txn.commit_of_ok hcall]

/-- The jobs that `_try_schedule_fallback` may take for the printer. -/
def Job.candidate (s : Settings) (d : Db) (p : PrinterID) (reserved : JobId → Bool) (id : JobId) (j : Job) : Prop :=
  j.waitsElsewhere p ∧ j.reroutable s d p reserved id = true

/-- **A fallback takes the first candidate**, and never raises. -/
theorem tryScheduleFallback_first {reserved : JobId → Bool} {r : Except Exc (Option JobId)}
    (h : (tryScheduleFallback s now p reserved).commit d = (r, d')) :
    (r = .ok none ∧ d' = d ∧ (d.Open s p → ∀ id j, d.job id = some j → ¬ j.candidate s d p reserved id)) ∨
    ∃ id j, r = .ok (some id) ∧ d.Open s p ∧ d.First (fun k i => i.candidate s d p reserved k) id j ∧
      d'.floor = d.floor.setJob id (j.transitioned now .slicing none none) := by
  by_cases hopen : d.Open s p
  · have hres := tryScheduleFallback_result now reserved hopen
    rw [h] at hres
    change r = _ at hres
    rcases hfind : (d.fallbackCandidates p).find? fun r => r.2.reroutable s d p reserved r.1 with _ | ⟨id, j⟩
    · rw [hfind] at hres
      rcases tryScheduleFallback_commit h with ⟨hsame, -⟩ | ⟨id, -, -, hr, -⟩
      · refine .inl ⟨hres, hsame, fun _ id j hj hcand => ?_⟩
        exact List.find?_eq_none.mp hfind (id, j) (mem_candidates.mpr ⟨hj, hcand.1⟩) hcand.2
      · rw [hres] at hr
        cases hr
    · rw [hfind] at hres
      obtain ⟨hj, hwaits⟩ := mem_candidates.mp (List.mem_of_find?_eq_some hfind)
      have hleast := find?_least (d.jobsWhere_ranked _) hfind
      have hok : j.reroutable s d p reserved id = true := by
        simpa using List.find?_some hfind
      rcases tryScheduleFallback_commit h with ⟨-, hno⟩ | ⟨k, i, -, hr, hk, -, -, -, -, -, -, hf⟩
      · exact absurd hres (hno id)
      · rw [hres] at hr
        cases hr
        cases Option.some.inj (hk.symm.trans hj)
        refine .inr ⟨id, j, hres, hopen, ⟨hj, ⟨hwaits, hok⟩, fun k' i' hk' hi' => ?_⟩, hf⟩
        exact hleast (k', i') (mem_candidates.mpr ⟨hk', hi'.1⟩) hi'.2
  · rw [tryScheduleFallback_closed hopen] at h
    cases h
    exact .inl ⟨rfl, rfl, fun hno => absurd hno hopen⟩

/-! ## The queue loop at a printer -/

section visits

variable {s s' : Service} {e : Event} {rest : List PrinterID}

/-- The loop has come to the printer: it dispatched the first job of its queue, or there was none to dispatch. -/
inductive Visit (s : Service) (p : PrinterID) (rest : List PrinterID) : Service → Prop
  | dispatched {d : Db} {id : JobId} {j : Job} (hopen : s.db.Open s.settings p)
      (hfirst : s.db.First (fun _ => Job.waitsFor p) id j) (hm : Move (.dispatch id p) s.db.floor d.floor) :
      Visit s p rest { (s.commitDb d).record (.dispatched id p (s.live p).gcodeState) with
        handoffs := s.handoffs ++ [⟨id, p, j.slicedPath, .begin⟩]
        loop := .dispatching rest }
  | passed (hno : s.db.Open s.settings p → ∀ id j, s.db.job id = some j → ¬ j.waitsFor p) :
      Visit s p rest { s with loop := .fallback p rest }

theorem tickStep_visit (hloop : s.loop = .dispatching (p :: rest)) : Visit s p rest s.tickStep := by
  unfold Service.tickStep
  simp only [hloop]
  rcases hc : (tryDispatch s.settings s.clock p).commit s.db with ⟨r, d⟩
  obtain ⟨rfl, rfl, hno⟩ | ⟨id, j, rfl, hopen, hfirst, hm⟩ := tryDispatch_first hc
  · exact .passed hno
  · exact .dispatched hopen hfirst hm

/-- It has come to the printer a second time, since there was nothing to dispatch: it took the first candidate from the
    other queues, or there was none. -/
inductive FallbackVisit (s : Service) (p : PrinterID) (rest : List PrinterID) : Service → Prop
  | rerouted {d : Db} {id : JobId} {j : Job} (hopen : s.db.Open s.settings p)
      (hfirst : s.db.First (fun k i => i.candidate s.settings s.db p s.reserved k) id j)
      (hf : d.floor = s.db.floor.setJob id (j.transitioned s.clock .slicing none none)) :
      FallbackVisit s p rest { (s.commitDb d).setSlice id (some (.recheck p)) with loop := .dispatching rest }
  | passed (hno : s.db.Open s.settings p → ∀ id j, s.db.job id = some j → ¬ j.candidate s.settings s.db p s.reserved id) :
      FallbackVisit s p rest { s with loop := .dispatching rest }

theorem tickStep_fallbackVisit (hloop : s.loop = .fallback p rest) : FallbackVisit s p rest s.tickStep := by
  unfold Service.tickStep
  simp only [hloop]
  rcases hc : (tryScheduleFallback s.settings s.clock p s.reserved).commit s.db with ⟨r, d⟩
  obtain ⟨rfl, rfl, hno⟩ | ⟨id, j, rfl, hopen, hfirst, hf⟩ := tryScheduleFallback_first hc
  · exact .passed hno
  · exact .rerouted hopen hfirst hf

theorem Visit.loop (h : Visit s p rest s') : s'.loop = .dispatching rest ∨ s'.loop = .fallback p rest := by
  cases h with
  | dispatched => exact .inl rfl
  | passed => exact .inr rfl

theorem FallbackVisit.loop (h : FallbackVisit s p rest s') : s'.loop = .dispatching rest := by
  cases h <;> rfl

theorem liveStep_loop {ev : LiveEvent} (h : s.liveStep p ev = some s') : s'.loop = s.loop := by
  cases ev <;> simp only [Service.liveStep] at h
  case connectFailed => cases h; rfl
  all_goals
    split at h <;> cases h
    rfl

/-- **Only the loop moves the loop**, and it takes a running process; or the process starts or stops. -/
theorem Trans.loop (ht : Trans s e s') :
    s'.loop = s.loop ∧ (s'.phase = s.phase ∨ s'.phase = .running) ∨ s'.loop = .sleeping ∧ (e = .crash ∨ s.phase = .down) ∨
      e = .tick ∧ s.phase = .running ∧ s'.phase = .running := by
  cases ht with
  | same | clock | cancel | upload | clear | acknowledge => exact .inl ⟨rfl, .inl rfl⟩
  | reconcile => exact .inl ⟨rfl, .inr rfl⟩
  | boot hphase => exact .inr (.inl ⟨rfl, .inr hphase⟩)
  | crash => exact .inr (.inl ⟨rfl, .inl rfl⟩)
  | live _ hstep => exact .inl ⟨liveStep_loop hstep, .inl (liveStep_frame hstep).phase⟩
  | callback _ hcall => cases hcall <;> exact .inl ⟨rfl, .inl rfl⟩
  | slice _ _ hslice => cases hslice <;> exact .inl ⟨rfl, .inl rfl⟩
  | handoff _ _ hhand => cases hhand <;> exact .inl ⟨rfl, .inl rfl⟩
  | tick hrun htick => exact .inr (.inr ⟨rfl, hrun, by cases htick <;> exact hrun⟩)

end visits

end BambuBabu
