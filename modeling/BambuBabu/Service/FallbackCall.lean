import BambuBabu.Runs.Code
import BambuBabu.Service.SlicingPool

/-!
# `Service.FallbackCall` — `_try_schedule_fallback` when the database or the executor fails

`SlicingPool.fallbackStep` is a call that nothing disturbs. Here every operation of the call may raise: its reads,
the compare-and-swap, the log insert, the commit at the end of its block and the submit. `_slicing_jobs` is not part
of the transaction, so what the call has done to the set stays.

* `reserveNext`, `scheduleFallback` — the source, statement by statement.
* `picked` — the job the call reserves and does not give back.
* `fallbackCall_cases` — how a call ends; `fallbackCall_undisturbed`: without a failure it is `fallbackStep`.
-/

namespace BambuBabu

open Storage Runs

/-- Where the call can raise. A swap that raises a `JobTransitionError` is a lost one. -/
inductive FallbackPoint where
  | targetState | candidates
  | sourceState (id : JobId)
  | swap (id : JobId)
  | addLog | commit | submit
  deriving DecidableEq

/-- What the block of the call works on: `_slicing_jobs`, and the working copy of its session. -/
structure Desk where
  slicingJobs : Finset JobId
  session : Db

/-- Statements of the session. -/
def Desk.statements {α : Type} (t : Tx α) : Code Desk Exc α :=
  .act fun k => ((t.run k.session).1, { k with session := (t.run k.session).2 })

variable (fails : FallbackPoint → Option Exc)

/-- The row is marked: fallback has failed for the job once. -/
def Job.retryBarred (job : Job) : Bool := job.errorMessage.any fun m => startsWith fallbackFailedPrefix m

/-- The `try` block around the compare-and-swap: whether it succeeded. -/
def swapReserved (now : Time) (id : JobId) (job : Job) : Code Desk Exc Bool :=
  tryCatch
    (do
      Code.attempt fails (.swap id)
      let _ ← Desk.statements (transitionJobStatus now (some job) id [.queued] .slicing none none)
      return true)
    fun e => match e with
      | .jobTransitionError _ => do
          Code.assign fun k => { k with slicingJobs := k.slicingJobs.erase id }
          return false
      | e => throw e

/-- The `for job in candidates` loop. -/
def reserveNext (s : Settings) (now : Time) (target : PrinterID) :
    List (JobId × Job) → Code Desk Exc (Option JobId)
  | [] => return none
  | (id, job) :: rest => do
    if job.retryBarred then reserveNext s now target rest
    else
      match job.assignedPrinter with
      | none => throw (.other "'NoneType' object has no attribute 'value'")
      | some source =>
        Code.attempt fails (.sourceState id)
        let sourceState ← Desk.statements (getPrinterState source)
        let sourceAvailable := s.printerEnabled source && sourceState.any PrinterState.available
        if sourceAvailable || !job.fitsOn s target then reserveNext s now target rest
        else
          let reserved ← .act fun k => (.ok (decide (id ∈ k.slicingJobs)), k)
          if reserved then reserveNext s now target rest
          else
            Code.assign fun k => { k with slicingJobs := insert id k.slicingJobs }
            let swapped ← swapReserved fails now id job
            if swapped then
              Code.attempt fails .addLog
              Desk.statements (addLog now "FALLBACK_SCHEDULED"
                s!"{source.value} unavailable; preparing {target.value}" .info (some id) (some target.value) none)
              return some id
            else reserveNext s now target rest

/-- The rows the call goes through. -/
def Db.fallbackCandidates (d : Db) (target : PrinterID) : List (JobId × Job) :=
  d.jobsWhere (fun j => j.status = .queued ∧ j.assignedPrinter.any (· ≠ target)) byEstimate

/-- The block of the call. -/
def fallbackBlock (s : Settings) (now : Time) (target : PrinterID) : Code Desk Exc (Option JobId) := do
  if s.printerEnabled target = false then return none
  else
    Code.attempt fails .targetState
    match ← Desk.statements (getPrinterState target) with
    | none => return none
    | some st =>
      if st.available = false then return none
      else
        Code.attempt fails .candidates
        let candidates ← Desk.statements (Txn.select fun d => d.fallbackCandidates target)
        reserveNext fails s now target candidates

namespace SlicingPool

/-- Leaving a `with SessionLocal.begin()` block: commit what it has written, or roll back. -/
def endBlock {α : Type} (p : SlicingPool) : Except Exc α × Desk → Except Exc α × SlicingPool
  | (.error e, k) => (.error e, { p with slicingJobs := k.slicingJobs })
  | (.ok a, k) =>
      match fails .commit with
      | some e => (.error e, { p with slicingJobs := k.slicingJobs })
      | none => (.ok a, { p with slicingJobs := k.slicingJobs, service := p.service.commitDb k.session })

/-- `with SessionLocal.begin()` -/
def begin {α : Type} (block : Code Desk Exc α) : Code SlicingPool Exc α :=
  .act fun p => endBlock fails p (block.exec ⟨p.slicingJobs, p.service.db⟩)

/-- `_try_schedule_fallback` -/
def scheduleFallback (s : Settings) (now : Time) (target : PrinterID) : Code SlicingPool Exc Bool := do
  match ← begin fails (fallbackBlock fails s now target) with
  | none => return false
  | some id =>
    Code.attempt fails .submit
    Code.assign fun p => { p with tasks := p.tasks ++ [(id, .recheck target)] }
    return true

/-- After the call: an exception ends the tick, and `_loop` logs it. -/
def afterFallback (rest : List PrinterID) : Except Exc Bool × SlicingPool → SlicingPool
  | (.ok _, p) => { p with service := { p.service with loop := .dispatching rest } }
  | (.error _, p) => { p with service := { p.service with loop := .sleeping } }

/-- The call, for target `q`. -/
def fallbackCall (p : SlicingPool) (q : PrinterID) (rest : List PrinterID) : SlicingPool :=
  afterFallback rest ((scheduleFallback fails p.service.settings p.service.clock q).exec p)

end SlicingPool

/-! ## What the loop reserves -/

/-- The job that the loop reserves and does not give back; `none` also when a read ends the loop before. -/
def picked (s : Settings) (d : Db) (target : PrinterID) (set : Finset JobId) : List (JobId × Job) → Option JobId
  | [] => none
  | (id, job) :: rest =>
    if job.retryBarred then picked s d target set rest
    else
      match job.assignedPrinter with
      | none => none
      | some source =>
        if (fails (.sourceState id)).isSome then none
        else if (s.printerEnabled source && (d.printers source).available) || !job.fitsOn s target ||
            decide (id ∈ set) then
          picked s d target set rest
        else
          match fails (.swap id) with
          | some (.jobTransitionError _) => picked s d target set rest
          | _ => some id

/-- The same for the whole call. -/
def pickedByCall (s : Settings) (d : Db) (target : PrinterID) (set : Finset JobId) : Option JobId :=
  if s.printerEnabled target = false then none
  else if (fails .targetState).isSome then none
  else if (d.printers target).available = false then none
  else if (fails .candidates).isSome then none
  else picked fails s d target set (d.fallbackCandidates target)

/-- How the loop ends when it reserves `o`: without a trace, with a reservation and its task still to come, or with
    a reservation and an exception. -/
inductive LoopEnd (set : Finset JobId) (d : Db) : Option JobId → Except Exc (Option JobId) × Desk → Prop
  | nothing {r : Except Exc (Option JobId)} (hr : ∀ id, r ≠ .ok (some id)) : LoopEnd set d none (r, ⟨set, d⟩)
  | reserved {id : JobId} {d' : Db} (hnew : id ∉ set) (hswap : fails (.swap id) = none)
      (hlog : fails .addLog = none) : LoopEnd set d (some id) (.ok (some id), ⟨insert id set, d'⟩)
  | raised {id : JobId} {d' : Db} {e : Exc} (hnew : id ∉ set)
      (hfail : fails (.swap id) ≠ none ∨ fails .addLog ≠ none) :
      LoopEnd set d (some id) (.error e, ⟨insert id set, d'⟩)

variable {fails} {s : Settings} {now : Time} {target : PrinterID} {set : Finset JobId} {d : Db} {id : JobId}
  {job : Job}

/-- Reading a printer's row changes nothing. -/
theorem exec_printerState (p : PrinterID) (set : Finset JobId) (d : Db) :
    (Desk.statements (getPrinterState p)).exec ⟨set, d⟩ = (.ok (some (d.printers p)), ⟨set, d⟩) := rfl

theorem exec_isReserved (id : JobId) (set : Finset JobId) (d : Db) :
    (Code.act fun k : Desk => (.ok (decide (id ∈ k.slicingJobs)), k) : Code Desk Exc Bool).exec ⟨set, d⟩
      = (.ok (decide (id ∈ set)), ⟨set, d⟩) := rfl

/-- A candidate that is neither barred nor reserved. -/
theorem not_barred {barred : Bool} (hbarred : ¬ barred = true) (hmem : id ∉ set) :
    ¬ (barred || decide (id ∈ set)) = true := by
  rw [decide_eq_false hmem, Bool.or_false]
  exact hbarred

/-- A swap that is not disturbed succeeds. -/
theorem swapReserved_of_none (hf : fails (.swap id) = none) (hj : d.job id = some job)
    (hs : job.status = .queued) :
    (swapReserved fails now id job).exec ⟨set, d⟩
      = (.ok true, ⟨set, d.setJob id (job.transitioned now .slicing none none)⟩) := by
  have hrun := transition_run now (some job) [.queued] .slicing none none (by decide) hj (by simpa using hs)
  have hstatement : (Desk.statements (transitionJobStatus now (some job) id [.queued] .slicing none none)).exec
      ⟨set, d⟩ = (.ok (job.transitioned now .slicing none none),
        ⟨set, d.setJob id (job.transitioned now .slicing none none)⟩) := by
    rw [Desk.statements, Code.exec_act, hrun]
  unfold swapReserved
  rw [Code.exec_tryCatch, Code.exec_bind_of_ok (Code.exec_attempt_of_none hf _), Code.exec_bind_of_ok hstatement]
  rfl

/-- A swap that is lost gives the reservation back. -/
theorem swapReserved_of_lost {m : String} (hf : fails (.swap id) = some (.jobTransitionError m))
    (hnew : id ∉ set) : (swapReserved fails now id job).exec ⟨insert id set, d⟩ = (.ok false, ⟨set, d⟩) := by
  unfold swapReserved
  rw [Code.exec_tryCatch, Code.exec_bind_of_error (Code.exec_attempt_of_some hf _)]
  show (Except.ok false, Desk.mk ((insert id set).erase id) d) = _
  rw [Finset.erase_insert hnew]

/-- Any other exception leaves it in place. -/
theorem swapReserved_of_error {e : Exc} (hf : fails (.swap id) = some e) (he : ∀ m, e ≠ .jobTransitionError m) :
    (swapReserved fails now id job).exec ⟨set, d⟩ = (.error e, ⟨set, d⟩) := by
  unfold swapReserved
  rw [Code.exec_tryCatch, Code.exec_bind_of_error (Code.exec_attempt_of_some hf _)]
  cases e with
  | jobTransitionError m => exact absurd rfl (he m)
  | printStartUnconfirmed | printStartRejected | runtimeError | httpException | other => rfl

/-- **The loop**: it reserves what `picked` says. -/
theorem reserveNext_end : ∀ {rows : List (JobId × Job)},
    (∀ r ∈ rows, d.job r.1 = some r.2 ∧ r.2.status = .queued) →
    LoopEnd fails set d (picked fails s d target set rows) ((reserveNext fails s now target rows).exec ⟨set, d⟩) := by
  intro rows
  induction rows with
  | nil =>
      intro _
      apply LoopEnd.nothing
      intro id hid
      cases hid
  | cons row rest ih =>
      intro hrows
      obtain ⟨id, job⟩ := row
      obtain ⟨hj, hs⟩ := hrows (id, job) List.mem_cons_self
      have hrest := ih fun r hr => hrows r (List.mem_cons_of_mem _ hr)
      unfold reserveNext picked
      split
      · exact hrest
      split
      · apply LoopEnd.nothing
        intro id hid
        cases hid
      next source _ =>
      cases hsource : fails (.sourceState id) with
      | some e =>
          rw [Code.exec_bind_of_error (Code.exec_attempt_of_some hsource _)]
          apply LoopEnd.nothing
          intro id hid
          cases hid
      | none =>
      rw [Code.exec_bind_of_ok (Code.exec_attempt_of_none hsource _),
        Code.exec_bind_of_ok (exec_printerState source set d)]
      simp only [Option.isSome_none, Bool.false_eq_true, if_false, Option.any_some]
      by_cases heligible : (s.printerEnabled source && (d.printers source).available || !job.fitsOn s target) = true
      · rw [if_pos heligible, if_pos (by rw [heligible, Bool.true_or])]
        exact hrest
      rw [if_neg heligible]
      rw [Code.exec_bind_of_ok (exec_isReserved id set d)]
      by_cases hmem : id ∈ set
      · rw [if_pos (decide_eq_true hmem), if_pos (by rw [decide_eq_true hmem, Bool.or_true])]
        exact hrest
      rw [if_neg (not_barred heligible hmem), if_neg (fun hin => hmem (of_decide_eq_true hin))]
      -- the reservation is taken; from here on an exception leaves it behind
      rw [Code.exec_bind_of_ok (Code.exec_assign _ _)]
      cases hswap : fails (.swap id) with
      | none =>
          rw [Code.exec_bind_of_ok (swapReserved_of_none hswap hj hs), if_pos rfl]
          cases hlog : fails .addLog with
          | none =>
              rw [Code.exec_bind_of_ok (Code.exec_attempt_of_none hlog _)]
              exact .reserved hmem hswap hlog
          | some e =>
              rw [Code.exec_bind_of_error (Code.exec_attempt_of_some hlog _)]
              exact .raised hmem (.inr (by rw [hlog]; exact Option.some_ne_none e))
      | some e =>
          by_cases hlost : ∃ m, e = .jobTransitionError m
          · obtain ⟨m, rfl⟩ := hlost
            rw [Code.exec_bind_of_ok (swapReserved_of_lost hswap hmem)]
            exact hrest
          · have he : ∀ m, e ≠ .jobTransitionError m := fun m hm => hlost ⟨m, hm⟩
            rw [Code.exec_bind_of_error (swapReserved_of_error hswap he)]
            have hraised : fails (.swap id) ≠ none ∨ fails .addLog ≠ none :=
              .inl (by rw [hswap]; exact Option.some_ne_none e)
            cases e with
            | jobTransitionError m => exact absurd rfl (he m)
            | printStartUnconfirmed | printStartRejected | runtimeError | httpException | other =>
                exact .raised hmem hraised

theorem mem_fallbackCandidates {row : JobId × Job} (h : row ∈ d.fallbackCandidates target) :
    d.job row.1 = some row.2 ∧ row.2.status = .queued := by
  obtain ⟨hj, hq⟩ := mem_jobsWhere.mp h
  exact ⟨hj, (of_decide_eq_true hq).1⟩

/-- The block ends as its loop does. -/
theorem fallbackBlock_end : LoopEnd fails set d (pickedByCall fails s d target set)
    ((fallbackBlock fails s now target).exec ⟨set, d⟩) := by
  have hnothing : ∀ {r : Except Exc (Option JobId)}, r = .ok none ∨ (∃ e, r = .error e) →
      LoopEnd fails set d none (r, ⟨set, d⟩) := by
    rintro r (rfl | ⟨e, rfl⟩) <;> exact .nothing fun id hid => by cases hid
  unfold fallbackBlock pickedByCall
  by_cases hen : s.printerEnabled target = false
  · rw [if_pos hen, if_pos hen]
    exact hnothing (.inl rfl)
  rw [if_neg hen, if_neg hen]
  cases hstate : fails .targetState with
  | some e =>
      rw [Code.exec_bind_of_error (Code.exec_attempt_of_some hstate _)]
      exact hnothing (.inr ⟨e, rfl⟩)
  | none =>
  rw [Code.exec_bind_of_ok (Code.exec_attempt_of_none hstate _),
    Code.exec_bind_of_ok (exec_printerState target set d)]
  simp only [Option.isSome_none, Bool.false_eq_true, if_false]
  by_cases hav : (d.printers target).available = false
  · rw [if_pos hav, if_pos hav]
    exact hnothing (.inl rfl)
  rw [if_neg hav, if_neg hav]
  cases hcand : fails .candidates with
  | some e =>
      rw [Code.exec_bind_of_error (Code.exec_attempt_of_some hcand _)]
      exact hnothing (.inr ⟨e, rfl⟩)
  | none =>
  have hquery : (Desk.statements (Txn.select fun d => d.fallbackCandidates target)).exec ⟨set, d⟩
      = (.ok (d.fallbackCandidates target), ⟨set, d⟩) := rfl
  rw [Code.exec_bind_of_ok (Code.exec_attempt_of_none hcand _), Code.exec_bind_of_ok hquery]
  exact reserveNext_end fun row hrow => mem_fallbackCandidates hrow

/-! ## How a call ends -/

/-- Nothing is raised once the reservation of the job is taken for good. -/
structure Undisturbed (fails : FallbackPoint → Option Exc) (id : JobId) : Prop where
  swap : fails (.swap id) = none
  addLog : fails .addLog = none
  commit : fails .commit = none
  submit : fails .submit = none

section call

variable {p : SlicingPool} {q : PrinterID} {rest : List PrinterID}

/-- **The end of a call**: no job is reserved; or one is, and its task is submitted unless an exception came in
    between. -/
theorem fallbackCall_cases (p : SlicingPool) (q : PrinterID) (rest : List PrinterID) :
    (pickedByCall fails p.service.settings p.service.db q p.slicingJobs = none ∧
      (p.fallbackCall fails q rest).slicingJobs = p.slicingJobs ∧ (p.fallbackCall fails q rest).tasks = p.tasks) ∨
    ∃ id, pickedByCall fails p.service.settings p.service.db q p.slicingJobs = some id ∧ id ∉ p.slicingJobs ∧
      (p.fallbackCall fails q rest).slicingJobs = insert id p.slicingJobs ∧
      ((Undisturbed fails id ∧ (p.fallbackCall fails q rest).tasks = p.tasks ++ [(id, .recheck q)]) ∨
        (¬ Undisturbed fails id ∧ (p.fallbackCall fails q rest).tasks = p.tasks)) := by
  have hend : LoopEnd fails p.slicingJobs p.service.db
      (pickedByCall fails p.service.settings p.service.db q p.slicingJobs)
      ((fallbackBlock fails p.service.settings p.service.clock q).exec ⟨p.slicingJobs, p.service.db⟩) :=
    fallbackBlock_end
  have hbegin : (SlicingPool.begin fails (fallbackBlock fails p.service.settings p.service.clock q)).exec p
      = SlicingPool.endBlock fails p
        ((fallbackBlock fails p.service.settings p.service.clock q).exec ⟨p.slicingJobs, p.service.db⟩) := rfl
  unfold SlicingPool.fallbackCall SlicingPool.scheduleFallback
  -- from here on only the end of the loop matters, not the program that led to it
  generalize (fallbackBlock fails p.service.settings p.service.clock q).exec ⟨p.slicingJobs, p.service.db⟩ = out
    at hend hbegin
  generalize pickedByCall fails p.service.settings p.service.db q p.slicingJobs = o at hend
  cases hend with
  | nothing hr =>
      rename_i r
      refine .inl ⟨rfl, ?_⟩
      rcases r with e | _ | id
      · rw [Code.exec_bind_of_error hbegin]
        exact ⟨rfl, rfl⟩
      · cases hcommit : fails .commit with
        | some e =>
            simp only [SlicingPool.endBlock, hcommit] at hbegin
            rw [Code.exec_bind_of_error hbegin]
            exact ⟨rfl, rfl⟩
        | none =>
            simp only [SlicingPool.endBlock, hcommit] at hbegin
            rw [Code.exec_bind_of_ok hbegin]
            exact ⟨rfl, rfl⟩
      · exact absurd rfl (hr id)
  | @raised id d' e hnew hfail =>
      refine .inr ⟨id, rfl, hnew, ?_⟩
      rw [Code.exec_bind_of_error hbegin]
      refine ⟨rfl, .inr ⟨?_, rfl⟩⟩
      intro hun
      exact hfail.elim (· hun.swap) (· hun.addLog)
  | @reserved id d' hnew hswap hlog =>
      refine .inr ⟨id, rfl, hnew, ?_⟩
      -- two points are left: the commit at the end of the block, and the submit after it
      cases hcommit : fails .commit with
      | some e =>
          simp only [SlicingPool.endBlock, hcommit] at hbegin
          rw [Code.exec_bind_of_error hbegin]
          refine ⟨rfl, .inr ⟨?_, rfl⟩⟩
          intro hun
          cases hcommit.symm.trans hun.commit
      | none =>
          simp only [SlicingPool.endBlock, hcommit] at hbegin
          rw [Code.exec_bind_of_ok hbegin]
          cases hsubmit : fails .submit with
          | some e =>
              show (SlicingPool.afterFallback rest (Code.exec (Code.attempt fails .submit >>= _) _)).slicingJobs = _ ∧ _
              rw [Code.exec_bind_of_error (Code.exec_attempt_of_some hsubmit _)]
              refine ⟨rfl, .inr ⟨?_, rfl⟩⟩
              intro hun
              cases hsubmit.symm.trans hun.submit
          | none =>
              show (SlicingPool.afterFallback rest (Code.exec (Code.attempt fails .submit >>= _) _)).slicingJobs = _ ∧ _
              rw [Code.exec_bind_of_ok (Code.exec_attempt_of_none hsubmit _)]
              exact ⟨rfl, .inl ⟨⟨hswap, hlog, hcommit, hsubmit⟩, rfl⟩⟩

end call

/-! ## Without a failure -/

/-- The desk that the transaction of `tryScheduleFallback` leaves. -/
def Desk.after (set : Finset JobId) : Except Exc (Option JobId) × Db → Except Exc (Option JobId) × Desk
  | (.ok (some id), d) => (.ok (some id), ⟨insert id set, d⟩)
  | (r, d) => (r, ⟨set, d⟩)

/-- The operations of the call return. -/
abbrev undisturbed : FallbackPoint → Option Exc := fun _ => none

/-- The loop reserves what the transaction reserves. -/
theorem reserveNext_undisturbed : ∀ {rows : List (JobId × Job)},
    (∀ r ∈ rows, d.job r.1 = some r.2 ∧ r.2.status = .queued) →
    (reserveNext undisturbed s now target rows).exec ⟨set, d⟩ =
      Desk.after set ((reserveCandidate s now target (fun id => decide (id ∈ set)) rows).run d) := by
  intro rows
  induction rows with
  | nil => exact fun _ => rfl
  | cons row rest ih =>
      intro hrows
      obtain ⟨id, job⟩ := row
      obtain ⟨hj, hs⟩ := hrows (id, job) List.mem_cons_self
      have hrest := ih fun r hr => hrows r (List.mem_cons_of_mem _ hr)
      unfold reserveNext reserveCandidate
      simp only [Txn.run_ite]
      have hbar : (job.errorMessage.any fun m => startsWith fallbackFailedPrefix m) = job.retryBarred := rfl
      rw [hbar]
      -- each `continue` of the loop is a branch of `reserveCandidate`
      by_cases hbarred : job.retryBarred = true
      · rw [if_pos hbarred, if_pos hbarred]
        exact hrest
      rw [if_neg hbarred, if_neg hbarred]
      cases job.assignedPrinter with
      | none => rfl
      | some source =>
      simp only [Txn.run_bind, getPrinterState_run, Txn.run_ite]
      rw [Code.exec_bind_of_ok (Code.exec_attempt_of_none rfl _),
        Code.exec_bind_of_ok (exec_printerState source set d)]
      simp only [Option.any_some]
      by_cases heligible : (s.printerEnabled source && (d.printers source).available || !job.fitsOn s target) = true
      · rw [if_pos heligible, if_pos (by rw [heligible, Bool.true_or])]
        exact hrest
      rw [if_neg heligible, Code.exec_bind_of_ok (exec_isReserved id set d)]
      by_cases hmem : id ∈ set
      · rw [if_pos (decide_eq_true hmem), if_pos (by rw [decide_eq_true hmem, Bool.or_true])]
        exact hrest
      have hswap := trySwap_run now job .queued .slicing none (by decide) hj hs
      have hswapped : (swapReserved undisturbed now id job).exec ⟨insert id set, d⟩
          = (.ok true, ⟨insert id set, d.setJob id (job.transitioned now .slicing none none)⟩) :=
        swapReserved_of_none rfl hj hs
      rw [if_neg fun hin => hmem (of_decide_eq_true hin), if_neg (not_barred heligible hmem), Code.exec_bind_of_ok (Code.exec_assign _ _),
        Code.exec_bind_of_ok hswapped, if_pos rfl, Code.exec_bind_of_ok (Code.exec_attempt_of_none rfl _), hswap]
      rfl

theorem fallbackBlock_undisturbed : (fallbackBlock undisturbed s now target).exec ⟨set, d⟩ =
    Desk.after set ((tryScheduleFallback s now target fun id => decide (id ∈ set)).run d) := by
  unfold fallbackBlock tryScheduleFallback
  simp only [Txn.run_ite]
  by_cases hen : s.printerEnabled target = false
  · rw [if_pos hen, if_pos hen]
    rfl
  rw [if_neg hen, if_neg hen]
  rw [Code.exec_bind_of_ok (Code.exec_attempt_of_none rfl _),
    Code.exec_bind_of_ok (exec_printerState target set d), Txn.run_bind,
    getPrinterState_run]
  simp only [Txn.run_ite]
  by_cases hav : (d.printers target).available = false
  · rw [if_pos hav, if_pos hav]
    rfl
  rw [if_neg hav, if_neg hav]
  have hquery : (Desk.statements (Txn.select fun d => d.fallbackCandidates target)).exec ⟨set, d⟩
      = (.ok (d.fallbackCandidates target), ⟨set, d⟩) := rfl
  rw [Code.exec_bind_of_ok (Code.exec_attempt_of_none rfl _), Code.exec_bind_of_ok hquery]
  exact reserveNext_undisturbed fun row hrow => mem_fallbackCandidates hrow

/-- **A call that nothing disturbs** is the one of the pool. -/
theorem fallbackCall_undisturbed (p : SlicingPool) (q : PrinterID) (rest : List PrinterID) :
    p.fallbackCall undisturbed q rest = p.fallbackStep q rest := by
  have hbegin : (SlicingPool.begin undisturbed (fallbackBlock undisturbed p.service.settings p.service.clock q)).exec p
      = SlicingPool.endBlock undisturbed p (Desk.after p.slicingJobs
        ((tryScheduleFallback p.service.settings p.service.clock q p.reserved).run p.service.db)) := by
    show SlicingPool.endBlock undisturbed p
      ((fallbackBlock undisturbed p.service.settings p.service.clock q).exec ⟨p.slicingJobs, p.service.db⟩) = _
    rw [fallbackBlock_undisturbed]
    rfl
  unfold SlicingPool.fallbackCall SlicingPool.scheduleFallback SlicingPool.fallbackStep Txn.commit
  generalize (tryScheduleFallback p.service.settings p.service.clock q p.reserved).run p.service.db = out at hbegin ⊢
  rcases out with ⟨e | _ | id, d⟩
  · rw [Code.exec_bind_of_error hbegin]
    rfl
  · rw [Code.exec_bind_of_ok hbegin]
    rfl
  · rw [Code.exec_bind_of_ok hbegin]
    rfl

end BambuBabu
