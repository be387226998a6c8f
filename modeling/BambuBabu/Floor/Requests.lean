import BambuBabu.Api.Jobs
import BambuBabu.Api.Printers
import BambuBabu.Core.QueueProcessor
import BambuBabu.Floor.Drafts

/-!
# `Floor.Requests` — every transaction of the service, under interference

The transactions of the service with their arguments, and what each of them commits while any number of others
run: a `Finished` draft, so that statuses move along the graph, a cancelled job is left alone and every status
change has its entry in the log. Plate clearing is the exception to the last of these.
-/

namespace BambuBabu

open Storage

/-- The status stays, or moves along an edge. -/
def JobStatus.Advances (a c : JobStatus) : Prop := c = a ∨ c ∈ allowedJobTransitions a

/-- No status has changed yet. -/
abbrev Unmoved : Db → Db → Prop := Draft Eq none none

/-- The log entry of the job is still to be written. -/
abbrev Owing (id : JobId) : Db → Db → Prop := Draft JobStatus.Advances none (some id)

/-- What a transaction commits. -/
abbrev Finished : Db → Db → Prop := Draft JobStatus.Advances none none

section rules

variable {v : View Db} {risky : Option JobId} {now : Time} {id : JobId} {p : PrinterID} {d : Db}

theorem JobStatus.Advances.refl (a : JobStatus) : a.Advances a := .inl rfl

theorem unmoved_finished (hv : v.Sat Unmoved) : v.Sat Finished :=
  hv.mono fun _ _ hd => hd.weaken (fun _ _ heq => .inl heq.symm) (fun _ h => h) fun _ h => h

/-- A SELECT of a job row. -/
theorem getJob_ensures {A : Db → Db → Prop} (hv : v.Sat A) :
    (getJob id).Ensures Later (fun _ v' => v'.Sat A) v :=
  .select fun _ _ hs => hs.sat hv

/-- The first swap of a transaction. -/
theorem swap_ensures {loaded : Option Job} {expected : List JobStatus} {new : JobStatus}
    {err rej : Option String} (hv : v.Sat (Draft Eq risky none)) (hrisk : ∀ k, risky = some k → k = id) :
    (transitionJobStatus now loaded id expected new err rej).Ensures Later
      (fun _ v' => v'.Sat (Owing id) ∧ v'.current.statusOf id = some new) v := by
  refine transition_ensures hv (fun _ => rfl) ?_ (fun _ _ heq => .inl heq.symm) hrisk nofun
  rintro a st - hedge rfl
  refine ⟨.inr hedge, ?_⟩
  rintro rfl
  cases hedge

/-- The same with its loss caught. -/
theorem trySwap_unmoved {job : Job} {expected new : JobStatus} {err : Option String} (hv : v.Sat Unmoved) :
    (trySwap now job id expected new err).Ensures Later
      (fun swapped v' => if swapped then v'.Sat (Owing id) ∧ v'.current.statusOf id = some new
        else v'.Sat Unmoved) v := by
  refine trySwap_ensures hv (fun _ => rfl) ?_ (fun _ _ heq => .inl heq.symm) nofun nofun
  rintro a hedge rfl
  refine ⟨.inr hedge, ?_⟩
  rintro rfl
  cases hedge

/-- The log entry that follows a swap. -/
theorem logged_ensures {event message : String} {level : LogLevel} {printerId : Option String}
    {extra : Option Analysis} (hv : v.Sat (Owing id)) :
    (addLog now event message level (some id) printerId extra).Ensures Later (fun _ v' => v'.Sat Finished) v :=
  addLog_ensures hv .refl fun _ hk => .inr hk

end rules

/-! ## Uploads and cancellations -/

section transactions

variable {s : Settings} {now : Time} {id : JobId} {p : PrinterID} {d : Db}

theorem cancelJob_ensures : (cancelJob now id).Ensures Later (fun _ v => v.Sat Finished) (.reading d) := by
  refine .bind (getJob_ensures (A := Unmoved) trivial) fun job v hv => ?_
  cases job with
  | none => exact .throw
  | some job =>
      refine .bind (P := fun _ v' => v'.Sat (Owing id)) ?_ fun _ v' hv' =>
        .bind (logged_ensures hv') fun _ _ h => .pure h
      refine Txn.Along.tryCatch (swap_ensures hv nofun) ?_ ?_
      · intro a v' hr a' ha'
        exact (hr a rfl).1
      · intro e v' _
        cases e with
        | jobTransitionError m =>
            exact Txn.Ensures.bind (P := fun _ _ => True) (.select fun _ _ _ => trivial) fun _ _ _ => .throw
        | _ => exact Txn.Ensures.throw

theorem cancelPendingJob_ensures :
    (cancelPendingJob now id).Ensures Later (fun _ v => v.Sat Finished) (.reading d) := by
  refine .bind (getJob_ensures (A := Unmoved) trivial) fun job v hv => ?_
  cases job with
  | none => exact .pure (unmoved_finished hv)
  | some job =>
      refine .ite (fun _ => .pure (unmoved_finished hv)) fun _ => ?_
      refine .bind (swap_ensures hv nofun) fun _ v' hv' => ?_
      exact .bind (logged_ensures hv'.1) fun _ _ h => .pure h

/-! ## Analysis and slicing -/

theorem startAnalysis_ensures :
    (startAnalysis now id).Ensures Later (fun _ v => v.Sat Finished) (.reading d) := by
  have hv : (View.reading d).Sat Unmoved := trivial
  refine .bind (swap_ensures hv nofun) fun job v' hv' => ?_
  exact .bind (logged_ensures hv'.1) fun _ _ h => .pure h

/-- The analysis is written before the swap that guards it. -/
theorem planSlice_ensures {analysis : Analysis} {choice : Option PrinterID × Option String} :
    (planSlice now id analysis choice).Ensures Later (fun _ v => v.Sat Finished) (.reading d) := by
  refine .bind (getJob_ensures (A := Unmoved) trivial) fun job v hv => ?_
  cases job with
  | none => exact .pure (unmoved_finished hv)
  | some job =>
      refine .ite (fun _ => .pure (unmoved_finished hv)) fun _ => ?_
      obtain ⟨_ | p, _ | rejection⟩ := choice
      · exact .throw
      · refine .bind (swap_ensures hv nofun) fun _ v' hv' => ?_
        exact .bind (logged_ensures hv'.1) fun _ _ h => .pure h
      · refine .bind (flushJob_ensures hv (fun _ => rfl) (fun _ => rfl) nofun (.inl rfl)) fun job v' hv' => ?_
        refine .bind (swap_ensures hv'.2 fun k hk => (Option.some.inj hk).symm) fun _ v'' hv'' => ?_
        exact .bind (logged_ensures hv''.1) fun _ _ h => .pure h
      · refine .bind (swap_ensures hv nofun) fun _ v' hv' => ?_
        exact .bind (logged_ensures hv'.1) fun _ _ h => .pure h

theorem storeSlice_ensures {path : String} {est : Option Nat} :
    (storeSlice now id p path est).Ensures Later (fun _ v => v.Sat Finished) (.reading d) := by
  refine .bind (getJob_ensures (A := Unmoved) trivial) fun job v hv => ?_
  cases job with
  | none => exact .pure (unmoved_finished hv)
  | some job =>
      refine .ite (fun _ => .pure (unmoved_finished hv)) fun _ => ?_
      refine .bind (flushJob_ensures hv (fun _ => rfl) (fun _ => rfl) nofun (.inl rfl)) fun job v' hv' => ?_
      refine .bind (swap_ensures hv'.2 fun k hk => (Option.some.inj hk).symm) fun _ v'' hv'' => ?_
      exact logged_ensures hv''.1

theorem storeReslice_ensures {path : String} {est : Option Nat} :
    (storeReslice now id p path est).Ensures Later (fun _ v => v.Sat Finished) (.reading d) := by
  refine .bind (getJob_ensures (A := Unmoved) trivial) fun job v hv => ?_
  cases job with
  | none => exact .pure (unmoved_finished hv)
  | some job =>
      refine .ite (fun _ => .pure (unmoved_finished hv)) fun _ => ?_
      refine .bind (flushJob_ensures hv (fun _ => rfl) (fun _ => rfl) nofun (.inl rfl)) fun job v₁ hv₁ => ?_
      refine .bind (flushJob_ensures hv₁.2 (fun _ => rfl) (fun _ => rfl) (fun _ hk => hk) (.inl rfl))
        fun job v₂ hv₂ => ?_
      refine .bind (swap_ensures hv₂.2 fun k hk => (Option.some.inj hk).symm) fun _ v₃ hv₃ => ?_
      exact logged_ensures hv₃.1

theorem failJob_ensures {message : String} :
    (failJob now id message).Ensures Later (fun _ v => v.Sat Finished) (.reading d) := by
  refine .bind (getJob_ensures (A := Unmoved) trivial) fun job v hv => ?_
  cases job with
  | none => exact .pure (unmoved_finished hv)
  | some job =>
      refine .ite (fun _ => .pure (unmoved_finished hv)) fun _ => ?_
      refine .bind (trySwap_unmoved hv) fun swapped v' hv' => ?_
      refine .ite (fun hs => ?_) fun hs => ?_
      · rw [if_pos hs] at hv'
        exact logged_ensures hv'.1
      · rw [if_neg hs] at hv'
        exact .pure (unmoved_finished hv')

theorem checkReslice_ensures :
    (checkReslice id).Ensures Later (fun _ v => v.Sat Finished) (.reading d) := by
  refine .bind (getJob_ensures (A := Unmoved) trivial) fun job v hv => ?_
  cases job with
  | none => exact .pure (unmoved_finished hv)
  | some job => exact .ite (fun _ => .pure (unmoved_finished hv)) fun _ => .pure (unmoved_finished hv)

theorem abortReslice_ensures {exc : String} :
    (abortReslice now id exc).Ensures Later (fun _ v => v.Sat Finished) (.reading d) := by
  refine .bind (getJob_ensures (A := Unmoved) trivial) fun job v hv => ?_
  cases job with
  | none => exact .pure (unmoved_finished hv)
  | some job =>
      refine .ite (fun _ => ?_) fun _ => .pure (unmoved_finished hv)
      refine .bind (swap_ensures hv nofun) fun _ v' hv' => ?_
      exact logged_ensures hv'.1

/-- The loop over the candidates: a lost swap goes on with the next one. -/
theorem reserveCandidate_ensures {target : PrinterID} {reserved : JobId → Bool} {v : View Db}
    (rows : List (JobId × Job)) (hv : v.Sat Unmoved) :
    (reserveCandidate s now target reserved rows).Ensures Later (fun _ v' => v'.Sat Finished) v := by
  induction rows generalizing v with
  | nil => exact .pure (unmoved_finished hv)
  | cons row rest ih =>
      obtain ⟨k, job⟩ := row
      unfold reserveCandidate
      refine .ite (fun _ => ih hv) fun _ => ?_
      cases job.assignedPrinter with
      | none => exact .throw
      | some source =>
          refine .bind (P := fun _ v' => v'.Sat Unmoved) (.select fun _ _ hs => hs.sat hv) fun st v' hv' => ?_
          refine .ite (fun _ => ih hv') fun _ => ?_
          refine .bind (trySwap_unmoved hv') fun swapped v'' hv'' => ?_
          refine .ite (fun hs => ?_) fun hs => ?_
          · rw [if_pos hs] at hv''
            exact .bind (logged_ensures hv''.1) fun _ _ h => .pure h
          · rw [if_neg hs] at hv''
            exact ih hv''

theorem tryScheduleFallback_ensures {target : PrinterID} {reserved : JobId → Bool} :
    (tryScheduleFallback s now target reserved).Ensures Later (fun _ v => v.Sat Finished) (.reading d) := by
  have hv : (View.reading d).Sat Unmoved := trivial
  refine .ite (fun _ => .pure (unmoved_finished hv)) fun _ => ?_
  refine .bind (P := fun _ v' => v'.Sat Unmoved) (.select fun _ _ hs => hs.sat hv) fun st v₁ hv₁ => ?_
  cases st with
  | none => exact .pure (unmoved_finished hv₁)
  | some st =>
      refine .ite (fun _ => .pure (unmoved_finished hv₁)) fun _ => ?_
      refine .bind (P := fun _ v' => v'.Sat Unmoved) (.select fun _ _ hs => hs.sat hv₁) fun rows v₂ hv₂ => ?_
      exact reserveCandidate_ensures rows hv₂

/-! ## Dispatch and handoff -/

/-- The slot is given to the job that has just been swapped to UPLOADING. -/
theorem tryDispatch_ensures :
    (tryDispatch s now p).Ensures Later (fun _ v => v.Sat Finished) (.reading d) := by
  have hv : (View.reading d).Sat Unmoved := trivial
  refine .ite (fun _ => .pure (unmoved_finished hv)) fun _ => ?_
  refine .bind (P := fun _ v' => v'.Sat Unmoved) (.select fun _ _ hs => hs.sat hv) fun st v₁ hv₁ => ?_
  cases st with
  | none => exact .pure (unmoved_finished hv₁)
  | some st =>
      refine .ite (fun _ => .pure (unmoved_finished hv₁)) fun _ => ?_
      refine .bind (P := fun _ v' => v'.Sat Unmoved) (.select fun _ _ hs => hs.sat hv₁) fun row v₂ hv₂ => ?_
      obtain _ | ⟨k, job⟩ := row
      · exact .pure (unmoved_finished hv₂)
      · refine .bind (trySwap_unmoved hv₂) fun swapped v₃ hv₃ => ?_
        refine .ite (fun hs => ?_) fun hs => ?_
        · rw [if_pos hs] at hv₃
          have hsent : Dispatched v₃.current k := ⟨.uploading, by decide, hv₃.2⟩
          refine .bind (updatePrinterState_ensures hv₃.1 .refl (.inr (.inr ⟨k, rfl, hsent⟩))) fun _ v₄ hv₄ => ?_
          exact .bind (logged_ensures hv₄.2) fun _ _ h => .pure h
        · rw [if_neg hs] at hv₃
          exact .pure (unmoved_finished hv₃)

theorem requestStart_ensures :
    (requestStart now id p).Ensures Later (fun _ v => v.Sat Finished) (.reading d) := by
  have hv : (View.reading d).Sat Unmoved := trivial
  refine .bind (swap_ensures hv nofun) fun _ v' hv' => ?_
  exact logged_ensures hv'.1

/-- Blocking the plate leaves the slot as it is. -/
theorem blockPlate_ensures {v : View Db} (hv : v.Sat Finished) :
    (loadAndUpdatePrinterState now p fun st => { st with plateCleared := false }).Ensures Later
      (fun _ v' => v'.Sat Finished) v :=
  loadAndUpdatePrinterState_ensures hv .refl fun _ _ _ _ => .inl rfl

theorem confirmStart_ensures :
    (confirmStart now id p).Ensures Later (fun _ v => v.Sat Finished) (.reading d) := by
  refine .bind (getJob_ensures (A := Unmoved) trivial) fun job v hv => ?_
  cases job with
  | none => exact .pure (unmoved_finished hv)
  | some job =>
      refine .ite (fun _ => ?_) fun _ => .ite (fun _ => .pure (unmoved_finished hv)) fun _ => ?_
      · refine .bind (swap_ensures hv nofun) fun _ v₁ hv₁ => ?_
        refine .bind (logged_ensures hv₁.1) fun _ v₂ hv₂ => ?_
        exact .bind (blockPlate_ensures hv₂) fun _ _ h => .pure h
      · exact .bind (blockPlate_ensures (unmoved_finished hv)) fun _ _ h => .pure h

theorem quarantineStart_ensures {exc : Exc} :
    (quarantineStart now id p exc).Ensures Later (fun _ v => v.Sat Finished) (.reading d) := by
  refine .bind (getJob_ensures (A := Unmoved) trivial) fun job v hv => ?_
  cases job with
  | none => exact .pure (unmoved_finished hv)
  | some job =>
      refine .ite (fun _ => ?_) fun _ => .pure (unmoved_finished hv)
      refine .bind (swap_ensures hv nofun) fun _ v₁ hv₁ => ?_
      have hsent : Dispatched v₁.current id := ⟨.attention, by decide, hv₁.2⟩
      refine .bind (loadAndUpdatePrinterState_ensures hv₁.1 .refl fun _ _ _ hk => .inr (.inr ⟨id, rfl, hk _ hsent⟩))
        fun _ v₂ hv₂ => ?_
      exact logged_ensures hv₂

theorem releaseFailed_ensures :
    (releaseFailed now id p).Ensures Later (fun _ v => v.Sat Finished) (.reading d) := by
  have hv : (View.reading d).Sat Unmoved := trivial
  refine .bind (P := fun _ v' => v'.Sat Unmoved) (.select fun _ _ hs => hs.sat hv) fun st v₁ hv₁ => ?_
  refine .bind (getJob_ensures hv₁) fun job v₂ hv₂ => ?_
  cases st with
  | none => exact .pure (unmoved_finished hv₂)
  | some st =>
      cases job with
      | none => exact .pure (unmoved_finished hv₂)
      | some job =>
          refine .ite (fun _ => ?_) fun _ => .pure (unmoved_finished hv₂)
          refine .bind (updatePrinterState_ensures hv₂ (fun _ => rfl) (.inr (.inl rfl))) fun _ v₃ hv₃ => ?_
          exact .pure (unmoved_finished hv₃.2)

end transactions

/-! ## Status callbacks -/

/-- What a callback may do to a status, over all its swaps. -/
def callbackEdge (a c : JobStatus) : Prop := c = a ∨ (a ∈ awaitingReport ∧ c ∈ allowedJobTransitions a)

/-- The draft of a callback. -/
abbrev Reporting : Db → Db → Prop := Draft callbackEdge none none

section callback

variable {now : Time} {id : JobId} {p : PrinterID} {snap : Snapshot} {v : View Db} {state : PrinterState}
  {job : Job} {d : Db}

theorem callbackEdge.refl (a : JobStatus) : callbackEdge a a := .inl rfl

/-- Two swaps of a callback amount to one edge, or to none. -/
theorem callbackEdge.swap {a st new : JobStatus} (hst : st ∈ awaitingReport) (hnew : new ∈ allowedJobTransitions st)
    (h : callbackEdge a st) : callbackEdge a new ∧ a ≠ .cancelled := by
  have hclosed : ∀ a ∈ awaitingReport, ∀ st ∈ awaitingReport, ∀ new ∈ allowedJobTransitions st,
      new = a ∨ new ∈ allowedJobTransitions a := by decide
  have ha : a ∈ awaitingReport := by
    rcases h with rfl | ⟨ha, -⟩
    · exact hst
    · exact ha
  refine ⟨(hclosed a ha st hst new hnew).imp_right fun hedge => ⟨ha, hedge⟩, ?_⟩
  rintro rfl
  exact absurd ha (by decide)

/-- A swap of a callback. -/
theorem report_along {loaded : Option Job} {expected : List JobStatus} {new : JobStatus}
    {err rej : Option String} (hv : v.Sat Reporting) (hexp : ∀ st ∈ expected, st ∈ awaitingReport) :
    (transitionJobStatus now loaded id expected new err rej).Along Later
      (fun r v' => (∀ a, r = .ok a → v'.Sat (Draft callbackEdge none (some id)) ∧
        v'.current.statusOf id = some new) ∧ ∀ e, r = .error e → v'.Sat Reporting) v :=
  transition_along hv .refl (fun _ st hst hedge h => h.swap (hexp st hst) hedge) (fun _ _ h => h) nofun nofun

/-- The log entry that follows it. -/
theorem reported_ensures {event message : String} {level : LogLevel} {printerId : Option String}
    {extra : Option Analysis} (hv : v.Sat (Draft callbackEdge none (some id))) :
    (addLog now event message level (some id) printerId extra).Ensures Later (fun _ v' => v'.Sat Reporting) v :=
  addLog_ensures hv .refl fun _ hk => .inr hk

/-- The owner of the slot is not cancelled, so its progress may be written without a guard. -/
theorem progress_ensures {owed : Option JobId} {progress : Int} (hv : v.Sat (Draft callbackEdge none owed))
    (hlive : Dispatched v.base id) :
    (updateJobProgress id job progress).Ensures Later (fun _ v' => v'.Sat (Draft callbackEdge none owed)) v :=
  flushLive_ensures hv .refl (fun _ => rfl) hlive

theorem confirmOwner_ensures (hv : v.Sat Reporting) (hlive : Dispatched v.base id) :
    (confirmOwner now p snap id job).Ensures Later (fun _ v' => v'.Sat Reporting) v := by
  refine .ite (fun _ => .ite (fun hs => ?_) fun _ => progress_ensures hv hlive) fun _ => .pure hv
  refine .bind (Txn.Ensures.stable (P := fun _ v' => v'.Sat Reporting) Dispatched.stable ?_ hlive) fun job' v' hv' =>
    progress_ensures hv'.1 hv'.2
  refine Txn.Along.tryCatch (Q := fun _ v' => v'.Sat Reporting) ?_ (fun _ _ h _ _ => h) ?_
  · refine Txn.Along.bind (report_along hv ?_) ?_ fun e v' hr => hr.2 e rfl
    · intro st hst
      rw [List.mem_singleton.mp hst]
      rcases hs with hs | hs <;> rw [hs] <;> decide
    · intro moved v' hr b d hu
      exact (Draft.updates (hr.1 moved rfl).1 callbackEdge.refl hu).log fun _ hk => .inr hk
  · intro e v' hv'
    cases e with
    | jobTransitionError m => exact Txn.Ensures.pure hv'
    | _ => exact Txn.Ensures.throw

/-- An IDLE report quarantines the owner, which keeps its slot. -/
theorem quarantineOwner_ensures (hv : v.Sat Reporting) (hown : state.currentJobId = some id) :
    (quarantineOwner now p snap state id job).Ensures Later
      (fun r v' => r.1.currentJobId = some id ∧ v'.Sat Reporting) v := by
  refine .ite (fun _ => ?_) fun _ => .pure ⟨hown, hv⟩
  refine .bind ((report_along hv (by decide)).mono fun _ _ hr a ha => (hr.1 a ha).1) fun job' v₁ hv₁ => ?_
  refine .bind (updatePrinterState_ensures hv₁ .refl (.inl hown.symm)) fun state' v₂ hv₂ => ?_
  exact .bind (reported_ensures hv₂.2) fun _ _ h => .pure ⟨hv₂.1, h⟩

theorem reportTerminal_ensures (hv : v.Sat Reporting) (hlive : Dispatched v.base id)
    (hown : state.currentJobId = some id) :
    (reportTerminal now p snap state id job).Ensures Later (fun _ v' => v'.Sat Reporting) v := by
  have hexp : job.status ∈ awaitingReport → ∀ st ∈ [job.status], st ∈ awaitingReport := by
    intro hs st hst
    rw [List.mem_singleton.mp hst]
    exact hs
  refine .ite (fun hs => ?_) fun _ => .ite (fun hs => ?_) fun _ => .pure hv
  · refine .bind (P := fun _ v' => v'.Sat Reporting) ?_ fun _ _ h => .pure h
    refine .bind (Txn.Ensures.stable Dispatched.stable
      ((report_along hv (hexp hs.2)).mono fun _ _ hr a ha => (hr.1 a ha).1) hlive) fun job' v₁ hv₁ => ?_
    refine .bind (progress_ensures hv₁.1 hv₁.2) fun _ v₂ hv₂ => ?_
    refine .bind (updatePrinterState_ensures hv₂ .refl (.inl hown.symm)) fun _ v₃ hv₃ => ?_
    exact reported_ensures hv₃.2
  · refine .bind (P := fun _ v' => v'.Sat Reporting) ?_ fun _ _ h => .pure h
    refine .bind ((report_along hv (hexp hs.2)).mono fun _ _ hr a ha => (hr.1 a ha).1) fun job' v₁ hv₁ => ?_
    refine .bind (updatePrinterState_ensures hv₁ .refl (.inl hown.symm)) fun _ v₂ hv₂ => ?_
    exact reported_ensures hv₂.2

theorem reportToOwner_ensures (hv : v.Sat Reporting) (hlive : Dispatched v.base id)
    (hown : state.currentJobId = some id) :
    (reportToOwner now p snap state id job).Ensures Later (fun _ v' => v'.Sat Reporting) v := by
  refine .bind (Txn.Ensures.stable Dispatched.stable (confirmOwner_ensures hv hlive) hlive) fun job' v₁ hv₁ => ?_
  refine .bind (Txn.Ensures.stable Dispatched.stable (quarantineOwner_ensures hv₁.1 hown) hv₁.2) fun r v₂ hv₂ => ?_
  exact reportTerminal_ensures hv₂.1.2 hv₂.2 hv₂.1.1

/-- The job that the printer row names when it is read has been sent to the printer, and stays so. -/
theorem onStatusUpdate_ensures :
    (onStatusUpdate now p snap).Ensures Later (fun _ v => v.Sat Finished) (.reading d) := by
  refine Txn.Ensures.mono (P := fun _ v => v.Sat Reporting) (fun _ v hv => hv.mono fun b d hd => ?_) ?_
  · exact hd.weaken (fun _ _ h => h.imp_right And.right) (fun _ h => h) fun _ h => h
  · refine .bind (getPrinterState_ensures (A := Reporting)) fun st v₁ hv₁ => ?_
    cases st with
    | none => exact .pure hv₁.1
    | some st =>
        refine .bind (Txn.Ensures.stable (K := fun d => ∀ k, st.currentJobId = some k → Dispatched d k) ?_
          (updatePrinterState_ensures hv₁.1 .refl (.inl rfl)) fun k => hv₁.2 st k rfl) fun st' v₂ hv₂ => ?_
        · intro a b hl hK k hk
          exact hl.dispatched (hK k hk)
        · obtain ⟨⟨hst', hv₂⟩, hlive⟩ := hv₂
          unfold reportToSlot
          cases hown : st'.currentJobId with
          | none => exact .pure hv₂
          | some k =>
              have hlive' := hlive k (hst'.symm.trans hown)
              refine .bind (Txn.Ensures.stable Dispatched.stable (getJob_ensures hv₂) hlive') fun job v₃ hv₃ => ?_
              cases job with
              | none => exact .pure hv₃.1
              | some job => exact reportToOwner_ensures hv₃.1 hv₃.2 hown

end callback

/-! ## The printer endpoints -/

/-- What clearing a plate commits: one status change may lack its log entry. -/
def Cleared (b d : Db) : Prop := ∃ owed, Draft JobStatus.Advances none owed b d

section endpoints

variable {s : Settings} {now : Time} {id : JobId} {p : PrinterID} {d : Db} {v : View Db} {state : PrinterState}

/-- The answers that write nothing. -/
theorem cleared_of_unmoved (hv : v.Sat Unmoved) : v.Sat Cleared :=
  (unmoved_finished hv).mono fun _ _ hd => ⟨none, hd⟩

theorem resolveAttention_ensures {job : Job} (hv : v.Sat Unmoved) :
    (resolveAttention now id job).Ensures Later (fun _ v' => v'.Sat (Owing id)) v := by
  refine .ite (fun _ => Txn.Ensures.mono (fun _ _ h => h.1) (swap_ensures hv nofun)) fun _ => .pure ?_
  exact (unmoved_finished hv).mono fun _ _ hd => hd.weaken (fun _ _ h => h) (fun _ h => h) nofun

/-- The row of the job is written without a guard, but a job that owned the slot is not cancelled. -/
theorem releasePlate_ensures {current : Option (JobId × Job)} (hv : v.Sat Unmoved)
    (hlive : ∀ row, current = some row → Dispatched v.base row.1) :
    (releasePlate now p state current).Ensures Later (fun _ v' => v'.Sat Cleared) v := by
  obtain _ | ⟨k, job⟩ := current
  · refine .bind (flushPrinter_ensures hv (fun _ => rfl) (.inl rfl)) fun st v₁ hv₁ => ?_
    refine Txn.Ensures.mono (fun _ _ h => cleared_of_unmoved h.2)
      (updatePrinterState_ensures hv₁.2 (fun _ => rfl) (.inr (.inl rfl)))
  · refine .bind (Txn.Ensures.stable Dispatched.stable (resolveAttention_ensures hv) (hlive _ rfl))
      fun job' v₁ hv₁ => ?_
    refine .bind (Txn.Ensures.stable Dispatched.stable (flushPrinter_ensures hv₁.1 .refl (.inl rfl)) hv₁.2)
      fun st v₂ hv₂ => ?_
    refine .bind (flushLive_ensures hv₂.1.2 .refl (fun _ => rfl) hv₂.2) fun job'' v₃ hv₃ => ?_
    exact Txn.Ensures.mono (fun _ _ h => h.2.mono fun _ _ hd => ⟨some k, hd⟩)
      (updatePrinterState_ensures hv₃ .refl (.inr (.inl rfl)))

theorem clearPlate_ensures {current : Option (JobId × Job)} (hv : v.Sat Unmoved)
    (hlive : ∀ row, current = some row → Dispatched v.base row.1) :
    (clearPlate now p state current).Ensures Later (fun _ v' => v'.Sat Cleared) v := by
  refine .bind (releasePlate_ensures hv hlive) fun _ v₁ hv₁ => ?_
  refine .bind (P := fun _ v' => v'.Sat Cleared) (.exec fun b d hu => ?_) fun _ _ h => .pure h
  obtain ⟨owed, hd⟩ := hu.sat (fun _ => ⟨none, .start .refl⟩) hv₁
  exact ⟨owed, hd.log fun _ hk => .inl hk⟩

theorem markPlateCleared_ensures :
    (markPlateCleared s now p).Ensures Later (fun _ v => v.Sat Cleared) (.reading d) := by
  have hempty : ∀ v : View Db, ∀ row : JobId × Job, none = some row → Dispatched v.base row.1 := by
    rintro v row ⟨⟩
  refine .ite (fun _ => .throw) fun _ => ?_
  refine .bind (getPrinterState_ensures (A := Unmoved)) fun st v₁ hv₁ => ?_
  cases st with
  | none => exact .throw
  | some st =>
      refine .ite (fun _ => .pure (cleared_of_unmoved hv₁.1)) fun _ => .ite (fun _ => .throw) fun _ => ?_
      cases hk : st.currentJobId with
      | none => exact clearPlate_ensures hv₁.1 (hempty v₁)
      | some k =>
          have hlive := hv₁.2 st k rfl hk
          refine .bind (Txn.Ensures.stable Dispatched.stable (getJob_ensures hv₁.1) hlive) fun job v₂ hv₂ => ?_
          cases job with
          | none => exact clearPlate_ensures hv₂.1 (hempty v₂)
          | some job =>
              refine .ite (fun _ => .throw) fun _ => clearPlate_ensures hv₂.1 ?_
              rintro row ⟨⟩
              exact hv₂.2

theorem acknowledgeChecks_ensures :
    (acknowledgeChecks s p).Ensures Later (fun _ v => v.Sat Finished) (.reading d) := by
  refine .ite (fun _ => .throw) fun _ => ?_
  refine .bind (getPrinterState_ensures (A := Finished)) fun st v₁ hv₁ => ?_
  cases st with
  | none => exact .throw
  | some st => exact .ite (fun _ => .throw) fun _ => .ite (fun _ => .throw) fun _ => .pure hv₁.1

theorem logAcknowledged_ensures :
    (logAcknowledged now p).Ensures Later (fun _ v => v.Sat Finished) (.reading d) := by
  have hv : (View.reading d).Sat Finished := trivial
  exact addLog_ensures hv .refl fun _ hk => .inl hk

/-- An upload adds one row, with its log entry, or raises. -/
theorem commitUpload_run (s : Settings) (now : Time) (id : JobId) (form : UploadForm) (d : Db) :
    (∃ e d', (commitUpload s now id form).run d = (.error e, d')) ∨
    ∃ j e, d.job id = none ∧ j.status = .pending ∧ e.jobId = some id ∧
      (commitUpload s now id form).run d = (.ok (), (d.insertJob id j).insertLog e) := by
  cases hj : d.job id with
  | some j =>
      obtain ⟨d', hrun⟩ := commitUpload_taken hj
      exact .inl ⟨_, d', hrun⟩
  | none => exact .inr ⟨_, _, rfl, rfl, rfl, commitUpload_new hj⟩

/-- The row is new, so nothing else is touched. -/
theorem inserted_lawful {j : Job} {e : LogEntry} (hj : d.job id = none) (hs : j.status = .pending) :
    Lawful d ((d.insertJob id j).insertLog e) := by
  have hother : ∀ k, k ≠ id → ((d.insertJob id j).insertLog e).job k = d.job k := by
    intro k hk
    rw [Db.job_insertLog, Db.job_insertJob hj, if_neg hk]
  have hold : ∀ k i, d.job k = some i → k ≠ id := by
    rintro k i hi rfl
    rw [hj] at hi
    cases hi
  refine ⟨fun k i hk => ?_, fun k i hk hi => ?_, fun k hk => ?_, fun p k hk => .inl hk⟩
  · exact ⟨i, (hother k (hold k i hk)).trans hk, .inl rfl⟩
  · rw [Db.job_insertLog, Db.job_insertJob hj] at hi
    split at hi
    · cases hi
      exact hs
    · rw [hk] at hi
      cases hi
  · obtain ⟨i, hi, -⟩ := Option.map_eq_some_iff.mp hk
    exact hother k (hold k i hi)

theorem inserted_audited {j : Job} {e : LogEntry} (hj : d.job id = none) (he : e.jobId = some id) :
    Audited d ((d.insertJob id j).insertLog e) := by
  refine ⟨[e], rfl, fun k hk => ⟨e, List.mem_singleton_self e, ?_⟩⟩
  by_cases hkid : k = id
  · rw [hkid, he]
  · refine absurd ?_ hk
    unfold Db.statusOf
    rw [Db.job_insertLog, Db.job_insertJob hj, if_neg hkid]

theorem commitUpload_ensures {form : UploadForm} :
    (commitUpload s now id form).Ensures Later (fun _ v => v.Sat fun b d => Lawful b d ∧ Audited b d)
      (.reading d) := by
  refine Txn.Along.of_update rfl fun b d' hu a ha => ?_
  cases hu with
  | reading hl =>
      rcases commitUpload_run s now id form b with ⟨e, d'', hrun⟩ | ⟨j, e, hj, hs, he, hrun⟩
      · rw [hrun] at ha
        cases ha
      · rw [hrun]
        exact ⟨inserted_lawful hj hs, inserted_audited hj he⟩

end endpoints

/-! ## Restart recovery -/

/-- What recovery does to a status. -/
def recoveryEdge (a c : JobStatus) : Prop :=
  c = a ∨ (a ∈ [.analysing, .slicing] ∧ c = .pending) ∨ (a ∈ [.uploading, .starting] ∧ c = .attention)

/-- The draft of the recovery. -/
abbrev Recovering : Db → Db → Prop := Draft recoveryEdge none none

section recovery

variable {now : Time} {id : JobId} {job : Job} {v : View Db} {d : Db} {owed : Option JobId}

theorem recoveryEdge.refl (a : JobStatus) : recoveryEdge a a := .inl rfl

/-- Recovery swaps a job once only. -/
theorem recoveryEdge.swap {a st new : JobStatus} (h : recoveryEdge a st)
    (hedge : st ∈ [.analysing, .slicing] ∧ new = .pending ∨ st ∈ [.uploading, .starting] ∧ new = .attention) :
    recoveryEdge a new ∧ a ≠ .cancelled := by
  have ha : st = a := by
    rcases h with heq | ⟨-, rfl⟩ | ⟨-, rfl⟩
    · exact heq
    · revert hedge
      simp
    · revert hedge
      simp
  subst ha
  refine ⟨.inr hedge, ?_⟩
  rintro rfl
  revert hedge
  simp

theorem recoveryEdge.advances {a c : JobStatus} (h : recoveryEdge a c) : a.Advances c := by
  rcases h with heq | ⟨ha, rfl⟩ | ⟨ha, rfl⟩
  · exact .inl heq
  · refine .inr ?_
    revert ha
    cases a <;> decide
  · refine .inr ?_
    revert ha
    cases a <;> decide

/-- A swap of the recovery. -/
theorem recover_ensures {loaded : Option Job} {new : JobStatus} {err rej : Option String}
    (hv : v.Sat Recovering) (hedge : job.status ∈ [.analysing, .slicing] ∧ new = .pending ∨
      job.status ∈ [.uploading, .starting] ∧ new = .attention) :
    (transitionJobStatus now loaded id [job.status] new err rej).Ensures Later
      (fun _ v' => v'.Sat (Draft recoveryEdge none (some id)) ∧ v'.current.statusOf id = some new) v := by
  refine transition_ensures hv .refl ?_ (fun _ _ h => h) nofun nofun
  intro a st hst _ h
  rw [List.mem_singleton.mp hst] at h
  exact h.swap hedge

/-- A log entry of the recovery. -/
theorem recovered_ensures {event message : String} {level : LogLevel} {printerId : Option String}
    {extra : Option Analysis} (hv : v.Sat (Draft recoveryEdge none (some id))) :
    (addLog now event message level (some id) printerId extra).Ensures Later (fun _ v' => v'.Sat Recovering) v :=
  addLog_ensures hv .refl fun _ hk => .inr hk

theorem recoverRetryable_ensures (hv : v.Sat Recovering) (hs : job.status ∈ [.analysing, .slicing]) :
    (recoverRetryable now (id, job)).Ensures Later (fun _ v' => v'.Sat Recovering) v :=
  .bind (recover_ensures hv (.inl ⟨hs, rfl⟩)) fun _ _ h => recovered_ensures h.1

theorem quarantineInterrupted_ensures (hv : v.Sat Recovering) (hs : job.status ∈ [.uploading, .starting]) :
    (quarantineInterrupted now (id, job)).Ensures Later (fun _ v' => v'.Sat Recovering) v := by
  refine .bind (recover_ensures hv (.inr ⟨hs, rfl⟩)) fun _ v₁ hv₁ => ?_
  have hsent : Dispatched v₁.current id := ⟨.attention, by decide, hv₁.2⟩
  cases job.assignedPrinter with
  | none => exact recovered_ensures hv₁.1
  | some p =>
      refine .bind (loadAndUpdatePrinterState_ensures hv₁.1 .refl fun _ _ _ hk => .inr (.inr ⟨id, rfl, hk _ hsent⟩))
        fun _ v₂ hv₂ => ?_
      exact recovered_ensures hv₂

/-- A job that recovery leaves in its status was in it when the transaction began. -/
theorem dispatched_base {st : JobStatus} (hv : v.Sat Recovering) (hst : st ∈ [.printing, .completed])
    (h : v.current.statusOf id = some st) : Dispatched v.base id := by
  have hown : st ∈ owning := by
    revert hst
    cases st <;> decide
  cases v with
  | reading d => exact ⟨st, hown, h⟩
  | writing b d =>
      obtain ⟨j, hj, rfl⟩ := Option.map_eq_some_iff.mp h
      obtain ⟨i, hi, hedge⟩ := Draft.source hv hj
      refine ⟨i.status, ?_, Db.statusOf_eq hi⟩
      rcases hedge with heq | ⟨-, hc⟩ | ⟨-, hc⟩
      · rwa [← heq]
      · rw [hc] at hst
        exact absurd hst (by decide)
      · rw [hc] at hst
        exact absurd hst (by decide)

/-- What was sent before recovery stays sent. -/
theorem dispatched_current (hv : v.Sat Recovering) (h : Dispatched v.base id) : Dispatched v.current id := by
  cases v with
  | reading d => exact h
  | writing b d =>
      obtain ⟨st, hst, hstatus⟩ := h
      obtain ⟨j, hj, rfl⟩ := Option.map_eq_some_iff.mp hstatus
      obtain ⟨j', hj', hedge⟩ := Draft.row hv id j hj
      refine ⟨j'.status, ?_, Db.statusOf_eq hj'⟩
      rcases hedge.advances with heq | hedge'
      · rwa [heq]
      · exact owning_closed hst hedge'

theorem restorePrinting_ensures (hv : v.Sat Recovering) (hlive : Dispatched v.base id) :
    (restorePrinting now (id, job)).Ensures Later (fun _ v' => v'.Sat Recovering) v := by
  unfold restorePrinting
  dsimp only
  cases job.assignedPrinter with
  | none => exact .pure hv
  | some p =>
      refine .bind (loadAndUpdatePrinterState_ensures hv .refl fun _ _ _ hk => ?_) fun _ _ h => .pure h
      exact .inr (.inr ⟨id, rfl, hk id (dispatched_current hv hlive)⟩)

theorem repairProgress_ensures (hv : v.Sat Recovering) (hlive : Dispatched v.base id) :
    (repairProgress (id, job)).Ensures Later (fun _ v' => v'.Sat Recovering) v :=
  .ite (fun _ => .bind (flushLive_ensures hv .refl (fun _ => rfl) hlive) fun _ _ h => .pure h) fun _ => .pure hv

/-- The rows of a SELECT, with what is known of each of them for the rest of the transaction. -/
def Listed (K : JobId × Job → Db → Prop) (rows : List (JobId × Job)) (v : View Db) : Prop :=
  v.Sat Recovering ∧ ∀ x ∈ rows, K x v.base

/-- A loop over such rows. -/
theorem loop_ensures {f : JobId × Job → Tx PUnit} {K : JobId × Job → Db → Prop} {rows : List (JobId × Job)}
    (hK : ∀ x a b, Later a b → K x a → K x b) (hv : Listed K rows v)
    (hbody : ∀ x v', v'.Sat Recovering → K x v'.base → (f x).Ensures Later (fun _ v'' => v''.Sat Recovering) v') :
    (rows.forM f).Ensures Later (fun _ v' => v'.Sat Recovering) v := by
  refine Txn.Ensures.mono (fun _ _ h => h.1) (Txn.Ensures.forM (I := Listed K rows) (fun x hx v' hI => ?_) hv)
  refine Txn.Ensures.stable (K := fun d => ∀ x ∈ rows, K x d) ?_ (hbody x v' hI.1 (hI.2 x hx)) hI.2
  intro a b hl hrest y hy
  exact hK y a b hl (hrest y hy)

/-- Rows listed by their status, which is all that the swap of a loop needs. -/
theorem listed_status {statuses : List JobStatus} (hv : v.Sat Recovering) :
    (getJobsInStatuses statuses).Ensures Later (Listed fun x _ => x.2.status ∈ statuses) v := by
  refine .select fun v' d hs => ⟨hs.sat hv, fun x hx => ?_⟩
  exact of_decide_eq_true (mem_jobsWhere.mp hx).2

/-- Rows of jobs that have been sent to a printer. -/
theorem listed_dispatched {st : JobStatus} (hv : v.Sat Recovering) (hst : st ∈ [.printing, .completed]) :
    (getJobsByStatus st).Ensures Later (Listed fun x d => Dispatched d x.1) v := by
  refine .select fun v' d hs => ⟨hs.sat hv, fun x hx => ?_⟩
  obtain ⟨hj, hstatus⟩ := mem_jobsWhere.mp hx
  refine dispatched_base (hs.sat hv) hst ?_
  cases hs with
  | reading => exact (Db.statusOf_eq hj).trans (congrArg some (of_decide_eq_true hstatus))
  | writing => exact (Db.statusOf_eq hj).trans (congrArg some (of_decide_eq_true hstatus))

theorem reconcileInterruptedJobs_ensures :
    (reconcileInterruptedJobs now).Ensures Later (fun _ v => v.Sat Finished) (.reading d) := by
  have hv : (View.reading d).Sat Recovering := trivial
  have hkeep : ∀ x : JobId × Job, ∀ a b, Later a b → Dispatched a x.1 → Dispatched b x.1 :=
    fun x => Dispatched.stable
  refine Txn.Ensures.mono (P := fun _ v => v.Sat Recovering) (fun _ v hv => hv.mono fun b d hd => ?_) ?_
  · exact hd.weaken (fun _ _ h => h.advances) (fun _ h => h) fun _ h => h
  · refine .bind (listed_status hv) fun rows v₁ hv₁ => ?_
    refine .bind (loop_ensures (fun _ _ _ _ h => h) hv₁ fun x v' hv' hx => recoverRetryable_ensures hv' hx)
      fun _ v₂ hv₂ => ?_
    refine .bind (listed_status hv₂) fun rows v₃ hv₃ => ?_
    refine .bind (loop_ensures (fun _ _ _ _ h => h) hv₃ fun x v' hv' hx => quarantineInterrupted_ensures hv' hx)
      fun _ v₄ hv₄ => ?_
    refine .bind (listed_dispatched hv₄ (by decide)) fun rows v₅ hv₅ => ?_
    refine .bind (loop_ensures hkeep hv₅ fun x v' hv' hx => restorePrinting_ensures hv' hx) fun _ v₆ hv₆ => ?_
    refine .bind (listed_dispatched hv₆ (by decide)) fun rows v₇ hv₇ => ?_
    exact loop_ensures hkeep hv₇ fun x v' hv' hx => repairProgress_ensures hv' hx

end recovery

/-! ## All of them -/

/-- A transaction of the service, with its arguments. -/
inductive Request where
  | reconcileInterruptedJobs (now : Time)
  | commitUpload (s : Settings) (now : Time) (id : JobId) (form : UploadForm)
  | cancelJob (now : Time) (id : JobId)
  | cancelPendingJob (now : Time) (id : JobId)
  | startAnalysis (now : Time) (id : JobId)
  | planSlice (now : Time) (id : JobId) (analysis : Analysis) (choice : Option PrinterID × Option String)
  | storeSlice (now : Time) (id : JobId) (p : PrinterID) (path : String) (est : Option Nat)
  | failJob (now : Time) (id : JobId) (message : String)
  | checkReslice (id : JobId)
  | storeReslice (now : Time) (id : JobId) (p : PrinterID) (path : String) (est : Option Nat)
  | abortReslice (now : Time) (id : JobId) (exc : String)
  | tryScheduleFallback (s : Settings) (now : Time) (target : PrinterID) (reserved : JobId → Bool)
  | tryDispatch (s : Settings) (now : Time) (p : PrinterID)
  | requestStart (now : Time) (id : JobId) (p : PrinterID)
  | confirmStart (now : Time) (id : JobId) (p : PrinterID)
  | quarantineStart (now : Time) (id : JobId) (p : PrinterID) (exc : Exc)
  | releaseFailed (now : Time) (id : JobId) (p : PrinterID)
  | onStatusUpdate (now : Time) (p : PrinterID) (snap : Snapshot)
  | markPlateCleared (s : Settings) (now : Time) (p : PrinterID)
  | acknowledgeChecks (s : Settings) (p : PrinterID)
  | logAcknowledged (now : Time) (p : PrinterID)

namespace Request

/-- The program of the transaction. -/
def program : Request → Tx Unit
  | reconcileInterruptedJobs now => (BambuBabu.reconcileInterruptedJobs now).void
  | commitUpload s now id form => BambuBabu.commitUpload s now id form
  | cancelJob now id => (BambuBabu.cancelJob now id).void
  | cancelPendingJob now id => (BambuBabu.cancelPendingJob now id).void
  | startAnalysis now id => (BambuBabu.startAnalysis now id).void
  | planSlice now id analysis choice => (BambuBabu.planSlice now id analysis choice).void
  | storeSlice now id p path est => BambuBabu.storeSlice now id p path est
  | failJob now id message => BambuBabu.failJob now id message
  | checkReslice id => (BambuBabu.checkReslice id).void
  | storeReslice now id p path est => BambuBabu.storeReslice now id p path est
  | abortReslice now id exc => BambuBabu.abortReslice now id exc
  | tryScheduleFallback s now target reserved => (BambuBabu.tryScheduleFallback s now target reserved).void
  | tryDispatch s now p => (BambuBabu.tryDispatch s now p).void
  | requestStart now id p => BambuBabu.requestStart now id p
  | confirmStart now id p => BambuBabu.confirmStart now id p
  | quarantineStart now id p exc => BambuBabu.quarantineStart now id p exc
  | releaseFailed now id p => BambuBabu.releaseFailed now id p
  | onStatusUpdate now p snap => (BambuBabu.onStatusUpdate now p snap).void
  | markPlateCleared s now p => (BambuBabu.markPlateCleared s now p).void
  | acknowledgeChecks s p => BambuBabu.acknowledgeChecks s p
  | logAcknowledged now p => BambuBabu.logAcknowledged now p

/-- A request to clear a plate. -/
def clearsPlate : Request → Bool
  | markPlateCleared _ _ _ => true
  | _ => false

/-- A request to upload a job. -/
def uploads : Request → Bool
  | commitUpload _ _ _ _ => true
  | _ => false

variable {r : Request} {d : Db}

/-- Every other transaction commits a finished draft. -/
theorem ensures_finished (hclear : r.clearsPlate = false) (hup : r.uploads = false) :
    r.program.Ensures Later (fun _ v => v.Sat Finished) (.reading d) := by
  cases r with
  | reconcileInterruptedJobs => exact reconcileInterruptedJobs_ensures.void
  | commitUpload => cases hup
  | cancelJob => exact cancelJob_ensures.void
  | cancelPendingJob => exact cancelPendingJob_ensures.void
  | startAnalysis => exact startAnalysis_ensures.void
  | planSlice => exact planSlice_ensures.void
  | storeSlice => exact storeSlice_ensures
  | failJob => exact failJob_ensures
  | checkReslice => exact checkReslice_ensures.void
  | storeReslice => exact storeReslice_ensures
  | abortReslice => exact abortReslice_ensures
  | tryScheduleFallback => exact tryScheduleFallback_ensures.void
  | tryDispatch => exact tryDispatch_ensures.void
  | requestStart => exact requestStart_ensures
  | confirmStart => exact confirmStart_ensures
  | quarantineStart => exact quarantineStart_ensures
  | releaseFailed => exact releaseFailed_ensures
  | onStatusUpdate => exact onStatusUpdate_ensures.void
  | markPlateCleared => cases hclear
  | acknowledgeChecks => exact acknowledgeChecks_ensures
  | logAcknowledged => exact logAcknowledged_ensures

/-- **Every transaction is lawful**, whatever the others commit meanwhile. -/
theorem commits_lawful (r : Request) (d : Db) : r.program.Commits Later Lawful (.reading d) := by
  have hdraft : ∀ {owed : Option JobId} {b c : Db}, Draft JobStatus.Advances none owed b c → Lawful b c :=
    fun h => h.lawful fun _ _ hedge => hedge
  cases hclear : r.clearsPlate with
  | true =>
      cases r with
      | markPlateCleared =>
          exact Txn.Ensures.mono (fun _ _ h => h.mono fun _ _ ⟨_, hd⟩ => hdraft hd) markPlateCleared_ensures.void
      | _ => cases hclear
  | false =>
      cases hup : r.uploads with
      | true =>
          cases r with
          | commitUpload => exact Txn.Ensures.mono (fun _ _ h => h.mono fun _ _ hd => hd.1) commitUpload_ensures
          | _ => cases hup
      | false => exact Txn.Ensures.mono (fun _ _ h => h.mono fun _ _ hd => hdraft hd) (ensures_finished hclear hup)

/-- **Every transaction but plate clearing is audited.** -/
theorem commits_audited (d : Db) (hclear : r.clearsPlate = false) :
    r.program.Commits Later Audited (.reading d) := by
  cases hup : r.uploads with
  | true =>
      cases r with
      | commitUpload => exact Txn.Ensures.mono (fun _ _ h => h.mono fun _ _ hd => hd.2) commitUpload_ensures
      | _ => cases hup
  | false => exact Txn.Ensures.mono (fun _ _ h => h.mono fun _ _ hd => hd.audited) (ensures_finished hclear hup)

/-- Clients that issue these requests keep to `Lawful`. -/
theorem lawful_clients : Clients program Later Lawful where
  grows _ _ _ := Later.grows
  stays _ _ h := .refl h.owned
  idle _ _ := .refl _
  keeps r d _ := r.commits_lawful d

end Request

end BambuBabu
