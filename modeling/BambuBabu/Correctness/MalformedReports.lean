import BambuBabu.Live.Messages

/-!
# `Correctness.MalformedReports` — a report is applied whole, or not at all

Every shape of message other than an object with an object under `print` is refused before the first assignment.
Inside such an object the conversions come too late: the flag, the `gcode_state` and the fields before the first
value that does not convert have been assigned. Nothing shows of it only if they had these values already
(`Repeats`). And a report whose values all convert is applied before `on_status_update` finds that the database
cannot store it (`Storable`).

* `AllOrNothing` — the message is applied whole or leaves the fields alone, and if it raises it leaves them alone;
* `message_all_or_nothing` — **exactly when it is**;
* `half_applied_finish` — the failing message.
-/

namespace BambuBabu

variable {conv : Conversions} {fault : FieldsSnapshot → Option PyExc} {now : Time} {r : Fields} {f f' : LiveFields}
  {loaded : Except PyExc Json}

/-- What a message that is not applied must leave as it is. -/
structure SameReported (f f' : LiveFields) : Prop where
  status : f'.status = f.status
  gcodeState : f'.gcodeState = f.gcodeState
  progress : f'.progress = f.progress
  nozzleTemp : f'.nozzleTemp = f.nozzleTemp
  bedTemp : f'.bedTemp = f.bedTemp
  flag : f'.failedReportAcknowledged = f.failedReportAcknowledged
  version : f'.reportVersion = f.reportVersion

/-- Every field is set to what the report says, the report is counted, the waiters are notified, and
    `on_status_update` is called with the new snapshot. -/
def AppliedWhole (conv : Conversions) (now : Time) (r : Fields) (f f' : LiveFields) : Prop :=
  ∃ st n x y, stateMapGet f.status (f.shownState r) = .ok st ∧ f.progressOf conv r = .ok n ∧
    f.nozzleOf conv r = .ok x ∧ f.bedOf conv r = .ok y ∧ f' = (f.applied r now st n x y).called

/-- **All or nothing**, for a message that ends with `out`. -/
structure AllOrNothing (conv : Conversions) (now : Time) (loaded : Except PyExc Json) (f : LiveFields)
    (out : Except PyExc Unit × LiveFields) : Prop where
  whole : (∃ r, reportOf loaded = some r ∧ AppliedWhole conv now r f out.2) ∨ SameReported f out.2
  raises : ∀ e, out.1 = .error e → SameReported f out.2

/-- Every value of the report converts. -/
structure Converts (conv : Conversions) (r : Fields) (f : LiveFields) : Prop where
  status : ∃ st, stateMapGet f.status (f.shownState r) = .ok st
  progress : ∃ n, f.progressOf conv r = .ok n
  nozzle : ∃ x, f.nozzleOf conv r = .ok x
  bed : ∃ y, f.bedOf conv r = .ok y

/-- What is assigned before the first value that does not convert is there already. -/
structure Repeats (conv : Conversions) (r : Fields) (f : LiveFields) : Prop where
  flag : f.clearsFlag r = true → f.failedReportAcknowledged = false
  gcodeState : f.shownState r = f.gcodeState
  status : ∀ st, stateMapGet f.status (f.shownState r) = .ok st → st = f.status
  progress : ∀ st n, stateMapGet f.status (f.shownState r) = .ok st → f.progressOf conv r = .ok n →
    n = f.progress
  nozzle : ∀ st n x, stateMapGet f.status (f.shownState r) = .ok st → f.progressOf conv r = .ok n →
    f.nozzleOf conv r = .ok x → x = f.nozzleTemp

/-- The database stores what the report says: its progress fits, and nothing else goes wrong. -/
def Storable (conv : Conversions) (fault : FieldsSnapshot → Option PyExc) (now : Time) (r : Fields) (f : LiveFields) :
    Prop :=
  ∀ st n x y, stateMapGet f.status (f.shownState r) = .ok st → f.progressOf conv r = .ok n →
    f.nozzleOf conv r = .ok x → f.bedOf conv r = .ok y →
    fitsInteger n = true ∧ fault (f.applied r now st n x y).snapshot = none

/-- The message carries no report, or one whose values all convert and can be stored, or one that repeats the fields up
    to the first value that does not convert. -/
def wholeCheck (conv : Conversions) (fault : FieldsSnapshot → Option PyExc) (now : Time) (loaded : Except PyExc Json)
    (f : LiveFields) : Prop :=
  ∀ r, reportOf loaded = some r →
    (Converts conv r f → Storable conv fault now r f) ∧ (¬ Converts conv r f → Repeats conv r f)

/-! ## Reports that are not applied -/

theorem SameReported.refl : SameReported f f := ⟨rfl, rfl, rfl, rfl, rfl, rfl, rfl⟩

/-- The first assignments keep the flag exactly if they do not clear a set one. -/
theorem entered_flag (now : Time) : (f.entered r now).failedReportAcknowledged = f.failedReportAcknowledged ↔
    (f.clearsFlag r = true → f.failedReportAcknowledged = false) := by
  show (if f.clearsFlag r then false else f.failedReportAcknowledged) = f.failedReportAcknowledged ↔ _
  cases f.clearsFlag r with
  | true => exact ⟨fun h _ => h.symm, fun h => (h rfl).symm⟩
  | false => exact ⟨fun _ h => (by cases h), fun _ => rfl⟩

/-- **A report that raises leaves the fields as they were exactly if it repeats them.** -/
theorem same_iff_repeats {e : PyExc} (h : Handled conv now r f (.error e, f')) :
    SameReported f f' ↔ Repeats conv r f := by
  -- by the first value that does not convert: what is assigned before it has to repeat, and what comes after it is
  -- not assigned, so those clauses of `Repeats` are vacuous
  cases h with
  | unhashable hst =>
      constructor
      · intro hsame
        refine ⟨(entered_flag now).mp hsame.flag, hsame.gcodeState, ?_, ?_, ?_⟩
        · intro st hst'
          rw [hst] at hst'
          cases hst'
        · intro st n hst'
          rw [hst] at hst'
          cases hst'
        · intro st n x hst'
          rw [hst] at hst'
          cases hst'
      · intro hrep
        exact ⟨rfl, hrep.gcodeState, rfl, rfl, rfl, (entered_flag now).mpr hrep.flag, rfl⟩
  | badProgress hst hn =>
      constructor
      · intro hsame
        refine ⟨(entered_flag now).mp hsame.flag, hsame.gcodeState, ?_, ?_, ?_⟩
        · intro st hst'
          cases Except.ok.inj (hst.symm.trans hst')
          exact hsame.status
        · intro st n _ hn'
          rw [hn] at hn'
          cases hn'
        · intro st n x _ hn'
          rw [hn] at hn'
          cases hn'
      · intro hrep
        exact ⟨hrep.status _ hst, hrep.gcodeState, rfl, rfl, rfl, (entered_flag now).mpr hrep.flag, rfl⟩
  | badNozzle hst hn hx =>
      constructor
      · intro hsame
        refine ⟨(entered_flag now).mp hsame.flag, hsame.gcodeState, ?_, ?_, ?_⟩
        · intro st hst'
          cases Except.ok.inj (hst.symm.trans hst')
          exact hsame.status
        · intro st n _ hn'
          cases Except.ok.inj (hn.symm.trans hn')
          exact hsame.progress
        · intro st n x _ _ hx'
          rw [hx] at hx'
          cases hx'
      · intro hrep
        exact ⟨hrep.status _ hst, hrep.gcodeState, hrep.progress _ _ hst hn, rfl, rfl,
          (entered_flag now).mpr hrep.flag, rfl⟩
  | badBed hst hn hx hy =>
      constructor
      · intro hsame
        refine ⟨(entered_flag now).mp hsame.flag, hsame.gcodeState, ?_, ?_, ?_⟩
        · intro st hst'
          cases Except.ok.inj (hst.symm.trans hst')
          exact hsame.status
        · intro st n _ hn'
          cases Except.ok.inj (hn.symm.trans hn')
          exact hsame.progress
        · intro st n x _ _ hx'
          cases Except.ok.inj (hx.symm.trans hx')
          exact hsame.nozzleTemp
      · intro hrep
        exact ⟨hrep.status _ hst, hrep.gcodeState, hrep.progress _ _ hst hn, hrep.nozzle _ _ _ hst hn hx, rfl,
          (entered_flag now).mpr hrep.flag, rfl⟩

/-- A report that raises has a value that does not convert. -/
theorem not_converts_of_raised {e : PyExc} (h : Handled conv now r f (.error e, f')) : ¬ Converts conv r f := by
  rintro ⟨⟨st, hst'⟩, ⟨n, hn'⟩, ⟨x, hx'⟩, ⟨y, hy'⟩⟩
  cases h with
  | unhashable hst => rw [hst] at hst'; cases hst'
  | badProgress _ hn => rw [hn] at hn'; cases hn'
  | badNozzle _ _ hx => rw [hx] at hx'; cases hx'
  | badBed _ _ _ hy => rw [hy] at hy'; cases hy'

/-! ## Reports that are applied -/

/-- A report that has been counted has changed something. -/
theorem not_same_of_applied {st : LiveStatus} {n : Int} {x y : PyFloat} :
    ¬ SameReported f (f.applied r now st n x y).called := by
  intro hsame
  exact absurd hsame.version (Nat.succ_ne_self _)

theorem onStatusUpdateRaises_eq_ok {snap : FieldsSnapshot} :
    onStatusUpdateRaises fault snap = .ok () ↔ fitsInteger snap.progress = true ∧ fault snap = none := by
  unfold onStatusUpdateRaises
  cases fitsInteger snap.progress <;> cases fault snap <;> simp

/-- **A report whose values all convert** is all-or-nothing exactly if the database stores it. -/
theorem applied_iff_stored (hrep : reportOf loaded = some r) {st : LiveStatus} {n : Int} {x y : PyFloat}
    (hst : stateMapGet f.status (f.shownState r) = .ok st) (hn : f.progressOf conv r = .ok n)
    (hx : f.nozzleOf conv r = .ok x) (hy : f.bedOf conv r = .ok y) :
    AllOrNothing conv now loaded f (onStatusUpdateRaises fault (f.applied r now st n x y).snapshot,
      (f.applied r now st n x y).called) ↔ Storable conv fault now r f := by
  have hstored : Storable conv fault now r f ↔
      onStatusUpdateRaises fault (f.applied r now st n x y).snapshot = .ok () := by
    rw [onStatusUpdateRaises_eq_ok]
    constructor
    · intro h
      exact h st n x y hst hn hx hy
    · intro h st' n' x' y' hst' hn' hx' hy'
      cases Except.ok.inj (hst.symm.trans hst')
      cases Except.ok.inj (hn.symm.trans hn')
      cases Except.ok.inj (hx.symm.trans hx')
      cases Except.ok.inj (hy.symm.trans hy')
      exact h
  rw [hstored]
  constructor
  · intro h
    cases hout : onStatusUpdateRaises fault (f.applied r now st n x y).snapshot with
    | ok => rfl
    | error e => exact absurd (h.raises e hout) not_same_of_applied
  · intro hok
    refine ⟨.inl ⟨r, hrep, st, n, x, y, hst, hn, hx, hy, rfl⟩, fun e he => ?_⟩
    cases hok.symm.trans he

/-! ## Messages -/

/-- **A message is all-or-nothing exactly if it passes the check.** -/
theorem message_all_or_nothing (conv : Conversions) (fault : FieldsSnapshot → Option PyExc) (now : Time)
    (loaded : Except PyExc Json) (f : LiveFields) :
    AllOrNothing conv now loaded f ((onMessage conv fault now loaded).exec f) ↔
      wholeCheck conv fault now loaded f := by
  cases hrep : reportOf loaded with
  | none =>
      have hsame : SameReported f ((onMessage conv fault now loaded).exec f).2 := by
        rw [onMessage_other hrep]
        exact .refl
      refine iff_of_true ⟨.inr hsame, fun _ _ => hsame⟩ fun r hr => ?_
      rw [hrep] at hr
      cases hr
  | some r =>
      have hcheck : wholeCheck conv fault now loaded f ↔
          (Converts conv r f → Storable conv fault now r f) ∧ (¬ Converts conv r f → Repeats conv r f) := by
        constructor
        · intro h
          exact h r hrep
        · intro h r' hr'
          cases Option.some.inj (hrep.symm.trans hr')
          exact h
      rw [hcheck]
      have hhandled : Handled conv now r f ((handleReport conv now (.obj r)).exec f) := handled_obj
      generalize hout : (handleReport conv now (.obj r)).exec f = out at hhandled
      obtain ⟨res, f'⟩ := out
      cases res with
      | ok snap =>
          cases hhandled with
          | @applied st n x y hst hn hx hy =>
              have hconv : Converts conv r f := ⟨⟨st, hst⟩, ⟨n, hn⟩, ⟨x, hx⟩, ⟨y, hy⟩⟩
              rw [onMessage_applied hrep hout, applied_iff_stored hrep hst hn hx hy]
              exact ⟨fun h => ⟨fun _ => h, fun hno => absurd hconv hno⟩, fun h => h.1 hconv⟩
      | error e =>
          have hconv : ¬ Converts conv r f := not_converts_of_raised hhandled
          rw [onMessage_raised hrep hout]
          constructor
          · intro h
            exact ⟨fun hyes => absurd hyes hconv, fun _ => (same_iff_repeats hhandled).mp (h.raises e rfl)⟩
          · intro h
            have hsame : SameReported f f' := (same_iff_repeats hhandled).mpr (h.2 hconv)
            exact ⟨.inr hsame, fun _ _ => hsame⟩

/-- A client that shows a running print. -/
def runningPrint : LiveFields :=
  { status := .printing, gcodeState := .str "RUNNING", connected := true, reportVersion := 1 }

/-- FINISH with some progress. -/
def finishAt (progress : Json) : Json := .obj [("print", .obj [("gcode_state", .str "FINISH"), ("mc_percent", progress)])]

/-- No text is a number. -/
def noNumbers : Conversions := ⟨fun _ => none, fun _ => none, fun _ => none⟩

/-- **The half-applied FINISH**, with a progress of `null`: the client shows it, no report has been counted, and nobody
    is told. -/
theorem half_applied_finish : ¬ ∀ conv fault now loaded f,
    AllOrNothing conv now loaded f ((onMessage conv fault now loaded).exec f) := by
  intro hclaim
  have h := hclaim noNumbers (fun _ => none) 0 (.ok (finishAt .null)) runningPrint
  cases (h.raises .typeError rfl).status

/-- A FINISH with a progress of `1e30` is applied before the callback raises. -/
example : ((onMessage noNumbers (fun _ => none) 0 (.ok (finishAt (.float (.finite (10 ^ 30)))))).exec
    runningPrint).map id (fun f => (f.status, f.reportVersion)) = (.error .overflowError, .idle, 2) := by
  decide +kernel

end BambuBabu
