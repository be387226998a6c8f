import BambuBabu.Core.Json
import BambuBabu.Live.Client

/-!
# `Live.Messages` — `_on_message` on whatever the broker delivers

`Core.Printer` applies well-formed reports. Here a report is any JSON value, as `_on_message` finds it after
`json.loads`, and the live client keeps what it is given: its `gcode_state` may be any JSON value too. The section
of `_handle_print` assigns one field after the other, and what it has assigned stays when a later conversion
raises. After the section `on_status_update` is called, which may raise as well.

* `handleReport` — the section; `handlePrint`, `onMessage` — the callback around it.
* `Handled` — how far the section gets; `onMessage_applied`, `onMessage_raised`, `onMessage_other` — what becomes of
  a message.

On well-formed reports the section is `BambuPrinter.handlePrint` (`Embeds.handleReport`).
-/

namespace BambuBabu

/-- `_snapshot_unlocked` -/
structure FieldsSnapshot where
  status : LiveStatus
  gcodeState : Json
  progress : Int
  nozzleTemp : PyFloat
  bedTemp : PyFloat
  connected : Bool
  lastSeen : Option Time

/-- The fields of a live client that a message can reach. -/
structure LiveFields where
  status : LiveStatus := .offline
  gcodeState : Json := .str "OFFLINE"
  progress : Int := 0
  nozzleTemp : PyFloat := .finite 0
  bedTemp : PyFloat := .finite 0
  connected : Bool := false
  lastSeen : Option Time := none
  reportVersion : Nat := 0
  failedReportAcknowledged : Bool := false
  /-- The `notify_all` calls so far, and the snapshots that `on_status_update` has been called with; not part of
      the program. -/
  notified : Nat := 0
  calls : List FieldsSnapshot := []

def LiveFields.snapshot (f : LiveFields) : FieldsSnapshot where
  status := f.status
  gcodeState := f.gcodeState
  progress := f.progress
  nozzleTemp := f.nozzleTemp
  bedTemp := f.bedTemp
  connected := f.connected
  lastSeen := f.lastSeen

/-- Code that may raise and keeps what it has assigned. -/
abbrev Section := ExceptT PyExc (StateM LiveFields)

/-- An operation that may raise and assigns nothing. -/
def liftExcept {α : Type} (x : Except PyExc α) : Section α := ExceptT.mk (pure x)

namespace Section

variable {α β : Type}

/-- What the code returns or raises, and the fields it leaves. -/
def exec (x : Section α) (f : LiveFields) : Except PyExc α × LiveFields := StateT.run (ExceptT.run x) f

/-- Go on with what has been returned. -/
def andThen (k : α → Section β) : Except PyExc α × LiveFields → Except PyExc β × LiveFields
  | (.ok a, f) => (k a).exec f
  | (.error e, f) => (.error e, f)

@[simp] theorem exec_bind (x : Section α) (k : α → Section β) (f : LiveFields) :
    (x >>= k).exec f = andThen k (x.exec f) := by
  have hrun : (x >>= k).exec f = (ExceptT.bindCont k (x.exec f).1).run (x.exec f).2 := rfl
  rw [hrun]
  obtain ⟨r, f'⟩ := x.exec f
  cases r with
  | ok a => rfl
  | error e => rfl

@[simp] theorem andThen_ok (k : α → Section β) (a : α) (f : LiveFields) : andThen k (.ok a, f) = (k a).exec f := rfl

@[simp] theorem andThen_error (k : α → Section β) (e : PyExc) (f : LiveFields) :
    andThen k (.error e, f) = (.error e, f) := rfl

@[simp] theorem exec_pure (a : α) (f : LiveFields) : (pure a : Section α).exec f = (.ok a, f) := rfl

@[simp] theorem exec_throw (e : PyExc) (f : LiveFields) : (throw e : Section α).exec f = (.error e, f) := rfl

@[simp] theorem exec_lift (x : Except PyExc α) (f : LiveFields) : (liftExcept x).exec f = (x, f) := rfl

@[simp] theorem exec_get (f : LiveFields) : (get : Section LiveFields).exec f = (.ok f, f) := rfl

@[simp] theorem exec_modify (g : LiveFields → LiveFields) (f : LiveFields) :
    (modify g : Section PUnit).exec f = (.ok ⟨⟩, g f) := rfl

end Section

/-- The entries of `state_map`. -/
def stateMapEntries : List (String × LiveStatus) :=
  [("IDLE", .idle), ("PREPARE", .printing), ("RUNNING", .printing), ("PAUSE", .paused), ("FAILED", .error),
    ("FINISH", .idle)]

/-- `state_map.get(gcode_state, default)` -/
def stateMapGet (default : LiveStatus) : Json → Except PyExc LiveStatus
  | .str s => .ok ((stateMapEntries.lookup s).getD default)
  | v => if v.hashable then .ok default else .error .typeError

variable (conv : Conversions)

/-- The assignments of `_handle_print` that convert what they assign, and its last lines. -/
def assignConverted (report gcodeState : Json) : Section FieldsSnapshot := do
  let status ← liftExcept (stateMapGet (← get).status gcodeState)
  modify fun f => { f with status := status }
  let progress ← liftExcept (report.get "mc_percent" (.int (← get).progress) >>= Json.toInt conv)
  modify fun f => { f with progress := progress }
  let nozzleTemp ← liftExcept (report.get "nozzle_temper" (.float (← get).nozzleTemp) >>= Json.toFloat conv)
  modify fun f => { f with nozzleTemp := nozzleTemp }
  let bedTemp ← liftExcept (report.get "bed_temper" (.float (← get).bedTemp) >>= Json.toFloat conv)
  modify fun f => { f with bedTemp := bedTemp }
  modify fun f => { f with reportVersion := f.reportVersion + 1, notified := f.notified + 1 }
  return (← get).snapshot

/-- The section of `_handle_print` -/
def handleReport (now : Time) (report : Json) : Section FieldsSnapshot := do
  let hasReportedState ← liftExcept (report.contains "gcode_state")
  let reportedState ← liftExcept (report.get "gcode_state" (← get).gcodeState)
  let suppressed := reportedState.isStr "FAILED" && (← get).failedReportAcknowledged
  let gcodeState := if suppressed then .str "IDLE" else reportedState
  let clears := !suppressed && hasReportedState && !reportedState.isStr "FAILED"
  modify fun f =>
    { f with failedReportAcknowledged := if clears then false else f.failedReportAcknowledged }
  modify fun f => { f with lastSeen := some now }
  modify fun f => { f with gcodeState := gcodeState }
  assignConverted conv report gcodeState

/-- A whole number that SQLite can store: an INTEGER has 64 bits. -/
def fitsInteger (n : Int) : Bool := decide (-2 ^ 63 ≤ n ∧ n < 2 ^ 63)

variable (fault : FieldsSnapshot → Option PyExc)

/-- `on_status_update`, which is `PrinterManager._on_status_update`. Its transaction stores the progress of the snapshot
    in an INTEGER column; `fault` is what else it raises. -/
def onStatusUpdateRaises (snapshot : FieldsSnapshot) : Except PyExc Unit :=
  if fitsInteger snapshot.progress then (fault snapshot).elim (.ok ()) .error else .error .overflowError

/-- `_handle_print` -/
def handlePrint (now : Time) (report : Json) : Section Unit := do
  let snapshot ← handleReport conv now report
  modify fun f => { f with calls := snapshot :: f.calls }
  liftExcept (onStatusUpdateRaises fault snapshot)

/-- `_on_message`, from what `json.loads` made of the payload on. -/
def onMessage (now : Time) (loaded : Except PyExc Json) : Section Unit :=
  match loaded with
  | .error .jsonDecodeError => return
  | .error .unicodeDecodeError => return
  | .error e => throw e
  | .ok data => do
      if ← liftExcept (data.contains "print") then
        handlePrint conv fault now (← liftExcept (data.item "print"))

/-! ## What a report does -/

/-- A report that is an object. -/
abbrev Fields := List (String × Json)

namespace LiveFields

variable (f : LiveFields) (r : Fields)

/-- The `gcode_state` the report is taken to carry. -/
def reportedState : Json := (r.lookup "gcode_state").getD f.gcodeState

def suppresses : Bool := (f.reportedState r).isStr "FAILED" && f.failedReportAcknowledged

/-- The `gcode_state` after it. -/
def shownState : Json := if f.suppresses r then .str "IDLE" else f.reportedState r

/-- Whether it clears the acknowledgement flag. -/
def clearsFlag : Bool :=
  !f.suppresses r && r.any (fun entry => entry.1 = "gcode_state") && !(f.reportedState r).isStr "FAILED"

def progressOf : Except PyExc Int := ((r.lookup "mc_percent").getD (.int f.progress)).toInt conv

def nozzleOf : Except PyExc PyFloat := ((r.lookup "nozzle_temper").getD (.float f.nozzleTemp)).toFloat conv

def bedOf : Except PyExc PyFloat := ((r.lookup "bed_temper").getD (.float f.bedTemp)).toFloat conv

/-- The fields after the assignments that cannot raise. -/
def entered (now : Time) : LiveFields :=
  { f with
    failedReportAcknowledged := if f.clearsFlag r then false else f.failedReportAcknowledged
    lastSeen := some now
    gcodeState := f.shownState r }

/-- The fields after all of them. -/
def applied (now : Time) (st : LiveStatus) (progress : Int) (nozzleTemp bedTemp : PyFloat) : LiveFields :=
  { f.entered r now with
    status := st
    progress := progress
    nozzleTemp := nozzleTemp
    bedTemp := bedTemp
    reportVersion := f.reportVersion + 1
    notified := f.notified + 1 }

/-- The fields when `on_status_update` has been called with their snapshot. -/
def called : LiveFields := { f with calls := f.snapshot :: f.calls }

end LiveFields

/-- **How far the section gets** with an object, and what it leaves. -/
inductive Handled (now : Time) (r : Fields) (f : LiveFields) : Except PyExc FieldsSnapshot × LiveFields → Prop
  | unhashable {e : PyExc} (hst : stateMapGet f.status (f.shownState r) = .error e) :
      Handled now r f (.error e, f.entered r now)
  | badProgress {st : LiveStatus} {e : PyExc} (hst : stateMapGet f.status (f.shownState r) = .ok st)
      (hn : f.progressOf conv r = .error e) : Handled now r f (.error e, { f.entered r now with status := st })
  | badNozzle {st : LiveStatus} {n : Int} {e : PyExc} (hst : stateMapGet f.status (f.shownState r) = .ok st)
      (hn : f.progressOf conv r = .ok n) (hx : f.nozzleOf conv r = .error e) :
      Handled now r f (.error e, { f.entered r now with status := st, progress := n })
  | badBed {st : LiveStatus} {n : Int} {x : PyFloat} {e : PyExc}
      (hst : stateMapGet f.status (f.shownState r) = .ok st) (hn : f.progressOf conv r = .ok n)
      (hx : f.nozzleOf conv r = .ok x) (hy : f.bedOf conv r = .error e) :
      Handled now r f (.error e, { f.entered r now with status := st, progress := n, nozzleTemp := x })
  | applied {st : LiveStatus} {n : Int} {x y : PyFloat}
      (hst : stateMapGet f.status (f.shownState r) = .ok st) (hn : f.progressOf conv r = .ok n)
      (hx : f.nozzleOf conv r = .ok x) (hy : f.bedOf conv r = .ok y) :
      Handled now r f (.ok (f.applied r now st n x y).snapshot, f.applied r now st n x y)

variable {conv fault} {now : Time} {r : Fields} {f f' : LiveFields}

theorem obj_get {α : Type} (key : String) (default : Json) (k : Json → Except PyExc α) :
    (Json.obj r).get key default >>= k = k ((r.lookup key).getD default) := rfl

/-- What cannot raise comes first. -/
theorem handleReport_obj : (handleReport conv now (.obj r)).exec f =
    (assignConverted conv (.obj r) (f.shownState r)).exec (f.entered r now) := rfl

theorem handled_obj : Handled conv now r f ((handleReport conv now (.obj r)).exec f) := by
  rw [handleReport_obj]
  -- the conversions in their order; the fields before the one that raises are written by then
  cases hst : stateMapGet f.status (f.shownState r) with
  | error e =>
      have hst' : stateMapGet (f.entered r now).status (f.shownState r) = .error e := hst
      have hrun : (assignConverted conv (.obj r) (f.shownState r)).exec (f.entered r now) =
          (.error e, f.entered r now) := by
        simp only [assignConverted, Section.exec_bind, Section.exec_get, Section.exec_lift, Section.andThen_ok,
          Section.andThen_error, hst']
      rw [hrun]
      exact .unhashable hst
  | ok st =>
      have hst' : stateMapGet (f.entered r now).status (f.shownState r) = .ok st := hst
      cases hn : f.progressOf conv r with
      | error e =>
          have hn' : ((r.lookup "mc_percent").getD (.int (f.entered r now).progress)).toInt conv = .error e := hn
          have hrun : (assignConverted conv (.obj r) (f.shownState r)).exec (f.entered r now) =
              (.error e, { f.entered r now with status := st }) := by
            simp only [assignConverted, Section.exec_bind, Section.exec_get, Section.exec_lift,
              Section.exec_modify, Section.andThen_ok, Section.andThen_error, obj_get, hst', hn']
          rw [hrun]
          exact .badProgress hst hn
      | ok n =>
          have hn' : ((r.lookup "mc_percent").getD (.int (f.entered r now).progress)).toInt conv = .ok n := hn
          cases hx : f.nozzleOf conv r with
          | error e =>
              have hx' : ((r.lookup "nozzle_temper").getD (.float (f.entered r now).nozzleTemp)).toFloat conv =
                  .error e := hx
              have hrun : (assignConverted conv (.obj r) (f.shownState r)).exec (f.entered r now) =
                  (.error e, { f.entered r now with status := st, progress := n }) := by
                simp only [assignConverted, Section.exec_bind, Section.exec_get, Section.exec_lift,
                  Section.exec_modify, Section.andThen_ok, Section.andThen_error, obj_get, hst', hn', hx']
              rw [hrun]
              exact .badNozzle hst hn hx
          | ok x =>
              have hx' : ((r.lookup "nozzle_temper").getD (.float (f.entered r now).nozzleTemp)).toFloat conv =
                  .ok x := hx
              cases hy : f.bedOf conv r with
              | error e =>
                  have hy' : ((r.lookup "bed_temper").getD (.float (f.entered r now).bedTemp)).toFloat conv =
                      .error e := hy
                  have hrun : (assignConverted conv (.obj r) (f.shownState r)).exec (f.entered r now) =
                      (.error e, { f.entered r now with status := st, progress := n, nozzleTemp := x }) := by
                    simp only [assignConverted, Section.exec_bind, Section.exec_get, Section.exec_lift,
                      Section.exec_modify, Section.andThen_ok, Section.andThen_error, obj_get, hst', hn', hx',
                      hy']
                  rw [hrun]
                  exact .badBed hst hn hx hy
              | ok y =>
                  have hy' : ((r.lookup "bed_temper").getD (.float (f.entered r now).bedTemp)).toFloat conv =
                      .ok y := hy
                  have hrun : (assignConverted conv (.obj r) (f.shownState r)).exec (f.entered r now) =
                      (.ok (f.applied r now st n x y).snapshot, f.applied r now st n x y) := by
                    simp only [assignConverted, Section.exec_bind, Section.exec_get, Section.exec_lift,
                      Section.exec_modify, Section.exec_pure, Section.andThen_ok, obj_get, hst', hn', hx', hy']
                    rfl
                  rw [hrun]
                  exact .applied hst hn hx hy

/-- Anything but an object is refused before the first assignment. -/
theorem handleReport_not_obj {report : Json} (h : ∀ r, report ≠ .obj r) :
    ∃ e, (handleReport conv now report).exec f = (.error e, f) := by
  cases report with
  | obj r => exact absurd rfl (h r)
  | arr items => exact ⟨.attributeError, rfl⟩
  | str s => exact ⟨.attributeError, rfl⟩
  | null => exact ⟨.typeError, rfl⟩
  | bool b => exact ⟨.typeError, rfl⟩
  | int n => exact ⟨.typeError, rfl⟩
  | float x => exact ⟨.typeError, rfl⟩

/-- A section that is left by an exception ends `_handle_print`. -/
theorem handlePrint_raised {report : Json} {e : PyExc} (h : (handleReport conv now report).exec f = (.error e, f')) :
    (handlePrint conv fault now report).exec f = (.error e, f') := by
  simp only [handlePrint, Section.exec_bind, h, Section.andThen_error]

/-! ## What a message does -/

def Json.object : Json → Option Fields
  | .obj r => some r
  | _ => none

/-- The report of a message whose payload is an object with an object under `print`. -/
def reportOf (loaded : Except PyExc Json) : Option Fields :=
  ((loaded.toOption.bind Json.object).bind (List.lookup "print")).bind Json.object

variable {loaded : Except PyExc Json}

theorem lookup_isSome (r : Fields) (key : String) : (r.any fun entry => entry.1 = key) = (r.lookup key).isSome := by
  induction r with
  | nil => rfl
  | cons entry r ih =>
      obtain ⟨k, v⟩ := entry
      by_cases hk : k = key
      · simp [hk]
      · have hk' : (key == k) = false := by simpa using fun h : key = k => hk h.symm
        rw [List.any_cons, List.lookup_cons, hk', ih]
        simp [hk]

theorem object_eq_some {v : Json} : v.object = some r ↔ v = .obj r := by
  constructor
  · intro h
    cases v with
    | obj r' => cases h; rfl
    | _ => cases h
  · rintro rfl
    rfl

theorem reportOf_eq_some : reportOf loaded = some r ↔
    ∃ fields, loaded = .ok (.obj fields) ∧ fields.lookup "print" = some (.obj r) := by
  constructor
  · intro h
    obtain ⟨report, hrep, hr⟩ := Option.bind_eq_some_iff.mp h
    obtain ⟨fields, hfields, hprint⟩ := Option.bind_eq_some_iff.mp hrep
    obtain ⟨value, hvalue, hobj⟩ := Option.bind_eq_some_iff.mp hfields
    cases loaded with
    | error e => cases hvalue
    | ok v =>
        rw [object_eq_some.mp hr] at hprint
        exact ⟨fields, congrArg Except.ok ((Option.some.inj hvalue).trans (object_eq_some.mp hobj)), hprint⟩
  · rintro ⟨fields, rfl, hprint⟩
    show (fields.lookup "print").bind Json.object = some r
    rw [hprint]
    rfl

theorem contains_obj (fields : Fields) (key : String) :
    (Json.obj fields).contains key = .ok (fields.lookup key).isSome :=
  congrArg Except.ok (lookup_isSome fields key)

/-- `_on_message` of an object with a `print` entry. -/
theorem onMessage_print {fields : Fields} {report : Json} (h : fields.lookup "print" = some report) :
    (onMessage conv fault now (.ok (.obj fields))).exec f = (handlePrint conv fault now report).exec f := by
  have hin : (Json.obj fields).contains "print" = .ok true := by rw [contains_obj, h]; rfl
  have hitem : (Json.obj fields).item "print" = .ok report := by simp [Json.item, h]
  simp only [onMessage, Section.exec_bind, Section.exec_lift, hin, hitem, Section.andThen_ok, if_true]

/-- A message with a report whose values all convert is applied, and reaches `on_status_update`; -/
theorem onMessage_applied (hrep : reportOf loaded = some r) {st : LiveStatus} {n : Int} {x y : PyFloat}
    (h : (handleReport conv now (.obj r)).exec f = (.ok (f.applied r now st n x y).snapshot, f.applied r now st n x y)) :
    (onMessage conv fault now loaded).exec f =
      (onStatusUpdateRaises fault (f.applied r now st n x y).snapshot, (f.applied r now st n x y).called) := by
  obtain ⟨fields, rfl, hprint⟩ := reportOf_eq_some.mp hrep
  rw [onMessage_print hprint]
  simp only [handlePrint, Section.exec_bind, h, Section.andThen_ok, Section.exec_modify, Section.exec_lift]
  rfl

/-- one with another value raises where the section does; -/
theorem onMessage_raised (hrep : reportOf loaded = some r) {e : PyExc}
    (h : (handleReport conv now (.obj r)).exec f = (.error e, f')) :
    (onMessage conv fault now loaded).exec f = (.error e, f') := by
  obtain ⟨fields, rfl, hprint⟩ := reportOf_eq_some.mp hrep
  rw [onMessage_print hprint, handlePrint_raised h]

/-- and any other message changes nothing. -/
theorem onMessage_other (h : reportOf loaded = none) : ((onMessage conv fault now loaded).exec f).2 = f := by
  cases loaded with
  | error e => cases e <;> rfl
  | ok data =>
      cases data with
      | obj fields =>
          cases hprint : fields.lookup "print" with
          | none =>
              have hin : (Json.obj fields).contains "print" = .ok false := by rw [contains_obj, hprint]; rfl
              simp [onMessage, hin]
          | some report =>
              have hno : ∀ r, report ≠ .obj r := by
                rintro r rfl
                have hsome := reportOf_eq_some.mpr ⟨fields, rfl, hprint⟩
                rw [h] at hsome
                cases hsome
              obtain ⟨e, he⟩ : ∃ e, (handleReport conv now report).exec f = (.error e, f) :=
                handleReport_not_obj hno
              rw [onMessage_print hprint, handlePrint_raised he]
      | arr items =>
          cases hin : (Json.arr items).contains "print" with
          | error e => simp [onMessage, hin]
          | ok b => cases b <;> simp [onMessage, hin, Json.item]
      | str s =>
          cases hin : (Json.str s).contains "print" with
          | error e => simp [onMessage, hin]
          | ok b => cases b <;> simp [onMessage, hin, Json.item]
      | null => rfl
      | bool b => rfl
      | int n => rfl
      | float x => rfl

/-! ## Well-formed reports -/

/-- The text of a `gcode_state` stands for one value only. -/
def GcodeState.Canonical : GcodeState → Prop
  | .other text => text ∉ ["IDLE", "PREPARE", "RUNNING", "PAUSE", "FAILED", "FINISH", "OFFLINE"]
  | _ => True

theorem stateMapGet_value {g : GcodeState} (hg : g.Canonical) (st : LiveStatus) :
    stateMapGet st (.str g.value) = .ok ((stateMap g).getD st) := by
  cases g with
  | other text =>
      have hnone : stateMapEntries.lookup text = none := by
        have hne : ∀ s, text ≠ s → (text == s) = false := fun _ h => beq_eq_false_iff_ne.mpr h
        simp only [GcodeState.Canonical, List.mem_cons, List.not_mem_nil, or_false, not_or] at hg
        obtain ⟨h₁, h₂, h₃, h₄, h₅, h₆, -⟩ := hg
        simp only [stateMapEntries, List.lookup_cons, hne _ h₁, hne _ h₂, hne _ h₃, hne _ h₄, hne _ h₅, hne _ h₆,
          List.lookup_nil]
      show Except.ok _ = _
      rw [GcodeState.value, hnone]
      rfl
  | _ => rfl

theorem isStr_failed {g : GcodeState} (hg : g.Canonical) :
    (Json.str g.value).isStr "FAILED" = decide (g = .failed) := by
  cases g with
  | other text =>
      have hne : text ≠ "FAILED" := fun h => hg (by rw [h]; decide)
      simp [Json.isStr, GcodeState.value, hne]
  | _ => decide

/-- The `print` object of a well-formed report. -/
def Report.fields (r : Report) : Fields :=
  r.gcodeState.toList.map (fun g => ("gcode_state", .str g.value)) ++
    r.mcPercent.toList.map (fun n => ("mc_percent", .int n)) ++
    r.nozzleTemper.toList.map (fun x => ("nozzle_temper", .float (.finite x))) ++
    r.bedTemper.toList.map (fun x => ("bed_temper", .float (.finite x)))

theorem fields_lookup (r : Report) :
    r.fields.lookup "gcode_state" = r.gcodeState.map (fun g => .str g.value) ∧
    r.fields.lookup "mc_percent" = r.mcPercent.map .int ∧
    r.fields.lookup "nozzle_temper" = r.nozzleTemper.map (fun x => .float (.finite x)) ∧
    r.fields.lookup "bed_temper" = r.bedTemper.map (fun x => .float (.finite x)) := by
  obtain ⟨g, n, x, y⟩ := r
  cases g <;> cases n <;> cases x <;> cases y <;> refine ⟨rfl, rfl, rfl, rfl⟩

/-- The fields hold what the client of `Core.Printer` holds. -/
structure Embeds (c : BambuPrinter) (f : LiveFields) : Prop where
  status : f.status = c.status
  gcodeState : f.gcodeState = .str c.gcodeState.value
  canonical : c.gcodeState.Canonical
  progress : f.progress = c.progress
  nozzleTemp : f.nozzleTemp = .finite c.nozzleTemp
  bedTemp : f.bedTemp = .finite c.bedTemp
  connected : f.connected = c.connected
  lastSeen : f.lastSeen = c.lastSeen
  version : f.reportVersion = c.reportVersion
  flag : f.failedReportAcknowledged = c.failedReportAcknowledged

/-- **On well-formed reports the two models agree.** -/
theorem Embeds.handleReport {c : BambuPrinter} {r : Report} (h : Embeds c f)
    (hr : ∀ g, r.gcodeState = some g → g.Canonical) :
    ∃ f', (BambuBabu.handleReport conv now (.obj r.fields)).exec f = (.ok f'.snapshot, f') ∧
      Embeds (c.handlePrint now r) f' := by
  obtain ⟨hlg, hln, hlx, hly⟩ := fields_lookup r
  -- the state the report is taken to carry
  have hcanon : (c.reportedState r).Canonical := by
    unfold BambuPrinter.reportedState
    cases hg : r.gcodeState with
    | none => exact h.canonical
    | some g => exact hr g hg
  have hreported : f.reportedState r.fields = .str (c.reportedState r).value := by
    unfold LiveFields.reportedState BambuPrinter.reportedState
    rw [hlg, h.gcodeState]
    cases r.gcodeState <;> rfl
  have hfailed : (f.reportedState r.fields).isStr "FAILED" = decide (c.reportedState r = .failed) := by
    rw [hreported, isStr_failed hcanon]
  have hsup : f.suppresses r.fields = decide (c.suppresses r) := by
    unfold LiveFields.suppresses
    rw [hfailed, h.flag, Bool.eq_iff_iff, Bool.and_eq_true, decide_eq_true_iff, decide_eq_true_iff]
    exact Iff.rfl
  -- the values the assignments take
  have hshown : f.shownState r.fields = .str (c.handlePrint now r).gcodeState.value := by
    unfold LiveFields.shownState
    rw [hsup, hreported, handlePrint_gcodeState]
    by_cases hs : c.suppresses r
    · simp [hs, GcodeState.value]
    · simp [hs]
  have hcanon' : (c.handlePrint now r).gcodeState.Canonical := by
    rw [handlePrint_gcodeState]
    split
    · trivial
    · exact hcanon
  have hst : stateMapGet f.status (f.shownState r.fields) = .ok (c.handlePrint now r).status := by
    rw [hshown, stateMapGet_value hcanon', h.status, handlePrint_status]
  have hn : f.progressOf conv r.fields = .ok (c.handlePrint now r).progress := by
    show ((r.fields.lookup "mc_percent").getD _).toInt conv = .ok (r.mcPercent.getD c.progress)
    rw [hln, h.progress]
    cases r.mcPercent <;> rfl
  have hx : f.nozzleOf conv r.fields = .ok (.finite (c.handlePrint now r).nozzleTemp) := by
    show ((r.fields.lookup "nozzle_temper").getD _).toFloat conv = .ok (.finite (r.nozzleTemper.getD c.nozzleTemp))
    rw [hlx, h.nozzleTemp]
    cases r.nozzleTemper <;> rfl
  have hy : f.bedOf conv r.fields = .ok (.finite (c.handlePrint now r).bedTemp) := by
    show ((r.fields.lookup "bed_temper").getD _).toFloat conv = .ok (.finite (r.bedTemper.getD c.bedTemp))
    rw [hly, h.bedTemp]
    cases r.bedTemper <;> rfl
  have hclears : f.clearsFlag r.fields =
      decide (¬ c.suppresses r ∧ r.gcodeState.isSome ∧ c.reportedState r ≠ .failed) := by
    unfold LiveFields.clearsFlag
    rw [hsup, hfailed, lookup_isSome, hlg]
    simp [Bool.and_assoc]
  have hhandled : Handled conv now r.fields f _ := handled_obj
  generalize (BambuBabu.handleReport conv now (.obj r.fields)).exec f = res at hhandled
  cases hhandled with
  | unhashable h' => rw [hst] at h'; cases h'
  | badProgress _ h' => rw [hn] at h'; cases h'
  | badNozzle _ _ h' => rw [hx] at h'; cases h'
  | badBed _ _ _ h' => rw [hy] at h'; cases h'
  | applied hst' hn' hx' hy' =>
      cases Except.ok.inj (hst.symm.trans hst')
      cases Except.ok.inj (hn.symm.trans hn')
      cases Except.ok.inj (hx.symm.trans hx')
      cases Except.ok.inj (hy.symm.trans hy')
      refine ⟨_, rfl, rfl, hshown, hcanon', rfl, rfl, rfl, h.connected, rfl, ?_, ?_⟩
      · exact congrArg (· + 1) h.version
      · show (if f.clearsFlag r.fields then false else f.failedReportAcknowledged) = _
        rw [hclears, h.flag]
        simp only [decide_eq_true_eq]
        rfl

end BambuBabu
