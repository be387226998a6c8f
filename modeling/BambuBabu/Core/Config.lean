import BambuBabu.Db.Models

/-!
# `Core.Config` — the settings of `backend/config.py` the modelled code reads

The constraints pydantic puts on a field (`gt=0`, `ge=0, le=100`) are fields of the structure, so every
`Settings` value is one the service can be started with.
-/

namespace BambuBabu

/-- `<P>_MAX_X`, `<P>_MAX_Y`, `<P>_MAX_Z`: each `Field(..., gt=0)`. -/
structure BuildVolume where
  x : Nat
  y : Nat
  z : Nat
  x_pos : 0 < x
  y_pos : 0 < y
  z_pos : 0 < z
  deriving DecidableEq

structure Settings where
  uploadDir : String
  slicedDir : String
  printersEnabled : Bool
  p1sEnabled : Bool
  p1sMax : BuildVolume
  a1MiniEnabled : Bool
  a1MiniMax : BuildVolume
  mockSlicer : Bool
  /-- `f"{PRINT_START_CONFIRM_TIMEOUT_SECONDS:g}"` -/
  startConfirmTimeout : String
  /-- `COMPLEXITY_THRESHOLD: float = Field(50.0, ge=0, le=100)` -/
  complexityThreshold : ℚ
  threshold_nonneg : 0 ≤ complexityThreshold
  threshold_le : complexityThreshold ≤ 100
  deriving DecidableEq

namespace Settings

/-- Whether a physical printer is part of this deployment. -/
def printerEnabled (s : Settings) : PrinterID → Bool
  | .p1s => s.p1sEnabled
  | .a1Mini => s.a1MiniEnabled

/-- Whether live integration is active for a configured printer. -/
def livePrinterEnabled (s : Settings) (p : PrinterID) : Bool :=
  s.printersEnabled && s.printerEnabled p

/-- The checks `validate_runtime` makes on these fields before the service starts. -/
def validateRuntime (s : Settings) : Except String Unit :=
  if s.printersEnabled then
    if s.mockSlicer then .error "MOCK_SLICER cannot be used with live printers"
    else if s.p1sEnabled = false ∧ s.a1MiniEnabled = false then
      .error "PRINTERS_ENABLED requires at least one enabled physical printer"
    else .ok ()
  else .ok ()

/-- Live printers exclude the mock slicer, in one configuration. -/
theorem mockSlicer_of_validateRuntime {s : Settings} (h : s.validateRuntime = .ok ())
    (hlive : s.printersEnabled = true) : s.mockSlicer = false := by
  unfold validateRuntime at h
  rw [if_pos hlive] at h
  split at h
  · cases h
  · next hmock => exact Bool.eq_false_iff.mpr hmock

end Settings

end BambuBabu
