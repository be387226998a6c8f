import BambuBabu.Core.Config

/-!
# `Core.Slicer` — output naming of `backend/core/slicer.py`

What a slicer run produces is up to the slicer; where it puts its output is fixed by `slice_stl`.
-/

namespace BambuBabu

/-- The last component of a path (`Path(path).name`). -/
def pathName (path : String) : String :=
  String.ofList ((path.toList.reverse.takeWhile (· ≠ '/')).reverse)

/-- `Path(path).stem`: the name up to its last dot, unless that dot is its first or last character. -/
def pathStem (path : String) : String :=
  let name := (pathName path).toList
  let suffix := name.reverse.takeWhile (· ≠ '.')
  let kept := name.take (name.length - suffix.length - 1)
  if kept.isEmpty || suffix.isEmpty then pathName path else String.ofList kept

/-- `output_dir / f"{stl_path.stem}-{printer_id.value}.gcode.3mf"` -/
def sliceOutput (outputDir stlPath : String) (p : PrinterID) : String :=
  s!"{outputDir}/{pathStem stlPath}-{p.value}.gcode.3mf"

/-- Who writes the output file: `_orca_slice` or `_mock_slice`. -/
inductive Slicer where
  | orca | mock
  deriving DecidableEq, Repr

/-- The slicer that `slice_stl` runs. -/
def Settings.slicer (s : Settings) : Slicer := if s.mockSlicer then .mock else .orca

theorem Settings.slicer_of_validateRuntime {s : Settings} (h : s.validateRuntime = .ok ())
    (hlive : s.printersEnabled = true) : s.slicer = .orca := by
  rw [slicer, Settings.mockSlicer_of_validateRuntime h hlive]
  rfl

/-- What one slicer run reports back: the estimate, or the exception it ends with. -/
inductive SliceOutcome where
  | sliced (estimatedMinutes : Option Nat)
  | raised (msg : String)
  deriving DecidableEq, Repr

/-- `slice_stl`: the path of the output and the estimate. The mock slicer always estimates 30 minutes. -/
def sliceStl (s : Settings) (stlPath : String) (p : PrinterID) :
    SliceOutcome → Except String (String × Option Nat)
  | .raised msg => .error msg
  | .sliced est => .ok (sliceOutput s.slicedDir stlPath p, if s.mockSlicer then some 30 else est)

example : sliceOutput "/data/sliced" "/data/uploads/ab-12.stl" .a1Mini
    = "/data/sliced/ab-12-a1_mini.gcode.3mf" := by decide +kernel

end BambuBabu
