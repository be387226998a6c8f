import BambuBabu.Core.Config
import BambuBabu.Core.Text

/-!
# `Core.Complexity` — scoring and printer selection of `backend/core/complexity.py`

* `analyseStl` — the metrics of a mesh and its score;
* `selectPrinter`, `canFitOnPrinter` — the routing;
* `selectPrinter_fst` — **the printer in one expression**.
-/

namespace BambuBabu

/-! ## Analysis -/

/-- What `analyse_stl` reads of a mesh. -/
structure Mesh where
  /-- `len(mesh.faces)` -/
  faces : Nat
  /-- `mesh.volume` in mm³, negative when the faces are wound inwards. -/
  volume : ℚ
  /-- The rows of `mesh.bounds`. -/
  lower : Bbox
  upper : Bbox
  /-- `mesh.face_normals[:, 2]` -/
  normalsZ : List ℚ

/-- The metrics as measured, before any rounding. -/
structure Metrics where
  faceCount : Nat
  rawVolume : ℚ
  overhangRatio : ℚ
  extents : Bbox
  volume_nonneg : 0 ≤ rawVolume
  overhang_nonneg : 0 ≤ overhangRatio
  overhang_le_one : overhangRatio ≤ 1

/-- `float(np.sum(normals[:, 2] < -0.707)) / max(len(normals), 1)` -/
def overhangRatio (normalsZ : List ℚ) : ℚ :=
  (normalsZ.countP fun z => z < -707 / 1000 : Nat) / (max normalsZ.length 1 : Nat)

/-- `np.ptp` over two rows. -/
def ptp (a b : ℚ) : ℚ := max a b - min a b

theorem overhangRatio_nonneg (normalsZ : List ℚ) : 0 ≤ overhangRatio normalsZ :=
  div_nonneg (Nat.cast_nonneg _) (Nat.cast_nonneg _)

theorem overhangRatio_le_one (normalsZ : List ℚ) : overhangRatio normalsZ ≤ 1 := by
  have hpos : (0 : ℚ) < (max normalsZ.length 1 : Nat) :=
    Nat.cast_pos.mpr (Nat.lt_of_lt_of_le Nat.one_pos (Nat.le_max_right _ _))
  unfold overhangRatio
  rw [div_le_one hpos]
  exact Nat.cast_le.mpr (List.countP_le_length.trans (Nat.le_max_left _ _))

def Mesh.metrics (m : Mesh) : Metrics where
  faceCount := m.faces
  rawVolume := |m.volume|
  overhangRatio := overhangRatio m.normalsZ
  extents := ⟨ptp m.lower.x m.upper.x, ptp m.lower.y m.upper.y, ptp m.lower.z m.upper.z⟩
  volume_nonneg := abs_nonneg _
  overhang_nonneg := overhangRatio_nonneg _
  overhang_le_one := overhangRatio_le_one _

namespace Metrics

variable (m : Metrics)

def volumeCm3 : ℚ := m.rawVolume / 1000

def faceScore : ℚ := min ((m.faceCount : ℚ) / 500000) 1 * 100

def overhangScore : ℚ := m.overhangRatio * 100

def volumeScore : ℚ := min (m.volumeCm3 / 300) 1 * 100

/-- The score from 0 to 100, before it is rounded. -/
def complexityScore : ℚ := m.faceScore * (40 / 100) + m.overhangScore * (40 / 100) + m.volumeScore * (20 / 100)

/-- `result` -/
def analysis : Analysis where
  faceCount := m.faceCount
  volumeCm3 := roundTo 3 m.volumeCm3
  overhangRatio := roundTo 4 m.overhangRatio
  bbox := ⟨roundTo 2 m.extents.x, roundTo 2 m.extents.y, roundTo 2 m.extents.z⟩
  complexityScore := roundTo 2 m.complexityScore

end Metrics

/-- What `trimesh.load` can return. -/
inductive LoadedStl where
  | mesh (m : Mesh)
  | scene (geometry : List Mesh)
  | other

/-- Analyse an STL file; `concatenate` joins the meshes of a scene. -/
def analyseStl (concatenate : List Mesh → Mesh) : LoadedStl → Except String Analysis
  | .mesh m => .ok m.metrics.analysis
  | .scene geometry => .ok (concatenate geometry).metrics.analysis
  | .other => .error "Could not load STL as a valid mesh"

/-! ## Selection -/

/-- `x <= MAX_X and y <= MAX_Y and z <= MAX_Z` -/
def Bbox.fits (b : Bbox) (v : BuildVolume) : Bool :=
  decide (b.x ≤ v.x) && decide (b.y ≤ v.y) && decide (b.z ≤ v.z)

/-- Check if a bounding box fits on the given printer. -/
def canFitOnPrinter (s : Settings) (b : Bbox) : PrinterID → Bool
  | .p1s => b.fits s.p1sMax
  | .a1Mini => b.fits s.a1MiniMax

/-- `{x}×{y}×{z} mm` -/
def Bbox.text (b : Bbox) : String := s!"{floatText b.x}×{floatText b.y}×{floatText b.z} mm"

def BuildVolume.text (v : BuildVolume) : String := s!"{v.x}×{v.y}×{v.z} mm"

/-- Apply the printer selection algorithm: a printer, or the reason for the rejection. -/
def selectPrinter (s : Settings) (a : Analysis) : Option PrinterID × Option String :=
  let bbox := a.bbox
  let score := a.complexityScore
  let p1sEnabled := s.printerEnabled .p1s
  let a1Enabled := s.printerEnabled .a1Mini
  if !p1sEnabled && !a1Enabled then
    (none, some "No physical printer is enabled for this deployment.")
  else if p1sEnabled && !canFitOnPrinter s bbox .p1s then
    (none, some (s!"Object ({bbox.text}) exceeds P1S build volume ({s.p1sMax.text}). " ++
      "Cannot print on any enabled printer."))
  else if !p1sEnabled then
    if !canFitOnPrinter s bbox .a1Mini then
      (none, some (s!"Object ({bbox.text}) exceeds the " ++
        "enabled A1 Mini build volume. Cannot print on any enabled printer."))
    else (some .a1Mini, none)
  else if !a1Enabled then (some .p1s, none)
  -- the hard size check, once more
  else if decide (bbox.x > s.p1sMax.x) || decide (bbox.y > s.p1sMax.y) || decide (bbox.z > s.p1sMax.z) then
    (none, some (s!"Object ({bbox.text}) exceeds P1S build volume ({s.p1sMax.text}). " ++
      "Cannot print on any available printer."))
  else
    let fitsA1Mini :=
      decide (bbox.x ≤ s.a1MiniMax.x) && decide (bbox.y ≤ s.a1MiniMax.y) && decide (bbox.z ≤ s.a1MiniMax.z)
    if !fitsA1Mini then (some .p1s, none)
    else if score > s.complexityThreshold then (some .p1s, none)
    else (some .a1Mini, none)

/-- **The printer in one expression.** The second size check never fires: the first one has answered before it. -/
theorem selectPrinter_fst (s : Settings) (a : Analysis) : (selectPrinter s a).1 =
    if s.printerEnabled .p1s then
      if !canFitOnPrinter s a.bbox .p1s then none
      else if s.printerEnabled .a1Mini && canFitOnPrinter s a.bbox .a1Mini
          && decide (a.complexityScore ≤ s.complexityThreshold) then some .a1Mini
      else some .p1s
    else if s.printerEnabled .a1Mini && canFitOnPrinter s a.bbox .a1Mini then some .a1Mini
    else none := by
  unfold selectPrinter
  cases hp : s.printerEnabled .p1s <;> cases ha : s.printerEnabled .a1Mini <;>
    cases hfp : canFitOnPrinter s a.bbox .p1s <;> cases hfa : canFitOnPrinter s a.bbox .a1Mini <;>
    simp only [Bool.not_true, Bool.not_false, Bool.and_true, Bool.and_false, Bool.true_and, Bool.false_and,
      if_true, Bool.false_eq_true, if_false] <;>
    grind [canFitOnPrinter, Bbox.fits]

/-- **A selected printer is enabled and the box fits it.** -/
theorem selectPrinter_sound {s : Settings} {a : Analysis} {p : PrinterID} {r : Option String}
    (h : selectPrinter s a = (some p, r)) :
    s.printerEnabled p = true ∧ canFitOnPrinter s a.bbox p = true := by
  unfold selectPrinter at h
  cases hp : s.printerEnabled .p1s <;> cases ha : s.printerEnabled .a1Mini <;>
    cases hfp : canFitOnPrinter s a.bbox .p1s <;> cases hfa : canFitOnPrinter s a.bbox .a1Mini <;>
    simp only [hp, ha, hfp, hfa, Bool.not_true, Bool.not_false, Bool.and_true, Bool.and_false,
      if_true, Bool.false_eq_true, if_false, Prod.mk.injEq, Option.some.injEq, reduceCtorEq,
      false_and] at h <;>
    grind [canFitOnPrinter, Bbox.fits]

/-- Every analysis is answered by a printer or by a rejection, never by both or neither. -/
theorem selectPrinter_total (s : Settings) (a : Analysis) :
    (∃ p, selectPrinter s a = (some p, none)) ∨ ∃ r, selectPrinter s a = (none, some r) := by
  unfold selectPrinter
  simp only
  split_ifs <;> simp

end BambuBabu
