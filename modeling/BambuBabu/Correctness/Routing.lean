import BambuBabu.Core.Complexity
import BambuBabu.Service.Step

/-!
# `Correctness.Routing` — which printer a model goes to

Two questions about `select_printer`, for every setting of the enable flags, the volumes and the threshold.

* `routed_iff` — **when the routing finds a printer that fits**. With both printers enabled it only looks at the P1S
  to decide on a rejection, so a model that fits the A1 Mini alone is rejected.
* `scoring_and_routing_monotone` — **a larger model is never routed lower**: its score is at least as high, and in the
  order A1 Mini, P1S, rejected it comes no earlier.

The second follows from one fact for each stage: the three parts of the score, the two roundings, the fit.
-/

namespace BambuBabu

variable {s : Settings} {a b : Analysis}

/-! ## A printer that fits -/

/-- What the routing of one analysis is to satisfy: a selected printer is enabled and fits, the answer is a printer or
    a rejection, and it is a rejection exactly when no enabled printer fits. -/
structure Routed (s : Settings) (a : Analysis) : Prop where
  sound : ∀ p r, selectPrinter s a = (some p, r) → s.printerEnabled p = true ∧ canFitOnPrinter s a.bbox p = true
  exclusive : (∃ p, selectPrinter s a = (some p, none)) ∨ ∃ r, selectPrinter s a = (none, some r)
  complete : (∃ r, selectPrinter s a = (none, some r)) ↔
    ∀ p, s.printerEnabled p = true → canFitOnPrinter s a.bbox p = false

/-- An answer without a printer is a rejection. -/
theorem rejected_iff : (∃ r, selectPrinter s a = (none, some r)) ↔ (selectPrinter s a).1 = none := by
  constructor
  · rintro ⟨r, hr⟩
    rw [hr]
  · intro hnone
    rcases selectPrinter_total s a with ⟨p, hp⟩ | hrejected
    · rw [hp] at hnone
      cases hnone
    · exact hrejected

/-- **When a model is rejected**, in terms of the two fits. -/
theorem selectPrinter_fst_none : (selectPrinter s a).1 = none ↔
    (s.printerEnabled .p1s = true → canFitOnPrinter s a.bbox .p1s = false) ∧
      (s.printerEnabled .p1s = false → s.printerEnabled .a1Mini = true →
        canFitOnPrinter s a.bbox .a1Mini = false) := by
  rw [selectPrinter_fst]
  cases s.printerEnabled .p1s <;> cases s.printerEnabled .a1Mini <;>
    cases canFitOnPrinter s a.bbox .p1s <;> cases canFitOnPrinter s a.bbox .a1Mini <;> grind

theorem routed_iff : Routed s a ↔
    (s.printerEnabled .p1s = true → s.printerEnabled .a1Mini = true →
      canFitOnPrinter s a.bbox .a1Mini = true → canFitOnPrinter s a.bbox .p1s = true) := by
  constructor
  · intro hrouted hp1s ha1 hfits
    by_contra hlarge
    have hrejected : (selectPrinter s a).1 = none := by
      refine selectPrinter_fst_none.mpr ⟨fun _ => Bool.eq_false_iff.mpr hlarge, fun hoff => ?_⟩
      rw [hp1s] at hoff
      cases hoff
    have hnofit := hrouted.complete.mp (rejected_iff.mpr hrejected) .a1Mini ha1
    rw [hfits] at hnofit
    cases hnofit
  · intro hnested
    refine ⟨fun p r h => selectPrinter_sound h, selectPrinter_total s a, ?_⟩
    rw [rejected_iff, selectPrinter_fst_none]
    constructor
    · rintro ⟨hp1s, ha1⟩ p hp
      cases p with
      | p1s => exact hp1s hp
      | a1Mini =>
          cases hon : s.printerEnabled .p1s with
          | false => exact ha1 hon hp
          | true =>
              -- it does not fit the larger printer, so it does not fit this one
              apply Bool.eq_false_iff.mpr
              intro hfits
              have hlarge := hp1s hon
              rw [hnested hon hp hfits] at hlarge
              cases hlarge
    · intro hnofit
      exact ⟨hnofit .p1s, fun _ => hnofit .a1Mini⟩

/-- A volume inside another one. -/
def BuildVolume.within (v w : BuildVolume) : Prop := v.x ≤ w.x ∧ v.y ≤ w.y ∧ v.z ≤ w.z

/-- What fits the inner volume fits the outer one. -/
theorem Bbox.fits_of_within {v w : BuildVolume} {box : Bbox} (hvw : v.within w) (h : box.fits v = true) :
    box.fits w = true := by
  unfold Bbox.fits at h ⊢
  simp only [Bool.and_eq_true, decide_eq_true_eq] at h ⊢
  obtain ⟨⟨hx, hy⟩, hz⟩ := h
  obtain ⟨hwx, hwy, hwz⟩ := hvw
  exact ⟨⟨hx.trans (Nat.cast_le.mpr hwx), hy.trans (Nat.cast_le.mpr hwy)⟩, hz.trans (Nat.cast_le.mpr hwz)⟩

/-- With the volumes nested as in the defaults, the routing finds a printer whenever there is one. -/
theorem routed_of_within (h : s.a1MiniMax.within s.p1sMax) : Routed s a :=
  routed_iff.mpr fun _ _ hfits => Bbox.fits_of_within h hfits

namespace Script

/-- Both printers, with an A1 Mini that is wider than the P1S. -/
def wideA1Mini : Settings :=
  { p1sOnly with a1MiniEnabled := true, a1MiniMax := ⟨300, 190, 190, by decide, by decide, by decide⟩ }

/-- A long flat model. -/
def longModel : Analysis := ⟨1200, 30, 0, ⟨280, 100, 20⟩, 20⟩

end Script

/-- A model that fits the A1 Mini is rejected. -/
theorem longModel_rejected : ¬ ∀ s a, Routed s a := by
  intro hall
  have hfits := routed_iff.mp (hall Script.wideA1Mini Script.longModel)
  exact absurd (hfits (by decide) (by decide) (by decide +kernel)) (by decide +kernel)

/-! ## Larger models -/

/-- The second mesh is at least the first one in every metric. -/
structure Metrics.AtMost (m n : Metrics) : Prop where
  faceCount : m.faceCount ≤ n.faceCount
  rawVolume : m.rawVolume ≤ n.rawVolume
  overhangRatio : m.overhangRatio ≤ n.overhangRatio
  x : m.extents.x ≤ n.extents.x
  y : m.extents.y ≤ n.extents.y
  z : m.extents.z ≤ n.extents.z

/-- A1 Mini, P1S, rejected. -/
def routeRank : Option PrinterID → Nat
  | some .a1Mini => 0
  | some .p1s => 1
  | none => 2

namespace Metrics

variable {m n : Metrics}

/-- A clamped share of a bound, in percent. -/
theorem clamp_mono {p q : ℚ} (h : p ≤ q) : min p 1 * 100 ≤ min q 1 * 100 :=
  mul_le_mul_of_nonneg_right (min_le_min_right 1 h) (by norm_num)

theorem clamp_range {p : ℚ} (h : 0 ≤ p) : 0 ≤ min p 1 * 100 ∧ min p 1 * 100 ≤ 100 := by
  have hnonneg : 0 ≤ min p 1 := le_min h zero_le_one
  have hone : min p 1 ≤ 1 := min_le_right p 1
  constructor <;> linarith

theorem AtMost.faceScore (h : m.AtMost n) : m.faceScore ≤ n.faceScore := by
  unfold Metrics.faceScore
  apply clamp_mono
  exact div_le_div_of_nonneg_right (Nat.cast_le.mpr h.faceCount) (by norm_num)

theorem AtMost.overhangScore (h : m.AtMost n) : m.overhangScore ≤ n.overhangScore := by
  unfold Metrics.overhangScore
  exact mul_le_mul_of_nonneg_right h.overhangRatio (by norm_num)

theorem AtMost.volumeScore (h : m.AtMost n) : m.volumeScore ≤ n.volumeScore := by
  unfold Metrics.volumeScore Metrics.volumeCm3
  apply clamp_mono
  have hcm3 : m.rawVolume / 1000 ≤ n.rawVolume / 1000 := div_le_div_of_nonneg_right h.rawVolume (by norm_num)
  exact div_le_div_of_nonneg_right hcm3 (by norm_num)

/-- The weights add up to one, so the score stays in the range of its parts. -/
theorem complexityScore_range (m : Metrics) : 0 ≤ m.complexityScore ∧ m.complexityScore ≤ 100 := by
  have hface : 0 ≤ m.faceScore ∧ m.faceScore ≤ 100 := by
    unfold faceScore
    exact clamp_range (div_nonneg (Nat.cast_nonneg _) (by norm_num))
  have hvolume : 0 ≤ m.volumeScore ∧ m.volumeScore ≤ 100 := by
    unfold volumeScore volumeCm3
    exact clamp_range (div_nonneg (div_nonneg m.volume_nonneg (by norm_num)) (by norm_num))
  have hoverhang : 0 ≤ m.overhangScore ∧ m.overhangScore ≤ 100 := by
    have h0 := m.overhang_nonneg
    have h1 := m.overhang_le_one
    unfold overhangScore
    constructor <;> linarith
  unfold complexityScore
  constructor <;> linarith [hface.1, hface.2, hvolume.1, hvolume.2, hoverhang.1, hoverhang.2]

theorem AtMost.complexityScore (h : m.AtMost n) : m.complexityScore ≤ n.complexityScore := by
  have hface := h.faceScore
  have hoverhang := h.overhangScore
  have hvolume := h.volumeScore
  unfold Metrics.complexityScore
  linarith

/-- The rounded score is in the range as well, since its bounds are whole. -/
theorem analysis_score_range (m : Metrics) :
    0 ≤ m.analysis.complexityScore ∧ m.analysis.complexityScore ≤ 100 := by
  obtain ⟨hlow, hhigh⟩ := complexityScore_range m
  constructor
  · calc (0 : ℚ) = roundTo 2 ((0 : Int) : ℚ) := by rw [roundTo_intCast, Int.cast_zero]
      _ ≤ m.analysis.complexityScore := roundTo_mono 2 (by exact_mod_cast hlow)
  · calc m.analysis.complexityScore ≤ roundTo 2 ((100 : Int) : ℚ) := roundTo_mono 2 (by exact_mod_cast hhigh)
      _ = 100 := by rw [roundTo_intCast]; norm_num

/-- What the larger model fits, the smaller one fits. -/
theorem AtMost.fits (h : m.AtMost n) (p : PrinterID) (hfits : canFitOnPrinter s n.analysis.bbox p = true) :
    canFitOnPrinter s m.analysis.bbox p = true := by
  have hx : m.analysis.bbox.x ≤ n.analysis.bbox.x := roundTo_mono 2 h.x
  have hy : m.analysis.bbox.y ≤ n.analysis.bbox.y := roundTo_mono 2 h.y
  have hz : m.analysis.bbox.z ≤ n.analysis.bbox.z := roundTo_mono 2 h.z
  cases p <;>
  · unfold canFitOnPrinter Bbox.fits at hfits ⊢
    simp only [Bool.and_eq_true, decide_eq_true_eq] at hfits ⊢
    exact ⟨⟨hx.trans hfits.1.1, hy.trans hfits.1.2⟩, hz.trans hfits.2⟩

end Metrics

/-- The routing goes by the two fits and the score: fewer fits and a higher score do not lower the rank. -/
theorem routeRank_mono (hfits : ∀ p, canFitOnPrinter s b.bbox p = true → canFitOnPrinter s a.bbox p = true)
    (hscore : a.complexityScore ≤ b.complexityScore) :
    routeRank (selectPrinter s a).1 ≤ routeRank (selectPrinter s b).1 := by
  have hp1s := hfits .p1s
  have ha1 := hfits .a1Mini
  have hthreshold : b.complexityScore ≤ s.complexityThreshold → a.complexityScore ≤ s.complexityThreshold :=
    hscore.trans
  rw [selectPrinter_fst, selectPrinter_fst]
  cases s.printerEnabled .p1s with
  | false =>
      -- the A1 Mini or nothing
      simp only [Bool.false_eq_true, if_false]
      split_ifs <;> grind [routeRank]
  | true =>
      simp only [if_true]
      split_ifs <;> grind [routeRank]

theorem scoring_and_routing_monotone (s : Settings) {m n : Metrics} (h : m.AtMost n) :
    (0 ≤ m.analysis.complexityScore ∧ m.analysis.complexityScore ≤ 100) ∧
    (0 ≤ n.analysis.complexityScore ∧ n.analysis.complexityScore ≤ 100) ∧
    m.analysis.complexityScore ≤ n.analysis.complexityScore ∧
    routeRank (selectPrinter s m.analysis).1 ≤ routeRank (selectPrinter s n.analysis).1 := by
  have hscore : m.analysis.complexityScore ≤ n.analysis.complexityScore := roundTo_mono 2 h.complexityScore
  refine ⟨m.analysis_score_range, n.analysis_score_range, hscore, ?_⟩
  exact routeRank_mono (fun p => h.fits p) hscore

namespace Script

/-- A small simple model. -/
def smallModel : Metrics where
  faceCount := 40000
  rawVolume := 18000
  overhangRatio := 5 / 100
  extents := ⟨70, 40, 25⟩
  volume_nonneg := by norm_num
  overhang_nonneg := by norm_num
  overhang_le_one := by norm_num

/-- A model of the same size with more detail. -/
def detailedModel : Metrics where
  faceCount := 600000
  rawVolume := 90000
  overhangRatio := 75 / 100
  extents := ⟨70, 40, 25⟩
  volume_nonneg := by norm_num
  overhang_nonneg := by norm_num
  overhang_le_one := by norm_num

theorem small_atMost_detailed : smallModel.AtMost detailedModel := by
  constructor <;> norm_num [smallModel, detailedModel]

end Script

/-- The first one goes to the A1 Mini, the second one to the P1S. -/
theorem small_and_detailed :
    (selectPrinter Script.wideA1Mini Script.smallModel.analysis).1 = some .a1Mini ∧
    (selectPrinter Script.wideA1Mini Script.detailedModel.analysis).1 = some .p1s ∧
    Script.smallModel.analysis.complexityScore ≤ Script.detailedModel.analysis.complexityScore ∧
    routeRank (selectPrinter Script.wideA1Mini Script.smallModel.analysis).1
      ≤ routeRank (selectPrinter Script.wideA1Mini Script.detailedModel.analysis).1 := by
  have hmono := scoring_and_routing_monotone Script.wideA1Mini Script.small_atMost_detailed
  exact ⟨by decide +kernel, by decide +kernel, hmono.2.2⟩

end BambuBabu
