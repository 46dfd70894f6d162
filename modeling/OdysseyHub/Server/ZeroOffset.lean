import Mathlib.LinearAlgebra.UnitaryGroup
import Mathlib.LinearAlgebra.Matrix.NonsingularInverse
import Mathlib.Analysis.Real.Sqrt

/-!
# The zero offset of a tracking event (device_tasks.rs)

Over the reals.  A pose is flipped on its way to the client and back when an event of
the client zeroes the device; the offset found then turns the forward axis so that
the ray of the device runs through the target.

nalgebra's unit quaternions are a parameter, by what they do to vectors, and so is the
lookup of ats_helpers among the calibrations.
-/

namespace OdysseyHub

namespace Zeroing

open Matrix

abbrev Mat3 := Matrix (Fin 3) (Fin 3) ℝ

abbrev Vec3 := Fin 3 → ℝ

abbrev Point2 := Fin 2 → ℝ

/-- The numerals that index points and matrices. -/
local instance neZero_two : NeZero 2 := inferInstance

local instance neZero_three : NeZero 3 := inferInstance

/-! ## nalgebra -/

/-- `UnitQuaternion`, as rotations of vectors. -/
structure UnitQuaternion where
  Quat : Type
  fromRotationMatrix : Mat3 → Quat
  transformVector : Quat → Vec3 → Vec3
  inverseTransformVector : Quat → Vec3 → Vec3
  rotationBetween : Vec3 → Vec3 → Option Quat

/-- What nalgebra promises: the quaternion of a rotation matrix acts as the matrix, the inverse
undoes a rotation, and `rotation_between` takes the one vector to the direction of the other. -/
structure UnitQuaternion.Lawful (U : UnitQuaternion) : Prop where
  fromRotationMatrix : ∀ r ∈ specialOrthogonalGroup (Fin 3) ℝ, ∀ v,
    U.transformVector (U.fromRotationMatrix r) v = r *ᵥ v
  inverse : ∀ q v, U.transformVector q (U.inverseTransformVector q v) = v
  rotationBetween : ∀ a b q, U.rotationBetween a b = some q → a ≠ 0 → b ≠ 0 →
    ∃ s : ℝ, 0 < s ∧ U.transformVector q a = s • b

noncomputable section

/-- `Matrix3::try_inverse` -/
def tryInverse (m : Mat3) : Option Mat3 :=
  open Classical in if m.det = 0 then none else some m⁻¹

/-- `Matrix3::transform_point`: in homogeneous coordinates, divided unless the point is at infinity. -/
def transformPoint (m : Mat3) (p : Point2) : Point2 :=
  let n := m 2 0 * p 0 + m 2 1 * p 1 + m 2 2
  let x := m 0 0 * p 0 + m 0 1 * p 1 + m 0 2
  let y := m 1 0 * p 0 + m 1 1 * p 1 + m 1 2
  open Classical in if n = 0 then ![x, y] else ![x / n, y / n]

/-- `Vector3::norm` -/
def norm (v : Vec3) : ℝ := Real.sqrt (v 0 ^ 2 + v 1 ^ 2 + v 2 ^ 2)

/-- `f32::EPSILON` -/
def epsilon : ℝ := 1 / 2 ^ 23

/-! ## Poses -/

structure Pose where
  rotation : Mat3
  translation : Vec3

/-- What the function reads of a tracking event. -/
structure TrackingEvent where
  pose : Pose
  screenId : UInt32

structure ScreenCalibration where
  homography : Mat3

def flip : Mat3 := !![1, 0, 0; 0, -1, 0; 0, 0, -1]

def transformPoseForClient (rotmat : Mat3) (transvec : Vec3) : Pose where
  rotation := flip * rotmat * flip
  translation := flip *ᵥ transvec

/-- `Vector3::z()` -/
def forward : Vec3 := ![0, 0, 1]

/-- The point of the screen's plane at depth 0. -/
def atDepthZero (p : Point2) : Vec3 := ![p 0, p 1, 0]

section
variable (U : UnitQuaternion) (maxScreenId : UInt8)
  (getScreenCalibration : List (UInt8 × ScreenCalibration) → UInt8 → Option ScreenCalibration)

def calculateZeroOffsetFromTrackingEvent (zeroTranslation : Vec3) (zeroTargetInScreenSpace : Point2)
    (screenCalibrations : List (UInt8 × ScreenCalibration)) (te : TrackingEvent) : Option U.Quat :=
  let screenId := te.screenId.toUInt8
  if screenId > maxScreenId then none
  else do
    let rawRotation := flip * te.pose.rotation * flip
    let rawTranslation := flip *ᵥ te.pose.translation
    let orientation := U.fromRotationMatrix rawRotation
    let position := rawTranslation
    let screenCalibration ← getScreenCalibration screenCalibrations screenId
    let invHomography ← tryInverse screenCalibration.homography
    let zeroTarget3d := atDepthZero (transformPoint invHomography zeroTargetInScreenSpace)
    let zeroPosition := U.transformVector orientation zeroTranslation + position
    let v := zeroTarget3d - zeroPosition
    if |norm v| < epsilon then none
    else U.rotationBetween forward (U.inverseTransformVector orientation fun i => v i / norm v)

end

/-! ## The flip -/

theorem flip_mul_flip : flip * flip = 1 := by
  ext i j
  fin_cases i <;> fin_cases j <;> simp [flip, Matrix.mul_apply, Fin.sum_univ_three]

theorem unflip_rotation (r : Mat3) : flip * (flip * r * flip) * flip = r := by
  calc flip * (flip * r * flip) * flip = (flip * flip) * r * (flip * flip) := by simp only [Matrix.mul_assoc]
    _ = r := by rw [flip_mul_flip, Matrix.one_mul, Matrix.mul_one]

theorem unflip_translation (t : Vec3) : flip *ᵥ (flip *ᵥ t) = t := by
  rw [Matrix.mulVec_mulVec, flip_mul_flip, Matrix.one_mulVec]

/-! ## The ray -/

/-- The point lies on the ray from `origin` in direction `direction`. -/
def OnRay (origin direction point : Vec3) : Prop := ∃ s : ℝ, 0 ≤ s ∧ point = origin + s • direction

theorem forward_ne_zero : forward ≠ 0 := by
  intro h
  have h2 := congrFun h 2
  simp [forward] at h2

theorem norm_pos_of_not_lt {v : Vec3} (h : ¬ |norm v| < epsilon) : 0 < norm v := by
  have heps : 0 < epsilon := by norm_num [epsilon]
  have hnonneg : 0 ≤ norm v := Real.sqrt_nonneg _
  rw [abs_of_nonneg hnonneg, not_lt] at h
  exact lt_of_lt_of_le heps h

theorem norm_zero : norm 0 = 0 := by simp [norm]

section
variable {U : UnitQuaternion}

/-- A rotation of the forward axis to the direction towards a point, seen from the device. -/
theorem onRay_of_rotationBetween (hU : U.Lawful) (orientation : U.Quat) {v : Vec3} (hv : 0 < norm v) {q : U.Quat}
    (h : U.rotationBetween forward (U.inverseTransformVector orientation fun i => v i / norm v) = some q)
    (hzero : U.transformVector orientation 0 = 0)
    (hsmul : ∀ (s : ℝ) w, U.transformVector orientation (s • w) = s • U.transformVector orientation w) :
    ∃ s : ℝ, 0 < s ∧ v = s • U.transformVector orientation (U.transformVector q forward) := by
  have hdir : (fun i => v i / norm v) = (norm v)⁻¹ • v := by
    funext i
    rw [Pi.smul_apply, smul_eq_mul, div_eq_inv_mul]
  rw [hdir] at h
  have hback : U.transformVector orientation (U.inverseTransformVector orientation ((norm v)⁻¹ • v)) =
      (norm v)⁻¹ • v := hU.inverse _ _
  have hne : U.inverseTransformVector orientation ((norm v)⁻¹ • v) ≠ 0 := by
    intro hd
    rw [hd, hzero] at hback
    have hv0 : v = 0 := (smul_eq_zero.mp hback.symm).resolve_left (inv_ne_zero hv.ne')
    rw [hv0, norm_zero] at hv
    exact lt_irrefl 0 hv
  obtain ⟨s, hs, hq⟩ := hU.rotationBetween _ _ q h forward_ne_zero hne
  refine ⟨norm v / s, div_pos hv hs, ?_⟩
  rw [hq, hsmul, hback, smul_smul, smul_smul]
  have hone : norm v / s * (s * (norm v)⁻¹) = 1 := by
    field_simp
  rw [← mul_assoc] at hone
  rw [hone, one_smul]

end

/-- **Zeroing.**  If an offset is found for the pose that the client was sent, the point of the
screen where the target lies is on the ray of the device turned by the offset. -/
theorem zeroed_ray_hits {U : UnitQuaternion} (hU : U.Lawful) (maxScreenId : UInt8)
    (getScreenCalibration : List (UInt8 × ScreenCalibration) → UInt8 → Option ScreenCalibration)
    (rotation : specialOrthogonalGroup (Fin 3) ℝ) (t z : Vec3) (target : Point2)
    (screenCalibrations : List (UInt8 × ScreenCalibration)) (screenId : UInt32) {q : U.Quat}
    (h : calculateZeroOffsetFromTrackingEvent U maxScreenId getScreenCalibration z target screenCalibrations
      ⟨transformPoseForClient rotation.1 t, screenId⟩ = some q) :
    ∃ screen, getScreenCalibration screenCalibrations screenId.toUInt8 = some screen ∧
      screen.homography.det ≠ 0 ∧
      OnRay (t + rotation.1 *ᵥ z) (rotation.1 *ᵥ U.transformVector q forward)
        (atDepthZero (transformPoint screen.homography⁻¹ target)) := by
  simp only [calculateZeroOffsetFromTrackingEvent, transformPoseForClient, unflip_rotation,
    unflip_translation] at h
  split at h
  · cases h
  · obtain ⟨screen, hscreen, h⟩ := Option.bind_eq_some_iff.mp h
    obtain ⟨inv, hinv, h⟩ := Option.bind_eq_some_iff.mp h
    have hdet : screen.homography.det ≠ 0 ∧ inv = screen.homography⁻¹ := by
      unfold tryInverse at hinv
      split at hinv
      · cases hinv
      · next hdet => exact ⟨hdet, (Option.some.inj hinv).symm⟩
    obtain ⟨hdet, rfl⟩ := hdet
    refine ⟨screen, hscreen, hdet, ?_⟩
    have hact : ∀ w, U.transformVector (U.fromRotationMatrix rotation.1) w = rotation.1 *ᵥ w :=
      hU.fromRotationMatrix rotation.1 rotation.2
    split at h
    · cases h
    · next hnorm =>
      obtain ⟨s, hs, hv⟩ := onRay_of_rotationBetween hU _ (norm_pos_of_not_lt hnorm) h
        (by rw [hact, Matrix.mulVec_zero]) (fun s w => by rw [hact, hact, Matrix.mulVec_smul])
      rw [hact, hact] at hv
      refine ⟨s, hs.le, ?_⟩
      rw [← hv]
      abel

/-! ## A sample -/

/-- A quarter turn about the z axis, and one that takes z to x. -/
def quarterZ : Mat3 := !![0, -1, 0; 1, 0, 0; 0, 0, 1]

def quarterY : Mat3 := !![0, 0, 1; 0, 1, 0; -1, 0, 0]

theorem quarterZ_mem : quarterZ ∈ specialOrthogonalGroup (Fin 3) ℝ := by
  rw [mem_specialOrthogonalGroup_iff, mem_orthogonalGroup_iff]
  refine ⟨?_, by simp [quarterZ, Matrix.det_fin_three]⟩
  ext i j
  fin_cases i <;> fin_cases j <;>
    simp [quarterZ, Matrix.mul_apply, Fin.sum_univ_three]

theorem quarterY_mem : quarterY ∈ specialOrthogonalGroup (Fin 3) ℝ := by
  rw [mem_specialOrthogonalGroup_iff, mem_orthogonalGroup_iff]
  refine ⟨?_, by simp [quarterY, Matrix.det_fin_three]⟩
  ext i j
  fin_cases i <;> fin_cases j <;>
    simp [quarterY, Matrix.mul_apply, Fin.sum_univ_three]

open Classical in
/-- Rotations as matrices, with one answer of `rotation_between`. -/
def matrixRotations : UnitQuaternion where
  Quat := specialOrthogonalGroup (Fin 3) ℝ
  fromRotationMatrix r := if h : r ∈ specialOrthogonalGroup (Fin 3) ℝ then ⟨r, h⟩ else 1
  transformVector q v := q.1 *ᵥ v
  inverseTransformVector q v := q.1ᵀ *ᵥ v
  rotationBetween a b := if ∃ s : ℝ, 0 < s ∧ quarterY *ᵥ a = s • b then some ⟨quarterY, quarterY_mem⟩ else none

open Classical in
theorem matrixRotations_lawful : matrixRotations.Lawful where
  fromRotationMatrix r hr v := by
    show (if h : r ∈ specialOrthogonalGroup (Fin 3) ℝ then (⟨r, h⟩ : specialOrthogonalGroup (Fin 3) ℝ)
      else 1).1 *ᵥ v = r *ᵥ v
    rw [dif_pos hr]
  inverse q v := by
    have horth : q.1 * q.1ᵀ = 1 := (mem_orthogonalGroup_iff _ _).mp (mem_specialOrthogonalGroup_iff.mp q.2).1
    show q.1 *ᵥ (q.1ᵀ *ᵥ v) = v
    rw [Matrix.mulVec_mulVec, horth, Matrix.one_mulVec]
  rotationBetween a b q h _ _ := by
    change (if ∃ s : ℝ, 0 < s ∧ quarterY *ᵥ a = s • b then some _ else none) = some q at h
    split at h
    · next hs =>
      obtain rfl := Option.some.inj h
      exact hs
    · cases h

/-- The event of a device two units in front of the origin along y, turned a quarter. -/
def sampleEvent : TrackingEvent := ⟨transformPoseForClient quarterZ ![0, -2, 0], 0⟩

def sampleScreens : List (UInt8 × ScreenCalibration) := [(0, ⟨1⟩)]

theorem calculate_sample :
    calculateZeroOffsetFromTrackingEvent matrixRotations 5 (fun screens i => screens.lookup i) ![1, 0, 0] ![0, 1]
      sampleScreens sampleEvent = some ⟨quarterY, quarterY_mem⟩ := by
  have hinv : tryInverse 1 = some 1 := by
    rw [tryInverse, if_neg (by rw [Matrix.det_one]; exact one_ne_zero), inv_one]
  have htarget : atDepthZero (transformPoint 1 ![0, 1]) = ![0, 1, 0] := by
    funext i
    fin_cases i <;> simp [atDepthZero, transformPoint]
  have hturn : quarterZ *ᵥ ![1, 0, 0] = ![0, 1, 0] := by
    funext i
    fin_cases i <;> simp [quarterZ, Matrix.vecHead]
  have hv : atDepthZero (transformPoint 1 ![0, 1]) - (quarterZ *ᵥ ![1, 0, 0] + ![0, -2, 0]) = ![0, 2, 0] := by
    rw [htarget, hturn]
    funext i
    fin_cases i <;> norm_num
  have hfound : ∀ v : Vec3, v = ![0, 2, 0] →
      (open Classical in if |norm v| < epsilon then none
        else matrixRotations.rotationBetween forward (quarterZᵀ *ᵥ fun i => v i / norm v)) =
        some ⟨quarterY, quarterY_mem⟩ := by
    rintro _ rfl
    have hnorm : norm ![0, 2, 0] = 2 := by
      simp [norm]
    rw [hnorm, if_neg (by norm_num [epsilon])]
    refine if_pos ⟨1, one_pos, ?_⟩
    funext i
    fin_cases i <;>
      simp [quarterZ, quarterY, forward, Matrix.mulVec, dotProduct, Fin.sum_univ_three]
  have horient : matrixRotations.fromRotationMatrix quarterZ =
      (⟨quarterZ, quarterZ_mem⟩ : specialOrthogonalGroup (Fin 3) ℝ) := dif_pos quarterZ_mem
  have hid : ¬ ((0 : UInt32).toUInt8 > 5) := by decide
  simp only [calculateZeroOffsetFromTrackingEvent, sampleEvent, transformPoseForClient, unflip_rotation,
    unflip_translation, if_neg hid]
  show (tryInverse 1).bind _ = _
  rw [hinv, Option.bind_some, horient]
  exact hfound _ hv

theorem zeroed_ray_hits_sample :
    ∃ screen, sampleScreens.lookup 0 = some screen ∧ screen.homography.det ≠ 0 ∧
      OnRay (![0, -2, 0] + quarterZ *ᵥ ![1, 0, 0]) (quarterZ *ᵥ quarterY *ᵥ forward)
        (atDepthZero (transformPoint screen.homography⁻¹ ![0, 1])) := by
  have hhits := zeroed_ray_hits matrixRotations_lawful 5 (fun screens i => screens.lookup i)
    ⟨quarterZ, quarterZ_mem⟩ ![0, -2, 0] ![1, 0, 0] ![0, 1] sampleScreens 0 calculate_sample
  exact hhits

end

end Zeroing

end OdysseyHub
