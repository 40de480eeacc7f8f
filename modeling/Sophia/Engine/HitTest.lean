import Mathlib.Algebra.Order.Ring.Abs
import Mathlib.Data.List.Find
import Mathlib.Tactic.NormNum
import Sophia.Protocol

/-! Which layer a pointer event goes to. -/
namespace Sophia.Engine

open Protocol

structure InputEventPacket where
  serial : UInt64
  globalPosition : Option Point
  deriving DecidableEq

inductive InputRouteOutcome where
  | routed
  | noTarget
  | staleTarget
  | denied
  deriving DecidableEq

structure InputRoute where
  inputSerial : UInt64
  targetSurface : Option SurfaceId
  globalPosition : Point
  localPosition : Option Point
  transform : Transform
  outcome : InputRouteOutcome
  deriving DecidableEq

def shouldRender (layer : LayerSnapshot) : Bool :=
  0 < layer.opacity && !layer.geometry.isEmpty && layer.source ≠ .none

def missedInputRoute (event : InputEventPacket) (globalPosition : Point) : InputRoute :=
  ⟨event.serial, none, globalPosition, none, .identity, .noTarget⟩

def rectContainsPoint (rect : Rect) (point : Point) : Bool :=
  rect.x.toInt ≤ point.x && point.x < rect.x.toInt + rect.width.toInt &&
    rect.y.toInt ≤ point.y && point.y < rect.y.toInt + rect.height.toInt

/-- `f64::EPSILON`. -/
def f64Epsilon : ℚ := 1 / 2 ^ 52

-- Rationals are finite, so the source's `is_finite` tests always pass here.
def inverseTransformPoint (transform : Transform) (point : Point) : Option Point :=
  let m := transform.matrix
  let determinant := m[0] * (m[4] * m[8] - m[5] * m[7]) - m[1] * (m[3] * m[8] - m[5] * m[6]) +
    m[2] * (m[3] * m[7] - m[4] * m[6])
  if |determinant| < f64Epsilon then none
  else
    let invDet := 1 / determinant
    let x := (m[4] * m[8] - m[5] * m[7]) * invDet * point.x +
      (m[2] * m[7] - m[1] * m[8]) * invDet * point.y + (m[1] * m[5] - m[2] * m[4]) * invDet
    let y := (m[5] * m[6] - m[3] * m[8]) * invDet * point.x +
      (m[0] * m[8] - m[2] * m[6]) * invDet * point.y + (m[2] * m[3] - m[0] * m[5]) * invDet
    let w := (m[3] * m[7] - m[4] * m[6]) * invDet * point.x +
      (m[1] * m[6] - m[0] * m[7]) * invDet * point.y + (m[0] * m[4] - m[1] * m[3]) * invDet
    if |w| < f64Epsilon then none else some ⟨x / w, y / w⟩

/-- The route to this layer, if the event hits it. -/
def hitLayer? (event : InputEventPacket) (globalPosition : Point) (layer : LayerSnapshot) :
    Option InputRoute :=
  if !layer.surface.isValid || !shouldRender layer then none
  else match inverseTransformPoint layer.transform globalPosition with
    | none => none
    | some position =>
      if !rectContainsPoint layer.geometry position then none
      else some
        { inputSerial := event.serial
          targetSurface := some layer.surface
          globalPosition := globalPosition
          localPosition := some ⟨position.x - layer.geometry.x.toInt,
            position.y - layer.geometry.y.toInt⟩
          transform := layer.transform
          outcome := .routed }

def hitTestSceneSurfaceForInput (event : InputEventPacket) (layers : List LayerSnapshot) :
    InputRoute :=
  match event.globalPosition with
  | none => missedInputRoute event ⟨0, 0⟩
  | some globalPosition =>
    let ordered := layers.mergeSort fun a b => a.stackRank ≤ b.stackRank
    (ordered.reverse.findSome? (hitLayer? event globalPosition)).getD
      (missedInputRoute event globalPosition)

theorem inverseTransformPoint_identity (point : Point) :
    inverseTransformPoint .identity point = some point := by
  have he : ¬ (1 : ℚ) < f64Epsilon := not_lt.mpr (by norm_num [f64Epsilon])
  simp [inverseTransformPoint, Transform.identity, abs_one, he]

theorem rectContainsPoint_natCast (rect : Rect) (x y : ℕ) :
    rectContainsPoint rect ⟨x, y⟩ = true ↔
      rect.x.toInt ≤ x ∧ (x : ℤ) < rect.x.toInt + rect.width.toInt ∧
        rect.y.toInt ≤ y ∧ (y : ℤ) < rect.y.toInt + rect.height.toInt := by
  simp only [rectContainsPoint, Bool.and_eq_true, decide_eq_true_eq]
  norm_cast
  simp [and_assoc]

/-- The layer takes events at the point: it is valid, rendered and contains it. -/
def TakesPoint (point : Point) (layer : LayerSnapshot) : Bool :=
  layer.surface.isValid && shouldRender layer && rectContainsPoint layer.geometry point

/-- Over layers without transform, given bottom to top, an event goes to the last layer that takes
its point. -/
theorem hitTest_target {event : InputEventPacket} {point : Point}
    (hp : event.globalPosition = some point) {layers : List LayerSnapshot}
    (hid : ∀ layer ∈ layers, layer.transform = .identity)
    (hsorted : layers.Pairwise fun a b => a.stackRank ≤ b.stackRank) :
    (hitTestSceneSurfaceForInput event layers).targetSurface =
      (layers.reverse.find? (TakesPoint point)).map (·.surface) := by
  have hsort : layers.mergeSort (fun a b => a.stackRank ≤ b.stackRank) = layers :=
    List.mergeSort_of_pairwise (by simpa using hsorted)
  have hlayer : ∀ layer ∈ layers.reverse, hitLayer? event point layer =
      if TakesPoint point layer then some
        { inputSerial := event.serial
          targetSurface := some layer.surface
          globalPosition := point
          localPosition := some ⟨point.x - layer.geometry.x.toInt, point.y - layer.geometry.y.toInt⟩
          transform := layer.transform
          outcome := .routed } else none := by
    intro layer hm
    have ht := hid layer (List.mem_reverse.mp hm)
    rw [hitLayer?, ht, inverseTransformPoint_identity]
    cases hv : layer.surface.isValid <;> cases hr : shouldRender layer <;>
      cases hc : rectContainsPoint layer.geometry point <;> simp [TakesPoint, hv, hr, hc]
  simp only [hitTestSceneSurfaceForInput, hp, hsort]
  generalize layers.reverse = ordered at hlayer
  induction ordered with
  | nil => rfl
  | cons layer rest ih =>
    rw [List.findSome?_cons, hlayer layer List.mem_cons_self, List.find?_cons]
    cases TakesPoint point layer with
    | true => rfl
    | false => exact ih fun l hm => hlayer l (List.mem_cons_of_mem _ hm)

end Sophia.Engine
