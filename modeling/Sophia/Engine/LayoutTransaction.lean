import Sophia.Lib.Fallible
import Sophia.Lib.Keyed
import Sophia.Protocol.Wm

/-! Layout transactions: placing layers where the window manager asked for them. -/
namespace Sophia.Engine

open Std Sophia.Protocol

inductive EngineError where
  | invalidOutput
  | invalidSurface
  | invalidFrame
  deriving DecidableEq, Repr

def layerIndexes (layers : List LayerSnapshot) : ExtTreeMap SurfaceId ℕ :=
  ExtTreeMap.ofList (layers.zipIdx.map fun (layer, index) => (layer.surface, index))

def movedDamage (oldGeometry newGeometry : Rect) : Region :=
  (Region.single oldGeometry).extend (.single newGeometry)

def placeLayer (placement : SurfacePlacement Transform) (layer : LayerSnapshot) : LayerSnapshot :=
  { layer with
    geometry := placement.geometry
    stackRank := UInt32.ofNat placement.zIndex.toInt.toNat
    crop := placement.crop
    transform := placement.transform
    damage := movedDamage layer.geometry placement.geometry
    generation := saturatingAdd layer.generation 1 }

def applyPlacement (indexes : ExtTreeMap SurfaceId ℕ) (layers : List LayerSnapshot)
    (placement : SurfacePlacement Transform) : Except EngineError (List LayerSnapshot) :=
  if !placement.surface.isValid then .error .invalidSurface
  else match indexes[placement.surface]? with
    | none => .error .invalidSurface
    | some index => .ok (layers.modify index (placeLayer placement))

def applyLayoutTransaction (transaction : LayoutTransaction Transform)
    (layers : List LayerSnapshot) : Except EngineError (List LayerSnapshot) :=
  transaction.renderPositions.foldlM (applyPlacement (layerIndexes layers)) layers

def commitLayoutTransaction (transaction : LayoutTransaction Transform)
    (layers : List LayerSnapshot) : TransactionCommit × List LayerSnapshot :=
  match applyLayoutTransaction transaction layers with
  | .ok committed =>
    ({ transaction := transaction.transaction
       outcome := .committed
       appliedSurfaces := transaction.renderPositions.map SurfacePlacement.surface }, committed)
  | .error .invalidSurface =>
    ({ transaction := transaction.transaction
       outcome := .rejectedInvalidSurface
       appliedSurfaces := [] }, layers)
  | .error _ =>
    ({ transaction := transaction.transaction
       outcome := .rejectedStaleSurface
       appliedSurfaces := [] }, layers)

/-- A layer after a change of layout: the same pixels, with a generation that did not go down. -/
structure Moved (old new : LayerSnapshot) : Prop where
  surface : old.surface = new.surface
  source : old.source = new.source
  generation : old.generation ≤ new.generation

theorem Moved.refl (layer : LayerSnapshot) : Moved layer layer :=
  ⟨rfl, rfl, UInt64.le_refl _⟩

theorem Moved.trans {a b c : LayerSnapshot} (h₁ : Moved a b) (h₂ : Moved b c) : Moved a c :=
  ⟨h₁.surface.trans h₂.surface, h₁.source.trans h₂.source, UInt64.le_trans h₁.generation h₂.generation⟩

theorem moved_placeLayer (placement : SurfacePlacement Transform) (layer : LayerSnapshot) :
    Moved layer (placeLayer placement layer) := by
  refine ⟨rfl, rfl, ?_⟩
  rw [UInt64.le_iff_toNat_le, placeLayer, toNat_saturatingAdd]
  have hlt := layer.generation.toNat_lt
  simp only [UInt64.size, UInt64.toNat_one]
  omega

/-- Placing layers neither adds nor drops one, and repaints none. -/
theorem moved_applyLayoutTransaction {transaction : LayoutTransaction Transform}
    {layers committed : List LayerSnapshot}
    (h : applyLayoutTransaction transaction layers = .ok committed) :
    List.Forall₂ Moved layers committed := by
  refine Fallible.foldlM_invariant (P := fun l => List.Forall₂ Moved layers l) ?_ h
    (Keyed.forall₂_refl Moved.refl _)
  intro current placement next hnext hcurrent
  simp only [applyPlacement] at hnext
  split at hnext
  · cases hnext
  split at hnext
  · cases hnext
  cases hnext
  exact Keyed.forall₂_trans (S := Moved) (fun _ _ _ => Moved.trans) hcurrent
    (Keyed.forall₂_modify Moved.refl (moved_placeLayer placement) _ _)

theorem moved_commitLayoutTransaction (transaction : LayoutTransaction Transform)
    (layers : List LayerSnapshot) :
    List.Forall₂ Moved layers (commitLayoutTransaction transaction layers).2 := by
  unfold commitLayoutTransaction
  split
  · rename_i committed happly
    exact moved_applyLayoutTransaction happly
  · exact Keyed.forall₂_refl Moved.refl _
  · exact Keyed.forall₂_refl Moved.refl _

end Sophia.Engine
