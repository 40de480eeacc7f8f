import Mathlib.Data.List.Forall2
import Sophia.Bridge.LegacyRequests
import Sophia.Ipc.Wm
import Sophia.Session.PlacementBounds

/-! Where the bridge puts the windows that a legacy manager configures: when a placement overflows,
and when it is one the Engine can take. -/
namespace Sophia.Bridge

open Std Protocol

section Axis

/-- The size along one axis, once the client's bounds are kept. -/
def axisSize (requested : Int32) (minimum maximum : Option Int32) : Int32 :=
  let size := minimum.elim requested (max requested ·)
  maximum.elim size (min size ·)

/-- What the root leaves of the size. -/
def axisRoom (extent : Option Int32) (size : Int32) : Int32 := extent.elim size (min size ·)

/-- No sum along this axis leaves `i32`: not the far edge of the root, and not that edge less a
maximum. -/
def AxisSafe (low extent : Int32) (maximum : Option Int32) : Prop :=
  (-2 ^ 31 ≤ low.toInt + extent.toInt ∧ low.toInt + extent.toInt < 2 ^ 31) ∧
    ∀ m, maximum = some m → low.toInt + extent.toInt - m.toInt < 2 ^ 31

/-- Along this axis there is room, the maximum leaves some, and no minimum that fits in the root
exceeds the maximum. -/
def AxisSound (extent : Option Int32) (minimum maximum : Option Int32) : Prop :=
  (∀ e, extent = some e → 0 < e.toInt) ∧ (∀ m, maximum = some m → 0 < m.toInt) ∧
    ∀ n, minimum = some n → (∀ e, extent = some e → n.toInt ≤ e.toInt) →
      ∀ m, maximum = some m → n.toInt ≤ m.toInt

/-- The size is positive and within the client's bounds where the root has room for them. -/
def AxisFits (extent minimum maximum : Option Int32) (size : Int32) : Prop :=
  0 < size.toInt ∧ (∀ m, maximum = some m → size.toInt ≤ m.toInt) ∧
    ∀ n, minimum = some n → (∀ e, extent = some e → n.toInt ≤ e.toInt) → n.toInt ≤ size.toInt

variable {requested low extent position : Int32} {minimum maximum : Option Int32}

/-- What the client's own bounds leave is what the maximum leaves, of a positive size. -/
theorem toInt_axisSize (minimum maximum : Option Int32) (hrequested : 0 < requested.toInt) :
    (∀ m, maximum = some m → (axisSize requested minimum maximum).toInt ≤ m.toInt) ∧
      (0 < (axisSize requested minimum maximum).toInt ∨
        ∃ m, maximum = some m ∧ (axisSize requested minimum maximum).toInt = m.toInt) := by
  unfold axisSize
  cases minimum <;> cases maximum <;>
    simp only [Option.elim_none, Option.elim_some, I32.toInt_min, I32.toInt_max, reduceCtorEq,
      Option.some.injEq, forall_eq', false_imp_iff, implies_true, exists_eq_left', true_and,
      false_and, exists_false, or_false] <;> omega

/-- A size that fits on an axis with room shows the axis sound. -/
theorem axisSound_of_fits {extent : Option Int32} {size : Int32}
    (hextent : ∀ e, extent = some e → 0 < e.toInt) (h : AxisFits extent minimum maximum size) :
    AxisSound extent minimum maximum := by
  obtain ⟨hpos, hmax, hmin⟩ := h
  refine ⟨hextent, fun m hm => ?_, fun n hn hroom m hm => ?_⟩
  · have hle := hmax m hm
    omega
  · exact (hmin n hn hroom).trans (hmax m hm)

/-- The size fits exactly when the axis is sound. -/
theorem axisFits_iff (hrequested : 0 < requested.toInt) (extent : Option Int32) :
    AxisFits extent minimum maximum (axisRoom extent (axisSize requested minimum maximum)) ↔
      AxisSound extent minimum maximum := by
  unfold AxisFits AxisSound axisRoom axisSize
  cases minimum <;> cases maximum <;> cases extent <;>
    simp only [Option.elim_none, Option.elim_some, I32.toInt_min, I32.toInt_max, reduceCtorEq,
      Option.some.injEq, forall_eq', false_imp_iff, implies_true, true_and, and_true, iff_true,
      forall_const] <;> omega

/-- The far edge of what lies before a far edge is a number of the machine. -/
theorem fits_edge {x size : Int32} (hfar : I32.Fits (low.toInt + extent.toInt))
    (hsize : 0 < size.toInt) (h : x.toInt + size.toInt ≤ low.toInt + extent.toInt) :
    I32.Fits (x.toInt + size.toInt) := by
  have hx := I32.fits_toInt x
  unfold I32.Fits at *
  omega

/-- A position between the two ends of the room that a size leaves, if the far edge and the far end
are numbers of the machine. -/
theorem clampPosition_of_fits {size : Int32} (hfar : I32.Fits (low.toInt + extent.toInt))
    (hhigh : low.toInt + extent.toInt - size.toInt < 2 ^ 31) (hsize : size.toInt ≤ extent.toInt) :
    ∃ x, clampPosition position low extent size = .ok x ∧ low.toInt ≤ x.toInt ∧
      x.toInt + size.toInt ≤ low.toInt + extent.toInt := by
  have hlow := (I32.fits_toInt low).1
  have hend : I32.Fits (low.toInt + extent.toInt - size.toInt) := ⟨by omega, hhigh⟩
  rw [clampPosition, checkedAddInt32_of_fits hfar]
  dsimp only
  rw [I32.toInt_ofInt hfar, if_neg (by omega)]
  refine ⟨_, rfl, ?_⟩
  rw [I32.toInt_max, I32.toInt_min, I32.toInt_ofInt hend]
  omega

/-- Otherwise the sum or the difference stops the program. -/
theorem clampPosition_panic {size : Int32}
    (h : ¬(I32.Fits (low.toInt + extent.toInt) ∧ low.toInt + extent.toInt - size.toInt < 2 ^ 31)) :
    clampPosition position low extent size = .error .panic := by
  rw [clampPosition]
  split
  · rfl
  · rename_i far hfar
    rw [checkedAddInt32_eq_some] at hfar
    have hfits := I32.fits_toInt far
    rw [hfar] at hfits
    have hhigh := not_and.mp h hfits
    dsimp only
    rw [hfar, if_pos (by omega)]

/-- The axis is safe exactly when neither sum that positions a window of the size leaves `i32`. -/
theorem axisSafe_iff (hrequested : 0 < requested.toInt) : AxisSafe low extent maximum ↔
    I32.Fits (low.toInt + extent.toInt) ∧
      low.toInt + extent.toInt - (min (axisSize requested minimum maximum) extent).toInt
        < 2 ^ 31 := by
  obtain ⟨hmax, hsize⟩ := toInt_axisSize minimum maximum hrequested
  have hlow := I32.fits_toInt low
  unfold AxisSafe I32.Fits at *
  rw [I32.toInt_min]
  constructor
  · rintro ⟨hfar, hends⟩
    refine ⟨hfar, ?_⟩
    rcases hsize with hpos | ⟨m, hm, hsize⟩
    · omega
    · have hend := hends m hm
      omega
  · rintro ⟨hfar, hend⟩
    refine ⟨hfar, fun m hm => ?_⟩
    have hle := hmax m hm
    omega

end Axis

namespace X11WmBridgeState

section Requests

variable (bridge : X11WmBridgeState) (node : LayoutNodeSnapshot)

/-- No sum that places a window of the node leaves `i32`. -/
def SafeFor : Prop :=
  ∀ bounds, bridge.rootBounds = some bounds →
    AxisSafe bounds.x bounds.width (node.constraints.maxSize.map (·.width)) ∧
      AxisSafe bounds.y bounds.height (node.constraints.maxSize.map (·.height))

/-- The root and the client's bounds leave a size for a window of the node. -/
def SoundFor : Prop :=
  AxisSound (bridge.rootBounds.map (·.width)) (node.constraints.minSize.map (·.width))
      (node.constraints.maxSize.map (·.width)) ∧
    AxisSound (bridge.rootBounds.map (·.height)) (node.constraints.minSize.map (·.height))
      (node.constraints.maxSize.map (·.height))

/-- The geometry is one the Engine takes: of some size, inside the root, and as large as the client
allows where the root has room for it. -/
def Places (placed : Rect) : Prop :=
  placed.isEmpty = false ∧
    (∀ bounds, bridge.rootBounds = some bounds → Session.rectIsWithin bounds placed = true) ∧
    AxisFits (bridge.rootBounds.map (·.width)) (node.constraints.minSize.map (·.width))
      (node.constraints.maxSize.map (·.width)) placed.width ∧
    AxisFits (bridge.rootBounds.map (·.height)) (node.constraints.minSize.map (·.height))
      (node.constraints.maxSize.map (·.height)) placed.height

/-- The bridge turns the request down: it has no size, or it names no window of the bridge's. -/
def Refuses : LegacyWmRequest → Prop
  | .configureWindow window geometry _ => geometry.isEmpty ∨ window ∉ bridge.windowToNode
  | .focusWindow window => window ∉ bridge.windowToNode

instance (request : LegacyWmRequest) : Decidable (bridge.Refuses request) :=
  match request with
  | .configureWindow _ _ _ => inferInstanceAs (Decidable (_ ∨ _))
  | .focusWindow _ => inferInstanceAs (Decidable (¬ _))

def Safe : LegacyWmRequest → Prop
  | .configureWindow window _ _ =>
    ∀ node, bridge.windowToNode[window]? = some node → bridge.SafeFor node
  | .focusWindow _ => True

def Sound : LegacyWmRequest → Prop
  | .configureWindow window _ _ =>
    ∀ node, bridge.windowToNode[window]? = some node → bridge.SoundFor node
  | .focusWindow _ => True

/-- The commands are what the request asks for: a size and a placement of that size, or a focus that
the surface takes. -/
def Answers : LegacyWmRequest → List (WmCommand Transform) → Prop
  | .configureWindow window _ zIndex, commands =>
    ∃ node placed, bridge.windowToNode[window]? = some node ∧ bridge.Places node placed ∧
      commands = [.configureSurface ⟨node.surface, ⟨placed.width, placed.height⟩⟩,
        .renderSurface ⟨node.surface, placed, zIndex, none, .identity⟩]
  | .focusWindow window, commands =>
    ∃ node, bridge.windowToNode[window]? = some node ∧
      commands = if node.capabilities.focusable then [.focusSurface node.surface] else []

/-- What is left of the requested size on each axis. -/
def widthOf (geometry : Rect) : Int32 :=
  axisRoom (bridge.rootBounds.map (·.width))
    (axisSize geometry.width (node.constraints.minSize.map (·.width))
      (node.constraints.maxSize.map (·.width)))

def heightOf (geometry : Rect) : Int32 :=
  axisRoom (bridge.rootBounds.map (·.height))
    (axisSize geometry.height (node.constraints.minSize.map (·.height))
      (node.constraints.maxSize.map (·.height)))

end Requests

variable {bridge : X11WmBridgeState} {node : LayoutNodeSnapshot} {geometry : Rect}
  {request : LegacyWmRequest} {commands : List (WmCommand Transform)}

/-- What a placement shows of the root and the client's bounds. -/
theorem Places.soundFor {placed : Rect} (h : bridge.Places node placed) :
    bridge.SoundFor node := by
  obtain ⟨hempty, hwithin, hwidth, hheight⟩ := h
  have hextents : (∀ e, bridge.rootBounds.map (·.width) = some e → 0 < e.toInt) ∧
      ∀ e, bridge.rootBounds.map (·.height) = some e → 0 < e.toInt := by
    obtain ⟨hw, hh⟩ := Rect.isEmpty_eq_false.mp hempty
    cases hroot : bridge.rootBounds with
    | none => simp
    | some bounds =>
      obtain ⟨⟨-, -, hx, hright⟩, -, -, hy, hbottom⟩ :=
        Session.rectIsWithin_iff.mp (hwithin bounds hroot)
      simp only [Option.map_some, Option.some.injEq, forall_eq']
      omega
  exact ⟨axisSound_of_fits hextents.1 hwidth, axisSound_of_fits hextents.2 hheight⟩

theorem clampSize_eq (size : Size) (minSize maxSize : Option Size) :
    clampSize size minSize maxSize =
      ⟨axisSize size.width (minSize.map (·.width)) (maxSize.map (·.width)),
        axisSize size.height (minSize.map (·.height)) (maxSize.map (·.height))⟩ := by
  cases minSize <;> cases maxSize <;> rfl

variable {bounds : Rect}

theorem widthOf_of_root (hroot : bridge.rootBounds = some bounds) : bridge.widthOf node geometry =
    min (axisSize geometry.width (node.constraints.minSize.map (·.width))
      (node.constraints.maxSize.map (·.width))) bounds.width := by
  rw [widthOf, hroot, Option.map_some, axisRoom, Option.elim_some]

theorem heightOf_of_root (hroot : bridge.rootBounds = some bounds) :
    bridge.heightOf node geometry =
      min (axisSize geometry.height (node.constraints.minSize.map (·.height))
        (node.constraints.maxSize.map (·.height))) bounds.height := by
  rw [heightOf, hroot, Option.map_some, axisRoom, Option.elim_some]

theorem widthOf_le (hroot : bridge.rootBounds = some bounds) :
    (bridge.widthOf node geometry).toInt ≤ bounds.width.toInt := by
  rw [widthOf_of_root hroot, I32.toInt_min]
  exact min_le_right _ _

theorem heightOf_le (hroot : bridge.rootBounds = some bounds) :
    (bridge.heightOf node geometry).toInt ≤ bounds.height.toInt := by
  rw [heightOf_of_root hroot, I32.toInt_min]
  exact min_le_right _ _

theorem placeGeometry_of_no_root (hroot : bridge.rootBounds = none) :
    bridge.placeGeometry node geometry =
      .ok (⟨bridge.widthOf node geometry, bridge.heightOf node geometry⟩,
        ⟨geometry.x, geometry.y, bridge.widthOf node geometry, bridge.heightOf node geometry⟩) := by
  rw [placeGeometry, clampSize_eq, widthOf, heightOf, hroot, Option.map_none, Option.map_none,
    axisRoom, axisRoom, Option.elim_none, Option.elim_none]

theorem placeGeometry_of_root (hroot : bridge.rootBounds = some bounds) :
    bridge.placeGeometry node geometry =
      (clampPosition geometry.x bounds.x bounds.width (bridge.widthOf node geometry)).bind fun x =>
        (clampPosition geometry.y bounds.y bounds.height (bridge.heightOf node geometry)).bind
          fun y => .ok (⟨bridge.widthOf node geometry, bridge.heightOf node geometry⟩,
            ⟨x, y, bridge.widthOf node geometry, bridge.heightOf node geometry⟩) := by
  rw [placeGeometry, clampSize_eq, widthOf, heightOf, hroot, Option.map_some, Option.map_some,
    axisRoom, axisRoom, Option.elim_some, Option.elim_some]
  rfl

/-- A placement overflows nothing when both axes are safe, and what it puts into the root is within
it if it is of some size. -/
theorem placeGeometry_of_safe (hgeometry : geometry.isEmpty = false) (hsafe : bridge.SafeFor node) :
    ∃ placed, bridge.placeGeometry node geometry =
        .ok (⟨bridge.widthOf node geometry, bridge.heightOf node geometry⟩, placed) ∧
      placed.width = bridge.widthOf node geometry ∧
      placed.height = bridge.heightOf node geometry ∧
      (placed.isEmpty = false → ∀ bounds, bridge.rootBounds = some bounds →
        Session.rectIsWithin bounds placed = true) := by
  obtain ⟨hwidth, hheight⟩ := Rect.isEmpty_eq_false.mp hgeometry
  cases hroot : bridge.rootBounds with
  | none => exact ⟨_, placeGeometry_of_no_root hroot, rfl, rfl, fun _ bounds h => by cases h⟩
  | some bounds =>
    obtain ⟨hx, hy⟩ := hsafe bounds hroot
    obtain ⟨hright, hxend⟩ := (axisSafe_iff hwidth).mp hx
    obtain ⟨hbottom, hyend⟩ := (axisSafe_iff hheight).mp hy
    rw [← widthOf_of_root hroot] at hxend
    rw [← heightOf_of_root hroot] at hyend
    obtain ⟨x, hxe, hxlow, hxhigh⟩ := clampPosition_of_fits hright hxend (widthOf_le hroot)
    obtain ⟨y, hye, hylow, hyhigh⟩ := clampPosition_of_fits hbottom hyend (heightOf_le hroot)
    rw [placeGeometry_of_root hroot, hxe, hye]
    refine ⟨_, rfl, rfl, rfl, ?_⟩
    rintro hempty other ⟨⟩
    obtain ⟨hw, hh⟩ := Rect.isEmpty_eq_false.mp hempty
    exact Session.rectIsWithin_iff.mpr
      ⟨⟨hright, fits_edge hright hw hxhigh, hxlow, hxhigh⟩, hbottom, fits_edge hbottom hh hyhigh,
        hylow, hyhigh⟩

/-- Otherwise it stops the program. -/
theorem placeGeometry_overflow (hgeometry : geometry.isEmpty = false)
    (hsafe : ¬ bridge.SafeFor node) : bridge.placeGeometry node geometry = .error .panic := by
  obtain ⟨hwidth, hheight⟩ := Rect.isEmpty_eq_false.mp hgeometry
  rw [SafeFor] at hsafe
  push Not at hsafe
  obtain ⟨bounds, hroot, hsafe⟩ := hsafe
  rw [axisSafe_iff hwidth, axisSafe_iff hheight, ← widthOf_of_root hroot,
    ← heightOf_of_root hroot] at hsafe
  rw [placeGeometry_of_root hroot]
  by_cases hx : I32.Fits (bounds.x.toInt + bounds.width.toInt) ∧
      bounds.x.toInt + bounds.width.toInt - (bridge.widthOf node geometry).toInt < 2 ^ 31
  · obtain ⟨x, hxe, -⟩ := clampPosition_of_fits hx.1 hx.2 (widthOf_le hroot)
    rw [hxe, clampPosition_panic (hsafe hx)]
    rfl
  · rw [clampPosition_panic hx]
    rfl

theorem places_of_sound {placed : Rect} (hgeometry : geometry.isEmpty = false)
    (hwidth : placed.width = bridge.widthOf node geometry)
    (hheight : placed.height = bridge.heightOf node geometry)
    (hwithin : placed.isEmpty = false → ∀ bounds, bridge.rootBounds = some bounds →
      Session.rectIsWithin bounds placed = true)
    (hsound : bridge.SoundFor node) : bridge.Places node placed := by
  obtain ⟨hw, hh⟩ := Rect.isEmpty_eq_false.mp hgeometry
  have hfits := (axisFits_iff hw _).mpr hsound.1
  have hfits' := (axisFits_iff hh _).mpr hsound.2
  rw [← widthOf, ← hwidth] at hfits
  rw [← heightOf, ← hheight] at hfits'
  have hempty := Rect.isEmpty_eq_false.mpr ⟨hfits.1, hfits'.1⟩
  exact ⟨hempty, hwithin hempty, hfits, hfits'⟩

theorem nodeOf_of_notMem {window : SyntheticXWindowId} (h : window ∉ bridge.windowToNode) :
    bridge.nodeOf window = .error (.error .unknownSyntheticWindow) := by
  rw [nodeOf, ExtTreeMap.getElem?_eq_none h]

theorem exists_node {window : SyntheticXWindowId} (h : window ∈ bridge.windowToNode) :
    ∃ node, bridge.windowToNode[window]? = some node :=
  Option.isSome_iff_exists.mp (ExtTreeMap.mem_iff_isSome_getElem?.mp h)

theorem translateLegacyRequest_refused (h : bridge.Refuses request) :
    ∃ error, bridge.translateLegacyRequest request = .error (.error error) := by
  rcases request with ⟨window, geometry, zIndex⟩ | window
  · rw [translateLegacyRequest]
    split
    · exact ⟨_, rfl⟩
    · rename_i hgeometry
      rw [nodeOf_of_notMem (h.resolve_left hgeometry)]
      exact ⟨_, rfl⟩
  · rw [translateLegacyRequest, nodeOf_of_notMem h]
    exact ⟨_, rfl⟩

/-- A request that is not turned down and is safe gets its commands, and the right ones if it is
sound. -/
theorem translateLegacyRequest_safe (h : ¬ bridge.Refuses request) (hsafe : bridge.Safe request) :
    ∃ commands, bridge.translateLegacyRequest request = .ok commands ∧
      (bridge.Sound request → bridge.Answers request commands) := by
  rcases request with ⟨window, geometry, zIndex⟩ | window
  · obtain ⟨hgeometry, hmem⟩ := not_or.mp h
    obtain ⟨node, hnode⟩ := exists_node (not_not.mp hmem)
    obtain ⟨placed, hplaced, hwidth, hheight, hwithin⟩ :=
      placeGeometry_of_safe (Bool.eq_false_iff.mpr hgeometry) (hsafe node hnode)
    rw [translateLegacyRequest, if_neg hgeometry]
    refine ⟨_, Fallible.bind_eq_ok.mpr ⟨node, nodeOf_eq_ok.mpr hnode,
      Fallible.bind_eq_ok.mpr ⟨_, hplaced, rfl⟩⟩, fun hsound => ?_⟩
    refine ⟨node, placed, hnode, places_of_sound (Bool.eq_false_iff.mpr hgeometry) hwidth hheight
      hwithin (hsound node hnode), ?_⟩
    rw [hwidth, hheight]
  · obtain ⟨node, hnode⟩ := exists_node (not_not.mp h)
    rw [translateLegacyRequest]
    exact ⟨_, Fallible.bind_eq_ok.mpr ⟨node, nodeOf_eq_ok.mpr hnode, rfl⟩,
      fun _ => ⟨node, hnode, rfl⟩⟩

theorem translateLegacyRequest_overflow (h : ¬ bridge.Refuses request)
    (hsafe : ¬ bridge.Safe request) :
    bridge.translateLegacyRequest request = .error .panic := by
  rcases request with ⟨window, geometry, zIndex⟩ | window
  · obtain ⟨hgeometry, -⟩ := not_or.mp h
    rw [Safe] at hsafe
    push Not at hsafe
    obtain ⟨node, hnode, hsafe⟩ := hsafe
    rw [translateLegacyRequest, if_neg hgeometry]
    exact Fallible.bind_eq_error.mpr (.inr ⟨node, nodeOf_eq_ok.mpr hnode, Fallible.bind_eq_error.mpr
      (.inl (placeGeometry_overflow (Bool.eq_false_iff.mpr hgeometry) hsafe))⟩)
  · exact absurd trivial hsafe

/-- An error of the bridge turns a request down. -/
theorem refuses_of_error {error : X11WmBridgeError}
    (h : bridge.translateLegacyRequest request = .error (.error error)) :
    bridge.Refuses request := by
  by_contra hrefuses
  by_cases hsafe : bridge.Safe request
  · obtain ⟨commands, he, -⟩ := translateLegacyRequest_safe hrefuses hsafe
    rw [he] at h
    cases h
  · rw [translateLegacyRequest_overflow hrefuses hsafe] at h
    cases h

theorem sound_of_answers (h : bridge.Answers request commands) : bridge.Sound request := by
  rcases request with ⟨window, geometry, zIndex⟩ | window
  · obtain ⟨node, placed, hnode, hplaces, -⟩ := h
    intro other hother
    cases hnode.symm.trans hother
    exact hplaces.soundFor
  · trivial

variable {requests : List LegacyWmRequest} {pieces : List (List (WmCommand Transform))}

/-- The program stops at an unsafe request that comes before every request turned down. -/
theorem mapM_eq_panic_iff (bridge : X11WmBridgeState) (requests : List LegacyWmRequest) :
    requests.mapM bridge.translateLegacyRequest = .error .panic ↔
    ∃ request ∈ requests.takeWhile fun request => ¬ bridge.Refuses request,
      ¬ bridge.Safe request := by
  induction requests with
  | nil => simp [pure, Except.pure]
  | cons request requests ih =>
    by_cases hrefuses : bridge.Refuses request
    · obtain ⟨error, he⟩ := translateLegacyRequest_refused hrefuses
      rw [List.mapM_cons, he, List.takeWhile_cons_of_neg (by simp [hrefuses])]
      simp [bind, Except.bind]
    · rw [List.mapM_cons, List.takeWhile_cons_of_pos (by simp [hrefuses]),
        List.exists_mem_cons_iff]
      by_cases hsafe : bridge.Safe request
      · obtain ⟨commands, he, -⟩ := translateLegacyRequest_safe hrefuses hsafe
        rw [or_iff_right (not_not.mpr hsafe), ← ih, he]
        cases requests.mapM bridge.translateLegacyRequest <;> simp [bind, Except.bind, pure,
          Except.pure]
      · rw [translateLegacyRequest_overflow hrefuses hsafe]
        exact iff_of_true rfl (.inl hsafe)

/-- A translation that comes to its end has turned nothing down, and its pieces are answers exactly
when every request is sound. -/
theorem answers_iff (h : requests.mapM bridge.translateLegacyRequest = .ok pieces) :
    (¬ ∃ request ∈ requests, bridge.Refuses request) ∧
      ((∀ request ∈ requests, bridge.Sound request) →
        List.Forall₂ bridge.Answers requests pieces) := by
  have hall := Fallible.mapM_eq_ok_iff.mp h
  clear h
  induction hall with
  | nil => simp
  | @cons request piece requests pieces he _ ih =>
    have hrefuses : ¬ bridge.Refuses request := by
      intro hrefuses
      obtain ⟨error, hr⟩ := translateLegacyRequest_refused hrefuses
      rw [he] at hr
      cases hr
    have hsafe : bridge.Safe request := by
      by_contra hsafe
      rw [translateLegacyRequest_overflow hrefuses hsafe] at he
      cases he
    obtain ⟨commands, hc, hanswers⟩ := translateLegacyRequest_safe hrefuses hsafe
    cases he.symm.trans hc
    refine ⟨fun hr => ?_, fun hsound => ?_⟩
    · exact ((List.exists_mem_cons_iff _ _ _).mp hr).elim hrefuses ih.1
    · obtain ⟨hfirst, hrest⟩ := List.forall_mem_cons.mp hsound
      exact .cons (hanswers hfirst) (ih.2 hrest)

/-- Legacy requests become placements that the Engine can take exactly when no sum before the first
refused request leaves `i32`, and the root and the clients' bounds leave room for every window. -/
theorem translate_places_iff (bridge : X11WmBridgeState) (transaction : TransactionId)
    (requests : List LegacyWmRequest) (timeoutMsec : UInt32) :
    (bridge.translateLegacyRequests transaction requests timeoutMsec ≠ .error .panic ∧
      ∀ packet, bridge.translateLegacyRequests transaction requests timeoutMsec = .ok packet →
        ∃ pieces, List.Forall₂ bridge.Answers requests pieces ∧
          packet.commands = pieces.flatten) ↔
      maxLegacyWmRequests < requests.length ∨
        (∀ request ∈ requests.takeWhile fun request => ¬ bridge.Refuses request,
          bridge.Safe request) ∧
        ((∃ request ∈ requests, bridge.Refuses request) ∨
          ∀ request ∈ requests, bridge.Sound request) := by
  by_cases hlength : maxLegacyWmRequests < requests.length
  · rw [translateLegacyRequests, if_pos hlength]
    exact iff_of_true ⟨by simp, fun packet h => by cases h⟩ (.inl hlength)
  · have hpanic := not_congr (mapM_eq_panic_iff bridge requests)
    push Not at hpanic
    rw [translateLegacyRequests, if_neg hlength, or_iff_right hlength, ← hpanic]
    cases hmap : requests.mapM bridge.translateLegacyRequest with
    | ok pieces =>
      obtain ⟨hrefuses, hanswers⟩ := answers_iff hmap
      rw [or_iff_right hrefuses]
      constructor
      · rintro ⟨-, hpost⟩
        obtain ⟨pieces', hall, -⟩ := hpost _ rfl
        have hboth := hall.imp fun _ _ h => And.intro (sound_of_answers h) h
        exact ⟨by simp, ((List.forall₂_and_left requests pieces').mp hboth).1⟩
      · rintro ⟨-, hsound⟩
        refine ⟨by simp [Except.map], fun packet h => ?_⟩
        cases h
        exact ⟨pieces, hanswers hsound, rfl⟩
    | error fault =>
      cases fault with
      | panic => exact iff_of_false (fun h => h.1 rfl) (fun h => h.1 rfl)
      | error error =>
        refine iff_of_true ⟨by simp [Except.map], fun packet h => by cases h⟩ ⟨by simp, .inl ?_⟩
        obtain ⟨request, hr, he⟩ := Fallible.mapM_eq_error hmap
        exact ⟨request, hr, refuses_of_error he⟩

/-- An output whose right edge is past the largest coordinate, and a window on it. -/
def farRequest : WmRequestPacket where
  transaction := ⟨1⟩
  kind := .manageSurface {
    node := {
      surface := ⟨1, 1⟩
      workspace := ⟨1⟩
      kind := .toplevel
      capabilities := ⟨true, true, true, true, true⟩
      state := ⟨true, false, false, false, true⟩
      constraints := ⟨none, none⟩
      geometry := ⟨0, 0, 10, 10⟩
      generation := 1 }
    output := ⟨1⟩
    workspace := ⟨1⟩
    bounds := ⟨2147483640, 0, 100, 100⟩ }

/-- The decoder takes the output, and the first window the manager configures there stops the
bridge. -/
theorem far_root_panics :
    (∃ frame, Ipc.decodeWmRequestFrame frame = .ok farRequest) ∧
      (new.applyEngineRequest farRequest).2.translateLegacyRequests ⟨1⟩
        [.configureWindow ⟨firstSyntheticWindowXid⟩ ⟨0, 0, 10, 10⟩ 0] 1000 = .error .panic := by
  constructor
  · exact ⟨_, Ipc.decodeWmRequestFrame_encode rfl⟩
  · decide +kernel

end X11WmBridgeState
end Sophia.Bridge
