import Sophia.Engine.PlanLayouts
import Sophia.Lib.Fallible
import Sophia.Lib.Numbers
import Sophia.Protocol.Wm
import Sophia.Session.PlacementBounds

/-! The demo window manager, which puts the visible windows of a workspace beside each other. -/
namespace Sophia.WmDemo

open Protocol

def emptyTransaction (transaction : TransactionId) : LayoutTransaction Transform where
  transaction := transaction
  requestedSizes := []
  focus := none
  renderPositions := []
  timeoutMsec := 300

def clampSize (size : Size) (minSize maxSize : Option Size) : Size :=
  let size := minSize.elim size fun minimum =>
    ⟨max size.width minimum.width, max size.height minimum.height⟩
  maxSize.elim size fun maximum => ⟨min size.width maximum.width, min size.height maximum.height⟩

def visibleNodes (workspace : WorkspaceId) (nodes : List LayoutNodeSnapshot) :
    List LayoutNodeSnapshot :=
  nodes.filter fun node => node.workspace = workspace ∧ node.state.visible

/-- `usize::try_from`, or a panic. -/
def usizeOf (a : Int32) : Except I32.Panic ℕ :=
  if 0 ≤ a.toInt then .ok a.toInt.toNat else .error .overflow

/-- The last tile gets what the others leave. -/
def tileWidth (bounds : Rect) (width x : Int32) (isLast : Bool) : Except I32.Panic Int32 :=
  if isLast then do I32.sub (← I32.add bounds.x bounds.width) x else .ok width

/-- The tile of the visible node at the index. -/
def tileGeometry (bounds : Rect) (width : Int32) (count : ℕ) (index : Int32) :
    Except I32.Panic Rect := do
  let isLast := (← usizeOf (← I32.add index 1)) == count
  let x ← I32.add bounds.x (← I32.mul width index)
  let width ← tileWidth bounds width x isLast
  return ⟨x, bounds.y, max width 1, bounds.height⟩

/-- What the loop over the visible nodes has collected. -/
structure Tiles where
  renderPositions : List (SurfacePlacement Transform) := []
  requestedSizes : List SurfaceSizeRequest := []
  focus : Option SurfaceId := none

/-- One node behind those already tiled. -/
def Tiles.push (tiles : Tiles) (node : LayoutNodeSnapshot) (geometry : Rect) (index : Int32) :
    Tiles where
  renderPositions := tiles.renderPositions ++ [⟨node.surface, geometry, index, none, .identity⟩]
  requestedSizes := tiles.requestedSizes ++
    [⟨node.surface, clampSize ⟨geometry.width, geometry.height⟩ node.constraints.minSize
      node.constraints.maxSize⟩]
  focus :=
    if tiles.focus.isNone && node.capabilities.focusable then some node.surface else tiles.focus

def tileNode (bounds : Rect) (width : Int32) (count : ℕ) (tiles : Tiles)
    (entry : LayoutNodeSnapshot × ℕ) : Except I32.Panic Tiles := do
  let index ← I32.ofInt entry.2
  let geometry ← tileGeometry bounds width count index
  return tiles.push entry.1 geometry index

def tileWorkspace (transaction : TransactionId) (workspace : WorkspaceId) (bounds : Rect)
    (nodes : List LayoutNodeSnapshot) : Except I32.Panic (LayoutTransaction Transform) :=
  let visible := visibleNodes workspace nodes
  if visible.isEmpty || bounds.isEmpty then .ok (emptyTransaction transaction)
  else do
    let width ← I32.div bounds.width (← I32.ofInt visible.length)
    let tiles ← visible.zipIdx.foldlM (tileNode bounds width visible.length) {}
    return {
      transaction
      requestedSizes := tiles.requestedSizes
      focus := tiles.focus
      renderPositions := tiles.renderPositions
      timeoutMsec := 300 }

def responseFromLayoutTransaction (transaction : LayoutTransaction Transform)
    (assignedWorkspace : Option WorkspaceId) : WmResponsePacket Transform where
  transaction := transaction.transaction
  commands :=
    (assignedWorkspace.elim [] fun workspace =>
      transaction.renderPositions.map fun placement =>
        .assignWorkspace placement.surface workspace) ++
    transaction.requestedSizes.map .configureSurface ++
    transaction.focus.toList.map .focusSurface ++
    transaction.renderPositions.map .renderSurface
  timeoutMsec := transaction.timeoutMsec

end Sophia.WmDemo

/-! The tiles of a workspace divide its bounds, and the live session takes them. -/
namespace Sophia.WmDemo

open Protocol Engine Fallible

/-- The bounds have a right edge and at least a column for each tile. -/
structure Tileable (bounds : Rect) (count : ℕ) : Prop where
  isEmpty : bounds.isEmpty = false
  right : I32.Fits (bounds.x.toInt + bounds.width.toInt)
  room : (count : ℤ) ≤ bounds.width.toInt

/-- The columns of the bounds. -/
def columns (bounds : Rect) : ℕ := bounds.width.toInt.toNat

/-- The strip of the bounds that the tile at an index takes. -/
def tileAt (bounds : Rect) (count i : ℕ) : Rect :=
  ⟨Int32.ofInt (bounds.x.toInt + Strips.start (columns bounds) count i), bounds.y,
    Int32.ofInt (Strips.stop (columns bounds) count i - Strips.start (columns bounds) count i),
    bounds.height⟩

section Geometry

variable {bounds : Rect} {count i : ℕ}

theorem Tileable.columns_eq (h : Tileable bounds count) :
    (columns bounds : ℤ) = bounds.width.toInt :=
  Int.toNat_of_nonneg (Rect.isEmpty_eq_false.mp h.isEmpty).1.le

theorem Tileable.count_le (h : Tileable bounds count) : count ≤ columns bounds := by
  have hroom := h.room
  rw [← h.columns_eq] at hroom
  exact_mod_cast hroom

/-- Where the strip begins and ends, as numbers of the machine. -/
theorem Tileable.strip (h : Tileable bounds count) (hi : i < count) :
    Strips.start (columns bounds) count i < Strips.stop (columns bounds) count i ∧
      (Strips.stop (columns bounds) count i : ℤ) ≤ bounds.width.toInt := by
  refine ⟨Strips.start_lt_stop h.count_le hi, ?_⟩
  rw [← h.columns_eq]
  exact_mod_cast Strips.stop_le hi

theorem Tileable.toInt_x (h : Tileable bounds count) (hi : i < count) :
    (tileAt bounds count i).x.toInt =
      bounds.x.toInt + Strips.start (columns bounds) count i := by
  obtain ⟨hlt, hle⟩ := h.strip hi
  have hx := (I32.fits_toInt bounds.x).1
  have hright := h.right.2
  exact I32.toInt_ofInt ⟨by omega, by omega⟩

theorem Tileable.toInt_width (h : Tileable bounds count) (hi : i < count) :
    (tileAt bounds count i).width.toInt =
      Strips.stop (columns bounds) count i - Strips.start (columns bounds) count i := by
  obtain ⟨hlt, hle⟩ := h.strip hi
  have hwidth := (I32.fits_toInt bounds.width).2
  exact I32.toInt_ofInt ⟨by omega, by omega⟩

/-- The width that the columns divided by the tiles give. -/
theorem Tileable.div_eq (h : Tileable bounds count) :
    ∃ divisor width, I32.ofInt count = .ok divisor ∧ I32.div bounds.width divisor = .ok width ∧
      width.toInt = (columns bounds / count : ℕ) := by
  have hdivisor := I32.toInt_ofInt (I32.fits_natCast h.room)
  have hle : (columns bounds / count : ℕ) ≤ bounds.width.toInt := by
    rw [← h.columns_eq]
    exact_mod_cast Nat.div_le_self _ _
  have hwidth := I32.toInt_ofInt (I32.fits_natCast hle)
  refine ⟨_, _, I32.ofInt_eq_ok.mpr hdivisor, I32.ofInt_eq_ok.mpr ?_, hwidth⟩
  rw [hwidth, hdivisor, ← h.columns_eq, Int.ofNat_tdiv]

/-- No sum of the loop leaves `i32`, and each turn takes its strip. -/
theorem Tileable.tileGeometry_eq (h : Tileable bounds count) (hi : i < count)
    {width index : Int32} (hwidth : width.toInt = (columns bounds / count : ℕ))
    (hindex : index.toInt = i) :
    tileGeometry bounds width count index = .ok (tileAt bounds count i) := by
  obtain ⟨hlt, hle⟩ := h.strip hi
  have hroom := h.room
  have hx := h.toInt_x hi
  have htile := h.toInt_width hi
  have hnext := I32.toInt_ofInt (I32.fits_natCast (n := i + 1) (a := bounds.width) (by omega))
  have hstart := I32.toInt_ofInt (I32.fits_natCast
    (n := Strips.start (columns bounds) count i) (a := bounds.width) (by omega))
  have hright := I32.toInt_ofInt h.right
  refine bind_eq_ok.mpr ⟨_, I32.ofInt_eq_ok.mpr (hnext.trans ?_), ?_⟩
  · rw [hindex]
    rfl
  refine bind_eq_ok.mpr ⟨i + 1, ?_, ?_⟩
  · rw [usizeOf, hnext, if_pos (by omega)]
    rfl
  refine bind_eq_ok.mpr ⟨_, I32.ofInt_eq_ok.mpr (hstart.trans ?_), ?_⟩
  · rw [hwidth, hindex]
    exact_mod_cast rfl
  refine bind_eq_ok.mpr ⟨(tileAt bounds count i).x, I32.ofInt_eq_ok.mpr (by rw [hx, hstart]), ?_⟩
  refine bind_eq_ok.mpr ⟨(tileAt bounds count i).width, ?_, ?_⟩
  · by_cases hlast : i + 1 = count
    · -- the last tile reaches to the right edge
      rw [tileWidth, if_pos (beq_iff_eq.mpr hlast)]
      refine bind_eq_ok.mpr ⟨_, I32.ofInt_eq_ok.mpr hright, I32.ofInt_eq_ok.mpr ?_⟩
      rw [htile, hright, hx, Strips.stop, if_pos hlast, h.columns_eq]
      omega
    · rw [tileWidth, if_neg (by simpa using hlast)]
      refine congrArg Except.ok (Int32.toInt_inj.mp ?_)
      rw [htile, hwidth, Strips.stop, if_neg hlast, Strips.start, Nat.mul_succ]
      omega
  · have hmax : max (tileAt bounds count i).width 1 = (tileAt bounds count i).width := by
      refine Int32.toInt_inj.mp ?_
      rw [I32.toInt_max, htile]
      exact max_eq_left (by change (1 : ℤ) ≤ _; omega)
    rw [hmax]
    rfl

/-- The point is in the rectangle. -/
def Covers (rect : Rect) (p : ℤ × ℤ) : Prop :=
  (rect.x.toInt ≤ p.1 ∧ p.1 < rect.x.toInt + rect.width.toInt) ∧
    rect.y.toInt ≤ p.2 ∧ p.2 < rect.y.toInt + rect.height.toInt

/-- A tile covers the columns of its strip. -/
theorem Tileable.covers_iff (h : Tileable bounds count) (hi : i < count) {p : ℤ × ℤ} :
    Covers (tileAt bounds count i) p ↔
      (bounds.x.toInt + Strips.start (columns bounds) count i ≤ p.1 ∧
        p.1 < bounds.x.toInt + Strips.stop (columns bounds) count i) ∧
      bounds.y.toInt ≤ p.2 ∧ p.2 < bounds.y.toInt + bounds.height.toInt := by
  rw [Covers, h.toInt_x hi, h.toInt_width hi, add_add_sub_cancel]
  rfl

theorem Tileable.tile_isEmpty (h : Tileable bounds count) (hi : i < count) :
    (tileAt bounds count i).isEmpty = false := by
  refine Rect.isEmpty_eq_false.mpr ⟨?_, (Rect.isEmpty_eq_false.mp h.isEmpty).2⟩
  rw [h.toInt_width hi]
  have hlt := (h.strip hi).1
  omega

theorem Tileable.tiles_disjoint (h : Tileable bounds count) {j : ℕ} (hij : i < j) (hj : j < count)
    (p : ℤ × ℤ) : ¬(Covers (tileAt bounds count i) p ∧ Covers (tileAt bounds count j) p) := by
  rw [h.covers_iff (hij.trans hj), h.covers_iff hj]
  have hle : Strips.stop (columns bounds) count i ≤ Strips.start (columns bounds) count j :=
    Strips.stop_le_start hij hj
  omega

theorem Tileable.tiles_cover (h : Tileable bounds count) (hcount : 0 < count) (p : ℤ × ℤ) :
    (∃ i < count, Covers (tileAt bounds count i) p) ↔ Covers bounds p := by
  constructor
  · rintro ⟨i, hi, hp⟩
    obtain ⟨⟨hleft, hright⟩, hrows⟩ := (h.covers_iff hi).mp hp
    have hle := (h.strip hi).2
    exact ⟨⟨by omega, by omega⟩, hrows⟩
  · rintro ⟨⟨hleft, hright⟩, hrows⟩
    have hcolumns := h.columns_eq
    have hcolumn : (p.1 - bounds.x.toInt).toNat < columns bounds := by omega
    obtain ⟨i, hi, hstart, hstop⟩ := Strips.exists_strip hcount hcolumn
    exact ⟨i, hi, (h.covers_iff hi).mpr ⟨⟨by omega, by omega⟩, hrows⟩⟩

/-- The session takes a tile if the bounds have a bottom edge. -/
theorem Tileable.tile_within (h : Tileable bounds count) (hi : i < count)
    (hbottom : I32.Fits (bounds.y.toInt + bounds.height.toInt)) :
    Session.rectIsWithin bounds (tileAt bounds count i) = true := by
  have hx := h.toInt_x hi
  have hwidth := h.toInt_width hi
  obtain ⟨hlt, hle⟩ := h.strip hi
  have hright := h.right
  have hleft := I32.fits_toInt bounds.x
  unfold I32.Fits at hright hleft
  refine Session.rectIsWithin_iff.mpr ⟨⟨h.right, ⟨by omega, by omega⟩, by omega, by omega⟩, ?_⟩
  exact ⟨hbottom, hbottom, Int.le_refl _, Int.le_refl _⟩

end Geometry

section Loop

variable {bounds : Rect} {count : ℕ}

/-- Where a visible node is drawn, and the size it is asked to take. -/
def place (bounds : Rect) (count : ℕ) (entry : LayoutNodeSnapshot × ℕ) :
    SurfacePlacement Transform :=
  ⟨entry.1.surface, tileAt bounds count entry.2, Int32.ofInt entry.2, none, .identity⟩

def request (bounds : Rect) (count : ℕ) (entry : LayoutNodeSnapshot × ℕ) : SurfaceSizeRequest :=
  ⟨entry.1.surface,
    clampSize ⟨(tileAt bounds count entry.2).width, (tileAt bounds count entry.2).height⟩
      entry.1.constraints.minSize entry.1.constraints.maxSize⟩

theorem Tileable.tileNode_eq (h : Tileable bounds count) {width : Int32}
    (hwidth : width.toInt = (columns bounds / count : ℕ)) {entry : LayoutNodeSnapshot × ℕ}
    (hi : entry.2 < count) (tiles : Tiles) :
    tileNode bounds width count tiles entry =
      .ok (tiles.push entry.1 (tileAt bounds count entry.2) (Int32.ofInt entry.2)) := by
  have hroom := h.room
  have hindex : I32.Fits entry.2 := I32.fits_natCast (a := bounds.width) (by omega)
  refine bind_eq_ok.mpr ⟨_, I32.ofInt_eq hindex, ?_⟩
  exact bind_eq_ok.mpr ⟨_, h.tileGeometry_eq hi hwidth (I32.toInt_ofInt hindex), rfl⟩

/-- What the loop adds to what it has collected. -/
theorem foldl_push (bounds : Rect) (count : ℕ) (entries : List (LayoutNodeSnapshot × ℕ))
    (tiles : Tiles) :
    let result := entries.foldl (fun (tiles : Tiles) entry =>
      tiles.push entry.1 (tileAt bounds count entry.2) (Int32.ofInt entry.2)) tiles
    result.renderPositions = tiles.renderPositions ++ entries.map (place bounds count) ∧
      result.requestedSizes = tiles.requestedSizes ++ entries.map (request bounds count) ∧
      ∀ surface, result.focus = some surface → tiles.focus = some surface ∨
        ∃ entry ∈ entries, entry.1.surface = surface := by
  induction entries generalizing tiles with
  | nil => simp
  | cons entry entries ih =>
    obtain ⟨hpositions, hsizes, hfocus⟩ :=
      ih (tiles.push entry.1 (tileAt bounds count entry.2) (Int32.ofInt entry.2))
    refine ⟨?_, ?_, fun surface hs => ?_⟩
    · rw [List.foldl_cons, hpositions, Tiles.push, List.append_assoc]
      rfl
    · rw [List.foldl_cons, hsizes, Tiles.push, List.append_assoc]
      rfl
    · rcases hfocus surface hs with hs | ⟨other, hmem, he⟩
      · rw [Tiles.push] at hs
        split at hs
        · cases hs
          exact .inr ⟨entry, List.mem_cons_self, rfl⟩
        · exact .inl hs
      · exact .inr ⟨other, List.mem_cons_of_mem _ hmem, he⟩

/-- What the loop over all visible nodes collects. -/
theorem Tileable.loop_eq {visible : List LayoutNodeSnapshot} (h : Tileable bounds visible.length)
    {width : Int32} (hwidth : width.toInt = (columns bounds / visible.length : ℕ)) :
    ∃ tiles, visible.zipIdx.foldlM (tileNode bounds width visible.length) {} = .ok tiles ∧
      tiles.renderPositions = visible.zipIdx.map (place bounds visible.length) ∧
      tiles.requestedSizes = visible.zipIdx.map (request bounds visible.length) ∧
      ∀ surface, tiles.focus = some surface → ∃ node ∈ visible, node.surface = surface := by
  obtain ⟨hpositions, hsizes, hfocus⟩ := foldl_push bounds visible.length visible.zipIdx {}
  refine ⟨_, foldlM_eq_foldl _ fun entry hentry tiles =>
    h.tileNode_eq hwidth (List.snd_lt_of_mem_zipIdx hentry) tiles, hpositions, hsizes,
    fun surface hs => ?_⟩
  rcases hfocus surface hs with hs | ⟨entry, hmem, he⟩
  · cases hs
  · exact ⟨entry.1, List.fst_mem_of_mem_zipIdx hmem, he⟩

variable {workspace : WorkspaceId} {nodes : List LayoutNodeSnapshot}

/-- The visible nodes are tiled in order, and what is focused is one of them. -/
theorem tileWorkspace_eq (transaction : TransactionId) (h : Tileable bounds (visibleNodes workspace nodes).length) :
    let visible := visibleNodes workspace nodes
    ∃ focus, tileWorkspace transaction workspace bounds nodes = .ok {
        transaction
        requestedSizes := visible.zipIdx.map (request bounds visible.length)
        focus
        renderPositions := visible.zipIdx.map (place bounds visible.length)
        timeoutMsec := 300 } ∧
      ∀ surface, focus = some surface → ∃ node ∈ visible, node.surface = surface := by
  intro visible
  rw [tileWorkspace]
  by_cases hvisible : visible = []
  · have hempty : ((visibleNodes workspace nodes).isEmpty || bounds.isEmpty) = true := by
      rw [List.isEmpty_iff.mpr hvisible, Bool.true_or]
    refine ⟨none, ?_, by simp⟩
    rw [if_pos hempty, hvisible]
    rfl
  · have hnonempty : ¬((visibleNodes workspace nodes).isEmpty || bounds.isEmpty) = true := by
      rw [h.isEmpty, Bool.or_false, List.isEmpty_iff]
      exact hvisible
    obtain ⟨divisor, width, hdivisor, hdiv, hwidth⟩ := h.div_eq
    obtain ⟨tiles, hloop, hpositions, hsizes, hfocus⟩ := h.loop_eq hwidth
    rw [if_neg hnonempty, ← hpositions, ← hsizes]
    exact ⟨tiles.focus, bind_eq_ok.mpr ⟨divisor, hdivisor, bind_eq_ok.mpr ⟨width, hdiv,
      bind_eq_ok.mpr ⟨tiles, hloop, rfl⟩⟩⟩, hfocus⟩

theorem findSome?_map_eq_none {α β γ : Type} {f : α → β} {g : β → Option γ} (xs : List α)
    (h : ∀ x, g (f x) = none) : (xs.map f).findSome? g = none := by
  rw [List.findSome?_eq_none_iff]
  intro y hy
  obtain ⟨x, -, rfl⟩ := List.mem_map.mp hy
  exact h x

/-- The Engine's plan of a response lays out what the response was built from. -/
theorem planResponse_response {tiling : LayoutTransaction Transform}
    {assigned : Option WorkspaceId} {state : WmWorkspaceState} {advertised : List WmSessionAction}
    {plan : WmPolicyPlan Transform}
    (h : state.planResponse (responseFromLayoutTransaction tiling assigned) advertised =
      .ok plan) : plan.layout = tiling := by
  obtain ⟨transaction, sizes, focus, positions, timeout⟩ := tiling
  rw [WmWorkspaceState.planResponse_layout h, responseFromLayoutTransaction]
  have hconfigures : (sizes.map WmCommand.configureSurface).findSome?
      (WmWorkspaceState.focusOf (τ := Transform)) = none :=
    findSome?_map_eq_none sizes fun _ => rfl
  have hrenders : (positions.map WmCommand.renderSurface).findSome?
      WmWorkspaceState.focusOf = none :=
    findSome?_map_eq_none positions fun _ => rfl
  have hassigns (workspace : WorkspaceId) : (positions.map fun placement =>
      WmCommand.assignWorkspace placement.surface workspace).findSome?
      (WmWorkspaceState.focusOf (τ := Transform)) = none :=
    findSome?_map_eq_none positions fun _ => rfl
  cases assigned <;> cases focus <;>
    simp [Function.comp_def, WmWorkspaceState.sizeRequest, WmWorkspaceState.placementOf,
      WmWorkspaceState.focusOf, List.findSome?_cons, List.filterMap_cons, hconfigures, hrenders,
      hassigns]

end Loop

section Law

variable {bounds : Rect} {visible : List LayoutNodeSnapshot}

theorem pairwise_zipIdx_map {α β : Type} {R : β → β → Prop} {xs : List α} {f : α × ℕ → β}
    (h : ∀ x y i j, i < j → j < xs.length → R (f (x, i)) (f (y, j))) :
    (xs.zipIdx.map f).Pairwise R := by
  rw [List.pairwise_iff_getElem]
  intro i j hi hj hij
  rw [List.getElem_map, List.getElem_map, List.getElem_zipIdx, List.getElem_zipIdx]
  rw [List.length_map, List.length_zipIdx] at hj
  simpa using h _ _ i j hij hj

/-- The tiles divide the bounds. -/
theorem Tileable.divide (h : Tileable bounds visible.length) :
    let placements := visible.zipIdx.map (place bounds visible.length)
    placements.map (·.surface) = visible.map (·.surface) ∧
      (∀ placement ∈ placements, placement.geometry.isEmpty = false) ∧
      placements.Pairwise (fun first second => ∀ p,
        ¬(Covers first.geometry p ∧ Covers second.geometry p)) ∧
      (visible ≠ [] → ∀ p,
        (∃ placement ∈ placements, Covers placement.geometry p) ↔ Covers bounds p) := by
  intro placements
  refine ⟨?_, fun placement hp => ?_, ?_, fun hvisible p => ?_⟩
  · have hnodes := congrArg (List.map (·.surface)) (List.zipIdx_map_fst 0 visible)
    rw [← hnodes, List.map_map, List.map_map]
    rfl
  · obtain ⟨entry, hmem, rfl⟩ := List.mem_map.mp hp
    exact h.tile_isEmpty (List.snd_lt_of_mem_zipIdx hmem)
  · exact pairwise_zipIdx_map fun _ _ i j hij hj => h.tiles_disjoint hij hj
  · rw [← h.tiles_cover (List.length_pos_iff.mpr hvisible) p]
    constructor
    · rintro ⟨placement, hp, hcovers⟩
      obtain ⟨entry, hmem, rfl⟩ := List.mem_map.mp hp
      exact ⟨entry.2, List.snd_lt_of_mem_zipIdx hmem, hcovers⟩
    · rintro ⟨i, hi, hcovers⟩
      refine ⟨_, List.mem_map.mpr ⟨(visible[i], i), ?_, rfl⟩, hcovers⟩
      exact List.mk_mem_zipIdx_iff_getElem?.mpr (List.getElem?_eq_getElem hi)

/-- The session can turn down a tiling of windows it knows for the requested sizes only. -/
theorem Tileable.validate (h : Tileable bounds visible.length)
    (hbottom : I32.Fits (bounds.y.toInt + bounds.height.toInt))
    {tiling : LayoutTransaction Transform} {layout : Session.PersistentLiveLayout}
    (hpositions : tiling.renderPositions = visible.zipIdx.map (place bounds visible.length))
    (hsizes : tiling.requestedSizes = visible.zipIdx.map (request bounds visible.length))
    (hfocus : ∀ surface, tiling.focus = some surface → ∃ node ∈ visible, node.surface = surface)
    (hknown : ∀ node ∈ visible, node.surface ∈ layout.layers) :
    Session.validateLiveWmTransaction tiling layout bounds ≠ .error .invalidPlacement ∧
      (Session.validateLiveWmTransaction tiling layout bounds = .ok () ↔
        ∀ request ∈ tiling.requestedSizes, Session.Requestable request.size) := by
  refine Session.validate_of_placed (fun placement hp => ?_) (fun request hr => ?_)
    fun surface hs => ?_
  · rw [hpositions] at hp
    obtain ⟨entry, hmem, rfl⟩ := List.mem_map.mp hp
    have hi := List.snd_lt_of_mem_zipIdx hmem
    exact ⟨hknown entry.1 (List.fst_mem_of_mem_zipIdx hmem), h.tile_isEmpty hi,
      h.tile_within hi hbottom⟩
  · rw [hsizes] at hr
    obtain ⟨entry, hmem, rfl⟩ := List.mem_map.mp hr
    exact hknown entry.1 (List.fst_mem_of_mem_zipIdx hmem)
  · obtain ⟨node, hmem, rfl⟩ := hfocus surface hs
    exact hknown node hmem

/-- The visible windows of a workspace are tiled in order, each in a part of its own of the bounds,
together in all of them; the session takes where they are put, and a plan of the response puts them
there. -/
theorem tiling_law (transaction : TransactionId) (workspace : WorkspaceId) (bounds : Rect)
    (nodes : List LayoutNodeSnapshot) (hempty : bounds.isEmpty = false)
    (hright : I32.Fits (bounds.x.toInt + bounds.width.toInt))
    (hroom : ((visibleNodes workspace nodes).length : ℤ) ≤ bounds.width.toInt) :
    ∃ tiling, tileWorkspace transaction workspace bounds nodes = .ok tiling ∧
      (tiling.renderPositions.map (·.surface) =
          (visibleNodes workspace nodes).map (·.surface) ∧
        (∀ placement ∈ tiling.renderPositions, placement.geometry.isEmpty = false) ∧
        tiling.renderPositions.Pairwise (fun first second => ∀ p,
          ¬(Covers first.geometry p ∧ Covers second.geometry p)) ∧
        (visibleNodes workspace nodes ≠ [] → ∀ p,
          (∃ placement ∈ tiling.renderPositions, Covers placement.geometry p) ↔
            Covers bounds p)) ∧
      (I32.Fits (bounds.y.toInt + bounds.height.toInt) →
        ∀ layout : Session.PersistentLiveLayout,
          (∀ node ∈ visibleNodes workspace nodes, node.surface ∈ layout.layers) →
            Session.validateLiveWmTransaction tiling layout bounds ≠ .error .invalidPlacement ∧
              (Session.validateLiveWmTransaction tiling layout bounds = .ok () ↔
                ∀ request ∈ tiling.requestedSizes, Session.Requestable request.size)) ∧
      ∀ (assigned : Option WorkspaceId) (state : WmWorkspaceState)
          (advertised : List WmSessionAction) (plan : WmPolicyPlan Transform),
        state.planResponse (responseFromLayoutTransaction tiling assigned) advertised =
          .ok plan → plan.layout = tiling := by
  have h : Tileable bounds (visibleNodes workspace nodes).length := ⟨hempty, hright, hroom⟩
  obtain ⟨focus, htiling, hfocus⟩ := tileWorkspace_eq transaction h
  refine ⟨_, htiling, h.divide, fun hbottom layout hknown => ?_, fun _ _ _ _ hplan => ?_⟩
  · exact h.validate hbottom rfl rfl hfocus hknown
  · exact planResponse_response hplan

/-- A visible window of the workspace. -/
def shownNode (surface : SurfaceId) : LayoutNodeSnapshot where
  surface := surface
  workspace := ⟨1⟩
  kind := .toplevel
  capabilities := ⟨true, true, true, true, true⟩
  state := ⟨false, false, false, false, true⟩
  constraints := ⟨none, none⟩
  geometry := ⟨0, 0, 10, 10⟩
  generation := 1

/-- Two windows on eleven columns. -/
theorem tiling_law_two :
    ∃ tiling, tileWorkspace ⟨1⟩ ⟨1⟩ ⟨0, 0, 11, 4⟩ [shownNode ⟨1, 1⟩, shownNode ⟨2, 1⟩] =
        .ok tiling ∧ tiling.renderPositions.map (·.surface) = [⟨1, 1⟩, ⟨2, 1⟩] ∧
          ∀ p, (∃ placement ∈ tiling.renderPositions, Covers placement.geometry p) ↔
            Covers ⟨0, 0, 11, 4⟩ p := by
  obtain ⟨tiling, htiling, ⟨hsurfaces, -, -, hcover⟩, -⟩ := tiling_law ⟨1⟩ ⟨1⟩ ⟨0, 0, 11, 4⟩
    [shownNode ⟨1, 1⟩, shownNode ⟨2, 1⟩] (by decide) (by decide) (by decide)
  exact ⟨tiling, htiling, hsurfaces.trans (by decide), hcover (by decide)⟩

/-- The only tile of bounds whose bottom edge is past the largest coordinate. -/
def lowTiling : LayoutTransaction Transform where
  transaction := ⟨1⟩
  requestedSizes := [⟨⟨1, 1⟩, ⟨11, 100⟩⟩]
  focus := some ⟨1, 1⟩
  renderPositions := [⟨⟨1, 1⟩, ⟨0, 2147483640, 11, 100⟩, 0, none, .identity⟩]
  timeoutMsec := 300

/-- A workspace that shows nothing covers nothing, and bounds without a bottom edge let no
placement pass. -/
theorem tiling_exceptions :
    (tileWorkspace ⟨1⟩ ⟨1⟩ ⟨0, 0, 11, 4⟩ [] = .ok (emptyTransaction ⟨1⟩) ∧
      Covers ⟨0, 0, 11, 4⟩ (0, 0)) ∧
    tileWorkspace ⟨1⟩ ⟨1⟩ ⟨0, 2147483640, 11, 100⟩ [shownNode ⟨1, 1⟩] = .ok lowTiling ∧
      ∀ layout : Session.PersistentLiveLayout,
        Session.validateLiveWmTransaction lowTiling layout ⟨0, 2147483640, 11, 100⟩ =
          .error .invalidPlacement := by
  refine ⟨⟨rfl, by decide, by decide⟩, by decide +kernel, fun layout => ?_⟩
  have hout : Session.rectIsWithin ⟨0, 2147483640, 11, 100⟩ ⟨0, 2147483640, 11, 100⟩ = false := by
    decide
  rw [Session.validateLiveWmTransaction, if_pos]
  simp [lowTiling, hout]

end Law

end Sophia.WmDemo
