import Sophia.Bridge.BridgeTables

/-! When a request that fails leaves the bridge as it was, and with it the window manager informed
of every window in the tables. -/
namespace Sophia.Bridge

open Std Protocol

/-- The bounds a request gives the root. -/
def rootOf : WmRequestKind → Option Rect
  | .manageSurface manage => some manage.bounds
  | .relayoutWorkspace relayout => some relayout.bounds
  | .surfaceRemoved _ _ | .actionActivated _ => none

/-- The nodes a request shows. -/
def nodesOf : WmRequestKind → List LayoutNodeSnapshot
  | .manageSurface manage => [manage.node]
  | .relayoutWorkspace relayout => relayout.nodes
  | .surfaceRemoved _ _ => []
  | .actionActivated activation => activation.nodes

namespace X11WmBridgeState

variable (bridge : X11WmBridgeState) (nodes : List LayoutNodeSnapshot)

/-- The surfaces of the nodes that the bridge does not know. -/
def newSurfaces : Finset SurfaceId :=
  (nodes.map (·.surface)).toFinset.filter (· ∉ bridge.surfaceToWindow)

/-- The last of the nodes of every window is the one stored already. -/
def Settled : Prop :=
  ∀ window node,
    nodes.reverse.find? (fun node => bridge.surfaceToWindow[node.surface]? = some window) =
      some node → bridge.windowToNode[window]? = some node

/-- There is room for every new surface, or for none and nothing before the first is a change. -/
def Keeps (kind : WmRequestKind) : Prop :=
  (bridge.newSurfaces (nodesOf kind)).card ≤ bridge.room ∨
    bridge.room = 0 ∧ (∀ bounds ∈ rootOf kind, bridge.rootBounds = some bounds) ∧
      bridge.Settled ((nodesOf kind).takeWhile (·.surface ∈ bridge.surfaceToWindow))

/-- The nodes of registered surfaces, one replacing the other. -/
def replaceNodes : X11WmBridgeState :=
  nodes.foldl (fun bridge node => match bridge.surfaceToWindow[node.surface]? with
    | some window => bridge.replaceNode node window
    | none => bridge) bridge

variable {bridge nodes} {node : LayoutNodeSnapshot} {window : SyntheticXWindowId}
  {events : List SyntheticXEvent}

theorem mem_of_registered (h : bridge.surfaceToWindow[node.surface]? = some window) :
    node.surface ∈ bridge.surfaceToWindow := by
  rw [ExtTreeMap.mem_iff_isSome_getElem?, h]
  rfl

theorem newSurfaces_cons_mem (h : node.surface ∈ bridge.surfaceToWindow) :
    bridge.newSurfaces (node :: nodes) = bridge.newSurfaces nodes := by
  simp [newSurfaces, Finset.filter_insert, h]

theorem newSurfaces_cons_new (h : node.surface ∉ bridge.surfaceToWindow) :
    bridge.newSurfaces (node :: nodes) =
      insert node.surface ((bridge.registerNode node).newSurfaces nodes) := by
  ext surface
  simp only [newSurfaces, List.map_cons, List.toFinset_cons, Finset.mem_filter, Finset.mem_insert,
    registerNode, ExtTreeMap.mem_insert, LawfulEqOrd.compare_eq_iff_eq]
  by_cases he : surface = node.surface
  · subst he
    simp [h]
  · simp [he, Ne.symm he]

theorem surface_notMem_newSurfaces :
    node.surface ∉ (bridge.registerNode node).newSurfaces nodes := by
  simp [newSurfaces, registerNode]

theorem size_registerNode (h : node.surface ∉ bridge.surfaceToWindow) :
    (bridge.registerNode node).surfaceToWindow.size = bridge.surfaceToWindow.size + 1 := by
  simp only [registerNode, ExtTreeMap.size_insert]
  rw [if_neg]
  simpa using h

theorem room_registerNode (h : node.surface ∉ bridge.surfaceToWindow) (hroom : 0 < bridge.room) :
    (bridge.registerNode node).room = bridge.room - 1 := by
  have hsize := size_registerNode h
  have hxid : (bridge.registerNode node).nextXid.toNat = bridge.nextXid.toNat + 1 :=
    toNat_nextXid_add_one hroom
  rw [room, room, hsize, hxid, ← Nat.sub_sub, ← Nat.sub_sub, Nat.sub_min_sub_right]

/-- A request succeeds when there is room for all its new surfaces. -/
theorem observe_ok_iff :
    (Run.tryEach observeNode nodes (bridge, events)).1 = .ok () ↔
      (bridge.newSurfaces nodes).card ≤ bridge.room := by
  induction nodes generalizing bridge events with
  | nil => simp [Run.tryEach, newSurfaces]
  | cons node nodes ih =>
    rcases observeNode_cases bridge node events with
      ⟨window, hw, he⟩ | ⟨hnew, hroom, he⟩ | ⟨hnew, hroom, he⟩
    · rw [Run.tryEach, he, newSurfaces_cons_mem (mem_of_registered hw)]
      exact ih
    · rw [Run.tryEach, he, newSurfaces_cons_new hnew,
        Finset.card_insert_of_notMem surface_notMem_newSurfaces]
      refine ih.trans ?_
      rw [room_registerNode hnew hroom]
      omega
    · rw [Run.tryEach, he, newSurfaces_cons_new hnew,
        Finset.card_insert_of_notMem surface_notMem_newSurfaces, hroom]
      simp

theorem size_le_observe :
    bridge.surfaceToWindow.size ≤
      (Run.tryEach observeNode nodes (bridge, events)).2.1.surfaceToWindow.size := by
  refine @observe_invariant (fun bridge' _ =>
    bridge.surfaceToWindow.size ≤ bridge'.surfaceToWindow.size) ?_ ?_ nodes (bridge, events) le_rfl
  · intro bridge' events node window hw hle
    exact hle
  · intro bridge' events node hnew hroom hle
    rw [size_registerNode hnew]
    exact hle.trans (Nat.le_succ _)

/-- What fails with room left has filled it first. -/
theorem size_lt_observe (hroom : 0 < bridge.room)
    (herr : (Run.tryEach observeNode nodes (bridge, events)).1 ≠ .ok ()) :
    bridge.surfaceToWindow.size <
      (Run.tryEach observeNode nodes (bridge, events)).2.1.surfaceToWindow.size := by
  induction nodes generalizing bridge events with
  | nil => exact absurd rfl herr
  | cons node nodes ih =>
    rcases observeNode_cases bridge node events with
      ⟨window, hw, he⟩ | ⟨hnew, -, he⟩ | ⟨-, hfull, -⟩
    · rw [Run.tryEach, he] at herr ⊢
      exact @ih (bridge.replaceNode node window) _ hroom herr
    · rw [Run.tryEach, he]
      refine Nat.lt_of_lt_of_le ?_ size_le_observe
      rw [size_registerNode hnew]
      exact Nat.lt_succ_self _
    · omega

/-- Without room, the nodes before the first new surface are all that is taken in. -/
theorem observe_full (hroom : bridge.room = 0) :
    (Run.tryEach observeNode nodes (bridge, events)).2.1 =
      bridge.replaceNodes (nodes.takeWhile (·.surface ∈ bridge.surfaceToWindow)) := by
  induction nodes generalizing bridge events with
  | nil => rfl
  | cons node nodes ih =>
    rcases observeNode_cases bridge node events with
      ⟨window, hw, he⟩ | ⟨-, hpos, -⟩ | ⟨hnew, -, he⟩
    · rw [Run.tryEach, he, List.takeWhile_cons_of_pos (by simpa using mem_of_registered hw)]
      refine (@ih (bridge.replaceNode node window) _ hroom).trans ?_
      simp only [replaceNodes, List.foldl_cons, hw]
      rfl
    · omega
    · rw [Run.tryEach, he, List.takeWhile_cons_of_neg (by simpa using hnew)]
      rfl

theorem replaceNodes_frame (bridge : X11WmBridgeState) (nodes : List LayoutNodeSnapshot) :
    ∃ table, bridge.replaceNodes nodes = { bridge with windowToNode := table } ∧
      ∀ window : SyntheticXWindowId, table[window]? =
        (nodes.reverse.find? fun node => bridge.surfaceToWindow[node.surface]? = some window).or
          bridge.windowToNode[window]? := by
  induction nodes using List.reverseRecOn with
  | nil => exact ⟨_, rfl, fun window => rfl⟩
  | append_singleton nodes node ih =>
    obtain ⟨table, he, htable⟩ := ih
    have hsnoc : bridge.replaceNodes (nodes ++ [node]) =
        match bridge.surfaceToWindow[node.surface]? with
        | some window => { bridge with windowToNode := table.insert window node }
        | none => { bridge with windowToNode := table } := by
      rw [replaceNodes, List.foldl_append]
      change (match (bridge.replaceNodes nodes).surfaceToWindow[node.surface]? with
        | some window => (bridge.replaceNodes nodes).replaceNode node window
        | none => bridge.replaceNodes nodes) = _
      rw [he]
      rfl
    rw [hsnoc]
    rcases hw : bridge.surfaceToWindow[node.surface]? with _ | window
    · refine ⟨table, rfl, fun window => ?_⟩
      rw [htable, List.reverse_append, List.reverse_singleton, List.singleton_append,
        List.find?_cons_of_neg (by simp [hw])]
    · refine ⟨table.insert window node, rfl, fun w => ?_⟩
      rw [ExtTreeMap.getElem?_insert, List.reverse_append, List.reverse_singleton,
        List.singleton_append]
      by_cases hne : window = w
      · subst hne
        rw [if_pos (by simp), List.find?_cons_of_pos (by simp [hw])]
        rfl
      · rw [if_neg (by simpa using hne), htable, List.find?_cons_of_neg (by simpa [hw] using hne)]

theorem replaceNodes_eq_iff : bridge.replaceNodes nodes = bridge ↔ bridge.Settled nodes := by
  obtain ⟨table, he, htable⟩ := replaceNodes_frame bridge nodes
  rw [he]
  constructor
  · intro heq window node hnode
    have htab : table = bridge.windowToNode := congrArg windowToNode heq
    rw [← htab, htable, hnode]
    rfl
  · intro hsettled
    have htab : table = bridge.windowToNode := by
      refine ExtTreeMap.ext_getElem? fun window => ?_
      rw [htable]
      cases hnode : nodes.reverse.find? fun node =>
          bridge.surfaceToWindow[node.surface]? = some window with
      | none => exact Option.none_or
      | some node => exact (hsettled window node hnode).symm
    rw [htab]

theorem observe_rootBounds (nodes : List LayoutNodeSnapshot)
    (progress : X11WmBridgeState × List SyntheticXEvent) :
    (Run.tryEach observeNode nodes progress).2.1.rootBounds = progress.1.rootBounds := by
  refine @observe_invariant (fun bridge' _ => bridge'.rootBounds = progress.1.rootBounds) ?_ ?_
    nodes progress rfl
  · intro bridge' events node window hw hroot
    exact hroot
  · intro bridge' events node hnew hroom hroot
    exact hroot

/-- A loop that fails leaves the bridge as it was only if it never changes it. -/
theorem observe_eq_iff (herr : (Run.tryEach observeNode nodes (bridge, events)).1 ≠ .ok ()) :
    (Run.tryEach observeNode nodes (bridge, events)).2.1 = bridge ↔
      bridge.room = 0 ∧ bridge.Settled (nodes.takeWhile (·.surface ∈ bridge.surfaceToWindow)) := by
  rcases Nat.eq_zero_or_pos bridge.room with hroom | hroom
  · rw [observe_full hroom, replaceNodes_eq_iff]
    exact ⟨fun h => ⟨hroom, h⟩, fun h => h.2⟩
  · refine iff_of_false ?_ (fun h => by omega)
    intro he
    have hlt := size_lt_observe hroom herr
    rw [he] at hlt
    exact lt_irrefl _ hlt

theorem room_updateRoot (bounds : Rect) : (bridge.updateRoot bounds).1.room = bridge.room := by
  rw [updateRoot]
  split
  · rfl
  · rfl

theorem surfaceToWindow_updateRoot (bounds : Rect) :
    (bridge.updateRoot bounds).1.surfaceToWindow = bridge.surfaceToWindow := by
  rw [updateRoot]
  split
  · rfl
  · rfl

theorem newSurfaces_updateRoot (bounds : Rect) :
    (bridge.updateRoot bounds).1.newSurfaces nodes = bridge.newSurfaces nodes := by
  simp only [newSurfaces, surfaceToWindow_updateRoot]

theorem rootBounds_updateRoot (bounds : Rect) :
    (bridge.updateRoot bounds).1.rootBounds = some bounds := by
  rw [updateRoot]
  split
  · assumption
  · rfl

theorem updateRoot_of_eq {bounds : Rect} (h : bridge.rootBounds = some bounds) :
    bridge.updateRoot bounds = (bridge, []) := by
  rw [updateRoot, if_pos h]

/-- A request that fails changes nothing. -/
def Atomic (bridge : X11WmBridgeState) (request : WmRequestPacket) : Prop :=
  ∀ error, (bridge.applyEngineRequest request).1 = .error error →
    (bridge.applyEngineRequest request).2 = bridge

theorem observeNodes_atomic_iff (transaction : TransactionId)
    (progress : X11WmBridgeState × List SyntheticXEvent) (final : X11WmBridgeState) :
    (∀ error, (observeNodes transaction nodes progress).1 = .error error →
      (observeNodes transaction nodes progress).2 = final) ↔
    (progress.1.newSurfaces nodes).card ≤ progress.1.room ∨
      (Run.tryEach observeNode nodes progress).2.1 = final := by
  rw [← @observe_ok_iff progress.1 nodes progress.2]
  rcases hr : Run.tryEach observeNode nodes progress with ⟨_ | _, bridge', events'⟩
  · simp [observeNodes, hr, Except.map]
  · simp [observeNodes, hr, Except.map]

/-- A request with a root and one without differ in what they change before the nodes. -/
theorem atomic_iff (request : WmRequestPacket) :
    bridge.Atomic request ↔ bridge.Keeps request.kind := by
  have hbounds (bounds : Rect) (nodes : List LayoutNodeSnapshot) :
      (∀ error, (observeNodes request.transaction nodes (bridge.updateRoot bounds)).1 =
          .error error →
        (observeNodes request.transaction nodes (bridge.updateRoot bounds)).2 = bridge) ↔
      (bridge.newSurfaces nodes).card ≤ bridge.room ∨
        bridge.room = 0 ∧ bridge.rootBounds = some bounds ∧
          bridge.Settled (nodes.takeWhile (·.surface ∈ bridge.surfaceToWindow)) := by
    refine (observeNodes_atomic_iff _ (bridge.updateRoot bounds) _).trans ?_
    rw [newSurfaces_updateRoot, room_updateRoot]
    refine or_congr_right' fun hfew => ?_
    by_cases hroot : bridge.rootBounds = some bounds
    · rw [updateRoot_of_eq hroot, observe_eq_iff (mt observe_ok_iff.mp hfew)]
      simp [hroot]
    · refine iff_of_false (fun he => hroot ?_) (fun h => hroot h.2.1)
      have hend := observe_rootBounds nodes (bridge.updateRoot bounds)
      rw [rootBounds_updateRoot] at hend
      exact (congrArg rootBounds he).symm.trans hend
  rcases request with ⟨transaction, manage | relayout | ⟨surface, workspace⟩ | activation⟩
  · simpa [Atomic, Keeps, rootOf, nodesOf, applyEngineRequest] using
      hbounds manage.bounds [manage.node]
  · simpa [Atomic, Keeps, rootOf, nodesOf, applyEngineRequest] using
      hbounds relayout.bounds relayout.nodes
  · simp [Atomic, Keeps, nodesOf, applyEngineRequest, newSurfaces]
  · refine (observeNodes_atomic_iff transaction (bridge, []) bridge).trans ?_
    refine or_congr_right' fun hfew => ?_
    rw [observe_eq_iff (mt observe_ok_iff.mp hfew)]
    simp [rootOf, nodesOf]

end X11WmBridgeState

namespace BridgeLog

/-- The two tables correspond, no window of theirs is the root, every event is in its place, and
the window manager knows of every window in the tables. -/
structure Lawful (log : BridgeLog) : Prop where
  correspond : ∀ surface (window : SyntheticXWindowId),
    log.bridge.surfaceToWindow[surface]? = some window ↔
      ∃ node : LayoutNodeSnapshot, log.bridge.windowToNode[window]? = some node ∧
        node.surface = surface
  not_root : ∀ window ∈ log.bridge.windowToNode, window.raw ≠ syntheticRootXid
  announced : Run.Each SyntheticXEvent.Announces log.told
  told_of_mem : ∀ window ∈ log.bridge.windowToNode,
    .mapRequest window ∈ log.told ∧ .destroyNotify window ∉ log.told

/-- A request that fails changes nothing. -/
def Atomic (log : BridgeLog) (request : WmRequestPacket) : Prop := log.bridge.Atomic request

def Keeps (log : BridgeLog) (request : WmRequestPacket) : Prop := log.bridge.Keeps request.kind

variable {log : BridgeLog}

theorem Consistent.lawful (h : Consistent log) : log.Lawful := by
  refine ⟨?_, ?_, h.announced, fun window hw => (h.told_iff window).mp hw⟩
  · intro surface window
    refine ⟨h.node_of_window surface window, ?_⟩
    rintro ⟨node, hnode, rfl⟩
    exact h.window_of_node window node hnode
  · intro window hw he
    have hfirst := (h.minted _ ((h.told_iff window).mp hw).1 window rfl).1
    rw [he] at hfirst
    exact absurd hfirst (by decide)

theorem Consistent.step (h : Consistent log) (request : WmRequestPacket)
    (ha : log.Atomic request) : Consistent (log.step request) := by
  have hsteps (nodes : List LayoutNodeSnapshot)
      (progress : X11WmBridgeState × List SyntheticXEvent)
      (hp : Consistent ⟨progress.1, log.told ++ progress.2⟩)
      (happly : log.bridge.applyEngineRequest request =
        X11WmBridgeState.observeNodes request.transaction nodes progress) :
      Consistent (log.step request) := by
    have hend := hp.observeNodes nodes
    rw [BridgeLog.Atomic, X11WmBridgeState.Atomic, happly] at ha
    rw [BridgeLog.step, happly]
    rcases hr : Run.tryEach X11WmBridgeState.observeNode nodes progress with
      ⟨error | _, bridge', events'⟩
    · simp only [X11WmBridgeState.observeNodes, hr, Except.map] at ha ⊢
      rw [ha error rfl]
      exact h
    · simp only [X11WmBridgeState.observeNodes, hr, Except.map]
      rw [hr] at hend
      exact hend
  rcases log with ⟨bridge, told⟩
  rcases request with ⟨transaction, manage | relayout | ⟨surface, workspace⟩ | activation⟩
  · exact hsteps [manage.node] _ (h.updateRoot manage.bounds) rfl
  · exact hsteps relayout.nodes _ (h.updateRoot relayout.bounds) rfl
  · exact h.removeSurface surface
  · exact hsteps activation.nodes (bridge, []) (by simpa using h) rfl

/-- Along every sequence of requests the tables are lawful and failures change nothing, if and only
if every request has room for its new surfaces or none to fill and nothing else to change. -/
theorem lawful_atomic_iff (requests : List WmRequestPacket) :
    (Run.Throughout step (fun _ => Lawful) start requests ∧
      Run.Guarded step Atomic start requests) ↔ Run.Guarded step Keeps start requests := by
  have hiff : Run.Guarded step Keeps start requests ↔ Run.Guarded step Atomic start requests :=
    Run.guarded_congr consistent_start (fun _ request h ha => h.step request ha)
      fun _ request _ => (X11WmBridgeState.atomic_iff request).symm
  rw [hiff, and_iff_right_iff_imp]
  rintro hatomic before after rfl
  exact (Run.invariant consistent_start (fun _ request ha h => h.step request ha)
    hatomic.left).lawful

section Overfull

def exampleBounds : Rect := ⟨0, 0, 1280, 720⟩

def exampleNode (index : ℕ) : LayoutNodeSnapshot where
  surface := ⟨UInt32.ofNat index, 1⟩
  workspace := ⟨1⟩
  kind := .toplevel
  capabilities := ⟨true, true, true, true, true⟩
  state := ⟨false, false, false, false, true⟩
  constraints := ⟨none, none⟩
  geometry := exampleBounds
  generation := 1

def exampleManage (index : ℕ) : WmRequestPacket :=
  ⟨.fromRaw 1, .manageSurface ⟨exampleNode index, ⟨1⟩, ⟨1⟩, exampleBounds⟩⟩

/-- Every surface but one that the table has room for, and then two more at once. -/
def overfull : List WmRequestPacket :=
  (List.range 4095).map exampleManage ++
    [⟨.fromRaw 1,
      .relayoutWorkspace ⟨⟨1⟩, ⟨1⟩, exampleBounds, [exampleNode 4095, exampleNode 4096]⟩⟩]

theorem exampleNode_injective {i j : ℕ} (hi : i ≤ maxSyntheticWindows)
    (hj : j ≤ maxSyntheticWindows) (h : (exampleNode i).surface = (exampleNode j).surface) :
    i = j := by
  have hindex : (UInt32.ofNat i).toNat = (UInt32.ofNat j).toNat :=
    congrArg UInt32.toNat (congrArg SurfaceId.index h)
  rw [maxSyntheticWindows] at hi hj
  rw [UInt32.toNat_ofNat', UInt32.toNat_ofNat'] at hindex
  omega

theorem step_manage {index : ℕ} (hnew : (exampleNode index).surface ∉ log.bridge.surfaceToWindow)
    (hroom : 0 < log.bridge.room) :
    (log.step (exampleManage index)).bridge =
      (log.bridge.updateRoot exampleBounds).1.registerNode (exampleNode index) := by
  have htable : (log.bridge.updateRoot exampleBounds).1.surfaceToWindow =
      log.bridge.surfaceToWindow := X11WmBridgeState.surfaceToWindow_updateRoot exampleBounds
  have happly : log.bridge.applyEngineRequest (exampleManage index) =
      X11WmBridgeState.observeNodes (exampleManage index).transaction [exampleNode index]
        (log.bridge.updateRoot exampleBounds) := rfl
  rcases X11WmBridgeState.observeNode_cases (log.bridge.updateRoot exampleBounds).1
    (exampleNode index) (log.bridge.updateRoot exampleBounds).2 with
    ⟨window, hw, -⟩ | ⟨-, -, he⟩ | ⟨-, hfull, -⟩
  · rw [htable] at hw
    exact absurd (X11WmBridgeState.mem_of_registered hw) hnew
  · rw [step, happly]
    simp only [X11WmBridgeState.observeNodes, Run.tryEach, he]
    rfl
  · rw [X11WmBridgeState.room_updateRoot] at hfull
    omega

/-- Managing surfaces one by one registers them one by one. -/
theorem managed {count : ℕ} (h : count ≤ maxSyntheticWindows) :
    (Run.exec step start ((List.range count).map exampleManage)).bridge.room =
        maxSyntheticWindows - count ∧
      ∀ i ≤ maxSyntheticWindows, (exampleNode i).surface ∈
        (Run.exec step start ((List.range count).map exampleManage)).bridge.surfaceToWindow ↔
          i < count := by
  induction count with
  | zero =>
    refine ⟨by decide, fun i _ => ?_⟩
    simp [start, X11WmBridgeState.new]
  | succ count ih =>
    obtain ⟨hroom, hmem⟩ := ih (by omega)
    rw [List.range_succ, List.map_append, List.map_singleton, Run.exec_snoc]
    generalize Run.exec step start ((List.range count).map exampleManage) = log at hroom hmem ⊢
    have hnew : (exampleNode count).surface ∉ log.bridge.surfaceToWindow := fun hm =>
      lt_irrefl count ((hmem count (by omega)).mp hm)
    have hpos : 0 < log.bridge.room := by omega
    have htable : (log.bridge.updateRoot exampleBounds).1.surfaceToWindow =
        log.bridge.surfaceToWindow := X11WmBridgeState.surfaceToWindow_updateRoot exampleBounds
    rw [step_manage hnew hpos]
    refine ⟨?_, fun i hi => ?_⟩
    · rw [X11WmBridgeState.room_registerNode, X11WmBridgeState.room_updateRoot]
      · omega
      · rwa [htable]
      · rwa [X11WmBridgeState.room_updateRoot]
    · simp only [X11WmBridgeState.registerNode, ExtTreeMap.mem_insert,
        LawfulEqOrd.compare_eq_iff_eq, htable, hmem i hi]
      constructor
      · rintro (he | hlt)
        · rw [exampleNode_injective (by omega) hi he]
          exact Nat.lt_succ_self i
        · omega
      · intro hlt
        rcases Nat.lt_succ_iff_lt_or_eq.mp hlt with hlt | rfl
        · exact Or.inr hlt
        · exact Or.inl rfl

/-- The first of the two windows stays in the tables, and nobody is told of it. -/
theorem overfull_not_lawful :
    ¬ (Run.Throughout step (fun _ => Lawful) start overfull ∧
      Run.Guarded step Atomic start overfull) := by
  rintro ⟨-, hatomic⟩
  obtain ⟨hroom, hmem⟩ := @managed 4095 (by decide)
  have hkeeps := (X11WmBridgeState.atomic_iff _).mp hatomic.last
  generalize Run.exec step start ((List.range 4095).map exampleManage) = log at hroom hmem hkeeps
  have hfirst : (exampleNode 4095).surface ∉ log.bridge.surfaceToWindow := fun hm =>
    lt_irrefl _ ((hmem 4095 (by decide)).mp hm)
  have hsecond : (exampleNode 4096).surface ∉ log.bridge.surfaceToWindow := fun hm =>
    absurd ((hmem 4096 (by decide)).mp hm) (by decide)
  have hne : (exampleNode 4095).surface ≠ (exampleNode 4096).surface := by decide
  have hcard : (log.bridge.newSurfaces [exampleNode 4095, exampleNode 4096]).card = 2 := by
    rw [X11WmBridgeState.newSurfaces]
    simp [Finset.filter_insert, Finset.filter_singleton, hfirst, hsecond, hne]
  rcases hkeeps with hfew | ⟨hfull, -⟩
  · change (log.bridge.newSurfaces [exampleNode 4095, exampleNode 4096]).card ≤ _ at hfew
    rw [hcard, hroom] at hfew
    exact absurd hfew (by decide)
  · rw [hroom] at hfull
    exact absurd hfull (by decide)

end Overfull

end BridgeLog
end Sophia.Bridge
