import Sophia.Bridge.WmBridge
import Sophia.Lib.History
import Mathlib.Data.Finset.Card

/-! What the tables of the bridge hold along a sequence of requests, against what the window
manager has been told. -/
namespace Sophia.Bridge

open Std Protocol

namespace SyntheticXEvent

/-- The event is about the window. -/
def Names (event : SyntheticXEvent) (window : SyntheticXWindowId) : Prop :=
  match event with
  | .rootConfigured _ => False
  | .mapRequest w | .configureNotify w _ | .unmapNotify w | .destroyNotify w => w = window

/-- A map request comes before everything about its window, a destruction after everything. -/
def Announces (told : List SyntheticXEvent) (event : SyntheticXEvent) : Prop :=
  ∀ window, event.Names window →
    if event = .mapRequest window then ∀ earlier ∈ told, ¬ earlier.Names window
    else .mapRequest window ∈ told ∧ .destroyNotify window ∉ told

end SyntheticXEvent

namespace X11WmBridgeState

variable (bridge : X11WmBridgeState) (node : LayoutNodeSnapshot)

/-- A node of a registered surface replaces the one before it. -/
def replaceNode (window : SyntheticXWindowId) : X11WmBridgeState :=
  { bridge with windowToNode := bridge.windowToNode.insert window node }

/-- A node of a new surface gets the next id. -/
def registerNode : X11WmBridgeState :=
  { bridge with
    nextXid := bridge.nextXid + 1
    surfaceToWindow := bridge.surfaceToWindow.insert node.surface ⟨bridge.nextXid⟩
    windowToNode := bridge.windowToNode.insert ⟨bridge.nextXid⟩ node }

/-- How many more surfaces the bridge can take in. -/
def room : ℕ :=
  min (maxSyntheticWindows - bridge.surfaceToWindow.size)
    (UInt32.size - 1 - bridge.nextXid.toNat)

variable {bridge node} {window : SyntheticXWindowId}

theorem toNat_nextXid_add_one (h : 0 < bridge.room) :
    (bridge.nextXid + 1).toNat = bridge.nextXid.toNat + 1 := by
  have hsize : UInt32.size = 2 ^ 32 := rfl
  rw [room] at h
  rw [UInt32.toNat_add, UInt32.toNat_one]
  omega

theorem getElem?_replaceNode (w : SyntheticXWindowId) :
    (bridge.replaceNode node window).windowToNode[w]? =
      if window = w then some node else bridge.windowToNode[w]? := by
  simp [replaceNode, ExtTreeMap.getElem?_insert]

theorem getElem?_registerNode (w : SyntheticXWindowId) :
    (bridge.registerNode node).windowToNode[w]? =
      if ⟨bridge.nextXid⟩ = w then some node else bridge.windowToNode[w]? := by
  simp [registerNode, ExtTreeMap.getElem?_insert]

theorem getElem?_registerNode_surface (surface : SurfaceId) :
    (bridge.registerNode node).surfaceToWindow[surface]? =
      if node.surface = surface then some ⟨bridge.nextXid⟩
      else bridge.surfaceToWindow[surface]? := by
  simp [registerNode, ExtTreeMap.getElem?_insert]

/-- What one node of a request does. -/
theorem observeNode_cases (bridge : X11WmBridgeState) (node : LayoutNodeSnapshot)
    (events : List SyntheticXEvent) :
    (∃ window, bridge.surfaceToWindow[node.surface]? = some window ∧
      observeNode (bridge, events) node =
        .ok (bridge.replaceNode node window, events ++ [.configureNotify window node.geometry])) ∨
    (node.surface ∉ bridge.surfaceToWindow ∧ 0 < bridge.room ∧
      observeNode (bridge, events) node =
        .ok (bridge.registerNode node, events ++ [.mapRequest ⟨bridge.nextXid⟩])) ∨
    (node.surface ∉ bridge.surfaceToWindow ∧ bridge.room = 0 ∧
      observeNode (bridge, events) node = .error .syntheticWindowLimit) := by
  have hxid := bridge.nextXid.toNat_lt
  rcases hw : bridge.surfaceToWindow[node.surface]? with _ | window
  · have hnew : node.surface ∉ bridge.surfaceToWindow :=
      fun hm => by simp [ExtTreeMap.mem_iff_isSome_getElem?, hw] at hm
    by_cases hfull : maxSyntheticWindows ≤ bridge.surfaceToWindow.size
    · refine Or.inr (Or.inr ⟨hnew, ?_, by simp [observeNode, upsertNode, hw, hfull, Except.map]⟩)
      rw [room]
      omega
    · by_cases hmint : bridge.nextXid.toNat + 1 < UInt32.size
      · refine Or.inr (Or.inl ⟨hnew, ?_, ?_⟩)
        · rw [room]
          omega
        · simp [observeNode, upsertNode, hw, hfull, hmint, Except.map, registerNode]
      · refine Or.inr (Or.inr ⟨hnew, ?_, ?_⟩)
        · rw [room]
          omega
        · simp [observeNode, upsertNode, hw, hfull, hmint, Except.map]
  · exact Or.inl ⟨window, rfl, by simp [observeNode, upsertNode, hw, Except.map, replaceNode]⟩

/-- What replacing and registering a node preserve is preserved by taking nodes in, also up to one
that fails. -/
theorem observe_invariant {P : X11WmBridgeState → List SyntheticXEvent → Prop}
    (hreplace : ∀ (bridge : X11WmBridgeState) events (node : LayoutNodeSnapshot) window,
      bridge.surfaceToWindow[node.surface]? = some window → P bridge events →
        P (bridge.replaceNode node window) (events ++ [.configureNotify window node.geometry]))
    (hregister : ∀ (bridge : X11WmBridgeState) events (node : LayoutNodeSnapshot),
      node.surface ∉ bridge.surfaceToWindow → 0 < bridge.room → P bridge events →
        P (bridge.registerNode node) (events ++ [.mapRequest ⟨bridge.nextXid⟩]))
    (nodes : List LayoutNodeSnapshot) {progress : X11WmBridgeState × List SyntheticXEvent}
    (h : P progress.1 progress.2) :
    P (Run.tryEach observeNode nodes progress).2.1
      (Run.tryEach observeNode nodes progress).2.2 := by
  refine Run.tryEach_invariant observeNode (fun progress => P progress.1 progress.2) ?_ nodes h
  rintro ⟨bridge, events⟩ node progress hp h
  rcases observeNode_cases bridge node events with
    ⟨window, hw, he⟩ | ⟨hnew, hroom, he⟩ | ⟨-, -, he⟩
  · rw [he] at hp
    cases hp
    exact hreplace bridge events node window hw h
  · rw [he] at hp
    cases hp
    exact hregister bridge events node hnew hroom h
  · rw [he] at hp
    cases hp

/-- Taking nodes in loses no window, and every window announced is in the tables. -/
theorem observeNodes_windows (bridge : X11WmBridgeState) (nodes : List LayoutNodeSnapshot)
    {events : List SyntheticXEvent} (hevents : ∀ w, .mapRequest w ∉ events) :
    (∀ w ∈ bridge.windowToNode,
      w ∈ (Run.tryEach observeNode nodes (bridge, events)).2.1.windowToNode) ∧
    ∀ w, .mapRequest w ∈ (Run.tryEach observeNode nodes (bridge, events)).2.2 →
      w ∈ (Run.tryEach observeNode nodes (bridge, events)).2.1.windowToNode := by
  refine @observe_invariant (fun bridge' events' =>
    (∀ w ∈ bridge.windowToNode, w ∈ bridge'.windowToNode) ∧
      ∀ w, .mapRequest w ∈ events' → w ∈ bridge'.windowToNode) ?_ ?_ nodes (bridge, events)
    ⟨fun w hw => hw, fun w hw => absurd hw (hevents w)⟩
  · rintro bridge' events' node window - ⟨hkept, hmapped⟩
    refine ⟨fun w hw => ExtTreeMap.mem_insert.mpr (Or.inr (hkept w hw)), fun w hw => ?_⟩
    rcases List.mem_append.mp hw with hw | hw
    · exact ExtTreeMap.mem_insert.mpr (Or.inr (hmapped w hw))
    · cases List.mem_singleton.mp hw
  · rintro bridge' events' node - - ⟨hkept, hmapped⟩
    refine ⟨fun w hw => ExtTreeMap.mem_insert.mpr (Or.inr (hkept w hw)), fun w hw => ?_⟩
    rcases List.mem_append.mp hw with hw | hw
    · exact ExtTreeMap.mem_insert.mpr (Or.inr (hmapped w hw))
    · cases List.mem_singleton.mp hw
      exact ExtTreeMap.mem_insert_self

/-- A request that succeeds loses no window and announces those it adds, or it removes one. -/
theorem applyEngineRequest_cases {request : WmRequestPacket} {update : BridgeEngineUpdate}
    {bridge' : X11WmBridgeState} (h : bridge.applyEngineRequest request = (.ok update, bridge')) :
    ((∀ w ∈ bridge.windowToNode, w ∈ bridge'.windowToNode) ∧
      ∀ w, .mapRequest w ∈ update.events → w ∈ bridge'.windowToNode) ∨
    ∃ surface workspace window, request.kind = .surfaceRemoved surface workspace ∧
      bridge.surfaceToWindow[surface]? = some window ∧
      bridge'.windowToNode = bridge.windowToNode.erase window ∧
      update.events = [.destroyNotify window] := by
  have hsteps (nodes : List LayoutNodeSnapshot)
      (progress : X11WmBridgeState × List SyntheticXEvent)
      (htable : progress.1.windowToNode = bridge.windowToNode)
      (hevents : ∀ w, .mapRequest w ∉ progress.2)
      (happly : observeNodes request.transaction nodes progress = (.ok update, bridge')) :
      (∀ w ∈ bridge.windowToNode, w ∈ bridge'.windowToNode) ∧
        ∀ w, .mapRequest w ∈ update.events → w ∈ bridge'.windowToNode := by
    obtain ⟨hkept, hmapped⟩ := observeNodes_windows progress.1 nodes hevents
    rcases hr : Run.tryEach observeNode nodes progress with ⟨error | _, final, events'⟩
    · simp [observeNodes, hr, Except.map] at happly
    · simp only [observeNodes, hr, Except.map, Prod.mk.injEq, Except.ok.injEq] at happly
      obtain ⟨rfl, rfl⟩ := happly
      rw [hr] at hkept hmapped
      rw [htable] at hkept
      exact ⟨hkept, hmapped⟩
  have hroot (bounds : Rect) (w : SyntheticXWindowId) :
      .mapRequest w ∉ (bridge.updateRoot bounds).2 := by
    rw [updateRoot]
    split
    · simp
    · simp
  have htable (bounds : Rect) :
      (bridge.updateRoot bounds).1.windowToNode = bridge.windowToNode := by
    rw [updateRoot]
    split
    · rfl
    · rfl
  rcases request with ⟨transaction, manage | relayout | ⟨surface, workspace⟩ | activation⟩
  · exact Or.inl (hsteps [manage.node] _ (htable _) (hroot manage.bounds) h)
  · exact Or.inl (hsteps relayout.nodes _ (htable _) (hroot relayout.bounds) h)
  · rcases hw : bridge.surfaceToWindow[surface]? with _ | window
    · simp only [applyEngineRequest, removeSurface, hw] at h
      cases h
      exact Or.inl ⟨fun w hw => hw, fun w hw => nomatch hw⟩
    · simp only [applyEngineRequest, removeSurface, hw] at h
      cases h
      exact Or.inr ⟨surface, workspace, window, rfl, hw, rfl, rfl⟩
  · exact Or.inl (hsteps activation.nodes (bridge, []) rfl (by simp) h)

/-- A request fails for want of room only. -/
theorem applyEngineRequest_error {request : WmRequestPacket} {error : X11WmBridgeError}
    (h : (bridge.applyEngineRequest request).1 = .error error) : error = .syntheticWindowLimit := by
  have hsteps (nodes : List LayoutNodeSnapshot)
      (progress : X11WmBridgeState × List SyntheticXEvent)
      (happly : (observeNodes request.transaction nodes progress).1 = .error error) :
      error = .syntheticWindowLimit := by
    have hloop : (Run.tryEach observeNode nodes progress).1 = .error error := by
      rcases hr : Run.tryEach observeNode nodes progress with ⟨error' | _, final⟩
      · simpa [observeNodes, hr, Except.map] using happly
      · simp [observeNodes, hr, Except.map] at happly
    obtain ⟨⟨bridge', events⟩, node, -, he⟩ := Run.tryEach_error hloop
    rcases observeNode_cases bridge' node events with ⟨_, -, hok⟩ | ⟨-, -, hok⟩ | ⟨-, -, hfull⟩
    · rw [hok] at he
      cases he
    · rw [hok] at he
      cases he
    · rw [hfull] at he
      cases he
      rfl
  rcases request with ⟨transaction, manage | relayout | ⟨surface, workspace⟩ | activation⟩
  · exact hsteps _ _ h
  · exact hsteps _ _ h
  · cases h
  · exact hsteps _ _ h

end X11WmBridgeState

/-- The bridge and the events of all the requests it has taken in. -/
structure BridgeLog where
  bridge : X11WmBridgeState
  told : List SyntheticXEvent

namespace BridgeLog

def start : BridgeLog := ⟨.new, []⟩

/-- The events of a request that fails are dropped. -/
def step (log : BridgeLog) (request : WmRequestPacket) : BridgeLog :=
  match log.bridge.applyEngineRequest request with
  | (.ok update, bridge) => ⟨bridge, log.told ++ update.events⟩
  | (.error _, bridge) => ⟨bridge, log.told⟩

/-- The two tables are inverse to each other, every id in use was minted, and the windows in them
are the ones the window manager was told of and not told to forget. -/
structure Consistent (log : BridgeLog) : Prop where
  node_of_window : ∀ surface (window : SyntheticXWindowId),
    log.bridge.surfaceToWindow[surface]? = some window →
      ∃ node : LayoutNodeSnapshot, log.bridge.windowToNode[window]? = some node ∧
        node.surface = surface
  window_of_node : ∀ (window : SyntheticXWindowId) (node : LayoutNodeSnapshot),
    log.bridge.windowToNode[window]? = some node →
      log.bridge.surfaceToWindow[node.surface]? = some window
  first_le : firstSyntheticWindowXid ≤ log.bridge.nextXid
  minted : ∀ event ∈ log.told, ∀ window, event.Names window →
    firstSyntheticWindowXid ≤ window.raw ∧ window.raw < log.bridge.nextXid
  announced : Run.Each SyntheticXEvent.Announces log.told
  told_iff : ∀ window : SyntheticXWindowId, window ∈ log.bridge.windowToNode ↔
    .mapRequest window ∈ log.told ∧ .destroyNotify window ∉ log.told

theorem consistent_start : Consistent start := by
  constructor
  · intro surface window h
    simp [start, X11WmBridgeState.new] at h
  · intro window node h
    simp [start, X11WmBridgeState.new] at h
  · exact le_refl _
  · intro event he
    cases he
  · intro before event after he
    simp [start] at he
  · intro window
    simp [start, X11WmBridgeState.new]

variable {bridge bridge' : X11WmBridgeState} {told : List SyntheticXEvent}
  {node : LayoutNodeSnapshot} {window : SyntheticXWindowId}

theorem Consistent.window_injective (h : Consistent ⟨bridge, told⟩) {surface other : SurfaceId}
    (hs : bridge.surfaceToWindow[surface]? = some window)
    (ho : bridge.surfaceToWindow[other]? = some window) : surface = other := by
  obtain ⟨node, hnode, rfl⟩ := h.node_of_window surface window hs
  obtain ⟨node', hnode', rfl⟩ := h.node_of_window other window ho
  rw [hnode] at hnode'
  cases hnode'
  rfl

/-- Nothing was ever said of an id that is still to be minted. -/
theorem Consistent.fresh (h : Consistent ⟨bridge, told⟩) :
    ∀ event ∈ told, ¬ event.Names ⟨bridge.nextXid⟩ := by
  intro event he hn
  exact UInt32.lt_irrefl _ (h.minted event he _ hn).2

/-- Outside the tables, the update of a root or a map changes nothing here. -/
theorem Consistent.updateRoot (h : Consistent ⟨bridge, told⟩) (bounds : Rect) :
    Consistent ⟨(bridge.updateRoot bounds).1, told ++ (bridge.updateRoot bounds).2⟩ := by
  unfold X11WmBridgeState.updateRoot
  split
  · simpa using h
  · refine ⟨h.node_of_window, h.window_of_node, h.first_le, ?_, ?_, ?_⟩
    · intro event he window hn
      rcases List.mem_append.mp he with he | he
      · exact h.minted event he window hn
      · rw [List.mem_singleton.mp he] at hn
        exact hn.elim
    · exact Run.each_snoc.mpr ⟨h.announced, fun window hn => hn.elim⟩
    · intro window
      refine (h.told_iff window).trans ?_
      simp

/-- Of a window in the tables anything but its announcement may be told. -/
theorem Consistent.tell_known (h : Consistent ⟨bridge, told⟩)
    (hmem : window ∈ bridge.windowToNode) {event : SyntheticXEvent}
    (hnames : ∀ w, event.Names w → window = w) (hlater : ∀ w, event ≠ .mapRequest w) :
    (∀ e ∈ told ++ [event], ∀ w, e.Names w →
      firstSyntheticWindowXid ≤ w.raw ∧ w.raw < bridge.nextXid) ∧
    Run.Each SyntheticXEvent.Announces (told ++ [event]) := by
  have hmap := (h.told_iff window).mp hmem
  constructor
  · intro e he w hn
    rcases List.mem_append.mp he with he | he
    · exact h.minted e he w hn
    · rw [List.mem_singleton.mp he] at hn
      obtain rfl := hnames w hn
      exact h.minted _ hmap.1 window rfl
  · refine Run.each_snoc.mpr ⟨h.announced, fun w hn => ?_⟩
    obtain rfl := hnames w hn
    rw [if_neg (hlater window)]
    exact hmap

theorem Consistent.replaceNode (h : Consistent ⟨bridge, told⟩)
    (hw : bridge.surfaceToWindow[node.surface]? = some window) :
    Consistent ⟨bridge.replaceNode node window,
      told ++ [.configureNotify window node.geometry]⟩ := by
  obtain ⟨old, hold, hsurface⟩ := h.node_of_window _ _ hw
  have hmem : window ∈ bridge.windowToNode := by
    rw [ExtTreeMap.mem_iff_isSome_getElem?, hold]
    rfl
  obtain ⟨hminted, hannounced⟩ :=
    @Consistent.tell_known _ _ window h hmem (.configureNotify window node.geometry)
      (fun _ hn => hn) (by simp)
  constructor
  · intro surface w hs
    obtain ⟨node', hnode', hsurface'⟩ := h.node_of_window surface w hs
    rcases eq_or_ne window w with rfl | hne
    · refine ⟨node, ?_, h.window_injective hw hs⟩
      rw [X11WmBridgeState.getElem?_replaceNode, if_pos rfl]
    · refine ⟨node', ?_, hsurface'⟩
      rw [X11WmBridgeState.getElem?_replaceNode, if_neg hne]
      exact hnode'
  · intro w node' hnode'
    rw [X11WmBridgeState.getElem?_replaceNode] at hnode'
    split at hnode'
    · rename_i he
      cases hnode'
      rw [← he]
      exact hw
    · exact h.window_of_node w node' hnode'
  · exact h.first_le
  · exact hminted
  · exact hannounced
  · intro w
    have htold : .mapRequest w ∈ told ++ [.configureNotify window node.geometry] ∧
        .destroyNotify w ∉ told ++ [.configureNotify window node.geometry] ↔
          .mapRequest w ∈ told ∧ .destroyNotify w ∉ told := by simp
    refine Iff.trans ?_ ((h.told_iff w).trans htold.symm)
    refine ExtTreeMap.mem_insert.trans ⟨?_, Or.inr⟩
    rintro (he | hw)
    · rw [← LawfulEqOrd.eq_of_compare he]
      exact hmem
    · exact hw

theorem Consistent.registerNode (h : Consistent ⟨bridge, told⟩)
    (hnew : node.surface ∉ bridge.surfaceToWindow) (hroom : 0 < bridge.room) :
    Consistent ⟨bridge.registerNode node, told ++ [.mapRequest ⟨bridge.nextXid⟩]⟩ := by
  have hlt : bridge.nextXid < bridge.nextXid + 1 := by
    rw [UInt32.lt_iff_toNat_lt, X11WmBridgeState.toNat_nextXid_add_one hroom]
    exact Nat.lt_succ_self _
  have hunbound (node' : LayoutNodeSnapshot) :
      bridge.windowToNode[(⟨bridge.nextXid⟩ : SyntheticXWindowId)]? ≠ some node' := by
    intro hnode'
    have hmem : (⟨bridge.nextXid⟩ : SyntheticXWindowId) ∈ bridge.windowToNode := by
      rw [ExtTreeMap.mem_iff_isSome_getElem?, hnode']
      rfl
    exact h.fresh _ ((h.told_iff _).mp hmem).1 rfl
  constructor
  · intro surface w hs
    rw [X11WmBridgeState.getElem?_registerNode_surface] at hs
    split at hs
    · rename_i he
      cases hs
      refine ⟨node, ?_, he⟩
      rw [X11WmBridgeState.getElem?_registerNode, if_pos rfl]
    · obtain ⟨node', hnode', hsurface'⟩ := h.node_of_window surface w hs
      refine ⟨node', ?_, hsurface'⟩
      rw [X11WmBridgeState.getElem?_registerNode, if_neg]
      · exact hnode'
      · rintro rfl
        exact hunbound node' hnode'
  · intro w node' hnode'
    rw [X11WmBridgeState.getElem?_registerNode] at hnode'
    rw [X11WmBridgeState.getElem?_registerNode_surface]
    split at hnode'
    · rename_i he
      cases hnode'
      rw [if_pos rfl, he]
    · have hs := h.window_of_node w node' hnode'
      rw [if_neg]
      · exact hs
      · intro he
        refine hnew ?_
        rw [he, ExtTreeMap.mem_iff_isSome_getElem?, hs]
        rfl
  · exact UInt32.le_trans h.first_le (UInt32.le_of_lt hlt)
  · intro event he w hn
    rcases List.mem_append.mp he with he | he
    · obtain ⟨hfirst, hbelow⟩ := h.minted event he w hn
      exact ⟨hfirst, UInt32.lt_trans hbelow hlt⟩
    · rw [List.mem_singleton.mp he] at hn
      obtain rfl : ⟨bridge.nextXid⟩ = w := hn
      exact ⟨h.first_le, hlt⟩
  · refine Run.each_snoc.mpr ⟨h.announced, fun w hn => ?_⟩
    obtain rfl : ⟨bridge.nextXid⟩ = w := hn
    rw [if_pos rfl]
    exact h.fresh
  · intro w
    refine ExtTreeMap.mem_insert.trans ?_
    rw [LawfulEqOrd.compare_eq_iff_eq]
    constructor
    · rintro (rfl | hw)
      · refine ⟨by simp, fun hd => ?_⟩
        rcases List.mem_append.mp hd with hd | hd
        · exact h.fresh _ hd rfl
        · cases List.mem_singleton.mp hd
      · obtain ⟨hmap, hdestroy⟩ := (h.told_iff w).mp hw
        refine ⟨List.mem_append_left _ hmap, ?_⟩
        simpa using hdestroy
    · rintro ⟨hmap, hdestroy⟩
      rcases List.mem_append.mp hmap with hmap | hmap
      · exact Or.inr ((h.told_iff w).mpr ⟨hmap, fun hd => hdestroy (List.mem_append_left _ hd)⟩)
      · cases List.mem_singleton.mp hmap
        exact Or.inl rfl

theorem Consistent.removeSurface (h : Consistent ⟨bridge, told⟩) (surface : SurfaceId) :
    Consistent ⟨(bridge.removeSurface surface).1,
      told ++ (bridge.removeSurface surface).2⟩ := by
  rcases hw : bridge.surfaceToWindow[surface]? with _ | window
  · simpa [X11WmBridgeState.removeSurface, hw] using h
  obtain ⟨old, hold, rfl⟩ := h.node_of_window _ _ hw
  have hmem : window ∈ bridge.windowToNode := by
    rw [ExtTreeMap.mem_iff_isSome_getElem?, hold]
    rfl
  obtain ⟨hminted, hannounced⟩ :=
    @Consistent.tell_known _ _ window h hmem (.destroyNotify window) (fun _ hn => hn) (by simp)
  simp only [X11WmBridgeState.removeSurface, hw]
  constructor
  · intro other w hs
    simp only [ExtTreeMap.getElem?_erase, LawfulEqOrd.compare_eq_iff_eq] at hs ⊢
    split at hs
    · cases hs
    · rename_i hne
      obtain ⟨node, hnode, rfl⟩ := h.node_of_window other w hs
      refine ⟨node, ?_, rfl⟩
      rw [if_neg]
      · exact hnode
      · rintro rfl
        exact hne (h.window_injective hw hs)
  · intro w node hnode
    simp only [ExtTreeMap.getElem?_erase, LawfulEqOrd.compare_eq_iff_eq] at hnode ⊢
    split at hnode
    · cases hnode
    · rename_i hne
      have hs := h.window_of_node w node hnode
      rw [if_neg]
      · exact hs
      · intro he
        rw [← he] at hs
        exact hne (Option.some.inj (hw.symm.trans hs))
  · exact h.first_le
  · exact hminted
  · exact hannounced
  · intro w
    refine ExtTreeMap.mem_erase.trans ?_
    rw [Ne, LawfulEqOrd.compare_eq_iff_eq, h.told_iff w]
    simp only [List.mem_append, List.mem_singleton, reduceCtorEq, or_false,
      SyntheticXEvent.destroyNotify.injEq, not_or]
    rw [eq_comm]
    tauto

/-- The nodes taken in before a failing one are in the tables, with the events made of them. -/
theorem Consistent.observeNodes {events : List SyntheticXEvent}
    (h : Consistent ⟨bridge, told ++ events⟩) (nodes : List LayoutNodeSnapshot) :
    Consistent ⟨(Run.tryEach X11WmBridgeState.observeNode nodes (bridge, events)).2.1,
      told ++ (Run.tryEach X11WmBridgeState.observeNode nodes (bridge, events)).2.2⟩ := by
  refine @X11WmBridgeState.observe_invariant
    (fun bridge events => Consistent ⟨bridge, told ++ events⟩) ?_ ?_ nodes (bridge, events) h
  · intro bridge events node window hw h
    rw [← List.append_assoc]
    exact h.replaceNode hw
  · intro bridge events node hnew hroom h
    rw [← List.append_assoc]
    exact h.registerNode hnew hroom

end BridgeLog
end Sophia.Bridge
