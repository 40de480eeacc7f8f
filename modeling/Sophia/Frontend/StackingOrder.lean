import Sophia.Authority.Resources
import Sophia.Lib.History
import Sophia.Lib.Restack

/-! What one connection's writer threads know of its windows: the events selected, the parents,
which windows are mapped and in which order they stand, bottom first. -/
namespace Sophia.Frontend

open Std Sophia.Authority

def xSetupDefaultRoot : UInt32 := 0x20

def rootWindow : XResourceId := .new xSetupDefaultRoot.toUInt64 1

structure XCoreWindowEventSelection where
  mask : UInt32
  doNotPropagateMask : UInt32
  deriving DecidableEq

structure XCoreEventSelectionState where
  windows : ExtTreeMap XResourceId XCoreWindowEventSelection := ∅
  parents : ExtTreeMap XResourceId XResourceId := ∅
  stacking : List XResourceId := []
  mapped : ExtTreeSet XResourceId := ∅
  fallbackMappedWindow : XResourceId := rootWindow

/-- The index among the other windows that a `ConfigureWindow` asks for. -/
def restackIndex (mode : Option UInt8) (siblingIndex : Option ℕ) (top : ℕ) : ℕ :=
  match mode, siblingIndex with
  | some 1, some index | some 3, some index => index
  | some 1, none | some 3, none => 0
  | some 0, some index | some 2, some index | some 4, some index => index + 1
  | _, _ => top

namespace XCoreEventSelectionState

/-- Key press and key release. -/
def keyMasks : UInt32 := 0b11

variable (state : XCoreEventSelectionState) (window : XResourceId)

def register (parent : XResourceId) : XCoreEventSelectionState :=
  { state with
    parents := state.parents.insert window parent
    stacking := Restack.others window state.stacking ++ [window] }

def restack (sibling : Option XResourceId) (mode : Option UInt8) : XCoreEventSelectionState :=
  let others := Restack.others window state.stacking
  let siblingIndex := sibling.bind fun sibling => others.findIdx? (· = sibling)
  { state with
    stacking :=
      Restack.moveTo window (restackIndex mode siblingIndex others.length) state.stacking }

/-- The topmost mapped window. -/
def topMapped : Option XResourceId := state.stacking.reverse.find? (state.mapped.contains ·)

def observeMapped : XCoreEventSelectionState :=
  { state with
    mapped := state.mapped.insert window
    fallbackMappedWindow := window }

def observeUnmapped : XCoreEventSelectionState :=
  let unmapped := { state with mapped := state.mapped.erase window }
  { unmapped with
    fallbackMappedWindow :=
      if state.fallbackMappedWindow = window then unmapped.topMapped.getD rootWindow
      else state.fallbackMappedWindow }

def remove : XCoreEventSelectionState :=
  { windows := state.windows.erase window
    parents := state.parents.erase window
    stacking := Restack.others window state.stacking
    mapped := state.mapped.erase window
    fallbackMappedWindow :=
      if state.fallbackMappedWindow = window then rootWindow else state.fallbackMappedWindow }

def keyboardFallback (focused : XResourceId) : XResourceId :=
  if focused = rootWindow then state.topMapped.getD state.fallbackMappedWindow else focused

/-- Up the parents from a window, at most so many, to the first that selects key events. -/
def selectingAncestor : ℕ → XResourceId → Option XResourceId
  | 0, _ => none
  | n + 1, candidate =>
    if state.windows[candidate]?.any fun selection => selection.mask &&& keyMasks ≠ 0 then
      some candidate
    else state.parents[candidate]?.bind (selectingAncestor n)

def selectedKeyboardTarget (focused : XResourceId) : Option XResourceId :=
  state.selectingAncestor 64 (state.keyboardFallback focused)

def keyboardTarget (focused : XResourceId) : XResourceId :=
  (state.selectedKeyboardTarget focused).getD (state.keyboardFallback focused)

end XCoreEventSelectionState

/-- The updates that follow a request that was dispatched without an error. -/
inductive SelectionUpdate where
  | register (window parent : XResourceId)
  | restack (window : XResourceId) (sibling : Option XResourceId) (mode : Option UInt8)
  | observeMapped (window : XResourceId)
  | observeUnmapped (window : XResourceId)
  | remove (window : XResourceId)
  deriving DecidableEq

def XCoreEventSelectionState.step (state : XCoreEventSelectionState) :
    SelectionUpdate → XCoreEventSelectionState
  | .register window parent => state.register window parent
  | .restack window sibling mode => state.restack window sibling mode
  | .observeMapped window => state.observeMapped window
  | .observeUnmapped window => state.observeUnmapped window
  | .remove window => state.remove window

end Sophia.Frontend

/-! The stacking order over sequences of updates, and the window that gets the keys while the
root has the focus. -/
namespace Sophia.Frontend

open Std Sophia.Authority

inductive StackPlace where
  | above
  | below
  deriving DecidableEq

/-- Above, below, top-if, bottom-if and opposite; the protocol has no other mode. -/
def stackPlace (mode : UInt8) : Option StackPlace :=
  if mode = 0 ∨ mode = 2 ∨ mode = 4 then some .above
  else if mode = 1 ∨ mode = 3 then some .below
  else none

/-- The window stands where the request puts it: beside its sibling, or at an end of the list. -/
def Placed (window : XResourceId) (sibling : Option XResourceId) (place : StackPlace)
    (stacking : List XResourceId) : Prop :=
  match sibling, place with
  | some sibling, .above => ∃ lower upper, stacking = lower ++ sibling :: window :: upper
  | some sibling, .below => ∃ lower upper, stacking = lower ++ window :: sibling :: upper
  | none, .above => stacking.getLast? = some window
  | none, .below => stacking.head? = some window

/-- What a restacking request may do to the order. -/
structure Restacked (window : XResourceId) (sibling : Option XResourceId) (mode : Option UInt8)
    (before after : List XResourceId) : Prop where
  others : Restack.others window after = Restack.others window before
  placed : ∀ place, mode.bind stackPlace = some place → Placed window sibling place after
  unchanged : mode = none → after = before

namespace XCoreEventSelectionState

variable {state : XCoreEventSelectionState} {window : XResourceId}

/-- Every registered window stands in the list once, and nothing else does. -/
structure Registered (state : XCoreEventSelectionState) : Prop where
  nodup : state.stacking.Nodup
  mem_iff : ∀ window, window ∈ state.stacking ↔ window ∈ state.parents

theorem registered_default : Registered {} := ⟨List.nodup_nil, fun _ => by simp⟩

theorem Registered.register (h : Registered state) (parent : XResourceId) :
    Registered (state.register window parent) := by
  constructor
  · have hnodup := Restack.nodup_others (x := window) h.nodup
    refine List.nodup_append.mpr ⟨hnodup, List.nodup_singleton _, ?_⟩
    rintro a ha b hb rfl
    exact (Restack.mem_others.mp ha).2 (List.mem_singleton.mp hb)
  · intro w
    have hmem : w ∈ Restack.others window state.stacking ++ [window] ↔
        (w ∈ state.parents ∧ w ≠ window) ∨ w = window := by
      rw [List.mem_append, Restack.mem_others, h.mem_iff, List.mem_singleton]
    refine hmem.trans ?_
    rw [XCoreEventSelectionState.register, ExtTreeMap.mem_insert, LawfulEqOrd.compare_eq_iff_eq]
    by_cases hw : w = window
    · simp [hw]
    · simp [hw, Ne.symm hw]

theorem Registered.restack (h : Registered state) (hw : window ∈ state.parents)
    (sibling : Option XResourceId) (mode : Option UInt8) :
    Registered (state.restack window sibling mode) := by
  refine ⟨Restack.nodup_moveTo h.nodup, fun w => ?_⟩
  rw [XCoreEventSelectionState.restack, Restack.mem_moveTo, h.mem_iff]
  constructor
  · rintro (rfl | hmem)
    · exact hw
    · exact hmem
  · exact Or.inr

theorem Registered.remove (h : Registered state) : Registered (state.remove window) := by
  refine ⟨Restack.nodup_others h.nodup, fun w => ?_⟩
  rw [XCoreEventSelectionState.remove, Restack.mem_others, h.mem_iff, ExtTreeMap.mem_erase,
    ne_eq, ne_eq, LawfulEqOrd.compare_eq_iff_eq, and_comm, eq_comm]

/-- The update names registered windows only where it restacks. -/
def NamesRegistered (state : XCoreEventSelectionState) : SelectionUpdate → Prop
  | .restack window sibling _ => window ∈ state.parents ∧ ∀ s ∈ sibling, s ∈ state.parents
  | _ => True

instance : DecidablePred (state.NamesRegistered) := fun update =>
  match update with
  | .restack window sibling _ =>
    inferInstanceAs (Decidable (window ∈ state.parents ∧ ∀ s ∈ sibling, s ∈ state.parents))
  | .register _ _ | .observeMapped _ | .observeUnmapped _ | .remove _ => isTrue trivial

theorem Registered.step (h : Registered state) {update : SelectionUpdate}
    (hnames : state.NamesRegistered update) : Registered (state.step update) := by
  cases update with
  | register window parent => exact h.register parent
  | restack window sibling mode => exact h.restack hnames.1 sibling mode
  | observeMapped window => exact ⟨h.nodup, h.mem_iff⟩
  | observeUnmapped window => exact ⟨h.nodup, h.mem_iff⟩
  | remove window => exact h.remove

theorem windows_step (h : state.windows = ∅) (update : SelectionUpdate) :
    (state.step update).windows = ∅ := by
  cases update with
  | remove window =>
    refine ExtTreeMap.ext_getElem? fun w => ?_
    simp [XCoreEventSelectionState.step, XCoreEventSelectionState.remove, h]
  | _ => exact h

/-- Windows get mapped, unmapped or destroyed, a mapped one is put into the order anew, or a
request names a stack mode. -/
def MapsOrRestacks (state : XCoreEventSelectionState) : SelectionUpdate → Prop
  | .register window _ => window ∈ state.mapped
  | .restack _ _ mode => mode ≠ none
  | .observeMapped _ | .observeUnmapped _ | .remove _ => True

/-- What an update does to the stacking order and to the keys of a root focus. -/
structure KeepsOrder (state : XCoreEventSelectionState) (update : SelectionUpdate) : Prop where
  registered : Registered (state.step update)
  restacked : ∀ window sibling mode, update = .restack window sibling mode →
    Restacked window sibling mode state.stacking (state.step update).stacking
  target : ¬ state.MapsOrRestacks update →
    (state.step update).keyboardTarget rootWindow = state.keyboardTarget rootWindow

/-- A request without a stack mode is about the top window; one with a sibling is not about that
sibling itself. -/
def Restackable (state : XCoreEventSelectionState) : SelectionUpdate → Prop
  | .restack window _ none => state.stacking.getLast? = some window
  | .restack window sibling (some mode) => stackPlace mode = none ∨ sibling ≠ some window
  | _ => True

instance : DecidablePred (state.Restackable) := fun update =>
  match update with
  | .restack window _ none => inferInstanceAs (Decidable (state.stacking.getLast? = some window))
  | .restack window sibling (some mode) =>
    inferInstanceAs (Decidable (stackPlace mode = none ∨ sibling ≠ some window))
  | .register _ _ | .observeMapped _ | .observeUnmapped _ | .remove _ => isTrue trivial

/-- Without a stack mode the window goes to the top. -/
theorem stacking_restack_none (sibling : Option XResourceId) :
    (state.restack window sibling none).stacking =
      Restack.others window state.stacking ++ [window] := Restack.moveTo_top le_rfl

end XCoreEventSelectionState

section Places

variable {mode : UInt8} {top : ℕ}

theorem stackPlace_eq_above :
    stackPlace mode = some .above ↔ mode = 0 ∨ mode = 2 ∨ mode = 4 := by
  unfold stackPlace
  split
  · simp [*]
  · split <;> simp [*]

theorem stackPlace_eq_below : stackPlace mode = some .below ↔ mode = 1 ∨ mode = 3 := by
  unfold stackPlace
  split
  · rename_i h
    rcases h with rfl | rfl | rfl <;> simp
  · split <;> simp [*]

theorem restackIndex_above (h : stackPlace mode = some .above) (siblingIndex : Option ℕ) :
    restackIndex (some mode) siblingIndex top = (siblingIndex.map (· + 1)).getD top := by
  rcases stackPlace_eq_above.mp h with rfl | rfl | rfl <;> cases siblingIndex <;> rfl

theorem restackIndex_below (h : stackPlace mode = some .below) (siblingIndex : Option ℕ) :
    restackIndex (some mode) siblingIndex top = siblingIndex.getD 0 := by
  rcases stackPlace_eq_below.mp h with rfl | rfl <;> cases siblingIndex <;> rfl

end Places

namespace XCoreEventSelectionState

variable {state : XCoreEventSelectionState} {window : XResourceId} {mode : UInt8}
  {place : StackPlace}

/-- A registered sibling is found among the other windows unless it is the window itself. -/
theorem sibling_index (h : Registered state) {sibling : XResourceId}
    (hs : sibling ∈ state.parents) (hne : sibling ≠ window) :
    ∃ i, (Restack.others window state.stacking).findIdx? (· = sibling) = some i := by
  have hmem : sibling ∈ Restack.others window state.stacking :=
    Restack.mem_others.mpr ⟨(h.mem_iff sibling).mpr hs, hne⟩
  rw [← Option.isSome_iff_exists, List.findIdx?_isSome]
  exact List.any_eq_true.mpr ⟨sibling, hmem, by simp⟩

theorem placed_restack (h : Registered state) {sibling : Option XResourceId}
    (hs : ∀ s ∈ sibling, s ∈ state.parents) (hne : sibling ≠ some window)
    (hplace : stackPlace mode = some place) :
    Placed window sibling place (state.restack window sibling (some mode)).stacking := by
  cases sibling with
  | none =>
    cases place with
    | above =>
      have htop : (state.restack window none (some mode)).stacking =
          Restack.others window state.stacking ++ [window] := by
        rw [restack, restackIndex_above hplace]
        exact Restack.moveTo_top le_rfl
      rw [htop, Placed, List.getLast?_concat]
    | below =>
      have hbottom : (state.restack window none (some mode)).stacking =
          window :: Restack.others window state.stacking := by
        rw [restack, restackIndex_below hplace]
        exact Restack.moveTo_bottom
      rw [hbottom, Placed, List.head?_cons]
  | some sibling =>
    have hsibling : sibling ≠ window := fun he => hne (congrArg some he)
    obtain ⟨i, hi⟩ := sibling_index h (hs sibling rfl) hsibling
    cases place with
    | above =>
      have hindex : (state.restack window (some sibling) (some mode)).stacking =
          Restack.moveTo window (i + 1) state.stacking := by
        rw [restack, restackIndex_above hplace, Option.bind_some, hi]
        rfl
      rw [hindex]
      exact Restack.moveTo_after hi
    | below =>
      have hindex : (state.restack window (some sibling) (some mode)).stacking =
          Restack.moveTo window i state.stacking := by
        rw [restack, restackIndex_below hplace, Option.bind_some, hi]
        rfl
      rw [hindex]
      exact Restack.moveTo_before hi

/-- A window is never placed beside itself. -/
theorem not_placed_self {stacking : List XResourceId} (h : stacking.Nodup) :
    ¬ Placed window (some window) place stacking := by
  cases place with
  | above =>
    rintro ⟨lower, upper, he⟩
    exact Restack.not_beside_self h lower upper he
  | below =>
    rintro ⟨lower, upper, he⟩
    exact Restack.not_beside_self h lower upper he

theorem restacked_iff (h : Registered state) {sibling : Option XResourceId}
    {mode : Option UInt8} (hnames : state.NamesRegistered (.restack window sibling mode)) :
    Restacked window sibling mode state.stacking (state.restack window sibling mode).stacking ↔
      state.Restackable (.restack window sibling mode) := by
  have hwindow : window ∈ state.stacking := (h.mem_iff window).mpr hnames.1
  have hothers : Restack.others window (state.restack window sibling mode).stacking =
      Restack.others window state.stacking := Restack.others_moveTo
  cases mode with
  | none =>
    have hiff := Restack.others_append_eq_iff h.nodup hwindow
    rw [← stacking_restack_none sibling] at hiff
    exact ⟨fun hr => hiff.mp (hr.unchanged rfl),
      fun hlast => ⟨hothers, fun place hp => (nomatch hp), fun _ => hiff.mpr hlast⟩⟩
  | some mode =>
    constructor
    · intro hr
      cases hplace : stackPlace mode with
      | none => exact Or.inl hplace
      | some place =>
        refine Or.inr fun hself => ?_
        have hplaced := hr.placed place hplace
        rw [hself] at hplaced
        exact not_placed_self (Restack.nodup_moveTo h.nodup) hplaced
    · intro hok
      refine ⟨hothers, fun place hplace => ?_, fun he => (nomatch he)⟩
      rcases hok with hnone | hne
      · exact (Option.some_ne_none place (hplace.symm.trans hnone)).elim
      · exact placed_restack h hnames.2 hne hplace

/-- Without selected events the target is the fallback. -/
theorem keyboardTarget_of_empty (h : state.windows = ∅) (focused : XResourceId) :
    state.keyboardTarget focused = state.keyboardFallback focused := by
  have hnone : ∀ n candidate, state.selectingAncestor n candidate = none := by
    intro n
    induction n with
    | zero => exact fun _ => rfl
    | succ n ih =>
      intro candidate
      rw [selectingAncestor, h]
      cases state.parents[candidate]? with
      | none => rfl
      | some parent => exact ih parent
  rw [keyboardTarget, selectedKeyboardTarget, hnone]
  rfl

/-- A window that is not mapped can enter the order or move in it unnoticed. -/
theorem topMapped_register (h : window ∉ state.mapped) (parent : XResourceId) :
    (state.register window parent).topMapped = state.topMapped := by
  have hnot : state.mapped.contains window = false :=
    Bool.eq_false_iff.mpr fun hc => h (ExtTreeSet.mem_iff_contains.mpr hc)
  rw [topMapped, register, List.reverse_append, List.reverse_singleton, List.singleton_append,
    List.find?_cons_of_neg (Bool.eq_false_iff.mp hnot), ← Restack.others_reverse]
  exact Restack.find?_others hnot

theorem keepsOrder_iff (h : Registered state) (hwindows : state.windows = ∅)
    {update : SelectionUpdate} (hnames : state.NamesRegistered update) :
    state.KeepsOrder update ↔ state.Restackable update := by
  have hnext := h.step hnames
  cases update with
  | restack window sibling mode =>
    have hiff := restacked_iff h hnames
    refine ⟨fun hk => hiff.mp (hk.restacked window sibling mode rfl), fun hok => ?_⟩
    refine ⟨hnext, fun w s m he => ?_, fun hnot => ?_⟩
    · cases he
      exact hiff.mpr hok
    · obtain rfl : mode = none := not_not.mp hnot
      have hsame : state.step (.restack window sibling none) = state := by
        have hs := (hiff.mpr hok).unchanged rfl
        simpa only [step, restack] using congrArg (fun l => { state with stacking := l }) hs
      rw [hsame]
  | register window parent =>
    refine iff_of_true ⟨hnext, fun w s m he => (nomatch he), fun hnot => ?_⟩ trivial
    rw [keyboardTarget_of_empty (windows_step hwindows _), keyboardTarget_of_empty hwindows]
    exact congrArg (fun top => top.getD state.fallbackMappedWindow) (topMapped_register hnot parent)
  | observeMapped window =>
    exact iff_of_true ⟨hnext, fun w s m he => (nomatch he), fun hnot => absurd trivial hnot⟩ trivial
  | observeUnmapped window =>
    exact iff_of_true ⟨hnext, fun w s m he => (nomatch he), fun hnot => absurd trivial hnot⟩ trivial
  | remove window =>
    exact iff_of_true ⟨hnext, fun w s m he => (nomatch he), fun hnot => absurd trivial hnot⟩ trivial

/-- Every update of a sequence keeps the order law exactly when every restacking request names a
stack mode, or is about the top window. -/
theorem stacking_order_iff {updates : List SelectionUpdate}
    (hnames : Run.Guarded step NamesRegistered {} updates) :
    Run.Guarded step KeepsOrder {} updates ↔ Run.Guarded step Restackable {} updates := by
  have hstep : ∀ before update after, updates = before ++ update :: after →
      ((Run.exec step {} before).KeepsOrder update ↔
        (Run.exec step {} before).Restackable update) := by
    intro before update after he
    have hsound : Registered (Run.exec step {} before) ∧
        (Run.exec step {} before).windows = ∅ := by
      refine Run.invariant (P := fun s => Registered s ∧ s.windows = ∅)
        ⟨registered_default, rfl⟩ (fun s a hok hs => ⟨hs.1.step hok, windows_step hs.2 a⟩) ?_
      exact Run.Guarded.left (he ▸ hnames)
    exact keepsOrder_iff hsound.1 hsound.2 (hnames before update after he)
  constructor
  · exact fun h before update after he => (hstep before update after he).mp (h before update after he)
  · exact fun h before update after he => (hstep before update after he).mpr (h before update after he)

def lowerWindow : XResourceId := .new 0x200001 1

def upperWindow : XResourceId := .new 0x200002 1

def twoMapped : List SelectionUpdate :=
  [.register lowerWindow rootWindow, .observeMapped lowerWindow,
    .register upperWindow rootWindow, .observeMapped upperWindow]

theorem stacking_order_restacked :
    Run.Guarded step KeepsOrder {}
      (twoMapped ++ [.restack lowerWindow (some upperWindow) (some 0),
        .restack lowerWindow none none]) :=
  (stacking_order_iff (by decide)).mpr (by decide)

/-- A plain move of the lower window raises it. -/
theorem plain_move_raises :
    Run.Guarded step NamesRegistered {} (twoMapped ++ [.restack lowerWindow none none]) ∧
      ¬ Run.Guarded step KeepsOrder {} (twoMapped ++ [.restack lowerWindow none none]) := by
  have hnames : Run.Guarded step NamesRegistered {}
      (twoMapped ++ [.restack lowerWindow none none]) := by decide
  refine ⟨hnames, fun h => ?_⟩
  have hraise := (h.last.restacked lowerWindow none none rfl).unchanged rfl
  revert hraise
  decide

end XCoreEventSelectionState
end Sophia.Frontend
