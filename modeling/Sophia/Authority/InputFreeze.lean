import Sophia.Authority.InputAuthority

/-! A frozen device needs a grab whose owner can thaw it. -/
namespace Sophia.Authority

open Std Sophia.Protocol

inductive XInputRequest where
  | grabPointer (ns : NamespaceId) (grab : XActiveInputGrab)
  | ungrabPointer (ns : NamespaceId) (owner : UInt64)
  | grabKeyboard (ns : NamespaceId) (grab : XActiveInputGrab)
  | ungrabKeyboard (ns : NamespaceId) (owner : UInt64)
  | grabButton (ns : NamespaceId) (grab : XPassiveInputGrab)
  | grabKey (ns : NamespaceId) (grab : XPassiveInputGrab)
  | ungrabButton (ns : NamespaceId) (owner : UInt64) (window : XResourceId) (detail : UInt8)
      (modifiers : UInt16)
  | ungrabKey (ns : NamespaceId) (owner : UInt64) (window : XResourceId) (detail : UInt8)
      (modifiers : UInt16)
  | grabServer (ns : NamespaceId) (owner : UInt64)
  | ungrabServer (ns : NamespaceId) (owner : UInt64)
  | allowEvents (ns : NamespaceId) (owner : UInt64) (mode : UInt8)
  | selectXiEvents (ns : NamespaceId) (owner : UInt64) (window : XResourceId)
      (masks : List (UInt16 × List UInt32))
  | activateKey (ns : NamespaceId) (key : UInt8) (modifiers : UInt16)
  | releaseKey (ns : NamespaceId) (key : UInt8)
  | activateButton (ns : NamespaceId) (button : UInt8) (modifiers : UInt16)
      (implicit : XActiveInputGrab)
  | releaseButton (ns : NamespaceId) (button : UInt8)
  | cleanupOwner (owner : UInt64)
  deriving DecidableEq, Repr

namespace XInputAuthorityState

/-- A refused call leaves the state as it was. -/
def commit (state : XInputAuthorityState) (result : Except XInputGrabError XInputAuthorityState) :
    XInputAuthorityState :=
  (result.toOption).getD state

def step (state : XInputAuthorityState) : XInputRequest → XInputAuthorityState
  | .grabPointer ns grab => state.commit (state.grabPointer ns grab)
  | .ungrabPointer ns owner => state.ungrabPointer ns owner
  | .grabKeyboard ns grab => state.commit (state.grabKeyboard ns grab)
  | .ungrabKeyboard ns owner => state.ungrabKeyboard ns owner
  | .grabButton ns grab => state.commit (state.grabButton ns grab)
  | .grabKey ns grab => state.commit (state.grabKey ns grab)
  | .ungrabButton ns owner window detail modifiers =>
    state.ungrabButton ns owner window detail modifiers
  | .ungrabKey ns owner window detail modifiers => state.ungrabKey ns owner window detail modifiers
  | .grabServer ns owner => state.commit (state.grabServer ns owner)
  | .ungrabServer ns owner => state.ungrabServer ns owner
  | .allowEvents ns owner mode => state.commit (state.allowEvents ns owner mode)
  | .selectXiEvents ns owner window masks => state.selectXiEvents ns owner window masks
  | .activateKey ns key modifiers => (state.activateKey ns key modifiers).2
  | .releaseKey ns key => state.releaseKey ns key
  | .activateButton ns button modifiers implicit =>
    (state.activateButton ns button modifiers implicit).2
  | .releaseButton ns button => state.releaseButton ns button
  | .cleanupOwner owner => state.cleanupOwner owner

/-- Wherever a device is frozen, a grab is active that can thaw it. -/
def FreezeSafe (state : XInputAuthorityState) : Prop :=
  ∀ ns, state.pointerFrozen ns = true ∨ state.keyboardFrozen ns = true →
    (state.pointerGrab ns).isSome ∨ (state.keyboardGrab ns).isSome

/-- A release that ends a grab does not find the other device frozen without a grab of its own. -/
def ReleasesThawed (state : XInputAuthorityState) : XInputRequest → Prop
  | .releaseKey ns key => (state.authority ns).keyboardPassiveDetail = some key →
    state.pointerFrozen ns = true → (state.pointerGrab ns).isSome
  | .releaseButton ns button => ((state.authority ns).pointerImplicit = true ∨
      (state.authority ns).pointerPassiveDetail = some button) →
    state.keyboardFrozen ns = true → (state.keyboardGrab ns).isSome
  | _ => True

end XInputAuthorityState

namespace XNamespaceInputAuthority

variable {state next : XNamespaceInputAuthority}

def Thawable (state : XNamespaceInputAuthority) : Prop :=
  state.pointerFrozen = true ∨ state.keyboardFrozen = true →
    state.pointer.isSome ∨ state.keyboard.isSome

theorem thawable_of_pointer {grab : XActiveInputGrab} (h : state.pointer = some grab) :
    state.Thawable := fun _ => Or.inl (by simp [h])

theorem thawable_of_keyboard {grab : XActiveInputGrab} (h : state.keyboard = some grab) :
    state.Thawable := fun _ => Or.inr (by simp [h])

theorem thawable_of_thawed (hp : state.pointerFrozen = false) (hk : state.keyboardFrozen = false) :
    state.Thawable := by
  rintro (h | h)
  · rw [hp] at h
    cases h
  · rw [hk] at h
    cases h

/-- Thawing devices keeps the grabs that were enough before. -/
theorem Thawable.mono (h : state.Thawable)
    (hp : next.pointerFrozen = true → state.pointerFrozen = true)
    (hk : next.keyboardFrozen = true → state.keyboardFrozen = true)
    (hpointer : next.pointer = state.pointer) (hkeyboard : next.keyboard = state.keyboard) :
    next.Thawable := by
  intro hfrozen
  rw [hpointer, hkeyboard]
  exact h (hfrozen.imp hp hk)

theorem thawable_grabPointer {grab : XActiveInputGrab} (h : state.grabPointer grab = .ok next) :
    next.Thawable := by
  simp only [grabPointer, Fallible.bind_eq_ok, Fallible.pure_eq_ok] at h
  obtain ⟨_, -, _, -, rfl⟩ := h
  exact thawable_of_pointer rfl

theorem thawable_grabKeyboard {grab : XActiveInputGrab} (h : state.grabKeyboard grab = .ok next) :
    next.Thawable := by
  simp only [grabKeyboard, Fallible.bind_eq_ok, Fallible.pure_eq_ok] at h
  obtain ⟨_, -, _, -, rfl⟩ := h
  exact thawable_of_keyboard rfl

theorem Thawable.grabButton {grab : XPassiveInputGrab} (hs : state.Thawable)
    (h : state.grabButton grab = .ok next) : next.Thawable := by
  simp only [XNamespaceInputAuthority.grabButton, Fallible.bind_eq_ok, Fallible.pure_eq_ok] at h
  obtain ⟨_, -, buttons, -, rfl⟩ := h
  exact hs

theorem Thawable.grabKey {grab : XPassiveInputGrab} (hs : state.Thawable)
    (h : state.grabKey grab = .ok next) : next.Thawable := by
  simp only [XNamespaceInputAuthority.grabKey, Fallible.bind_eq_ok, Fallible.pure_eq_ok] at h
  obtain ⟨_, -, keys, -, rfl⟩ := h
  exact hs

theorem Thawable.grabServer {owner : UInt64} (hs : state.Thawable)
    (h : state.grabServer owner = .ok next) : next.Thawable := by
  simp only [XNamespaceInputAuthority.grabServer] at h
  split at h
  · cases h
  · cases h
    exact hs

theorem Thawable.ungrabServer (hs : state.Thawable) (owner : UInt64) :
    (state.ungrabServer owner).Thawable := by
  simp only [XNamespaceInputAuthority.ungrabServer]
  split
  · exact hs
  · exact hs

theorem Thawable.ungrabPointer (hs : state.Thawable) (owner : UInt64) :
    (state.ungrabPointer owner).Thawable := by
  simp only [XNamespaceInputAuthority.ungrabPointer]
  split
  · cases hk : state.keyboard with
    | none => exact thawable_of_thawed rfl (by simp)
    | some grab => exact thawable_of_keyboard rfl
  · exact hs

theorem Thawable.ungrabKeyboard (hs : state.Thawable) (owner : UInt64) :
    (state.ungrabKeyboard owner).Thawable := by
  simp only [XNamespaceInputAuthority.ungrabKeyboard]
  split
  · cases hp : state.pointer with
    | none => exact thawable_of_thawed (by simp) rfl
    | some grab => exact thawable_of_pointer rfl
  · exact hs

theorem Thawable.allowEvents {owner : UInt64} {mode : UInt8} (hs : state.Thawable)
    (h : state.allowEvents owner mode = .ok next) : next.Thawable := by
  simp only [XNamespaceInputAuthority.allowEvents] at h
  split at h
  · cases h
  split at h
  · cases h
    split
    · exact hs.mono (by simp) (by simp) rfl rfl
    · exact hs
  split at h
  · cases h
    split
    · exact hs.mono (by simp) (by simp) rfl rfl
    · exact hs
  · cases h
    exact hs.mono (by simp) (by simp) rfl rfl

theorem Thawable.activateKey (hs : state.Thawable) (key : UInt8) (modifiers : UInt16) :
    (state.activateKey key modifiers).2.Thawable := by
  simp only [XNamespaceInputAuthority.activateKey]
  split
  · exact hs
  · exact thawable_of_keyboard rfl

/-- Ending a passive key grab is safe exactly when the pointer is not left frozen. -/
theorem Thawable.releaseKey_iff (hs : state.Thawable) (key : UInt8) :
    (state.releaseKey key).Thawable ↔
      (state.keyboardPassiveDetail = some key → state.pointerFrozen = true →
        state.pointer.isSome) := by
  simp only [releaseKey]
  split
  · rename_i hkey
    simp [Thawable, hkey]
  · rename_i hkey
    exact iff_of_true hs fun he => absurd he hkey

theorem Thawable.releaseButton_iff (hs : state.Thawable) (button : UInt8) :
    (state.releaseButton button).Thawable ↔
      (state.pointerImplicit = true ∨ state.pointerPassiveDetail = some button →
        state.keyboardFrozen = true → state.keyboard.isSome) := by
  simp only [releaseButton]
  split
  · rename_i hbutton
    simp [Thawable, hbutton]
  · rename_i hbutton
    exact iff_of_true hs fun he => absurd he hbutton

theorem thawable_thawUngrabbed : state.thawUngrabbed.Thawable := by
  rw [thawUngrabbed]
  split
  · exact thawable_of_thawed rfl rfl
  · rename_i hgrab
    intro _
    cases hp : state.pointer with
    | none =>
      cases hk : state.keyboard with
      | none => exact absurd (by simp [hp, hk]) hgrab
      | some grab => exact Or.inr rfl
    | some grab => exact Or.inl rfl

end XNamespaceInputAuthority

namespace XInputAuthorityState

open XNamespaceInputAuthority

variable {state : XInputAuthorityState} {ns : NamespaceId} {entry : XNamespaceInputAuthority}
  {result : Except XInputGrabError XNamespaceInputAuthority}

theorem freezeSafe_iff : state.FreezeSafe ↔ ∀ ns, (state.authority ns).Thawable := Iff.rfl

theorem FreezeSafe.thawable (h : state.FreezeSafe) (ns : NamespaceId) :
    (state.authority ns).Thawable := h ns

theorem authority_of_some (h : state.namespaces[ns]? = some entry) : state.authority ns = entry := by
  rw [authority, h, Option.getD_some]

theorem authority_enter (other : NamespaceId) :
    (state.enter ns entry).authority other = if ns = other then entry else state.authority other := by
  simp only [authority, enter, ExtTreeMap.getElem?_insert, LawfulEqCmp.compare_eq_iff_eq]
  split <;> rfl

/-- Writing one entry is safe exactly when the new entry is. -/
theorem FreezeSafe.enter_iff (h : state.FreezeSafe) :
    (state.enter ns entry).FreezeSafe ↔ entry.Thawable := by
  rw [freezeSafe_iff]
  constructor
  · intro hall
    have hentry := hall ns
    rwa [authority_enter, if_pos rfl] at hentry
  · intro hentry other
    rw [authority_enter]
    split
    · exact hentry
    · exact h other

theorem FreezeSafe.modify_iff (h : state.FreezeSafe)
    {f : XNamespaceInputAuthority → XNamespaceInputAuthority}
    (hdefault : state.namespaces[ns]? = none → (f (state.authority ns)).Thawable) :
    (state.modify ns f).FreezeSafe ↔ (f (state.authority ns)).Thawable := by
  rw [modify]
  cases hentry : state.namespaces[ns]? with
  | none => exact iff_of_true h (hdefault hentry)
  | some entry => rw [authority_of_some hentry, h.enter_iff]

theorem FreezeSafe.modify (h : state.FreezeSafe)
    {f : XNamespaceInputAuthority → XNamespaceInputAuthority}
    (hf : ∀ entry, entry.Thawable → (f entry).Thawable) : (state.modify ns f).FreezeSafe :=
  (h.modify_iff fun _ => hf _ (h ns)).mpr (hf _ (h ns))

theorem FreezeSafe.commit (h : state.FreezeSafe)
    (hresult : ∀ entry, result = .ok entry → entry.Thawable) :
    (state.commit (state.tryEnter ns result)).FreezeSafe := by
  cases result with
  | error e => exact h
  | ok entry => exact h.enter_iff.mpr (hresult entry rfl)

theorem FreezeSafe.allowEvents (h : state.FreezeSafe) (owner : UInt64) (mode : UInt8) :
    (state.commit (state.allowEvents ns owner mode)).FreezeSafe := by
  rw [XInputAuthorityState.allowEvents]
  split
  · exact h
  split
  · exact h
  · rename_i entry hentry
    have hthaw : entry.Thawable := authority_of_some hentry ▸ h ns
    exact h.commit fun next hnext => hthaw.allowEvents hnext

theorem FreezeSafe.activateKey (h : state.FreezeSafe) (key : UInt8) (modifiers : UInt16) :
    (state.activateKey ns key modifiers).2.FreezeSafe := by
  rw [XInputAuthorityState.activateKey]
  split
  · exact h
  · rename_i entry hentry
    have hthaw : entry.Thawable := authority_of_some hentry ▸ h ns
    exact h.enter_iff.mpr (hthaw.activateKey key modifiers)

theorem FreezeSafe.cleanupOwner (owner : UInt64) : (state.cleanupOwner owner).FreezeSafe := by
  intro ns
  show ((state.cleanupOwner owner).authority ns).Thawable
  simp only [authority, XInputAuthorityState.cleanupOwner, ExtTreeMap.getElem?_filterMap']
  cases state.namespaces[ns]? with
  | none => exact thawable_of_thawed rfl rfl
  | some entry =>
    simp only [Option.bind_some]
    split
    · exact thawable_thawUngrabbed
    · exact thawable_of_thawed rfl rfl

/-- Of a safe state every call but the two releases makes a safe one. -/
theorem FreezeSafe.step_iff (h : state.FreezeSafe) (request : XInputRequest) :
    (state.step request).FreezeSafe ↔ state.ReleasesThawed request := by
  cases request with
  | releaseKey ns key =>
    refine (h.modify_iff fun hnone => ?_).trans ((h.thawable ns).releaseKey_iff key)
    rw [authority, hnone]
    exact thawable_of_thawed rfl rfl
  | releaseButton ns button =>
    refine (h.modify_iff fun hnone => ?_).trans ((h.thawable ns).releaseButton_iff button)
    rw [authority, hnone]
    exact thawable_of_thawed rfl rfl
  | grabPointer ns grab => exact iff_of_true (h.commit fun _ => thawable_grabPointer) trivial
  | ungrabPointer ns owner =>
    exact iff_of_true (h.modify fun _ hentry => hentry.ungrabPointer owner) trivial
  | grabKeyboard ns grab => exact iff_of_true (h.commit fun _ => thawable_grabKeyboard) trivial
  | ungrabKeyboard ns owner =>
    exact iff_of_true (h.modify fun _ hentry => hentry.ungrabKeyboard owner) trivial
  | grabButton ns grab => exact iff_of_true (h.commit fun _ => (h.thawable ns).grabButton) trivial
  | grabKey ns grab => exact iff_of_true (h.commit fun _ => (h.thawable ns).grabKey) trivial
  | ungrabButton ns owner window detail modifiers =>
    exact iff_of_true (h.modify fun _ hentry => hentry) trivial
  | ungrabKey ns owner window detail modifiers =>
    exact iff_of_true (h.modify fun _ hentry => hentry) trivial
  | grabServer ns owner => exact iff_of_true (h.commit fun _ => (h.thawable ns).grabServer) trivial
  | ungrabServer ns owner =>
    exact iff_of_true (h.modify fun _ hentry => hentry.ungrabServer owner) trivial
  | allowEvents ns owner mode => exact iff_of_true (h.allowEvents owner mode) trivial
  | selectXiEvents ns owner window masks => exact iff_of_true h trivial
  | activateKey ns key modifiers => exact iff_of_true (h.activateKey key modifiers) trivial
  | activateButton ns button modifiers implicit =>
    exact iff_of_true (h.enter_iff.mpr (thawable_of_pointer rfl)) trivial
  | cleanupOwner owner => exact iff_of_true (FreezeSafe.cleanupOwner owner) trivial

theorem freezeSafe_default : FreezeSafe {} := by
  intro ns
  exact thawable_of_thawed (by simp [authority]) (by simp [authority])

/-- No run leaves a device frozen without a grab, as long as no release ends the last grab while
the other device is frozen; and only such a release can. -/
theorem freezeSafe_throughout_iff (requests : List XInputRequest) :
    Run.Throughout step (fun _ state => state.FreezeSafe) {} requests ↔
      Run.Guarded step ReleasesThawed {} requests :=
  Run.throughout_iff freezeSafe_default fun _ request _ _ h => h.step_iff request

/-- A passive key grab that freezes the pointer ends with its key; the pointer stays frozen. -/
theorem release_leaves_pointer_frozen :
    let ns : NamespaceId := .fromRaw 1
    let grab : XPassiveInputGrab := ⟨7, .new 0x200001 1, 38, 0, false, 0, 1, 0⟩
    let requests : List XInputRequest := [.grabKey ns grab, .activateKey ns 38 0, .releaseKey ns 38]
    ¬ (Run.exec step {} requests).FreezeSafe := by
  intro ns grab requests h
  have hgrab := h ns (Or.inl (by decide +kernel))
  revert hgrab
  decide +kernel

end XInputAuthorityState
end Sophia.Authority
