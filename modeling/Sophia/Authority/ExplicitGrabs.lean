import Sophia.Authority.InputFreeze

/-! Explicit grabs: what obtains them, what ends them and what takes them away. -/
namespace Sophia.Authority

open Std Sophia.Protocol

inductive GrabDevice where
  | pointer
  | keyboard
  deriving DecidableEq, Repr

namespace XNamespaceInputAuthority

/-- The grab a client asked for, as opposed to one that a press activated. -/
def explicit (entry : XNamespaceInputAuthority) : GrabDevice → Option XActiveInputGrab
  | .pointer => if entry.pointerImplicit ∨ entry.pointerPassiveDetail.isSome then none
    else entry.pointer
  | .keyboard => if entry.keyboardPassiveDetail.isSome then none else entry.keyboard

/-- The grab the device has, whatever made it. -/
def active (entry : XNamespaceInputAuthority) : GrabDevice → Option XActiveInputGrab
  | .pointer => entry.pointer
  | .keyboard => entry.keyboard

end XNamespaceInputAuthority

namespace XInputRequest

/-- The request asks for this grab. -/
def Obtains (request : XInputRequest) (device : GrabDevice) (ns : NamespaceId)
    (grab : XActiveInputGrab) : Prop :=
  match device with
  | .pointer => request = .grabPointer ns grab
  | .keyboard => request = .grabKeyboard ns grab

/-- The owner gives its grab up or replaces it, or is cleaned up after. -/
def Ends (device : GrabDevice) (ns : NamespaceId) (owner : UInt64) : XInputRequest → Prop
  | .grabPointer ns' grab => device = .pointer ∧ ns' = ns ∧ grab.owner = owner ∧
    validateModes grab.pointerMode grab.keyboardMode = .ok ()
  | .grabKeyboard ns' grab => device = .keyboard ∧ ns' = ns ∧ grab.owner = owner ∧
    validateModes grab.pointerMode grab.keyboardMode = .ok ()
  | .ungrabPointer ns' owner' => device = .pointer ∧ ns' = ns ∧ owner' = owner
  | .ungrabKeyboard ns' owner' => device = .keyboard ∧ ns' = ns ∧ owner' = owner
  | .cleanupOwner owner' => owner' = owner
  | _ => False

/-- The calls that presses and releases make. -/
def Routed : XInputRequest → Prop
  | .activateKey _ _ _ | .releaseKey _ _ | .activateButton _ _ _ _ | .releaseButton _ _ => True
  | _ => False

variable {request : XInputRequest} {device : GrabDevice} {ns : NamespaceId} {owner : UInt64}
  {grab : XActiveInputGrab}

theorem Routed.not_obtains (h : request.Routed) : ¬ request.Obtains device ns grab := by
  intro hobtains
  cases device with
  | pointer =>
    obtain rfl : request = .grabPointer ns grab := hobtains
    exact h
  | keyboard =>
    obtain rfl : request = .grabKeyboard ns grab := hobtains
    exact h

theorem Routed.not_ends (h : request.Routed) : ¬ request.Ends device ns owner := by
  intro hends
  cases request with
  | activateKey | releaseKey | activateButton | releaseButton => exact hends
  | _ => exact h

end XInputRequest

namespace XInputAuthorityState

def explicit (state : XInputAuthorityState) (device : GrabDevice) (ns : NamespaceId) :
    Option XActiveInputGrab :=
  (state.authority ns).explicit device

/-- The request is granted. -/
def Grants (state : XInputAuthorityState) : XInputRequest → Prop
  | .grabPointer ns grab => (state.grabPointer ns grab).isOk
  | .grabKeyboard ns grab => (state.grabKeyboard ns grab).isOk
  | _ => True

/-- No press is matched against an explicit grab: no button is pressed while the pointer is
grabbed, and no key of a passive grab while the keyboard is. -/
def Spares (state : XInputAuthorityState) : XInputRequest → Prop
  | .activateButton ns _ _ _ => state.explicit .pointer ns = none
  | .activateKey ns key modifiers => state.explicit .keyboard ns = none ∨
    (state.authority ns).keys.find? (·.triggers key modifiers) = none
  | _ => True

instance (state : XInputAuthorityState) (request : XInputRequest) :
    Decidable (state.Grants request) := by
  cases request <;> unfold Grants <;> infer_instance

instance (state : XInputAuthorityState) (request : XInputRequest) :
    Decidable (state.Spares request) := by
  cases request <;> unfold Spares <;> infer_instance

/-- What a call can do to the explicit grab of a device. -/
inductive GrabEffect (state : XInputAuthorityState) (request : XInputRequest)
    (device : GrabDevice) (ns : NamespaceId) : Prop
  | kept (hsame : (state.step request).explicit device ns = state.explicit device ns)
      (hends : ∀ grab, state.explicit device ns = some grab → ¬ request.Ends device ns grab.owner)
  | obtained (grab : XActiveInputGrab) (hobtains : request.Obtains device ns grab)
      (hgrants : state.Grants request)
      (hnext : (state.step request).explicit device ns = some grab)
      (hends : ∀ old, state.explicit device ns = some old → request.Ends device ns old.owner)
  | lost (hnext : (state.step request).explicit device ns = none)
      (hends : ∀ grab, state.explicit device ns = some grab →
        request.Ends device ns grab.owner ∨ ¬ state.Spares request)

variable {state : XInputAuthorityState} {request : XInputRequest} {device : GrabDevice}
  {ns : NamespaceId} {grab : XActiveInputGrab}

theorem GrabEffect.unrelated (hsame : (state.step request).explicit device ns =
    state.explicit device ns) (hends : ∀ owner, ¬ request.Ends device ns owner) :
    state.GrabEffect request device ns := .kept hsame fun _ _ => hends _

theorem authority_modify {ns' : NamespaceId}
    {f : XNamespaceInputAuthority → XNamespaceInputAuthority} :
    (state.modify ns' f).authority ns =
      if ns' = ns ∧ (state.namespaces[ns]?).isSome then f (state.authority ns)
      else state.authority ns := by
  rw [modify]
  cases hentry : state.namespaces[ns']? with
  | none =>
    rw [if_neg]
    rintro ⟨rfl, hsome⟩
    rw [hentry] at hsome
    cases hsome
  | some entry =>
    rw [authority_enter]
    by_cases hns : ns' = ns
    · subst hns
      rw [if_pos rfl, if_pos ⟨rfl, by simp [hentry]⟩, authority_of_some hentry]
    · rw [if_neg hns, if_neg fun h => hns h.1]

theorem authority_modify_self {f : XNamespaceInputAuthority → XNamespaceInputAuthority}
    (hf : f {} = {}) : (state.modify ns f).authority ns = f (state.authority ns) := by
  rw [authority_modify]
  split
  · rfl
  · rename_i hentry
    have hnone : state.namespaces[ns]? = none :=
      Option.not_isSome_iff_eq_none.mp fun h => hentry ⟨rfl, h⟩
    rw [authority, hnone, Option.getD_none, hf]

/-- A call that keeps the explicit grab of every entry keeps that of every namespace. -/
theorem explicit_modify {ns' : NamespaceId}
    {f : XNamespaceInputAuthority → XNamespaceInputAuthority}
    (hf : ns' = ns → (f (state.authority ns)).explicit device = (state.authority ns).explicit device) :
    (state.modify ns' f).explicit device ns = state.explicit device ns := by
  unfold explicit
  rw [authority_modify]
  split
  · rename_i h
    exact hf h.1
  · rfl

theorem explicit_enter {ns' : NamespaceId} {entry : XNamespaceInputAuthority}
    (hentry : ns' = ns → entry.explicit device = (state.authority ns).explicit device) :
    (state.enter ns' entry).explicit device ns = state.explicit device ns := by
  unfold explicit
  rw [authority_enter]
  split
  · rename_i h
    exact hentry h
  · rfl

theorem explicit_commit {ns' : NamespaceId}
    {result : Except XInputGrabError XNamespaceInputAuthority}
    (hresult : ∀ entry, result = .ok entry → ns' = ns →
      entry.explicit device = (state.authority ns).explicit device) :
    (state.commit (state.tryEnter ns' result)).explicit device ns = state.explicit device ns := by
  cases result with
  | error e => rfl
  | ok entry => exact explicit_enter (hresult entry rfl)

end XInputAuthorityState

namespace XNamespaceInputAuthority

variable {entry next : XNamespaceInputAuthority} {device : GrabDevice} {grab : XActiveInputGrab}
  {owner : UInt64}

/-- The explicit grab is the one the device has. -/
theorem active_of_explicit (h : entry.explicit device = some grab) :
    entry.active device = some grab := by
  cases device with
  | pointer =>
    simp only [explicit] at h
    split at h
    · cases h
    · exact h
  | keyboard =>
    simp only [explicit] at h
    split at h
    · cases h
    · exact h

theorem grabPointer_eq (hmodes : validateModes grab.pointerMode grab.keyboardMode = .ok ())
    (hfree : ∀ active, entry.pointer = some active → active.owner = grab.owner) :
    ∃ next, entry.grabPointer grab = .ok next ∧ next.explicit .pointer = some grab := by
  have hrequire : (Fallible.require (¬ entry.pointer.any fun active => active.owner != grab.owner)
      XInputGrabError.alreadyGrabbed) = .ok () := by
    rw [Fallible.require_eq_ok]
    cases hp : entry.pointer with
    | none => simp
    | some active => simp [hfree active hp]
  refine ⟨_, Fallible.bind_eq_ok.mpr ⟨(), hmodes, Fallible.bind_eq_ok.mpr ⟨(), hrequire, rfl⟩⟩, ?_⟩
  simp [explicit]

theorem grabKeyboard_eq (hmodes : validateModes grab.pointerMode grab.keyboardMode = .ok ())
    (hfree : ∀ active, entry.keyboard = some active → active.owner = grab.owner) :
    ∃ next, entry.grabKeyboard grab = .ok next ∧ next.explicit .keyboard = some grab := by
  have hrequire : (Fallible.require (¬ entry.keyboard.any fun active => active.owner != grab.owner)
      XInputGrabError.alreadyGrabbed) = .ok () := by
    rw [Fallible.require_eq_ok]
    cases hk : entry.keyboard with
    | none => simp
    | some active => simp [hfree active hk]
  refine ⟨_, Fallible.bind_eq_ok.mpr ⟨(), hmodes, Fallible.bind_eq_ok.mpr ⟨(), hrequire, rfl⟩⟩, ?_⟩
  simp [explicit]

/-- A granted pointer grab is the explicit one, of a pointer that was free or the client's own. -/
theorem grabPointer_ok (h : entry.grabPointer grab = .ok next) :
    next.explicit .pointer = some grab ∧ next.explicit .keyboard = entry.explicit .keyboard ∧
      validateModes grab.pointerMode grab.keyboardMode = .ok () ∧
      ∀ active, entry.pointer = some active → active.owner = grab.owner := by
  simp only [grabPointer, Fallible.bind_eq_ok, Fallible.require_eq_ok, Fallible.pure_eq_ok] at h
  obtain ⟨u, hmodes, v, hfree, rfl⟩ := h
  refine ⟨by simp [explicit], rfl, hmodes, fun active hactive => ?_⟩
  simpa [hactive] using hfree

theorem grabKeyboard_ok (h : entry.grabKeyboard grab = .ok next) :
    next.explicit .keyboard = some grab ∧ next.explicit .pointer = entry.explicit .pointer ∧
      validateModes grab.pointerMode grab.keyboardMode = .ok () ∧
      ∀ active, entry.keyboard = some active → active.owner = grab.owner := by
  simp only [grabKeyboard, Fallible.bind_eq_ok, Fallible.require_eq_ok, Fallible.pure_eq_ok] at h
  obtain ⟨u, hmodes, v, hfree, rfl⟩ := h
  refine ⟨by simp [explicit], rfl, hmodes, fun active hactive => ?_⟩
  simpa [hactive] using hfree

theorem ownedBy_iff {active : Option XActiveInputGrab} :
    ownedBy active owner ↔ ∃ grab, active = some grab ∧ grab.owner = owner := by
  cases active <;> simp [ownedBy]

/-- The owner of a grab that is explicit is the one client that owns the device. -/
theorem ownedBy_explicit_iff (h : entry.explicit device = some grab) :
    ownedBy (entry.active device) owner ↔ grab.owner = owner := by
  rw [ownedBy_iff, active_of_explicit h]
  constructor
  · rintro ⟨active, hactive, howner⟩
    obtain rfl := Option.some.inj hactive
    exact howner
  · intro howner
    exact ⟨grab, rfl, howner⟩

/-- The owner's ungrab leaves no explicit grab; another client's leaves it alone. -/
theorem explicit_ungrabPointer (entry : XNamespaceInputAuthority) (owner : UInt64) :
    (entry.ungrabPointer owner).explicit .keyboard = entry.explicit .keyboard ∧
      ((entry.ungrabPointer owner).explicit .pointer = none ∧ ownedBy entry.pointer owner ∨
        (entry.ungrabPointer owner).explicit .pointer = entry.explicit .pointer ∧
          ¬ ownedBy entry.pointer owner) := by
  unfold ungrabPointer
  split
  · rename_i howned
    exact ⟨rfl, .inl ⟨by simp [explicit], howned⟩⟩
  · rename_i howned
    exact ⟨rfl, .inr ⟨rfl, howned⟩⟩

theorem explicit_ungrabKeyboard (entry : XNamespaceInputAuthority) (owner : UInt64) :
    (entry.ungrabKeyboard owner).explicit .pointer = entry.explicit .pointer ∧
      ((entry.ungrabKeyboard owner).explicit .keyboard = none ∧ ownedBy entry.keyboard owner ∨
        (entry.ungrabKeyboard owner).explicit .keyboard = entry.explicit .keyboard ∧
          ¬ ownedBy entry.keyboard owner) := by
  unfold ungrabKeyboard
  split
  · rename_i howned
    exact ⟨rfl, .inl ⟨by simp [explicit], howned⟩⟩
  · rename_i howned
    exact ⟨rfl, .inr ⟨rfl, howned⟩⟩

/-- A release ends no explicit grab. -/
theorem explicit_releaseButton (entry : XNamespaceInputAuthority) (button : UInt8)
    (device : GrabDevice) :
    (entry.releaseButton button).explicit device = entry.explicit device := by
  unfold releaseButton
  split
  · rename_i hactivated
    cases device with
    | keyboard => rfl
    | pointer =>
      have hexplicit : entry.explicit .pointer = none := by
        simp only [explicit, ite_eq_left_iff]
        intro hneither
        exact absurd (hactivated.imp_right fun hdetail => by simp [hdetail]) hneither
      rw [hexplicit]
      simp [explicit]
  · rfl

theorem explicit_releaseKey (entry : XNamespaceInputAuthority) (key : UInt8)
    (device : GrabDevice) : (entry.releaseKey key).explicit device = entry.explicit device := by
  unfold releaseKey
  split
  · rename_i hactivated
    cases device with
    | pointer => rfl
    | keyboard => simp [explicit, hactivated]
  · rfl

theorem explicit_allowEvents {mode : UInt8} (h : entry.allowEvents owner mode = .ok next)
    (device : GrabDevice) : next.explicit device = entry.explicit device := by
  simp only [allowEvents] at h
  repeat' split at h
  all_goals cases h
  all_goals cases device <;> rfl

theorem explicit_activateKey (entry : XNamespaceInputAuthority) (key : UInt8) (modifiers : UInt16) :
    (entry.activateKey key modifiers).2.explicit .pointer = entry.explicit .pointer ∧
      ((entry.activateKey key modifiers).2.explicit .keyboard = none ∧
          entry.keys.find? (·.triggers key modifiers) ≠ none ∨
        (entry.activateKey key modifiers).2.explicit .keyboard = entry.explicit .keyboard ∧
          entry.keys.find? (·.triggers key modifiers) = none) := by
  unfold activateKey
  split
  · rename_i hnone
    exact ⟨rfl, .inr ⟨rfl, hnone⟩⟩
  · rename_i passive hsome
    exact ⟨rfl, .inl ⟨by simp [explicit], by simp [hsome]⟩⟩

/-- A press takes the pointer, whoever had it. -/
theorem explicit_activateButton (entry : XNamespaceInputAuthority) (button : UInt8)
    (modifiers : UInt16) (implicit : XActiveInputGrab) :
    (entry.activateButton button modifiers implicit).2.explicit .keyboard =
        entry.explicit .keyboard ∧
      (entry.activateButton button modifiers implicit).2.explicit .pointer = none := by
  unfold activateButton
  split
  exact ⟨rfl, by simp [explicit]⟩

theorem explicit_cleanupOwner (entry : XNamespaceInputAuthority) (owner : UInt64)
    (device : GrabDevice) :
    (entry.cleanupOwner owner).explicit device =
      if ownedBy (entry.active device) owner then none else entry.explicit device := by
  have hthaw : ∀ state : XNamespaceInputAuthority,
      state.thawUngrabbed.explicit device = state.explicit device := by
    intro state
    unfold thawUngrabbed
    split
    · cases device <;> rfl
    · rfl
  have hpassive : ∀ state : XNamespaceInputAuthority,
      (state.dropPassive owner).explicit device = state.explicit device := by
    intro state
    cases device <;> rfl
  unfold cleanupOwner
  rw [hthaw, hpassive]
  cases device with
  | pointer =>
    have hkeyboard : ((entry.dropPointer owner).dropKeyboard owner).explicit .pointer =
        (entry.dropPointer owner).explicit .pointer := by
      unfold dropKeyboard
      split <;> rfl
    rw [hkeyboard]
    unfold dropPointer
    split
    · rename_i howned
      simp [explicit, active, howned]
    · rename_i howned
      simp [active, howned]
  | keyboard =>
    have hsame : (entry.dropPointer owner).keyboard = entry.keyboard ∧
        (entry.dropPointer owner).explicit .keyboard = entry.explicit .keyboard := by
      unfold dropPointer
      split <;> exact ⟨rfl, rfl⟩
    unfold dropKeyboard
    rw [hsame.1]
    split
    · rename_i howned
      simp [explicit, active, howned]
    · rename_i howned
      simp [active, howned, hsame.2]

end XNamespaceInputAuthority

namespace XInputAuthorityState

open XNamespaceInputAuthority

variable {state : XInputAuthorityState} {request : XInputRequest} {device : GrabDevice}
  {ns : NamespaceId} {grab : XActiveInputGrab}

theorem commit_eq (result : Except XInputGrabError XNamespaceInputAuthority) :
    state.commit (state.tryEnter ns result) = match result with
      | .ok entry => state.enter ns entry
      | .error _ => state := by
  cases result <;> rfl

theorem isOk_tryEnter {result : Except XInputGrabError XNamespaceInputAuthority} :
    (state.tryEnter ns result).isOk = result.isOk := by
  cases result <;> rfl

theorem grabEffect_grabPointer (ns' : NamespaceId) (asked : XActiveInputGrab) :
    state.GrabEffect (.grabPointer ns' asked) device ns := by
  have hstep : state.step (.grabPointer ns' asked) =
      match (state.authority ns').grabPointer asked with
        | .ok entry => state.enter ns' entry
        | .error _ => state := commit_eq _
  cases hresult : (state.authority ns').grabPointer asked with
  | error e =>
    rw [hresult] at hstep
    refine .kept (by rw [hstep]) fun grab hgrab => ?_
    rintro ⟨rfl, rfl, howner, hmodes⟩
    have hactive : (state.authority ns').pointer = some grab := active_of_explicit hgrab
    obtain ⟨next, hok, -⟩ := grabPointer_eq hmodes fun active h => by
      rw [hactive] at h
      cases h
      exact howner.symm
    rw [hresult] at hok
    cases hok
  | ok next =>
    rw [hresult] at hstep
    obtain ⟨hpointer, hkeyboard, hmodes, hfree⟩ := grabPointer_ok hresult
    by_cases hns : ns' = ns
    · subst hns
      have hnext : (state.step (.grabPointer ns' asked)).authority ns' = next := by
        rw [hstep, authority_enter, if_pos rfl]
      cases device with
      | keyboard =>
        refine .unrelated ?_ (by rintro owner ⟨⟨⟩, -⟩)
        simp only [explicit, hnext, hkeyboard]
      | pointer =>
        refine .obtained asked rfl ?_ (by simp only [explicit, hnext, hpointer]) fun old hold => ?_
        · simp only [Grants, grabPointer, isOk_tryEnter, hresult]
          rfl
        · exact ⟨rfl, rfl, (hfree old (active_of_explicit hold)).symm, hmodes⟩
    · refine .unrelated ?_ (by rintro owner ⟨-, he, -⟩; exact hns he)
      rw [hstep]
      exact explicit_enter fun he => absurd he hns

theorem grabEffect_grabKeyboard (ns' : NamespaceId) (asked : XActiveInputGrab) :
    state.GrabEffect (.grabKeyboard ns' asked) device ns := by
  have hstep : state.step (.grabKeyboard ns' asked) =
      match (state.authority ns').grabKeyboard asked with
        | .ok entry => state.enter ns' entry
        | .error _ => state := commit_eq _
  cases hresult : (state.authority ns').grabKeyboard asked with
  | error e =>
    rw [hresult] at hstep
    refine .kept (by rw [hstep]) fun grab hgrab => ?_
    rintro ⟨rfl, rfl, howner, hmodes⟩
    have hactive : (state.authority ns').keyboard = some grab := active_of_explicit hgrab
    obtain ⟨next, hok, -⟩ := grabKeyboard_eq hmodes fun active h => by
      rw [hactive] at h
      cases h
      exact howner.symm
    rw [hresult] at hok
    cases hok
  | ok next =>
    rw [hresult] at hstep
    obtain ⟨hkeyboard, hpointer, hmodes, hfree⟩ := grabKeyboard_ok hresult
    by_cases hns : ns' = ns
    · subst hns
      have hnext : (state.step (.grabKeyboard ns' asked)).authority ns' = next := by
        rw [hstep, authority_enter, if_pos rfl]
      cases device with
      | pointer =>
        refine .unrelated ?_ (by rintro owner ⟨⟨⟩, -⟩)
        simp only [explicit, hnext, hpointer]
      | keyboard =>
        refine .obtained asked rfl ?_ (by simp only [explicit, hnext, hkeyboard]) fun old hold => ?_
        · simp only [Grants, grabKeyboard, isOk_tryEnter, hresult]
          rfl
        · exact ⟨rfl, rfl, (hfree old (active_of_explicit hold)).symm, hmodes⟩
    · refine .unrelated ?_ (by rintro owner ⟨-, he, -⟩; exact hns he)
      rw [hstep]
      exact explicit_enter fun he => absurd he hns

theorem grabEffect_ungrabPointer (ns' : NamespaceId) (owner : UInt64) :
    state.GrabEffect (.ungrabPointer ns' owner) device ns := by
  obtain ⟨hkeyboard, hpointer⟩ := explicit_ungrabPointer (state.authority ns) owner
  by_cases hns : ns' = ns
  · subst hns
    cases device with
    | keyboard =>
      exact .unrelated (explicit_modify fun _ => hkeyboard) (by rintro owner ⟨⟨⟩, -⟩)
    | pointer =>
      rcases hpointer with ⟨hnone, howned⟩ | ⟨hsame, howned⟩
      · refine .lost ?_ fun grab hgrab => .inl ⟨rfl, rfl, ?_⟩
        · simp only [step, ungrabPointer, explicit, authority_modify_self, hnone,
            show ({} : XNamespaceInputAuthority).ungrabPointer owner = {} from rfl]
        · exact ((ownedBy_explicit_iff hgrab).mp howned).symm
      · refine .kept (explicit_modify fun _ => hsame) fun grab hgrab => ?_
        rintro ⟨-, -, howner⟩
        exact howned ((ownedBy_explicit_iff hgrab).mpr howner.symm)
  · exact .unrelated (explicit_modify fun he => absurd he hns)
      (by rintro owner ⟨-, he, -⟩; exact hns he)

theorem grabEffect_ungrabKeyboard (ns' : NamespaceId) (owner : UInt64) :
    state.GrabEffect (.ungrabKeyboard ns' owner) device ns := by
  obtain ⟨hpointer, hkeyboard⟩ := explicit_ungrabKeyboard (state.authority ns) owner
  by_cases hns : ns' = ns
  · subst hns
    cases device with
    | pointer =>
      exact .unrelated (explicit_modify fun _ => hpointer) (by rintro owner ⟨⟨⟩, -⟩)
    | keyboard =>
      rcases hkeyboard with ⟨hnone, howned⟩ | ⟨hsame, howned⟩
      · refine .lost ?_ fun grab hgrab => .inl ⟨rfl, rfl, ?_⟩
        · simp only [step, ungrabKeyboard, explicit, authority_modify_self, hnone,
            show ({} : XNamespaceInputAuthority).ungrabKeyboard owner = {} from rfl]
        · exact ((ownedBy_explicit_iff hgrab).mp howned).symm
      · refine .kept (explicit_modify fun _ => hsame) fun grab hgrab => ?_
        rintro ⟨-, -, howner⟩
        exact howned ((ownedBy_explicit_iff hgrab).mpr howner.symm)
  · exact .unrelated (explicit_modify fun he => absurd he hns)
      (by rintro owner ⟨-, he, -⟩; exact hns he)

theorem authority_activateKey (ns' : NamespaceId) (key : UInt8) (modifiers : UInt16) :
    (state.activateKey ns' key modifiers).2.authority ns =
      if ns' = ns then ((state.authority ns).activateKey key modifiers).2
      else state.authority ns := by
  unfold activateKey
  split
  · rename_i hnone
    split
    · rename_i hns
      subst hns
      rw [authority, hnone]
      rfl
    · rfl
  · rename_i entry hentry
    rw [authority_enter]
    split
    · rename_i hns
      subst hns
      rw [authority_of_some hentry]
    · rfl

theorem grabEffect_activateKey (ns' : NamespaceId) (key : UInt8) (modifiers : UInt16) :
    state.GrabEffect (.activateKey ns' key modifiers) device ns := by
  have hstep : (state.step (.activateKey ns' key modifiers)).explicit device ns =
      (if ns' = ns then ((state.authority ns).activateKey key modifiers).2
        else state.authority ns).explicit device := by
    rw [← authority_activateKey]
    rfl
  obtain ⟨hpointer, hkeyboard⟩ := explicit_activateKey (state.authority ns) key modifiers
  by_cases hns : ns' = ns
  · subst hns
    rw [if_pos rfl] at hstep
    cases device with
    | pointer => exact .unrelated (hstep.trans hpointer) fun _ => id
    | keyboard =>
      rcases hkeyboard with ⟨hnone, htriggers⟩ | ⟨hsame, -⟩
      · refine .lost (hstep.trans hnone) fun grab hgrab => .inr ?_
        rintro (hfree | hfree)
        · rw [hgrab] at hfree
          cases hfree
        · exact htriggers hfree
      · exact .unrelated (hstep.trans hsame) fun _ => id
  · rw [if_neg hns] at hstep
    exact .unrelated hstep fun _ => id

theorem grabEffect_activateButton (ns' : NamespaceId) (button : UInt8) (modifiers : UInt16)
    (implicit : XActiveInputGrab) :
    state.GrabEffect (.activateButton ns' button modifiers implicit) device ns := by
  obtain ⟨hkeyboard, hpointer⟩ :=
    explicit_activateButton (state.authority ns') button modifiers implicit
  by_cases hns : ns' = ns
  · subst hns
    have hstep : (state.step (.activateButton ns' button modifiers implicit)).explicit device ns' =
        ((state.authority ns').activateButton button modifiers implicit).2.explicit device := by
      simp only [explicit, step, activateButton, authority_enter, if_pos]
    cases device with
    | keyboard => exact .unrelated (hstep.trans hkeyboard) fun _ => id
    | pointer =>
      refine .lost (hstep.trans hpointer) fun grab hgrab => .inr fun hfree => ?_
      have hfree : state.explicit .pointer ns' = none := hfree
      rw [hgrab] at hfree
      cases hfree
  · exact .unrelated (explicit_enter fun he => absurd he hns) fun _ => id

theorem explicit_eq_none {entry : XNamespaceInputAuthority} (h : entry.active device = none) :
    entry.explicit device = none := by
  cases he : entry.explicit device with
  | none => rfl
  | some grab =>
    rw [active_of_explicit he] at h
    cases h

theorem active_of_not_inUse {entry : XNamespaceInputAuthority} (h : ¬ entry.inUse) :
    entry.active device = none := by
  simp only [inUse, Bool.or_eq_true, not_or] at h
  cases device with
  | pointer => exact Option.not_isSome_iff_eq_none.mp h.1.1.1.1
  | keyboard => exact Option.not_isSome_iff_eq_none.mp h.1.1.1.2

theorem grabEffect_cleanupOwner (owner : UInt64) :
    state.GrabEffect (.cleanupOwner owner) device ns := by
  have hentry : (state.step (.cleanupOwner owner)).explicit device ns =
      ((state.authority ns).cleanupOwner owner).explicit device := by
    simp only [step, cleanupOwner, explicit, authority, ExtTreeMap.getElem?_filterMap']
    cases state.namespaces[ns]? with
    | none => cases device <;> rfl
    | some entry =>
      simp only [Option.bind_some, Option.getD_some]
      split
      · rfl
      · rename_i hunused
        rw [explicit_eq_none (active_of_not_inUse hunused)]
        cases device <;> rfl
  rw [explicit_cleanupOwner] at hentry
  split at hentry
  · rename_i howned
    obtain ⟨active, hactive, howner⟩ := ownedBy_iff.mp howned
    refine .lost hentry fun grab hgrab => .inl ?_
    obtain rfl : active = grab := Option.some.inj (hactive.symm.trans (active_of_explicit hgrab))
    exact howner.symm
  · rename_i howned
    refine .kept hentry fun grab hgrab => ?_
    rintro rfl
    exact howned (ownedBy_iff.mpr ⟨grab, active_of_explicit hgrab, rfl⟩)

/-- Every call keeps the explicit grab, obtains it, or makes it go for a reason. -/
theorem grabEffect (state : XInputAuthorityState) (request : XInputRequest) (device : GrabDevice)
    (ns : NamespaceId) : state.GrabEffect request device ns := by
  cases request with
  | grabPointer ns' asked => exact grabEffect_grabPointer ns' asked
  | grabKeyboard ns' asked => exact grabEffect_grabKeyboard ns' asked
  | ungrabPointer ns' owner => exact grabEffect_ungrabPointer ns' owner
  | ungrabKeyboard ns' owner => exact grabEffect_ungrabKeyboard ns' owner
  | activateKey ns' key modifiers => exact grabEffect_activateKey ns' key modifiers
  | activateButton ns' button modifiers implicit =>
    exact grabEffect_activateButton ns' button modifiers implicit
  | cleanupOwner owner => exact grabEffect_cleanupOwner owner
  | releaseKey ns' key =>
    exact .unrelated (explicit_modify fun _ => explicit_releaseKey _ key device) fun _ => id
  | releaseButton ns' button =>
    exact .unrelated (explicit_modify fun _ => explicit_releaseButton _ button device) fun _ => id
  | grabButton ns' asked =>
    refine .unrelated (explicit_commit fun entry hresult hns => ?_) fun _ => id
    subst hns
    simp only [XNamespaceInputAuthority.grabButton, Fallible.bind_eq_ok,
      Fallible.pure_eq_ok] at hresult
    obtain ⟨-, -, buttons, -, rfl⟩ := hresult
    cases device <;> rfl
  | grabKey ns' asked =>
    refine .unrelated (explicit_commit fun entry hresult hns => ?_) fun _ => id
    subst hns
    simp only [XNamespaceInputAuthority.grabKey, Fallible.bind_eq_ok,
      Fallible.pure_eq_ok] at hresult
    obtain ⟨-, -, keys, -, rfl⟩ := hresult
    cases device <;> rfl
  | ungrabButton ns' owner window detail modifiers =>
    exact .unrelated (explicit_modify fun _ => by cases device <;> rfl) fun _ => id
  | ungrabKey ns' owner window detail modifiers =>
    exact .unrelated (explicit_modify fun _ => by cases device <;> rfl) fun _ => id
  | grabServer ns' owner =>
    refine .unrelated (explicit_commit fun entry hresult hns => ?_) fun _ => id
    subst hns
    simp only [XNamespaceInputAuthority.grabServer] at hresult
    split at hresult
    · cases hresult
    · cases hresult
      cases device <;> rfl
  | ungrabServer ns' owner =>
    refine .unrelated (explicit_modify fun _ => ?_) fun _ => id
    unfold XNamespaceInputAuthority.ungrabServer
    split <;> cases device <;> rfl
  | allowEvents ns' owner mode =>
    refine .unrelated ?_ fun _ => id
    simp only [step, allowEvents]
    split
    · rfl
    split
    · rfl
    · rename_i entry hentry
      rw [← authority_of_some hentry]
      refine explicit_commit fun next hresult hns => ?_
      subst hns
      exact explicit_allowEvents hresult device
  | selectXiEvents ns' owner window masks => exact .unrelated rfl fun _ => id

/-- A call that is spared keeps every grab its owner does not end. -/
theorem explicit_step (hspares : state.Spares request) (h : state.explicit device ns = some grab)
    (hends : ¬ request.Ends device ns grab.owner) :
    (state.step request).explicit device ns = some grab := by
  cases state.grabEffect request device ns with
  | kept hsame _ => exact hsame.trans h
  | obtained _ _ _ _ hended => exact absurd (hended grab h) hends
  | lost _ hended =>
    rcases hended grab h with he | hno
    · exact absurd he hends
    · exact absurd hspares hno

/-- An explicit grab was there before or has just been granted. -/
theorem explicit_of_step (h : (state.step request).explicit device ns = some grab) :
    state.explicit device ns = some grab ∧ ¬ request.Ends device ns grab.owner ∨
      request.Obtains device ns grab ∧ state.Grants request := by
  cases state.grabEffect request device ns with
  | kept hsame hends =>
    have hbefore := hsame.symm.trans h
    exact .inl ⟨hbefore, hends grab hbefore⟩
  | obtained asked hobtains hgrants hnext _ =>
    rw [hnext] at h
    cases h
    exact .inr ⟨hobtains, hgrants⟩
  | lost hnext _ =>
    rw [hnext] at h
    cases h

theorem explicit_of_granted (hobtains : request.Obtains device ns grab)
    (hgrants : state.Grants request) : (state.step request).explicit device ns = some grab := by
  cases device with
  | pointer =>
    obtain rfl : request = .grabPointer ns grab := hobtains
    have hok : ((state.authority ns).grabPointer grab).isOk := by
      rw [← isOk_tryEnter]
      exact hgrants
    have hstep : state.step (.grabPointer ns grab) =
        match (state.authority ns).grabPointer grab with
          | .ok entry => state.enter ns entry
          | .error _ => state := commit_eq _
    cases hresult : (state.authority ns).grabPointer grab with
    | error e =>
      rw [hresult] at hok
      cases hok
    | ok next =>
      rw [hresult] at hstep
      rw [hstep, explicit, authority_enter, if_pos rfl]
      exact (grabPointer_ok hresult).1
  | keyboard =>
    obtain rfl : request = .grabKeyboard ns grab := hobtains
    have hok : ((state.authority ns).grabKeyboard grab).isOk := by
      rw [← isOk_tryEnter]
      exact hgrants
    have hstep : state.step (.grabKeyboard ns grab) =
        match (state.authority ns).grabKeyboard grab with
          | .ok entry => state.enter ns entry
          | .error _ => state := commit_eq _
    cases hresult : (state.authority ns).grabKeyboard grab with
    | error e =>
      rw [hresult] at hok
      cases hok
    | ok next =>
      rw [hresult] at hstep
      rw [hstep, explicit, authority_enter, if_pos rfl]
      exact (grabKeyboard_ok hresult).1

/-- A press that is matched against an explicit grab takes it away. -/
theorem lost_of_not_spares (h : ¬ state.Spares request) :
    ∃ device ns grab, state.explicit device ns = some grab ∧
      ¬ request.Ends device ns grab.owner ∧ (state.step request).explicit device ns = none := by
  cases request with
  | activateButton ns button modifiers implicit =>
    obtain ⟨grab, hgrab⟩ := Option.ne_none_iff_exists'.mp h
    refine ⟨.pointer, ns, grab, hgrab, id, ?_⟩
    simp only [explicit, step, activateButton, authority_enter, if_pos]
    exact (explicit_activateButton _ button modifiers implicit).2
  | activateKey ns key modifiers =>
    obtain ⟨hheld, htriggers⟩ := not_or.mp h
    obtain ⟨grab, hgrab⟩ := Option.ne_none_iff_exists'.mp hheld
    refine ⟨.keyboard, ns, grab, hgrab, id, ?_⟩
    have hstep : (state.step (.activateKey ns key modifiers)).explicit .keyboard ns =
        ((state.authority ns).activateKey key modifiers).2.explicit .keyboard := by
      have hnext : (state.activateKey ns key modifiers).2.authority ns =
          if ns = ns then ((state.authority ns).activateKey key modifiers).2
          else state.authority ns := authority_activateKey ns key modifiers
      rw [if_pos rfl] at hnext
      rw [← hnext]
      rfl
    rw [hstep]
    rcases (explicit_activateKey (state.authority ns) key modifiers).2 with ⟨hnone, -⟩ | ⟨-, hno⟩
    · exact hnone
    · exact absurd hno htriggers
  | _ => exact absurd trivial h

end XInputAuthorityState
end Sophia.Authority
