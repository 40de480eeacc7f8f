import Sophia.Portal.Lifecycle

/-! What one operation of the broker does to its requests and grants. -/
namespace Sophia.Portal

open Std Sophia.Protocol

namespace PortalRequestGrantLifecycle

variable {lifecycle lifecycle' : PortalRequestGrantLifecycle} {id key : PortalTransferId}
  {request : PortalRequest} {grant : PortalGrant} {state : PortalGrantState}
  {matching : PortalRequest → Bool}

/-- Requests and grants tell the same story. -/
structure Consistent (lifecycle : PortalRequestGrantLifecycle) : Prop where
  keyed : ∀ (id : PortalTransferId) (request : PortalRequest),
    lifecycle.requests[id]? = some request → request.transfer.transfer = id
  granted : ∀ id : PortalTransferId, (∃ grant, lifecycle.grants[id]? = some grant) ↔
    ∃ request : PortalRequest, lifecycle.requests[id]? = some request ∧
      request.transfer.decision = .allowed
  faithful : ∀ (id : PortalTransferId) (grant : PortalGrant) (request : PortalRequest),
    lifecycle.grants[id]? = some grant → lifecycle.requests[id]? = some request →
      grant.transfer = request.transfer.transfer ∧
      grant.sourceNamespace = request.transfer.sourceNamespace ∧
      grant.targetNamespace = request.transfer.targetNamespace ∧
      grant.kind = request.transfer.kind
  bounded : lifecycle.pendingOrActiveCount ≤ lifecycle.capacity
  current : ∀ (id : PortalTransferId) (grant : PortalGrant), lifecycle.grants[id]? = some grant →
    grant.state = .active → grant.brokerGeneration = lifecycle.brokerGeneration

/-- What an operation can do to the two tables. -/
inductive Effect (lifecycle : PortalRequestGrantLifecycle) : PortalRequestGrantLifecycle → Prop where
  | same : Effect lifecycle lifecycle
  | submitted (request : PortalRequest) (hvalid : validRequest request = true)
      (hnew : request.transfer.transfer ∉ lifecycle.requests)
      (hroom : lifecycle.pendingOrActiveCount < lifecycle.capacity) :
    Effect lifecycle (lifecycle.setRequest request.transfer.transfer request)
  | refused (id : PortalTransferId) (request : PortalRequest) (decision : PortalDecision)
      (hget : lifecycle.requests[id]? = some request) (hpending : request.transfer.decision = .pending)
      (hdecision : decision = .denied ∨ decision = .revoked) :
    Effect lifecycle (lifecycle.setRequest id (decideRequest request decision))
  | allowed (id : PortalTransferId) (request : PortalRequest) (generation : UInt64)
      (hget : lifecycle.requests[id]? = some request)
      (hpending : request.transfer.decision = .pending) :
    Effect lifecycle ((lifecycle.setRequest id (decideRequest request .allowed)).setGrant id
      (lifecycle.grantFor id request generation))
  | closed (id : PortalTransferId) (grant : PortalGrant) (state : PortalGrantState)
      (hget : lifecycle.grants[id]? = some grant) (hactive : grant.state = .active)
      (hstate : state ≠ .active) :
    Effect lifecycle (lifecycle.setGrant id { grant with state })
  | swept (matching : PortalRequest → Bool) (state : PortalGrantState) (hstate : state ≠ .active) :
    Effect lifecycle (closeWhere state lifecycle matching).2
  | restarted (brokerGeneration : UInt64) (h : lifecycle.brokerGeneration < brokerGeneration) :
    Effect lifecycle
      { (closeWhere .revoked lifecycle fun _ => true).2 with brokerGeneration }

section Lookups

theorem requests_setRequest (key : PortalTransferId) :
    (lifecycle.setRequest id request).requests[key]? =
      if id = key then some request else lifecycle.requests[key]? := by
  simp only [setRequest, ExtTreeMap.getElem?_insert, LawfulEqCmp.compare_eq_iff_eq]

theorem grants_setGrant (key : PortalTransferId) :
    (lifecycle.setGrant id grant).grants[key]? =
      if id = key then some grant else lifecycle.grants[key]? := by
  simp only [setGrant, ExtTreeMap.getElem?_insert, LawfulEqCmp.compare_eq_iff_eq]

@[simp] theorem grants_setRequest : (lifecycle.setRequest id request).grants = lifecycle.grants :=
  rfl

@[simp] theorem requests_setGrant : (lifecycle.setGrant id grant).requests = lifecycle.requests :=
  rfl

theorem mem_grants (h : lifecycle.grants[id]? = some grant) : id ∈ lifecycle.grants := by
  rw [ExtTreeMap.mem_iff_isSome_getElem?, h]
  rfl

theorem requests_closeWhere (key : PortalTransferId) :
    (closeWhere state lifecycle matching).2.requests[key]? =
      lifecycle.requests[key]?.map (lifecycle.sweptRequest matching key) := by
  simp only [closeWhere, ExtTreeMap.getElem?_map]

theorem grants_closeWhere (key : PortalTransferId) :
    (closeWhere state lifecycle matching).2.grants[key]? =
      lifecycle.grants[key]?.map (sweptGrant state lifecycle matching key) := by
  simp only [closeWhere, ExtTreeMap.getElem?_map]

theorem pendingOrActiveCount_eq :
    lifecycle.pendingOrActiveCount =
      (Ordered.keysWhere isPending lifecycle.requests).card +
        (Ordered.keysWhere isActive lifecycle.grants).card := by
  rw [pendingOrActiveCount, Ordered.countP_values, Ordered.countP_values]

theorem mem_pending : key ∈ Ordered.keysWhere isPending lifecycle.requests ↔
    ∃ request, lifecycle.requests[key]? = some request ∧ request.transfer.decision = .pending := by
  simp [Ordered.mem_keysWhere, isPending]

theorem mem_active : key ∈ Ordered.keysWhere isActive lifecycle.grants ↔
    ∃ grant, lifecycle.grants[key]? = some grant ∧ grant.state = .active := by
  simp [Ordered.mem_keysWhere, isActive]

/-- Nothing pending or active appears that was not there before. -/
theorem count_mono (lifecycle : PortalRequestGrantLifecycle)
    (hpending : Ordered.keysWhere isPending lifecycle'.requests ⊆
      Ordered.keysWhere isPending lifecycle.requests)
    (hactive : Ordered.keysWhere isActive lifecycle'.grants ⊆
      Ordered.keysWhere isActive lifecycle.grants) :
    lifecycle'.pendingOrActiveCount ≤ lifecycle.pendingOrActiveCount := by
  have hp := Finset.card_le_card hpending
  have ha := Finset.card_le_card hactive
  rw [pendingOrActiveCount_eq, pendingOrActiveCount_eq]
  omega

end Lookups

section Sweeps

/-- A sweep leaves a request alone or revokes one that was pending. -/
theorem request_closeWhere (h : (closeWhere state lifecycle matching).2.requests[key]? = some request) :
    lifecycle.requests[key]? = some request ∨
      ∃ old, lifecycle.requests[key]? = some old ∧ old.transfer.decision = .pending ∧
        lifecycle.grants[key]? = none ∧ matching old = true ∧
        request = decideRequest old .revoked := by
  rw [requests_closeWhere] at h
  obtain ⟨old, hold, he⟩ := Option.map_eq_some_iff.mp h
  unfold sweptRequest at he
  split at he
  · rename_i hcloses
    obtain ⟨hcloses, hnot⟩ := hcloses
    have hnone : lifecycle.grants[key]? = none := ExtTreeMap.getElem?_eq_none hnot
    simp only [closes, hnone, Bool.and_eq_true, isPending, decide_eq_true_eq] at hcloses
    exact Or.inr ⟨old, hold, hcloses.2, hnone, hcloses.1, he.symm⟩
  · exact Or.inl (by rw [hold, he])

/-- A sweep leaves a grant alone or closes one that was active. -/
theorem grant_closeWhere (h : (closeWhere state lifecycle matching).2.grants[key]? = some grant) :
    lifecycle.grants[key]? = some grant ∨
      ∃ old, lifecycle.grants[key]? = some old ∧ old.state = .active ∧
        grant = { old with state } := by
  rw [grants_closeWhere] at h
  obtain ⟨old, hold, he⟩ := Option.map_eq_some_iff.mp h
  unfold sweptGrant at he
  cases hrequest : lifecycle.requests[key]? with
  | none =>
    simp only [hrequest] at he
    exact Or.inl (by rw [hold, he])
  | some request =>
    simp only [hrequest] at he
    split at he
    · rename_i hcloses
      simp only [closes, hold, Bool.and_eq_true, isActive, decide_eq_true_eq] at hcloses
      exact Or.inr ⟨old, hold, hcloses.2, he.symm⟩
    · exact Or.inl (by rw [hold, he])

theorem grants_closeWhere_none (h : lifecycle.grants[key]? = none) :
    (closeWhere state lifecycle matching).2.grants[key]? = none := by
  rw [grants_closeWhere, h]
  rfl

theorem count_closeWhere (hstate : state ≠ .active) :
    (closeWhere state lifecycle matching).2.pendingOrActiveCount ≤
      lifecycle.pendingOrActiveCount := by
  refine count_mono lifecycle (fun key hkey => ?_) (fun key hkey => ?_)
  · obtain ⟨request, hget, hpending⟩ := mem_pending.mp hkey
    rcases request_closeWhere hget with hget | ⟨old, -, -, -, -, rfl⟩
    · exact mem_pending.mpr ⟨request, hget, hpending⟩
    · cases hpending
  · obtain ⟨grant, hget, hactive⟩ := mem_active.mp hkey
    rcases grant_closeWhere hget with hget | ⟨old, -, -, rfl⟩
    · exact mem_active.mpr ⟨grant, hget, hactive⟩
    · exact absurd hactive hstate

/-- A sweep keeps every fact but the broker generation, which it does not read. -/
theorem Consistent.closeWhere (h : lifecycle.Consistent) (hstate : state ≠ .active) :
    (closeWhere state lifecycle matching).2.Consistent where
  keyed := by
    intro id request hget
    rcases request_closeWhere hget with hget | ⟨old, hold, -, -, -, rfl⟩
    · exact h.keyed id request hget
    · exact h.keyed id old hold
  granted := by
    intro id
    constructor
    · rintro ⟨grant, hget⟩
      have hgrant : ∃ grant, lifecycle.grants[id]? = some grant := by
        rcases grant_closeWhere hget with hget | ⟨old, hold, -⟩
        · exact ⟨grant, hget⟩
        · exact ⟨old, hold⟩
      obtain ⟨request, hrequest, hallowed⟩ := (h.granted id).mp hgrant
      refine ⟨request, ?_, hallowed⟩
      obtain ⟨old, hold⟩ := hgrant
      rw [requests_closeWhere, hrequest, Option.map_some, sweptRequest, if_neg]
      exact fun hcloses => hcloses.2 (mem_grants hold)
    · rintro ⟨request, hget, hallowed⟩
      rcases request_closeWhere hget with hget | ⟨old, -, -, -, -, rfl⟩
      · obtain ⟨grant, hgrant⟩ := (h.granted id).mpr ⟨request, hget, hallowed⟩
        rw [grants_closeWhere, hgrant]
        exact ⟨_, rfl⟩
      · cases hallowed
  faithful := by
    intro id grant request hgrant hrequest
    have hsame : ∃ old, lifecycle.grants[id]? = some old ∧ old.transfer = grant.transfer ∧
        old.sourceNamespace = grant.sourceNamespace ∧
        old.targetNamespace = grant.targetNamespace ∧ old.kind = grant.kind := by
      rcases grant_closeWhere hgrant with hget | ⟨old, hold, -, rfl⟩
      · exact ⟨grant, hget, rfl, rfl, rfl, rfl⟩
      · exact ⟨old, hold, rfl, rfl, rfl, rfl⟩
    obtain ⟨old, hold, htransfer, hsource, htarget, hkind⟩ := hsame
    rw [← htransfer, ← hsource, ← htarget, ← hkind]
    rcases request_closeWhere hrequest with hget | ⟨was, hwas, -, hnone, -, rfl⟩
    · exact h.faithful id old request hold hget
    · rw [hold] at hnone
      cases hnone
  bounded := (count_closeWhere hstate).trans h.bounded
  current := by
    intro id grant hget hactive
    rcases grant_closeWhere hget with hget | ⟨old, -, -, rfl⟩
    · exact h.current id grant hget hactive
    · exact absurd hactive hstate

end Sweeps

section Steps

theorem Consistent.no_grant (h : lifecycle.Consistent)
    (hnot : ∀ request : PortalRequest, lifecycle.requests[id]? = some request →
      request.transfer.decision ≠ .allowed) :
    lifecycle.grants[id]? = none := by
  cases hgrant : lifecycle.grants[id]? with
  | none => rfl
  | some grant =>
    obtain ⟨request, hget, hallowed⟩ := (h.granted id).mp ⟨grant, hgrant⟩
    exact absurd hallowed (hnot request hget)

/-- Writing a request that is not allowed and has no grant. -/
theorem Consistent.setRequest (h : lifecycle.Consistent) (hkey : request.transfer.transfer = id)
    (hnot : request.transfer.decision ≠ .allowed) (hnone : lifecycle.grants[id]? = none)
    (hcount : (lifecycle.setRequest id request).pendingOrActiveCount ≤ lifecycle.capacity) :
    (lifecycle.setRequest id request).Consistent where
  keyed := by
    intro key found hget
    rw [requests_setRequest] at hget
    split at hget
    · rename_i he
      cases hget
      rw [hkey, he]
    · exact h.keyed key found hget
  granted := by
    intro key
    rw [grants_setRequest, requests_setRequest]
    split
    · rename_i he
      subst he
      rw [hnone]
      constructor
      · rintro ⟨grant, hgrant⟩
        cases hgrant
      · rintro ⟨found, hget, hallowed⟩
        cases hget
        exact absurd hallowed hnot
    · exact h.granted key
  faithful := by
    intro key grant found hgrant hget
    rw [grants_setRequest] at hgrant
    rw [requests_setRequest] at hget
    split at hget
    · rename_i he
      subst he
      rw [hnone] at hgrant
      cases hgrant
    · exact h.faithful key grant found hgrant hget
  bounded := hcount
  current := h.current

theorem pending_setRequest_subset (lifecycle : PortalRequestGrantLifecycle)
    (id : PortalTransferId) (request : PortalRequest) :
    Ordered.keysWhere isPending (lifecycle.setRequest id request).requests ⊆
      insert id (Ordered.keysWhere isPending lifecycle.requests) := by
  intro key hkey
  obtain ⟨found, hget, hpending⟩ := mem_pending.mp hkey
  rw [requests_setRequest] at hget
  split at hget
  · rename_i he
    rw [← he]
    exact Finset.mem_insert_self _ _
  · exact Finset.mem_insert_of_mem (mem_pending.mpr ⟨found, hget, hpending⟩)

/-- Deciding a request takes it out of the pending ones. -/
theorem pending_decideRequest (lifecycle : PortalRequestGrantLifecycle) (id : PortalTransferId)
    (request : PortalRequest) {decision : PortalDecision} (hdecision : decision ≠ .pending) :
    Ordered.keysWhere isPending
        (lifecycle.setRequest id (decideRequest request decision)).requests ⊆
      (Ordered.keysWhere isPending lifecycle.requests).erase id := by
  intro key hkey
  obtain ⟨found, hget, hpending⟩ := mem_pending.mp hkey
  rw [requests_setRequest] at hget
  split at hget
  · cases hget
    exact absurd hpending hdecision
  · rename_i hne
    exact Finset.mem_erase.mpr ⟨Ne.symm hne, mem_pending.mpr ⟨found, hget, hpending⟩⟩

theorem active_setGrant_subset (lifecycle : PortalRequestGrantLifecycle)
    (id : PortalTransferId) (grant : PortalGrant) :
    Ordered.keysWhere isActive (lifecycle.setGrant id grant).grants ⊆
      insert id (Ordered.keysWhere isActive lifecycle.grants) := by
  intro key hkey
  obtain ⟨found, hget, hactive⟩ := mem_active.mp hkey
  rw [grants_setGrant] at hget
  split at hget
  · rename_i he
    rw [← he]
    exact Finset.mem_insert_self _ _
  · exact Finset.mem_insert_of_mem (mem_active.mpr ⟨found, hget, hactive⟩)

theorem Consistent.submitted (h : lifecycle.Consistent) (hvalid : validRequest request = true)
    (hnew : request.transfer.transfer ∉ lifecycle.requests)
    (hroom : lifecycle.pendingOrActiveCount < lifecycle.capacity) :
    (lifecycle.setRequest request.transfer.transfer request).Consistent := by
  have hpending : request.transfer.decision = .pending := by
    simp only [validRequest, decide_eq_true_eq] at hvalid
    exact hvalid.2.2.2.2.1
  refine h.setRequest rfl (by simp [hpending]) (h.no_grant fun found hget => ?_) ?_
  · rw [ExtTreeMap.getElem?_eq_none hnew] at hget
    cases hget
  · have hp := Finset.card_le_card (pending_setRequest_subset lifecycle
      request.transfer.transfer request)
    have hi := Finset.card_insert_le request.transfer.transfer
      (Ordered.keysWhere isPending lifecycle.requests)
    rw [pendingOrActiveCount_eq] at hroom ⊢
    rw [grants_setRequest]
    omega

theorem Consistent.refused {decision : PortalDecision} (h : lifecycle.Consistent)
    (hget : lifecycle.requests[id]? = some request) (hpending : request.transfer.decision = .pending)
    (hdecision : decision = .denied ∨ decision = .revoked) :
    (lifecycle.setRequest id (decideRequest request decision)).Consistent := by
  have hnot : decision ≠ .allowed ∧ decision ≠ .pending := by
    rcases hdecision with rfl | rfl <;> decide
  refine h.setRequest (h.keyed id request hget) hnot.1 (h.no_grant fun found hfound => ?_) ?_
  · rw [hget] at hfound
    cases hfound
    rw [hpending]
    decide
  · refine Nat.le_trans (count_mono lifecycle ?_ ?_) h.bounded
    · exact (pending_decideRequest lifecycle id request hnot.2).trans (Finset.erase_subset _ _)
    · exact Finset.Subset.refl _

theorem Consistent.allowed (h : lifecycle.Consistent)
    (hget : lifecycle.requests[id]? = some request) (hpending : request.transfer.decision = .pending)
    (generation : UInt64) :
    ((lifecycle.setRequest id (decideRequest request .allowed)).setGrant id
      (lifecycle.grantFor id request generation)).Consistent where
  keyed := by
    intro key found hfound
    rw [requests_setGrant, requests_setRequest] at hfound
    split at hfound
    · rename_i he
      cases hfound
      rw [← he]
      exact h.keyed id request hget
    · exact h.keyed key found hfound
  granted := by
    intro key
    rw [grants_setGrant, requests_setGrant, requests_setRequest]
    split
    · exact iff_of_true ⟨_, rfl⟩ ⟨_, rfl, rfl⟩
    · exact h.granted key
  faithful := by
    intro key grant found hgrant hfound
    rw [grants_setGrant] at hgrant
    rw [requests_setGrant, requests_setRequest] at hfound
    split at hgrant
    · rename_i he
      subst he
      cases hgrant
      rw [if_pos rfl] at hfound
      cases hfound
      exact ⟨(h.keyed id request hget).symm, rfl, rfl, rfl⟩
    · rename_i hne
      rw [if_neg hne] at hfound
      exact h.faithful key grant found hgrant hfound
  bounded := by
    -- The transfer moves from the pending requests to the active grants.
    have hmem : id ∈ Ordered.keysWhere isPending lifecycle.requests :=
      mem_pending.mpr ⟨request, hget, hpending⟩
    have hp := Finset.card_le_card (pending_decideRequest lifecycle id request
      (show PortalDecision.allowed ≠ .pending by decide))
    rw [Finset.card_erase_of_mem hmem] at hp
    have hpos := Finset.card_pos.mpr ⟨id, hmem⟩
    have ha := (Finset.card_le_card (active_setGrant_subset
      (lifecycle.setRequest id (decideRequest request .allowed)) id
      (lifecycle.grantFor id request generation))).trans (Finset.card_insert_le _ _)
    have hb := h.bounded
    rw [pendingOrActiveCount_eq] at hb ⊢
    show _ ≤ lifecycle.capacity
    rw [requests_setGrant]
    rw [grants_setRequest] at ha
    omega
  current := by
    intro key grant hgrant hactive
    rw [grants_setGrant] at hgrant
    split at hgrant
    · cases hgrant
      rfl
    · exact h.current key grant hgrant hactive

theorem Consistent.closed (h : lifecycle.Consistent) (hget : lifecycle.grants[id]? = some grant)
    (hstate : state ≠ .active) :
    (lifecycle.setGrant id { grant with state }).Consistent where
  keyed := h.keyed
  granted := by
    intro key
    rw [grants_setGrant, requests_setGrant]
    split
    · rename_i he
      subst he
      exact iff_of_true ⟨_, rfl⟩ ((h.granted id).mp ⟨grant, hget⟩)
    · exact h.granted key
  faithful := by
    intro key found request hgrant hrequest
    rw [grants_setGrant] at hgrant
    split at hgrant
    · rename_i he
      subst he
      cases hgrant
      exact h.faithful id grant request hget hrequest
    · exact h.faithful key found request hgrant hrequest
  bounded := by
    refine Nat.le_trans (count_mono lifecycle ?_ fun key hkey => ?_) h.bounded
    · exact Finset.Subset.refl _
    obtain ⟨found, hgrant, hactive⟩ := mem_active.mp hkey
    rw [grants_setGrant] at hgrant
    split at hgrant
    · cases hgrant
      exact absurd hactive hstate
    · exact mem_active.mpr ⟨found, hgrant, hactive⟩
  current := by
    intro key found hgrant hactive
    rw [grants_setGrant] at hgrant
    split at hgrant
    · cases hgrant
      exact absurd hactive hstate
    · exact h.current key found hgrant hactive

/-- Every operation keeps requests and grants consistent. -/
theorem Consistent.effect (h : lifecycle.Consistent) (he : lifecycle.Effect lifecycle') :
    lifecycle'.Consistent := by
  cases he with
  | same => exact h
  | submitted request hvalid hnew hroom => exact h.submitted hvalid hnew hroom
  | refused id request decision hget hpending hdecision => exact h.refused hget hpending hdecision
  | allowed id request generation hget hpending => exact h.allowed hget hpending generation
  | closed id grant state hget hactive hstate => exact h.closed hget hstate
  | swept matching state hstate => exact h.closeWhere hstate
  | restarted brokerGeneration hlater =>
    have hswept : (PortalRequestGrantLifecycle.closeWhere .revoked lifecycle
        fun _ => true).2.Consistent := h.closeWhere (by decide)
    refine ⟨hswept.keyed, hswept.granted, hswept.faithful, hswept.bounded, ?_⟩
    intro id grant hget hactive
    -- A restart leaves no active grant that could carry the old generation.
    exfalso
    rcases grant_closeWhere hget with hold | ⟨old, -, -, rfl⟩
    · obtain ⟨request, hrequest, -⟩ := (h.granted id).mp ⟨grant, hold⟩
      change (PortalRequestGrantLifecycle.closeWhere .revoked lifecycle _).2.grants[id]? = _ at hget
      rw [grants_closeWhere, hold, Option.map_some, sweptGrant, hrequest] at hget
      have hcloses : lifecycle.closes (fun _ => true) id request = true := by
        simp [closes, hold, isActive, hactive]
      simp only [hcloses, if_true, Option.some.injEq] at hget
      rw [← hget] at hactive
      cases hactive
    · cases hactive

/-- Decided requests and closed grants never change again. -/
def Absorbed (lifecycle lifecycle' : PortalRequestGrantLifecycle) : Prop :=
  (∀ (id : PortalTransferId) (request : PortalRequest), lifecycle.requests[id]? = some request →
    request.transfer.decision ≠ .pending → lifecycle'.requests[id]? = some request) ∧
  ∀ (id : PortalTransferId) (grant : PortalGrant), lifecycle.grants[id]? = some grant →
    grant.state ≠ .active → lifecycle'.grants[id]? = some grant

theorem absorbed_closeWhere : Absorbed lifecycle (closeWhere state lifecycle matching).2 := by
  refine ⟨fun id request hget hdecided => ?_, fun id grant hget hclosed => ?_⟩
  · rw [requests_closeWhere, hget, Option.map_some, sweptRequest, if_neg]
    rintro ⟨hcloses, hnot⟩
    simp [closes, ExtTreeMap.getElem?_eq_none hnot, isPending, hdecided] at hcloses
  · rw [grants_closeWhere, hget, Option.map_some, sweptGrant]
    cases hrequest : lifecycle.requests[id]? with
    | none => rfl
    | some request => simp [closes, hget, isActive, hclosed]

theorem absorbed_effect (h : lifecycle.Consistent) (he : lifecycle.Effect lifecycle') :
    Absorbed lifecycle lifecycle' := by
  cases he with
  | same => exact ⟨fun _ _ hget _ => hget, fun _ _ hget _ => hget⟩
  | submitted request hvalid hnew hroom =>
    refine ⟨fun id found hget hdecided => ?_, fun id grant hget hclosed => hget⟩
    rw [requests_setRequest, if_neg]
    · exact hget
    · rintro rfl
      rw [ExtTreeMap.getElem?_eq_none hnew] at hget
      cases hget
  | refused id request decision hget hpending hdecision =>
    refine ⟨fun key found hfound hdecided => ?_, fun key grant hgrant hclosed => hgrant⟩
    rw [requests_setRequest, if_neg]
    · exact hfound
    · rintro rfl
      rw [hget] at hfound
      cases hfound
      exact hdecided hpending
  | allowed id request generation hget hpending =>
    refine ⟨fun key found hfound hdecided => ?_, fun key grant hgrant hclosed => ?_⟩
    · rw [requests_setGrant, requests_setRequest, if_neg]
      · exact hfound
      · rintro rfl
        rw [hget] at hfound
        cases hfound
        exact hdecided hpending
    · rw [grants_setGrant, if_neg]
      · exact hgrant
      · rintro rfl
        obtain ⟨found, hfound, hallowed⟩ := (h.granted id).mp ⟨grant, hgrant⟩
        rw [hget] at hfound
        cases hfound
        rw [hpending] at hallowed
        cases hallowed
  | closed id grant state hget hactive hstate =>
    refine ⟨fun key found hfound hdecided => hfound, fun key found hfound hclosed => ?_⟩
    rw [grants_setGrant, if_neg]
    · exact hfound
    · rintro rfl
      rw [hget] at hfound
      cases hfound
      exact hclosed hactive
  | swept matching state hstate => exact absorbed_closeWhere
  | restarted brokerGeneration hlater => exact absorbed_closeWhere

theorem Absorbed.trans {lifecycle'' : PortalRequestGrantLifecycle}
    (h : Absorbed lifecycle lifecycle') (h' : Absorbed lifecycle' lifecycle'') :
    Absorbed lifecycle lifecycle'' :=
  ⟨fun id request hget hdecided => h'.1 id request (h.1 id request hget hdecided) hdecided,
    fun id grant hget hclosed => h'.2 id grant (h.2 id grant hget hclosed) hclosed⟩

end Steps

section Revocations

/-- The operation closes the open entries that match, changes nothing else, and reports exactly
the entries it changed. -/
structure Revokes (matching : PortalRequest → Bool) (lifecycle : PortalRequestGrantLifecycle)
    (ids : List PortalTransferId) (lifecycle' : PortalRequestGrantLifecycle) : Prop where
  none_left : ∀ (id : PortalTransferId) (request : PortalRequest),
    lifecycle'.requests[id]? = some request → matching request = true →
      request.transfer.decision ≠ .pending ∧
        ∀ grant : PortalGrant, lifecycle'.grants[id]? = some grant → grant.state ≠ .active
  others_kept : ∀ (id : PortalTransferId) (request : PortalRequest),
    lifecycle.requests[id]? = some request → matching request = false →
      lifecycle'.requests[id]? = some request ∧ lifecycle'.grants[id]? = lifecycle.grants[id]?
  reported : ∀ id : PortalTransferId, id ∈ ids ↔
    lifecycle'.requests[id]? ≠ lifecycle.requests[id]? ∨
      lifecycle'.grants[id]? ≠ lifecycle.grants[id]?

theorem mem_closeWhere : id ∈ (closeWhere state lifecycle matching).1 ↔
    ∃ request, lifecycle.requests[id]? = some request ∧
      lifecycle.closes matching id request = true := by
  simp only [closeWhere, List.mem_map, List.mem_filter, Prod.exists,
    ExtTreeMap.mem_toList_iff_getElem?_eq_some]
  constructor
  · rintro ⟨key, request, ⟨hget, hcloses⟩, rfl⟩
    exact ⟨request, hget, hcloses⟩
  · rintro ⟨request, hget, hcloses⟩
    exact ⟨id, request, ⟨hget, hcloses⟩, rfl⟩

/-- An entry that is not closed keeps its request and its grant. -/
theorem entry_closeWhere (state : PortalGrantState) (hget : lifecycle.requests[id]? = some request)
    (hkept : lifecycle.closes matching id request = false) :
    (closeWhere state lifecycle matching).2.requests[id]? = some request ∧
      (closeWhere state lifecycle matching).2.grants[id]? = lifecycle.grants[id]? := by
  refine ⟨by simp [requests_closeWhere, hget, sweptRequest, hkept], ?_⟩
  rw [grants_closeWhere]
  cases hgrant : lifecycle.grants[id]? with
  | none => rfl
  | some grant => simp [sweptGrant, hget, hkept]

theorem request_ne_of_closes (hget : lifecycle.requests[id]? = some request)
    (hnone : lifecycle.grants[id]? = none) (hcloses : lifecycle.closes matching id request = true) :
    (closeWhere state lifecycle matching).2.requests[id]? ≠ lifecycle.requests[id]? := by
  have hpending : request.transfer.decision = .pending := by
    simp only [closes, hnone, Bool.and_eq_true, isPending, decide_eq_true_eq] at hcloses
    exact hcloses.2
  have hnot : id ∉ lifecycle.grants := by
    rw [ExtTreeMap.mem_iff_isSome_getElem?, hnone]
    simp
  rw [requests_closeWhere, hget, Option.map_some, sweptRequest, if_pos ⟨hcloses, hnot⟩]
  intro he
  have hsame := congrArg (fun r => r.transfer.decision) (Option.some.inj he)
  rw [hpending] at hsame
  cases hsame

theorem grant_ne_of_closes (hstate : state ≠ .active)
    (hget : lifecycle.requests[id]? = some request) (hgrant : lifecycle.grants[id]? = some grant)
    (hcloses : lifecycle.closes matching id request = true) :
    (closeWhere state lifecycle matching).2.grants[id]? ≠ lifecycle.grants[id]? := by
  have hactive : grant.state = .active := by
    simp only [closes, hgrant, Bool.and_eq_true, isActive, decide_eq_true_eq] at hcloses
    exact hcloses.2
  rw [grants_closeWhere, hgrant, Option.map_some, sweptGrant, hget]
  simp only [hcloses, if_true]
  intro he
  have hsame := congrArg PortalGrant.state (Option.some.inj he)
  exact hstate (hsame.trans hactive)

/-- A matching request is not pending after the sweep: without a grant it is revoked, and with
one it was allowed before. -/
theorem request_settled (h : lifecycle.Consistent) (hget : lifecycle.requests[id]? = some request)
    (hmatch : matching request = true) :
    (lifecycle.sweptRequest matching id request).transfer.decision ≠ .pending := by
  unfold sweptRequest
  split
  · exact fun he => by cases he
  · rename_i hkept
    intro hpending
    cases hgrant : lifecycle.grants[id]? with
    | none =>
      refine hkept ⟨by simp [closes, hgrant, isPending, hmatch, hpending], ?_⟩
      rw [ExtTreeMap.mem_iff_isSome_getElem?, hgrant]
      simp
    | some grant =>
      obtain ⟨found, hfound, hallowed⟩ := (h.granted id).mp ⟨grant, hgrant⟩
      rw [hget] at hfound
      cases hfound
      rw [hpending] at hallowed
      cases hallowed

theorem grant_settled (hstate : state ≠ .active) (hget : lifecycle.requests[id]? = some request)
    (hgrant : lifecycle.grants[id]? = some grant) (hmatch : matching request = true) :
    (sweptGrant state lifecycle matching id grant).state ≠ .active := by
  simp only [sweptGrant, hget]
  split
  · exact hstate
  · rename_i hkept
    intro hactive
    exact hkept (by simp [closes, hgrant, isActive, hmatch, hactive])

/-- A sweep over a property of the request that decisions do not change. -/
theorem revokes_closeWhere (h : lifecycle.Consistent) (hstate : state ≠ .active)
    (hmatching : ∀ request decision, matching (decideRequest request decision) = matching request) :
    Revokes matching lifecycle (closeWhere state lifecycle matching).1
      (closeWhere state lifecycle matching).2 where
  none_left := by
    intro id request hrequest hmatch
    have hold : ∃ old, lifecycle.requests[id]? = some old ∧ matching old = true ∧
        lifecycle.sweptRequest matching id old = request := by
      rw [requests_closeWhere] at hrequest
      obtain ⟨old, hold, rfl⟩ := Option.map_eq_some_iff.mp hrequest
      refine ⟨old, hold, ?_, rfl⟩
      unfold sweptRequest at hmatch
      split at hmatch
      · rwa [hmatching] at hmatch
      · exact hmatch
    obtain ⟨old, hold, hmatches, rfl⟩ := hold
    refine ⟨request_settled h hold hmatches, fun grant hget => ?_⟩
    rw [grants_closeWhere] at hget
    obtain ⟨was, hwas, rfl⟩ := Option.map_eq_some_iff.mp hget
    exact grant_settled hstate hold hwas hmatches
  others_kept := by
    intro id request hget hother
    exact entry_closeWhere state hget (by simp [closes, hother])
  reported := by
    intro id
    rw [mem_closeWhere]
    constructor
    · rintro ⟨request, hget, hcloses⟩
      cases hgrant : lifecycle.grants[id]? with
      | none => exact Or.inl (request_ne_of_closes hget hgrant hcloses)
      | some grant =>
        rw [← hgrant]
        exact Or.inr (grant_ne_of_closes hstate hget hgrant hcloses)
    · intro hchanged
      cases hget : lifecycle.requests[id]? with
      | none =>
        have hnone : lifecycle.grants[id]? = none := by
          refine h.no_grant fun request hr => ?_
          rw [hget] at hr
          cases hr
        rw [requests_closeWhere, grants_closeWhere_none hnone, hget, hnone] at hchanged
        simp at hchanged
      | some request =>
        refine ⟨request, rfl, ?_⟩
        by_contra hkept
        obtain ⟨hrequest, hgrant⟩ :=
          entry_closeWhere state hget (show lifecycle.closes matching id request = false by
            simpa using hkept)
        rw [hrequest, hgrant, hget] at hchanged
        simp at hchanged

end Revocations
end PortalRequestGrantLifecycle
end Sophia.Portal
