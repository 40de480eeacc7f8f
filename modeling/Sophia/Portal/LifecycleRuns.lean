import Sophia.Portal.LifecycleEffects

/-! What holds of requests and grants after every run of the broker's operations. -/
namespace Sophia.Portal

open Std Sophia.Protocol

inductive LifecycleOp where
  | submit (request : PortalRequest) (nowMsec : UInt64)
  | decide (transfer : PortalTransferId) (decision : PortalPolicyDecision)
      (sourceGeneration nowMsec : UInt64)
  | complete (transfer : PortalTransferId)
  | executorFailed (transfer : PortalTransferId)
  | expire (nowMsec : UInt64)
  | sourceOwnerChanged (sourceNamespace : NamespaceId) (generation : UInt64)
  | namespaceDisconnected (ns : NamespaceId)
  | brokerRestarted (brokerGeneration : UInt64)

/-- The lifecycle with the transfers it has accepted and those whose grant it has completed. -/
structure LifecycleLog where
  lifecycle : PortalRequestGrantLifecycle
  accepted : List PortalTransferId
  completed : List PortalTransferId

namespace LifecycleLog

open PortalRequestGrantLifecycle

variable {log : LifecycleLog} {op : LifecycleOp} {id : PortalTransferId}

def start (lifecycle : PortalRequestGrantLifecycle) : LifecycleLog := ⟨lifecycle, [], []⟩

def step (log : LifecycleLog) : LifecycleOp → LifecycleLog
  | .submit request nowMsec => match log.lifecycle.submit request nowMsec with
    | .ok lifecycle =>
      { log with lifecycle, accepted := log.accepted ++ [request.transfer.transfer] }
    | .error _ => log
  | .decide transfer decision sourceGeneration nowMsec =>
    { log with lifecycle := (log.lifecycle.decide transfer decision sourceGeneration nowMsec).2 }
  | .complete transfer => match log.lifecycle.complete transfer with
    | .ok lifecycle => { log with lifecycle, completed := log.completed ++ [transfer] }
    | .error _ => log
  | .executorFailed transfer => match log.lifecycle.executorFailed transfer with
    | .ok lifecycle => { log with lifecycle }
    | .error _ => log
  | .expire nowMsec => { log with lifecycle := (log.lifecycle.expire nowMsec).2 }
  | .sourceOwnerChanged sourceNamespace generation =>
    { log with lifecycle := (log.lifecycle.sourceOwnerChanged sourceNamespace generation).2 }
  | .namespaceDisconnected ns =>
    { log with lifecycle := (log.lifecycle.namespaceDisconnected ns).2 }
  | .brokerRestarted brokerGeneration => match log.lifecycle.brokerRestarted brokerGeneration with
    | .ok (_, lifecycle) => { log with lifecycle }
    | .error _ => log

theorem submit_ok {lifecycle lifecycle' : PortalRequestGrantLifecycle} {request : PortalRequest}
    {nowMsec : UInt64} (h : lifecycle.submit request nowMsec = .ok lifecycle') :
    validRequest request = true ∧ request.transfer.transfer ∉ lifecycle.requests ∧
      lifecycle.pendingOrActiveCount < lifecycle.capacity ∧
      lifecycle' = lifecycle.setRequest request.transfer.transfer request := by
  unfold submit at h
  split at h
  · cases h
  · rename_i hvalid
    split at h
    · cases h
    · split at h
      · cases h
      · rename_i hnew
        split at h
        · cases h
        · rename_i hroom
          cases h
          exact ⟨by simpa using hvalid, hnew, by omega, rfl⟩

theorem effect_decide (lifecycle : PortalRequestGrantLifecycle) (transfer : PortalTransferId)
    (decision : PortalPolicyDecision) (sourceGeneration nowMsec : UInt64) :
    lifecycle.Effect (lifecycle.decide transfer decision sourceGeneration nowMsec).2 := by
  unfold PortalRequestGrantLifecycle.decide
  cases hget : lifecycle.requests[transfer]? with
  | none => exact .same
  | some request =>
    by_cases hpending : request.transfer.decision = .pending
    · simp only [hpending, ne_eq, not_true_eq_false, if_false]
      split
      · exact .refused transfer request .revoked hget hpending (Or.inr rfl)
      · split
        · exact .refused transfer request .revoked hget hpending (Or.inr rfl)
        · cases decision with
          | deny => exact .refused transfer request .denied hget hpending (Or.inl rfl)
          | allow => exact .allowed transfer request sourceGeneration hget hpending
    · simp only [hpending, ne_eq, not_false_eq_true, if_true]
      exact .same

theorem closeGrant_ok {lifecycle lifecycle' : PortalRequestGrantLifecycle}
    {state : PortalGrantState} {transfer : PortalTransferId}
    (h : closeGrant state lifecycle transfer = .ok lifecycle') :
    ∃ grant, lifecycle.grants[transfer]? = some grant ∧ grant.state = .active ∧
      lifecycle' = lifecycle.setGrant transfer { grant with state } := by
  simp only [closeGrant, Fallible.bind_eq_ok, Fallible.pure_eq_ok] at h
  obtain ⟨grant, hactive, rfl⟩ := h
  unfold activeGrant at hactive
  cases hget : lifecycle.grants[transfer]? with
  | none => simp [hget] at hactive
  | some found =>
    simp only [hget] at hactive
    split at hactive
    · cases hactive
    · rename_i hstate
      cases hactive
      exact ⟨grant, rfl, not_not.mp hstate, rfl⟩

/-- Every operation has one of the effects. -/
theorem effect_step (log : LifecycleLog) (op : LifecycleOp) :
    log.lifecycle.Effect (log.step op).lifecycle := by
  cases op with
  | submit request nowMsec =>
    simp only [step]
    cases hsubmit : log.lifecycle.submit request nowMsec with
    | error error => exact .same
    | ok lifecycle =>
      obtain ⟨hvalid, hnew, hroom, rfl⟩ := submit_ok hsubmit
      exact .submitted request hvalid hnew hroom
  | decide transfer decision sourceGeneration nowMsec => exact effect_decide ..
  | complete transfer =>
    simp only [step]
    cases hcomplete : log.lifecycle.complete transfer with
    | error error => exact .same
    | ok lifecycle =>
      obtain ⟨grant, hget, hactive, rfl⟩ := closeGrant_ok hcomplete
      exact .closed transfer grant .completed hget hactive (by decide)
  | executorFailed transfer =>
    simp only [step]
    cases hfailed : log.lifecycle.executorFailed transfer with
    | error error => exact .same
    | ok lifecycle =>
      obtain ⟨grant, hget, hactive, rfl⟩ := closeGrant_ok hfailed
      exact .closed transfer grant .revoked hget hactive (by decide)
  | expire nowMsec => exact .swept _ .expired (by decide)
  | sourceOwnerChanged sourceNamespace generation => exact .swept _ .revoked (by decide)
  | namespaceDisconnected ns => exact .swept _ .revoked (by decide)
  | brokerRestarted brokerGeneration =>
    simp only [step, brokerRestarted]
    by_cases hlater : brokerGeneration ≤ log.lifecycle.brokerGeneration
    · rw [if_pos hlater]
      exact .same
    · rw [if_neg hlater]
      exact .restarted brokerGeneration (UInt64.not_le.mp hlater)

theorem capacity_effect {lifecycle lifecycle' : PortalRequestGrantLifecycle}
    (h : lifecycle.Effect lifecycle') : lifecycle'.capacity = lifecycle.capacity := by
  cases h <;> rfl

/-- No request is ever forgotten. -/
theorem mem_effect {lifecycle lifecycle' : PortalRequestGrantLifecycle}
    (h : lifecycle.Effect lifecycle') (hmem : id ∈ lifecycle.requests) :
    id ∈ lifecycle'.requests := by
  cases h with
  | same => exact hmem
  | submitted request hvalid hnew hroom => exact Ordered.mem_insert.mpr (Or.inr hmem)
  | refused key request decision hget hpending hdecision =>
    exact Ordered.mem_insert.mpr (Or.inr hmem)
  | allowed key request generation hget hpending => exact Ordered.mem_insert.mpr (Or.inr hmem)
  | closed key grant state hget hactive hstate => exact hmem
  | swept matching state hstate => exact ExtTreeMap.mem_map.mpr hmem
  | restarted brokerGeneration hlater => exact ExtTreeMap.mem_map.mpr hmem

/-- The lists say what is in the tables, and nothing twice. -/
structure Recorded (log : LifecycleLog) : Prop where
  consistent : log.lifecycle.Consistent
  accepted : ∀ id ∈ log.accepted, id ∈ log.lifecycle.requests
  accepted_once : log.accepted.Nodup
  completed : ∀ id ∈ log.completed, ∃ grant : PortalGrant,
    log.lifecycle.grants[id]? = some grant ∧ grant.state = .completed
  completed_once : log.completed.Nodup

theorem accepted_step (log : LifecycleLog) (op : LifecycleOp) :
    (log.step op).accepted = log.accepted ∨
      ∃ id, (log.step op).accepted = log.accepted ++ [id] ∧ id ∉ log.lifecycle.requests ∧
        id ∈ (log.step op).lifecycle.requests := by
  cases op with
  | submit request nowMsec =>
    simp only [step]
    cases hsubmit : log.lifecycle.submit request nowMsec with
    | error error => exact Or.inl rfl
    | ok lifecycle =>
      obtain ⟨-, hnew, -, rfl⟩ := submit_ok hsubmit
      exact Or.inr ⟨_, rfl, hnew, Ordered.mem_insert.mpr (Or.inl rfl)⟩
  | complete transfer =>
    simp only [step]
    cases log.lifecycle.complete transfer <;> exact Or.inl rfl
  | executorFailed transfer =>
    simp only [step]
    cases log.lifecycle.executorFailed transfer <;> exact Or.inl rfl
  | brokerRestarted brokerGeneration =>
    simp only [step]
    cases log.lifecycle.brokerRestarted brokerGeneration <;> exact Or.inl rfl
  | _ => exact Or.inl rfl

theorem completed_step (log : LifecycleLog) (op : LifecycleOp) :
    (log.step op).completed = log.completed ∨
      ∃ id, (log.step op).completed = log.completed ++ [id] ∧
        (∃ grant : PortalGrant, log.lifecycle.grants[id]? = some grant ∧ grant.state = .active) ∧
        ∃ grant : PortalGrant, (log.step op).lifecycle.grants[id]? = some grant ∧
          grant.state = .completed := by
  cases op with
  | submit request nowMsec =>
    simp only [step]
    cases log.lifecycle.submit request nowMsec <;> exact Or.inl rfl
  | complete transfer =>
    simp only [step]
    cases hcomplete : log.lifecycle.complete transfer with
    | error error => exact Or.inl rfl
    | ok lifecycle =>
      obtain ⟨grant, hget, hactive, rfl⟩ := closeGrant_ok hcomplete
      refine Or.inr ⟨transfer, rfl, ⟨grant, hget, hactive⟩,
        { grant with state := .completed }, ?_, rfl⟩
      rw [grants_setGrant, if_pos rfl]
  | executorFailed transfer =>
    simp only [step]
    cases log.lifecycle.executorFailed transfer <;> exact Or.inl rfl
  | brokerRestarted brokerGeneration =>
    simp only [step]
    cases log.lifecycle.brokerRestarted brokerGeneration <;> exact Or.inl rfl
  | _ => exact Or.inl rfl

theorem nodup_snoc {ids : List PortalTransferId} (h : ids.Nodup) (hid : id ∉ ids) :
    (ids ++ [id]).Nodup := by
  rw [← List.concat_eq_append]
  exact h.concat hid

theorem Recorded.step (h : log.Recorded) (op : LifecycleOp) : (log.step op).Recorded := by
  have heffect := effect_step log op
  have hkept : ∀ id ∈ log.accepted, id ∈ (log.step op).lifecycle.requests :=
    fun id hid => mem_effect heffect (h.accepted id hid)
  have hdone : ∀ id ∈ log.completed, ∃ grant : PortalGrant,
      (log.step op).lifecycle.grants[id]? = some grant ∧ grant.state = .completed := by
    intro id hid
    obtain ⟨grant, hget, hstate⟩ := h.completed id hid
    exact ⟨grant, (absorbed_effect h.consistent heffect).2 id grant hget (by simp [hstate]), hstate⟩
  have haccepted : (∀ id ∈ (log.step op).accepted, id ∈ (log.step op).lifecycle.requests) ∧
      (log.step op).accepted.Nodup := by
    rcases accepted_step log op with he | ⟨id, he, hnew, hmem⟩
    · rw [he]
      exact ⟨hkept, h.accepted_once⟩
    · rw [he]
      refine ⟨fun key hkey => ?_, nodup_snoc h.accepted_once fun hid => hnew (h.accepted id hid)⟩
      rcases List.mem_append.mp hkey with hkey | hkey
      · exact hkept key hkey
      · rwa [List.mem_singleton.mp hkey]
  have hcompleted : (∀ id ∈ (log.step op).completed, ∃ grant : PortalGrant,
      (log.step op).lifecycle.grants[id]? = some grant ∧ grant.state = .completed) ∧
      (log.step op).completed.Nodup := by
    rcases completed_step log op with he | ⟨id, he, ⟨was, hwas, hactive⟩, hnow⟩
    · rw [he]
      exact ⟨hdone, h.completed_once⟩
    · rw [he]
      refine ⟨fun key hkey => ?_, nodup_snoc h.completed_once fun hid => ?_⟩
      · rcases List.mem_append.mp hkey with hkey | hkey
        · exact hdone key hkey
        · rwa [List.mem_singleton.mp hkey]
      · obtain ⟨grant, hget, hstate⟩ := h.completed id hid
        rw [hwas] at hget
        cases hget
        rw [hactive] at hstate
        cases hstate
  exact ⟨h.consistent.effect heffect, haccepted.1, haccepted.2, hcompleted.1, hcompleted.2⟩

theorem recorded_start {brokerGeneration : UInt64} {capacity : ℕ}
    {lifecycle : PortalRequestGrantLifecycle}
    (h : withCapacity brokerGeneration capacity = .ok lifecycle) :
    (start lifecycle).Recorded ∧ lifecycle.capacity = capacity := by
  unfold withCapacity at h
  split at h
  · cases h
  · cases h
    refine ⟨⟨⟨by simp [start], by simp [start], by simp [start], Nat.zero_le _, by simp [start]⟩,
      by simp [start], List.nodup_nil, by simp [start], List.nodup_nil⟩, rfl⟩

theorem recorded_exec {log : LifecycleLog} (h : log.Recorded) (ops : List LifecycleOp) :
    (Run.exec step log ops).Recorded ∧
      (Run.exec step log ops).lifecycle.capacity = log.lifecycle.capacity ∧
      Absorbed log.lifecycle (Run.exec step log ops).lifecycle := by
  induction ops generalizing log with
  | nil => exact ⟨h, rfl, fun _ _ hget _ => hget, fun _ _ hget _ => hget⟩
  | cons op ops ih =>
    obtain ⟨hrecorded, hcapacity, habsorbed⟩ := ih (h.step op)
    have heffect := effect_step log op
    exact ⟨hrecorded, hcapacity.trans (capacity_effect heffect),
      (absorbed_effect h.consistent heffect).trans habsorbed⟩

/-- After every run: grants exist for exactly the allowed requests and name what they name, the
open entries stay within capacity, no transfer is accepted or completed twice, what is settled
stays settled, and the revocations close what matches and report exactly that. -/
theorem lifecycle_run_invariant {brokerGeneration : UInt64} {capacity : ℕ}
    {lifecycle : PortalRequestGrantLifecycle}
    (h : withCapacity brokerGeneration capacity = .ok lifecycle) (ops : List LifecycleOp) :
    let log := Run.exec step (start lifecycle) ops
    log.lifecycle.Consistent ∧ log.lifecycle.pendingOrActiveCount ≤ capacity ∧
      log.accepted.Nodup ∧ log.completed.Nodup ∧
      (∀ more, Absorbed log.lifecycle (Run.exec step (start lifecycle) (ops ++ more)).lifecycle) ∧
      (∀ ns, Revokes (disconnects ns) log.lifecycle (log.lifecycle.namespaceDisconnected ns).1
        (log.lifecycle.namespaceDisconnected ns).2) ∧
      (∀ ns generation, Revokes (ownerChanged ns generation) log.lifecycle
        (log.lifecycle.sourceOwnerChanged ns generation).1
        (log.lifecycle.sourceOwnerChanged ns generation).2) ∧
      ∀ brokerGeneration ids lifecycle',
        log.lifecycle.brokerRestarted brokerGeneration = .ok (ids, lifecycle') →
          Revokes (fun _ => true) log.lifecycle ids lifecycle' := by
  intro log
  obtain ⟨hstart, hcapacity⟩ := recorded_start h
  obtain ⟨hrecorded, hsame, -⟩ := recorded_exec hstart ops
  have hconsistent : log.lifecycle.Consistent := hrecorded.consistent
  have hbound : log.lifecycle.pendingOrActiveCount ≤ capacity := by
    have hb := hconsistent.bounded
    have hc : log.lifecycle.capacity = capacity := hsame.trans hcapacity
    omega
  refine ⟨hconsistent, hbound, hrecorded.accepted_once, hrecorded.completed_once, ?_, ?_, ?_, ?_⟩
  · intro more
    rw [Run.exec_append]
    exact (recorded_exec hrecorded more).2.2
  · exact fun ns => revokes_closeWhere hconsistent (by decide) fun _ _ => rfl
  · exact fun ns generation => revokes_closeWhere hconsistent (by decide) fun _ _ => rfl
  · intro brokerGeneration ids lifecycle' hrestart
    unfold brokerRestarted at hrestart
    split at hrestart
    · cases hrestart
    · cases hrestart
      have hrevokes : Revokes (fun _ => true) log.lifecycle
          (closeWhere .revoked log.lifecycle fun _ => true).1
          (closeWhere .revoked log.lifecycle fun _ => true).2 :=
        revokes_closeWhere hconsistent (by decide) fun _ _ => rfl
      exact ⟨hrevokes.none_left, hrevokes.others_kept, hrevokes.reported⟩

/-- Two transfers into one namespace; one is allowed and completed, the other cut off. -/
def twoTransfers : List LifecycleOp :=
  [.submit ⟨⟨⟨1⟩, ⟨10⟩, ⟨20⟩, .clipboard, none, 4, .pending, 7⟩, 100⟩ 0,
    .submit ⟨⟨⟨2⟩, ⟨11⟩, ⟨20⟩, .clipboard, none, 4, .pending, 7⟩, 100⟩ 0,
    .decide ⟨1⟩ .allow 7 1, .complete ⟨1⟩, .namespaceDisconnected ⟨20⟩]

theorem lifecycle_run_two_transfers :
    withCapacity 3 2 = .ok ⟨3, 2, ∅, ∅⟩ ∧
      (Run.exec step (start ⟨3, 2, ∅, ∅⟩) twoTransfers).completed = [⟨1⟩] ∧
      (Run.exec step (start ⟨3, 2, ∅, ∅⟩) twoTransfers).accepted.Nodup ∧
      (Run.exec step (start ⟨3, 2, ∅, ∅⟩) twoTransfers).lifecycle.pendingOrActiveCount ≤ 2 := by
  have h := lifecycle_run_invariant (show withCapacity 3 2 = .ok ⟨3, 2, ∅, ∅⟩ from rfl) twoTransfers
  exact ⟨rfl, by decide +kernel, h.2.2.1, h.2.1⟩

end LifecycleLog
end Sophia.Portal
