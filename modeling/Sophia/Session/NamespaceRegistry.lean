import Sophia.Lib.History
import Sophia.Lib.Ordered
import Sophia.Protocol

/-! An admission is current from the admit that returned it to its first revocation. -/
namespace Sophia.Session

open Std Sophia.Protocol

structure NamespaceRegistry where
  sessionGeneration : UInt64
  namespaceIds : IdAllocator .namespaceId
  admissionIds : IdAllocator .clientAdmissionId
  namespaces : ExtTreeMap NamespaceId NamespaceContext
  admissions : ExtTreeMap ClientAdmissionId ClientAdmissionContext

inductive NamespaceRegistryError where
  | invalidSessionGeneration
  | unknownNamespace (namespaceId : NamespaceId)
  | unknownAdmission (client : ClientAdmissionId)
  deriving DecidableEq, Repr

structure NamespaceRevocation where
  context : NamespaceContext
  admissions : List ClientAdmissionContext
  deriving DecidableEq, Repr

namespace NamespaceRegistry

def new (sessionGeneration : UInt64) : Except NamespaceRegistryError NamespaceRegistry :=
  if sessionGeneration = 0 then .error .invalidSessionGeneration
  else .ok ⟨sessionGeneration, .new, .new, ∅, ∅⟩

/-- `none` is a panic; the table keeps what was written before it. -/
def createNamespace (registry : NamespaceRegistry) (profile : NamespaceProfile)
    (capabilities : NamespaceCapabilities) : Option NamespaceContext × NamespaceRegistry :=
  match registry.namespaceIds.nextId with
  | none => (none, registry)
  | some (id, namespaceIds) =>
    let registry := { registry with namespaceIds }
    match NamespaceContext.new id profile capabilities with
    | none => (none, registry)
    | some context =>
      (some context, { registry with namespaces := registry.namespaces.insert context.id context })

def admitClient (registry : NamespaceRegistry) (namespaceId : NamespaceId)
    (method : ClientAuthenticationMethod) :
    Option (Except NamespaceRegistryError ClientAdmissionContext) × NamespaceRegistry :=
  match registry.namespaces[namespaceId]? with
  | none => (some (.error (.unknownNamespace namespaceId)), registry)
  | some context => match ClientAuthProvenance.new method registry.sessionGeneration with
    | none => (none, registry)
    | some authProvenance => match registry.admissionIds.nextId with
      | none => (none, registry)
      | some (client, admissionIds) =>
        let registry := { registry with admissionIds }
        match ClientAdmissionContext.new client context authProvenance with
        | none => (none, registry)
        | some admission => (some (.ok admission),
            { registry with
              admissions := registry.admissions.insert admission.clientId admission })

def isCurrentAdmission (registry : NamespaceRegistry) (context : ClientAdmissionContext) : Bool :=
  context.authProvenance.sessionGeneration == registry.sessionGeneration &&
    registry.admissions[context.clientId]? == some context &&
    registry.namespaces[context.namespaceContext.id]? == some context.namespaceContext

def revokeAdmission (registry : NamespaceRegistry) (client : ClientAdmissionId) :
    Except NamespaceRegistryError ClientAdmissionContext × NamespaceRegistry :=
  match registry.admissions[client]? with
  | none => (.error (.unknownAdmission client), registry)
  | some context => (.ok context, { registry with admissions := registry.admissions.erase client })

def revokeNamespace (registry : NamespaceRegistry) (namespaceId : NamespaceId) :
    Except NamespaceRegistryError NamespaceRevocation × NamespaceRegistry :=
  match registry.namespaces[namespaceId]? with
  | none => (.error (.unknownNamespace namespaceId), registry)
  | some context =>
    (.ok ⟨context, (Ordered.values registry.admissions).filter
        fun admission => admission.namespaceContext.id = namespaceId⟩,
      { registry with
        namespaces := registry.namespaces.erase namespaceId
        admissions := registry.admissions.filter
          fun _ admission => admission.namespaceContext.id ≠ namespaceId })

end NamespaceRegistry

inductive NamespaceRequest where
  | createNamespace (profile : NamespaceProfile) (capabilities : NamespaceCapabilities)
  | admitClient (namespaceId : NamespaceId) (method : ClientAuthenticationMethod)
  | revokeAdmission (client : ClientAdmissionId)
  | revokeNamespace (namespaceId : NamespaceId)
  deriving DecidableEq, Repr

/-- What a call did for its caller; errors and panics are one case. -/
inductive NamespaceOutcome where
  | created (context : NamespaceContext)
  | admitted (context : ClientAdmissionContext)
  | admissionRevoked (context : ClientAdmissionContext)
  | namespaceRevoked (revocation : NamespaceRevocation)
  | refused
  deriving DecidableEq, Repr

namespace NamespaceOutcome

def createdId : NamespaceOutcome → Option NamespaceId
  | .created context => some context.id
  | _ => none

def admittedId : NamespaceOutcome → Option ClientAdmissionId
  | .admitted context => some context.clientId
  | _ => none

def admits (outcome : NamespaceOutcome) (context : ClientAdmissionContext) : Prop :=
  outcome = .admitted context

/-- The admission itself was revoked, or its namespace was. -/
def revokes : NamespaceOutcome → ClientAdmissionContext → Prop
  | .admissionRevoked revoked, context => revoked.clientId = context.clientId
  | .namespaceRevoked revocation, context => revocation.context.id = context.namespaceContext.id
  | _, _ => False

end NamespaceOutcome

namespace NamespaceRegistry

def apply (registry : NamespaceRegistry) : NamespaceRequest → NamespaceOutcome × NamespaceRegistry
  | .createNamespace profile capabilities =>
    match registry.createNamespace profile capabilities with
    | (some context, next) => (.created context, next)
    | (none, next) => (.refused, next)
  | .admitClient namespaceId method => match registry.admitClient namespaceId method with
    | (some (.ok context), next) => (.admitted context, next)
    | (_, next) => (.refused, next)
  | .revokeAdmission client => match registry.revokeAdmission client with
    | (.ok context, next) => (.admissionRevoked context, next)
    | (.error _, next) => (.refused, next)
  | .revokeNamespace namespaceId => match registry.revokeNamespace namespaceId with
    | (.ok revocation, next) => (.namespaceRevoked revocation, next)
    | (.error _, next) => (.refused, next)

end NamespaceRegistry

/-- A registry and the outcomes of the calls made on it so far. -/
structure NamespaceLog where
  registry : NamespaceRegistry
  outcomes : List NamespaceOutcome

namespace NamespaceLog

def step (log : NamespaceLog) (request : NamespaceRequest) : NamespaceLog :=
  ⟨(log.registry.apply request).2, log.outcomes ++ [(log.registry.apply request).1]⟩

def createdIds (log : NamespaceLog) : List NamespaceId :=
  log.outcomes.filterMap NamespaceOutcome.createdId

def admittedIds (log : NamespaceLog) : List ClientAdmissionId :=
  log.outcomes.filterMap NamespaceOutcome.admittedId

/-- The admission was returned by an admit and has not been revoked since. -/
def Current (log : NamespaceLog) (context : ClientAdmissionContext) : Prop :=
  Run.Marked NamespaceOutcome.admits NamespaceOutcome.revokes log.outcomes context

end NamespaceLog

section Effects

namespace NamespaceRegistry

/-- What one call can do to the registry, by what its caller gets. -/
inductive Effect (registry : NamespaceRegistry) : NamespaceOutcome → NamespaceRegistry → Prop where
  | created {context : NamespaceContext} {namespaceIds : IdAllocator .namespaceId}
      (id : registry.namespaceIds.nextId = some (context.id, namespaceIds)) :
      Effect registry (.created context)
        { registry with
          namespaceIds
          namespaces := registry.namespaces.insert context.id context }
  | admitted {namespaceId : NamespaceId} {context : ClientAdmissionContext}
      {admissionIds : IdAllocator .clientAdmissionId}
      (live : registry.namespaces[namespaceId]? = some context.namespaceContext)
      (generation : context.authProvenance.sessionGeneration = registry.sessionGeneration)
      (id : registry.admissionIds.nextId = some (context.clientId, admissionIds)) :
      Effect registry (.admitted context)
        { registry with
          admissionIds
          admissions := registry.admissions.insert context.clientId context }
  | admissionRevoked {client : ClientAdmissionId} {context : ClientAdmissionContext}
      (live : registry.admissions[client]? = some context) :
      Effect registry (.admissionRevoked context)
        { registry with admissions := registry.admissions.erase client }
  | namespaceRevoked {namespaceId : NamespaceId} {revocation : NamespaceRevocation}
      (live : registry.namespaces[namespaceId]? = some revocation.context) :
      Effect registry (.namespaceRevoked revocation)
        { registry with
          namespaces := registry.namespaces.erase namespaceId
          admissions := registry.admissions.filter
            fun _ admission => admission.namespaceContext.id ≠ namespaceId }
  | refused {namespaceIds : IdAllocator .namespaceId} {admissionIds : IdAllocator .clientAdmissionId}
      (namespaces : registry.namespaceIds.next.toNat ≤ namespaceIds.next.toNat)
      (admissions : registry.admissionIds.next.toNat ≤ admissionIds.next.toNat) :
      Effect registry .refused { registry with namespaceIds, admissionIds }

variable {registry : NamespaceRegistry}

theorem effect_unchanged : Effect registry .refused registry :=
  .refused (Nat.le_refl _) (Nat.le_refl _)

theorem createNamespace_effect (profile : NamespaceProfile) (capabilities : NamespaceCapabilities) :
    Effect registry (registry.apply (.createNamespace profile capabilities)).1
      (registry.apply (.createNamespace profile capabilities)).2 := by
  rw [apply, createNamespace]
  cases hid : registry.namespaceIds.nextId with
  | none => exact effect_unchanged
  | some allocated =>
    obtain ⟨id, namespaceIds⟩ := allocated
    have hnext := (IdAllocator.nextId_eq_some hid).2
    by_cases hvalid : id.isValid
    · simp only [NamespaceContext.new, hvalid, if_true]
      exact .created hid
    · simp only [NamespaceContext.new, hvalid, Bool.false_eq_true, if_false]
      exact .refused (by omega) (Nat.le_refl _)

theorem admitClient_effect (namespaceId : NamespaceId) (method : ClientAuthenticationMethod) :
    Effect registry (registry.apply (.admitClient namespaceId method)).1
      (registry.apply (.admitClient namespaceId method)).2 := by
  rw [apply, admitClient]
  cases hlive : registry.namespaces[namespaceId]? with
  | none => exact effect_unchanged
  | some context =>
    by_cases hgeneration : registry.sessionGeneration = 0
    · simp only [ClientAuthProvenance.new, hgeneration, if_true]
      exact effect_unchanged
    simp only [ClientAuthProvenance.new, hgeneration, if_false]
    cases hid : registry.admissionIds.nextId with
    | none => exact effect_unchanged
    | some allocated =>
      obtain ⟨client, admissionIds⟩ := allocated
      have hnext := (IdAllocator.nextId_eq_some hid).2
      by_cases hvalid :
          (client.isValid && context.isValid &&
            (⟨method, registry.sessionGeneration⟩ : ClientAuthProvenance).isValid) = true
      · simp only [ClientAdmissionContext.new, hvalid, if_true]
        exact .admitted hlive rfl hid
      · simp only [ClientAdmissionContext.new, hvalid, Bool.false_eq_true, if_false]
        exact .refused (Nat.le_refl _) (by omega)

theorem apply_effect (registry : NamespaceRegistry) (request : NamespaceRequest) :
    Effect registry (registry.apply request).1 (registry.apply request).2 := by
  cases request with
  | createNamespace profile capabilities => exact createNamespace_effect profile capabilities
  | admitClient namespaceId method => exact admitClient_effect namespaceId method
  | revokeAdmission client =>
    rw [apply, revokeAdmission]
    cases hlive : registry.admissions[client]? with
    | none => exact effect_unchanged
    | some context => exact .admissionRevoked hlive
  | revokeNamespace namespaceId =>
    rw [apply, revokeNamespace]
    cases hlive : registry.namespaces[namespaceId]? with
    | none => exact effect_unchanged
    | some context => exact .namespaceRevoked hlive

end NamespaceRegistry
end Effects
section Admissions

namespace NamespaceLog

variable {log : NamespaceLog} {outcome : NamespaceOutcome} {next : NamespaceRegistry}

/-- The ids an allocator has handed out so far, oldest first. -/
def Issued {kind : IdKind} (allocator : IdAllocator kind) (ids : List (SimpleId kind)) : Prop :=
  ids.Pairwise (fun a b => a.raw.toNat < b.raw.toNat) ∧
    ∀ id ∈ ids, id.raw.toNat < allocator.next.toNat

section Issued

variable {kind : IdKind} {allocator allocator' : IdAllocator kind} {ids : List (SimpleId kind)}
  {id : SimpleId kind}

theorem Issued.mono (h : Issued allocator ids)
    (hle : allocator.next.toNat ≤ allocator'.next.toNat) : Issued allocator' ids := by
  refine ⟨h.1, ?_⟩
  intro id hid
  have hlt := h.2 id hid
  omega

theorem Issued.snoc (h : Issued allocator ids) (hid : allocator.nextId = some (id, allocator')) :
    Issued allocator' (ids ++ [id]) := by
  obtain ⟨hraw, hnext⟩ := IdAllocator.nextId_eq_some hid
  refine ⟨List.pairwise_append.mpr ⟨h.1, by simp, ?_⟩, ?_⟩
  · intro a ha b hb
    rw [List.mem_singleton.mp hb, hraw]
    exact h.2 a ha
  · intro a ha
    rcases List.mem_append.mp ha with ha | ha
    · have hlt := h.2 a ha
      omega
    · cases List.mem_singleton.mp ha
      rw [hraw]
      omega

theorem Issued.nodup (h : Issued allocator ids) : ids.Nodup := by
  refine h.1.imp ?_
  rintro a b hlt rfl
  omega

end Issued

/-- Both tables are keyed by ids below their counters, and the live admissions are the current
ones of the log. -/
structure Consistent (log : NamespaceLog) : Prop where
  namespaces : ∀ (id : NamespaceId) context, log.registry.namespaces[id]? = some context →
    context.id = id ∧ id.raw.toNat < log.registry.namespaceIds.next.toNat
  admissions : ∀ (client : ClientAdmissionId) context,
    log.registry.admissions[client]? = some context →
      context.clientId = client ∧ client.raw.toNat < log.registry.admissionIds.next.toNat ∧
      context.authProvenance.sessionGeneration = log.registry.sessionGeneration ∧
      log.registry.namespaces[context.namespaceContext.id]? = some context.namespaceContext
  created : Issued log.registry.namespaceIds log.createdIds
  admitted : Issued log.registry.admissionIds log.admittedIds
  current : ∀ context : ClientAdmissionContext,
    log.registry.admissions[context.clientId]? = some context ↔ log.Current context

theorem current_snoc {context : ClientAdmissionContext} :
    Current ⟨next, log.outcomes ++ [outcome]⟩ context ↔
      outcome.admits context ∨ log.Current context ∧ ¬ outcome.revokes context :=
  Run.marked_snoc

theorem createdIds_snoc :
    createdIds ⟨next, log.outcomes ++ [outcome]⟩ = log.createdIds ++ outcome.createdId.toList := by
  cases h : outcome.createdId <;> simp [createdIds, h]

theorem admittedIds_snoc :
    admittedIds ⟨next, log.outcomes ++ [outcome]⟩ =
      log.admittedIds ++ outcome.admittedId.toList := by
  cases h : outcome.admittedId <;> simp [admittedIds, h]

/-- An id the allocator is about to hand out is in no table yet. -/
theorem Consistent.fresh_admission (h : log.Consistent) {client : ClientAdmissionId}
    {admissionIds : IdAllocator .clientAdmissionId}
    (hid : log.registry.admissionIds.nextId = some (client, admissionIds)) :
    log.registry.admissions[client]? = none := by
  obtain ⟨hraw, -⟩ := IdAllocator.nextId_eq_some hid
  by_contra hlive
  obtain ⟨context, hcontext⟩ := Option.ne_none_iff_exists'.mp hlive
  have hlt := (h.admissions client context hcontext).2.1
  rw [hraw] at hlt
  omega

theorem Consistent.fresh_namespace (h : log.Consistent) {id : NamespaceId}
    {namespaceIds : IdAllocator .namespaceId}
    (hid : log.registry.namespaceIds.nextId = some (id, namespaceIds)) :
    log.registry.namespaces[id]? = none := by
  obtain ⟨hraw, -⟩ := IdAllocator.nextId_eq_some hid
  by_contra hlive
  obtain ⟨context, hcontext⟩ := Option.ne_none_iff_exists'.mp hlive
  have hlt := (h.namespaces id context hcontext).2
  rw [hraw] at hlt
  omega

theorem Consistent.created_step (h : log.Consistent) {context : NamespaceContext}
    {namespaceIds : IdAllocator .namespaceId}
    (hid : log.registry.namespaceIds.nextId = some (context.id, namespaceIds)) :
    Consistent ⟨{ log.registry with
        namespaceIds
        namespaces := log.registry.namespaces.insert context.id context },
      log.outcomes ++ [.created context]⟩ where
  namespaces := by
    obtain ⟨hraw, hnext⟩ := IdAllocator.nextId_eq_some hid
    intro id found hfound
    simp only [ExtTreeMap.getElem?_insert, LawfulEqCmp.compare_eq_iff_eq] at hfound
    split at hfound
    · cases hfound
      rename_i hkey
      refine ⟨hkey, ?_⟩
      rw [← hkey, hraw, hnext]
      exact Nat.lt_succ_self _
    · obtain ⟨hkey, hlt⟩ := h.namespaces id found hfound
      exact ⟨hkey, by rw [hnext]; omega⟩
  admissions := by
    intro client found hfound
    obtain ⟨hkey, hlt, hgeneration, hattached⟩ := h.admissions client found hfound
    refine ⟨hkey, hlt, hgeneration, ?_⟩
    have hne : context.id ≠ found.namespaceContext.id := by
      intro he
      rw [← he, h.fresh_namespace hid] at hattached
      cases hattached
    simpa [ExtTreeMap.getElem?_insert, hne] using hattached
  created := by
    rw [createdIds_snoc]
    exact h.created.snoc hid
  admitted := by
    rw [admittedIds_snoc]
    simpa [NamespaceOutcome.admittedId] using h.admitted
  current := by
    intro found
    rw [current_snoc, h.current found]
    simp [NamespaceOutcome.admits, NamespaceOutcome.revokes]

theorem Consistent.admitted_step (h : log.Consistent) {namespaceId : NamespaceId}
    {context : ClientAdmissionContext} {admissionIds : IdAllocator .clientAdmissionId}
    (hlive : log.registry.namespaces[namespaceId]? = some context.namespaceContext)
    (hgeneration : context.authProvenance.sessionGeneration = log.registry.sessionGeneration)
    (hid : log.registry.admissionIds.nextId = some (context.clientId, admissionIds)) :
    Consistent ⟨{ log.registry with
        admissionIds
        admissions := log.registry.admissions.insert context.clientId context },
      log.outcomes ++ [.admitted context]⟩ where
  namespaces := h.namespaces
  admissions := by
    obtain ⟨hraw, hnext⟩ := IdAllocator.nextId_eq_some hid
    intro client found hfound
    simp only [ExtTreeMap.getElem?_insert, LawfulEqCmp.compare_eq_iff_eq] at hfound
    split at hfound
    · cases hfound
      rename_i hkey
      refine ⟨hkey, ?_, hgeneration, ?_⟩
      · rw [← hkey, hraw, hnext]
        exact Nat.lt_succ_self _
      · rw [(h.namespaces _ _ hlive).1]
        exact hlive
    · obtain ⟨hkey, hlt, hrest⟩ := h.admissions client found hfound
      exact ⟨hkey, by rw [hnext]; omega, hrest⟩
  created := by
    rw [createdIds_snoc]
    simpa [NamespaceOutcome.createdId] using h.created
  admitted := by
    rw [admittedIds_snoc]
    exact h.admitted.snoc hid
  current := by
    intro found
    have hfresh := h.fresh_admission hid
    rw [current_snoc, ← h.current found]
    simp only [ExtTreeMap.getElem?_insert, LawfulEqCmp.compare_eq_iff_eq, NamespaceOutcome.admits,
      NamespaceOutcome.revokes, not_false_eq_true, and_true, NamespaceOutcome.admitted.injEq]
    by_cases hkey : context.clientId = found.clientId
    · rw [if_pos hkey, Option.some.injEq, ← hkey, hfresh]
      simp
    · have hne : context ≠ found := fun he => hkey (congrArg _ he)
      simp [hkey, hne]

theorem Consistent.admissionRevoked_step (h : log.Consistent) {client : ClientAdmissionId}
    {context : ClientAdmissionContext}
    (hlive : log.registry.admissions[client]? = some context) :
    Consistent ⟨{ log.registry with admissions := log.registry.admissions.erase client },
      log.outcomes ++ [.admissionRevoked context]⟩ where
  namespaces := h.namespaces
  admissions := by
    intro other found hfound
    simp only [ExtTreeMap.getElem?_erase] at hfound
    split at hfound
    · cases hfound
    · exact h.admissions other found hfound
  created := by
    rw [createdIds_snoc]
    simpa [NamespaceOutcome.createdId] using h.created
  admitted := by
    rw [admittedIds_snoc]
    simpa [NamespaceOutcome.admittedId] using h.admitted
  current := by
    intro found
    have hkey := (h.admissions client context hlive).1
    rw [current_snoc, ← h.current found]
    simp only [ExtTreeMap.getElem?_erase, LawfulEqCmp.compare_eq_iff_eq, NamespaceOutcome.admits,
      NamespaceOutcome.revokes, hkey, reduceCtorEq, false_or]
    by_cases hfound : client = found.clientId <;> simp [hfound]

theorem Consistent.namespaceRevoked_step (h : log.Consistent) {namespaceId : NamespaceId}
    {revocation : NamespaceRevocation}
    (hlive : log.registry.namespaces[namespaceId]? = some revocation.context) :
    Consistent ⟨{ log.registry with
        namespaces := log.registry.namespaces.erase namespaceId
        admissions := log.registry.admissions.filter
          fun _ admission => admission.namespaceContext.id ≠ namespaceId },
      log.outcomes ++ [.namespaceRevoked revocation]⟩ where
  namespaces := by
    intro id found hfound
    simp only [ExtTreeMap.getElem?_erase] at hfound
    split at hfound
    · cases hfound
    · exact h.namespaces id found hfound
  admissions := by
    intro client found hfound
    rw [ExtTreeMap.getElem?_filter', Option.filter_eq_some_iff, decide_eq_true_eq] at hfound
    obtain ⟨hfound, hother⟩ := hfound
    obtain ⟨hkey, hlt, hgeneration, hattached⟩ := h.admissions client found hfound
    refine ⟨hkey, hlt, hgeneration, ?_⟩
    simpa [ExtTreeMap.getElem?_erase, Ne.symm hother] using hattached
  created := by
    rw [createdIds_snoc]
    simpa [NamespaceOutcome.createdId] using h.created
  admitted := by
    rw [admittedIds_snoc]
    simpa [NamespaceOutcome.admittedId] using h.admitted
  current := by
    intro found
    have hkey := (h.namespaces _ _ hlive).1
    rw [current_snoc, ← h.current found]
    rw [ExtTreeMap.getElem?_filter', Option.filter_eq_some_iff, decide_eq_true_eq]
    simp [NamespaceOutcome.admits, NamespaceOutcome.revokes, hkey, eq_comm]

theorem Consistent.refused_step (h : log.Consistent) {namespaceIds : IdAllocator .namespaceId}
    {admissionIds : IdAllocator .clientAdmissionId}
    (hnamespaces : log.registry.namespaceIds.next.toNat ≤ namespaceIds.next.toNat)
    (hadmissions : log.registry.admissionIds.next.toNat ≤ admissionIds.next.toNat) :
    Consistent ⟨{ log.registry with namespaceIds, admissionIds }, log.outcomes ++ [.refused]⟩ where
  namespaces := by
    intro id found hfound
    obtain ⟨hkey, hlt⟩ := h.namespaces id found hfound
    exact ⟨hkey, Nat.lt_of_lt_of_le hlt hnamespaces⟩
  admissions := by
    intro client found hfound
    obtain ⟨hkey, hlt, hrest⟩ := h.admissions client found hfound
    exact ⟨hkey, Nat.lt_of_lt_of_le hlt hadmissions, hrest⟩
  created := by
    rw [createdIds_snoc]
    simpa [NamespaceOutcome.createdId] using h.created.mono hnamespaces
  admitted := by
    rw [admittedIds_snoc]
    simpa [NamespaceOutcome.admittedId] using h.admitted.mono hadmissions
  current := by
    intro found
    rw [current_snoc, ← h.current found]
    simp [NamespaceOutcome.admits, NamespaceOutcome.revokes]

theorem consistent_start {generation : UInt64} {registry : NamespaceRegistry}
    (h : NamespaceRegistry.new generation = .ok registry) : Consistent ⟨registry, []⟩ := by
  simp only [NamespaceRegistry.new] at h
  split at h
  · cases h
  · cases h
    constructor
    · simp
    · simp
    · exact ⟨.nil, by simp [createdIds]⟩
    · exact ⟨.nil, by simp [admittedIds]⟩
    · intro context
      simpa [Current] using Run.not_marked_nil

theorem consistent_step (h : log.Consistent) (request : NamespaceRequest) :
    (log.step request).Consistent := by
  have heffect := log.registry.apply_effect request
  rw [step]
  generalize (log.registry.apply request).1 = outcome at heffect ⊢
  generalize (log.registry.apply request).2 = next at heffect ⊢
  cases heffect with
  | created hid => exact h.created_step hid
  | admitted hlive hgeneration hid => exact h.admitted_step hlive hgeneration hid
  | admissionRevoked hlive => exact h.admissionRevoked_step hlive
  | namespaceRevoked hlive => exact h.namespaceRevoked_step hlive
  | refused hnamespaces hadmissions => exact h.refused_step hnamespaces hadmissions

theorem consistent_run {generation : UInt64} {registry : NamespaceRegistry}
    (h : NamespaceRegistry.new generation = .ok registry) (requests : List NamespaceRequest) :
    (Run.exec step ⟨registry, []⟩ requests).Consistent :=
  Run.invariant (consistent_start h) (fun _ request _ hlog => consistent_step hlog request)
    Run.guarded_true

theorem isCurrentAdmission_iff (h : log.Consistent) (context : ClientAdmissionContext) :
    log.registry.isCurrentAdmission context = true ↔ log.Current context := by
  rw [← h.current context]
  simp only [NamespaceRegistry.isCurrentAdmission, Bool.and_eq_true, beq_iff_eq]
  constructor
  · exact fun hcurrent => hcurrent.1.2
  · intro hlive
    obtain ⟨-, -, hgeneration, hattached⟩ := h.admissions _ _ hlive
    exact ⟨⟨hgeneration, hlive⟩, hattached⟩

/-- No id is handed out twice, a live admission carries its live namespace, and an admission is
current exactly from its admit to the first revocation of it or of its namespace. -/
theorem admission_law {generation : UInt64} {registry : NamespaceRegistry}
    (hnew : NamespaceRegistry.new generation = .ok registry) (requests : List NamespaceRequest) :
    let log := Run.exec step ⟨registry, []⟩ requests
    log.createdIds.Nodup ∧ log.admittedIds.Nodup ∧
      (∀ (client : ClientAdmissionId) context, log.registry.admissions[client]? = some context →
        log.registry.namespaces[context.namespaceContext.id]? = some context.namespaceContext) ∧
      ∀ context, log.registry.isCurrentAdmission context = true ↔ log.Current context := by
  intro log
  have hlog : log.Consistent := consistent_run hnew requests
  refine ⟨hlog.created.nodup, hlog.admitted.nodup, ?_, isCurrentAdmission_iff hlog⟩
  intro client context hlive
  exact (hlog.admissions client context hlive).2.2.2

/-- A client is admitted, revoked and admitted again: only the second admission is current. -/
theorem admission_law_readmission :
    let registry : NamespaceRegistry := ⟨7, .new, .new, ∅, ∅⟩
    let home : NamespaceContext := ⟨.fromRaw 1, .confined, .none⟩
    let log := Run.exec step ⟨registry, []⟩
      [.createNamespace .confined .none, .admitClient home.id .trustedLocal,
        .revokeAdmission (.fromRaw 1), .admitClient home.id .trustedLocal]
    NamespaceRegistry.new 7 = .ok registry ∧
      log.admittedIds = [.fromRaw 1, .fromRaw 2] ∧ log.admittedIds.Nodup ∧
      ¬ log.Current ⟨.fromRaw 1, home, ⟨.trustedLocal, 7⟩⟩ ∧
      log.Current ⟨.fromRaw 2, home, ⟨.trustedLocal, 7⟩⟩ := by
  intro registry home log
  have hnew : NamespaceRegistry.new 7 = .ok registry := rfl
  obtain ⟨-, hadmitted, -, hcurrent⟩ := admission_law hnew
    [.createNamespace .confined .none, .admitClient home.id .trustedLocal,
      .revokeAdmission (.fromRaw 1), .admitClient home.id .trustedLocal]
  refine ⟨hnew, by decide +kernel, hadmitted, ?_, ?_⟩
  · rw [← hcurrent]
    decide +kernel
  · rw [← hcurrent]
    decide +kernel

end NamespaceLog
end Admissions
end Sophia.Session
