import Sophia.Session.LayoutWindows

/-! Which draw a layer of the live layout shows along any interleaving of its calls. -/
namespace Sophia.Session

open Std Sophia.Protocol Sophia.Engine PersistentLiveLayout

/-- The latest accepted transaction of each surface, and the latest one that reached the live
layers. -/
structure DrawLedger where
  latest : ExtTreeMap SurfaceId SurfaceTransaction := ∅
  settled : ExtTreeMap SurfaceId SurfaceTransaction := ∅

namespace DrawLedger

def record (ledger : DrawLedger) : SurfaceTransaction × Observation → DrawLedger
  | (_, .fenced) => ledger
  | (transaction, .staged) =>
    { ledger with latest := ledger.latest.insert transaction.surface transaction }
  | (transaction, _) =>
    { latest := ledger.latest.insert transaction.surface transaction
      settled := ledger.settled.insert transaction.surface transaction }

def remove (ledger : DrawLedger) (removed : List SurfaceId) : DrawLedger where
  latest := ledger.latest.filter fun surface _ => surface ∉ removed
  settled := ledger.settled.filter fun surface _ => surface ∉ removed

theorem record_of_ne (ledger : DrawLedger) {surface : SurfaceId}
    (entry : SurfaceTransaction × Observation) (h : entry.1.surface ≠ surface) :
    (ledger.record entry).latest[surface]? = ledger.latest[surface]? ∧
      (ledger.record entry).settled[surface]? = ledger.settled[surface]? := by
  obtain ⟨transaction, observation⟩ := entry
  cases observation <;> simp [DrawLedger.record, ExtTreeMap.getElem?_insert, h]

end DrawLedger

/-- The layout with the history of its draws: a commit settles the draws staged for the proposal,
an expiry drops them. -/
structure DrawnLayout where
  layout : PersistentLiveLayout
  ledger : DrawLedger := {}

namespace DrawnLayout

def commits (layout : PersistentLiveLayout) : Bool := layout.pending.any pendingReady

def expires (layout : PersistentLiveLayout) (now : ℕ) : Bool :=
  layout.pending.any fun pending => decide (pending.deadline ≤ now)

def step (drawn : DrawnLayout) (a : LayoutAction) : DrawnLayout where
  layout := drawn.layout.step a
  ledger := match a with
    | .observe batch => (drawn.layout.observeAuthorityBatch batch).1.foldl DrawLedger.record
      (drawn.ledger.remove batch.removedSurfaces)
    | .resolve =>
      if commits drawn.layout then { drawn.ledger with settled := drawn.ledger.latest }
      else drawn.ledger
    | .expire _ now =>
      if expires drawn.layout now then { drawn.ledger with latest := drawn.ledger.settled }
      else drawn.ledger
    | _ => drawn.ledger

end DrawnLayout

/-- A layer shows a transaction: its pixels, at a generation that counts later placements too. -/
structure Shows (layer : LayerSnapshot) (transaction : SurfaceTransaction) : Prop where
  source : layer.source = transaction.targetBuffer
  generation : drawnGeneration transaction ≤ layer.generation

theorem Shows.moved {old new : LayerSnapshot} {transaction : SurfaceTransaction}
    (h : Shows old transaction) (hm : Moved old new) : Shows new transaction :=
  ⟨hm.source.symm.trans h.source, UInt64.le_trans h.generation hm.generation⟩

/-- What the copy of a surface in a pending proposal shows. -/
inductive Copied (pending : PendingLiveWmLayout) (ledger : DrawLedger) (surface : SurfaceId)
    (layer : LayerSnapshot) : Prop where
  | staged (transaction : SurfaceTransaction)
      (hstaged : pending.stagedTransactions[surface]? = some transaction)
      (hlatest : ledger.latest[surface]? = some transaction)
      (hsource : layer.source = transaction.targetBuffer)
      (hgeneration : layer.generation = drawnGeneration transaction)
  | kept (transaction : SurfaceTransaction)
      (hstaged : pending.stagedTransactions[surface]? = none)
      (hlatest : ledger.latest[surface]? = some transaction) (hshows : Shows layer transaction)

theorem Copied.congr {pending pending' : PendingLiveWmLayout} {ledger ledger' : DrawLedger}
    {surface : SurfaceId} {layer : LayerSnapshot} (h : Copied pending ledger surface layer)
    (hs : pending'.stagedTransactions[surface]? = pending.stagedTransactions[surface]?)
    (hl : ledger'.latest[surface]? = ledger.latest[surface]?) :
    Copied pending' ledger' surface layer := by
  cases h with
  | staged transaction hst hla hso hge =>
    exact .staged transaction (hs.trans hst) (hl.trans hla) hso hge
  | kept transaction hst hla hsh => exact .kept transaction (hs.trans hst) (hl.trans hla) hsh

/-- The layer of a surface shows its settled draw, and the pending copy its latest one. -/
structure UpToDate (surface : SurfaceId) (layout : PersistentLiveLayout) (ledger : DrawLedger) :
    Prop where
  live : ∀ layer, layout.layers[surface]? = some layer →
    ∃ transaction, ledger.settled[surface]? = some transaction ∧ Shows layer transaction
  idle : layout.pending = none → ledger.latest[surface]? = ledger.settled[surface]?
  held : ∀ pending, layout.pending = some pending →
    ∀ layer, Keyed.lookup LayerSnapshot.surface pending.layers surface = some layer →
      Copied pending ledger surface layer

section Steps

variable {surface : SurfaceId} {layout layout' : PersistentLiveLayout} {ledger : DrawLedger}
  {index : ℕ} {transaction : SurfaceTransaction} {observation : Observation}

theorem UpToDate.removeSurfaces (h : UpToDate surface layout ledger) (removed : List SurfaceId) :
    UpToDate surface (layout.removeSurfaces removed) (ledger.remove removed) := by
  have hlatest : (ledger.remove removed).latest[surface]? =
      if surface ∈ removed then none else ledger.latest[surface]? := by
    rw [DrawLedger.remove, Ordered.getElem?_filter_key (p := fun surface => surface ∉ removed)]
    simp
  have hsettled : (ledger.remove removed).settled[surface]? =
      if surface ∈ removed then none else ledger.settled[surface]? := by
    rw [DrawLedger.remove, Ordered.getElem?_filter_key (p := fun surface => surface ∉ removed)]
    simp
  unfold PersistentLiveLayout.removeSurfaces
  split
  · rename_i he
    rw [List.isEmpty_iff] at he
    subst he
    simp only [List.not_mem_nil, if_false] at hlatest hsettled
    refine ⟨?_, ?_, ?_⟩
    · rw [hsettled]
      exact h.live
    · rw [hlatest, hsettled]
      exact h.idle
    · exact fun pending hp layer hl => (h.held pending hp layer hl).congr rfl hlatest
  by_cases hm : surface ∈ removed
  · -- Nothing of a removed surface is left to be shown.
    rw [if_pos hm] at hlatest hsettled
    refine ⟨?_, ?_, ?_⟩
    · intro layer hl
      rw [Ordered.getElem?_filter_key (p := fun surface => surface ∉ removed)] at hl
      simp [hm] at hl
    · exact fun _ => hlatest.trans hsettled.symm
    · intro pending hp layer hl
      obtain ⟨old, -, rfl⟩ := Option.map_eq_some_iff.mp hp
      have hkey := Keyed.key_of_lookup hl
      have hmem := (List.mem_filter.mp (Keyed.mem_of_lookup hl)).2
      rw [hkey] at hmem
      simp [hm] at hmem
  · rw [if_neg hm] at hlatest hsettled
    refine ⟨?_, ?_, ?_⟩
    · intro layer hl
      rw [Ordered.getElem?_filter_key (p := fun surface => surface ∉ removed), if_pos (by simp [hm])]
        at hl
      rw [hsettled]
      exact h.live layer hl
    · intro hp
      rw [hlatest, hsettled]
      exact h.idle (Option.map_eq_none_iff.mp hp)
    · intro pending hp layer hl
      obtain ⟨old, hold, rfl⟩ := Option.map_eq_some_iff.mp hp
      rw [Keyed.lookup_filter_key (fun surface => decide (surface ∉ removed))] at hl
      rw [if_pos (by simp [hm])] at hl
      exact (h.held old hold layer hl).congr rfl hlatest

/-- The draw does not land beside a copy of its surface that a proposal holds. -/
def Aside (surface : SurfaceId) (layout : PersistentLiveLayout) :
    SurfaceTransaction × Observation → Prop
  | (transaction, observation) => transaction.surface = surface → observation = .drawn →
    ∀ pending, layout.pending = some pending →
      surface ∉ pending.layers.map LayerSnapshot.surface

theorem UpToDate.observes (h : UpToDate surface layout ledger) (hs : Sound layout)
    (ho : Observes layout index transaction (observation, layout'))
    (haside : Aside surface layout (transaction, observation)) :
    UpToDate surface layout' (ledger.record (transaction, observation)) := by
  by_cases hsurf : transaction.surface = surface
  · subst hsurf
    cases ho with
    | fenced => exact h
    | staged pending resize hp hawait =>
      refine ⟨h.live, nofun, ?_⟩
      rintro _ ⟨⟩ layer hl
      rw [stageTransaction, Keyed.lookup_modify_findIdx (fun _ => by rfl), if_pos rfl] at hl
      obtain ⟨old, -, rfl⟩ := Option.map_eq_some_iff.mp hl
      exact .staged transaction (by simp [stageTransaction]) (by simp [DrawLedger.record]) rfl rfl
    | drawn layer resize hlayer hnot =>
      refine ⟨?_, ?_, ?_⟩
      · intro new hnew
        have hnew : drawLayer transaction layer = new := by simpa using hnew
        subst hnew
        exact ⟨transaction, by simp [DrawLedger.record], rfl, UInt64.le_refl _⟩
      · intro _
        simp [DrawLedger.record]
      · intro pending hp copy hcopy
        have hmem := List.mem_map_of_mem (f := LayerSnapshot.surface) (Keyed.mem_of_lookup hcopy)
        rw [Keyed.key_of_lookup hcopy] at hmem
        exact absurd hmem (haside rfl rfl pending hp)
    | created geometry center resize hnone hnot =>
      refine ⟨?_, ?_, ?_⟩
      · intro new hnew
        have hnew : newLayer geometry index transaction = new := by simpa using hnew
        subst hnew
        exact ⟨transaction, by simp [DrawLedger.record], rfl, UInt64.le_refl _⟩
      · intro _
        simp [DrawLedger.record]
      · -- A surface without a layer is in no proposal.
        intro pending hp copy hcopy
        have hmem := hs.proposed pending hp copy (Keyed.mem_of_lookup hcopy)
        rw [Keyed.key_of_lookup hcopy, ExtTreeMap.mem_iff_isSome_getElem?, hnone] at hmem
        cases hmem
  · obtain ⟨hlatest, hsettled⟩ := ledger.record_of_ne (transaction, observation) hsurf
    cases ho with
    | fenced => exact h
    | staged pending resize hp hawait =>
      refine ⟨?_, nofun, ?_⟩
      · rw [hsettled]
        exact h.live
      · rintro _ ⟨⟩ layer hl
        rw [stageTransaction, Keyed.lookup_modify_findIdx (fun _ => by rfl), if_neg hsurf] at hl
        refine (h.held pending hp layer hl).congr ?_ hlatest
        simp [stageTransaction, ExtTreeMap.getElem?_insert, hsurf]
    | drawn layer resize hlayer hnot =>
      refine ⟨?_, ?_, fun pending hp layer hl => (h.held pending hp layer hl).congr rfl hlatest⟩
      · intro new hnew
        rw [hsettled]
        exact h.live new (by simpa [ExtTreeMap.getElem?_insert, hsurf] using hnew)
      · intro hp
        rw [hlatest, hsettled]
        exact h.idle hp
    | created geometry center resize hnone hnot =>
      refine ⟨?_, ?_, fun pending hp layer hl => (h.held pending hp layer hl).congr rfl hlatest⟩
      · intro new hnew
        rw [hsettled]
        exact h.live new (by simpa [ExtTreeMap.getElem?_insert, hsurf] using hnew)
      · intro hp
        rw [hlatest, hsettled]
        exact h.idle hp

theorem PersistentLiveLayout.Observes.pending_surfaces
    (ho : Observes layout index transaction (observation, layout'))
    {pending' : PendingLiveWmLayout} (hp' : layout'.pending = some pending') :
    ∃ pending, layout.pending = some pending ∧
      pending'.layers.map LayerSnapshot.surface = pending.layers.map LayerSnapshot.surface := by
  cases ho with
  | fenced => exact ⟨pending', hp', rfl⟩
  | staged pending resize hp hawait =>
    cases hp'
    exact ⟨pending, hp, Keyed.map_key_modify (f := drawLayer transaction) (fun _ => rfl) _⟩
  | drawn layer resize hlayer hnot => exact ⟨pending', hp', rfl⟩
  | created geometry center resize hnone hnot => exact ⟨pending', hp', rfl⟩

theorem UpToDate.observeTransactions (transactions : List (SurfaceTransaction × ℕ))
    (h : UpToDate surface layout ledger) (hs : Sound layout)
    (haside : ∀ entry ∈ (layout.observeTransactions transactions).1, Aside surface layout entry) :
    UpToDate surface (layout.observeTransactions transactions).2
      ((layout.observeTransactions transactions).1.foldl DrawLedger.record ledger) := by
  induction transactions generalizing layout ledger with
  | nil => exact h
  | cons entry rest ih =>
    obtain ⟨transaction, index⟩ := entry
    rcases hone : layout.observeTransaction index transaction with ⟨observation, next⟩
    have ho : Observes layout index transaction (observation, next) :=
      hone ▸ observeTransaction_observes
    simp only [PersistentLiveLayout.observeTransactions, hone, List.mem_cons, forall_eq_or_imp,
      List.foldl_cons] at haside ⊢
    refine ih (h.observes hs ho haside.1) (hs.observes ho) ?_
    intro entry hm hsurf hdrawn pending' hp'
    obtain ⟨pending, hp, hkeys⟩ := ho.pending_surfaces hp'
    rw [hkeys]
    exact haside.2 entry hm hsurf hdrawn pending hp

theorem UpToDate.commitPending {pending : PendingLiveWmLayout} {ledger' : DrawLedger}
    (hnodup : Keyed.NodupKeys LayerSnapshot.surface pending.layers) (hp : layout.pending = none)
    (hcopy : ∀ layer, Keyed.lookup LayerSnapshot.surface pending.layers surface = some layer →
      ∃ transaction, ledger'.settled[surface]? = some transaction ∧ Shows layer transaction)
    (hidle : ledger'.latest[surface]? = ledger'.settled[surface]?) :
    UpToDate surface (layout.commitPending pending).2 ledger' := by
  refine ⟨?_, fun _ => hidle, ?_⟩
  · intro layer hl
    rw [PersistentLiveLayout.commitPending, Ordered.getElem?_ofList_map hnodup] at hl
    exact hcopy layer hl
  · intro p he
    cases hp.symm.trans he

/-- The copy a proposal makes of a layer shows what the layer showed. -/
theorem UpToDate.proposes {proposal : LiveWmProposal} (h : UpToDate surface layout ledger)
    (hs : Sound layout) (hprop : Proposes layout proposal) {layer : LayerSnapshot}
    (hl : Keyed.lookup LayerSnapshot.surface proposal.layers surface = some layer) :
    ∃ transaction, ledger.settled[surface]? = some transaction ∧ Shows layer transaction := by
  have hrel := Keyed.lookup_of_forall₂ (fun _ _ hm => hm.surface) hprop.moved surface
  rw [hl, hs.keyed.lookup_values] at hrel
  generalize hold : layout.layers[surface]? = old at hrel
  cases hrel with
  | some hmoved =>
    obtain ⟨transaction, hset, hshows⟩ := h.live _ hold
    exact ⟨transaction, hset, hshows.moved hmoved⟩

theorem UpToDate.stageProposal {proposal : LiveWmProposal} (h : UpToDate surface layout ledger)
    (hs : Sound layout) (hprop : Proposes layout proposal) (control : Control) (now : ℕ) :
    UpToDate surface (layout.stageProposal proposal control now) ledger := by
  unfold PersistentLiveLayout.stageProposal
  split
  · rename_i result next hok
    cases stage_stages hok with
    | busy hp => exact h
    | committed hp =>
      refine .commitPending ?_ hp (fun layer hl => h.proposes hs hprop.reduceProposal hl) (h.idle hp)
      have hnodup := hs.keyed.nodup_values
      rwa [Keyed.NodupKeys, ← hprop.reduceProposal.surfaces] at hnodup
    | waits hp =>
      refine ⟨h.live, fun hidle => ?_, ?_⟩
      · cases hidle
      rintro _ ⟨⟩ layer hl
      obtain ⟨transaction, hset, hshows⟩ := h.proposes hs hprop.reduceProposal hl
      exact .kept transaction (by simp [proposedLayout]) ((h.idle hp).trans hset) hshows
  · exact h

theorem Copied.shows {pending : PendingLiveWmLayout} {layer : LayerSnapshot}
    (h : Copied pending ledger surface layer) :
    ∃ transaction, ledger.latest[surface]? = some transaction ∧ Shows layer transaction := by
  cases h with
  | staged transaction hst hla hso hge =>
    exact ⟨transaction, hla, hso, hge ▸ UInt64.le_refl _⟩
  | kept transaction hst hla hsh => exact ⟨transaction, hla, hsh⟩

end Steps

namespace DrawnLayout

variable {surface : SurfaceId} {drawn : DrawnLayout}

/-- No draw of the surface lands on its live layer while a pending proposal holds a copy of it. -/
def DrawsAside (surface : SurfaceId) (drawn : DrawnLayout) : LayoutAction → Prop
  | .observe batch => ∀ entry ∈ (drawn.layout.observeAuthorityBatch batch).1,
    Aside surface (drawn.layout.removeSurfaces batch.removedSurfaces) entry
  | _ => True

theorem resolvePending_of_commits {pending : PendingLiveWmLayout}
    (hp : drawn.layout.pending = some pending) (hc : pendingReady pending = true) :
    drawn.layout.resolvePending.2 =
      ({ drawn.layout with pending := none }.commitPending pending).2 := by
  simp [resolvePending, hp, hc]

theorem upToDate_step (hs : Sound drawn.layout) (h : UpToDate surface drawn.layout drawn.ledger)
    {a : LayoutAction} (ha : DrawsAside surface drawn a) :
    UpToDate surface (drawn.step a).layout (drawn.step a).ledger := by
  cases a with
  | observe batch =>
    have hs' : Sound { drawn.layout with
        clientRoutes := drawn.layout.clientRoutes.observe batch } :=
      ⟨hs.keyed, hs.proposed, hs.requested, hs.distinct⟩
    have h' : UpToDate surface { drawn.layout with
        clientRoutes := drawn.layout.clientRoutes.observe batch } drawn.ledger :=
      ⟨h.live, h.idle, h.held⟩
    refine (h'.removeSurfaces batch.removedSurfaces).observeTransactions _ (hs'.removeSurfaces _) ?_
    intro entry hm hsurf hdrawn pending hp
    refine ha entry hm hsurf hdrawn pending ?_
    rw [← hp]
    simp only [PersistentLiveLayout.removeSurfaces]
    split <;> rfl
  | takeNextUnmanaged =>
    simp only [step, PersistentLiveLayout.step, takeNextUnmanagedSurface]
    split
    · exact h
    · exact ⟨h.live, h.idle, h.held⟩
  | stage transaction bounds effects control now =>
    simp only [step, PersistentLiveLayout.step]
    split
    · rename_i proposal hp
      exact h.stageProposal hs (proposeLayout_proposes hp) control now
    · exact h
  | stageResize size control now =>
    simp only [step, PersistentLiveLayout.step]
    split
    · rename_i proposal hp
      exact h.stageProposal hs (proposeResize_proposes hp) control now
    · exact h
  | resolve =>
    cases hp : drawn.layout.pending with
    | none => simpa [step, PersistentLiveLayout.step, resolvePending, commits, hp] using h
    | some pending =>
      by_cases hc : pendingReady pending = true
      · have hcommit : commits drawn.layout = true := by simp [commits, hp, hc]
        simp only [step, PersistentLiveLayout.step, resolvePending_of_commits hp hc, hcommit,
          if_true]
        refine .commitPending (hs.distinct pending hp) rfl ?_ rfl
        exact fun layer hl => (h.held pending hp layer hl).shows
      · simpa [step, PersistentLiveLayout.step, resolvePending, commits, hp, hc] using h
  | expire control now =>
    obtain ⟨hl, -, -⟩ := expirePending_spec drawn.layout control now
    cases hp : drawn.layout.pending with
    | none => simpa [step, PersistentLiveLayout.step, expirePending, expires, hp] using h
    | some pending =>
      by_cases hd : now < pending.deadline
      · have hnot : ¬ pending.deadline ≤ now := by omega
        simpa [step, PersistentLiveLayout.step, expirePending, expires, hp, hd, hnot] using h
      · have hexp : expires drawn.layout now = true := by simp [expires, hp]; omega
        have hnone : (drawn.layout.expirePending control now).2.pending = none := by
          simp only [expirePending, hp, if_neg hd]
          split
          · rfl
          · split <;> rfl
        simp only [step, PersistentLiveLayout.step, hexp, if_true]
        refine ⟨fun layer hlayer => h.live layer (hl ▸ hlayer), fun _ => rfl, ?_⟩
        intro p he
        cases hnone.symm.trans he

/-- The transactions of a surface in the batches of a run, in order. -/
def drawsOf (surface : SurfaceId) (actions : List LayoutAction) : List SurfaceTransaction :=
  actions.flatMap fun
    | .observe batch => batch.transactions.filter fun t => t.surface = surface
    | _ => []

theorem drawsOf_append (surface : SurfaceId) (before after : List LayoutAction) :
    drawsOf surface (before ++ after) = drawsOf surface before ++ drawsOf surface after := by
  simp [drawsOf]

/-- The transactions of the surface carry increasing generations. -/
def Increasing (draws : List SurfaceTransaction) : Prop :=
  draws.Pairwise fun a b => a.previousCommittedGeneration < b.previousCommittedGeneration

instance (draws : List SurfaceTransaction) : Decidable (Increasing draws) :=
  inferInstanceAs (Decidable (draws.Pairwise _))

end DrawnLayout

/-- What the ledger holds of a surface was seen, and what has settled is not newer than the latest. -/
structure DrawLedger.Seen (surface : SurfaceId) (seen : List SurfaceTransaction)
    (ledger : DrawLedger) : Prop where
  latest : ∀ t, ledger.latest[surface]? = some t → t ∈ seen
  settled : ∀ t, ledger.settled[surface]? = some t → t ∈ seen
  ordered : ∀ t t', ledger.settled[surface]? = some t → ledger.latest[surface]? = some t' →
    drawnGeneration t ≤ drawnGeneration t'

namespace DrawLedger

variable {surface : SurfaceId} {seen : List SurfaceTransaction} {ledger : DrawLedger}

theorem drawnGeneration_le {a b : SurfaceTransaction}
    (h : a.previousCommittedGeneration < b.previousCommittedGeneration) :
    drawnGeneration a ≤ drawnGeneration b := by
  rw [UInt64.lt_iff_toNat_lt] at h
  rw [UInt64.le_iff_toNat_le, drawnGeneration, drawnGeneration, toNat_saturatingAdd,
    toNat_saturatingAdd]
  omega

theorem Seen.mono {more : List SurfaceTransaction} (h : Seen surface seen ledger)
    (hsub : ∀ t ∈ seen, t ∈ more) : Seen surface more ledger :=
  ⟨fun t ht => hsub t (h.latest t ht), fun t ht => hsub t (h.settled t ht), h.ordered⟩

theorem Seen.remove (h : Seen surface seen ledger) (removed : List SurfaceId) :
    Seen surface seen (ledger.remove removed) ∧
      ∀ t, (ledger.remove removed).settled[surface]? = some t →
        ledger.settled[surface]? = some t := by
  have hlatest : ∀ t, (ledger.remove removed).latest[surface]? = some t →
      ledger.latest[surface]? = some t := by
    intro t ht
    rw [DrawLedger.remove, Ordered.getElem?_filter_key (p := fun surface => surface ∉ removed)] at ht
    split at ht
    · exact ht
    · cases ht
  have hsettled : ∀ t, (ledger.remove removed).settled[surface]? = some t →
      ledger.settled[surface]? = some t := by
    intro t ht
    rw [DrawLedger.remove, Ordered.getElem?_filter_key (p := fun surface => surface ∉ removed)] at ht
    split at ht
    · exact ht
    · cases ht
  exact ⟨⟨fun t ht => h.latest t (hlatest t ht), fun t ht => h.settled t (hsettled t ht),
    fun t t' ht ht' => h.ordered t t' (hsettled t ht) (hlatest t' ht')⟩, hsettled⟩

/-- Recording a transaction newer than all seen before. -/
theorem Seen.record (h : Seen surface seen ledger) {transaction : SurfaceTransaction}
    (hsurf : transaction.surface = surface)
    (hnew : ∀ t ∈ seen, drawnGeneration t ≤ drawnGeneration transaction)
    (observation : Observation) :
    Seen surface (seen ++ [transaction]) (ledger.record (transaction, observation)) := by
  subst hsurf
  have hsettle : Seen transaction.surface (seen ++ [transaction])
      { latest := ledger.latest.insert transaction.surface transaction
        settled := ledger.settled.insert transaction.surface transaction } := by
    refine ⟨?_, ?_, ?_⟩
    · intro t ht
      have ht : transaction = t := by simpa using ht
      simp [ht]
    · intro t ht
      have ht : transaction = t := by simpa using ht
      simp [ht]
    · intro t t' ht ht'
      have ht : transaction = t := by simpa using ht
      have ht' : transaction = t' := by simpa using ht'
      rw [← ht, ← ht']
      exact UInt64.le_refl _
  cases observation with
  | fenced => exact h.mono fun t ht => List.mem_append_left _ ht
  | staged =>
    refine ⟨?_, ?_, ?_⟩
    · intro t ht
      have ht : transaction = t := by simpa [DrawLedger.record] using ht
      simp [ht]
    · exact fun t ht => List.mem_append_left _ (h.settled t ht)
    · intro t t' ht ht'
      have ht' : transaction = t' := by simpa [DrawLedger.record] using ht'
      exact ht' ▸ hnew t (h.settled t ht)
  | drawn => exact hsettle
  | created => exact hsettle

theorem Seen.record_all (h : Seen surface seen ledger)
    (entries : List (SurfaceTransaction × Observation))
    (hinc : DrawnLayout.Increasing
      (seen ++ (entries.map Prod.fst).filter fun t => t.surface = surface)) :
    Seen surface (seen ++ (entries.map Prod.fst).filter fun t => t.surface = surface)
      (entries.foldl DrawLedger.record ledger) := by
  induction entries generalizing seen ledger with
  | nil => simpa using h
  | cons entry rest ih =>
    rw [List.map_cons, List.filter_cons] at hinc ⊢
    by_cases hsurf : entry.1.surface = surface
    · rw [if_pos (by simpa using hsurf), List.append_cons] at hinc ⊢
      have hlast := (List.pairwise_append.mp (List.pairwise_append.mp hinc).1).2.2
      exact ih (h.record hsurf (fun t ht => drawnGeneration_le (hlast t ht entry.1 (by simp))) _) hinc
    · rw [if_neg (by simpa using hsurf)] at hinc ⊢
      obtain ⟨hl, hse⟩ := record_of_ne ledger entry hsurf
      refine ih ⟨?_, ?_, ?_⟩ hinc
      · rw [hl]
        exact h.latest
      · rw [hse]
        exact h.settled
      · rw [hl, hse]
        exact h.ordered

/-- What has settled after a batch had settled before, or is a draw of the batch. -/
theorem settled_record_all (entries : List (SurfaceTransaction × Observation))
    {t : SurfaceTransaction}
    (ht : (entries.foldl DrawLedger.record ledger).settled[surface]? = some t) :
    ledger.settled[surface]? = some t ∨
      t ∈ (entries.map Prod.fst).filter fun t => t.surface = surface := by
  induction entries generalizing ledger with
  | nil => exact Or.inl ht
  | cons entry rest ih =>
    rw [List.map_cons, List.filter_cons]
    rcases ih ht with hset | hmem
    · by_cases hsurf : entry.1.surface = surface
      · rw [if_pos (by simpa using hsurf), List.mem_cons]
        obtain ⟨transaction, observation⟩ := entry
        subst hsurf
        cases observation with
        | fenced => exact Or.inl hset
        | staged => exact Or.inl hset
        | drawn => exact Or.inr (Or.inl (by simpa [DrawLedger.record] using hset.symm))
        | created => exact Or.inr (Or.inl (by simpa [DrawLedger.record] using hset.symm))
      · rw [(record_of_ne _ entry hsurf).2] at hset
        exact Or.inl hset
    · right
      split
      · exact List.mem_cons_of_mem _ hmem
      · exact hmem

end DrawLedger

namespace DrawnLayout

variable {surface : SurfaceId} {drawn : DrawnLayout}

theorem map_fst_observeTransactions (layout : PersistentLiveLayout)
    (transactions : List (SurfaceTransaction × ℕ)) :
    (layout.observeTransactions transactions).1.map Prod.fst = transactions.map Prod.fst := by
  induction transactions generalizing layout with
  | nil => rfl
  | cons entry rest ih =>
    obtain ⟨transaction, index⟩ := entry
    simp only [observeTransactions, List.map_cons, ih]

theorem map_fst_observeAuthorityBatch (layout : PersistentLiveLayout)
    (batch : XAuthorityObservedTransactionBatch) :
    (layout.observeAuthorityBatch batch).1.map Prod.fst = batch.transactions := by
  rw [observeAuthorityBatch, map_fst_observeTransactions]
  simp

/-- The transaction a layer of the surface shows is not replaced by an older one. -/
def NotRolledBack (surface : SurfaceId) (drawn : DrawnLayout) (a : LayoutAction) : Prop :=
  ∀ t t', drawn.ledger.settled[surface]? = some t →
    (drawn.step a).ledger.settled[surface]? = some t' → drawnGeneration t ≤ drawnGeneration t'

/-- When a resolved proposal commits, the layer of the surface shows its latest transaction; if the
proposal asked for a size, that transaction has it and the layer its exact generation. -/
def CommitsLatest (surface : SurfaceId) (drawn : DrawnLayout) : LayoutAction → Prop
  | .resolve => ∀ pending, drawn.layout.pending = some pending → pendingReady pending = true →
    ∀ layer, (drawn.step .resolve).layout.layers[surface]? = some layer →
      ∃ t, drawn.ledger.latest[surface]? = some t ∧ Shows layer t ∧
        ∀ size, pending.requestedSizes[surface]? = some size →
          drawnSize t = size ∧ layer.generation = drawnGeneration t
  | _ => True

/-- The layer of the surface shows the latest transaction that reached the live layers. -/
def ShowsSettled (surface : SurfaceId) (drawn : DrawnLayout) : Prop :=
  ∀ layer, drawn.layout.layers[surface]? = some layer →
    ∃ t, drawn.ledger.settled[surface]? = some t ∧ Shows layer t

theorem seen_step {before : List LayoutAction} {a : LayoutAction}
    (hinc : Increasing (drawsOf surface (before ++ [a])))
    (h : drawn.ledger.Seen surface (drawsOf surface before)) :
    (drawn.step a).ledger.Seen surface (drawsOf surface (before ++ [a])) ∧
      drawn.NotRolledBack surface a := by
  have hself : ∀ t t', drawn.ledger.settled[surface]? = some t →
      drawn.ledger.settled[surface]? = some t' → drawnGeneration t ≤ drawnGeneration t' := by
    intro t t' ht ht'
    cases ht.symm.trans ht'
    exact UInt64.le_refl _
  have hlater : drawn.ledger.Seen surface (drawsOf surface before ++ drawsOf surface [a]) :=
    h.mono fun t ht => List.mem_append_left _ ht
  rw [drawsOf_append] at hinc ⊢
  cases a with
  | observe batch =>
    have hbatch : drawsOf surface [.observe batch] =
        ((drawn.layout.observeAuthorityBatch batch).1.map Prod.fst).filter
          fun t => t.surface = surface := by
      rw [map_fst_observeAuthorityBatch]
      simp [drawsOf]
    rw [hbatch] at hinc ⊢
    obtain ⟨hseen, hkept⟩ := h.remove batch.removedSurfaces
    refine ⟨hseen.record_all _ hinc, ?_⟩
    intro t t' ht ht'
    rcases DrawLedger.settled_record_all _ ht' with hold | hnew
    · exact hself t t' ht (hkept t' hold)
    · exact DrawLedger.drawnGeneration_le
        ((List.pairwise_append.mp hinc).2.2 t (h.settled t ht) t' hnew)
  | takeNextUnmanaged => exact ⟨hlater, hself⟩
  | stage transaction bounds effects control now => exact ⟨hlater, hself⟩
  | stageResize size control now => exact ⟨hlater, hself⟩
  | resolve =>
    simp only [NotRolledBack, step]
    split
    · refine ⟨⟨hlater.latest, hlater.latest, ?_⟩, h.ordered⟩
      intro t t' ht ht'
      cases ht.symm.trans ht'
      exact UInt64.le_refl _
    · exact ⟨hlater, hself⟩
  | expire control now =>
    simp only [NotRolledBack, step]
    split
    · exact ⟨⟨hlater.settled, hlater.settled, hself⟩, hself⟩
    · exact ⟨hlater, hself⟩

theorem commitsLatest (hs : Sound drawn.layout) (h : UpToDate surface drawn.layout drawn.ledger)
    (a : LayoutAction) : drawn.CommitsLatest surface a := by
  cases a with
  | resolve =>
    intro pending hp hready layer hl
    simp only [step, PersistentLiveLayout.step, resolvePending_of_commits hp hready, commitPending,
      Ordered.getElem?_ofList_map (hs.distinct pending hp)] at hl
    cases h.held pending hp layer hl with
    | staged t hst hla hso hge =>
      refine ⟨t, hla, ⟨hso, hge ▸ UInt64.le_refl _⟩, fun size hsize => ⟨?_, hge⟩⟩
      have hall := List.all_eq_true.mp hready (surface, size)
        (ExtTreeMap.mem_toList_iff_getElem?_eq_some.mpr hsize)
      simpa [hst] using hall
    | kept t hst hla hsh =>
      -- A surface with a requested size has a staged transaction when the proposal is ready.
      refine ⟨t, hla, hsh, fun size hsize => ?_⟩
      have hall := List.all_eq_true.mp hready (surface, size)
        (ExtTreeMap.mem_toList_iff_getElem?_eq_some.mpr hsize)
      simp [hst] at hall
  | observe batch => trivial
  | takeNextUnmanaged => trivial
  | stage transaction bounds effects control now => trivial
  | stageResize size control now => trivial
  | expire control now => trivial

theorem upToDate_new (offset : Bool) (center : Option Size) (surface : SurfaceId) :
    UpToDate surface (new offset center) {} := by
  have hnone : (new offset center).pending = none := rfl
  have hempty : (new offset center).layers[surface]? = none := ExtTreeMap.getElem?_empty
  refine ⟨?_, ?_, ?_⟩
  · intro layer hl
    cases hempty.symm.trans hl
  · intro _
    rfl
  · intro pending he
    cases hnone.symm.trans he

open TrackedLayout in
/-- A window is drawn, asked for another size, drawn at it and committed. -/
def resizedRun : List LayoutAction :=
  [.observe (drawBatch ⟨0, 1⟩ ⟨8, 8⟩ 0 1),
    .stage ⟨⟨1⟩, [⟨⟨0, 1⟩, ⟨16, 16⟩⟩], none, [], 100⟩ ⟨0, 0, 64, 64⟩ none
      (deliveringControl ⟨1⟩ ⟨0, 1⟩) 0,
    .observe (drawBatch ⟨0, 1⟩ ⟨16, 16⟩ 1 2),
    .resolve]

theorem drawsAside_of_no_draw {batch : XAuthorityObservedTransactionBatch}
    (h : (drawn.layout.observeAuthorityBatch batch).1.all (fun entry => entry.2 ≠ .drawn) = true) :
    DrawsAside surface drawn (.observe batch) := by
  intro entry hm _ hdrawn
  have hne := List.all_eq_true.mp h entry hm
  simp [hdrawn] at hne

open TrackedLayout in
/-- The same with a second window, which the layout transaction moves. -/
def placedRun : List LayoutAction :=
  [.observe (drawBatch ⟨0, 1⟩ ⟨8, 8⟩ 0 1),
    .observe (drawBatch ⟨1, 1⟩ ⟨8, 8⟩ 0 2),
    .stage ⟨⟨1⟩, [⟨⟨0, 1⟩, ⟨16, 16⟩⟩], none, [⟨⟨1, 1⟩, ⟨8, 8, 8, 8⟩, 1, none, .identity⟩], 100⟩
      ⟨0, 0, 64, 64⟩ none (deliveringControl ⟨1⟩ ⟨0, 1⟩) 0,
    .observe (drawBatch ⟨0, 1⟩ ⟨16, 16⟩ 1 3)]

end DrawnLayout
end Sophia.Session
