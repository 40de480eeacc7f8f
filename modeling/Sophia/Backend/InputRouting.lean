import Sophia.Backend.RuntimeFrames
import Sophia.Engine.HitTest
import Sophia.Renderer.CpuScene

/-! Whether the surface a pointer event goes to is the surface drawn under the pointer. -/
namespace Sophia.Backend

open Protocol Engine Renderer Std Ordered

/-- The committed entry of a surface and the layer that stands for it in hit testing. -/
def Agree (entry : CommittedSurfaceState) (layer : SurfaceTransaction) : Prop :=
  layer.surface = entry.surface ∧ entry.surface.isValid = true ∧
    entry.geometry.isEmpty = false ∧ layer.targetGeometry = entry.geometry ∧
    (layer.targetBuffer = .none → entry.buffer = .none)

/-- The committed vector is in the order of the layer map and agrees with it surface by
surface. -/
structure Mirrors (rt : LiveProductionVisualRuntime) : Prop where
  sound : Sound rt
  sorted : (rt.committedSurfaces.map (·.surface)).Pairwise fun a b => compare a b = .lt
  agree : ∀ s, Option.Rel Agree (find rt.committedSurfaces s) rt.layers[s]?

/-- All transactions of the batch are ready, and it destroys none of their surfaces. -/
def CommitsAll (rt : LiveProductionVisualRuntime) (batch : LiveProductionAuthorityBatch) : Prop :=
  BatchReady batch.transaction batch.transactions (rt.validatedAgainst batch) ∧
    ∀ tx ∈ batch.transactions, tx.surface ∉ batch.removedSurfaces

/-- The batch names committed surfaces only, leaves their geometry as it is, and destroys no
committed surface. -/
def KeepsGeometry (rt : LiveProductionVisualRuntime) (batch : LiveProductionAuthorityBatch) :
    Prop :=
  (∀ tx ∈ batch.transactions, ∃ entry, find rt.committedSurfaces tx.surface = some entry ∧
    tx.targetGeometry = entry.geometry ∧ (tx.targetBuffer = .none → entry.buffer = .none)) ∧
  ∀ s ∈ batch.removedSurfaces, find rt.committedSurfaces s = none

/-- The presentation that is flipped leaves the geometry of its surfaces as it is. -/
def FlipKeepsGeometry (rt : LiveProductionVisualRuntime) : Prop :=
  ∀ submitted ∈ rt.scheduler.submitted,
    submitted.prepared.TouchedBaselineIsCurrent rt.committedSurfaces →
      ∀ s ∈ submitted.prepared.commit.appliedSurfaces, ∃ entry candidate layer,
        find rt.committedSurfaces s = some entry ∧
        find submitted.prepared.candidate s = some candidate ∧ rt.layers[s]? = some layer ∧
        candidate.geometry = entry.geometry ∧
        (layer.targetBuffer = .none → candidate.buffer = .none)

/-- Each action commits what it puts in the layer map, or leaves geometry alone. -/
def MirrorHolds (rt : LiveProductionVisualRuntime) : Action → Prop
  | .cpuCycle env batch => rt.observes env batch = true → CommitsAll rt batch ∨ KeepsGeometry rt batch
  | .runBatch env batch =>
    if batch.presentSubmissions = [] then
      rt.observes env batch = true → CommitsAll rt batch ∨ KeepsGeometry rt batch
    else rt.observes env batch = true → rt.enqueues env batch = true → KeepsGeometry rt batch
  | .pageFlip _ _ _ => FlipKeepsGeometry rt
  | _ => True

section Step

variable {rt rt' : LiveProductionVisualRuntime} {env : Env}
  {batch : LiveProductionAuthorityBatch} {s : SurfaceId}

theorem Mirrors.congr (h : Mirrors rt) (hs : Sound rt')
    (hc : rt'.committedSurfaces = rt.committedSurfaces) (hl : rt'.layers = rt.layers) :
    Mirrors rt' :=
  ⟨hs, hc ▸ h.sorted, fun s => by rw [hc, hl]; exact h.agree s⟩

theorem Mirrors.layer_eq_none (h : Mirrors rt) (hs : find rt.committedSurfaces s = none) :
    rt.layers[s]? = none := by
  have hrel := h.agree s
  rw [hs] at hrel
  cases hlayer : rt.layers[s]? with
  | none => rfl
  | some layer =>
    rw [hlayer] at hrel
    cases hrel

/-- New layers over an unchanged committed vector, when geometry is kept. -/
theorem mirrors_keepsGeometry (h : Mirrors rt) (hs : Sound rt') (hk : KeepsGeometry rt batch)
    (hc : rt'.committedSurfaces = rt.committedSurfaces)
    (hl : rt'.layers = updateLayers rt.layers batch.removedSurfaces batch.transactions) :
    Mirrors rt' := by
  refine ⟨hs, hc ▸ h.sorted, fun s => ?_⟩
  rw [hc, hl, getElem?_updateLayers]
  have hold := h.agree s
  cases hlast : Keyed.lookup SurfaceTransaction.surface batch.transactions.reverse s with
  | none =>
    rw [Option.none_or]
    split
    · rename_i hr
      rw [hk.2 s hr]
      exact .none
    · exact hold
  | some tx =>
    have hsurface := Keyed.key_of_lookup hlast
    obtain ⟨entry, he, hgeometry, hbuffer⟩ :=
      hk.1 tx (List.mem_reverse.mp (Keyed.mem_of_lookup hlast))
    rw [hsurface] at he
    rw [he] at hold ⊢
    generalize rt.layers[s]? = layer at hold
    cases hold with
    | some hagree =>
      obtain ⟨hsame, hvalid, hnonempty, -, -⟩ := hagree
      have hentry : entry.surface = s := Keyed.key_of_lookup he
      exact .some ⟨hsurface.trans hentry.symm, hvalid, hnonempty, hgeometry, hbuffer⟩

theorem sorted_validatedAgainst (h : Mirrors rt) :
    ((rt.validatedAgainst batch).map (·.surface)).Pairwise fun a b => compare a b = .lt := by
  unfold LiveProductionVisualRuntime.validatedAgainst LiveProductionVisualRuntime.seededFor
  split
  · exact keyedBy_seedMap.sorted_values
  · exact h.sorted

theorem mem_validatedAgainst_of_named (h : Sound rt) {tx : SurfaceTransaction}
    (htx : tx ∈ batch.transactions) :
    tx.surface ∈ (rt.validatedAgainst batch).map (·.surface) := by
  have hsome : (find (rt.validatedAgainst batch) tx.surface).isSome := by
    rw [find_validatedAgainst h]
    cases hc : find rt.committedSurfaces tx.surface with
    | some entry => rfl
    | none =>
      obtain ⟨last, -, -, hlast⟩ := Keyed.lookup_reverse_of_exists
        (⟨tx, htx, rfl⟩ : ∃ tx' ∈ batch.transactions, tx'.surface = tx.surface)
      rw [if_pos (namesUncommitted_iff.mpr ⟨tx, htx, hc⟩), getElem?_updateLayers, hlast]
      rfl
  obtain ⟨entry, hentry, hkey⟩ := Keyed.lookup_isSome_iff.mp hsome
  exact List.mem_map.mpr ⟨entry, hentry, hkey⟩

/-- Applying a prepared commit to surfaces that are all committed keeps the order. -/
theorem map_surface_apply {p : PreparedSurfaceCommit} {committed : List CommittedSurfaceState}
    (h : ∀ s ∈ p.commit.appliedSurfaces, s ∈ committed.map (·.surface)) :
    (applyPreparedSurfaceCommit p committed).2.map (·.surface) = committed.map (·.surface) := by
  by_cases ho : (applyPreparedSurfaceCommit p committed).1.outcome = .committed
  · rw [apply_of_committed ho]
    refine Keyed.map_key_putAll fun state hm => ?_
    exact h _ (PreparedSurfaceCommit.mem_updates_iff.mp hm).1
  · rw [apply_of_not_committed ho]

theorem sorted_commit (h : Mirrors rt)
    (hb : BatchReady batch.transaction batch.transactions (rt.validatedAgainst batch)) :
    ((AuthorityTransactionIntake.commit
      ⟨batch.transaction, batch.transactions, batch.removedSurfaces⟩
      (rt.validatedAgainst batch)).2.map (·.surface)).Pairwise fun a b => compare a b = .lt := by
  have hn : NodupSurfaces (rt.validatedAgainst batch) := nodup_seededFor h.sound.nodup
  have hready := (prepare_isReady_iff hn).mpr hb
  have hsurfaces : (commitSurfaceTransactions batch.transaction batch.transactions
      (rt.validatedAgainst batch)).2.map (·.surface) =
        (rt.validatedAgainst batch).map (·.surface) := by
    refine map_surface_apply fun s hs => ?_
    rw [(prepare_of_isReady hready).1] at hs
    obtain ⟨tx, htx, rfl⟩ := List.mem_map.mp hs
    exact mem_validatedAgainst_of_named h.sound htx
  rw [AuthorityTransactionIntake.commit, if_pos ((commit_outcome_iff hn).mpr hb)]
  refine List.Pairwise.sublist (List.filter_sublist.map _) ?_
  rw [hsurfaces]
  exact sorted_validatedAgainst h

/-- A batch that commits all it names keeps the committed vector and the layers in agreement. -/
theorem mirrors_commitsAll (h : Mirrors rt) (hc : Committed rt rt' env batch)
    (ho : rt.observes env batch = true) (hb : CommitsAll rt batch) : Mirrors rt' := by
  obtain ⟨hl, hcom⟩ := hc.observed ho
  have hn : NodupSurfaces (rt.validatedAgainst batch) := nodup_seededFor h.sound.nodup
  refine ⟨sound_committed h.sound hc, ?_, fun s => ?_⟩
  · rw [hcom]
    exact sorted_commit h hb.1
  rw [hcom, hl, find_intake_of_ready hn hb.1, find_nextCommitted, getElem?_updateLayers]
  cases hlast : Keyed.lookup SurfaceTransaction.surface batch.transactions.reverse s with
  | some tx =>
    have hmem := List.mem_reverse.mp (Keyed.mem_of_lookup hlast)
    have hsurface := Keyed.key_of_lookup hlast
    have hready := (hb.1 tx hmem).2
    rw [if_neg (hsurface ▸ hb.2 tx hmem)]
    exact .some ⟨rfl, hready.valid, hready.nonempty, rfl, fun hnone => hnone⟩
  | none =>
    have hne := Keyed.lookup_reverse_eq_none_iff.mp hlast
    simp only [Option.map_none, Option.none_or]
    split
    · exact .none
    rename_i hkept
    have hold := h.agree s
    rw [find_validatedAgainst h.sound, getElem?_updateLayers_of_forall_ne hne, if_neg hkept]
    cases hfind : find rt.committedSurfaces s with
    | none =>
      rw [h.layer_eq_none hfind]
      simp only [Option.none_or, Option.map_none, ite_self]
      exact .none
    | some entry =>
      rw [hfind] at hold
      exact hold

theorem mirrors_committed (h : Mirrors rt) (hc : Committed rt rt' env batch)
    (hok : rt.observes env batch = true → CommitsAll rt batch ∨ KeepsGeometry rt batch) :
    Mirrors rt' := by
  have hs := sound_committed h.sound hc
  cases ho : rt.observes env batch with
  | false => exact h.congr hs (hc.refused ho).1 (hc.refused ho).2
  | true =>
    have hn : NodupSurfaces (rt.validatedAgainst batch) := nodup_seededFor h.sound.nodup
    by_cases hb : BatchReady batch.transaction batch.transactions (rt.validatedAgainst batch)
    · refine mirrors_commitsAll h hc ho ⟨hb, ?_⟩
      rcases hok ho with hall | hkeep
      · exact hall.2
      · intro tx htx hr
        obtain ⟨entry, he, -⟩ := hkeep.1 tx htx
        rw [hkeep.2 _ hr] at he
        cases he
    · have hkeep := (hok ho).resolve_left fun hall => hb hall.1
      refine mirrors_keepsGeometry h hs hkeep ?_ (hc.observed ho).1
      have hnames : ¬ namesUncommitted batch.transactions rt.committedSurfaces = true := by
        rw [namesUncommitted_iff]
        rintro ⟨tx, htx, hnone⟩
        obtain ⟨entry, he, -⟩ := hkeep.1 tx htx
        rw [hnone] at he
        cases he
      rw [(hc.observed ho).2, intake_of_not_ready hn hb,
        LiveProductionVisualRuntime.validatedAgainst, LiveProductionVisualRuntime.seededFor,
        if_neg hnames]

theorem mirrors_pageFlip (h : Mirrors rt) (os : Os) (ust msc : UInt64)
    (hk : FlipKeepsGeometry rt) : Mirrors (step rt (.pageFlip os ust msc)) := by
  obtain ⟨hl, -, hc⟩ := pageFlip_frame rt os ust msc
  have hs := sound_step h.sound (.pageFlip os ust msc)
  cases hsub : rt.scheduler.submitted with
  | none =>
    rw [hsub] at hc
    exact h.congr hs hc hl
  | some submitted =>
    rw [hsub] at hc
    by_cases ho : (applyPreparedSurfaceCommit submitted.prepared
        rt.committedSurfaces).1.outcome = .committed
    swap
    · exact h.congr hs (hc.trans (apply_of_not_committed ho)) hl
    have hkeep := hk submitted hsub (apply_outcome_iff.mp ho).2
    refine ⟨hs, ?_, fun s => ?_⟩
    · rw [step, hc, map_surface_apply]
      · exact h.sorted
      · intro s hm
        obtain ⟨entry, -, -, he, -⟩ := hkeep s hm
        exact List.mem_map.mpr ⟨entry, Keyed.mem_of_lookup he, Keyed.key_of_lookup he⟩
    rw [step, hc, hl]
    by_cases hm : s ∈ submitted.prepared.commit.appliedSurfaces
    · obtain ⟨entry, candidate, layer, he, hcand, hlayer, hgeometry, hbuffer⟩ := hkeep s hm
      have hold := h.agree s
      rw [he, hlayer] at hold
      rw [find_apply_touched ho hm, hcand, hlayer]
      cases hold with
      | some hagree =>
        obtain ⟨hsame, hvalid, hnonempty, hlg, -⟩ := hagree
        have hsurface : candidate.surface = entry.surface :=
          (Keyed.key_of_lookup hcand).trans (Keyed.key_of_lookup he).symm
        exact .some ⟨hsame.trans hsurface.symm, hsurface ▸ hvalid, hgeometry ▸ hnonempty,
          hlg.trans hgeometry.symm, hbuffer⟩
    · rw [find_apply_untouched hm]
      exact h.agree s

theorem mirrors_step (h : Mirrors rt) (a : Action) (hok : MirrorHolds rt a) :
    Mirrors (step rt a) := by
  cases a with
  | cpuCycle env batch => exact mirrors_committed h (committed_cpuCycle rt env batch) hok
  | runBatch env batch =>
    by_cases hb : batch.presentSubmissions = []
    · simp only [MirrorHolds, if_pos hb] at hok
      exact mirrors_committed h (committed_runBatch rt env hb) hok
    · simp only [MirrorHolds, if_neg hb] at hok
      have hp := presented_runBatch rt env hb
      have hs := sound_step h.sound (.runBatch env batch)
      by_cases hq : rt.observes env batch = true ∧ rt.enqueues env batch = true
      · refine mirrors_keepsGeometry h hs (hok hq.1 hq.2) hp.committed ?_
        rw [step, hp.layers, if_pos hq]
      · refine h.congr hs hp.committed ?_
        rw [step, hp.layers, if_neg hq]
  | drive env =>
    have hd := driven_drive rt env
    exact h.congr (sound_step h.sound (.drive env)) hd.committed hd.layers
  | pageFlip os ust msc => exact mirrors_pageFlip h os ust msc hok
  | shutdown os =>
    obtain ⟨hc, hl, -⟩ := shutdown_frame rt os
    exact h.congr (sound_step h.sound (.shutdown os)) hc hl

theorem mirrors_start {scheduler : LiveProductionPresentScheduler}
    (hs : scheduler.submitted = none) : Mirrors (.withCommittedSurfaces [] scheduler) := by
  refine ⟨sound_start Keyed.nodupKeys_nil hs, .nil, fun s => ?_⟩
  simp only [LiveProductionVisualRuntime.withCommittedSurfaces, ExtTreeMap.getElem?_empty]
  exact .none

end Step

section Pixel

variable {rt : LiveProductionVisualRuntime} {x y : ℕ}

theorem inputLayers_sorted (rt : LiveProductionVisualRuntime) :
    rt.inputLayers.Pairwise fun a b => a.stackRank ≤ b.stackRank := by
  rw [LiveProductionVisualRuntime.inputLayers, List.pairwise_map]
  have hindex : (values rt.layers).zipIdx.Pairwise fun a b => a.2 ≤ b.2 := by
    refine List.Pairwise.imp (fun h => Nat.le_of_lt h) ?_
    rw [← List.pairwise_map (f := Prod.snd) (R := (· < ·)), List.zipIdx_map_snd]
    exact List.pairwise_lt_range'
  refine hindex.imp ?_
  intro a b hab
  rw [UInt32.le_iff_toNat_le, UInt32.toNat_ofNat', UInt32.toNat_ofNat']
  simp only [UInt32.size]
  omega

theorem inputLayers_identity (rt : LiveProductionVisualRuntime) :
    ∀ layer ∈ rt.inputLayers, layer.transform = .identity := by
  intro layer hm
  obtain ⟨pair, -, rfl⟩ := List.mem_map.mp hm
  rfl

/-- A backed runtime routes an event to the last committed surface that covers its pixel. -/
theorem target_inputLayers (h : Mirrors rt)
    (hb : ∀ entry ∈ rt.committedSurfaces, entry.buffer ≠ .none) {event : InputEventPacket}
    (hp : event.globalPosition = some ⟨x, y⟩) :
    (hitTestSceneSurfaceForInput event rt.inputLayers).targetSurface =
      (rt.committedSurfaces.reverse.find? fun entry => Covers entry.geometry x y).map
        (·.surface) := by
  rw [hitTest_target hp (inputLayers_identity rt) (inputLayers_sorted rt)]
  -- Committed entries against layer transactions, then those against the layer snapshots.
  have hagree : List.Forall₂ (fun entry layer => Agree entry layer ∧ entry.buffer ≠ .none)
      rt.committedSurfaces (values rt.layers) := by
    refine forall₂_of_lookup h.sorted h.sound.keyed.sorted_values fun s => ?_
    rw [h.sound.keyed.lookup_values]
    show Option.Rel _ (find rt.committedSurfaces s) _
    have hrel := h.agree s
    cases hfind : find rt.committedSurfaces s with
    | none =>
      rw [h.layer_eq_none hfind]
      exact .none
    | some entry =>
      rw [hfind] at hrel
      generalize rt.layers[s]? = layer at hrel
      cases hrel with
      | some ha => exact .some ⟨ha, hb entry (Keyed.mem_of_lookup hfind)⟩
  have hcovers := Keyed.map_find?_of_forall₂ (List.rel_reverse hagree)
    (p := fun entry => Covers entry.geometry x y)
    (q := fun tx => tx.surface.isValid && (!tx.targetGeometry.isEmpty && tx.targetBuffer ≠ .none) &&
      rectContainsPoint tx.targetGeometry ⟨x, y⟩)
    (f := CommittedSurfaceState.surface) (g := SurfaceTransaction.surface) ?_
  · rw [hcovers]
    refine (Keyed.map_find?_of_forall₂ (List.rel_reverse (Keyed.forall₂_zipIdx_map _ (values rt.layers) 0))
      ?_).symm
    rintro tx layer ⟨i, rfl⟩
    simp [TakesPoint, shouldRender]
  · rintro entry tx ⟨⟨hsurface, hvalid, hnonempty, hgeometry, hnone⟩, hbuffer⟩
    have hsource : tx.targetBuffer ≠ .none := fun he => hbuffer (hnone he)
    refine ⟨?_, hsurface.symm⟩
    rw [Bool.eq_iff_iff, decide_eq_true_iff, hgeometry, hsurface]
    simp only [hvalid, hnonempty, hsource, Bool.not_false, Bool.true_and, ne_eq, not_false_eq_true,
      decide_true]
    exact (rectContainsPoint_natCast entry.geometry x y).symm

/-- The surface drawn last at a pixel: the raised one if it covers the pixel, else the last
committed one that does. -/
theorem find?_surfaceOrder {committed : List CommittedSurfaceState} (hn : NodupSurfaces committed)
    (raised : Option SurfaceId) (p : CommittedSurfaceState → Bool) :
    (surfaceOrder committed raised).reverse.find? p =
      match raised.bind (find committed) with
      | none => committed.reverse.find? p
      | some top => if p top then some top else committed.reverse.find? p := by
  rw [surfaceOrder, List.reverse_append, List.find?_append, ← List.filter_reverse,
    List.find?_filter]
  cases hr : raised.bind (find committed) with
  | none =>
    simp only [Option.toList_none, List.reverse_nil, List.find?_nil, Option.none_or]
    refine List.find?_congr fun state hm => ?_
    have hne : some state.surface ≠ raised := by
      rintro rfl
      have hfound : find committed state.surface = some state :=
        hn.lookup_of_mem (List.mem_reverse.mp hm)
      cases hfound.symm.trans hr
    simp [hne]
  | some top =>
    simp only [Option.toList_some, List.reverse_singleton, List.find?_cons, List.find?_nil]
    cases hp : p top with
    | true => rfl
    | false =>
      simp only [Option.none_or, Bool.false_eq_true, if_false]
      refine List.find?_congr fun state hm => ?_
      by_cases he : some state.surface = raised
      · -- Only the raised surface itself is missing, and it does not have the property.
        obtain ⟨r, hraised, hfind⟩ := Option.bind_eq_some_iff.mp hr
        have hstate := hn.lookup_of_mem (List.mem_reverse.mp hm)
        cases he.trans hraised
        cases hstate.symm.trans hfind
        simp [hp]
      · simp [he]

/-- At one pixel, the surface drawn and the surface routed to agree exactly when nothing above the
raised surface in surface order covers the pixel with it. -/
theorem drawn_eq_routed_iff {committed : List CommittedSurfaceState}
    (hsorted : (committed.map (·.surface)).Pairwise fun a b => compare a b = .lt)
    (hn : NodupSurfaces committed) (raised : Option SurfaceId) (p : CommittedSurfaceState → Bool) :
    ((surfaceOrder committed raised).reverse.find? p).map (·.surface) =
        (committed.reverse.find? p).map (·.surface) ↔
      ∀ top ∈ committed, raised = some top.surface → p top = true →
        ∀ other ∈ committed, compare top.surface other.surface = .lt → p other = false := by
  rw [find?_surfaceOrder hn]
  cases hr : raised.bind (find committed) with
  | none =>
    refine iff_of_true rfl ?_
    rintro top htop rfl
    have hfound : find committed top.surface = some top := hn.lookup_of_mem htop
    cases hfound.symm.trans hr
  | some top =>
    obtain ⟨r, rfl, hfind⟩ := Option.bind_eq_some_iff.mp hr
    have htop := Keyed.mem_of_lookup hfind
    have hkey : top.surface = r := Keyed.key_of_lookup hfind
    have honly : ∀ state ∈ committed, r = state.surface → state = top := by
      rintro state hm rfl
      exact Option.some.inj ((hn.lookup_of_mem hm).symm.trans hfind)
    cases hp : p top with
    | false =>
      refine iff_of_true (by simp [hp]) ?_
      intro state hm he hstate
      rw [honly state hm (Option.some.inj he), hp] at hstate
      cases hstate
    | true =>
      simp only [hp, if_true]
      have hlast := reverse_find?_eq_some_iff hsorted htop hp
      constructor
      · intro he state hm hs _
        rw [honly state hm (Option.some.inj hs)]
        refine hlast.mp ?_
        obtain ⟨found, hfound, hsurface⟩ := Option.map_eq_some_iff.mp he.symm
        have hm := List.mem_reverse.mp (List.mem_of_find?_eq_some hfound)
        rw [hfound, honly found hm (hkey.symm.trans hsurface.symm)]
      · intro h
        rw [hlast.mpr (h top htop (by rw [hkey]) hp)]

/-- Some pixel of the output lies in the focused surface and in a committed surface above it in
surface order. -/
def FocusedOverlapped (outputSize : Size) (committed : List CommittedSurfaceState)
    (focused : Option SurfaceId) : Prop :=
  ∃ top ∈ committed, focused = some top.surface ∧
    ∃ other ∈ committed, compare top.surface other.surface = .lt ∧
      ∃ x < toUsize outputSize.width, ∃ y < toUsize outputSize.height,
        Covers top.geometry x y ∧ Covers other.geometry x y

end Pixel

/-- A window of one pixel in the corner of the screen. -/
def pixelBatch (t : TransactionId) (s : SurfaceId) (handle : UInt64) :
    LiveProductionAuthorityBatch where
  transaction := t
  transactions := [{ SurfaceTransaction.draw t s 1 handle with targetGeometry := ⟨0, 0, 1, 1⟩ }]

def pixelBuffer (handle : UInt64) : LiveCpuBufferSource UInt8 :=
  ⟨handle, ⟨1, 1⟩, 4, liveRendererScanoutFormatXrgb8888, 1, [1, 2, 3, 4]⟩

/-- A screen of one pixel, with a buffer for each of two windows. -/
def pixelScene : LiveProductionCpuScene where
  outputSize := ⟨1, 1⟩
  buffers := (LiveCpuBufferRegistry.new.insert 1 (pixelBuffer 1) (by decide)).insert 2
    (pixelBuffer 2) (by decide)
  lastReport := none
  maxNonzeroPixelBytes := 0
  nonzeroFrames := 0

end Sophia.Backend
