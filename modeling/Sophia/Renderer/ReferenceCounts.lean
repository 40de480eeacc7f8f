import Sophia.Lib.Counted
import Sophia.Renderer.PresentationRegistry

/-! The presentations keep count of the sources and fences they use. -/
namespace Sophia.Renderer

open Protocol Std LiveDmaBufPresentationRegistry

/-- The fences a presentation names, one for each role. -/
def LivePresentRegistration.fenceHandles (p : LivePresentRegistration) : List FenceHandle :=
  [p.acquireFence, p.idleFence].filterMap id

/-- How often the presentations use a fence: one that has both roles counts twice. -/
def fenceUsers (presentations : Presentations) (fence : FenceHandle) : ℕ :=
  Users.count presentations (fun p => p.acquireFence = some fence) +
    Users.count presentations fun p => p.idleFence = some fence

abbrev SourceCounts (sources : Sources) (uses : BufferHandle → ℕ) : Prop :=
  Counted LiveDmaBufSourceRegistration.references LiveDmaBufSourceRegistration.releasePending
    sources uses

abbrev FenceCounts (fences : Fences) (uses : FenceHandle → ℕ) : Prop :=
  Counted LiveFenceSourceRegistration.references LiveFenceSourceRegistration.releasePending
    fences uses

abbrev SourceTransfer (sources sources' : Sources) (entered left : List BufferHandle) : Prop :=
  Transfer LiveDmaBufSourceRegistration.releasePending sources sources' entered left

abbrev FenceTransfer (fences fences' : Fences) (entered left : List FenceHandle) : Prop :=
  Transfer LiveFenceSourceRegistration.releasePending fences fences' entered left

variable {presentations : Presentations} {sources : Sources} {fences : Fences}
  {transaction : TransactionId} {p q : LivePresentRegistration} {fence : FenceHandle}
  {handle : BufferHandle} {uses : FenceHandle → ℕ}

section Users

theorem count_fenceHandles :
    p.fenceHandles.count fence =
      (if p.acquireFence = some fence then 1 else 0) + if p.idleFence = some fence then 1 else 0 := by
  cases hacquire : p.acquireFence with
  | none =>
    cases hidle : p.idleFence with
    | none => simp [LivePresentRegistration.fenceHandles, hacquire, hidle]
    | some idle => simp [LivePresentRegistration.fenceHandles, hacquire, hidle, List.count_cons]
  | some acquire =>
    cases hidle : p.idleFence with
    | none => simp [LivePresentRegistration.fenceHandles, hacquire, hidle, List.count_cons]
    | some idle =>
      simp [LivePresentRegistration.fenceHandles, hacquire, hidle, List.count_cons, Nat.add_comm]

theorem mem_fenceHandles :
    fence ∈ p.fenceHandles ↔ p.acquireFence = some fence ∨ p.idleFence = some fence := by
  simp [LivePresentRegistration.fenceHandles, eq_comm]

theorem fenceUsers_empty : fenceUsers ∅ fence = 0 := by
  simp [fenceUsers]

theorem fenceUsers_insert_new (h : presentations[transaction]? = none) :
    fenceUsers (presentations.insert transaction p) fence =
      fenceUsers presentations fence + p.fenceHandles.count fence := by
  unfold fenceUsers
  rw [Users.count_insert_new h, Users.count_insert_new h, count_fenceHandles]
  simp only [decide_eq_true_eq]
  omega

theorem fenceUsers_insert_same (h : presentations[transaction]? = some p)
    (hacquire : q.acquireFence = p.acquireFence) (hidle : q.idleFence = p.idleFence) :
    fenceUsers (presentations.insert transaction q) fence = fenceUsers presentations fence := by
  unfold fenceUsers
  rw [Users.count_insert_same h (by rw [hacquire]), Users.count_insert_same h (by rw [hidle])]

theorem fenceUsers_erase (h : presentations[transaction]? = some p) :
    fenceUsers presentations fence =
      fenceUsers (presentations.erase transaction) fence + p.fenceHandles.count fence := by
  unfold fenceUsers
  have hacquire := Users.count_erase (p := fun p => decide (p.acquireFence = some fence)) h
  have hidle := Users.count_erase (p := fun p => decide (p.idleFence = some fence)) h
  rw [count_fenceHandles]
  simp only [decide_eq_true_eq] at hacquire hidle
  omega

theorem sourceUsers_empty : sourceUsers ∅ handle = 0 := by
  simp [sourceUsers]

theorem sourceUsers_insert_new (h : presentations[transaction]? = none) :
    sourceUsers (presentations.insert transaction p) handle =
      sourceUsers presentations handle + if handle = p.source then 1 else 0 := by
  unfold sourceUsers
  rw [Users.count_insert_new h]
  simp only [decide_eq_true_eq, @eq_comm _ p.source]

theorem sourceUsers_insert_same (h : presentations[transaction]? = some p)
    (hsource : q.source = p.source) :
    sourceUsers (presentations.insert transaction q) handle = sourceUsers presentations handle := by
  unfold sourceUsers
  rw [Users.count_insert_same h (by rw [hsource])]

theorem sourceUsers_erase (h : presentations[transaction]? = some p) :
    sourceUsers presentations handle =
      sourceUsers (presentations.erase transaction) handle + if handle = p.source then 1 else 0 := by
  unfold sourceUsers
  rw [Users.count_erase h]
  simp only [decide_eq_true_eq, @eq_comm _ p.source]

end Users

/-- The source of a finished presentation is counted down, and goes with its last use if it was
asked to. -/
theorem releaseSource_used {source : LiveDmaBufSourceRegistration}
    (h : SourceCounts sources (sourceUsers presentations))
    (hp : presentations[transaction]? = some p) (hget : sources[p.source]? = some source) :
    SourceCounts (releaseSource sources p.source source)
        (sourceUsers (presentations.erase transaction)) ∧
      SourceTransfer sources (releaseSource sources p.source source) []
        (if source.references - 1 = 0 ∧ source.releasePending then [p.source] else []) ∧
      (releaseSource sources p.source source).size ≤ sources.size := by
  have hrefs := h.refs_eq hget
  have huses : ∀ other, sourceUsers (presentations.erase transaction) other =
      if other = p.source then source.references - 1 else sourceUsers presentations other := by
    intro other
    have hone := @sourceUsers_erase presentations transaction p other hp
    split
    · rename_i he
      subst he
      simp only [if_true] at hone
      omega
    · rename_i hne
      simp only [hne, if_false] at hone
      omega
  unfold releaseSource
  dsimp only
  split
  · rename_i hlast
    rw [erase_insert_self]
    refine ⟨h.leave fun other => ?_, .leave hget, ExtTreeMap.size_erase_le⟩
    rw [huses, hlast.1]
  · rename_i hkept
    refine ⟨h.change (fun hpending => ?_) huses, .change hget fun hpending => hpending, ?_⟩
    · have hne : source.references - 1 ≠ 0 := fun hzero => hkept ⟨hzero, hpending⟩
      exact Nat.pos_of_ne_zero hne
    · rw [size_insert_of_getElem? hget]

section Fences

variable {handles : List FenceHandle} {f : LiveFenceSourceRegistration}

/-- Every fence of the list is there to be counted. -/
theorem retainFences_used (h : FenceCounts fences uses)
    (hthere : ∀ fence ∈ handles, fence ∈ fences) :
    FenceCounts (retainFences fences handles) (fun fence => uses fence + handles.count fence) ∧
      FenceTransfer fences (retainFences fences handles) [] [] ∧
      (retainFences fences handles).size = fences.size := by
  induction handles generalizing fences uses with
  | nil => exact ⟨h.congr fun fence => rfl, .refl fences, rfl⟩
  | cons fence handles ih =>
    obtain ⟨f, hget⟩ : ∃ f, fences[fence]? = some f :=
      ⟨_, ExtTreeMap.getElem?_eq_some_getElem (hthere fence List.mem_cons_self)⟩
    have hone : retainFences fences (fence :: handles) =
        retainFences (fences.insert fence { f with references := f.references + 1 }) handles := by
      simp only [retainFences, List.foldl_cons, hget]
    have hcounted : FenceCounts
        (fences.insert fence { f with references := f.references + 1 })
        (fun other => uses other + if other = fence then 1 else 0) := by
      refine h.change (fun _ => Nat.succ_pos _) fun other => ?_
      split
      · rename_i he
        rw [he, ← h.refs_eq hget]
      · rfl
    have htransfer : FenceTransfer fences
        (fences.insert fence { f with references := f.references + 1 }) [] [] :=
      .change hget fun hpending => hpending
    obtain ⟨hcounted', htransfer', hsize⟩ := ih hcounted fun other hother => by
      rw [ExtTreeMap.mem_insert]
      exact .inr (hthere other (List.mem_cons_of_mem fence hother))
    rw [hone]
    refine ⟨hcounted'.congr fun other => ?_, htransfer.trans htransfer', ?_⟩
    · rw [List.count_cons]
      by_cases he : other = fence
      · simp only [he, beq_self_eq_true, if_true]
        omega
      · have hne : fence ≠ other := Ne.symm he
        simp [he, hne]
    · rw [hsize, size_insert_of_getElem? hget]

/-- One more fence is released after some others. -/
def releaseFence (done : List FenceHandle × Fences) (fence : FenceHandle) :
    List FenceHandle × Fences :=
  match done.2[fence]? with
  | none => done
  | some f =>
    if f.references - 1 = 0 ∧ f.releasePending then (done.1 ++ [fence], done.2.erase fence)
    else (done.1, done.2.insert fence { f with references := f.references - 1 })

theorem releaseFences_eq : releaseFences fences handles = handles.foldl releaseFence ([], fences) :=
  rfl

theorem foldl_releaseFence (released : List FenceHandle) :
    handles.foldl releaseFence (released, fences) =
      (released ++ (handles.foldl releaseFence ([], fences)).1,
        (handles.foldl releaseFence ([], fences)).2) := by
  induction handles generalizing released fences with
  | nil => simp
  | cons fence handles ih =>
    simp only [List.foldl_cons, releaseFence]
    cases hget : fences[fence]? with
    | none => exact ih released
    | some f =>
      simp only
      split
      · rw [ih (released ++ [fence]), ih ([] ++ [fence])]
        simp
      · exact ih released

/-- The release of a list of fences goes on where the first one leaves off. -/
theorem releaseFences_cons (hget : fences[fence]? = some f) :
    releaseFences fences (fence :: handles) =
      if f.references - 1 = 0 ∧ f.releasePending then
        (fence :: (releaseFences (fences.erase fence) handles).1,
          (releaseFences (fences.erase fence) handles).2)
      else releaseFences (fences.insert fence { f with references := f.references - 1 }) handles := by
  simp only [releaseFences_eq, List.foldl_cons, releaseFence, hget]
  split
  · rw [foldl_releaseFence]
    rfl
  · rfl

/-- Every fence of the list is counted down, and goes with its last use if it was asked to. -/
theorem releaseFences_used (h : FenceCounts fences uses)
    (huses : ∀ fence, handles.count fence ≤ uses fence) :
    FenceCounts (releaseFences fences handles).2 (fun fence => uses fence - handles.count fence) ∧
      FenceTransfer fences (releaseFences fences handles).2 [] (releaseFences fences handles).1 ∧
      (releaseFences fences handles).2.size ≤ fences.size := by
  induction handles generalizing fences uses with
  | nil => exact ⟨h.congr fun fence => rfl, .refl fences, Nat.le_refl _⟩
  | cons fence handles ih =>
    have hused : 0 < uses fence := by
      have hone := huses fence
      rw [List.count_cons_self] at hone
      omega
    obtain ⟨f, hget⟩ := h.exists_of_used hused
    have hrefs := h.refs_eq hget
    have hrest : ∀ other, handles.count other ≤ uses other - if other = fence then 1 else 0 := by
      intro other
      have hone := huses other
      rw [List.count_cons] at hone
      by_cases he : other = fence
      · simp only [he, beq_self_eq_true, if_true] at hone ⊢
        omega
      · have hne : fence ≠ other := Ne.symm he
        simpa [he, hne] using hone
    have hcount : ∀ other, uses other - (fence :: handles).count other =
        (uses other - if other = fence then 1 else 0) - handles.count other := by
      intro other
      rw [List.count_cons]
      by_cases he : other = fence
      · simp only [he, beq_self_eq_true, if_true]
        omega
      · have hne : fence ≠ other := Ne.symm he
        simp [he, hne]
    rw [releaseFences_cons hget]
    split
    · rename_i hlast
      have hcounted : FenceCounts (fences.erase fence)
          (fun other => uses other - if other = fence then 1 else 0) := by
        refine h.leave fun other => ?_
        split
        · rename_i he
          rw [he, ← hrefs, hlast.1]
        · rfl
      obtain ⟨hcounted', htransfer', hsize⟩ := ih hcounted hrest
      refine ⟨hcounted'.congr hcount, (Transfer.leave hget).trans htransfer', ?_⟩
      exact hsize.trans ExtTreeMap.size_erase_le
    · rename_i hkept
      have hcounted : FenceCounts
          (fences.insert fence { f with references := f.references - 1 })
          (fun other => uses other - if other = fence then 1 else 0) := by
        refine h.change (fun hpending => ?_) fun other => ?_
        · have hne : f.references - 1 ≠ 0 := fun hzero => hkept ⟨hzero, hpending⟩
          exact Nat.pos_of_ne_zero hne
        · split
          · rename_i he
            rw [he, ← hrefs]
          · rfl
      obtain ⟨hcounted', htransfer', hsize⟩ := ih hcounted hrest
      have hchange : FenceTransfer fences
          (fences.insert fence { f with references := f.references - 1 }) [] [] :=
        .change hget fun hpending => hpending
      refine ⟨hcounted'.congr hcount, hchange.trans htransfer', ?_⟩
      rwa [size_insert_of_getElem? hget] at hsize

end Fences
end Sophia.Renderer
