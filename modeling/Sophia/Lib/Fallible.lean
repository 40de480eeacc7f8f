import Mathlib.Data.List.Forall2

/-! Computations that stop at the first error. -/
namespace Sophia.Fallible

universe u v w

variable {ε : Type u} {α β σ : Type v} {ι : Type w}

theorem bind_eq_ok {x : Except ε α} {f : α → Except ε β} {b : β} :
    (x >>= f) = .ok b ↔ ∃ a, x = .ok a ∧ f a = .ok b := by
  cases x <;> simp [bind, Except.bind]

theorem bind_eq_error {x : Except ε α} {f : α → Except ε β} {e : ε} :
    (x >>= f) = .error e ↔ x = .error e ∨ ∃ a, x = .ok a ∧ f a = .error e := by
  cases x <;> simp [bind, Except.bind]

theorem pure_eq_ok {a b : α} : (pure a : Except ε α) = .ok b ↔ a = b := by
  simp [pure, Except.pure]

theorem mapError_eq_ok {ε' : Type u} {x : Except ε α} {f : ε → ε'} {a : α} :
    x.mapError f = .ok a ↔ x = .ok a := by
  cases x <;> simp [Except.mapError]

theorem map_eq_ok {x : Except ε α} {f : α → β} {b : β} :
    x.map f = .ok b ↔ ∃ a, x = .ok a ∧ f a = b := by
  cases x <;> simp [Except.map]

theorem toOption_eq_some {x : Except ε α} {a : α} : x.toOption = some a ↔ x = .ok a := by
  cases x <;> simp [Except.toOption]

/-- Goes on exactly when the condition holds. -/
def require (p : Prop) [Decidable p] (error : ε) : Except ε Unit :=
  if p then .ok () else .error error

theorem require_eq_ok {p : Prop} [Decidable p] {error : ε} {u : Unit} :
    require p error = .ok u ↔ p := by
  unfold require
  split <;> simp [*]

/-- A computation that throws when the condition holds goes on exactly when it does not. -/
theorem throw_if_eq_ok {p : Prop} [Decidable p] {error : ε} {f : β → Except ε α}
    {rest : Except ε α} {a : α} :
    (if p then throw error >>= f else rest) = .ok a ↔ ¬p ∧ rest = .ok a := by
  split
  · simp [*, throw, throwThe, MonadExceptOf.throw, bind, Except.bind]
  · simp [*]

/-- What a loop body keeps holds of the result when the loop runs to its end. -/
theorem foldlM_invariant {body : σ → ι → Except ε σ} {P : σ → Prop}
    (hbody : ∀ s x s', body s x = .ok s' → P s → P s') {xs : List ι} {s s' : σ}
    (h : xs.foldlM body s = .ok s') (hs : P s) : P s' := by
  induction xs generalizing s with
  | nil =>
    cases h
    exact hs
  | cons x xs ih =>
    rw [List.foldlM_cons, bind_eq_ok] at h
    obtain ⟨next, hnext, hrest⟩ := h
    exact ih hrest (hbody s x next hnext hs)

/-- What a loop body keeps of the elements taken so far and the state holds of all of them. -/
theorem foldlM_history {body : σ → ι → Except ε σ} {P : List ι → σ → Prop}
    (hbody : ∀ before s x s', body s x = .ok s' → P before s → P (before ++ [x]) s')
    {before xs : List ι} {s s' : σ} (h : xs.foldlM body s = .ok s') (hs : P before s) :
    P (before ++ xs) s' := by
  induction xs generalizing before s with
  | nil =>
    cases h
    simpa using hs
  | cons x xs ih =>
    rw [List.foldlM_cons, bind_eq_ok] at h
    obtain ⟨next, hnext, hrest⟩ := h
    simpa using ih hrest (hbody before s x next hnext hs)

/-- A loop whose body never fails runs to its end. -/
theorem foldlM_eq_foldl {body : σ → ι → Except ε σ} {f : σ → ι → σ} {xs : List ι} (s : σ)
    (hbody : ∀ x ∈ xs, ∀ s, body s x = .ok (f s x)) : xs.foldlM body s = .ok (xs.foldl f s) := by
  induction xs generalizing s with
  | nil => rfl
  | cons x xs ih =>
    rw [List.foldlM_cons, hbody x List.mem_cons_self]
    exact ih (f s x) fun y hy => hbody y (List.mem_cons_of_mem x hy)

/-- What a counting loop keeps holds of the result when the loop runs to its end. -/
theorem foldlM_zipIdx_invariant {body : σ → ι × ℕ → Except ε σ} {P : ℕ → σ → Prop}
    (hbody : ∀ n s x s', body s (x, n) = .ok s' → P n s → P (n + 1) s') {xs : List ι} {n : ℕ}
    {s s' : σ} (h : (xs.zipIdx n).foldlM body s = .ok s') (hs : P n s) : P (n + xs.length) s' := by
  induction xs generalizing n s with
  | nil =>
    cases h
    exact hs
  | cons x xs ih =>
    rw [List.zipIdx_cons, List.foldlM_cons, bind_eq_ok] at h
    obtain ⟨next, hnext, hrest⟩ := h
    have hlast := ih hrest (hbody n s x next hnext hs)
    have hlen : n + 1 + xs.length = n + (x :: xs).length := by
      rw [List.length_cons]
      omega
    rwa [hlen] at hlast

/-- A list of partial computations succeeds when each of them does. -/
theorem mapM_isSome {β' : Type v} {f : ι → Option β'} {xs : List ι} :
    (xs.mapM f).isSome ↔ ∀ x ∈ xs, (f x).isSome := by
  induction xs with
  | nil => simp
  | cons x xs ih =>
    rw [List.mapM_cons, List.forall_mem_cons, ← ih]
    cases f x with
    | none => simp
    | some y => cases xs.mapM f <;> simp

theorem mapM_cons_eq_some {β' : Type v} {f : ι → Option β'} {x : ι} {xs : List ι}
    {ys : List β'} : (x :: xs).mapM f = some ys ↔
      ∃ y rest, f x = some y ∧ xs.mapM f = some rest ∧ y :: rest = ys := by
  rw [List.mapM_cons]
  cases f x <;> cases xs.mapM f <;> simp

/-- All that they make has a property when each of them makes something that has it. -/
theorem mapM_forall_iff {β' : Type v} {f : ι → Option β'} {P : β' → Prop} {xs : List ι} :
    (∃ ys, xs.mapM f = some ys ∧ ∀ y ∈ ys, P y) ↔ ∀ x ∈ xs, ∃ y, f x = some y ∧ P y := by
  induction xs with
  | nil => simp
  | cons x xs ih =>
    rw [List.forall_mem_cons, ← ih]
    constructor
    · rintro ⟨ys, hys, h⟩
      obtain ⟨y, rest, hy, hrest, rfl⟩ := mapM_cons_eq_some.mp hys
      obtain ⟨hfirst, hothers⟩ := List.forall_mem_cons.mp h
      exact ⟨⟨y, hy, hfirst⟩, rest, hrest, hothers⟩
    · rintro ⟨⟨y, hy, hfirst⟩, rest, hrest, hothers⟩
      exact ⟨y :: rest, mapM_cons_eq_some.mpr ⟨y, rest, hy, hrest, rfl⟩,
        List.forall_mem_cons.mpr ⟨hfirst, hothers⟩⟩

/-- A measure of what each of them makes is one of all that they make. -/
theorem map_of_mapM_eq_some {β' γ : Type v} {f : ι → Option β'} {weight : β' → γ} {size : ι → γ}
    {xs : List ι} {ys : List β'} (hf : ∀ x y, f x = some y → weight y = size x)
    (h : xs.mapM f = some ys) : ys.map weight = xs.map size := by
  induction xs generalizing ys with
  | nil =>
    cases h
    rfl
  | cons x xs ih =>
    obtain ⟨y, rest, hy, hrest, rfl⟩ := mapM_cons_eq_some.mp h
    rw [List.map_cons, List.map_cons, hf x y hy, ih hrest]

/-- A list of fallible computations fails with an error of one of them. -/
theorem mapM_eq_error {f : ι → Except ε α} {xs : List ι} {e : ε} (h : xs.mapM f = .error e) :
    ∃ x ∈ xs, f x = .error e := by
  induction xs with
  | nil => cases h
  | cons x xs ih =>
    rw [List.mapM_cons, bind_eq_error] at h
    rcases h with h | ⟨y, -, h⟩
    · exact ⟨x, List.mem_cons_self, h⟩
    · rcases bind_eq_error.mp h with h | ⟨ys, -, h⟩
      · obtain ⟨z, hz, he⟩ := ih h
        exact ⟨z, List.mem_cons_of_mem x hz, he⟩
      · cases h

/-- What it makes otherwise comes from its elements. -/
theorem mem_of_mapM_eq_ok {f : ι → Except ε α} {xs : List ι} {ys : List α} {y : α}
    (h : xs.mapM f = .ok ys) (hy : y ∈ ys) : ∃ x ∈ xs, f x = .ok y := by
  induction xs generalizing ys with
  | nil =>
    cases h
    cases hy
  | cons x xs ih =>
    rw [List.mapM_cons, bind_eq_ok] at h
    obtain ⟨first, hfirst, h⟩ := h
    obtain ⟨rest, hrest, h⟩ := bind_eq_ok.mp h
    cases h
    rcases List.mem_cons.mp hy with rfl | hy
    · exact ⟨x, List.mem_cons_self, hfirst⟩
    · obtain ⟨z, hz, he⟩ := ih hrest hy
      exact ⟨z, List.mem_cons_of_mem x hz, he⟩

theorem mapM_eq_ok_iff {f : ι → Except ε α} {xs : List ι} {ys : List α} :
    xs.mapM f = .ok ys ↔ List.Forall₂ (fun x y => f x = .ok y) xs ys := by
  induction xs generalizing ys with
  | nil =>
    rw [List.mapM_nil, pure_eq_ok, List.forall₂_nil_left_iff]
    exact eq_comm
  | cons x xs ih =>
    rw [List.mapM_cons, bind_eq_ok, List.forall₂_cons_left_iff]
    refine exists_congr fun y => ?_
    rw [bind_eq_ok]
    constructor
    · rintro ⟨hy, rest, hrest, h⟩
      exact ⟨rest, hy, ih.mp hrest, (pure_eq_ok.mp h).symm⟩
    · rintro ⟨rest, hy, hrest, rfl⟩
      exact ⟨hy, rest, ih.mpr hrest, rfl⟩

section Search

variable {f : ι → Option (Option β)} {xs : List ι} {b : β}

/-- What a search finds one of its elements gave; a test that fails ends the search. -/
theorem exists_of_findSomeM? (h : xs.findSomeM? f = some (some b)) :
    ∃ x ∈ xs, f x = some (some b) := by
  induction xs with
  | nil => cases h
  | cons x xs ih =>
    rw [List.findSomeM?_cons, Option.bind_eq_bind, Option.bind_eq_some_iff] at h
    obtain ⟨found, hx, hrest⟩ := h
    cases found with
    | none =>
      obtain ⟨y, hy, hfound⟩ := ih hrest
      exact ⟨y, List.mem_cons_of_mem _ hy, hfound⟩
    | some c =>
      cases hrest
      exact ⟨x, List.mem_cons_self, hx⟩

theorem findSomeM?_eq_none (h : xs.findSomeM? f = some none) : ∀ x ∈ xs, f x = some none := by
  induction xs with
  | nil => simp
  | cons x xs ih =>
    rw [List.findSomeM?_cons, Option.bind_eq_bind, Option.bind_eq_some_iff] at h
    obtain ⟨found, hx, hrest⟩ := h
    cases found with
    | none => exact List.forall_mem_cons.mpr ⟨hx, ih hrest⟩
    | some c => cases hrest

/-- A search whose tests never fail comes to an end. -/
theorem findSomeM?_isSome (h : ∀ x ∈ xs, (f x).isSome) : (xs.findSomeM? f).isSome := by
  induction xs with
  | nil => rfl
  | cons x xs ih =>
    obtain ⟨hx, hrest⟩ := List.forall_mem_cons.mp h
    obtain ⟨found, hfound⟩ := Option.isSome_iff_exists.mp hx
    rw [List.findSomeM?_cons, hfound]
    cases found with
    | none => exact ih hrest
    | some c => rfl

end Search

end Sophia.Fallible
