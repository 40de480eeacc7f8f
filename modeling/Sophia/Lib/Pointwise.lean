import Mathlib.Data.List.Nodup

/-! Changes of a state that are a change of the value at each place. -/
namespace Sophia.Pointwise

variable {σ ι ν α : Type*}

/-- On the states of a domain, the change acts on the value at each place, and only on it. -/
structure ActsBy (view : σ → ι → ν) (dom : σ → Prop) (change : σ → σ) (act : ι → ν → ν) : Prop where
  keeps : ∀ s, dom s → dom (change s)
  view_eq : ∀ s, dom s → ∀ i, view (change s) i = act i (view s i)

variable {view : σ → ι → ν} {dom : σ → Prop} {change change' : σ → σ} {act act' : ι → ν → ν}
  {items : List α}

theorem actsBy_id : ActsBy view dom id fun _ v => v := ⟨fun _ hs => hs, fun _ _ _ => rfl⟩

theorem ActsBy.comp (h : ActsBy view dom change act) (h' : ActsBy view dom change' act') :
    ActsBy view dom (fun s => change' (change s)) fun i v => act' i (act i v) where
  keeps s hs := h'.keeps _ (h.keeps s hs)
  view_eq s hs i := by rw [h'.view_eq _ (h.keeps s hs), h.view_eq s hs]

theorem ActsBy.congr (h : ActsBy view dom change act) (he : ∀ i v, act i v = act' i v) :
    ActsBy view dom change act' where
  keeps := h.keeps
  view_eq s hs i := (h.view_eq s hs i).trans (he i _)

theorem ActsBy.of_eq (h : ActsBy view dom change act) (he : ∀ s, dom s → change' s = change s) :
    ActsBy view dom change' act where
  keeps s hs := by
    rw [he s hs]
    exact h.keeps s hs
  view_eq s hs i := by rw [he s hs, h.view_eq s hs]

/-- A loop acts on a place by the acts of its rounds there. -/
theorem ActsBy.foldl {body : σ → α → σ} {acts : α → ι → ν → ν}
    (h : ∀ a ∈ items, ActsBy view dom (fun s => body s a) (acts a)) :
    ActsBy view dom (fun s => items.foldl body s) fun i v =>
      items.foldl (fun v a => acts a i v) v := by
  induction items with
  | nil => exact actsBy_id
  | cons a items ih =>
    exact (h a List.mem_cons_self).comp (ih fun b hb => h b (List.mem_cons_of_mem a hb))

/-- Rounds that each reach some of the places act on a place by the rounds that reach it. -/
theorem ActsBy.foldl_filter {body : σ → α → σ} (reaches : ι → α → Bool) (f : ι → ν → α → ν)
    (h : ∀ a ∈ items, ActsBy view dom (fun s => body s a) fun i v =>
      if reaches i a then f i v a else v) :
    ActsBy view dom (fun s => items.foldl body s) fun i v =>
      (items.filter (reaches i)).foldl (f i) v := by
  refine (ActsBy.foldl h).congr fun i v => ?_
  rw [List.foldl_filter]

/-- Rounds for one place each, none twice. -/
theorem ActsBy.foldl_places [DecidableEq ι] {places : List ι} {body : σ → ι → σ} {f : ι → ν → ν}
    (hplaces : places.Nodup) (h : ∀ p ∈ places, ActsBy view dom (fun s => body s p) fun i v =>
      if i = p then f i v else v) :
    ActsBy view dom (fun s => places.foldl body s) fun i v =>
      if i ∈ places then f i v else v := by
  refine (ActsBy.foldl h).congr fun i v => ?_
  clear h
  induction places generalizing v with
  | nil => rfl
  | cons p places ih =>
    obtain ⟨hp, hrest⟩ := List.nodup_cons.mp hplaces
    rw [List.foldl_cons, ih hrest]
    by_cases hi : i = p
    · subst hi
      simp [hp]
    · simp [hi]

end Sophia.Pointwise
