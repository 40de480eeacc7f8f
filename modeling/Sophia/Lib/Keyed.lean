import Mathlib.Data.List.Nodup

/-! Vectors searched by a key: first-match lookup and replace-or-push. -/
namespace Sophia.Keyed

variable {ν κ : Type*} [DecidableEq κ] (key : ν → κ)

/-- The first element stored under a key. -/
def lookup (l : List ν) (k : κ) : Option ν := l.find? (fun v => key v = k)

/-- Overwrite the first element with the same key, or push at the end. -/
def put : List ν → ν → List ν
  | [], v => [v]
  | x :: xs, v => if key x = key v then v :: xs else x :: put xs v

/-- Store a sequence of elements, later ones overwriting earlier ones. -/
def putAll (l updates : List ν) : List ν := updates.foldl (put key) l

def NodupKeys (l : List ν) : Prop := (l.map key).Nodup

variable {key} {l updates : List ν} {k : κ} {v w : ν}

@[simp] theorem lookup_nil : lookup key ([] : List ν) k = none := rfl

theorem lookup_cons (x : ν) (xs : List ν) :
    lookup key (x :: xs) k = if key x = k then some x else lookup key xs k := by
  by_cases h : key x = k <;> simp [lookup, h]

theorem mem_of_lookup (h : lookup key l k = some v) : v ∈ l := List.mem_of_find?_eq_some h

theorem key_of_lookup (h : lookup key l k = some v) : key v = k := by
  simpa using List.find?_some h

theorem lookup_eq_none_iff : lookup key l k = none ↔ ∀ v ∈ l, key v ≠ k := by
  simp [lookup]

theorem lookup_isSome_iff : (lookup key l k).isSome ↔ ∃ v ∈ l, key v = k := by
  simp [lookup]

theorem lookup_put (x : κ) :
    lookup key (put key l v) x = if key v = x then some v else lookup key l x := by
  induction l with
  | nil => simp [put, lookup_cons]
  | cons y ys ih =>
    by_cases hy : key y = key v
    · by_cases hx : key v = x <;> simp [put, lookup_cons, hy, hx]
    · rw [put, if_neg hy, lookup_cons, lookup_cons, ih]
      by_cases hx : key y = x
      · have : key v ≠ x := fun he => hy (hx.trans he.symm)
        simp [hx, this]
      · simp [hx]

theorem mem_put (h : w ∈ put key l v) : w = v ∨ w ∈ l := by
  induction l with
  | nil => simpa [put] using h
  | cons y ys ih =>
    rw [put] at h
    split at h
    · rcases List.mem_cons.mp h with h | h
      · exact Or.inl h
      · exact Or.inr (List.mem_cons_of_mem _ h)
    · rcases List.mem_cons.mp h with h | h
      · exact Or.inr (h ▸ List.mem_cons_self)
      · exact (ih h).imp_right (List.mem_cons_of_mem _)

/-- Elements under other keys keep their place and their order. -/
theorem filter_put (p : ν → Bool) (hp : ∀ w, key w = key v → p w = false) :
    (put key l v).filter p = l.filter p := by
  induction l with
  | nil => simp [put, hp v rfl]
  | cons y ys ih =>
    rw [put]
    split
    · rename_i hy
      simp [hp v rfl, hp y hy]
    · simp [List.filter_cons, ih]

/-- Replacing keeps the key column; pushing appends the one new key. -/
theorem map_key_put (key : ν → κ) (l : List ν) (v : ν) :
    (put key l v).map key = l.map key ∨
      (put key l v).map key = l.map key ++ [key v] ∧ key v ∉ l.map key := by
  induction l with
  | nil => right; simp [put]
  | cons y ys ih =>
    rw [put]
    split
    · rename_i hy
      left
      simp [hy]
    · rename_i hy
      rcases ih with ih | ⟨ih, hn⟩
      · left
        simp [ih]
      · right
        refine ⟨by simp [ih], ?_⟩
        intro hm
        rcases List.mem_cons.mp hm with hm | hm
        · exact hy hm.symm
        · exact hn hm

omit [DecidableEq κ] in
@[simp] theorem nodupKeys_nil : NodupKeys key ([] : List ν) := List.nodup_nil

theorem NodupKeys.put (h : NodupKeys key l) : NodupKeys key (put key l v) := by
  unfold NodupKeys
  rcases map_key_put key l v with he | ⟨he, hn⟩
  · rw [he]
    exact h
  · rw [he]
    exact List.Nodup.append h (by simp) (by simpa using hn)

omit [DecidableEq κ] in
theorem NodupKeys.filter (h : NodupKeys key l) (p : ν → Bool) : NodupKeys key (l.filter p) :=
  (List.filter_sublist.map key).nodup h

theorem NodupKeys.lookup_of_mem (h : NodupKeys key l) (hv : v ∈ l) :
    lookup key l (key v) = some v := by
  induction l with
  | nil => simp at hv
  | cons y ys ih =>
    obtain ⟨hy, hn⟩ := List.nodup_cons.mp (show (key y :: ys.map key).Nodup from h)
    rcases List.mem_cons.mp hv with rfl | hv
    · simp [lookup_cons]
    · have hne : key y ≠ key v := fun he => hy (he ▸ List.mem_map_of_mem hv)
      rw [lookup_cons, if_neg hne]
      exact ih hn hv

theorem NodupKeys.lookup_eq_some_iff (h : NodupKeys key l) :
    lookup key l k = some v ↔ v ∈ l ∧ key v = k := by
  constructor
  · intro hl
    exact ⟨mem_of_lookup hl, key_of_lookup hl⟩
  · rintro ⟨hv, rfl⟩
    exact h.lookup_of_mem hv

/-- A filter that decides by the key alone acts on lookups pointwise. -/
theorem lookup_filter_key (p : κ → Bool) :
    lookup key (l.filter fun v => p (key v)) k = if p k then lookup key l k else none := by
  induction l with
  | nil => simp
  | cons y ys ih =>
    by_cases hy : key y = k
    · subst hy
      by_cases hp : p (key y) <;> simp [lookup_cons, hp, ih]
    · by_cases hp : p (key y) <;> simp [lookup_cons, hp, hy, ih]

@[simp] theorem putAll_nil : putAll key l [] = l := rfl

@[simp] theorem putAll_cons : putAll key l (v :: updates) = putAll key (put key l v) updates := rfl

theorem mem_putAll (h : w ∈ putAll key l updates) : w ∈ updates ∨ w ∈ l := by
  induction updates generalizing l with
  | nil => exact Or.inr h
  | cons v vs ih =>
    rcases ih h with h | h
    · exact Or.inl (List.mem_cons_of_mem _ h)
    · rcases mem_put h with rfl | h
      · exact Or.inl List.mem_cons_self
      · exact Or.inr h

theorem NodupKeys.putAll (h : NodupKeys key l) : NodupKeys key (putAll key l updates) := by
  induction updates generalizing l with
  | nil => exact h
  | cons v vs ih => exact ih h.put

theorem filter_putAll (p : ν → Bool) (hp : ∀ v ∈ updates, ∀ w, key w = key v → p w = false) :
    (putAll key l updates).filter p = l.filter p := by
  induction updates generalizing l with
  | nil => rfl
  | cons v vs ih =>
    rw [putAll_cons, ih fun v hv => hp v (List.mem_cons_of_mem _ hv),
      filter_put p (hp v List.mem_cons_self)]

theorem lookup_append (l m : List ν) (k : κ) :
    lookup key (l ++ m) k = (lookup key l k).or (lookup key m k) := by
  simp [lookup, List.find?_append]

/-- The last element stored under a key wins. -/
theorem lookup_putAll :
    lookup key (putAll key l updates) k = (lookup key updates.reverse k).or (lookup key l k) := by
  induction updates generalizing l with
  | nil => rfl
  | cons v vs ih =>
    rw [putAll_cons, ih, lookup_put, List.reverse_cons, lookup_append, Option.or_assoc]
    congr 1
    rw [lookup_cons]
    by_cases h : key v = k <;> simp [h]

theorem lookup_reverse_eq_none_iff : lookup key l.reverse k = none ↔ ∀ v ∈ l, key v ≠ k := by
  simp [lookup_eq_none_iff]

theorem lookup_reverse_of_exists (h : ∃ v ∈ l, key v = k) :
    ∃ v ∈ l, key v = k ∧ lookup key l.reverse k = some v := by
  obtain ⟨v, hv, hk⟩ := h
  have hsome : (lookup key l.reverse k).isSome :=
    lookup_isSome_iff.mpr ⟨v, List.mem_reverse.mpr hv, hk⟩
  obtain ⟨w, hw⟩ := Option.isSome_iff_exists.mp hsome
  exact ⟨w, List.mem_reverse.mp (mem_of_lookup hw), key_of_lookup hw, hw⟩

theorem lookup_map {μ : Type*} {key' : μ → κ} {f : ν → μ} (h : ∀ v, key' (f v) = key v) :
    lookup key' (l.map f) k = (lookup key l k).map f := by
  simp only [lookup, List.find?_map, Function.comp_def, h]

theorem lookup_putAll_of_forall_ne (h : ∀ v ∈ updates, key v ≠ k) :
    lookup key (putAll key l updates) k = lookup key l k := by
  rw [lookup_putAll, lookup_reverse_eq_none_iff.mpr h, Option.none_or]

/-- A key that is stored at all ends up with one of the elements stored under it. -/
theorem lookup_putAll_of_exists (h : ∃ v ∈ updates, key v = k) :
    ∃ v ∈ updates, key v = k ∧ lookup key (putAll key l updates) k = some v := by
  obtain ⟨v, hv, hk, he⟩ := lookup_reverse_of_exists h
  refine ⟨v, hv, hk, ?_⟩
  rw [lookup_putAll, he, Option.some_or]

/-- Storing under keys that are all there keeps the key column. -/
theorem map_key_putAll (h : ∀ v ∈ updates, key v ∈ l.map key) :
    (putAll key l updates).map key = l.map key := by
  induction updates generalizing l with
  | nil => rfl
  | cons v vs ih =>
    have hput : (put key l v).map key = l.map key := by
      rcases map_key_put key l v with he | ⟨-, hn⟩
      · exact he
      · exact absurd (h v List.mem_cons_self) hn
    rw [putAll_cons, ih fun w hw => hput ▸ h w (List.mem_cons_of_mem _ hw), hput]

omit [DecidableEq κ] in
/-- Changing one element without its key keeps the key column. -/
theorem map_key_modify {f : ν → ν} (h : ∀ v, key (f v) = key v) (i : ℕ) :
    (l.modify i f).map key = l.map key := by
  induction l generalizing i with
  | nil => rw [List.modify_nil]
  | cons x xs ih =>
    cases i with
    | zero => simp [h]
    | succ i => simp [ih i]

/-- Changing the first element under a key changes what is found under that key only. -/
theorem lookup_modify_findIdx {f : ν → ν} (h : ∀ v, key (f v) = key v) (k' : κ) :
    lookup key (l.modify (l.findIdx fun v => key v = k) f) k' =
      if k = k' then (lookup key l k').map f else lookup key l k' := by
  induction l with
  | nil => simp
  | cons x xs ih =>
    by_cases hx : key x = k
    · by_cases hk : k = k'
      · simp [List.findIdx_cons, lookup_cons, hx, h, hk]
      · simp [List.findIdx_cons, lookup_cons, hx, h, hk]
    · by_cases hk : k = k'
      · subst hk
        rw [if_pos rfl] at ih
        simp [List.findIdx_cons, lookup_cons, hx, ih]
      · rw [if_neg hk] at ih
        simp [List.findIdx_cons, lookup_cons, hx, ih, hk]

section Pointwise

variable {μ : Type*} {key' : μ → κ} {m : List μ} {R : ν → μ → Prop}

omit [DecidableEq κ] in
theorem forall₂_refl {S : ν → ν → Prop} (h : ∀ v, S v v) (l : List ν) : List.Forall₂ S l l :=
  List.forall₂_same.mpr fun v _ => h v

omit [DecidableEq κ] in
theorem forall₂_trans {S : ν → ν → Prop} (h : ∀ a b c, S a b → S b c → S a c) {a b c : List ν}
    (h₁ : List.Forall₂ S a b) (h₂ : List.Forall₂ S b c) : List.Forall₂ S a c := by
  induction h₁ generalizing c with
  | nil =>
    cases h₂
    exact .nil
  | cons hab _ ih =>
    cases h₂ with
    | cons hbc hrest => exact .cons (h _ _ _ hab hbc) (ih hrest)

omit [DecidableEq κ] in
theorem forall₂_modify {S : ν → ν → Prop} {f : ν → ν} (h : ∀ v, S v v) (hf : ∀ v, S v (f v))
    (l : List ν) (i : ℕ) : List.Forall₂ S l (l.modify i f) := by
  induction l generalizing i with
  | nil => simp
  | cons x xs ih =>
    cases i with
    | zero => exact .cons (hf x) (forall₂_refl h xs)
    | succ i => exact .cons (h x) (ih i)

omit [DecidableEq κ] in
theorem map_key_of_forall₂ (hkey : ∀ a b, R a b → key a = key' b) (h : List.Forall₂ R l m) :
    l.map key = m.map key' := by
  induction h with
  | nil => rfl
  | cons hab _ ih => rw [List.map_cons, List.map_cons, hkey _ _ hab, ih]

theorem lookup_of_forall₂ (hkey : ∀ a b, R a b → key a = key' b) (h : List.Forall₂ R l m) (k : κ) :
    Option.Rel R (lookup key l k) (lookup key' m k) := by
  induction h with
  | nil => exact .none
  | @cons a b _ _ hab _ ih =>
    rw [lookup_cons, lookup_cons, ← hkey a b hab]
    split
    · exact .some hab
    · exact ih

theorem forall₂_zipIdx_map {α γ : Type*} (f : α × ℕ → γ) (l : List α) (n : ℕ) :
    List.Forall₂ (fun a b => ∃ i, b = f (a, i)) l ((l.zipIdx n).map f) := by
  induction l generalizing n with
  | nil => exact .nil
  | cons a l ih => exact .cons ⟨n, rfl⟩ (ih (n + 1))

/-- Lists that correspond element by element have the same first element with a property. -/
theorem map_find?_of_forall₂ {α γ κ : Type*} {R : α → γ → Prop} {l : List α} {m : List γ}
    (h : List.Forall₂ R l m) {p : α → Bool} {q : γ → Bool} {f : α → κ} {g : γ → κ}
    (hpq : ∀ a b, R a b → p a = q b ∧ f a = g b) : (l.find? p).map f = (m.find? q).map g := by
  induction h with
  | nil => rfl
  | @cons a b l m hr _ ih =>
    obtain ⟨hp, hf⟩ := hpq a b hr
    rw [List.find?_cons, List.find?_cons, ← hp]
    cases p a with
    | true => simp [hf]
    | false => exact ih

end Pointwise
end Sophia.Keyed
