import Mathlib.Algebra.GroupWithZero.Nat
import Mathlib.Algebra.Order.BigOperators.Group.List
import Mathlib.Algebra.Order.Group.Nat
import Mathlib.Data.Finset.Card
import Sophia.Lib.Keyed
import Std.Data.ExtTreeMap
import Std.Data.ExtTreeSet

/-! Ordered maps whose values carry their own key, read as vectors of values. -/
namespace Sophia.Ordered

open Std

variable {κ ν : Type*} [Ord κ] [TransOrd κ]

/-- The values in the order of their keys. -/
def values (m : ExtTreeMap κ ν) : List ν := m.toList.map Prod.snd

/-- Every value is stored under its own key. -/
def KeyedBy (key : ν → κ) (m : ExtTreeMap κ ν) : Prop := ∀ k v, m[k]? = some v → key v = k

variable {key : ν → κ} {m : ExtTreeMap κ ν} {k : κ} {v : ν}

theorem keyedBy_empty : KeyedBy key (∅ : ExtTreeMap κ ν) := by
  intro k v h
  simp at h

variable [LawfulEqOrd κ]

theorem KeyedBy.insert (h : KeyedBy key m) (v : ν) : KeyedBy key (m.insert (key v) v) := by
  intro k w hw
  by_cases hk : key v = k
  · subst hk
    have he : v = w := by simpa using hw
    rw [he]
  · exact h k w (by simpa [ExtTreeMap.getElem?_insert, hk] using hw)

theorem KeyedBy.insertIfNew (h : KeyedBy key m) (v : ν) :
    KeyedBy key (m.insertIfNew (key v) v) := by
  intro k w hw
  rw [ExtTreeMap.getElem?_insertIfNew] at hw
  split at hw
  · rename_i hk
    have hk : key v = k := LawfulEqOrd.eq_of_compare hk.1
    rw [← hk, ← Option.some.inj hw]
  · exact h k w hw

theorem KeyedBy.filter (h : KeyedBy key m) (p : κ → ν → Bool) : KeyedBy key (m.filter p) := by
  intro k v hv
  rw [ExtTreeMap.getElem?_filter', Option.filter_eq_some_iff] at hv
  exact h k v hv.1

theorem insert_of_getElem? (h : m[k]? = some v) : m.insert k v = m := by
  refine ExtTreeMap.ext_getElem? fun k' => ?_
  by_cases hk : k = k'
  · subst hk
    simp [h]
  · simp [ExtTreeMap.getElem?_insert, hk]

theorem mem_filter_key {p : κ → Bool} : k ∈ m.filter (fun k _ => p k) ↔ k ∈ m ∧ p k = true := by
  rw [ExtTreeMap.mem_filter]
  simp

theorem getElem?_filter_key {p : κ → Bool} :
    (m.filter fun k _ => p k)[k]? = if p k = true then m[k]? else none := by
  rw [ExtTreeMap.getElem?_filter']
  split
  · rename_i h
    cases m[k]? <;> simp [h]
  · rename_i h
    cases m[k]? <;> simp [h]

theorem mem_filter_set {t : ExtTreeSet κ} {p : κ → Bool} : k ∈ t.filter p ↔ k ∈ t ∧ p k = true := by
  rw [ExtTreeSet.mem_filter]
  simp

theorem mem_insert {v : ν} {k' : κ} : k ∈ m.insert k' v ↔ k' = k ∨ k ∈ m := by
  rw [ExtTreeMap.mem_insert, LawfulEqCmp.compare_eq_iff_eq]

theorem mem_ofList_map [BEq κ] [LawfulBEq κ] (key : ν → κ) (l : List ν) :
    k ∈ ExtTreeMap.ofList (l.map fun v => (key v, v)) ↔ ∃ v ∈ l, key v = k := by
  rw [ExtTreeMap.mem_ofList]
  simp

theorem KeyedBy.insertMany (h : KeyedBy key m) (l : List ν) :
    KeyedBy key (m.insertMany (l.map fun v => (key v, v))) := by
  induction l generalizing m with
  | nil => simpa using h
  | cons v l ih =>
    rw [List.map_cons, ExtTreeMap.insertMany_cons]
    exact ih (h.insert v)

theorem KeyedBy.ofList (key : ν → κ) (l : List ν) :
    KeyedBy key (ExtTreeMap.ofList (l.map fun v => (key v, v))) := by
  rw [ExtTreeMap.ofList_eq_insertMany_empty]
  exact keyedBy_empty.insertMany l

omit [LawfulEqOrd κ] in
/-- What holds of every value written holds of every value that is found. -/
theorem getElem?_insertMany_mem {P : ν → Prop} {l : List (κ × ν)} (h : ∀ entry ∈ l, P entry.2)
    (hm : ∀ (k : κ) v, m[k]? = some v → P v) (k : κ) (v : ν)
    (hv : (m.insertMany l)[k]? = some v) : P v := by
  induction l generalizing m with
  | nil => exact hm k v hv
  | cons entry l ih =>
    rw [ExtTreeMap.insertMany_cons] at hv
    refine ih (fun entry he => h entry (List.mem_cons_of_mem _ he)) ?_ hv
    intro k v hkv
    rw [ExtTreeMap.getElem?_insert] at hkv
    split at hkv
    · cases hkv
      exact h entry List.mem_cons_self
    · exact hm k v hkv

omit [LawfulEqOrd κ] in
theorem getElem?_ofList_mem {P : ν → Prop} {l : List (κ × ν)} (h : ∀ entry ∈ l, P entry.2)
    (hv : (ExtTreeMap.ofList l)[k]? = some v) : P v := by
  rw [ExtTreeMap.ofList_eq_insertMany_empty] at hv
  exact getElem?_insertMany_mem h (by simp) k v hv

/-- A list that names no key twice overwrites the entries it names and no others. -/
theorem getElem?_insertMany_distinct {l : List (κ × ν)}
    (hl : l.Pairwise fun a b => ¬ compare a.1 b.1 = .eq) :
    (m.insertMany l)[k]? = some v ↔ (k, v) ∈ l ∨ (∀ w, (k, w) ∉ l) ∧ m[k]? = some v := by
  induction l generalizing m with
  | nil => simp
  | cons entry l ih =>
    obtain ⟨hhead, htail⟩ := List.pairwise_cons.mp hl
    rw [ExtTreeMap.insertMany_cons, ih htail, ExtTreeMap.getElem?_insert]
    by_cases hk : compare entry.1 k = .eq
    · obtain rfl : entry.1 = k := LawfulEqOrd.eq_of_compare hk
      have hnot (w : ν) : (entry.1, w) ∉ l := fun hw => hhead _ hw hk
      rcases entry with ⟨k, w⟩
      simp [hnot, eq_comm]
    · have hne (w : ν) : (k, w) ≠ entry := fun he => hk (by simp [← he])
      simp [hk, hne]

theorem mem_values : v ∈ values m ↔ ∃ k : κ, m[k]? = some v := by
  simp [values, ExtTreeMap.mem_toList_iff_getElem?_eq_some]

theorem KeyedBy.mem_values_iff (h : KeyedBy key m) : v ∈ values m ↔ m[key v]? = some v := by
  rw [mem_values]
  constructor
  · rintro ⟨k, hk⟩
    rwa [h k v hk]
  · exact fun hv => ⟨_, hv⟩

/-- The keys of the values are in increasing order. -/
theorem KeyedBy.sorted_values (h : KeyedBy key m) :
    ((values m).map key).Pairwise fun a b => compare a b = .lt := by
  have hpairs : m.toList.Pairwise fun a b => compare a.1 b.1 = .lt :=
    ExtTreeMap.ordered_keys_toList
  have hkeys : (values m).map key = m.toList.map Prod.fst := by
    simp only [values, List.map_map]
    refine List.map_congr_left fun entry he => ?_
    exact h entry.1 entry.2 (ExtTreeMap.mem_toList_iff_getElem?_eq_some.mp he)
  rw [hkeys]
  exact List.pairwise_map.mpr hpairs

omit [LawfulEqOrd κ] in
theorem nodupKeys_of_sorted {l : List ν}
    (hs : (l.map key).Pairwise fun a b => compare a b = .lt) :
    Keyed.NodupKeys key l := by
  refine hs.imp ?_
  intro a b hab he
  subst he
  simp at hab

theorem KeyedBy.nodup_values (h : KeyedBy key m) : Keyed.NodupKeys key (values m) :=
  nodupKeys_of_sorted h.sorted_values

variable [DecidableEq κ]

theorem KeyedBy.lookup_values (h : KeyedBy key m) (k : κ) :
    Keyed.lookup key (values m) k = m[k]? := by
  cases hm : m[k]? with
  | none =>
    rw [Keyed.lookup_eq_none_iff]
    intro v hv he
    rw [h.mem_values_iff, he, hm] at hv
    cases hv
  | some v =>
    rw [h.nodup_values.lookup_eq_some_iff, h.mem_values_iff]
    have hk := h k v hm
    rw [hk]
    exact ⟨hm, rfl⟩

/-- A map collected from elements with distinct keys finds what the list finds. -/
theorem getElem?_ofList_map {l : List ν} (h : Keyed.NodupKeys key l) (k : κ) :
    (ExtTreeMap.ofList (l.map fun v => (key v, v)))[k]? = Keyed.lookup key l k := by
  cases hl : Keyed.lookup key l k with
  | none =>
    rw [Keyed.lookup_eq_none_iff] at hl
    refine ExtTreeMap.getElem?_eq_none fun hm => ?_
    obtain ⟨v, hv, he⟩ := (mem_ofList_map key l).mp hm
    exact hl v hv he
  | some v =>
    have hk := Keyed.key_of_lookup hl
    refine ExtTreeMap.getElem?_ofList_of_mem (k := k) (by simp) ?_ ?_
    · rw [List.pairwise_map]
      refine (List.pairwise_map.mp h).imp ?_
      intro a b hab he
      exact hab (LawfulEqOrd.eq_of_compare he)
    · exact List.mem_map.mpr ⟨v, Keyed.mem_of_lookup hl, by rw [hk]⟩

section Sorted

variable {μ : Type*} {key' : μ → κ} {l : List ν} {m' : List μ}

omit [LawfulEqOrd κ] [DecidableEq κ] in
/-- In a list sorted by key, the last element with a property is this one exactly when no element
with a larger key has it. -/
theorem reverse_find?_eq_some_iff (hs : (l.map key).Pairwise fun a b => compare a b = .lt)
    (hv : v ∈ l) {p : ν → Bool} (hp : p v = true) :
    l.reverse.find? p = some v ↔ ∀ w ∈ l, compare (key v) (key w) = .lt → p w = false := by
  obtain ⟨below, above, rfl⟩ := List.append_of_mem hv
  rw [List.map_append, List.map_cons, List.pairwise_append, List.pairwise_cons] at hs
  obtain ⟨-, ⟨habove, -⟩, hbelow⟩ := hs
  have hlt : ∀ w ∈ above, compare (key v) (key w) = .lt :=
    fun w hw => habove _ (List.mem_map_of_mem hw)
  have hfind : (below ++ v :: above).reverse.find? p = (above.reverse.find? p).or (some v) := by
    simp [List.find?_append, hp]
  rw [hfind]
  constructor
  · intro he w hw hvw
    rcases List.mem_append.mp hw with hw | hw
    · have hwv := hbelow _ (List.mem_map_of_mem hw) _ List.mem_cons_self
      have hswap : compare (key v) (key w) = (compare (key w) (key v)).swap := OrientedCmp.eq_swap
      rw [hswap, hwv] at hvw
      cases hvw
    rcases List.mem_cons.mp hw with rfl | hw
    · simp at hvw
    by_contra hpw
    obtain ⟨x, hx⟩ := Option.isSome_iff_exists.mp
      (List.find?_isSome.mpr ⟨w, List.mem_reverse.mpr hw, by simpa using hpw⟩)
    rw [hx] at he
    cases he
    have hself := hlt v (List.mem_reverse.mp (List.mem_of_find?_eq_some hx))
    simp at hself
  · intro h
    have hnone : above.reverse.find? p = none := by
      rw [List.find?_eq_none]
      intro w hw
      simp [h w (by simp [List.mem_reverse.mp hw]) (hlt w (List.mem_reverse.mp hw))]
    rw [hnone, Option.none_or]

omit [TransOrd κ] in
theorem lookup_tail_eq_none {x : ν} {xs : List ν}
    (hs : ((x :: xs).map key).Pairwise fun a b => compare a b = .lt) :
    Keyed.lookup key xs (key x) = none := by
  refine Keyed.lookup_eq_none_iff.mpr fun w hw he => ?_
  have hlt := (List.pairwise_cons.mp hs).1 _ (List.mem_map_of_mem hw)
  rw [he] at hlt
  simp at hlt

/-- The least key of a sorted list is not above any key that is found in it. -/
theorem not_lt_head {x w : ν} {xs : List ν}
    (hs : ((x :: xs).map key).Pairwise fun a b => compare a b = .lt)
    (hw : Keyed.lookup key (x :: xs) k = some w) : compare k (key x) ≠ .lt := by
  have hk := Keyed.key_of_lookup hw
  intro hlt
  rcases List.mem_cons.mp (Keyed.mem_of_lookup hw) with rfl | hm
  · rw [hk] at hlt
    simp at hlt
  · have hgt := (List.pairwise_cons.mp hs).1 _ (List.mem_map_of_mem hm)
    have hswap : compare k (key x) = (compare (key x) k).swap := OrientedCmp.eq_swap
    rw [hswap, ← hk, hgt] at hlt
    cases hlt

/-- Sorted lists that agree key by key agree element by element. -/
theorem forall₂_of_lookup {R : ν → μ → Prop}
    (hs : (l.map key).Pairwise fun a b => compare a b = .lt)
    (hs' : (m'.map key').Pairwise fun a b => compare a b = .lt)
    (h : ∀ k, Option.Rel R (Keyed.lookup key l k) (Keyed.lookup key' m' k)) :
    List.Forall₂ R l m' := by
  induction l generalizing m' with
  | nil =>
    cases m' with
    | nil => exact .nil
    | cons y ys =>
      have hrel := h (key' y)
      rw [Keyed.lookup_nil, Keyed.lookup_cons, if_pos rfl] at hrel
      cases hrel
  | cons x xs ih =>
    have hx : Keyed.lookup key (x :: xs) (key x) = some x := by rw [Keyed.lookup_cons, if_pos rfl]
    cases m' with
    | nil =>
      have hrel := h (key x)
      rw [hx, Keyed.lookup_nil] at hrel
      cases hrel
    | cons y ys =>
      have hy : Keyed.lookup key' (y :: ys) (key' y) = some y := by
        rw [Keyed.lookup_cons, if_pos rfl]
      -- Both heads carry the least key of all.
      have hkey : key x = key' y := by
        have hxy := h (key x)
        have hyx := h (key' y)
        rw [hx] at hxy
        rw [hy] at hyx
        cases hw : Keyed.lookup key' (y :: ys) (key x) with
        | none =>
          rw [hw] at hxy
          cases hxy
        | some w =>
          cases hz : Keyed.lookup key (x :: xs) (key' y) with
          | none =>
            rw [hz] at hyx
            cases hyx
          | some z =>
            have h₁ := not_lt_head hs' hw
            have h₂ := not_lt_head hs hz
            cases hc : compare (key x) (key' y) with
            | lt => exact absurd hc h₁
            | eq => exact LawfulEqOrd.eq_of_compare hc
            | gt =>
              have hswap : compare (key' y) (key x) = (compare (key x) (key' y)).swap :=
                OrientedCmp.eq_swap
              rw [hc] at hswap
              exact absurd hswap h₂
      refine .cons ?_ (ih (List.pairwise_cons.mp hs).2 (List.pairwise_cons.mp hs').2 fun k => ?_)
      · have hrel := h (key x)
        rw [hx, hkey, hy] at hrel
        cases hrel with
        | some hr => exact hr
      · by_cases hk : key x = k
        · subst hk
          rw [lookup_tail_eq_none hs]
          rw [hkey, lookup_tail_eq_none hs']
          exact .none
        · have hrel := h k
          rwa [Keyed.lookup_cons, Keyed.lookup_cons, if_neg hk, if_neg (hkey ▸ hk)] at hrel

/-- A map collected from elements sorted by key has them as its values. -/
theorem values_ofList_map (hs : (l.map key).Pairwise fun a b => compare a b = .lt) :
    values (ExtTreeMap.ofList (l.map fun v => (key v, v))) = l := by
  have hkeyed := KeyedBy.ofList key l
  rw [← List.forall₂_eq_eq_eq]
  refine forall₂_of_lookup hkeyed.sorted_values hs fun k => ?_
  rw [hkeyed.lookup_values, getElem?_ofList_map (nodupKeys_of_sorted hs)]
  cases Keyed.lookup key l k with
  | none => exact .none
  | some v => exact .some rfl

end Sorted

section Counting

variable {κ ν : Type*} [Ord κ] [TransOrd κ] [LawfulEqOrd κ] [DecidableEq κ] {m : ExtTreeMap κ ν}
  {p : ν → Bool} {k : κ}

/-- The keys whose values satisfy a test. -/
def keysWhere (p : ν → Bool) (m : ExtTreeMap κ ν) : Finset κ :=
  ((m.toList.filter fun entry => p entry.2).map Prod.fst).toFinset

theorem mem_keysWhere : k ∈ keysWhere p m ↔ ∃ v, m[k]? = some v ∧ p v = true := by
  simp only [keysWhere, List.mem_toFinset, List.mem_map, List.mem_filter, Prod.exists,
    ExtTreeMap.mem_toList_iff_getElem?_eq_some]
  constructor
  · rintro ⟨k, v, ⟨hget, hp⟩, rfl⟩
    exact ⟨v, hget, hp⟩
  · rintro ⟨v, hget, hp⟩
    exact ⟨k, v, ⟨hget, hp⟩, rfl⟩

/-- Counting values that satisfy a test counts their keys. -/
theorem countP_values : (values m).countP p = (keysWhere p m).card := by
  have hsorted : m.toList.Pairwise fun a b => compare a.1 b.1 = .lt :=
    ExtTreeMap.ordered_keys_toList
  have hnodup : ((m.toList.filter fun entry => p entry.2).map Prod.fst).Nodup := by
    refine List.pairwise_map.mpr ((hsorted.sublist List.filter_sublist).imp ?_)
    intro a b hlt he
    rw [he, ReflOrd.compare_self] at hlt
    cases hlt
  rw [keysWhere, List.toFinset_card_of_nodup hnodup, List.length_map, values, List.countP_map,
    List.countP_eq_length_filter]
  rfl

end Counting

section Sweeping

variable {κ ν : Type*} [Ord κ] [TransOrd κ] [LawfulEqOrd κ] {m m' m'' : ExtTreeMap κ ν}
  {taken taken' : κ → ν → Prop}

/-- The second map holds the entries of the first that were not taken out. -/
def Swept (taken : κ → ν → Prop) (m m' : ExtTreeMap κ ν) : Prop :=
  ∀ (k : κ) v, m'[k]? = some v ↔ m[k]? = some v ∧ ¬ taken k v

omit [LawfulEqOrd κ] in
theorem Swept.untouched (h : ∀ k v, ¬ taken k v) : Swept taken m m := by
  intro k v
  simp [h k v]

theorem swept_filter (p : κ → ν → Bool) : Swept (fun k v => p k v = false) m (m.filter p) := by
  intro k v
  rw [ExtTreeMap.getElem?_filter', Option.filter_eq_some_iff]
  simp

theorem swept_erase (k : κ) : Swept (fun k' _ => k' = k) m (m.erase k) := by
  intro k' v
  rw [ExtTreeMap.getElem?_erase]
  by_cases h : k' = k
  · simp [h]
  · have hne : compare k k' ≠ .eq := fun he => h (LawfulEqOrd.eq_of_compare he).symm
    simp [h, hne]

omit [LawfulEqOrd κ] in
theorem Swept.trans (h : Swept taken m m') (h' : Swept taken' m' m'') :
    Swept (fun k v => taken k v ∨ taken' k v) m m'' := by
  intro k v
  rw [h' k v, h k v, not_or, and_assoc]

omit [LawfulEqOrd κ] in
theorem Swept.congr (h : Swept taken m m')
    (hiff : ∀ (k : κ) v, m[k]? = some v → (taken' k v ↔ taken k v)) : Swept taken' m m' := by
  intro k v
  rw [h k v]
  exact and_congr_right fun hv => by rw [hiff k v hv]

omit [LawfulEqOrd κ] in
/-- Where nothing is taken the entry is the same. -/
theorem Swept.getElem?_eq (h : Swept taken m m') {k : κ} (hk : ∀ v, ¬ taken k v) :
    m'[k]? = m[k]? := by
  apply Option.ext
  intro v
  rw [h k v]
  exact and_iff_left (hk v)

omit [LawfulEqOrd κ] in
/-- Where everything is taken there is no entry. -/
theorem Swept.getElem?_none (h : Swept taken m m') {k : κ} (hk : ∀ v, taken k v) :
    m'[k]? = none := by
  rw [Option.eq_none_iff_forall_not_mem]
  intro v hv
  exact ((h k v).mp hv).2 (hk v)

end Sweeping
end Sophia.Ordered

/-! Weighing the entries of an ordered map. -/
namespace Sophia.Ordered

open Std

variable {κ ν : Type*} [Ord κ] [TransOrd κ] [LawfulEqOrd κ] {m m' : ExtTreeMap κ ν}
  {weight : κ × ν → ℕ} {k : κ} {v : ν}

/-- The weights of all entries together. -/
def total (weight : κ × ν → ℕ) (m : ExtTreeMap κ ν) : ℕ := (m.toList.map weight).sum

omit [LawfulEqOrd κ] in
theorem nodup_toList : m.toList.Nodup := by
  refine List.Pairwise.imp ?_ (ExtTreeMap.distinct_keys_toList (t := m))
  rintro a b hne rfl
  exact hne ReflOrd.compare_self

theorem mem_toList {entry : κ × ν} : entry ∈ m.toList ↔ m[entry.1]? = some entry.2 :=
  ExtTreeMap.mem_toList_iff_getElem?_eq_some

theorem total_empty : total weight ∅ = 0 := by
  have hnil : (∅ : ExtTreeMap κ ν).toList = [] := by
    refine List.eq_nil_iff_forall_not_mem.mpr fun entry hentry => ?_
    have hget := mem_toList.mp hentry
    simp at hget
  rw [total, hnil]
  rfl

/-- Fewer entries weigh no more. -/
theorem total_le (h : ∀ (k : κ) v, m'[k]? = some v → m[k]? = some v) :
    total weight m' ≤ total weight m := by
  have hsub : m'.toList.Subperm m.toList :=
    nodup_toList.subperm fun entry hentry => mem_toList.mpr (h _ _ (mem_toList.mp hentry))
  obtain ⟨l, hperm, hsub⟩ := hsub
  unfold total
  rw [← (hperm.map weight).sum_eq]
  exact (hsub.map weight).sum_le_sum fun _ _ => Nat.zero_le _

theorem total_insert_new (weight : κ × ν → ℕ) (v : ν) (h : m[k]? = none) :
    total weight (m.insert k v) = total weight m + weight (k, v) := by
  have hfresh : (k, v) ∉ m.toList := by
    intro hmem
    have hget : m[k]? = some v := mem_toList.mp hmem
    rw [h] at hget
    cases hget
  have hperm : (m.insert k v).toList.Perm ((k, v) :: m.toList) := by
    refine (List.perm_ext_iff_of_nodup nodup_toList
      (List.nodup_cons.mpr ⟨hfresh, nodup_toList⟩)).mpr fun entry => ?_
    rw [mem_toList, List.mem_cons, mem_toList, ExtTreeMap.getElem?_insert]
    obtain ⟨k', v'⟩ := entry
    dsimp only
    split
    · rename_i he
      rw [← LawfulEqOrd.eq_of_compare he, h]
      simp [eq_comm]
    · rename_i hne
      have hne : k' ≠ k := by
        rintro rfl
        exact hne ReflOrd.compare_self
      simp [hne]
  unfold total
  rw [(hperm.map weight).sum_eq, List.map_cons, List.sum_cons, Nat.add_comm]

/-- A replaced entry's weight goes out of the total, and the new one's comes in. -/
theorem total_insert (weight : κ × ν → ℕ) (m : ExtTreeMap κ ν) (k : κ) (v : ν) :
    total weight (m.insert k v) + m[k]?.elim 0 (fun old => weight (k, old)) =
      total weight m + weight (k, v) := by
  cases h : m[k]? with
  | none => exact total_insert_new weight v h
  | some old =>
    have hgone : (m.erase k)[k]? = none := by simp
    have hback : (m.erase k).insert k old = m := by
      refine ExtTreeMap.ext_getElem? fun k' => ?_
      rw [ExtTreeMap.getElem?_insert, ExtTreeMap.getElem?_erase]
      split
      · rename_i he
        rw [← LawfulEqOrd.eq_of_compare he, h]
      · rfl
    have hagain : (m.erase k).insert k v = m.insert k v := by
      refine ExtTreeMap.ext_getElem? fun k' => ?_
      rw [ExtTreeMap.getElem?_insert, ExtTreeMap.getElem?_insert, ExtTreeMap.getElem?_erase]
      split <;> rfl
    have hold := total_insert_new weight old hgone
    have hnew := total_insert_new weight v hgone
    rw [hback] at hold
    rw [hagain] at hnew
    rw [hnew, hold, Option.elim_some]
    omega

end Sophia.Ordered
