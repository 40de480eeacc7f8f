import Mathlib.Data.List.Induction
import Std.Data.ExtTreeMap

/-! Two ordered maps that are inverse to each other, and a counter above all keys in use. -/
namespace Sophia.Interning

open Std

variable {α β : Type*} [Ord α] [TransOrd α]

/-- The second map still holds every entry of the first. -/
def Keeps (f f' : ExtTreeMap α β) : Prop :=
  ∀ (a : α) (b : β), f[a]? = some b → f'[a]? = some b

variable {f f' f'' : ExtTreeMap α β} {a a' : α} {b b' : β}

theorem Keeps.refl (f : ExtTreeMap α β) : Keeps f f := fun _ _ h => h

theorem Keeps.trans (h : Keeps f f') (h' : Keeps f' f'') : Keeps f f'' :=
  fun a b ha => h' a b (h a b ha)

theorem keeps_insert [LawfulEqOrd α] (ha : f[a]? = none) : Keeps f (f.insert a b) := by
  intro a' b' ha'
  rw [ExtTreeMap.getElem?_insert, if_neg]
  · exact ha'
  · intro he
    rw [← LawfulEqOrd.eq_of_compare he, ha] at ha'
    cases ha'

variable [Ord β] [TransOrd β] {g : ExtTreeMap β α}

/-- Each entry of one map is an entry of the other, read backwards. -/
def Inverse (f : ExtTreeMap α β) (g : ExtTreeMap β α) : Prop :=
  ∀ (a : α) (b : β), f[a]? = some b ↔ g[b]? = some a

theorem inverse_empty : Inverse (∅ : ExtTreeMap α β) (∅ : ExtTreeMap β α) := by
  intro a b
  simp

/-- The pairs of a list, entered one by one in both maps. -/
def insertPairs (maps : ExtTreeMap α β × ExtTreeMap β α) (pairs : List (α × β)) :
    ExtTreeMap α β × ExtTreeMap β α :=
  pairs.foldl (fun maps pair => (maps.1.insert pair.1 pair.2, maps.2.insert pair.2 pair.1)) maps

theorem insertPairs_snoc (maps : ExtTreeMap α β × ExtTreeMap β α) (pairs : List (α × β))
    (pair : α × β) :
    insertPairs maps (pairs ++ [pair]) =
      ((insertPairs maps pairs).1.insert pair.1 pair.2,
        (insertPairs maps pairs).2.insert pair.2 pair.1) := by
  rw [insertPairs, List.foldl_append]
  rfl

variable [LawfulEqOrd α] [LawfulEqOrd β]

theorem Inverse.insert (h : Inverse f g) (ha : f[a]? = none) (hb : g[b]? = none) :
    Inverse (f.insert a b) (g.insert b a) := by
  intro a' b'
  rw [ExtTreeMap.getElem?_insert, ExtTreeMap.getElem?_insert]
  by_cases hkey : a = a' <;> by_cases hvalue : b = b'
  · simp [hkey, hvalue]
  · subst hkey
    have hother : g[b']? ≠ some a := by
      intro hg
      rw [(h a b').mpr hg] at ha
      cases ha
    simp [hvalue, hother]
  · subst hvalue
    have hother : f[a']? ≠ some b := by
      intro hf
      rw [(h a' b).mp hf] at hb
      cases hb
    simp [hkey, hother]
  · simp [hkey, hvalue, h a' b']

/-- Pairs that share neither keys nor values make maps that are inverse to each other. -/
theorem inverse_insertPairs {pairs : List (α × β)} (hkeys : (pairs.map Prod.fst).Nodup)
    (hvalues : (pairs.map Prod.snd).Nodup) :
    let maps := insertPairs (∅, ∅) pairs
    Inverse maps.1 maps.2 ∧ ∀ (a : α) (b : β), maps.1[a]? = some b ↔ (a, b) ∈ pairs := by
  induction pairs using List.reverseRecOn with
  | nil => exact ⟨inverse_empty, by simp [insertPairs]⟩
  | append_singleton pairs pair ih =>
    rw [List.map_append, List.nodup_append] at hkeys hvalues
    obtain ⟨hinverse, hpairs⟩ := ih hkeys.1 hvalues.1
    have hkey : (insertPairs (∅, ∅) pairs).1[pair.1]? = none := by
      by_contra hsome
      obtain ⟨b, hb⟩ := Option.ne_none_iff_exists'.mp hsome
      have hmem := List.mem_map_of_mem (f := Prod.fst) ((hpairs _ _).mp hb)
      exact hkeys.2.2 _ hmem _ (by simp) rfl
    have hvalue : (insertPairs (∅, ∅) pairs).2[pair.2]? = none := by
      by_contra hsome
      obtain ⟨a, ha⟩ := Option.ne_none_iff_exists'.mp hsome
      have hmem := List.mem_map_of_mem (f := Prod.snd) ((hpairs _ _).mp ((hinverse _ _).mpr ha))
      exact hvalues.2.2 _ hmem _ (by simp) rfl
    simp only [insertPairs_snoc]
    refine ⟨hinverse.insert hkey hvalue, fun a b => ?_⟩
    rw [ExtTreeMap.getElem?_insert, List.mem_append, List.mem_singleton]
    by_cases he : pair.1 = a
    · subst he
      have hold : (pair.1, b) ∉ pairs := by
        intro hmem
        rw [(hpairs _ _).mpr hmem] at hkey
        cases hkey
      simp [hold, Prod.ext_iff, eq_comm]
    · have hnew : (a, b) ≠ pair := fun h => he (congrArg Prod.fst h).symm
      simp [he, hnew, hpairs a b]

end Sophia.Interning
