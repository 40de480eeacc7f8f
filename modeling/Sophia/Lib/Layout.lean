import Mathlib.Algebra.GroupWithZero.Nat
import Mathlib.Algebra.Order.Group.Nat
import Sophia.Lib.Blit

/-! Filling a buffer field by field, each at an offset of its own. -/
namespace Sophia.Layout

/-- Some values and the offset they are written at. -/
structure Field (β : Type*) where
  offset : ℕ
  values : List β

variable {α β : Type*}

/-- Where the field ends. -/
def Field.stop (field : Field β) : ℕ := field.offset + field.values.length

/-- Write the field over what is there, if the buffer has room for it. -/
def Field.put (field : Field β) (out : List β) : Option (List β) :=
  if field.stop ≤ out.length then some (Blit.splice out field.offset field.values) else none

/-- Write the fields, the first one first. -/
def write (out : List β) (fields : List (Field β)) : Option (List β) :=
  fields.foldlM (fun out field => field.put out) out

/-- The fields of the items, each item behind the one before it. -/
def each (size : α → ℕ) (fields : ℕ → α → List (Field β)) : ℕ → List α → List (Field β)
  | _, [] => []
  | offset, item :: items => fields offset item ++ each size fields (offset + size item) items

/-- The field is between the two offsets. -/
def Field.Within (low high : ℕ) (field : Field β) : Prop :=
  low ≤ field.offset ∧ field.stop ≤ high

/-- The fields have no place in common. -/
def Field.Apart (field other : Field β) : Prop :=
  other.stop ≤ field.offset ∨ field.stop ≤ other.offset

variable {out next : List β} {field : Field β} {fields before after : List (Field β)}
  {low high offset n : ℕ}

theorem Field.put_of_le (h : field.stop ≤ out.length) :
    field.put out = some (Blit.splice out field.offset field.values) := if_pos h

theorem write_cons (h : field.stop ≤ out.length) :
    write out (field :: fields) = write (Blit.splice out field.offset field.values) fields := by
  rw [write, List.foldlM_cons, Field.put_of_le h]
  rfl

theorem write_append : write out (before ++ after) = (write out before).bind (write · after) := by
  rw [write, List.foldlM_append]
  rfl

/-- Fields that fit in the buffer are written, and every other place is left alone. -/
theorem exists_write (h : ∀ field ∈ fields, field.stop ≤ out.length) :
    ∃ next, write out fields = some next ∧ next.length = out.length ∧
      ∀ i, (∀ field ∈ fields, i < field.offset ∨ field.stop ≤ i) → next[i]? = out[i]? := by
  induction fields generalizing out with
  | nil => exact ⟨out, rfl, rfl, fun _ _ => rfl⟩
  | cons field fields ih =>
    obtain ⟨hfield, hfields⟩ := List.forall_mem_cons.mp h
    have hlength : (Blit.splice out field.offset field.values).length = out.length :=
      Blit.length_splice hfield
    rw [write_cons hfield]
    obtain ⟨next, hnext, hsize, hkept⟩ := ih fun other hm => hlength ▸ hfields other hm
    refine ⟨next, hnext, hsize.trans hlength, ?_⟩
    intro i hi
    obtain ⟨hmiss, hrest⟩ := List.forall_mem_cons.mp hi
    unfold Field.stop at hmiss
    rw [hkept i hrest, Blit.getElem?_splice hfield, if_neg (by omega)]

/-- A field stays as it was written when the later ones are apart from it. -/
theorem slice?_write (hnext : write out (before ++ field :: after) = some next)
    (h : ∀ other ∈ before ++ field :: after, other.stop ≤ out.length)
    (hvalues : 0 < field.values.length) (hapart : ∀ other ∈ after, field.Apart other) :
    Blit.slice? next field.offset field.stop = some field.values := by
  obtain ⟨hbefore, hrest⟩ := List.forall_mem_append.mp h
  obtain ⟨hfield, hafter⟩ := List.forall_mem_cons.mp hrest
  obtain ⟨middle, hmiddle, hsize, -⟩ := exists_write hbefore
  rw [write_append, hmiddle, Option.bind_some, write_cons (hsize ▸ hfield)] at hnext
  have hlength : (Blit.splice middle field.offset field.values).length = out.length :=
    (Blit.length_splice (hsize ▸ hfield)).trans hsize
  obtain ⟨last, hlast, -, hkept⟩ := exists_write fun other hm => hlength ▸ hafter other hm
  cases hlast.symm.trans hnext
  unfold Field.stop
  rw [← Blit.slice?_splice_self (hsize ▸ hfield) hvalues]
  refine Blit.slice?_congr hvalues fun j hj => hkept _ fun other hm => ?_
  have hother := hapart other hm
  unfold Field.Apart Field.stop at hother
  unfold Field.stop
  omega

/-- Items that write inside their own stretch write inside the stretch of them all. -/
theorem within_each {size : α → ℕ} {fields : ℕ → α → List (Field β)} {items : List α}
    (hitems : ∀ offset, ∀ item ∈ items, ∀ field ∈ fields offset item,
      field.Within offset (offset + size item)) :
    ∀ field ∈ each size fields offset items,
      field.Within offset (offset + (items.map size).sum) := by
  induction items generalizing offset with
  | nil =>
    intro field hm
    cases hm
  | cons item items ih =>
    intro field hm
    rw [List.map_cons, List.sum_cons]
    rcases List.mem_append.mp hm with hm | hm
    · obtain ⟨hlow, hhigh⟩ := hitems offset item List.mem_cons_self field hm
      exact ⟨hlow, by omega⟩
    · obtain ⟨hlow, hhigh⟩ := ih (fun offset other ho => hitems offset other
        (List.mem_cons_of_mem item ho)) field hm
      exact ⟨by omega, by omega⟩

end Sophia.Layout
