import Mathlib.Data.List.Nodup
import Mathlib.Logic.Function.Basic
import Sophia.Lib.Fallible
import Sophia.Lib.History
import Sophia.Protocol

/-! The surface table: slots that are used again under another generation. -/
namespace Sophia.Protocol

variable {τ : Type*}

inductive TableError where
  | staleId
  | invalidId
  deriving DecidableEq, Repr

structure Slot (τ : Type*) where
  generation : UInt32
  value : Option τ

/-- The slot that was freed last is the first of the free ones. -/
structure SurfaceTable (τ : Type*) where
  slots : List (Slot τ)
  free : List UInt32

namespace SurfaceTable

def new : SurfaceTable τ := ⟨[], []⟩

/-- There is no result where the source panics: on a free slot that does not exist, and when the
slots are used up. -/
def insert (table : SurfaceTable τ) (value : τ) : Option (SurfaceId × SurfaceTable τ) :=
  match table.free with
  | index :: free => match table.slots[index.toNat]? with
    | none => none
    | some slot =>
      let generation := max (slot.generation + 1) 1
      some (⟨index, generation⟩, ⟨table.slots.set index.toNat ⟨generation, some value⟩, free⟩)
  | [] =>
    if table.slots.length < UInt32.size then
      some (⟨.ofNat table.slots.length, 1⟩,
        { table with slots := table.slots ++ [⟨1, some value⟩] })
    else none

def slot (table : SurfaceTable τ) (id : SurfaceId) : Except TableError (Slot τ) :=
  if !id.isValid then .error .invalidId
  else match table.slots[id.index.toNat]? with
    | none => .error .invalidId
    | some slot => if slot.generation ≠ id.generation then .error .staleId else .ok slot

def get (table : SurfaceTable τ) (id : SurfaceId) : Option τ :=
  match table.slot id with
  | .error _ => none
  | .ok slot => slot.value

/-- The table after a change of the value that `get_mut` lends out. -/
def getMut (table : SurfaceTable τ) (id : SurfaceId) (change : τ → τ) : Option (SurfaceTable τ) :=
  match table.slot id with
  | .error _ => none
  | .ok slot => slot.value.map fun value =>
    { table with slots := table.slots.set id.index.toNat { slot with value := some (change value) } }

def remove (table : SurfaceTable τ) (id : SurfaceId) : Except TableError (τ × SurfaceTable τ) :=
  match table.slot id with
  | .error error => .error error
  | .ok slot => match slot.value with
    | none => .error .staleId
    | some value =>
      .ok (value, ⟨table.slots.set id.index.toNat { slot with value := none },
        id.index :: table.free⟩)

end SurfaceTable

inductive TableCall (τ : Type*) where
  | insert (value : τ)
  | remove (id : SurfaceId)
  | getMut (id : SurfaceId) (change : τ → τ)

/-- A table, with what its users know of it: the ids they were given, those they gave back, and what
they stored last under each. -/
structure TableRun (τ : Type*) where
  table : SurfaceTable τ
  issued : List SurfaceId
  removed : List SurfaceId
  stored : SurfaceId → Option τ

namespace TableRun

def new : TableRun τ := ⟨.new, [], [], fun _ => none⟩

def call (run : TableRun τ) : TableCall τ → Option (TableRun τ)
  | .insert value => (run.table.insert value).map fun (id, table) =>
    { run with table, issued := id :: run.issued, stored := Function.update run.stored id value }
  | .remove id => some <| match run.table.remove id with
    | .error _ => run
    | .ok (_, table) =>
      { run with table, removed := id :: run.removed, stored := Function.update run.stored id none }
  | .getMut id change => some <| match run.table.getMut id change with
    | none => run
    | some table =>
      { run with table, stored := Function.update run.stored id ((run.stored id).map change) }

/-- A run stops when the table panics. -/
def step (run : Option (TableRun τ)) (call : TableCall τ) : Option (TableRun τ) :=
  run.bind fun run => run.call call

/-- How often a slot was given out. -/
def uses (run : TableRun τ) (index : UInt32) : ℕ := run.issued.countP fun id => id.index = index

/-- No slot is used again that was used again `2 ^ 32 - 2` times before. -/
def Unspent : Option (TableRun τ) → TableCall τ → Prop
  | some run, .insert _ => ∀ index ∈ run.table.free.head?, run.uses index < UInt32.size - 1
  | _, _ => True

/-- A new slot is not the one whose index is kept for the invalid id. -/
def Roomy : Option (TableRun τ) → TableCall τ → Prop
  | some run, .insert _ => run.table.free = [] → run.table.slots.length < UInt32.size - 1
  | _, _ => True

instance : ∀ (run : Option (TableRun τ)) (call : TableCall τ), Decidable (Unspent run call)
  | none, _ => isTrue trivial
  | some run, .insert _ => Option.decidableForallMem run.table.free.head?
  | some _, .remove _ => isTrue trivial
  | some _, .getMut _ _ => isTrue trivial

instance : ∀ (run : Option (TableRun τ)) (call : TableCall τ), Decidable (Roomy run call)
  | none, _ => isTrue trivial
  | some run, .insert _ =>
    decidable_of_iff (run.table.free.isEmpty → run.table.slots.length < UInt32.size - 1)
      (by rw [List.isEmpty_iff]; rfl)
  | some _, .remove _ => isTrue trivial
  | some _, .getMut _ _ => isTrue trivial

/-- What the users of a table rely on. -/
structure Sound (run : TableRun τ) : Prop where
  resolves : ∀ id, run.table.get id = run.stored id
  gone : ∀ id ∈ run.removed, run.table.get id = none
  distinct : run.issued.Nodup
  once : run.table.free.Nodup
  empty : ∀ index, index ∈ run.table.free ↔
    ∃ slot, run.table.slots[index.toNat]? = some slot ∧ slot.value = none

end TableRun

namespace SurfaceTable

variable {table table' : SurfaceTable τ} {id other : SurfaceId} {value : τ} {found : Slot τ}

/-- The value in a slot that is in the id's generation. -/
def valueAt (table : SurfaceTable τ) (id : SurfaceId) : Option τ :=
  match table.slots[id.index.toNat]? with
  | none => none
  | some slot => if slot.generation = id.generation then slot.value else none

theorem slot_eq_ok :
    table.slot id = .ok found ↔ id.isValid = true ∧ table.slots[id.index.toNat]? = some found ∧
      found.generation = id.generation := by
  unfold slot
  cases hvalid : id.isValid with
  | false => simp
  | true =>
    cases hget : table.slots[id.index.toNat]? with
    | none => simp
    | some slot =>
      by_cases hgeneration : slot.generation = id.generation
      · simp only [Bool.not_true, Bool.false_eq_true, if_false, hgeneration, ne_eq,
          not_true_eq_false, Except.ok.injEq, true_and, Option.some.injEq]
        constructor
        · rintro rfl
          exact ⟨rfl, hgeneration⟩
        · rintro ⟨rfl, -⟩
          rfl
      · simp only [Bool.not_true, Bool.false_eq_true, if_false, ne_eq, hgeneration,
          not_false_eq_true, if_true, reduceCtorEq, true_and, Option.some.injEq, false_iff, not_and]
        rintro rfl
        exact hgeneration

theorem insert_eq_some {result : SurfaceId × SurfaceTable τ} (h : table.insert value = some result) :
    (∃ index free found, table.free = index :: free ∧ table.slots[index.toNat]? = some found ∧
      result = (⟨index, max (found.generation + 1) 1⟩,
        ⟨table.slots.set index.toNat ⟨max (found.generation + 1) 1, some value⟩, free⟩)) ∨
    table.free = [] ∧ table.slots.length < UInt32.size ∧
      result = (⟨.ofNat table.slots.length, 1⟩,
        { table with slots := table.slots ++ [⟨1, some value⟩] }) := by
  unfold insert at h
  split at h
  · rename_i index free hfree
    split at h
    · cases h
    · rename_i found hfound
      cases h
      exact .inl ⟨index, free, found, hfree, hfound, rfl⟩
  · rename_i hfree
    split at h
    · rename_i hroom
      cases h
      exact .inr ⟨hfree, hroom, rfl⟩
    · cases h

theorem remove_eq_ok (h : table.remove id = .ok (value, table')) :
    ∃ found, table.slot id = .ok found ∧ found.value = some value ∧
      table' = ⟨table.slots.set id.index.toNat { found with value := none },
        id.index :: table.free⟩ := by
  unfold remove at h
  split at h
  · cases h
  · rename_i found hslot
    split at h
    · cases h
    · rename_i held hvalue
      cases h
      exact ⟨found, hslot, hvalue, rfl⟩

theorem getMut_eq_some {change : τ → τ} (h : table.getMut id change = some table') :
    ∃ found held, table.slot id = .ok found ∧ found.value = some held ∧
      table' = ⟨table.slots.set id.index.toNat { found with value := some (change held) },
        table.free⟩ := by
  unfold getMut at h
  split at h
  · cases h
  · rename_i found hslot
    obtain ⟨held, hvalue, rfl⟩ := Option.map_eq_some_iff.mp h
    exact ⟨found, held, hslot, hvalue, rfl⟩

/-- What is stored under a valid id is found. -/
theorem get_eq (hvalid : id.isValid = true) : table.get id = table.valueAt id := by
  unfold get slot valueAt
  cases table.slots[id.index.toNat]? with
  | none => simp [hvalid]
  | some slot =>
    by_cases hgeneration : slot.generation = id.generation
    · simp [hvalid, hgeneration]
    · simp [hvalid, hgeneration]

theorem get_invalid (hvalid : id.isValid = false) : table.get id = none := by
  simp [get, slot, hvalid]

/-- One slot's change is seen under the ids of its index alone. -/
theorem valueAt_set {index : UInt32} {slots : List (Slot τ)} {free : List UInt32}
    (free' : List UInt32) (hslot : index.toNat < slots.length) :
    (SurfaceTable.mk (slots.set index.toNat found) free).valueAt id =
      if id.index = index then if found.generation = id.generation then found.value else none
      else (SurfaceTable.mk slots free').valueAt id := by
  unfold valueAt
  by_cases hindex : id.index = index
  · rw [if_pos hindex, hindex, List.getElem?_set_self hslot]
  · have hne : index.toNat ≠ id.index.toNat :=
      fun he => hindex (UInt32.toNat_inj.mp he).symm
    rw [if_neg hindex, List.getElem?_set_ne hne]

end SurfaceTable

namespace TableRun

open SurfaceTable

variable {run next : TableRun τ} {id : SurfaceId} {index : UInt32} {value : τ} {found : Slot τ}
  {table : SurfaceTable τ} {free : List UInt32}

/-- A slot is in the generation of its last id, and the slot of the invalid index, if there is one,
is never given back. -/
structure Kept (run : TableRun τ) : Prop where
  stored : ∀ id, run.stored id = run.table.valueAt id
  held : ∀ id value, run.stored id = some value → id ∈ run.issued
  removed : ∀ id ∈ run.removed, id ∈ run.issued ∧ run.stored id = none
  distinct : run.issued.Nodup
  within : ∀ id ∈ run.issued, ∃ slot, run.table.slots[id.index.toNat]? = some slot ∧
    id.generation.toNat ≤ slot.generation.toNat
  counted : ∀ index slot, run.table.slots[index.toNat]? = some slot →
    run.uses index = slot.generation.toNat
  positive : ∀ slot ∈ run.table.slots, slot.generation ≠ 0
  once : run.table.free.Nodup
  empty : ∀ index, index ∈ run.table.free ↔
    ∃ slot, run.table.slots[index.toNat]? = some slot ∧ slot.value = none
  fits : run.table.slots.length ≤ UInt32.size
  last : ∀ slot, run.table.slots[UInt32.size - 1]? = some slot →
    slot.generation = 1 ∧ slot.value.isSome

theorem kept_new : (new : TableRun τ).Kept where
  stored _ := rfl
  held _ _ h := nomatch h
  removed _ h := nomatch h
  distinct := .nil
  within _ h := nomatch h
  counted _ _ h := nomatch h
  positive _ h := nomatch h
  once := .nil
  empty _ := by simp [new, SurfaceTable.new]
  fits := by simp [new, SurfaceTable.new]
  last _ h := nomatch h

theorem isValid_of_lt (hindex : id.index.toNat < UInt32.size - 1)
    (hgeneration : id.generation ≠ 0) : id.isValid = true := by
  have hne : id.index ≠ UInt32.ofNat (UInt32.size - 1) := by
    rintro he
    rw [he] at hindex
    revert hindex
    decide
  rw [SurfaceId.isValid, Bool.and_eq_true, bne_iff_ne, bne_iff_ne]
  exact ⟨hne, hgeneration⟩

theorem valid_index (hvalid : id.isValid = true) : id.index.toNat ≠ UInt32.size - 1 := by
  intro he
  have hindex : id.index = UInt32.ofNat (UInt32.size - 1) := by
    apply UInt32.toNat_inj.mp
    rw [he]
    rfl
  simp [SurfaceId.isValid, hindex] at hvalid

/-- An index below the length names a slot. -/
theorem lt_of_getElem? {i : ℕ} (h : run.table.slots[i]? = some found) :
    i < run.table.slots.length := (List.getElem?_eq_some_iff.mp h).1

/-- A change of a slot's value keeps it in its generation. -/
theorem Kept.set_slots (h : run.Kept) (kept : Slot τ)
    (hfound : run.table.slots[index.toNat]? = some found)
    (hgeneration : kept.generation = found.generation) :
    (∀ id ∈ run.issued, ∃ slot,
      (run.table.slots.set index.toNat kept)[id.index.toNat]? = some slot ∧
        id.generation.toNat ≤ slot.generation.toNat) ∧
      (∀ other slot, (run.table.slots.set index.toNat kept)[other.toNat]? = some slot →
        run.uses other = slot.generation.toNat) ∧
      ∀ slot ∈ run.table.slots.set index.toNat kept, slot.generation ≠ 0 := by
  have hlt := lt_of_getElem? hfound
  have hslot : ∀ (other : UInt32) slot,
      (run.table.slots.set index.toNat kept)[other.toNat]? = some slot →
        ∃ old, run.table.slots[other.toNat]? = some old ∧ slot.generation = old.generation := by
    intro other slot hget
    by_cases hother : index = other
    · subst hother
      rw [List.getElem?_set_self hlt] at hget
      cases hget
      exact ⟨found, hfound, hgeneration⟩
    · rw [List.getElem?_set_ne fun he => hother (UInt32.toNat_inj.mp he)] at hget
      exact ⟨slot, hget, rfl⟩
  refine ⟨?_, ?_, ?_⟩
  · intro id hid
    obtain ⟨old, hold, hle⟩ := h.within id hid
    by_cases hother : index = id.index
    · subst hother
      rw [hfound] at hold
      cases hold
      exact ⟨kept, List.getElem?_set_self hlt, by rw [hgeneration]; exact hle⟩
    · rw [List.getElem?_set_ne fun he => hother (UInt32.toNat_inj.mp he)]
      exact ⟨old, hold, hle⟩
  · intro other slot hget
    obtain ⟨old, hold, he⟩ := hslot other slot hget
    rw [h.counted other old hold, he]
  · intro slot hmem
    rcases List.mem_or_eq_of_mem_set hmem with hmem | rfl
    · exact h.positive slot hmem
    · rw [hgeneration]
      exact h.positive found (List.mem_of_getElem? hfound)

/-- Taking the value out of a slot, or changing it, leaves everything else as it was. -/
theorem Kept.stored_set (h : run.Kept) (kept : Slot τ)
    (hfound : run.table.slots[id.index.toNat]? = some found)
    (hat : found.generation = id.generation) (hgeneration : kept.generation = found.generation)
    (other : SurfaceId) :
    Function.update run.stored id kept.value other =
      (SurfaceTable.mk (run.table.slots.set id.index.toNat kept) free).valueAt other := by
  rw [valueAt_set run.table.free (lt_of_getElem? hfound)]
  by_cases hother : other = id
  · subst hother
    rw [Function.update_self, if_pos rfl, if_pos (hgeneration.trans hat)]
  · rw [Function.update_of_ne hother]
    by_cases hindex : other.index = id.index
    · -- Another id of the same slot is not in its generation.
      have hne : found.generation ≠ other.generation := by
        intro he
        apply hother
        cases other
        cases id
        simp_all
      rw [if_pos hindex, if_neg (by rw [hgeneration]; exact hne), h.stored, valueAt, hindex, hfound]
      exact if_neg hne
    · rw [if_neg hindex]
      exact h.stored other

/-- Another value, or none, in the slot of a stored id. The slot is free and the id given back when
there is none. -/
theorem Kept.restore {removed : List SurfaceId} (h : run.Kept) (hvalid : id.isValid = true)
    (hfound : run.table.slots[id.index.toNat]? = some found)
    (hat : found.generation = id.generation) (hstored : (run.stored id).isSome)
    (kept : Slot τ) (hgeneration : kept.generation = found.generation)
    (hremoved : ∀ other ∈ removed, other ∈ run.removed ∨ other = id ∧ kept.value = none)
    (honce : free.Nodup)
    (hfree : ∀ index, index ∈ free ↔
      if id.index = index then kept.value = none else index ∈ run.table.free) :
    Kept { run with table := ⟨run.table.slots.set id.index.toNat kept, free⟩, removed,
                    stored := Function.update run.stored id kept.value } := by
  have hlt := lt_of_getElem? hfound
  obtain ⟨held, hheld⟩ := Option.isSome_iff_exists.mp hstored
  obtain ⟨hwithin, hcounted, hpositive⟩ := h.set_slots kept hfound hgeneration
  constructor <;> dsimp only
  · exact h.stored_set kept hfound hat hgeneration
  · intro other value hget
    by_cases hother : other = id
    · subst hother
      exact h.held _ _ hheld
    · rw [Function.update_of_ne hother] at hget
      exact h.held other value hget
  · intro other hmem
    rcases hremoved other hmem with hmem | ⟨rfl, hnone⟩
    · obtain ⟨hissued, hnone⟩ := h.removed other hmem
      refine ⟨hissued, ?_⟩
      have hother : other ≠ id := by
        rintro rfl
        rw [hheld] at hnone
        cases hnone
      rw [Function.update_of_ne hother]
      exact hnone
    · exact ⟨h.held _ _ hheld, by rw [Function.update_self, hnone]⟩
  · exact h.distinct
  · exact hwithin
  · exact hcounted
  · exact hpositive
  · exact honce
  · intro index
    rw [hfree index]
    by_cases hindex : id.index = index
    · subst hindex
      simp [List.getElem?_set_self hlt]
    · rw [if_neg hindex, List.getElem?_set_ne fun he => hindex (UInt32.toNat_inj.mp he)]
      exact h.empty index
  · rw [List.length_set]
    exact h.fits
  · intro slot hget
    rw [List.getElem?_set_ne (valid_index hvalid)] at hget
    exact h.last slot hget

/-- An id that is found has its value stored, and its slot is not free. -/
theorem Kept.of_slot {held : τ} (h : run.Kept) (hslot : run.table.slot id = .ok found)
    (hvalue : found.value = some held) :
    run.stored id = some held ∧ id.index ∉ run.table.free := by
  obtain ⟨-, hfound, hat⟩ := slot_eq_ok.mp hslot
  constructor
  · rw [h.stored, valueAt, hfound]
    exact (if_pos hat).trans hvalue
  · intro hmem
    obtain ⟨slot, hget, hnone⟩ := (h.empty id.index).mp hmem
    rw [hfound] at hget
    cases hget
    rw [hvalue] at hnone
    cases hnone

theorem Kept.remove (h : run.Kept) (hremove : run.table.remove id = .ok (value, table)) :
    Kept { run with table, removed := id :: run.removed,
                    stored := Function.update run.stored id none } := by
  obtain ⟨found, hslot, hvalue, rfl⟩ := remove_eq_ok hremove
  obtain ⟨hvalid, hfound, hat⟩ := slot_eq_ok.mp hslot
  obtain ⟨hstored, hfree⟩ := h.of_slot hslot hvalue
  refine h.restore hvalid hfound hat (Option.isSome_of_mem hstored)
    { found with value := none } rfl ?_ (List.nodup_cons.mpr ⟨hfree, h.once⟩) ?_
  · intro other hmem
    rcases List.mem_cons.mp hmem with rfl | hmem
    · exact .inr ⟨rfl, rfl⟩
    · exact .inl hmem
  · intro index
    by_cases hindex : id.index = index
    · simp [hindex]
    · simp [hindex, Ne.symm hindex]

theorem Kept.getMut {change : τ → τ} (h : run.Kept)
    (hchange : run.table.getMut id change = some table) :
    Kept { run with table,
                    stored := Function.update run.stored id ((run.stored id).map change) } := by
  obtain ⟨found, held, hslot, hvalue, rfl⟩ := getMut_eq_some hchange
  obtain ⟨hvalid, hfound, hat⟩ := slot_eq_ok.mp hslot
  obtain ⟨hstored, hfree⟩ := h.of_slot hslot hvalue
  have hkept := h.restore hvalid hfound hat (Option.isSome_of_mem hstored)
    { found with value := some (change held) } rfl (fun _ => .inl) h.once fun index => by
      by_cases hindex : id.index = index
      · simpa [← hindex] using hfree
      · rw [if_neg hindex]
  rwa [hstored, Option.map_some]

/-- An id in a new generation of its slot was given to nobody before. -/
theorem Kept.fresh {generation : UInt32} (h : run.Kept)
    (hlater : ∀ slot, run.table.slots[index.toNat]? = some slot →
      slot.generation.toNat < generation.toNat) :
    (⟨index, generation⟩ : SurfaceId) ∉ run.issued := by
  intro hmem
  obtain ⟨slot, hget, hle⟩ := h.within _ hmem
  have hlt := hlater slot hget
  have hle : generation.toNat ≤ slot.generation.toNat := hle
  omega

theorem uses_cons {removed : List SurfaceId} {stored : SurfaceId → Option τ} (index : UInt32) :
    (TableRun.mk table (id :: run.issued) removed stored).uses index =
      run.uses index + if id.index = index then 1 else 0 := by
  simp [uses, List.countP_cons]

/-- What giving a new id a value does to the part of the invariant that does not look at slots. -/
theorem Kept.issue (h : run.Kept) (value : τ) (hfresh : id ∉ run.issued) :
    (∀ other held, Function.update run.stored id (some value) other = some held →
        other ∈ id :: run.issued) ∧
      (∀ other ∈ run.removed, other ∈ id :: run.issued ∧
        Function.update run.stored id (some value) other = none) ∧
      (id :: run.issued).Nodup := by
  refine ⟨?_, ?_, List.nodup_cons.mpr ⟨hfresh, h.distinct⟩⟩
  · intro other held hget
    by_cases hother : other = id
    · subst hother
      exact List.mem_cons_self
    · rw [Function.update_of_ne hother] at hget
      exact List.mem_cons_of_mem _ (h.held other held hget)
  · intro other hmem
    obtain ⟨hissued, hnone⟩ := h.removed other hmem
    refine ⟨List.mem_cons_of_mem _ hissued, ?_⟩
    have hother : other ≠ id := by
      rintro rfl
      exact hfresh hissued
    rw [Function.update_of_ne hother]
    exact hnone

/-- A slot that is used again goes on to the generation after its last one. -/
theorem Kept.reuse (h : run.Kept) (hfree : run.table.free = index :: free)
    (hunspent : run.uses index < UInt32.size - 1)
    (hfound : run.table.slots[index.toNat]? = some found) :
    Kept { run with
      table := ⟨run.table.slots.set index.toNat ⟨max (found.generation + 1) 1, some value⟩, free⟩
      issued := ⟨index, max (found.generation + 1) 1⟩ :: run.issued
      stored := Function.update run.stored ⟨index, max (found.generation + 1) 1⟩ (some value) } := by
  have hlt := lt_of_getElem? hfound
  have hgeneration : (max (found.generation + 1) 1).toNat = found.generation.toNat + 1 := by
    rw [h.counted index found hfound] at hunspent
    have hnext : (found.generation + 1).toNat = found.generation.toNat + 1 := by
      rw [UInt32.toNat_add]
      exact Nat.mod_eq_of_lt (by simp only [UInt32.size] at hunspent; simp; omega)
    show (if found.generation + 1 ≤ 1 then 1 else found.generation + 1).toNat = _
    split
    · rename_i hle
      rw [UInt32.le_iff_toNat_le, hnext] at hle
      have hone : (1 : UInt32).toNat = 1 := rfl
      omega
    · exact hnext
  generalize max (found.generation + 1) 1 = generation at hgeneration ⊢
  have hnone : found.value = none := by
    obtain ⟨slot, hget, hnone⟩ := (h.empty index).mp (by simp [hfree])
    rw [hfound] at hget
    cases hget
    exact hnone
  have hfresh : (⟨index, generation⟩ : SurfaceId) ∉ run.issued := by
    apply h.fresh
    intro slot hget
    rw [hfound] at hget
    cases hget
    omega
  obtain ⟨hheld, hremoved, hdistinct⟩ := h.issue value hfresh
  have honce := h.once
  rw [hfree, List.nodup_cons] at honce
  constructor <;> dsimp only
  · intro other
    rw [valueAt_set run.table.free hlt]
    by_cases hother : other = ⟨index, generation⟩
    · subst hother
      simp
    · rw [Function.update_of_ne hother]
      by_cases hindex : other.index = index
      · have hne : generation ≠ other.generation := by
          rintro rfl
          apply hother
          cases other
          simp_all
        rw [if_pos hindex, if_neg hne, h.stored, valueAt, hindex, hfound]
        -- Nothing was found in the slot before.
        dsimp only
        rw [hnone, ite_self]
      · rw [if_neg hindex]
        exact h.stored other
  · exact hheld
  · exact hremoved
  · exact hdistinct
  · intro other hmem
    by_cases hindex : index = other.index
    · subst hindex
      refine ⟨⟨generation, some value⟩, List.getElem?_set_self hlt, ?_⟩
      rcases List.mem_cons.mp hmem with he | hmem
      · exact (congrArg (·.generation.toNat) he).le
      · obtain ⟨slot, hget, hle⟩ := h.within other hmem
        rw [hfound] at hget
        cases hget
        show other.generation.toNat ≤ generation.toNat
        omega
    · have hmem : other ∈ run.issued := by
        rcases List.mem_cons.mp hmem with rfl | hmem
        · exact absurd rfl hindex
        · exact hmem
      rw [List.getElem?_set_ne fun he => hindex (UInt32.toNat_inj.mp he)]
      exact h.within other hmem
  · intro other slot hget
    rw [uses_cons]
    by_cases hindex : index = other
    · subst hindex
      rw [List.getElem?_set_self hlt] at hget
      cases hget
      rw [if_pos rfl, h.counted index found hfound]
      exact hgeneration.symm
    · rw [List.getElem?_set_ne fun he => hindex (UInt32.toNat_inj.mp he)] at hget
      rw [if_neg hindex]
      exact h.counted other slot hget
  · intro slot hmem
    rcases List.mem_or_eq_of_mem_set hmem with hmem | rfl
    · exact h.positive slot hmem
    · rintro (rfl : generation = 0)
      cases hgeneration
  · exact honce.2
  · intro other
    by_cases hindex : index = other
    · subst hindex
      simp [List.getElem?_set_self hlt, honce.1]
    · rw [List.getElem?_set_ne fun he => hindex (UInt32.toNat_inj.mp he), ← h.empty other, hfree]
      simp [Ne.symm hindex]
  · rw [List.length_set]
    exact h.fits
  · intro slot hget
    have hne : index.toNat ≠ UInt32.size - 1 := by
      intro he
      have hlast := (h.last found (by rw [← he]; exact hfound)).2
      rw [hnone] at hlast
      cases hlast
    rw [List.getElem?_set_ne hne] at hget
    exact h.last slot hget

/-- A slot of its own starts in the first generation. -/
theorem Kept.extend (h : run.Kept) (hroom : run.table.slots.length < UInt32.size) :
    Kept { run with
      table := { run.table with slots := run.table.slots ++ [⟨1, some value⟩] }
      issued := ⟨.ofNat run.table.slots.length, 1⟩ :: run.issued
      stored := Function.update run.stored ⟨.ofNat run.table.slots.length, 1⟩ (some value) } := by
  have hindex : (UInt32.ofNat run.table.slots.length).toNat = run.table.slots.length :=
    UInt32.toNat_ofNat_of_lt' hroom
  generalize UInt32.ofNat run.table.slots.length = index at hindex ⊢
  have hnew : ∀ id ∈ run.issued, id.index ≠ index := by
    rintro id hmem rfl
    obtain ⟨slot, hget, -⟩ := h.within id hmem
    have hlt := lt_of_getElem? hget
    omega
  have hfresh : (⟨index, 1⟩ : SurfaceId) ∉ run.issued := fun hmem => hnew _ hmem rfl
  obtain ⟨hheld, hremoved, hdistinct⟩ := h.issue value hfresh
  have hold : ∀ other : UInt32, other ≠ index →
      (run.table.slots ++ [⟨1, some value⟩])[other.toNat]? = run.table.slots[other.toNat]? := by
    intro other hne
    have hne : other.toNat ≠ run.table.slots.length :=
      fun he => hne (UInt32.toNat_inj.mp (he.trans hindex.symm))
    by_cases hlt : other.toNat < run.table.slots.length
    · exact List.getElem?_append_left hlt
    · have hlength : (run.table.slots ++ [Slot.mk 1 (some value)]).length ≤ other.toNat := by
        rw [List.length_append, List.length_singleton]
        omega
      rw [List.getElem?_eq_none hlength, List.getElem?_eq_none (by omega)]
  have hat : (run.table.slots ++ [⟨1, some value⟩])[index.toNat]? = some ⟨1, some value⟩ := by
    rw [hindex]
    exact List.getElem?_concat_length
  have hnone : run.table.slots[index.toNat]? = none := List.getElem?_eq_none hindex.ge
  constructor <;> dsimp only
  · intro other
    unfold valueAt
    by_cases hother : other.index = index
    · rw [hother]
      dsimp only
      rw [hat]
      dsimp only
      by_cases hgeneration : other = ⟨index, 1⟩
      · subst hgeneration
        simp
      · have hne : (1 : UInt32) ≠ other.generation := by
          intro he
          apply hgeneration
          cases other
          simp_all
        rw [Function.update_of_ne hgeneration, if_neg hne, h.stored, valueAt, hother, hnone]
    · have hne : other ≠ ⟨index, 1⟩ := by
        rintro rfl
        exact hother rfl
      rw [Function.update_of_ne hne, hold other.index hother, h.stored]
      rfl
  · exact hheld
  · exact hremoved
  · exact hdistinct
  · intro other hmem
    rcases List.mem_cons.mp hmem with rfl | hmem
    · exact ⟨_, hat, le_rfl⟩
    · rw [hold other.index (hnew other hmem)]
      exact h.within other hmem
  · intro other slot hget
    rw [uses_cons]
    by_cases hother : index = other
    · subst hother
      rw [hat] at hget
      cases hget
      have hnever : run.uses index = 0 := by
        rw [uses, List.countP_eq_zero]
        intro id hmem
        simpa using hnew id hmem
      rw [hnever, if_pos rfl]
      rfl
    · rw [hold other (Ne.symm hother)] at hget
      rw [if_neg hother]
      exact h.counted other slot hget
  · intro slot hmem
    rcases List.mem_append.mp hmem with hmem | hmem
    · exact h.positive slot hmem
    · rw [List.mem_singleton.mp hmem]
      show (1 : UInt32) ≠ 0
      decide
  · exact h.once
  · intro other
    rw [h.empty other]
    by_cases hother : other = index
    · subst hother
      simp [hat, hnone]
    · rw [hold other hother]
  · rw [List.length_append]
    exact hroom
  · intro slot hget
    by_cases hlast : run.table.slots.length = UInt32.size - 1
    · rw [← hlast, List.getElem?_concat_length] at hget
      cases hget
      exact ⟨rfl, rfl⟩
    · by_cases hlt : UInt32.size - 1 < run.table.slots.length
      · rw [List.getElem?_append_left hlt] at hget
        exact h.last slot hget
      · have hlength : (run.table.slots ++ [Slot.mk 1 (some value)]).length ≤ UInt32.size - 1 := by
          rw [List.length_append, List.length_singleton]
          omega
        rw [List.getElem?_eq_none hlength] at hget
        cases hget

theorem Kept.call {next : TableRun τ} {call : TableCall τ} (h : run.Kept)
    (hunspent : Unspent (some run) call) (hcall : run.call call = some next) : next.Kept := by
  cases call with
  | insert value =>
    simp only [TableRun.call, Option.map_eq_some_iff] at hcall
    obtain ⟨result, hinsert, rfl⟩ := hcall
    rcases insert_eq_some hinsert with ⟨index, free, found, hfree, hfound, rfl⟩ | ⟨-, hroom, rfl⟩
    · exact h.reuse hfree (hunspent index (by simp [hfree])) hfound
    · exact h.extend hroom
  | remove id =>
    simp only [TableRun.call, Option.some.injEq] at hcall
    subst hcall
    split
    · exact h
    · rename_i hremove
      exact h.remove hremove
  | getMut id change =>
    simp only [TableRun.call, Option.some.injEq] at hcall
    subst hcall
    split
    · exact h
    · rename_i hchange
      exact h.getMut hchange

/-- The one id that may be lost is the one of the index kept for the invalid id. -/
theorem Kept.sound_iff (h : run.Kept) :
    run.Sound ↔ run.table.slots.length < UInt32.size := by
  constructor
  · intro hsound
    by_contra hfull
    have hlt : UInt32.size - 1 < run.table.slots.length := by
      have hpos : 0 < UInt32.size := by decide
      omega
    obtain ⟨hgeneration, hvalue⟩ := h.last _ (List.getElem?_eq_getElem hlt)
    have hstored : run.stored ⟨UInt32.ofNat (UInt32.size - 1), 1⟩ =
        (run.table.slots[UInt32.size - 1]).value := by
      rw [h.stored, valueAt, show (UInt32.ofNat (UInt32.size - 1)).toNat = UInt32.size - 1 from rfl,
        List.getElem?_eq_getElem hlt]
      exact if_pos hgeneration
    have hget := hsound.resolves ⟨UInt32.ofNat (UInt32.size - 1), 1⟩
    rw [get_invalid rfl, hstored] at hget
    rw [← hget] at hvalue
    cases hvalue
  · intro hroom
    have hresolves : ∀ id, run.table.get id = run.stored id := by
      intro id
      cases hvalid : id.isValid with
      | true => rw [get_eq hvalid, h.stored]
      | false =>
        rw [get_invalid hvalid, h.stored, valueAt]
        cases hget : run.table.slots[id.index.toNat]? with
        | none => rfl
        | some slot =>
          dsimp only
          have hlt := lt_of_getElem? hget
          have hne : slot.generation ≠ id.generation := by
            intro he
            have hpositive := h.positive slot (List.mem_of_getElem? hget)
            rw [he] at hpositive
            rw [isValid_of_lt (by omega) hpositive] at hvalid
            cases hvalid
          rw [if_neg hne]
    refine ⟨hresolves, fun id hmem => ?_, h.distinct, h.once, h.empty⟩
    rw [hresolves]
    exact (h.removed id hmem).2

/-- A step keeps the invariant, and keeps the slots below the last one exactly if there is room. -/
theorem Kept.roomy_iff {call : TableCall τ} (hroom : run.table.slots.length < UInt32.size)
    (hcall : run.call call = some next) :
    next.table.slots.length < UInt32.size ↔ Roomy (some run) call := by
  cases call with
  | insert value =>
    simp only [TableRun.call, Option.map_eq_some_iff] at hcall
    obtain ⟨result, hinsert, rfl⟩ := hcall
    rcases insert_eq_some hinsert with ⟨index, free, found, hfree, -, rfl⟩ | ⟨hfree, -, rfl⟩
    · simp [Roomy, hfree, hroom]
    · simp only [Roomy, hfree, List.length_append, List.length_singleton, true_implies]
      omega
  | remove id =>
    simp only [TableRun.call, Option.some.injEq] at hcall
    subst hcall
    refine iff_of_true ?_ trivial
    split
    · exact hroom
    · rename_i value table hremove
      obtain ⟨found, -, -, rfl⟩ := remove_eq_ok hremove
      simpa using hroom
  | getMut id change =>
    simp only [TableRun.call, Option.some.injEq] at hcall
    subst hcall
    refine iff_of_true ?_ trivial
    split
    · exact hroom
    · rename_i table hchange
      obtain ⟨found, held, -, -, rfl⟩ := getMut_eq_some hchange
      simpa using hroom

theorem roomy_of_panic {call : TableCall τ} (hroom : run.table.slots.length < UInt32.size)
    (hcall : run.call call = none) : Roomy (some run) call := by
  cases call with
  | insert value =>
    intro hfree
    simp [TableRun.call, SurfaceTable.insert, hfree, hroom] at hcall
  | remove id => trivial
  | getMut id change => trivial

theorem kept_exec {calls : List (TableCall τ)}
    (hunspent : Run.Guarded step Unspent (some new) calls) :
    ∀ run ∈ Run.exec step (some new) calls, run.Kept := by
  refine Run.invariant (P := fun state => ∀ run ∈ state, Kept run) ?_ ?_ hunspent
  · rintro run ⟨⟩
    exact kept_new
  · intro state call hok h next hnext
    obtain ⟨run, rfl, hcall⟩ := Option.bind_eq_some_iff.mp hnext
    exact (h run rfl).call hok hcall

/-- While no slot is used up, every state of a run is sound exactly as long as no surface is put
into the slot of the invalid index. -/
theorem surface_table_sound (calls : List (TableCall τ))
    (hunspent : Run.Guarded step Unspent (some new) calls) :
    Run.Throughout step (fun _ state => ∀ run ∈ state, run.Sound) (some new) calls ↔
      Run.Guarded step Roomy (some new) calls := by
  have hkept : ∀ before after, calls = before ++ after →
      ∀ run ∈ Run.exec step (some new) before, run.Kept := by
    intro before after he
    subst he
    exact kept_exec hunspent.left
  have hkeptNext : ∀ before call after, calls = before ++ call :: after →
      ∀ run ∈ step (Run.exec step (some new) before) call, run.Kept := by
    intro before call after he run hrun
    refine hkept (before ++ [call]) after (by simp [he]) run ?_
    rw [Run.exec_snoc]
    exact hrun
  show _ ↔ Run.GuardedBy step (fun _ => Roomy) (some new) calls
  refine Run.throughout_iff ?_ ?_
  · rintro run ⟨⟩
    refine kept_new.sound_iff.mpr ?_
    show 0 < UInt32.size
    decide
  · intro before call after he hsound
    have hkept := hkept before (call :: after) he
    have hnext := hkeptNext before call after he
    generalize Run.exec step (some new) before = state at hsound hkept hnext ⊢
    cases state with
    | none => exact iff_of_true (fun _ h => nomatch h) trivial
    | some run =>
      have hroom := (hkept run rfl).sound_iff.mp (hsound run rfl)
      cases hcall : run.call call with
      | some next =>
        have hstep : step (some run) call = some next := hcall
        rw [hstep] at hnext ⊢
        rw [← Kept.roomy_iff hroom hcall, ← (hnext next rfl).sound_iff]
        simp
      | none =>
        -- The table only panics when its slots are used up.
        refine iff_of_true (fun next hnext => ?_) ?_
        · have hstep : step (some run) call = none := hcall
          rw [hstep] at hnext
          cases hnext
        · exact roomy_of_panic hroom hcall

/-- A surface is removed, and another one takes its slot. -/
theorem surface_table_sound_reused :
    Run.Throughout step (fun _ state => ∀ run ∈ state, run.Sound) (some new)
      [.insert 'a', .remove ⟨0, 1⟩, .insert 'b'] :=
  (surface_table_sound _ (by decide +kernel)).mpr (by decide +kernel)

/-- Surfaces that are never removed take one slot after another. -/
theorem exec_inserts {n : ℕ} (hn : n ≤ UInt32.size) :
    ∃ run : TableRun Unit, Run.exec step (some new) (List.replicate n (.insert ())) = some run ∧
      run.table.free = [] ∧ run.table.slots.length = n := by
  induction n with
  | zero => exact ⟨new, rfl, rfl, rfl⟩
  | succ n ih =>
    obtain ⟨run, hexec, hfree, hlength⟩ := ih (by omega)
    have hroom : n < UInt32.size := by omega
    rw [List.replicate_succ', Run.exec_snoc, hexec]
    simp [step, TableRun.call, SurfaceTable.insert, hfree, hroom, hlength]

theorem unspent_inserts {n : ℕ} (hn : n ≤ UInt32.size) :
    Run.Guarded step Unspent (some (new : TableRun Unit)) (List.replicate n (.insert ())) := by
  intro before call after he
  obtain ⟨hlength, hbefore, -⟩ := List.append_eq_replicate_iff.mp he.symm
  obtain ⟨run, hexec, hfree, -⟩ := exec_inserts (n := before.length) (by omega)
  rw [hbefore, hexec]
  cases call with
  | insert value => simp [Unspent, hfree]
  | remove id => trivial
  | getMut id change => trivial

/-- With a surface in every slot, the last one is not found under the id it was given. -/
theorem last_surface_lost :
    ∃ calls : List (TableCall Unit), Run.Guarded step Unspent (some new) calls ∧
      ¬ Run.Throughout step (fun _ state => ∀ run ∈ state, run.Sound) (some new) calls := by
  refine ⟨List.replicate UInt32.size (.insert ()), unspent_inserts le_rfl, fun hsound => ?_⟩
  obtain ⟨run, hexec, -, hlength⟩ := exec_inserts le_rfl
  have hkept := kept_exec (unspent_inserts le_rfl) run hexec
  have hlast := hkept.sound_iff.mp (hsound _ [] (List.append_nil _).symm run hexec)
  omega

end TableRun
end Sophia.Protocol
