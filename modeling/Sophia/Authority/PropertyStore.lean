import Sophia.Authority.Properties
import Sophia.Lib.Fallible
import Sophia.Lib.Ordered

/-! The property store: what is kept in it, how a change joins it, and how a value is read out of it
piece by piece. -/
namespace Sophia.Authority

open Std Sophia.Protocol

def xPropertyAnyType : UInt32 := 0

structure XPropertyRead where
  delete : Bool
  window : XResourceId
  property : UInt32
  propertyType : UInt32
  longOffset : UInt32
  longLength : UInt32
  deriving DecidableEq, Repr

structure XPropertyReadReply where
  propertyType : UInt32
  format : UInt8
  bytesAfter : UInt32
  itemCount : UInt32
  bytes : List UInt8
  deriving DecidableEq, Repr

/-- A length as 32 bits, cut off at the largest number. -/
def cutToU32 (n : ℕ) : UInt32 := .ofNat (min n (UInt32.size - 1))

namespace XPropertyTable

def new : XPropertyTable := ⟨∅⟩

def remove (table : XPropertyTable) (ns : NamespaceId) (window : XResourceId) (property : UInt32) :
    Option XPropertyRecord × XPropertyTable :=
  (table.get ns window property, ⟨table.records.erase ⟨ns, window, property⟩⟩)

/-- The change in place: a refused one leaves the table as it was. -/
def change (table : XPropertyTable) (ns : NamespaceId) (change : XPropertyChange) :
    Except XPropertyError XPropertyRecord × XPropertyTable :=
  match table.applyChange ns change with
  | .error error => (.error error, table)
  | .ok (record, table) => (.ok record, table)

-- Offsets and lengths are 32 bits, so their products with four are numbers of the machine.
def readProperty (table : XPropertyTable) (ns : NamespaceId) (read : XPropertyRead) :
    Except XPropertyError XPropertyReadReply :=
  if !ns.isValid then .error .invalidNamespace
  else if !read.window.isValid then .error .invalidWindow
  else match table.get ns read.window read.property with
  | none => .ok ⟨xPropertyAnyType, 0, 0, 0, []⟩
  | some record =>
    if read.propertyType ≠ xPropertyAnyType ∧ read.propertyType ≠ record.propertyType then
      .ok ⟨record.propertyType, record.format, cutToU32 record.bytes.length, 0, []⟩
    else
      let offset := read.longOffset.toNat * 4
      let maxRead := read.longLength.toNat * 4
      if record.bytes.length < offset then .error .invalidOffset
      else if xPropertyMaxValueBytes < maxRead then
        .error (.readTooLarge maxRead xPropertyMaxValueBytes)
      else
        let remaining := record.bytes.length - offset
        let returnedLen := min remaining maxRead
        let itemWidth := (record.format / 8).toNat
        .ok
          { propertyType := record.propertyType
            format := record.format
            bytesAfter := cutToU32 (remaining - returnedLen)
            itemCount := cutToU32 (returnedLen / itemWidth)
            bytes := (record.bytes.drop offset).take returnedLen }

/-- Read on from where the last reply ended until one says that no bytes are left. -/
def readChunks (table : XPropertyTable) (ns : NamespaceId) :
    ℕ → XPropertyRead → Option (Except XPropertyError (List (List UInt8)))
  | 0, _ => none
  | fuel + 1, read => match table.readProperty ns read with
    | .error error => some (.error error)
    | .ok reply =>
      if reply.bytesAfter = 0 then some (.ok [reply.bytes])
      else
        (table.readChunks ns fuel { read with longOffset := read.longOffset + read.longLength }).map
          fun rest => rest.map (reply.bytes :: ·)

/-- The bytes a namespace has in the table. -/
def namespaceLen (table : XPropertyTable) (ns : NamespaceId) : ℕ :=
  ((table.records.toList.filter fun entry => entry.1.namespaceId = ns).map
    fun entry => entry.2.bytes.length).sum

end XPropertyTable

/-- The bytes are a whole number of items of the format. -/
def WholeItems (format : UInt8) (bytes : List UInt8) : Prop := format.toNat / 8 ∣ bytes.length

/-- What the fields of a stored property may be. -/
structure XPropertyRecord.Lawful (record : XPropertyRecord) : Prop where
  format : record.format = 8 ∨ record.format = 16 ∨ record.format = 32
  whole : WholeItems record.format record.bytes
  fits : record.bytes.length ≤ xPropertyMaxValueBytes

/-- Every record is lawful and under its own valid key, and all values together are not too large. -/
structure XPropertyTable.Kept (table : XPropertyTable) : Prop where
  lawful : ∀ ns window property record, table.get ns window property = some record →
    record.Lawful
  valid : ∀ ns window property record, table.get ns window property = some record →
    ns.isValid = true ∧ window.isValid = true
  fits : table.tableLen ≤ xPropertyMaxTableBytes

theorem WholeItems.append {format : UInt8} {first second : List UInt8}
    (hfirst : WholeItems format first) (hsecond : WholeItems format second) :
    WholeItems format (first ++ second) := by
  unfold WholeItems
  rw [List.length_append]
  exact Nat.dvd_add hfirst hsecond

/-- The value a change joins with what was stored under its key before. -/
def XPropertyChange.joined (change : XPropertyChange) (previous : Option XPropertyRecord) :
    List UInt8 :=
  let old := previous.elim [] (·.bytes)
  match change.mode with
  | .replace => change.bytes
  | .append => old ++ change.bytes
  | .prepend => change.bytes ++ old

namespace XPropertyTable

open Fallible Ordered

variable {table next : XPropertyTable} {ns : NamespaceId} {change : XPropertyChange}
  {record : XPropertyRecord} {read : XPropertyRead}

/-- What an accepted change has passed, and what it does. -/
theorem applyChange_eq_ok (h : table.applyChange ns change = .ok (record, next)) :
    ns.isValid = true ∧ change.window.isValid = true ∧
      (change.format = 8 ∨ change.format = 16 ∨ change.format = 32) ∧
      change.bytes.length ≤ xPropertyMaxValueBytes ∧
      change.value (table.get ns change.window change.property) = .ok record.bytes ∧
      table.tableLen -
          (table.get ns change.window change.property).elim 0 (·.bytes.length) +
          record.bytes.length ≤ xPropertyMaxTableBytes ∧
      record.format = change.format ∧
      next = ⟨table.records.insert ⟨ns, change.window, change.property⟩ record⟩ := by
  unfold applyChange at h
  simp only [throw_if_eq_ok, bind_eq_ok, validatePropertyFormat] at h
  obtain ⟨hns, hwindow, _, hformat, hlength, bytes, hvalue, htotal, hdone⟩ := h
  have hformat : change.format = 8 ∨ change.format = 16 ∨ change.format = 32 := by
    by_contra hnot
    rw [if_neg hnot] at hformat
    cases hformat
  cases hdone
  exact ⟨by simpa using hns, by simpa using hwindow, hformat, by omega, hvalue,
    Nat.le_of_not_lt htotal, rfl, rfl⟩

/-- Bytes are joined if the record has the change's format and the whole fits. -/
theorem shaped_eq_ok {record : XPropertyRecord} {first second bytes : List UInt8}
    (h : (ensureSamePropertyShape record change >>= fun _ => joinedBytes first second) =
      .ok bytes) :
    bytes = first ++ second ∧ bytes.length ≤ xPropertyMaxValueBytes ∧
      record.format = change.format := by
  obtain ⟨_, hshape, hbytes⟩ := bind_eq_ok.mp h
  unfold ensureSamePropertyShape at hshape
  split at hshape
  · cases hshape
  · rename_i hsame
    push Not at hsame
    unfold joinedBytes at hbytes
    dsimp only at hbytes
    split at hbytes
    · cases hbytes
    · rename_i hfits
      cases hbytes
      rw [List.length_append]
      exact ⟨rfl, by omega, hsame.2⟩

/-- The value a change leaves is the joined one. What it is joined with has the change's format. -/
theorem value_eq_ok {previous : Option XPropertyRecord} {bytes : List UInt8}
    (h : change.value previous = .ok bytes) (hlength : change.bytes.length ≤ xPropertyMaxValueBytes) :
    bytes = change.joined previous ∧ bytes.length ≤ xPropertyMaxValueBytes ∧
      (change.mode ≠ .replace → ∀ record ∈ previous, record.format = change.format) := by
  unfold XPropertyChange.value at h
  unfold XPropertyChange.joined
  split at h
  · rename_i hmode
    cases h
    rw [hmode]
    exact ⟨rfl, hlength, fun hne => absurd rfl hne⟩
  · cases h
    refine ⟨?_, hlength, fun _ record hrecord => nomatch hrecord⟩
    cases change.mode <;> simp
  · rename_i hmode
    obtain ⟨hbytes, hfits, hshape⟩ := shaped_eq_ok h
    rw [hmode]
    exact ⟨hbytes, hfits, fun _ record hrecord => Option.some.inj hrecord ▸ hshape⟩
  · rename_i hmode
    obtain ⟨hbytes, hfits, hshape⟩ := shaped_eq_ok h
    rw [hmode]
    exact ⟨hbytes, hfits, fun _ record hrecord => Option.some.inj hrecord ▸ hshape⟩

/-- Joining whole items with whole items of the same format leaves whole items. -/
theorem whole_joined {previous : Option XPropertyRecord}
    (hwhole : WholeItems change.format change.bytes)
    (hlawful : ∀ record ∈ previous, record.Lawful)
    (hformat : change.mode ≠ .replace → ∀ record ∈ previous, record.format = change.format) :
    WholeItems change.format (change.joined previous) := by
  have hold : change.mode ≠ .replace → WholeItems change.format (previous.elim [] (·.bytes)) := by
    intro hmode
    cases previous with
    | none => exact Nat.dvd_zero _
    | some record =>
      rw [← hformat hmode record rfl]
      exact (hlawful record rfl).whole
  unfold XPropertyChange.joined
  cases hmode : change.mode with
  | replace => exact hwhole
  | append => exact (hold (by simp [hmode])).append hwhole
  | prepend => exact hwhole.append (hold (by simp [hmode]))

theorem get_insert {key : PropertyKey} {window : XResourceId} {property : UInt32} :
    (XPropertyTable.mk (table.records.insert key record)).get ns window property =
      if key = ⟨ns, window, property⟩ then some record else table.get ns window property := by
  unfold get
  rw [ExtTreeMap.getElem?_insert]
  by_cases hkey : key = ⟨ns, window, property⟩
  · rw [if_pos hkey, if_pos (by rw [hkey]; exact ReflOrd.compare_self)]
  · rw [if_neg hkey, if_neg fun he => hkey (LawfulEqOrd.eq_of_compare he)]

theorem tableLen_eq : table.tableLen = total (fun entry => entry.2.bytes.length) table.records := rfl

theorem kept_new : new.Kept where
  lawful _ _ _ _ h := by simp [get, new] at h
  valid _ _ _ _ h := by simp [get, new] at h
  fits := total_empty.trans_le (Nat.zero_le _)

/-- An accepted change of whole items keeps the store lawful, and stores the joined value. -/
theorem Kept.applyChange (h : table.Kept) (hwhole : WholeItems change.format change.bytes)
    (hchange : table.applyChange ns change = .ok (record, next)) : next.Kept := by
  obtain ⟨hns, hwindow, hformat, hlength, hvalue, htotal, hsame, rfl⟩ := applyChange_eq_ok hchange
  obtain ⟨hbytes, hfits, hshape⟩ := value_eq_ok hvalue hlength
  have hlawful : record.Lawful := by
    refine ⟨hsame ▸ hformat, ?_, hfits⟩
    rw [hsame, hbytes]
    exact whole_joined hwhole (fun old hold => h.lawful _ _ _ old hold) hshape
  constructor
  · intro ns' window property found hget
    rw [get_insert] at hget
    split at hget
    · cases hget
      exact hlawful
    · exact h.lawful ns' window property found hget
  · intro ns' window property found hget
    rw [get_insert] at hget
    split at hget
    · rename_i hkey
      cases hkey
      exact ⟨hns, hwindow⟩
    · exact h.valid ns' window property found hget
  · have hinsert := total_insert (fun entry : PropertyKey × XPropertyRecord => entry.2.bytes.length)
      table.records ⟨ns, change.window, change.property⟩ record
    rw [tableLen_eq] at htotal ⊢
    unfold get at htotal
    dsimp only at hinsert ⊢
    omega

/-- A table with some of the entries is as lawful. -/
theorem Kept.fewer (h : table.Kept)
    (hfewer : ∀ (key : PropertyKey) record, next.records[key]? = some record →
      table.records[key]? = some record) : next.Kept where
  lawful ns window property record hget := h.lawful ns window property record (hfewer _ _ hget)
  valid ns window property record hget := h.valid ns window property record (hfewer _ _ hget)
  fits := (total_le hfewer).trans h.fits

/-- The share of a namespace is no larger than the whole. -/
theorem namespaceLen_le (table : XPropertyTable) (ns : NamespaceId) :
    table.namespaceLen ns ≤ table.tableLen :=
  (List.filter_sublist.map _).sum_le_sum fun _ _ => Nat.zero_le _

theorem cutToU32_eq_zero {n : ℕ} : cutToU32 n = 0 ↔ n = 0 := by
  have hcut : (cutToU32 n).toNat = min n (UInt32.size - 1) :=
    UInt32.toNat_ofNat_of_lt' (by simp only [UInt32.size]; omega)
  rw [← UInt32.toNat_inj, hcut, UInt32.toNat_zero]
  simp only [UInt32.size]
  omega

/-- A read for a stored property, of its type and of no more than the table gives at once. -/
structure Accepts (record : XPropertyRecord) (read : XPropertyRead) : Prop where
  type : read.propertyType = xPropertyAnyType ∨ read.propertyType = record.propertyType
  length : read.longLength.toNat * 4 ≤ xPropertyMaxValueBytes

theorem readProperty_eq (h : table.Kept) (hget : table.get ns read.window read.property = some record)
    (hread : Accepts record read) (hoffset : read.longOffset.toNat * 4 ≤ record.bytes.length) :
    ∃ reply, table.readProperty ns read = .ok reply ∧
      reply.bytes = (record.bytes.drop (read.longOffset.toNat * 4)).take (read.longLength.toNat * 4) ∧
      (reply.bytesAfter = 0 ↔
        record.bytes.length - read.longOffset.toNat * 4 ≤ read.longLength.toNat * 4) := by
  obtain ⟨hns, hwindow⟩ := h.valid _ _ _ _ hget
  have htype : ¬ (read.propertyType ≠ xPropertyAnyType ∧
      read.propertyType ≠ record.propertyType) := by
    rintro ⟨hany, hother⟩
    rcases hread.type with hsame | hsame
    · exact hany hsame
    · exact hother hsame
  have hlength := hread.length
  unfold readProperty
  simp only [hns, hwindow, hget, Bool.not_true, Bool.false_eq_true, if_false, if_neg htype,
    if_neg (Nat.not_lt.mpr hoffset), if_neg (Nat.not_lt.mpr hlength)]
  refine ⟨_, rfl, ?_, ?_⟩
  · -- Taking no more than is there, or taking it all, is the same.
    dsimp only
    rw [List.take_eq_take_iff, List.length_drop]
    omega
  · rw [cutToU32_eq_zero]
    omega

/-- Pieces read one behind the other, until no bytes are left, make up the value. -/
theorem readChunks_from (h : table.Kept) {fuel : ℕ} (hget : table.get ns read.window read.property =
      some record) (hread : Accepts record read) (hpos : 0 < read.longLength.toNat)
    (hoffset : read.longOffset.toNat * 4 ≤ record.bytes.length)
    (hfuel : record.bytes.length - read.longOffset.toNat * 4 < fuel) :
    ∃ chunks, table.readChunks ns fuel read = some (.ok chunks) ∧
      chunks.flatten = record.bytes.drop (read.longOffset.toNat * 4) := by
  induction fuel generalizing read with
  | zero => omega
  | succ fuel ih =>
    obtain ⟨reply, hreply, hbytes, hafter⟩ := readProperty_eq h hget hread hoffset
    have hstep : table.readChunks ns (fuel + 1) read =
        if reply.bytesAfter = 0 then some (.ok [reply.bytes])
        else (table.readChunks ns fuel
            { read with longOffset := read.longOffset + read.longLength }).map
          fun rest => rest.map (reply.bytes :: ·) := by
      rw [readChunks, hreply]
    rw [hstep]
    by_cases hlast : reply.bytesAfter = 0
    · rw [if_pos hlast]
      refine ⟨[reply.bytes], rfl, ?_⟩
      rw [List.flatten_singleton, hbytes, List.take_of_length_le]
      rw [List.length_drop]
      exact hafter.mp hlast
    · rw [if_neg hlast]
      have hmore : read.longLength.toNat * 4 < record.bytes.length - read.longOffset.toNat * 4 :=
        Nat.lt_of_not_le fun hle => hlast (hafter.mpr hle)
      have hfits := (h.lawful _ _ _ _ hget).fits
      have hnext : (read.longOffset + read.longLength).toNat =
          read.longOffset.toNat + read.longLength.toNat := by
        rw [UInt32.toNat_add]
        refine Nat.mod_eq_of_lt ?_
        simp only [xPropertyMaxValueBytes] at hfits
        omega
      obtain ⟨chunks, hchunks, hrest⟩ := @ih
        { read with longOffset := read.longOffset + read.longLength } hget
        ⟨hread.type, hread.length⟩ hpos (by dsimp only; omega) (by dsimp only; omega)
      refine ⟨reply.bytes :: chunks, by rw [hchunks]; rfl, ?_⟩
      rw [List.flatten_cons, hrest, hbytes]
      dsimp only
      rw [hnext, Nat.add_mul, ← List.drop_drop, List.take_append_drop]

end XPropertyTable
end Sophia.Authority
