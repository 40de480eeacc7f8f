import Sophia.Authority.Properties
import Sophia.Lib.Codec
import Sophia.Lib.Interning
import Sophia.Lib.Run

/-! The atom table over any sequence of `intern` calls: two maps that stay inverse to each other. -/
namespace Sophia.Authority

open Std Sophia.Protocol Interning

def xAtomLastPredefined : UInt32 := 68

def xPredefinedAtoms : List (UInt32 × String) :=
  [(1, "PRIMARY"), (2, "SECONDARY"), (3, "ARC"), (4, "ATOM"), (5, "BITMAP"), (6, "CARDINAL"),
    (7, "COLORMAP"), (8, "CURSOR"), (9, "CUT_BUFFER0"), (10, "CUT_BUFFER1"), (11, "CUT_BUFFER2"),
    (12, "CUT_BUFFER3"), (13, "CUT_BUFFER4"), (14, "CUT_BUFFER5"), (15, "CUT_BUFFER6"),
    (16, "CUT_BUFFER7"), (17, "DRAWABLE"), (18, "FONT"), (19, "INTEGER"), (20, "PIXMAP"),
    (21, "POINT"), (22, "RECTANGLE"), (23, "RESOURCE_MANAGER"), (24, "RGB_COLOR_MAP"),
    (25, "RGB_BEST_MAP"), (26, "RGB_BLUE_MAP"), (27, "RGB_DEFAULT_MAP"), (28, "RGB_GRAY_MAP"),
    (29, "RGB_GREEN_MAP"), (30, "RGB_RED_MAP"), (31, "STRING"), (32, "VISUALID"), (33, "WINDOW"),
    (34, "WM_COMMAND"), (35, "WM_HINTS"), (36, "WM_CLIENT_MACHINE"), (37, "WM_ICON_NAME"),
    (38, "WM_ICON_SIZE"), (39, "WM_NAME"), (40, "WM_NORMAL_HINTS"), (41, "WM_SIZE_HINTS"),
    (42, "WM_ZOOM_HINTS"), (43, "MIN_SPACE"), (44, "NORM_SPACE"), (45, "MAX_SPACE"),
    (46, "END_SPACE"), (47, "SUPERSCRIPT_X"), (48, "SUPERSCRIPT_Y"), (49, "SUBSCRIPT_X"),
    (50, "SUBSCRIPT_Y"), (51, "UNDERLINE_POSITION"), (52, "UNDERLINE_THICKNESS"),
    (53, "STRIKEOUT_ASCENT"), (54, "STRIKEOUT_DESCENT"), (55, "ITALIC_ANGLE"), (56, "X_HEIGHT"),
    (57, "QUAD_WIDTH"), (58, "WEIGHT"), (59, "POINT_SIZE"), (60, "RESOLUTION"), (61, "COPYRIGHT"),
    (62, "NOTICE"), (63, "FONT_NAME"), (64, "FAMILY_NAME"), (65, "FULL_NAME"), (66, "CAP_HEIGHT"),
    (67, "WM_CLASS"), (68, "WM_TRANSIENT_FOR")]

/-- The arguments of one `intern`. -/
structure XAtomCall where
  name : String
  onlyIfExists : Bool
  deriving DecidableEq, Repr

namespace XAtomTable

def insertPredefined (table : XAtomTable) (entry : UInt32 × String) : XAtomTable :=
  { table with
    namesByAtom := table.namesByAtom.insert entry.1 entry.2
    atomsByName := table.atomsByName.insert entry.2 entry.1 }

def new : XAtomTable :=
  xPredefinedAtoms.foldl insertPredefined ⟨∅, ∅, xAtomLastPredefined + 1⟩

/-- `intern` with the table it leaves behind: the counter moves on before the maps are written, and
an exhausted counter returns before either. -/
def call (table : XAtomTable) (c : XAtomCall) : Except XAtomError (Option UInt32) × XAtomTable :=
  match validatedAtomName c.name with
  | .error error => (.error error, table)
  | .ok () => match table.atomsByName[c.name]? with
    | some atom => (.ok (some atom), table)
    | none =>
      if c.onlyIfExists then (.ok none, table)
      else
        let atom := table.nextDynamic
        if atom.toNat + 1 < UInt32.size then
          let table := { table with nextDynamic := atom + 1 }
          let table := { table with namesByAtom := table.namesByAtom.insert atom c.name }
          (.ok (some atom), { table with atomsByName := table.atomsByName.insert c.name atom })
        else (.error .atomSpaceExhausted, table)

def step (table : XAtomTable) (c : XAtomCall) : XAtomTable := (table.call c).2

/-- The atom a call returns. -/
def issued (table : XAtomTable) (c : XAtomCall) : Option UInt32 :=
  (table.call c).1.toOption.join

variable {table table' : XAtomTable} {c : XAtomCall} {atom : UInt32} {name : String}

/-- What a call can do. -/
inductive Calls (table : XAtomTable) (c : XAtomCall) :
    Except XAtomError (Option UInt32) → XAtomTable → Prop
  | refused (error : XAtomError) : Calls table c (.error error) table
  | found (atom : UInt32) (hvalid : validatedAtomName c.name = .ok ())
      (hfound : table.atomsByName[c.name]? = some atom) : Calls table c (.ok (some atom)) table
  | absent (honly : c.onlyIfExists = true) : Calls table c (.ok none) table
  | fresh (honly : c.onlyIfExists = false) (hvalid : validatedAtomName c.name = .ok ())
      (habsent : table.atomsByName[c.name]? = none)
      (hroom : table.nextDynamic.toNat + 1 < UInt32.size) :
      Calls table c (.ok (some table.nextDynamic))
        { namesByAtom := table.namesByAtom.insert table.nextDynamic c.name
          atomsByName := table.atomsByName.insert c.name table.nextDynamic
          nextDynamic := table.nextDynamic + 1 }

theorem calls (table : XAtomTable) (c : XAtomCall) :
    Calls table c (table.call c).1 (table.call c).2 := by
  unfold call
  cases hvalid : validatedAtomName c.name with
  | error error => exact .refused error
  | ok _ =>
    dsimp only
    cases hget : table.atomsByName[c.name]? with
    | some atom => exact .found atom hvalid hget
    | none =>
      dsimp only
      split
      · rename_i honly
        exact .absent honly
      · rename_i honly
        split
        · rename_i hroom
          exact .fresh (by simpa using honly) hvalid hget hroom
        · exact .refused .atomSpaceExhausted

/-- The maps are inverse to each other, every atom in them is below the counter, and every name
passes the check of its own. -/
structure Sound (table : XAtomTable) : Prop where
  inverse : Inverse table.namesByAtom table.atomsByName
  below : ∀ (atom : UInt32) name, table.namesByAtom[atom]? = some name →
    atom.toNat < table.nextDynamic.toNat
  valid : ∀ (name : String) atom, table.atomsByName[name]? = some atom →
    validatedAtomName name = .ok ()

theorem Sound.unused (h : Sound table) : table.namesByAtom[table.nextDynamic]? = none := by
  by_contra hsome
  obtain ⟨name, hname⟩ := Option.ne_none_iff_exists'.mp hsome
  exact absurd (h.below _ _ hname) (Nat.lt_irrefl _)

theorem sound_step (h : Sound table) (c : XAtomCall) : Sound (table.step c) := by
  have hcalls := calls table c
  unfold step
  generalize (table.call c).1 = result at hcalls
  generalize (table.call c).2 = next at hcalls ⊢
  cases hcalls with
  | refused | found | absent => exact h
  | fresh honly hvalid habsent hroom =>
    have hnext : (table.nextDynamic + 1).toNat = table.nextDynamic.toNat + 1 := by
      rw [UInt32.toNat_add]
      exact Nat.mod_eq_of_lt hroom
    refine ⟨h.inverse.insert h.unused habsent, ?_, ?_⟩
    · intro atom name hget
      show atom.toNat < (table.nextDynamic + 1).toNat
      rw [hnext]
      rw [ExtTreeMap.getElem?_insert] at hget
      split at hget
      · rename_i he
        rw [← LawfulEqOrd.eq_of_compare he]
        exact Nat.lt_succ_self _
      · exact Nat.lt_succ_of_lt (h.below atom name hget)
    · intro name atom hget
      rw [ExtTreeMap.getElem?_insert] at hget
      split at hget
      · rename_i he
        rw [← LawfulEqOrd.eq_of_compare he]
        exact hvalid
      · exact h.valid name atom hget

/-- A call takes no entry away. -/
theorem keeps_step (h : Sound table) (c : XAtomCall) :
    Keeps table.namesByAtom (table.step c).namesByAtom := by
  have hcalls := calls table c
  unfold step
  generalize (table.call c).1 = result at hcalls
  generalize (table.call c).2 = next at hcalls ⊢
  cases hcalls with
  | refused | found | absent => exact .refl _
  | fresh => exact keeps_insert h.unused

theorem sound_after (h : Sound table) (calls : List XAtomCall) : Sound (Run.exec step table calls) :=
  Run.invariant h (fun _ c _ hs => sound_step hs c) Run.guarded_true

theorem keeps_exec (h : Sound table) (calls : List XAtomCall) :
    Keeps table.namesByAtom (Run.exec step table calls).namesByAtom := by
  induction calls using List.reverseRecOn with
  | nil => exact .refl _
  | append_singleton calls c ih =>
    rw [Run.exec_snoc]
    exact ih.trans (keeps_step (sound_after h calls) c)

/-- A short text of printable bytes is fit for an atom. -/
theorem validated_of_bytes {name : String} (hname : name.isEmpty = false)
    (hlength : name.utf8ByteSize ≤ xAtomMaxNameLen)
    (hbytes : ∀ b ∈ Codec.utf8Bytes name, 0x20 ≤ b.toNat ∧ b.toNat < 0x7f) :
    validatedAtomName name = .ok () := by
  have hchars : ∀ c ∈ name.toList, 0x20 ≤ c.toNat ∧ c.toNat < 0x7f :=
    Codec.chars_of_bytes (p := fun n => 0x20 ≤ n ∧ n < 0x7f) (fun n hn => by omega) hbytes
  have hall : name.toList.all (fun c => 0x20 ≤ c.toNat && c.toNat < 0x7f) = true := by
    simpa only [List.all_eq_true, Bool.and_eq_true, decide_eq_true_eq] using hchars
  simp only [validatedAtomName, hname, Nat.not_lt.mpr hlength, hall, Bool.false_eq_true,
    Bool.not_true, if_false]

theorem predefined_valid : ∀ entry ∈ xPredefinedAtoms, validatedAtomName entry.2 = .ok () := by
  have hentries : ∀ entry ∈ xPredefinedAtoms, entry.2.isEmpty = false ∧
      entry.2.utf8ByteSize ≤ xAtomMaxNameLen ∧
      ∀ b ∈ Codec.utf8Bytes entry.2, 0x20 ≤ b.toNat ∧ b.toNat < 0x7f := by
    decide +kernel
  intro entry hm
  obtain ⟨hname, hlength, hbytes⟩ := hentries entry hm
  exact validated_of_bytes hname hlength hbytes

theorem predefined_distinct :
    (xPredefinedAtoms.map Prod.fst).Nodup ∧ (xPredefinedAtoms.map Prod.snd).Nodup := by
  have hatoms : (xPredefinedAtoms.map Prod.fst).map UInt32.toNat = List.range' 1 68 := by
    decide +kernel
  -- The bytes of a name make one number, and numbers are quick to compare.
  have hnames : ((xPredefinedAtoms.map Prod.snd).map
      fun name => Codec.fromLe (Codec.utf8Bytes name)).Nodup := by
    decide +kernel
  refine ⟨List.Nodup.of_map UInt32.toNat ?_, hnames.of_map⟩
  rw [hatoms]
  exact List.nodup_range'

theorem predefined_below : ∀ entry ∈ xPredefinedAtoms, entry.1.toNat ≤ 68 := by
  decide

theorem new_eq : new = ⟨(insertPairs (∅, ∅) xPredefinedAtoms).1,
    (insertPairs (∅, ∅) xPredefinedAtoms).2, xAtomLastPredefined + 1⟩ := by
  unfold new
  induction xPredefinedAtoms using List.reverseRecOn with
  | nil => rfl
  | append_singleton entries entry ih =>
    rw [List.foldl_append, ih, insertPairs_snoc]
    rfl

theorem name_new : new.name atom = some name ↔ (atom, name) ∈ xPredefinedAtoms := by
  rw [new_eq]
  exact (inverse_insertPairs predefined_distinct.1 predefined_distinct.2).2 atom name

theorem sound_new : Sound new := by
  have hinverse : Inverse new.namesByAtom new.atomsByName := by
    rw [new_eq]
    exact (inverse_insertPairs predefined_distinct.1 predefined_distinct.2).1
  refine ⟨hinverse, fun atom name h => ?_, fun name atom h => ?_⟩
  · have hle := predefined_below _ (name_new.mp h)
    exact Nat.lt_succ_of_le hle
  · exact predefined_valid _ (name_new.mp ((hinverse atom name).mpr h))

/-- An atom a call returns bears the name of the call from then on. -/
theorem name_of_issued (h : Sound table) (hc : table.issued c = some atom) :
    (table.step c).name atom = some c.name := by
  have hcalls := calls table c
  unfold issued at hc
  unfold step
  generalize (table.call c).1 = result at hcalls hc
  generalize (table.call c).2 = next at hcalls ⊢
  cases hcalls with
  | refused | absent => cases hc
  | found found hvalid hfound =>
    cases hc
    exact (h.inverse _ _).mpr hfound
  | fresh =>
    cases hc
    exact ExtTreeMap.getElem?_insert_self

/-- The name of an atom is interned as that atom, whether or not it may be new. -/
theorem call_of_name (h : Sound table) (hname : table.name atom = some name) (onlyIfExists : Bool) :
    table.call ⟨name, onlyIfExists⟩ = (.ok (some atom), table) := by
  have hfound := (h.inverse atom name).mp hname
  unfold call
  simp only [h.valid name atom hfound, hfound]

/-- The table unchanged by a call that only asks, or that fails. -/
theorem step_of_query (hc : c.onlyIfExists = true ∨ ∃ error, (table.call c).1 = .error error) :
    table.step c = table := by
  have hcalls := calls table c
  unfold step
  generalize (table.call c).1 = result at hcalls hc
  generalize (table.call c).2 = next at hcalls ⊢
  cases hcalls with
  | refused | found | absent => rfl
  | fresh honly =>
    rcases hc with honly' | ⟨error, he⟩
    · rw [honly] at honly'
      cases honly'
    · cases he

/-- Over any calls the two maps stay inverse to each other, predefined atoms keep their names, an
atom bears its name for ever and is the answer for that name and for no other, and a call that only
asks or fails changes nothing. -/
theorem atom_table_bijective (before after : List XAtomCall) (c : XAtomCall) :
    let table := Run.exec step new before
    let later := Run.exec step (table.step c) after
    Inverse table.namesByAtom table.atomsByName ∧
      (∀ entry ∈ xPredefinedAtoms, table.name entry.1 = some entry.2 ∧
        (table.issued c = some entry.1 → c.name = entry.2)) ∧
      (∀ atom name, table.name atom = some name → later.name atom = some name) ∧
      (∀ atom, table.issued c = some atom →
        later.name atom = some c.name ∧
          (∀ onlyIfExists, later.call ⟨c.name, onlyIfExists⟩ = (.ok (some atom), later)) ∧
          ∀ other : XAtomCall, later.issued other = some atom → other.name = c.name) ∧
      (c.onlyIfExists = true ∨ (∃ error, (table.call c).1 = .error error) →
        table.step c = table) := by
  intro table later
  have hsound : Sound table := sound_after sound_new before
  have hlater : Sound later := sound_after (sound_step hsound c) after
  have hkeeps : Keeps (table.step c).namesByAtom later.namesByAtom :=
    keeps_exec (sound_step hsound c) after
  refine ⟨hsound.inverse, ?_, ?_, ?_, step_of_query⟩
  · intro entry hentry
    have hname := keeps_exec sound_new before _ _ (name_new.mpr hentry)
    refine ⟨hname, fun hissued => ?_⟩
    have hold := keeps_step hsound c _ _ hname
    exact Option.some.inj ((name_of_issued hsound hissued).symm.trans hold)
  · intro atom name hname
    exact hkeeps _ _ (keeps_step hsound c _ _ hname)
  · intro atom hissued
    have hname : later.name atom = some c.name := hkeeps _ _ (name_of_issued hsound hissued)
    refine ⟨hname, fun onlyIfExists => call_of_name hlater hname onlyIfExists, ?_⟩
    intro other hother
    have hnext := name_of_issued hlater hother
    have hold := keeps_step hlater other _ _ hname
    exact Option.some.inj (hnext.symm.trans hold)

end XAtomTable
end Sophia.Authority
