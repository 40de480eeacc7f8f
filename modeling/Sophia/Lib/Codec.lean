import Mathlib.Data.List.Basic
import Mathlib.Data.Vector.Basic
import Sophia.Lib.Fallible

/-! Decoders that take values off the front of a byte string, and the encoders they invert. -/
namespace Sophia.Codec

variable {ε α β : Type}

/-- Takes a value off the front of its input, or fails. -/
abbrev Decoder (ε α : Type) := StateT (List UInt8) (Except ε) α

/-- Reads back what the encoder wrote, whatever follows it. -/
def Reads (d : Decoder ε α) (encode : α → List UInt8) : Prop :=
  ∀ a rest, d.run (encode a ++ rest) = .ok (a, rest)

/-- Reads exactly the encodings. -/
def Inverts (d : Decoder ε α) (encode : α → List UInt8) : Prop :=
  ∀ input a rest, d.run input = .ok (a, rest) ↔ input = encode a ++ rest

/-- Reads exactly what an encoder that may refuse its value wrote. -/
def Matches (d : Decoder ε α) (encode : α → Except ε (List UInt8)) : Prop :=
  ∀ input a rest, d.run input = .ok (a, rest) ↔ ∃ bytes, encode a = .ok bytes ∧ input = bytes ++ rest

section Steps

variable {d : Decoder ε α} {f : α → Decoder ε β} {x : Except ε α} {input rest : List UInt8}
  {a : α} {b : β} {encode : α → List UInt8}

theorem bind_run : (d >>= f).run input = d.run input >>= fun r => (f r.1).run r.2 := rfl

theorem bind_run_eq_ok : (d >>= f).run input = .ok (b, rest) ↔
    ∃ a mid, d.run input = .ok (a, mid) ∧ (f a).run mid = .ok (b, rest) := by
  rw [bind_run, Fallible.bind_eq_ok]
  exact Prod.exists

theorem pure_run : (pure a : Decoder ε α).run input = .ok (a, input) := rfl

theorem pure_run_eq_ok {a' : α} :
    (pure a : Decoder ε α).run input = .ok (a', rest) ↔ a = a' ∧ input = rest := by
  rw [pure_run, Except.ok.injEq, Prod.mk.injEq]

theorem lift_run_eq_ok :
    (liftM x : Decoder ε α).run input = .ok (a, rest) ↔ x = .ok a ∧ input = rest := by
  cases x <;> simp [liftM, monadLift, MonadLift.monadLift, StateT.lift, StateT.run, bind,
    Except.bind, pure, Except.pure]

theorem Reads.bind_run (h : Reads d encode) : (d >>= f).run (encode a ++ rest) = (f a).run rest := by
  rw [Codec.bind_run, h]
  rfl

theorem Inverts.reads (h : Inverts d encode) : Reads d encode := fun a rest => (h _ a rest).mpr rfl

theorem Inverts.matches (h : Inverts d encode) : Matches d fun a => .ok (encode a) := by
  intro input a rest
  rw [h input a rest]
  constructor
  · intro hinput
    exact ⟨_, rfl, hinput⟩
  · rintro ⟨bytes, he, hinput⟩
    cases he
    exact hinput

end Steps

section Words

variable {bytes input rest : List UInt8} {count width value : ℕ}

/-- The bytes of a number, least significant first. -/
def toLe : ℕ → ℕ → List UInt8
  | 0, _ => []
  | width + 1, value => UInt8.ofNat value :: toLe width (value / 256)

def fromLe : List UInt8 → ℕ
  | [] => 0
  | byte :: bytes => byte.toNat + 256 * fromLe bytes

theorem length_toLe (width value : ℕ) : (toLe width value).length = width := by
  induction width generalizing value with
  | zero => rfl
  | succ width ih => rw [toLe, List.length_cons, ih]

theorem fromLe_toLe (h : value < 256 ^ width) : fromLe (toLe width value) = value := by
  induction width generalizing value with
  | zero =>
    rw [Nat.pow_zero] at h
    rw [toLe, fromLe]
    omega
  | succ width ih =>
    rw [Nat.pow_succ'] at h
    have hrest : value / 256 < 256 ^ width := Nat.div_lt_of_lt_mul h
    rw [toLe, fromLe, ih hrest, UInt8.toNat_ofNat']
    omega

theorem fromLe_lt (bytes : List UInt8) : fromLe bytes < 256 ^ bytes.length := by
  induction bytes with
  | nil => exact Nat.one_pos
  | cons byte bytes ih =>
    have hbyte : byte.toNat < 256 := byte.toNat_lt
    rw [fromLe, List.length_cons, Nat.pow_succ']
    omega

theorem toLe_fromLe (bytes : List UInt8) : toLe bytes.length (fromLe bytes) = bytes := by
  induction bytes with
  | nil => rfl
  | cons byte bytes ih =>
    have hbyte : byte.toNat < 256 := byte.toNat_lt
    have hhead : UInt8.ofNat (byte.toNat + 256 * fromLe bytes) = byte := by
      apply UInt8.toNat_inj.mp
      rw [UInt8.toNat_ofNat']
      omega
    have htail : (byte.toNat + 256 * fromLe bytes) / 256 = fromLe bytes := by omega
    rw [fromLe, List.length_cons, toLe, hhead, htail, ih]

/-- Takes a fixed number of bytes. -/
def take (truncated : ε) (count : ℕ) : Decoder ε (List UInt8) := fun input =>
  if count ≤ input.length then .ok (input.take count, input.drop count) else .error truncated

theorem take_run_eq_ok {truncated : ε} : (take truncated count).run input = .ok (bytes, rest) ↔
    bytes.length = count ∧ input = bytes ++ rest := by
  simp only [take, StateT.run]
  constructor
  · intro h
    split at h
    · rename_i hle
      cases h
      exact ⟨List.length_take_of_le hle, (List.take_append_drop count input).symm⟩
    · cases h
  · rintro ⟨rfl, rfl⟩
    rw [if_pos (by rw [List.length_append]; omega), List.take_left, List.drop_left]

/-- Takes a number of the given width. -/
def word (truncated : ε) (width : ℕ) : Decoder ε ℕ := do
  return fromLe (← take truncated width)

theorem word_run_eq_ok {truncated : ε} : (word truncated width).run input = .ok (value, rest) ↔
    value < 256 ^ width ∧ input = toLe width value ++ rest := by
  simp only [word, bind_run_eq_ok, take_run_eq_ok, pure_run_eq_ok]
  constructor
  · rintro ⟨bytes, mid, ⟨rfl, rfl⟩, rfl, rfl⟩
    exact ⟨fromLe_lt bytes, by rw [toLe_fromLe]⟩
  · rintro ⟨hlt, rfl⟩
    exact ⟨_, rest, ⟨length_toLe width value, rfl⟩, fromLe_toLe hlt, rfl⟩

/-- A machine word is read as its number. -/
theorem inverts_word {truncated : ε} {ω : Type} {toNat : ω → ℕ} {ofNat : ℕ → ω}
    (hlt : ∀ w, toNat w < 256 ^ width) (hof : ∀ w, ofNat (toNat w) = w)
    (hto : ∀ n < 256 ^ width, toNat (ofNat n) = n) :
    Inverts (do return ofNat (← word truncated width)) fun w => toLe width (toNat w) := by
  intro input w rest
  simp only [bind_run_eq_ok, word_run_eq_ok, pure_run_eq_ok]
  constructor
  · rintro ⟨n, mid, ⟨hn, rfl⟩, rfl, rfl⟩
    rw [hto n hn]
  · rintro rfl
    exact ⟨toNat w, rest, ⟨hlt w, rfl⟩, hof w, rfl⟩

end Words

section Sequences

variable {d : Decoder ε α} {encode : α → List UInt8} {input rest : List UInt8} {xs : List α}
  {count : ℕ}

/-- Reads a fixed number of values, first to last. -/
def readArray (d : Decoder ε α) : (count : ℕ) → Decoder ε (Vector α count)
  | 0 => pure #v[]
  | count + 1 => do
    let values ← readArray d count
    return values.push (← d)

def readMany (d : Decoder ε α) (count : ℕ) : Decoder ε (List α) := do
  return (← readArray d count).toList

theorem reads_readArray (h : Reads d encode) (count : ℕ) :
    Reads (readArray d count) fun values => values.toList.flatMap encode := by
  induction count with
  | zero =>
    intro values rest
    obtain rfl : values = #v[] := Vector.eq_empty
    rfl
  | succ count ih =>
    intro values rest
    have hflat : values.toList.flatMap encode ++ rest =
        values.pop.toList.flatMap encode ++ (encode values.back ++ rest) := by
      conv_lhs => rw [← Vector.push_pop_back values, Vector.toList_push]
      simp
    have hrun : (readArray d (count + 1)).run (values.toList.flatMap encode ++ rest) =
        (pure (values.pop.push values.back) : Decoder ε _).run rest := by
      rw [hflat, readArray, ih.bind_run, h.bind_run]
    rw [hrun, Vector.push_pop_back, pure_run]

theorem inverts_readArray (h : Inverts d encode) (count : ℕ) :
    Inverts (readArray d count) fun values => values.toList.flatMap encode := by
  intro input values rest
  refine ⟨fun hrun => ?_, fun he => he ▸ reads_readArray h.reads count values rest⟩
  show input = values.toList.flatMap encode ++ rest
  induction count generalizing rest with
  | zero =>
    obtain ⟨rfl, rfl⟩ := pure_run_eq_ok.mp hrun
    rfl
  | succ count ih =>
    rw [readArray, bind_run_eq_ok] at hrun
    obtain ⟨front, mid, hfront, hlast⟩ := hrun
    rw [bind_run_eq_ok] at hlast
    obtain ⟨last, mid', hlast, hpush⟩ := hlast
    obtain ⟨rfl, rfl⟩ := pure_run_eq_ok.mp hpush
    rw [ih front mid hfront, (h mid last mid').mp hlast, Vector.toList_push]
    simp

theorem reads_readMany (h : Reads d encode) (xs : List α) (rest : List UInt8) :
    (readMany d xs.length).run (xs.flatMap encode ++ rest) = .ok (xs, rest) := by
  have hread := reads_readArray h xs.length ⟨xs.toArray, rfl⟩ rest
  have hlist : (readMany d xs.length).run (xs.flatMap encode ++ rest) =
      (readArray d xs.length).run (xs.flatMap encode ++ rest) >>= fun r => .ok (r.1.toList, r.2) :=
    rfl
  rw [hlist]
  simp only [Vector.toList_mk] at hread
  rw [hread]
  rfl

theorem readMany_run_eq_ok (h : Inverts d encode) :
    (readMany d count).run input = .ok (xs, rest) ↔
      xs.length = count ∧ input = xs.flatMap encode ++ rest := by
  constructor
  · rw [readMany, bind_run_eq_ok]
    rintro ⟨values, mid, hvalues, hlist⟩
    obtain ⟨rfl, rfl⟩ := pure_run_eq_ok.mp hlist
    exact ⟨values.length_toList, (inverts_readArray h count _ _ _).mp hvalues⟩
  · rintro ⟨rfl, rfl⟩
    exact reads_readMany h.reads xs rest

/-- The encodings of a list, one after the other, unless one value is refused. -/
def encodeAll (encode : α → Except ε (List UInt8)) : List α → Except ε (List UInt8)
  | [] => .ok []
  | a :: items => do
    let head ← encode a
    let tail ← encodeAll encode items
    return head ++ tail

theorem encodeAll_cons_eq_ok {encode : α → Except ε (List UInt8)} {a : α} {bytes : List UInt8} :
    encodeAll encode (a :: xs) = .ok bytes ↔
      ∃ head tail, encode a = .ok head ∧ encodeAll encode xs = .ok tail ∧ bytes = head ++ tail := by
  simp only [encodeAll, Fallible.bind_eq_ok, Fallible.pure_eq_ok]
  constructor
  · rintro ⟨head, hhead, tail, htail, rfl⟩
    exact ⟨head, tail, hhead, htail, rfl⟩
  · rintro ⟨head, tail, hhead, htail, rfl⟩
    exact ⟨head, hhead, tail, htail, rfl⟩

theorem encodeAll_append_eq_ok {encode : α → Except ε (List UInt8)} {a : α} {bytes : List UInt8} :
    encodeAll encode (xs ++ [a]) = .ok bytes ↔
      ∃ front last, encodeAll encode xs = .ok front ∧ encode a = .ok last ∧ bytes = front ++ last := by
  induction xs generalizing bytes with
  | nil => simp [encodeAll, Fallible.bind_eq_ok]
  | cons x xs ih =>
    simp only [List.cons_append, encodeAll_cons_eq_ok, ih]
    constructor
    · rintro ⟨head, tail, hhead, ⟨front, last, hfront, hlast, rfl⟩, rfl⟩
      exact ⟨_, last, ⟨head, front, hhead, hfront, rfl⟩, hlast, (List.append_assoc _ _ _).symm⟩
    · rintro ⟨front, last, ⟨head, tail, hhead, htail, rfl⟩, hlast, rfl⟩
      exact ⟨head, _, hhead, ⟨tail, last, htail, hlast, rfl⟩, List.append_assoc _ _ _⟩

theorem readMany_zero_run_eq_ok :
    (readMany d 0).run input = .ok (xs, rest) ↔ xs = [] ∧ input = rest := by
  rw [readMany, readArray, bind_run_eq_ok]
  constructor
  · rintro ⟨values, mid, hvalues, hlist⟩
    obtain ⟨rfl, rfl⟩ := pure_run_eq_ok.mp hvalues
    obtain ⟨rfl, rfl⟩ := pure_run_eq_ok.mp hlist
    exact ⟨rfl, rfl⟩
  · rintro ⟨rfl, rfl⟩
    exact ⟨#v[], input, rfl, rfl⟩

theorem readMany_succ_run_eq_ok : (readMany d (count + 1)).run input = .ok (xs, rest) ↔
    ∃ front mid last, (readMany d count).run input = .ok (front, mid) ∧
      d.run mid = .ok (last, rest) ∧ xs = front ++ [last] := by
  simp only [readMany, readArray, bind_run_eq_ok, pure_run_eq_ok]
  constructor
  · rintro ⟨_, _, ⟨front, mid, hfront, last, _, hlast, rfl, rfl⟩, rfl, rfl⟩
    exact ⟨_, _, last, ⟨front, _, hfront, rfl, rfl⟩, hlast, Vector.toList_push⟩
  · rintro ⟨_, mid, last, ⟨front, _, hfront, rfl, rfl⟩, hlast, rfl⟩
    exact ⟨_, rest, ⟨front, _, hfront, last, rest, hlast, rfl, rfl⟩, Vector.toList_push, rfl⟩

/-- As many values as the list is long are read exactly from their encodings. -/
theorem Matches.readMany_run_eq_ok {encode : α → Except ε (List UInt8)} (h : Matches d encode) :
    (readMany d count).run input = .ok (xs, rest) ↔
      xs.length = count ∧ ∃ bytes, encodeAll encode xs = .ok bytes ∧ input = bytes ++ rest := by
  induction count generalizing xs rest with
  | zero =>
    rw [readMany_zero_run_eq_ok, List.length_eq_zero_iff]
    constructor
    · rintro ⟨rfl, rfl⟩
      exact ⟨rfl, [], rfl, rfl⟩
    · rintro ⟨rfl, bytes, he, rfl⟩
      cases he
      exact ⟨rfl, rfl⟩
  | succ count ih =>
    rw [readMany_succ_run_eq_ok]
    constructor
    · rintro ⟨front, mid, last, hfront, hlast, rfl⟩
      obtain ⟨rfl, before, hbefore, rfl⟩ := ih.mp hfront
      obtain ⟨bytes, hbytes, rfl⟩ := (h _ _ _).mp hlast
      rw [List.length_append]
      refine ⟨rfl, before ++ bytes, ?_, (List.append_assoc _ _ _).symm⟩
      exact encodeAll_append_eq_ok.mpr ⟨before, bytes, hbefore, hbytes, rfl⟩
    · rintro ⟨hlen, bytes, hbytes, rfl⟩
      have hne : xs ≠ [] := by
        rintro rfl
        cases hlen
      rw [← List.dropLast_append_getLast hne] at hbytes
      obtain ⟨before, last, hbefore, hlast, rfl⟩ := encodeAll_append_eq_ok.mp hbytes
      have hfront : xs.dropLast.length = count := by
        rw [List.length_dropLast]
        omega
      refine ⟨xs.dropLast, last ++ rest, xs.getLast hne, ?_, ?_, ?_⟩
      · exact ih.mpr ⟨hfront, before, hbefore, List.append_assoc _ _ _⟩
      · exact (h _ _ _).mpr ⟨last, hlast, rfl⟩
      · exact (List.dropLast_append_getLast hne).symm

end Sequences

section Tags

variable {code : α → ℕ} {table : List (ℕ × α)} {n : ℕ} {a : α}

/-- The table lists every value under its code and nothing else. -/
def Tags (code : α → ℕ) (table : List (ℕ × α)) : Prop :=
  (∀ a, table.lookup (code a) = some a) ∧ ∀ entry ∈ table, code entry.2 = entry.1

theorem Tags.lookup_eq_some (h : Tags code table) : table.lookup n = some a ↔ n = code a := by
  constructor
  · intro hlookup
    obtain ⟨before, after, rfl, -⟩ := List.lookup_eq_some_iff.mp hlookup
    exact (h.2 (n, a) (by simp)).symm
  · rintro rfl
    exact h.1 a

end Tags

section Text

/-- The bytes of a string in UTF-8. -/
def utf8Bytes (s : String) : List UInt8 := s.toByteArray.data.toList

def fromUtf8 (bytes : List UInt8) : Option String := String.fromUTF8? ⟨bytes.toArray⟩

theorem length_utf8Bytes (s : String) : (utf8Bytes s).length = s.utf8ByteSize := rfl

theorem utf8Bytes_eq (s : String) : utf8Bytes s = s.toList.flatMap String.utf8EncodeChar := by
  unfold utf8Bytes
  rw [← String.utf8Encode_toList]
  simp [List.utf8Encode]

/-- An ASCII character is its own byte, and any other has a byte with its top bit set. -/
theorem exists_byte (c : Char) :
    ∃ b ∈ String.utf8EncodeChar c, b.toNat = c.toNat ∨ 0x80 ≤ b.toNat := by
  unfold String.utf8EncodeChar
  dsimp only
  split
  · rename_i hv
    refine ⟨_, List.mem_cons_self, Or.inl ?_⟩
    rw [UInt8.toNat_ofNat_of_lt' (Nat.lt_of_le_of_lt hv (by decide))]
    rfl
  split
  · refine ⟨_, List.mem_cons_self, Or.inr ?_⟩
    rw [UInt8.toNat_ofNat_of_lt' (by simp only [UInt8.size]; omega)]
    omega
  split
  · refine ⟨_, List.mem_cons_self, Or.inr ?_⟩
    rw [UInt8.toNat_ofNat_of_lt' (by simp only [UInt8.size]; omega)]
    omega
  · refine ⟨_, List.mem_cons_self, Or.inr ?_⟩
    rw [UInt8.toNat_ofNat_of_lt' (by simp only [UInt8.size]; omega)]
    omega

/-- What holds of all the bytes of an ASCII text holds of its characters. -/
theorem chars_of_bytes {s : String} {p : ℕ → Prop} (hp : ∀ n, p n → n < 0x80)
    (h : ∀ b ∈ utf8Bytes s, p b.toNat) : ∀ c ∈ s.toList, p c.toNat := by
  intro c hc
  obtain ⟨b, hb, heq⟩ := exists_byte c
  have hmem : b ∈ utf8Bytes s := by
    rw [utf8Bytes_eq]
    exact List.mem_flatMap.mpr ⟨c, hc, hb⟩
  have hlow := hp _ (h b hmem)
  rcases heq with heq | hhigh
  · exact heq ▸ h b hmem
  · omega

theorem fromUtf8_eq_some {bytes : List UInt8} {s : String} :
    fromUtf8 bytes = some s ↔ bytes = utf8Bytes s := by
  unfold fromUtf8 String.fromUTF8?
  constructor
  · intro h
    split at h
    · cases h
      rfl
    · cases h
  · rintro rfl
    rw [dif_pos (show ByteArray.IsValidUTF8 ⟨(utf8Bytes s).toArray⟩ from s.isValidUTF8)]
    rfl

end Text
end Sophia.Codec
