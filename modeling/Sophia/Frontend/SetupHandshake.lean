import Sophia.Frontend.ReplyFraming

/-! The setup of a connection: the request a client begins with, and whether it is let in. -/
namespace Sophia.Authority

def XByteOrder.marker : XByteOrder → UInt8
  | .littleEndian => 0x6c
  | .bigEndian => 0x42

def XByteOrder.u16 (order : XByteOrder) (bytes : List UInt8) : UInt16 :=
  UInt16.ofNat (order.number bytes)

/-- Two bytes of a request, from an offset on. -/
def XByteOrder.u16At (order : XByteOrder) (bytes : List UInt8) (offset : ℕ) : UInt16 :=
  order.u16 ((bytes.drop offset).take 2)

end Sophia.Authority

namespace Sophia.Frontend

open Protocol Authority

structure XSetupRequest where
  byteOrder : XByteOrder
  majorVersion : UInt16
  minorVersion : UInt16
  authorizationProtocolName : List UInt8
  authorizationData : List UInt8
  deriving DecidableEq

inductive XSetupParseError where
  | truncated (needed actual : ℕ)
  | invalidByteOrder (marker : UInt8)
  | unsupportedMajorVersion (major : UInt16)
  | authFieldTooLarge (field : String) (len max : ℕ)
  | trailingBytes (count : ℕ)
  | replyFieldTooLarge (field : String) (len max : ℕ)

/-- `XByteOrder::parse`. -/
def parseByteOrder (marker : UInt8) : Except XSetupParseError XByteOrder :=
  if marker = 0x6c then .ok .littleEndian
  else if marker = 0x42 then .ok .bigEndian
  else .error (.invalidByteOrder marker)

def setupMaxAuthFieldLen : ℕ := 1024

def validateAuthLen (field : String) (len : ℕ) : Except XSetupParseError Unit :=
  if setupMaxAuthFieldLen < len then .error (.authFieldTooLarge field len setupMaxAuthFieldLen)
  else .ok ()

-- The lengths are bounded before they are added, so that the sum cannot overflow.
def setupRequestTotalLen (bytes : List UInt8) : Except XSetupParseError ℕ := do
  if bytes.length < 12 then throw (.truncated 12 bytes.length)
  let byteOrder ← parseByteOrder (bytes.headD 0)
  let authNameLen := (byteOrder.u16At bytes 6).toNat
  let authDataLen := (byteOrder.u16At bytes 8).toNat
  validateAuthLen "authorization_protocol_name" authNameLen
  validateAuthLen "authorization_data" authDataLen
  return 12 + paddedLen authNameLen + paddedLen authDataLen

def parseSetupRequest (bytes : List UInt8) : Except XSetupParseError XSetupRequest := do
  if bytes.length < 12 then throw (.truncated 12 bytes.length)
  let byteOrder ← parseByteOrder (bytes.headD 0)
  let majorVersion := byteOrder.u16At bytes 2
  let minorVersion := byteOrder.u16At bytes 4
  if majorVersion ≠ 11 then throw (.unsupportedMajorVersion majorVersion)
  let authNameLen := (byteOrder.u16At bytes 6).toNat
  let authDataLen := (byteOrder.u16At bytes 8).toNat
  validateAuthLen "authorization_protocol_name" authNameLen
  validateAuthLen "authorization_data" authDataLen
  let needed := 12 + paddedLen authNameLen + paddedLen authDataLen
  if bytes.length < needed then throw (.truncated needed bytes.length)
  if needed < bytes.length then throw (.trailingBytes (bytes.length - needed))
  return {
    byteOrder, majorVersion, minorVersion
    authorizationProtocolName := (bytes.drop 12).take authNameLen
    authorizationData := (bytes.drop (12 + paddedLen authNameLen)).take authDataLen }

inductive SetupReadError where
  | closed
  | invalidPrefix (error : XSetupParseError)
  | invalidRequest (error : XSetupParseError)

/-- `read_x11_setup_request`, of what the client sends before it closes its end. -/
def readSetupRequest (stream : List UInt8) :
    Except SetupReadError (XSetupRequest × List UInt8) := do
  if stream.length < 12 then throw .closed
  let totalLen ← (setupRequestTotalLen (stream.take 12)).mapError .invalidPrefix
  if stream.length < totalLen then throw .closed
  let request ← (parseSetupRequest (stream.take totalLen)).mapError .invalidRequest
  return (request, stream.drop totalLen)

inductive XServerFrontendSetupAuthorization where
  | unauthenticatedLocal
  | mitMagicCookie (cookie : Vector UInt8 16)

/-- `x11_authorization_data_eq`: every byte is compared, whether or not one differs before it. -/
def authorizationDataEq (actual expected : List UInt8) : Bool :=
  actual.length == expected.length &&
    (actual.zip expected).foldl (fun difference (actual, expected) =>
      difference ||| (actual ^^^ expected)) 0 == 0

/-- `MIT-MAGIC-COOKIE-1`. -/
def magicCookieName : List UInt8 :=
  [0x4d, 0x49, 0x54, 0x2d, 0x4d, 0x41, 0x47, 0x49, 0x43, 0x2d, 0x43, 0x4f, 0x4f, 0x4b, 0x49, 0x45,
    0x2d, 0x31]

def XServerFrontendSetupAuthorization.permits (authorization : XServerFrontendSetupAuthorization)
    (request : XSetupRequest) : Bool :=
  match authorization with
  | .unauthenticatedLocal => true
  | .mitMagicCookie expected =>
    request.authorizationProtocolName == magicCookieName &&
      authorizationDataEq request.authorizationData expected.toList

section Requests

variable {order : XByteOrder} {stream rest tail : List UInt8} {request : XSetupRequest}

/-- The first twelve bytes of a request. -/
structure SetupHeader where
  byteOrder : XByteOrder
  unused : UInt8
  majorVersion : UInt16
  minorVersion : UInt16
  nameLen : UInt16
  dataLen : UInt16
  ending : UInt8 × UInt8

namespace SetupHeader

variable (header : SetupHeader)

def bytes : List UInt8 :=
  [header.byteOrder.marker, header.unused] ++ pushU16 header.byteOrder header.majorVersion ++
    pushU16 header.byteOrder header.minorVersion ++ pushU16 header.byteOrder header.nameLen ++
    pushU16 header.byteOrder header.dataLen ++ [header.ending.1, header.ending.2]

/-- What the header and the bytes behind it ask for. -/
def requested (tail : List UInt8) : XSetupRequest where
  byteOrder := header.byteOrder
  majorVersion := header.majorVersion
  minorVersion := header.minorVersion
  authorizationProtocolName := tail.take header.nameLen.toNat
  authorizationData := (tail.drop (paddedLen header.nameLen.toNat)).take header.dataLen.toNat

/-- How many bytes belong to the request behind the header. -/
def tailLen : ℕ := paddedLen header.nameLen.toNat + paddedLen header.dataLen.toNat

def Allowed : Prop :=
  header.nameLen.toNat ≤ setupMaxAuthFieldLen ∧ header.dataLen.toNat ≤ setupMaxAuthFieldLen

end SetupHeader

/-- The bytes of a request that the server does not look at. -/
structure SetupFiller where
  unused : UInt8
  ending : UInt8 × UInt8
  namePad : List UInt8
  dataPad : List UInt8

namespace XSetupRequest

variable (request : XSetupRequest) (filler : SetupFiller)

def header : SetupHeader where
  byteOrder := request.byteOrder
  unused := filler.unused
  majorVersion := request.majorVersion
  minorVersion := request.minorVersion
  nameLen := UInt16.ofNat request.authorizationProtocolName.length
  dataLen := UInt16.ofNat request.authorizationData.length
  ending := filler.ending

/-- The request as a client sends it. -/
def bytes : List UInt8 :=
  (request.header filler).bytes ++ (request.authorizationProtocolName ++ filler.namePad ++
    (request.authorizationData ++ filler.dataPad))

structure Acceptable : Prop where
  major : request.majorVersion = 11
  name : request.authorizationProtocolName.length ≤ setupMaxAuthFieldLen
  data : request.authorizationData.length ≤ setupMaxAuthFieldLen

/-- The filler pads both fields to whole words. -/
structure Padded : Prop where
  name : request.authorizationProtocolName.length + filler.namePad.length =
    paddedLen request.authorizationProtocolName.length
  data : request.authorizationData.length + filler.dataPad.length =
    paddedLen request.authorizationData.length

end XSetupRequest

theorem u16_pushU16 (order : XByteOrder) (value : UInt16) :
    order.u16 (pushU16 order value) = value := by
  rw [XByteOrder.u16, pushU16, number_bytes value.toNat_lt, UInt16.ofNat_toNat]

theorem fromLe_pair_lt (x y : UInt8) : Codec.fromLe [x, y] < UInt16.size := by
  have hx := x.toNat_lt
  have hy := y.toNat_lt
  simp only [Codec.fromLe, UInt16.size]
  omega

theorem pushU16_u16 (order : XByteOrder) (x y : UInt8) :
    pushU16 order (order.u16 [x, y]) = [x, y] := by
  cases order with
  | littleEndian =>
    have hlt := fromLe_pair_lt x y
    show Codec.toLe 2 (UInt16.ofNat (Codec.fromLe [x, y])).toNat = [x, y]
    rw [UInt16.toNat_ofNat_of_lt' hlt]
    exact Codec.toLe_fromLe [x, y]
  | bigEndian =>
    have hlt := fromLe_pair_lt y x
    show (Codec.toLe 2 (UInt16.ofNat (Codec.fromLe [y, x])).toNat).reverse = [x, y]
    rw [UInt16.toNat_ofNat_of_lt' hlt]
    exact congrArg List.reverse (Codec.toLe_fromLe [y, x])

theorem exists_pair (order : XByteOrder) (value : UInt16) :
    ∃ x y, pushU16 order value = [x, y] ∧ order.u16 [x, y] = value := by
  obtain ⟨x, y, hpair⟩ := List.length_eq_two.mp length_pushU16
  exact ⟨x, y, hpair, hpair ▸ u16_pushU16 order value⟩

theorem parseByteOrder_eq_ok {marker : UInt8} :
    parseByteOrder marker = .ok order ↔ marker = order.marker := by
  unfold parseByteOrder
  cases order <;> split_ifs <;> simp_all [XByteOrder.marker]

section Headers

variable (header : SetupHeader) (tail)

theorem length_header : header.bytes.length = 12 := by simp [SetupHeader.bytes]

theorem headD_header : (header.bytes ++ tail).headD 0 = header.byteOrder.marker := rfl

/-- Every field of a header stands where the server reads it. -/
theorem u16At_header :
    header.byteOrder.u16At (header.bytes ++ tail) 2 = header.majorVersion ∧
      header.byteOrder.u16At (header.bytes ++ tail) 4 = header.minorVersion ∧
      header.byteOrder.u16At (header.bytes ++ tail) 6 = header.nameLen ∧
      header.byteOrder.u16At (header.bytes ++ tail) 8 = header.dataLen := by
  obtain ⟨_, _, hmajor, hmajor'⟩ := exists_pair header.byteOrder header.majorVersion
  obtain ⟨_, _, hminor, hminor'⟩ := exists_pair header.byteOrder header.minorVersion
  obtain ⟨_, _, hname, hname'⟩ := exists_pair header.byteOrder header.nameLen
  obtain ⟨_, _, hdata, hdata'⟩ := exists_pair header.byteOrder header.dataLen
  rw [SetupHeader.bytes, hmajor, hminor, hname, hdata]
  exact ⟨hmajor', hminor', hname', hdata'⟩

/-- Twelve bytes with a marker in front are a header. -/
theorem eq_header (hlen : 12 ≤ stream.length)
    (horder : parseByteOrder (stream.headD 0) = .ok order) :
    ∃ header : SetupHeader, stream = header.bytes ++ stream.drop 12 := by
  match stream, hlen with
  | marker :: unused :: a :: b :: c :: d :: e :: f :: g :: h :: i :: j :: tail, _ =>
    obtain rfl : marker = order.marker := parseByteOrder_eq_ok.mp horder
    refine ⟨⟨order, unused, order.u16 [a, b], order.u16 [c, d], order.u16 [e, f], order.u16 [g, h],
      (i, j)⟩, ?_⟩
    simp only [SetupHeader.bytes, pushU16_u16]
    rfl

end Headers

theorem validateAuthLen_eq_ok {field : String} {len : ℕ} {u : Unit} :
    validateAuthLen field len = .ok u ↔ len ≤ setupMaxAuthFieldLen := by
  unfold validateAuthLen
  split
  · rename_i hlt
    exact iff_of_false (by simp) (Nat.not_le_of_lt hlt)
  · rename_i hle
    exact iff_of_true rfl (Nat.le_of_not_lt hle)

section Reading

variable {header : SetupHeader} {total : ℕ}

theorem parseByteOrder_header : parseByteOrder header.byteOrder.marker = .ok header.byteOrder :=
  parseByteOrder_eq_ok.mpr rfl

theorem setupRequestTotalLen_header : setupRequestTotalLen (header.bytes ++ tail) = .ok total ↔
    header.Allowed ∧ 12 + header.tailLen = total := by
  obtain ⟨-, -, hname, hdata⟩ := u16At_header tail header
  have hlen : ¬(header.bytes ++ tail).length < 12 := by
    rw [List.length_append, length_header]
    omega
  simp only [setupRequestTotalLen, Fallible.throw_if_eq_ok, hlen, headD_header,
    parseByteOrder_header, Fallible.bind_eq_ok, Except.ok.injEq, exists_eq_left', hname, hdata,
    validateAuthLen_eq_ok, Fallible.pure_eq_ok, not_false_eq_true, true_and, SetupHeader.Allowed,
    exists_const, and_assoc, SetupHeader.tailLen, Nat.add_assoc]

theorem parseSetupRequest_header (hallowed : header.Allowed)
    (htail : tail.length = header.tailLen) :
    parseSetupRequest (header.bytes ++ tail) =
      if header.majorVersion = 11 then .ok (header.requested tail)
      else .error (.unsupportedMajorVersion header.majorVersion) := by
  obtain ⟨hmajor, hminor, hname, hdata⟩ := u16At_header tail header
  have hlen : (header.bytes ++ tail).length =
      12 + paddedLen header.nameLen.toNat + paddedLen header.dataLen.toNat := by
    rw [List.length_append, length_header, htail, SetupHeader.tailLen, Nat.add_assoc]
  have hdrop (n : ℕ) : (header.bytes ++ tail).drop (12 + n) = tail.drop n := by
    rw [← length_header header, List.drop_length_add_append]
  have hshort : ¬(header.bytes ++ tail).length < 12 := by omega
  split
  · rename_i hversion
    have hname' : (header.bytes ++ tail).drop 12 = tail := hdrop 0
    simp only [parseSetupRequest, Fallible.throw_if_eq_ok, headD_header, parseByteOrder_header,
      hmajor, hminor, hname, hdata, Fallible.bind_eq_ok, Except.ok.injEq, exists_eq_left',
      validateAuthLen_eq_ok, exists_const, Fallible.pure_eq_ok]
    exact ⟨hshort, not_not.mpr hversion, hallowed.1, hallowed.2, hlen.not_lt, hlen.not_gt,
      by rw [hname', hdrop]; rfl⟩
  · rename_i hversion
    simp only [parseSetupRequest, if_neg hshort, headD_header, parseByteOrder_header, hmajor,
      bind, Except.bind]
    exact if_pos hversion

theorem readSetupRequest_header (hallowed : header.Allowed) :
    readSetupRequest (header.bytes ++ tail) =
      if tail.length < header.tailLen then .error .closed
      else if header.majorVersion = 11 then
        .ok (header.requested (tail.take header.tailLen), tail.drop header.tailLen)
      else .error (.invalidRequest (.unsupportedMajorVersion header.majorVersion)) := by
  have hlen : (header.bytes ++ tail).length = 12 + tail.length := by
    rw [List.length_append, length_header]
  have hshort : ¬12 + tail.length < 12 := by omega
  have hfront : (header.bytes ++ tail).take 12 = header.bytes ++ [] := by
    rw [List.append_nil, List.take_left' (length_header header)]
  have htotal : setupRequestTotalLen (header.bytes ++ []) = .ok (12 + header.tailLen) :=
    setupRequestTotalLen_header.mpr ⟨hallowed, rfl⟩
  have htake : (header.bytes ++ tail).take (12 + header.tailLen) =
      header.bytes ++ tail.take header.tailLen := by
    rw [← length_header header, List.take_length_add_append]
  have hdrop : (header.bytes ++ tail).drop (12 + header.tailLen) = tail.drop header.tailLen := by
    rw [← length_header header, List.drop_length_add_append]
  simp only [readSetupRequest, hlen, if_neg hshort, hfront, htotal, bind, Except.bind,
    Except.mapError, Nat.add_lt_add_iff_left, htake, hdrop]
  split
  · rfl
  · rename_i hle
    rw [parseSetupRequest_header hallowed (List.length_take_of_le (Nat.le_of_not_lt hle))]
    by_cases hversion : header.majorVersion = 11
    · simp only [if_pos hversion]
      rfl
    · simp only [if_neg hversion]

/-- A stream is turned down on its first twelve bytes, unless they are an allowed header. -/
theorem readSetupRequest_cases (stream : List UInt8) :
    (∃ header : SetupHeader, header.Allowed ∧ stream = header.bytes ++ stream.drop 12) ∨
      ∃ error, readSetupRequest stream = .error error ∧ ∀ wrong, error ≠ .invalidRequest wrong := by
  by_cases hshort : stream.length < 12
  · refine .inr ⟨.closed, ?_, nofun⟩
    simp only [readSetupRequest, if_pos hshort]
    rfl
  cases htotal : setupRequestTotalLen (stream.take 12) with
  | error error =>
    refine .inr ⟨.invalidPrefix error, ?_, nofun⟩
    simp only [readSetupRequest, if_neg hshort, htotal]
    rfl
  | ok total =>
    have hfront : 12 ≤ (stream.take 12).length := by
      rw [List.length_take_of_le (Nat.le_of_not_lt hshort)]
    have hmarker := htotal
    simp only [setupRequestTotalLen, Fallible.throw_if_eq_ok, Fallible.bind_eq_ok] at hmarker
    obtain ⟨-, order, horder, -⟩ := hmarker
    obtain ⟨header, hheader⟩ := eq_header hfront horder
    rw [hheader] at htotal
    refine .inl ⟨header, (setupRequestTotalLen_header.mp htotal).1, ?_⟩
    have hnone : (stream.take 12).drop 12 = [] := List.drop_take_self
    rw [hnone, List.append_nil] at hheader
    rw [← hheader, List.take_append_drop]

theorem toNat_ofNat_length {bytes : List UInt8} (h : bytes.length ≤ setupMaxAuthFieldLen) :
    (UInt16.ofNat bytes.length).toNat = bytes.length := by
  have hlt : bytes.length < UInt16.size := Nat.lt_of_le_of_lt h (by decide)
  exact UInt16.toNat_ofNat_of_lt' hlt

theorem XSetupRequest.Acceptable.allowed (h : request.Acceptable) (filler : SetupFiller) :
    (request.header filler).Allowed :=
  ⟨(toNat_ofNat_length h.name).trans_le h.name, (toNat_ofNat_length h.data).trans_le h.data⟩

/-- A request that is sent is read back. -/
theorem readSetupRequest_bytes {filler : SetupFiller} (h : request.Acceptable)
    (hpadded : request.Padded filler) :
    readSetupRequest (request.bytes filler ++ rest) = .ok (request, rest) := by
  have hname : (request.header filler).nameLen.toNat = _ := toNat_ofNat_length h.name
  have hdata : (request.header filler).dataLen.toNat = _ := toNat_ofNat_length h.data
  have hfront : (request.authorizationProtocolName ++ filler.namePad).length =
      paddedLen request.authorizationProtocolName.length := by
    rw [List.length_append, hpadded.name]
  have htail : (request.authorizationProtocolName ++ filler.namePad ++
      (request.authorizationData ++ filler.dataPad)).length =
        (request.header filler).tailLen := by
    rw [List.length_append, hfront, List.length_append, hpadded.data, SetupHeader.tailLen, hname,
      hdata]
  have hrequested : (request.header filler).requested (request.authorizationProtocolName ++
      filler.namePad ++ (request.authorizationData ++ filler.dataPad)) = request := by
    rw [SetupHeader.requested, hname, hdata, List.drop_left' hfront, List.take_left,
      List.append_assoc, List.take_left]
    rfl
  rw [XSetupRequest.bytes, List.append_assoc, readSetupRequest_header (h.allowed filler),
    if_neg (by rw [List.length_append, htail]; omega), List.take_left' htail,
    List.drop_left' htail, hrequested]
  exact if_pos h.major

/-- The filler of a request that was read. -/
def SetupHeader.filler (header : SetupHeader) (tail : List UInt8) : SetupFiller where
  unused := header.unused
  ending := header.ending
  namePad := (tail.take (paddedLen header.nameLen.toNat)).drop header.nameLen.toNat
  dataPad := (tail.drop (paddedLen header.nameLen.toNat)).drop header.dataLen.toNat

/-- A request that is read was sent. -/
theorem bytes_requested (htail : tail.length = header.tailLen) :
    (header.requested tail).Padded (header.filler tail) ∧
      (header.requested tail).bytes (header.filler tail) = header.bytes ++ tail := by
  have hle := le_paddedLen header.nameLen.toNat
  have hle' := le_paddedLen header.dataLen.toNat
  have hname : (tail.take header.nameLen.toNat).length = header.nameLen.toNat := by
    rw [List.length_take, htail, SetupHeader.tailLen]
    omega
  have hdata : ((tail.drop (paddedLen header.nameLen.toNat)).take header.dataLen.toNat).length =
      header.dataLen.toNat := by
    rw [List.length_take, List.length_drop, htail, SetupHeader.tailLen]
    omega
  have hheader : (header.requested tail).header (header.filler tail) = header := by
    simp only [XSetupRequest.header, SetupHeader.requested, SetupHeader.filler, hname, hdata,
      UInt16.ofNat_toNat]
  have hnamePart : tail.take header.nameLen.toNat ++
      (tail.take (paddedLen header.nameLen.toNat)).drop header.nameLen.toNat =
        tail.take (paddedLen header.nameLen.toNat) := by
    have htake : tail.take header.nameLen.toNat =
        (tail.take (paddedLen header.nameLen.toNat)).take header.nameLen.toNat := by
      rw [List.take_take, Nat.min_eq_left hle]
    rw [htake, List.take_append_drop]
  constructor
  · constructor
    · simp only [SetupHeader.requested, SetupHeader.filler, hname, List.length_drop,
        List.length_take, htail, SetupHeader.tailLen]
      omega
    · simp only [SetupHeader.requested, SetupHeader.filler, hdata, List.length_drop, htail,
        SetupHeader.tailLen]
      omega
  · rw [XSetupRequest.bytes, hheader]
    simp only [SetupHeader.requested, SetupHeader.filler, List.take_append_drop, hnamePart]

theorem readSetupRequest_eq_ok : readSetupRequest stream = .ok (request, rest) ↔
    request.Acceptable ∧ ∃ filler, request.Padded filler ∧
      stream = request.bytes filler ++ rest := by
  constructor
  · intro h
    rcases readSetupRequest_cases stream with ⟨header, hallowed, hstream⟩ | ⟨error, herror, -⟩
    · rw [hstream, readSetupRequest_header hallowed] at h
      split_ifs at h with hshort hversion
      cases h
      obtain ⟨hpadded, hbytes⟩ := bytes_requested (List.length_take_of_le (Nat.le_of_not_lt hshort))
      refine ⟨⟨hversion, ?_, ?_⟩, _, hpadded, ?_⟩
      · exact Nat.le_trans (List.length_take_le ..) hallowed.1
      · exact Nat.le_trans (List.length_take_le ..) hallowed.2
      · rw [hbytes, List.append_assoc, List.take_append_drop]
        exact hstream
    · cases herror.symm.trans h
  · rintro ⟨hacceptable, filler, hpadded, rfl⟩
    exact readSetupRequest_bytes hacceptable hpadded

end Reading

end Requests

/-- A request carries what the listener asks for. -/
def XServerFrontendSetupAuthorization.Grants (authorization : XServerFrontendSetupAuthorization)
    (request : XSetupRequest) : Prop :=
  match authorization with
  | .unauthenticatedLocal => True
  | .mitMagicCookie cookie => request.authorizationProtocolName = magicCookieName ∧
    request.authorizationData = cookie.toList

section Authorization

variable {authorization : XServerFrontendSetupAuthorization} {request : XSetupRequest}

/-- The difference that is gathered is none exactly when no pair differs. -/
theorem foldl_difference_eq_zero {pairs : List (UInt8 × UInt8)} {difference : UInt8} :
    pairs.foldl (fun difference pair => difference ||| (pair.1 ^^^ pair.2)) difference = 0 ↔
      difference = 0 ∧ ∀ pair ∈ pairs, pair.1 = pair.2 := by
  induction pairs generalizing difference with
  | nil => simp
  | cons pair pairs ih =>
    rw [List.foldl_cons, ih, UInt8.or_eq_zero_iff, UInt8.xor_eq_zero_iff, List.forall_mem_cons,
      and_assoc]

theorem authorizationDataEq_iff {actual expected : List UInt8} :
    authorizationDataEq actual expected = true ↔ actual = expected := by
  have hpairs : actual = expected ↔ actual.length = expected.length ∧
      ∀ pair ∈ actual.zip expected, pair.1 = pair.2 := by
    rw [← List.forall₂_eq_eq_eq, List.forall₂_iff_zip, Prod.forall]
  rw [authorizationDataEq, Bool.and_eq_true, beq_iff_eq, beq_iff_eq, hpairs]
  exact and_congr_right fun _ => foldl_difference_eq_zero.trans (and_iff_right rfl)

theorem permits_iff : authorization.permits request = true ↔ authorization.Grants request := by
  cases authorization with
  | unauthenticatedLocal => exact iff_of_true rfl trivial
  | mitMagicCookie cookie =>
    simp only [XServerFrontendSetupAuthorization.permits,
      XServerFrontendSetupAuthorization.Grants, Bool.and_eq_true, beq_iff_eq,
      authorizationDataEq_iff]

end Authorization

/-- A client is let in exactly when its stream begins with a request of this protocol version that
carries what the listener asks for: every field is what was sent, and what follows the request is
left on the stream. A request is found wrong after its header for its version alone. -/
theorem setup_request_exact (authorization : XServerFrontendSetupAuthorization)
    (stream : List UInt8) :
    (∀ request rest, readSetupRequest stream = .ok (request, rest) ∧
      authorization.permits request = true ↔
        (request.Acceptable ∧ authorization.Grants request) ∧ ∃ filler, request.Padded filler ∧
          stream = request.bytes filler ++ rest) ∧
      ∀ error, readSetupRequest stream = .error (.invalidRequest error) →
        ∃ version, version ≠ 11 ∧ error = .unsupportedMajorVersion version := by
  refine ⟨fun request rest => ?_, fun error h => ?_⟩
  · rw [readSetupRequest_eq_ok, permits_iff]
    exact and_right_comm
  · rcases readSetupRequest_cases stream with ⟨header, hallowed, hstream⟩ | ⟨error, herror, hne⟩
    · rw [hstream, readSetupRequest_header hallowed] at h
      split_ifs at h with hshort hversion
      · cases h
      · cases h
        exact ⟨_, hversion, rfl⟩
    · cases herror.symm.trans h
      exact absurd rfl (hne _)

end Sophia.Frontend
