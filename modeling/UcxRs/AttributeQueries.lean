import UcxRs.Listener
import UcxRs.MemoryHandles

/-!
# Attribute queries

A query sends a zeroed block whose mask selects some fields, UCX writes these
fields, and the wrapper reads them back.  What was not selected is presented as
absent.  Names come back as C strings and socket addresses as C storage; both
are converted on the way out.
-/

namespace UcxRs

/-- `contains` of a set of bit flags. -/
def containsFlags (mask field : BitVec 64) : Bool :=
  mask &&& field == field

/-- What is still missing of an encoded character: how many bytes, the range of
the next one, and the value so far. -/
structure Utf8Pending where
  needed : Nat
  low : Nat
  high : Nat
  code : Nat
  deriving DecidableEq, Repr

/-- What a byte can begin. -/
inductive Utf8Start where
  | character (char : Char)
  | pending (pending : Utf8Pending)
  | invalid
  deriving DecidableEq, Repr

def utf8Start (byte : BitVec 8) : Utf8Start :=
  let value := byte.toNat
  if value < 0x80 then .character (.ofNat value)
  else if value < 0xC2 then .invalid
  else if value < 0xE0 then .pending ⟨1, 0x80, 0xBF, value - 0xC0⟩
  else if value = 0xE0 then .pending ⟨2, 0xA0, 0xBF, 0⟩
  else if value = 0xED then .pending ⟨2, 0x80, 0x9F, 0xD⟩
  else if value < 0xF0 then .pending ⟨2, 0x80, 0xBF, value - 0xE0⟩
  else if value = 0xF0 then .pending ⟨3, 0x90, 0xBF, 0⟩
  else if value < 0xF4 then .pending ⟨3, 0x80, 0xBF, value - 0xF0⟩
  else if value = 0xF4 then .pending ⟨3, 0x80, 0x8F, 4⟩
  else .invalid

def replacementCharacter : Char :=
  .ofNat 0xFFFD

/-- Decode bytes after an incomplete character.  A sequence that cannot be
completed becomes one replacement character, and the byte that broke it begins
anew. -/
def utf8LossyFrom : Option Utf8Pending → List (BitVec 8) → List Char
  | none, [] => []
  | some _, [] => [replacementCharacter]
  | none, byte :: bytes =>
      match utf8Start byte with
      | .character char => char :: utf8LossyFrom none bytes
      | .pending pending => utf8LossyFrom (some pending) bytes
      | .invalid => replacementCharacter :: utf8LossyFrom none bytes
  | some pending, byte :: bytes =>
      if pending.low ≤ byte.toNat ∧ byte.toNat ≤ pending.high then
        let code := pending.code * 64 + (byte.toNat - 0x80)
        if pending.needed = 1 then .ofNat code :: utf8LossyFrom none bytes
        else utf8LossyFrom (some ⟨pending.needed - 1, 0x80, 0xBF, code⟩) bytes
      else
        replacementCharacter ::
          match utf8Start byte with
          | .character char => char :: utf8LossyFrom none bytes
          | .pending pending => utf8LossyFrom (some pending) bytes
          | .invalid => replacementCharacter :: utf8LossyFrom none bytes

/-- `CStr::from_ptr(…).to_string_lossy().into_owned()` on a zero-terminated
array. -/
def cStringLossy {size : Nat} (array : Vector (BitVec 8) size) : String :=
  .ofList (utf8LossyFrom none (array.toList.takeWhile (· ≠ 0)))

-- the two bytes 0xE2 0x82 begin a character that `b` does not continue
example : utf8LossyFrom none [0x61, 0xE2, 0x82, 0x62, 0xC3, 0xA9] =
    [.ofNat 0x61, replacementCharacter, .ofNat 0x62, .ofNat 0xE9] := by
  decide

/-- The UTF-8 encoding of some characters. -/
def utf8Bytes (chars : List Char) : List (BitVec 8) :=
  chars.flatMap fun char => (String.utf8EncodeChar char).map UInt8.toBitVec

theorem utf8LossyFrom_pending {byte : BitVec 8} {pending : Utf8Pending}
    (begins : utf8Start byte = .pending pending) (bytes : List (BitVec 8)) :
    utf8LossyFrom none (byte :: bytes) = utf8LossyFrom (some pending) bytes := by
  rw [utf8LossyFrom, begins]

/-- A byte in range that is not the last one of its character. -/
theorem utf8LossyFrom_continues {needed low high code value : Nat} {byte : BitVec 8}
    (isValue : byte.toNat = value + 128) (inRange : low ≤ value + 128 ∧ value + 128 ≤ high)
    (bytes : List (BitVec 8)) :
    utf8LossyFrom (some ⟨needed + 2, low, high, code⟩) (byte :: bytes) =
      utf8LossyFrom (some ⟨needed + 1, 0x80, 0xBF, code * 64 + value⟩) bytes := by
  rw [utf8LossyFrom, isValue, if_pos inRange]
  simp

theorem utf8LossyFrom_completes {low high code value : Nat} {byte : BitVec 8}
    (isValue : byte.toNat = value + 128) (inRange : low ≤ value + 128 ∧ value + 128 ≤ high)
    (bytes : List (BitVec 8)) :
    utf8LossyFrom (some ⟨1, low, high, code⟩) (byte :: bytes) =
      .ofNat (code * 64 + value) :: utf8LossyFrom none bytes := by
  rw [utf8LossyFrom, isValue, if_pos inRange]
  simp

theorem utf8Start_two {byte : BitVec 8} {value : Nat} (isValue : byte.toNat = value + 0xC0)
    (small : 2 ≤ value ∧ value < 32) :
    utf8Start byte = .pending ⟨1, 0x80, 0xBF, value⟩ := by
  unfold utf8Start
  rw [isValue]
  grind

/-- The range of the second byte leaves out surrogates, and what fits into two bytes. -/
theorem utf8Start_three {byte : BitVec 8} {value : Nat} (isValue : byte.toNat = value + 0xE0)
    (small : value < 16) :
    utf8Start byte = .pending ⟨2, if value = 0 then 0xA0 else 0x80,
      if value = 13 then 0x9F else 0xBF, value⟩ := by
  unfold utf8Start
  rw [isValue]
  grind

theorem utf8Start_four {byte : BitVec 8} {value : Nat} (isValue : byte.toNat = value + 0xF0)
    (small : value < 5) :
    utf8Start byte = .pending ⟨3, if value = 0 then 0x90 else 0x80,
      if value = 4 then 0x8F else 0xBF, value⟩ := by
  unfold utf8Start
  rw [isValue]
  grind

theorem toNat_ofNat_toBitVec {value : Nat} (small : value < 256) :
    (UInt8.ofNat value).toBitVec.toNat = value := by
  rw [UInt8.toNat_toBitVec, UInt8.toNat_ofNat']
  exact Nat.mod_eq_of_lt small

/-- A well-formed character is decoded to itself. -/
theorem utf8LossyFrom_encode (char : Char) (bytes : List (BitVec 8)) :
    utf8LossyFrom none ((String.utf8EncodeChar char).map UInt8.toBitVec ++ bytes) =
      char :: utf8LossyFrom none bytes := by
  have valid : char.val.toNat < 0xD800 ∨ 0xDFFF < char.val.toNat ∧ char.val.toNat < 0x110000 :=
    char.valid
  have isChar : Char.ofNat char.val.toNat = char := Char.ofNat_toNat char
  unfold String.utf8EncodeChar
  generalize char.val.toNat = value at valid isChar
  dsimp only
  split_ifs with one two three
  · have start : utf8Start (UInt8.ofNat value).toBitVec = .character char := by
      unfold utf8Start
      rw [toNat_ofNat_toBitVec (by omega), if_pos (by omega), isChar]
    rw [List.map_singleton, List.singleton_append, utf8LossyFrom, start]
  · have start := @utf8Start_two (UInt8.ofNat (value / 64 % 32 + 192)).toBitVec (value / 64)
      (by rw [toNat_ofNat_toBitVec (by omega)]; omega) (by omega)
    simp only [List.map_cons, List.map_nil, List.cons_append, List.nil_append]
    rw [utf8LossyFrom_pending start,
      utf8LossyFrom_completes (toNat_ofNat_toBitVec (by omega)) (by omega),
      show value / 64 * 64 + value % 64 = value by omega, isChar]
  · have start := @utf8Start_three (UInt8.ofNat (value / 4096 % 16 + 224)).toBitVec (value / 4096)
      (by rw [toNat_ofNat_toBitVec (by omega)]; omega) (by omega)
    simp only [List.map_cons, List.map_nil, List.cons_append, List.nil_append]
    rw [utf8LossyFrom_pending start,
      utf8LossyFrom_continues (toNat_ofNat_toBitVec (by omega)) (by split_ifs <;> omega),
      utf8LossyFrom_completes (toNat_ofNat_toBitVec (by omega)) (by omega),
      show (value / 4096 * 64 + value / 64 % 64) * 64 + value % 64 = value by omega, isChar]
  · have start := @utf8Start_four (UInt8.ofNat (value / 262144 % 8 + 240)).toBitVec
      (value / 262144) (by rw [toNat_ofNat_toBitVec (by omega)]; omega) (by omega)
    simp only [List.map_cons, List.map_nil, List.cons_append, List.nil_append]
    rw [utf8LossyFrom_pending start,
      utf8LossyFrom_continues (toNat_ofNat_toBitVec (by omega)) (by split_ifs <;> omega),
      utf8LossyFrom_continues (toNat_ofNat_toBitVec (by omega)) (by omega),
      utf8LossyFrom_completes (toNat_ofNat_toBitVec (by omega)) (by omega),
      show ((value / 262144 * 64 + value / 4096 % 64) * 64 + value / 64 % 64) * 64 + value % 64 =
        value by omega, isChar]

theorem utf8LossyFrom_utf8Bytes (chars : List Char) :
    utf8LossyFrom none (utf8Bytes chars) = chars := by
  induction chars with
  | nil => rfl
  | cons char chars ih =>
      refine (utf8LossyFrom_encode char (utf8Bytes chars)).trans ?_
      rw [ih]

/-- The array holds the name, up to a zero. -/
def HoldsName {size : Nat} (array : Vector (BitVec 8) size) (name : String) : Prop :=
  array.toList.takeWhile (· ≠ 0) = utf8Bytes name.toList

theorem HoldsName.cStringLossy_eq {size : Nat} {array : Vector (BitVec 8) size} {name : String}
    (encoded : HoldsName array name) : cStringLossy array = name := by
  unfold HoldsName at encoded
  rw [cStringLossy, encoded, utf8LossyFrom_utf8Bytes, String.ofList_toList]

/-- `std::net::SocketAddr`, with the octets in network order. -/
inductive SocketAddr where
  | v4 (ip : List (BitVec 8)) (port : BitVec 16)
  | v6 (ip : List (BitVec 8)) (port : BitVec 16) (flowinfo scopeId : BitVec 32)
  deriving DecidableEq, Repr

/-- `std::net::IpAddr`. -/
inductive IpAddr where
  | v4 (octets : List (BitVec 8))
  | v6 (octets : List (BitVec 8))
  deriving DecidableEq, Repr

/-- `SocketAddr::new`. -/
def SocketAddr.new : IpAddr → BitVec 16 → SocketAddr
  | .v4 octets, port => .v4 octets port
  | .v6 octets, port => .v6 octets port 0 0

/-- `libc::AF_INET` and `libc::AF_INET6`. -/
def afInet : BitVec 16 := 2
def afInet6 : BitVec 16 := 10

namespace SockaddrStorage

/-- A byte at its offset in the storage, past the two bytes of the family. -/
def byteAt (storage : SockaddrStorage) (offset : Nat) : BitVec 8 :=
  storage.data.toList.getD (offset - 2) 0

def bytesAt (storage : SockaddrStorage) (offset count : Nat) : List (BitVec 8) :=
  (storage.data.toList.drop (offset - 2)).take count

/-- `sin_port` and `sin6_port`, in host order. -/
def port (storage : SockaddrStorage) : BitVec 16 :=
  storage.byteAt 2 ++ storage.byteAt 3

end SockaddrStorage

/-- `from_storage`. -/
def fromStorage (storage : SockaddrStorage) : Option SocketAddr :=
  if storage.ssFamily = afInet then
    some (.new (.v4 (storage.bytesAt 4 4)) storage.port)
  else if storage.ssFamily = afInet6 then
    some (.new (.v6 (storage.bytesAt 8 16)) storage.port)
  else none

namespace WorkerAttrFields

def threadMode : BitVec 64 := 1
def address : BitVec 64 := 2
def addressFlags : BitVec 64 := 4
def maxAmHeader : BitVec 64 := 8
def name : BitVec 64 := 16
def maxInfoString : BitVec 64 := 32

end WorkerAttrFields

structure WorkerAddressAttr where
  address : AddressPointer
  length : Nat
  deriving DecidableEq, Repr

structure WorkerAttr where
  threadMode : Option ThreadMode
  address : Option WorkerAddressAttr
  addressFlags : Option (BitVec 32)
  maxAmHeader : Option Nat
  name : Option String
  maxInfoString : Option Nat
  deriving DecidableEq, Repr

/-- `then_some` on the bit of a field. -/
def whenSelected {Value : Type} (mask field : BitVec 64) (value : Value) : Option Value :=
  if containsFlags mask field then some value else none

/-- What `Worker::query` reads from the block that UCX has filled. -/
def WorkerAttr.ofFfi (mask : BitVec 64) (attr : UcpWorkerAttr) : WorkerAttr where
  threadMode := whenSelected mask WorkerAttrFields.threadMode (.fromFfi attr.threadMode)
  address := whenSelected mask WorkerAttrFields.address ⟨attr.address, attr.addressLength⟩
  addressFlags := whenSelected mask WorkerAttrFields.addressFlags attr.addressFlags
  maxAmHeader := whenSelected mask WorkerAttrFields.maxAmHeader attr.maxAmHeader
  name := whenSelected mask WorkerAttrFields.name (cStringLossy attr.name)
  maxInfoString := whenSelected mask WorkerAttrFields.maxInfoString attr.maxDebugString

def Worker.query (worker : Worker) (mask : BitVec 64) : Ffi (Except Status WorkerAttr) := do
  let (status, attr) ←
    perform (.ucpWorkerQuery worker.handle { UcpWorkerAttr.zeroed with fieldMask := mask })
  pure ((statusToResult status).map fun _ => .ofFfi mask attr)

namespace EpAttrFields

def name : BitVec 64 := 1
def localSockaddr : BitVec 64 := 2
def remoteSockaddr : BitVec 64 := 4
def transports : BitVec 64 := 8
def userData : BitVec 64 := 16

end EpAttrFields

structure SockAddrStorage where
  storage : SockaddrStorage
  deriving DecidableEq, Repr

structure Transports where
  transports : UcpTransports
  deriving DecidableEq, Repr

structure EpAttr where
  name : String
  localSockaddr : Option SockAddrStorage
  remoteSockaddr : Option SockAddrStorage
  transports : Option Transports
  userData : Option Word
  deriving DecidableEq, Repr

/-- What `Ep::query` reads from the block that UCX has filled. -/
def EpAttr.ofFfi (mask : BitVec 64) (attr : UcpEpAttr) : EpAttr where
  name := if containsFlags mask EpAttrFields.name then cStringLossy attr.name else ""
  localSockaddr := whenSelected mask EpAttrFields.localSockaddr ⟨attr.localSockaddr⟩
  remoteSockaddr := whenSelected mask EpAttrFields.remoteSockaddr ⟨attr.remoteSockaddr⟩
  transports := whenSelected mask EpAttrFields.transports ⟨attr.transports⟩
  userData := whenSelected mask EpAttrFields.userData attr.userData

def Ep.query (ep : Ep) (mask : BitVec 64) : Ffi (Except Status EpAttr) := do
  let (status, attr) ←
    perform (.ucpEpQuery ep.handle { UcpEpAttr.zeroed with fieldMask := mask })
  pure ((statusToResult status).map fun _ => .ofFfi mask attr)

/-- `UCP_LISTENER_ATTR_FIELD_SOCKADDR`. -/
def UcpListenerAttrField.sockaddr : BitVec 64 := 1

structure ListenerAttr where
  sockaddr : SockAddrStorage
  socketAddr : Option SocketAddr
  deriving DecidableEq, Repr

/-- `Listener::query` on a listener with this state. -/
def ListenerState.query (state : ListenerState) : Ffi (Except Status ListenerAttr) := do
  let (status, attr) ← perform (.ucpListenerQuery state.asRaw
    { UcpListenerAttr.zeroed with fieldMask := UcpListenerAttrField.sockaddr })
  pure ((statusToResult status).map fun _ => ⟨⟨attr.sockaddr⟩, fromStorage attr.sockaddr⟩)

namespace ConnRequestFields

def clientAddr : BitVec 64 := 1
def clientId : BitVec 64 := 2

end ConnRequestFields

structure ConnRequestAttr where
  clientAddress : Option SocketAddr
  clientId : Option (BitVec 64)
  deriving DecidableEq, Repr

/-- What `ConnRequest::query` reads from the block that UCX has filled. -/
def ConnRequestAttr.ofFfi (fields : BitVec 64) (attr : UcpConnRequestAttr) :
    ConnRequestAttr where
  clientAddress :=
    (whenSelected fields ConnRequestFields.clientAddr (fromStorage attr.clientAddress)).join
  clientId := whenSelected fields ConnRequestFields.clientId attr.clientId

def ConnRequest.query (request : ConnRequest) (fields : BitVec 64) :
    Ffi (Except Status ConnRequestAttr) := do
  let (status, attr) ← perform (.ucpConnRequestQuery request.handle
    { UcpConnRequestAttr.zeroed with fieldMask := fields })
  pure ((statusToResult status).map fun _ => .ofFfi fields attr)

end UcxRs
