import Mathlib.Data.List.GetD
import UcxRs.QueryReports
import UcxRs.RemoteKeyFraming

/-!
# Socket addresses in C memory

`ep::SockAddr` boxes a C socket address built from a standard one; the listener
reads standard addresses back out of a `sockaddr_storage`.  This file lays the
C structures out in memory, byte by byte, copies them into a storage and reads
them again.  The encoder keeps every component; the decoder goes through
`SocketAddr::new` and drops the flow info and the scope of an IPv6 address.
-/

namespace UcxRs

namespace SocketAddresses

open QueryReports (Unscoped fromStorage_faithful_iff socketAddrOf)

/-- `u16::to_be` on a little-endian machine. -/
def toBe16 (word : BitVec 16) : BitVec 16 :=
  word.extractLsb' 0 8 ++ word.extractLsb' 8 8

/-- `u32::to_be` on a little-endian machine. -/
def toBe32 (word : BitVec 32) : BitVec 32 :=
  word.extractLsb' 0 8 ++ word.extractLsb' 8 8 ++ word.extractLsb' 16 8 ++
    word.extractLsb' 24 8

/-- `u32::from_ne_bytes` on a little-endian machine. -/
def fromNeBytes (octets : List (BitVec 8)) : BitVec 32 :=
  octets.getD 3 0 ++ octets.getD 2 0 ++ octets.getD 1 0 ++ octets.getD 0 0

structure SockaddrIn where
  sinFamily : BitVec 16
  sinPort : BitVec 16
  sAddr : BitVec 32
  sinZero : List (BitVec 8)

structure SockaddrIn6 where
  sin6Family : BitVec 16
  sin6Port : BitVec 16
  sin6Flowinfo : BitVec 32
  s6Addr : List (BitVec 8)
  sin6ScopeId : BitVec 32

inductive SocketStorage where
  | v4 (sin : SockaddrIn)
  | v6 (sin6 : SockaddrIn6)

/-- `SocketStorage::len`: the sizes of the two structures. -/
def SocketStorage.len : SocketStorage → BitVec 32
  | .v4 _ => 16
  | .v6 _ => 28

/-- The bytes of the boxed structure. -/
def SocketStorage.bytes : SocketStorage → List (BitVec 8)
  | .v4 sin =>
      memoryBytes sin.sinFamily ++ memoryBytes sin.sinPort ++ memoryBytes sin.sAddr ++
        sin.sinZero
  | .v6 sin6 =>
      memoryBytes sin6.sin6Family ++ memoryBytes sin6.sin6Port ++
        memoryBytes sin6.sin6Flowinfo ++ sin6.s6Addr ++ memoryBytes sin6.sin6ScopeId

structure SockAddr where
  storage : SocketStorage

namespace SockAddr

def new : SocketAddr → SockAddr
  | .v4 ip port =>
      { storage := .v4 {
          sinFamily := afInet
          sinPort := toBe16 port
          sAddr := fromNeBytes ip
          sinZero := List.replicate 8 0 } }
  | .v6 ip port flowinfo scopeId =>
      { storage := .v6 {
          sin6Family := afInet6
          sin6Port := toBe16 port
          sin6Flowinfo := toBe32 flowinfo
          s6Addr := ip
          sin6ScopeId := scopeId } }

/-- `SockAddr::to_ffi`, given where the box is. -/
def toFfi (address : SockAddr) (boxAt : Word) : UcsSockAddr where
  addr := boxAt
  addrlen := address.storage.len

end SockAddr

/-- A standard address has four or sixteen octets. -/
def Sized : SocketAddr → Prop
  | .v4 ip _ => ip.length = 4
  | .v6 ip _ _ _ => ip.length = 16

abbrev StdSocketAddr := { address : SocketAddr // Sized address }

def storageBytes (storage : SockaddrStorage) : List (BitVec 8) :=
  memoryBytes storage.ssFamily ++ storage.data.toList

def ofBytes (bytes : List (BitVec 8)) : SockaddrStorage where
  ssFamily := bytes.getD 1 0 ++ bytes.getD 0 0
  data := Vector.ofFn fun index => bytes.getD (index.val + 2) 0

/-- `copy_nonoverlapping` of the first bytes of a storage. -/
def copyInto (storage : SockaddrStorage) (source : List (BitVec 8)) (count : Nat) :
    SockaddrStorage :=
  ofBytes (source.take count ++ (storageBytes storage).drop count)

/-- A zeroed storage into which the `addrlen` bytes of an address were copied. -/
def copied (address : SockAddr) : SockaddrStorage :=
  copyInto .zeroed address.storage.bytes (address.toFfi 0).addrlen.toNat

@[simp]
theorem length_memoryBytes {width : Nat} (word : BitVec width) :
    (memoryBytes word).length = width / 8 := by
  simp [memoryBytes]

theorem memoryBytes_join (high low : BitVec 8) :
    memoryBytes (high ++ low : BitVec 16) = [low, high] := by
  change [(high ++ low).extractLsb' 0 8, (high ++ low).extractLsb' 8 8] = _
  rw [BitVec.extractLsb'_append_eq_left, BitVec.extractLsb'_append_eq_right]

theorem join_bytes (word : BitVec 16) :
    word.extractLsb' 8 8 ++ word.extractLsb' 0 8 = word :=
  BitVec.extractLsb'_append_extractLsb'

/-- A word is what its bytes in memory say. -/
theorem word_of_memoryBytes (word : BitVec 32) :
    (memoryBytes word).getD 3 0 ++ (memoryBytes word).getD 2 0 ++
      (memoryBytes word).getD 1 0 ++ (memoryBytes word).getD 0 0 = word :=
  u32FromLeBytes_extract word

/-- In network order the first byte is the most significant one. -/
theorem word_of_networkBytes (word : BitVec 32) :
    (memoryBytes (toBe32 word)).getD 0 0 ++ (memoryBytes (toBe32 word)).getD 1 0 ++
      (memoryBytes (toBe32 word)).getD 2 0 ++ (memoryBytes (toBe32 word)).getD 3 0 = word := by
  have reversed : memoryBytes (toBe32 word) = [word.extractLsb' 24 8, word.extractLsb' 16 8,
      word.extractLsb' 8 8, word.extractLsb' 0 8] :=
    memoryBytes_u32FromLeBytes _ _ _ _
  rw [reversed]
  exact u32FromLeBytes_extract word

/-- The octets of an IPv4 address are in memory as they were given. -/
theorem memoryBytes_fromNeBytes {octets : List (BitVec 8)} (four : octets.length = 4) :
    memoryBytes (fromNeBytes octets) = octets := by
  obtain ⟨first, second, third, fourth, rfl⟩ := length_eq_four four
  exact memoryBytes_u32FromLeBytes first second third fourth

section Reading

variable {bytes rest : List (BitVec 8)} {offset count : Nat}

theorem byteAt_ofBytes (past : 2 ≤ offset) (inside : offset < 128) :
    (ofBytes bytes).byteAt offset = bytes.getD offset 0 := by
  unfold SockaddrStorage.byteAt ofBytes
  have place : offset - 2 < (List.ofFn fun index : Fin 126 =>
      bytes.getD (index.val + 2) 0).length := by
    rw [List.length_ofFn]
    omega
  rw [Vector.toList_ofFn, List.getD_eq_getElem _ _ place, List.getElem_ofFn]
  exact congrArg (bytes.getD · 0) (Nat.sub_add_cancel past)

theorem data_ofBytes (full : bytes.length = 128) :
    (ofBytes bytes).data.toList = bytes.drop 2 := by
  refine List.ext_getElem (by simp [ofBytes, full]) fun index inLeft inRight => ?_
  have inside : index + 2 < bytes.length := by
    rw [List.length_drop] at inRight
    omega
  simp [ofBytes, Nat.add_comm 2, inside]

theorem bytesAt_ofBytes (full : bytes.length = 128) (past : 2 ≤ offset) :
    (ofBytes bytes).bytesAt offset count = (bytes.drop offset).take count := by
  unfold SockaddrStorage.bytesAt
  rw [data_ofBytes full, List.drop_drop, Nat.add_sub_cancel' past]

/-- Both address structures begin with the family and the port. -/
def addressBytes (family port : BitVec 16) (rest : List (BitVec 8)) : List (BitVec 8) :=
  memoryBytes family ++ memoryBytes (toBe16 port) ++ rest

variable {family port : BitVec 16}

theorem length_addressBytes : (addressBytes family port rest).length = rest.length + 4 := by
  simp only [addressBytes, List.length_append, length_memoryBytes]
  omega

theorem ssFamily_addressBytes : (ofBytes (addressBytes family port rest)).ssFamily = family :=
  join_bytes family

theorem port_addressBytes : (ofBytes (addressBytes family port rest)).port = port := by
  unfold SockaddrStorage.port addressBytes
  rw [byteAt_ofBytes (by decide) (by decide), byteAt_ofBytes (by decide) (by decide), toBe16,
    memoryBytes_join]
  exact join_bytes port

theorem byteAt_addressBytes (inside : offset < 124) :
    (ofBytes (addressBytes family port rest)).byteAt (offset + 4) = rest.getD offset 0 := by
  rw [byteAt_ofBytes (by omega) (by omega)]
  rfl

theorem bytesAt_addressBytes (full : rest.length = 124) :
    (ofBytes (addressBytes family port rest)).bytesAt (offset + 4) count =
      (rest.drop offset).take count := by
  rw [bytesAt_ofBytes (length_addressBytes.trans (congrArg (· + 4) full)) (by omega)]
  rfl

end Reading

/-- What the storage holds of an IPv4 address. -/
theorem socketAddrOf_v4 {ip rest : List (BitVec 8)} (four : ip.length = 4)
    (full : rest.length = 120) (port : BitVec 16) :
    socketAddrOf (ofBytes (addressBytes afInet port (ip ++ rest))) = some (.v4 ip port) := by
  have whole : (ip ++ rest).length = 124 := by
    rw [List.length_append, four, full]
  have octets : (ofBytes (addressBytes afInet port (ip ++ rest))).bytesAt 4 4 = ip :=
    (bytesAt_addressBytes whole).trans (List.take_left' four)
  unfold socketAddrOf
  rw [if_pos ssFamily_addressBytes, octets, port_addressBytes]

/-- The bytes after the port of an IPv6 address. -/
def bytes6 (ip : List (BitVec 8)) (flowinfo scopeId : BitVec 32) (rest : List (BitVec 8)) :
    List (BitVec 8) :=
  memoryBytes (toBe32 flowinfo) ++ (ip ++ (memoryBytes scopeId ++ rest))

section Bytes6

variable {ip rest : List (BitVec 8)} {flowinfo scopeId : BitVec 32} {index : Nat}

theorem octets_bytes6 (sixteen : ip.length = 16) :
    ((bytes6 ip flowinfo scopeId rest).drop 4).take 16 = ip := by
  unfold bytes6
  rw [List.drop_left' (by simp), List.take_left' sixteen]

theorem flowinfo_bytes6 (within : index < 4) :
    (bytes6 ip flowinfo scopeId rest).getD index 0 =
      (memoryBytes (toBe32 flowinfo)).getD index 0 :=
  List.getD_append _ _ _ _ (by simpa using within)

theorem scopeId_bytes6 (sixteen : ip.length = 16) (within : index < 4) :
    (bytes6 ip flowinfo scopeId rest).getD (index + 20) 0 =
      (memoryBytes scopeId).getD index 0 := by
  have before : (memoryBytes (toBe32 flowinfo) ++ ip).length = 20 := by
    simp [sixteen]
  unfold bytes6
  rw [← List.append_assoc, List.getD_append_right _ _ _ _ (by omega), before,
    Nat.add_sub_cancel]
  exact List.getD_append _ _ _ _ (by simpa using within)

/-- What the storage holds of an IPv6 address. -/
theorem socketAddrOf_v6 (sixteen : ip.length = 16) (full : rest.length = 100)
    (port : BitVec 16) :
    socketAddrOf (ofBytes (addressBytes afInet6 port (bytes6 ip flowinfo scopeId rest))) =
      some (.v6 ip port flowinfo scopeId) := by
  have whole : (bytes6 ip flowinfo scopeId rest).length = 124 := by
    simp [bytes6, sixteen, full]
  have octets := (@bytesAt_addressBytes _ 4 16 afInet6 port whole).trans
    (octets_bytes6 sixteen)
  have byteRead : ∀ index < 124, (ofBytes (addressBytes afInet6 port
      (bytes6 ip flowinfo scopeId rest))).byteAt (index + 4) =
        (bytes6 ip flowinfo scopeId rest).getD index 0 :=
    fun index inside => byteAt_addressBytes inside
  have isV6 : (ofBytes (addressBytes afInet6 port
      (bytes6 ip flowinfo scopeId rest))).ssFamily ≠ afInet := by
    rw [ssFamily_addressBytes]
    decide
  unfold socketAddrOf
  rw [if_neg isV6, if_pos ssFamily_addressBytes, octets, port_addressBytes,
    byteRead 0 (by decide), byteRead 1 (by decide), byteRead 2 (by decide),
    byteRead 3 (by decide), byteRead 20 (by decide), byteRead 21 (by decide),
    byteRead 22 (by decide), byteRead 23 (by decide), flowinfo_bytes6 (by decide),
    flowinfo_bytes6 (by decide), flowinfo_bytes6 (by decide), flowinfo_bytes6 (by decide),
    word_of_networkBytes, @scopeId_bytes6 _ _ _ _ 3 sixteen (by decide),
    @scopeId_bytes6 _ _ _ _ 2 sixteen (by decide),
    @scopeId_bytes6 _ _ _ _ 1 sixteen (by decide),
    @scopeId_bytes6 _ _ _ _ 0 sixteen (by decide), word_of_memoryBytes]

end Bytes6

/-- All bytes of the boxed structure are copied. -/
theorem copied_eq {address : SockAddr} {bytes : List (BitVec 8)}
    (same : address.storage.bytes = bytes)
    (size : bytes.length = address.storage.len.toNat) :
    copied address = ofBytes (bytes ++ List.replicate (128 - bytes.length) 0) := by
  have zeroed : storageBytes .zeroed = List.replicate 128 0 := by decide
  unfold copied copyInto SockAddr.toFfi
  rw [same, zeroed, ← size, List.take_length, List.drop_replicate]

/-- The encoder loses nothing: the storage holds every component. -/
theorem socketAddrOf_copied (address : StdSocketAddr) :
    socketAddrOf (copied (.new address.val)) = some address.val := by
  obtain ⟨address, sized⟩ := address
  cases address with
  | v4 ip port =>
      have same : (SockAddr.new (.v4 ip port)).storage.bytes =
          addressBytes afInet port (ip ++ List.replicate 8 0) := by
        refine (List.append_assoc ..).trans ?_
        rw [memoryBytes_fromNeBytes sized]
        rfl
      have size : (addressBytes afInet port (ip ++ List.replicate 8 0)).length = 16 := by
        rw [length_addressBytes, List.length_append, show ip.length = 4 from sized]
        rfl
      rw [copied_eq same size, size]
      have split : addressBytes afInet port (ip ++ List.replicate 8 0) ++
          List.replicate (128 - 16) 0 = addressBytes afInet port (ip ++
            (List.replicate 8 0 ++ List.replicate 112 0)) := by
        simp [addressBytes]
      rw [split]
      exact socketAddrOf_v4 sized rfl port
  | v6 ip port flowinfo scopeId =>
      have same : (SockAddr.new (.v6 ip port flowinfo scopeId)).storage.bytes =
          addressBytes afInet6 port (bytes6 ip flowinfo scopeId []) := by
        simp [addressBytes, bytes6, SockAddr.new, SocketStorage.bytes]
      have size : (addressBytes afInet6 port (bytes6 ip flowinfo scopeId [])).length = 28 := by
        simp [addressBytes, bytes6, show ip.length = 16 from sized]
      rw [copied_eq same size, size]
      have split : addressBytes afInet6 port (bytes6 ip flowinfo scopeId []) ++
          List.replicate (128 - 28) 0 = addressBytes afInet6 port
            (bytes6 ip flowinfo scopeId (List.replicate 100 0)) := by
        simp [addressBytes, bytes6]
      rw [split]
      exact socketAddrOf_v6 sized rfl port

/-- The decoder reads an address where there is one. -/
theorem fromStorage_isSome_iff (storage : SockaddrStorage) :
    (fromStorage storage).isSome ↔ (socketAddrOf storage).isSome := by
  unfold fromStorage socketAddrOf
  split_ifs <;> exact Iff.rfl

theorem fromStorage_of_other_family {storage : SockaddrStorage}
    (notV4 : storage.ssFamily ≠ afInet) (notV6 : storage.ssFamily ≠ afInet6) :
    fromStorage storage = none := by
  unfold fromStorage
  rw [if_neg notV4, if_neg notV6]

/-- A standard address survives the trip through a C storage exactly if it has no
flow info and no scope; storages of other families are no address. -/
theorem socket_address_survives_iff (address : StdSocketAddr) (storage : SockaddrStorage) :
    (fromStorage (copied (.new address.val)) = some address.val ↔ Unscoped address.val) ∧
      (storage.ssFamily ≠ afInet ∧ storage.ssFamily ≠ afInet6 →
        fromStorage storage = none) := by
  refine ⟨?_, fun other => fromStorage_of_other_family other.1 other.2⟩
  have stored := socketAddrOf_copied address
  have faithful := fromStorage_faithful_iff (copied (.new address.val))
  rw [stored] at faithful
  constructor
  · intro survives
    refine faithful.mp (fun found read => ?_) address.val rfl
    exact survives.symm.trans read
  · intro unscoped
    have present : (fromStorage (copied (.new address.val))).isSome := by
      rw [fromStorage_isSome_iff, stored]
      rfl
    obtain ⟨found, read⟩ := Option.isSome_iff_exists.mp present
    have same := faithful.mpr (fun other isOther => Option.some.inj isOther ▸ unscoped) found read
    rw [read, same]

/-- `fe80::1`, port 42, scope 2, as in a link-local address with an interface. -/
def linkLocal : StdSocketAddr :=
  ⟨.v6 (0xfe :: 0x80 :: List.replicate 13 0 ++ [1]) 42 0 2, show List.length _ = 16 from rfl⟩

/-- The scope of a link-local address is lost. -/
theorem linkLocal_loses_scope :
    fromStorage (copied (.new linkLocal.val)) ≠ some linkLocal.val := by
  decide

end SocketAddresses

end UcxRs
