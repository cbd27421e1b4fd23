import Mathlib.Data.BitVec

/-!
# UCX status codes and status pointers

A UCX call reports either a plain status, or a status pointer: one 64-bit word
that is an immediate status, an error or the address of a request.  This file
models the status enumeration with its discriminants and the functions of
`status.rs` that decode both representations.

A pointer word is a 64-bit vector.  The casts of the source are the bit-vector
operations of the same width: `as isize as usize` sign-extends, and
`as isize as i32` keeps the low 32 bits and reads them as a signed number.
-/

namespace UcxRs

/-- `ucs_status_t`. -/
inductive UcsStatus where
  | ok
  | inProgress
  | errNoMessage
  | errNoResource
  | errIoError
  | errNoMemory
  | errInvalidParam
  | errUnreachable
  | errInvalidAddr
  | errNotImplemented
  | errMessageTruncated
  | errNoProgress
  | errBufferTooSmall
  | errNoElem
  | errSomeConnectsFailed
  | errNoDevice
  | errBusy
  | errCanceled
  | errShmemSegment
  | errAlreadyExists
  | errOutOfRange
  | errTimedOut
  | errExceedsLimit
  | errUnsupported
  | errRejected
  | errNotConnected
  | errConnectionReset
  | errFirstLinkFailure
  | errLastLinkFailure
  | errFirstEndpointFailure
  | errEndpointTimeout
  | errLastEndpointFailure
  | errLast
  deriving DecidableEq, Repr

/-- `Status` is `#[repr(transparent)]` over the raw status. -/
abbrev Status := UcsStatus

namespace UcsStatus

/-- The discriminant of a status, as the `i8` that the enumeration is stored
in. -/
def discriminant : UcsStatus → Int
  | ok => 0
  | inProgress => 1
  | errNoMessage => -1
  | errNoResource => -2
  | errIoError => -3
  | errNoMemory => -4
  | errInvalidParam => -5
  | errUnreachable => -6
  | errInvalidAddr => -7
  | errNotImplemented => -8
  | errMessageTruncated => -9
  | errNoProgress => -10
  | errBufferTooSmall => -11
  | errNoElem => -12
  | errSomeConnectsFailed => -13
  | errNoDevice => -14
  | errBusy => -15
  | errCanceled => -16
  | errShmemSegment => -17
  | errAlreadyExists => -18
  | errOutOfRange => -19
  | errTimedOut => -20
  | errExceedsLimit => -21
  | errUnsupported => -22
  | errRejected => -23
  | errNotConnected => -24
  | errConnectionReset => -25
  | errFirstLinkFailure => -40
  | errLastLinkFailure => -59
  | errFirstEndpointFailure => -60
  | errEndpointTimeout => -80
  | errLastEndpointFailure => -89
  | errLast => -100

/-- `status_value_is_err`, and `Status::is_err`. -/
def isErr (status : UcsStatus) : Bool :=
  status.discriminant < 0

theorem isErr_eq_false_iff (status : UcsStatus) :
    status.isErr = false ↔ status = ok ∨ status = inProgress := by
  cases status <;> decide

end UcsStatus

/-- `status_to_result`. -/
def statusToResult (status : UcsStatus) : Except Status Unit :=
  if status.isErr then .error status else .ok ()

/-- A word of type `ucs_status_ptr_t`, or any other pointer. -/
abbrev Word := BitVec 64

/-- A status as the word `status as isize as usize`. -/
def statusWord (status : UcsStatus) : Word :=
  BitVec.ofInt 64 status.discriminant

/-- `status_ptr_is_err`. -/
def statusPtrIsErr (word : Word) : Bool :=
  statusWord .errLast ≤ word

/-- `status_from_ptr`: decode the low 32 bits of an error pointer. -/
def statusFromPtr (word : Word) : UcsStatus :=
  match (word.setWidth 32).toInt with
  | -1 => .errNoMessage
  | -2 => .errNoResource
  | -3 => .errIoError
  | -4 => .errNoMemory
  | -5 => .errInvalidParam
  | -6 => .errUnreachable
  | -7 => .errInvalidAddr
  | -8 => .errNotImplemented
  | -9 => .errMessageTruncated
  | -10 => .errNoProgress
  | -11 => .errBufferTooSmall
  | -12 => .errNoElem
  | -13 => .errSomeConnectsFailed
  | -14 => .errNoDevice
  | -15 => .errBusy
  | -16 => .errCanceled
  | -17 => .errShmemSegment
  | -18 => .errAlreadyExists
  | -19 => .errOutOfRange
  | -20 => .errTimedOut
  | -21 => .errExceedsLimit
  | -22 => .errUnsupported
  | -23 => .errRejected
  | -24 => .errNotConnected
  | -25 => .errConnectionReset
  | -40 => .errFirstLinkFailure
  | -59 => .errLastLinkFailure
  | -60 => .errFirstEndpointFailure
  | -80 => .errEndpointTimeout
  | -89 => .errLastEndpointFailure
  | -100 => .errLast
  | _ => .errLast

/-- The pointer test and the value test classify every declared status the
same way. -/
@[simp]
theorem statusPtrIsErr_statusWord (status : UcsStatus) :
    statusPtrIsErr (statusWord status) = status.isErr := by
  cases status <;> decide

/-- Decoding undoes the cast of an error status to a pointer. -/
theorem statusFromPtr_statusWord {status : UcsStatus}
    (isErr : status.isErr = true) :
    statusFromPtr (statusWord status) = status := by
  cases status <;> first | rfl | simp [UcsStatus.isErr, UcsStatus.discriminant] at isErr

/-- `NonNull<c_void>`. -/
abbrev NonNull := { word : Word // word ≠ 0 }

/-- `NonNull::new`. -/
def NonNull.new (word : Word) : Option NonNull :=
  if nonNull : word ≠ 0 then some ⟨word, nonNull⟩ else none

@[simp]
theorem NonNull.new_zero : NonNull.new 0 = none :=
  rfl

end UcxRs
