import UcxRs.MemoryHandles

/-!
# The two ways to pack a remote key

`memh::pack_rkey` returns a value that keeps the buffer of UCX beside the framed
copy and releases it in its drop; `RemoteKey::pack` copies the payload and
releases the buffer before it returns.  Both are run here against every answer
of `ucp_rkey_pack`: they return the same bytes or the same error, and each
releases the buffer exactly once, if there is one.
-/

namespace UcxRs

namespace RemoteKeyPacking

open Interaction (Environment Execution)
open Interaction.Program

/-- The framing of `from_raw_parts` is that of `frame_rkey_payload`. -/
theorem fromRawParts_eq (buffer : Word) (payload : List (BitVec 8)) :
    PackedRkeyBuffer.fromRawParts buffer payload =
      (frameRkeyPayload payload).map fun framed => ⟨buffer, payload.length, framed⟩ := by
  unfold PackedRkeyBuffer.fromRawParts frameRkeyPayload
  by_cases short : payload.length < 2 ^ 32
  · rw [if_pos short, if_pos short]
    rfl
  · rw [if_neg short, if_neg short]
    rfl

/-- UCX answers the packing with a status, a buffer and the bytes in it. -/
def packAnswers (status : UcsStatus) (buffer : NonNull) (payload : List (BitVec 8)) :
    Environment Call Answer :=
  fun _ call =>
    match call with
    | .ucpRkeyPack _ _ => some (status, buffer.val, payload)
    | .ucpRkeyBufferRelease _ => some ()
    | _ => none

/-- The buffer that a call releases. -/
def released : Call → Option Word
  | .ucpRkeyBufferRelease buffer => some buffer
  | _ => none

/-- The buffers that an execution releases, in order. -/
def releases {Result : Type} (execution : Execution Call Result) : List Word :=
  execution.calls.filterMap released

/-- The life of a packed key: it is packed, read and dropped. -/
def packReadDrop (context : Context) (memh : MemHandle) :
    Ffi (Except Status (List (BitVec 8))) := do
  match ← packRkey context memh with
  | .ok packed =>
      let bytes := packed.asBytes
      packed.drop
      pure (.ok bytes)
  | .error error => pure (.error error)

section Executions

variable {status : UcsStatus} {buffer : NonNull} {payload framed : List (BitVec 8)}
  {error : Status} (context : Context) (memh : MemHandle)

/-- A packing that fails returns its status and makes no other call. -/
theorem execute_of_failed (failed : statusToResult status = .error error) :
    (packRkey context memh).execute (packAnswers status buffer payload) [] =
        ⟨some (.error error), [.ucpRkeyPack context.handle memh.handle]⟩ ∧
      (RemoteKey.pack context memh).execute (packAnswers status buffer payload) [] =
        ⟨some (.error error), [.ucpRkeyPack context.handle memh.handle]⟩ := by
  unfold packRkey RemoteKey.pack
  rw [call_bind, call_bind, execute_issue_some rfl, execute_issue_some rfl]
  simp only [failed]
  exact ⟨rfl, rfl⟩

/-- Whatever the framing yields, `RemoteKey::pack` releases the buffer. -/
theorem execute_pack_of_packed (packed : statusToResult status = .ok ()) :
    (RemoteKey.pack context memh).execute (packAnswers status buffer payload) [] =
      ⟨some (frameRkeyPayload payload),
        [.ucpRkeyPack context.handle memh.handle, .ucpRkeyBufferRelease buffer.val]⟩ := by
  unfold RemoteKey.pack
  rw [call_bind, execute_issue_some rfl]
  simp only [packed]
  rfl

/-- A payload that can be framed is kept with its buffer. -/
theorem execute_packRkey_of_framed (packed : statusToResult status = .ok ())
    (frames : frameRkeyPayload payload = .ok framed) :
    (packRkey context memh).execute (packAnswers status buffer payload) [] =
      ⟨some (.ok ⟨buffer.val, payload.length, framed⟩),
        [.ucpRkeyPack context.handle memh.handle]⟩ := by
  unfold packRkey
  rw [call_bind, execute_issue_some rfl]
  simp only [packed, fromRawParts_eq, frames]
  rfl

/-- A payload that cannot be framed is released at the error return. -/
theorem execute_packRkey_of_rejected (packed : statusToResult status = .ok ())
    (rejects : frameRkeyPayload payload = .error error) :
    (packRkey context memh).execute (packAnswers status buffer payload) [] =
      ⟨some (.error error),
        [.ucpRkeyPack context.handle memh.handle, .ucpRkeyBufferRelease buffer.val]⟩ := by
  unfold packRkey
  rw [call_bind, execute_issue_some rfl]
  simp only [packed, fromRawParts_eq, rejects]
  rfl

/-- The drop of a packed key releases its buffer. -/
theorem execute_drop (environment : Environment Call Answer) (history : List Call)
    (answered : environment history (.ucpRkeyBufferRelease buffer.val) = some ()) :
    (PackedRkeyBuffer.drop ⟨buffer.val, payload.length, framed⟩).execute environment history =
      ⟨some (), [.ucpRkeyBufferRelease buffer.val]⟩ := by
  unfold PackedRkeyBuffer.drop
  rw [if_pos buffer.property]
  exact execute_issue_some answered _

theorem execute_packReadDrop_of_failed (failed : statusToResult status = .error error) :
    (packReadDrop context memh).execute (packAnswers status buffer payload) [] =
      ⟨some (.error error), [.ucpRkeyPack context.handle memh.handle]⟩ :=
  execute_bind_some (execute_of_failed context memh failed).1 _

theorem execute_packReadDrop_of_framed (packed : statusToResult status = .ok ())
    (frames : frameRkeyPayload payload = .ok framed) :
    (packReadDrop context memh).execute (packAnswers status buffer payload) [] =
      ⟨some (.ok framed),
        [.ucpRkeyPack context.handle memh.handle, .ucpRkeyBufferRelease buffer.val]⟩ := by
  refine (execute_bind_some (execute_packRkey_of_framed context memh packed frames) _).trans ?_
  exact congrArg (Execution.after _) (execute_bind_some (execute_drop _ _ rfl) _)

theorem execute_packReadDrop_of_rejected (packed : statusToResult status = .ok ())
    (rejects : frameRkeyPayload payload = .error error) :
    (packReadDrop context memh).execute (packAnswers status buffer payload) [] =
      ⟨some (.error error),
        [.ucpRkeyPack context.handle memh.handle, .ucpRkeyBufferRelease buffer.val]⟩ :=
  execute_bind_some (execute_packRkey_of_rejected context memh packed rejects) _

end Executions

/-- `RemoteKey::unpack` accepts the bytes and passes the payload to UCX. -/
structure Unpacks (framed payload : List (BitVec 8)) : Prop where
  accepted : unframeRkeyPayload framed = .ok payload
  passed : ∀ (ep : Ep) (environment : Environment Call Answer),
    ((RemoteKey.unpack ep framed).execute environment []).calls =
      [.ucpEpRkeyUnpack ep.handle payload]

/-- A frame is accepted and yields its payload. -/
theorem unpacks_of_framed {payload framed : List (BitVec 8)}
    (frames : frameRkeyPayload payload = .ok framed) : Unpacks framed payload := by
  have accepted : unframeRkeyPayload framed = .ok payload :=
    (rkey_framing_bijective payload framed).2.2.1.mpr frames
  refine ⟨accepted, fun ep environment => ?_⟩
  unfold RemoteKey.unpack
  rw [accepted]
  exact congrArg Execution.calls (execute_issue_done _ _)

/-- How the life of a packed key, its packing alone and `RemoteKey::pack` agree
and release the buffer. -/
structure PackingAgrees (status : UcsStatus) (buffer : NonNull) (payload : List (BitVec 8))
    (life : Execution Call (Except Status (List (BitVec 8))))
    (packing : Execution Call (Except Status PackedRkeyBuffer))
    (direct : Execution Call (Except Status (List (BitVec 8)))) : Prop where
  sameResult : ∃ result, life.result = some result ∧ direct.result = some result
  sameError : ∀ error, statusToResult status = .error error →
    life.result = some (.error error)
  framed_iff : (∃ framed, life.result = some (.ok framed)) ↔
    statusToResult status = .ok () ∧ payload.length < 2 ^ 32
  unpacks : ∀ framed, life.result = some (.ok framed) → Unpacks framed payload
  releasedOnce : statusToResult status = .ok () →
    releases life = [buffer.val] ∧ releases direct = [buffer.val]
  notReleased : statusToResult status ≠ .ok () →
    releases life = [] ∧ releases direct = []
  atErrorReturn : statusToResult status = .ok () →
    releases packing = if payload.length < 2 ^ 32 then [] else [buffer.val]

/-- For every outcome of `ucp_rkey_pack`, both ways of packing return the same
bytes or the same error, the bytes unpack to the payload, and each way releases
the buffer exactly once if there is one. -/
theorem packing_paths_agree (context : Context) (memh : MemHandle) (status : UcsStatus)
    (buffer : NonNull) (payload : List (BitVec 8)) :
    let answers := packAnswers status buffer payload
    PackingAgrees status buffer payload ((packReadDrop context memh).execute answers [])
      ((packRkey context memh).execute answers [])
      ((RemoteKey.pack context memh).execute answers []) := by
  intro answers
  have lengths := rkey_framing_bijective payload []
  cases packed : statusToResult status with
  | error error =>
      rw [execute_packReadDrop_of_failed context memh packed,
        (execute_of_failed context memh packed).1, (execute_of_failed context memh packed).2]
      constructor
      case sameResult => exact ⟨_, rfl, rfl⟩
      case sameError =>
        intro other same
        rw [packed] at same
        rw [Except.error.inj same]
      case framed_iff => simp [packed]
      case unpacks => exact fun framed returned => nomatch Option.some.inj returned
      case releasedOnce => exact fun success => nomatch packed.symm.trans success
      case notReleased => exact fun _ => ⟨rfl, rfl⟩
      case atErrorReturn => exact fun success => nomatch packed.symm.trans success
  | ok success =>
      have noError : ∀ error, statusToResult status ≠ .error error := by
        rw [packed]
        exact fun error => nofun
      rw [execute_pack_of_packed context memh packed]
      cases frames : frameRkeyPayload payload with
      | ok framed =>
          have short : payload.length < 2 ^ 32 := lengths.1.mp ⟨framed, frames⟩
          rw [execute_packReadDrop_of_framed context memh packed frames,
            execute_packRkey_of_framed context memh packed frames]
          constructor
          case sameResult => exact ⟨_, rfl, rfl⟩
          case sameError => exact fun error failed => absurd failed (noError error)
          case framed_iff => exact iff_of_true ⟨framed, rfl⟩ ⟨packed, short⟩
          case unpacks =>
            intro other returned
            obtain rfl := Except.ok.inj (Option.some.inj returned)
            exact unpacks_of_framed frames
          case releasedOnce => exact fun _ => ⟨rfl, rfl⟩
          case notReleased => exact fun failed => absurd packed failed
          case atErrorReturn => exact fun _ => (if_pos short).symm
      | error error =>
          have long : ¬ payload.length < 2 ^ 32 := by
            intro short
            obtain ⟨framed, succeeds⟩ := lengths.1.mpr short
            cases frames.symm.trans succeeds
          rw [execute_packReadDrop_of_rejected context memh packed frames,
            execute_packRkey_of_rejected context memh packed frames]
          constructor
          case sameResult => exact ⟨_, rfl, rfl⟩
          case sameError => exact fun error failed => absurd failed (noError error)
          case framed_iff => exact iff_of_false (by simp) fun found => long found.2
          case unpacks => exact fun framed returned => nomatch Option.some.inj returned
          case releasedOnce => exact fun _ => ⟨rfl, rfl⟩
          case notReleased => exact fun failed => absurd packed failed
          case atErrorReturn => exact fun _ => (if_neg long).symm

end RemoteKeyPacking

end UcxRs
