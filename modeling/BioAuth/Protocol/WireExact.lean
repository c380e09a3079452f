import BioAuth.Protocol.KeyWraps
import BioAuth.Protocol.Messages
import BioAuth.Protocol.Permissions
import BioAuth.Protocol.Vault

namespace BioAuth.Protocol
open BioAuth

/-- The messages of a session, each with a decoder of its own. -/
inductive MessageKind
  | request
  | response
  | enrolment
  | application
  | attach

namespace MessageKind

def fields : MessageKind → UInt64
  | request => AuthRequest.requestFrameLen
  | response => AuthResponse.responseFrameLen
  | enrolment => Enrolment.enrolmentFrameLen
  | application => ApplicationFrame.applicationFrameLen
  | attach => SessionAttach.attachFrameLen

def type : MessageKind → UInt64
  | request => messageTypeRequest
  | response => messageTypeResponse
  | enrolment => messageTypeEnrolment
  | application => messageTypeApplication
  | attach => messageTypeAttach

/-- The kind's decoder accepts the frame. -/
def accepts (kind : MessageKind) (frame : Bytes) : Bool :=
  match kind with
  | request => (AuthRequest.decode frame).isOk
  | response => (AuthResponse.decode frame).isOk
  | enrolment => (Enrolment.decode frame).isOk
  | application => (ApplicationFrame.decode frame).isOk
  | attach => (SessionAttach.decode frame).isOk

theorem isOk_iff {α : Type} {r : Except ProtocolError α} : r.isOk = true ↔ ∃ a, r = .ok a := by
  cases r with
  | error e => exact iff_of_false (fun ok => nomatch ok) fun ⟨_, ok⟩ => nomatch ok
  | ok a => exact iff_of_true rfl ⟨a, rfl⟩

/-- What a decoder accepts starts with the element count and the type of its kind. -/
theorem accepts_front {kind : MessageKind} {frame : Bytes} (accepted : kind.accepts frame = true) :
    ∃ body, frame = Writer.array kind.fields ++ (Writer.uint kind.type ++ body) := by
  cases kind with
  | request =>
    obtain ⟨message, run⟩ := isOk_iff.mp accepted
    exact ⟨message.body, (AuthRequest.exact.canonical _ _ run).symm⟩
  | response =>
    obtain ⟨message, run⟩ := isOk_iff.mp accepted
    exact ⟨message.body, (AuthResponse.exact.canonical _ _ run).symm⟩
  | enrolment =>
    obtain ⟨message, run⟩ := isOk_iff.mp accepted
    exact ⟨message.body, (Enrolment.exact.canonical _ _ run).symm⟩
  | application =>
    obtain ⟨message, run⟩ := isOk_iff.mp accepted
    exact ⟨message.body, (ApplicationFrame.exact.canonical _ _ run).symm⟩
  | attach =>
    obtain ⟨message, run⟩ := isOk_iff.mp accepted
    exact ⟨message.body, (SessionAttach.exact.canonical _ _ run).symm⟩

theorem type_injective {kind other : MessageKind} (same : kind.type = other.type) : kind = other := by
  cases kind <;> cases other <;> first | rfl | exact absurd same (by decide)

/-- No frame is accepted as two kinds of message. -/
theorem accepts_unique {kind other : MessageKind} {frame : Bytes} (accepted : kind.accepts frame = true)
    (again : other.accepts frame = true) : kind = other := by
  obtain ⟨body, front⟩ := accepts_front accepted
  obtain ⟨rest, also⟩ := accepts_front again
  rw [front] at also
  have typed := (Reader.array_spells.injective trivial trivial also).2
  exact type_injective (Reader.uint_spells.injective trivial trivial typed).1

end MessageKind

/-- Every decoder of the wire is exact, and no frame is accepted as two kinds of session message. -/
theorem wire_codecs_exact :
    (Exact AuthRequest.encode AuthRequest.validate AuthRequest.decode maxFrameBytes ∧
      Exact AuthResponse.encode AuthResponse.validate AuthResponse.decode maxFrameBytes ∧
      Exact Enrolment.encode Enrolment.validate Enrolment.decode maxFrameBytes ∧
      Exact SessionAttach.encode SessionAttach.validate SessionAttach.decode maxFrameBytes ∧
      Exact ApplicationFrame.encode ApplicationFrame.validate ApplicationFrame.decode maxFrameBytes) ∧
    (Exact Vault.ListRequest.encode Vault.ListRequest.validate Vault.ListRequest.decode maxApplicationPayloadBytes ∧
      Exact Vault.ListResponse.encode Vault.ListResponse.validate Vault.ListResponse.decode
        maxApplicationPayloadBytes ∧
      Exact Vault.FetchRequest.encode Vault.FetchRequest.validate Vault.FetchRequest.decode
        maxApplicationPayloadBytes ∧
      Exact Vault.FetchResponse.encode Vault.FetchResponse.validate Vault.FetchResponse.decode
        maxApplicationPayloadBytes ∧
      Exact Vault.CreateRequest.encode Vault.CreateRequest.validate Vault.CreateRequest.decode
        maxApplicationPayloadBytes ∧
      Exact Vault.UpdateRequest.encode Vault.UpdateRequest.validate Vault.UpdateRequest.decode
        maxApplicationPayloadBytes ∧
      Exact Vault.WriteResponse.encode Vault.WriteResponse.validate Vault.WriteResponse.decode
        maxApplicationPayloadBytes ∧
      Exact Vault.DeleteRequest.encode Vault.DeleteRequest.validate Vault.DeleteRequest.decode
        maxApplicationPayloadBytes ∧
      Exact Vault.DeleteResponse.encode Vault.DeleteResponse.validate Vault.DeleteResponse.decode
        maxApplicationPayloadBytes) ∧
    (Exact LockerPayload.WrapRequest.encode LockerPayload.WrapRequest.validate LockerPayload.WrapRequest.decode
        maxApplicationPayloadBytes ∧
      Exact LockerPayload.WrapResponse.encode LockerPayload.WrapResponse.validate LockerPayload.WrapResponse.decode
        maxApplicationPayloadBytes ∧
      Exact LockerPayload.UnwrapRequest.encode LockerPayload.UnwrapRequest.validate
        LockerPayload.UnwrapRequest.decode maxApplicationPayloadBytes ∧
      Exact LockerPayload.UnwrapResponse.encode LockerPayload.UnwrapResponse.validate
        LockerPayload.UnwrapResponse.decode maxApplicationPayloadBytes) ∧
    (Exact LuksPayload.EnrollRequest.encode LuksPayload.EnrollRequest.validate LuksPayload.EnrollRequest.decode
        maxApplicationPayloadBytes ∧
      Exact LuksPayload.EnrollResponse.encode LuksPayload.EnrollResponse.validate LuksPayload.EnrollResponse.decode
        maxApplicationPayloadBytes ∧
      Exact LuksPayload.UnlockRequest.encode LuksPayload.UnlockRequest.validate LuksPayload.UnlockRequest.decode
        maxApplicationPayloadBytes ∧
      Exact LuksPayload.UnlockResponse.encode LuksPayload.UnlockResponse.validate LuksPayload.UnlockResponse.decode
        maxApplicationPayloadBytes ∧
      Exact LuksPayload.WrappedVolumeKey.encode LuksPayload.WrappedVolumeKey.validate
        LuksPayload.WrappedVolumeKey.decode maxApplicationPayloadBytes) ∧
    (Exact SshPayload.SignRequest.encode SshPayload.SignRequest.validate SshPayload.SignRequest.decode
        maxApplicationPayloadBytes ∧
      Exact SshPayload.SignResponse.encode SshPayload.SignResponse.validate SshPayload.SignResponse.decode
        maxApplicationPayloadBytes) ∧
    (Exact SyncRequest.encode SyncRequest.validate SyncRequest.decode maxApplicationPayloadBytes ∧
      Exact SyncResponse.encode SyncResponse.validate SyncResponse.decode maxApplicationPayloadBytes) ∧
    ∀ (frame : Bytes) (kind other : MessageKind), kind.accepts frame = true → other.accepts frame = true →
      kind = other :=
  ⟨⟨AuthRequest.exact, AuthResponse.exact, Enrolment.exact, SessionAttach.exact, ApplicationFrame.exact⟩,
    ⟨Vault.ListRequest.exact, Vault.ListResponse.exact, Vault.FetchRequest.exact, Vault.FetchResponse.exact,
      Vault.CreateRequest.exact, Vault.UpdateRequest.exact, Vault.WriteResponse.exact, Vault.DeleteRequest.exact,
      Vault.DeleteResponse.exact⟩,
    ⟨LockerPayload.WrapRequest.exact, LockerPayload.WrapResponse.exact, LockerPayload.UnwrapRequest.exact,
      LockerPayload.UnwrapResponse.exact⟩,
    ⟨LuksPayload.EnrollRequest.exact, LuksPayload.EnrollResponse.exact, LuksPayload.UnlockRequest.exact,
      LuksPayload.UnlockResponse.exact, LuksPayload.WrappedVolumeKey.exact⟩,
    ⟨SshPayload.SignRequest.exact, SshPayload.SignResponse.exact⟩,
    ⟨SyncRequest.exact, SyncResponse.exact⟩,
    fun _ _ _ accepted again => MessageKind.accepts_unique accepted again⟩

end BioAuth.Protocol
