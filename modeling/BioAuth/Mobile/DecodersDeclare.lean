import BioAuth.Mobile.CborAgreement
import BioAuth.Mobile.KeyWraps
import BioAuth.Mobile.Messages
import BioAuth.Mobile.Permissions
import BioAuth.Mobile.Vault

namespace BioAuth.Mobile
open BioAuth

/-- The exception the reader declares. -/
def Cbor (e : Thrown) : Prop := ∃ message, e = cborException message

theorem cbor_declared : Declared Cbor := ⟨fun message => ⟨message, rfl⟩, fun ⟨_, same⟩ => nomatch same⟩

/-- The items whose length is added to the position. -/
def Call.overlong (call : Call) (reader : CborReader) : Prop :=
  match call with
  | .bytes => CborReader.Overlong majorBytes reader.before.length reader.rest
  | .text => CborReader.Overlong majorText reader.before.length reader.rest
  | _ => False

theorem Call.escapes_iff {declared : Thrown → Prop} (known : Declared declared) (call : Call) (reader : CborReader) :
    Escapes declared call.phone reader ↔ call.overlong reader := by
  have last {α : Type} (x : Fallible CborReader Thrown α) (f : α → Value) :
      Escapes declared (do return f (← x)) reader ↔ Escapes declared x reader := by
    rw [escapes_bind]
    constructor
    · intro either
      rcases either with first | ⟨_, _, _, later⟩
      · exact first
      · exact absurd later not_escapes_pure
    · intro first
      exact Or.inl first
  cases call with
  | array => exact (last _ _).trans (iff_of_false (CborReader.not_escapes_array known reader) id)
  | uint => exact (last _ _).trans (iff_of_false (CborReader.not_escapes_uint known reader) id)
  | int => exact (last _ _).trans (iff_of_false (CborReader.not_escapes_int64 known reader) id)
  | bytes => exact (last _ _).trans (CborReader.bytes_escapes known)
  | text => exact (last _ _).trans (CborReader.text_escapes known)
  | finish => exact (last _ fun _ => .finished).trans (iff_of_false (CborReader.not_escapes_finish known reader) id)

/-- A call of the reader, and each decoder of the phone, throws nothing it does not declare, but exactly on the inputs
that reach an overlong string or a time out of range. -/
theorem phone_decoders_declare (call : Call) (reader : CborReader) :
    ((∀ e after, call.phone reader = (.error e, after) → ∃ message, e = cborException message) ↔
      ¬call.overlong reader) ∧
    (∀ origin, Declares (PhoneAuthProtocolCodec.decodeRequest origin) 8192 PhoneAuthProtocolCodec.requestLayout) ∧
    Declares ApplicationFrame.decode 8192 ApplicationFrame.layout ∧
    (∀ payload e, ApplicationErrorCode.decode payload = .error e → ∃ message, e = formatException message) ∧
    Declares VaultListRequest.decode 6144 (payloadLayout 3 1 VaultListRequest.layout) ∧
    Declares VaultListResponse.decode 6144 (payloadLayout 3 1 VaultListResponse.layout) ∧
    Declares VaultFetchRequest.decode 6144 (payloadLayout 3 1 VaultFetchRequest.layout) ∧
    Declares VaultFetchResponse.decode 6144 (payloadLayout 4 1 VaultFetchResponse.layout) ∧
    Declares VaultCreateRequest.decode 6144 (payloadLayout 7 1 VaultCreateRequest.layout) ∧
    Declares VaultUpdateRequest.decode 6144 (payloadLayout 9 1 VaultUpdateRequest.layout) ∧
    Declares VaultWriteResponse.decode 6144 (payloadLayout 3 1 VaultWriteResponse.layout) ∧
    Declares VaultDeleteRequest.decode 6144 (payloadLayout 4 1 VaultDeleteRequest.layout) ∧
    Declares VaultDeleteResponse.decode 6144 (payloadLayout 2 1 VaultDeleteResponse.layout) ∧
    Declares LockerWrapRequest.decode 6144 (payloadLayout 6 1 LockerWrapRequest.layout) ∧
    Declares LockerWrapResponse.decode 6144 (payloadLayout 3 1 LockerWrapResponse.layout) ∧
    Declares LockerUnwrapRequest.decode 6144 (payloadLayout 7 1 LockerUnwrapRequest.layout) ∧
    Declares LockerUnwrapResponse.decode 6144 (payloadLayout 2 1 LockerUnwrapResponse.layout) ∧
    Declares LuksEnrollRequest.decode 6144 (payloadLayout 5 1 LuksEnrollRequest.layout) ∧
    Declares LuksEnrollResponse.decode 6144 (payloadLayout 3 1 LuksEnrollResponse.layout) ∧
    Declares LuksUnlockRequest.decode 6144 (payloadLayout 6 1 LuksUnlockRequest.layout) ∧
    Declares LuksUnlockResponse.decode 6144 (payloadLayout 2 1 LuksUnlockResponse.layout) ∧
    Declares SshSignRequest.decode 4096 (payloadLayout 4 1 SshSignRequest.layout) ∧
    Declares SshSignResponse.decode 4096 (payloadLayout 2 1 SshSignResponse.layout) ∧
    Declares PermissionSyncRequest.decode 65536 (payloadLayout 4 1 PermissionSyncRequest.layout) ∧
    Declares PermissionSyncResponse.decode 65536 (payloadLayout 3 1 PermissionSyncResponse.layout) := by
  refine ⟨?_, PhoneAuthProtocolCodec.decodeRequest_declares, ApplicationFrame.declares, ApplicationErrorCode.declares,
    VaultListRequest.declares, VaultListResponse.declares, VaultFetchRequest.declares, VaultFetchResponse.declares,
    VaultCreateRequest.declares, VaultUpdateRequest.declares, VaultWriteResponse.declares,
    VaultDeleteRequest.declares, VaultDeleteResponse.declares, LockerWrapRequest.declares,
    LockerWrapResponse.declares, LockerUnwrapRequest.declares, LockerUnwrapResponse.declares,
    LuksEnrollRequest.declares, LuksEnrollResponse.declares, LuksUnlockRequest.declares,
    LuksUnlockResponse.declares, SshSignRequest.declares, SshSignResponse.declares,
    PermissionSyncRequest.declares, PermissionSyncResponse.declares⟩
  rw [← call.escapes_iff cbor_declared reader]
  constructor
  · intro declared ⟨e, after, run, undeclared⟩
    exact undeclared (declared e after run)
  · intro safe e after run
    by_contra undeclared
    exact safe ⟨e, after, run, undeclared⟩

/-- A list request whose text says it is as long as the largest integer. -/
def overlongRequest : Uint8List := ⟨[0x83, 0x01, 0x7b, 0x7f, 0xff, 0xff, 0xff, 0xff, 0xff, 0xff, 0xff], by decide⟩

/-- An application frame issued at the largest integer of milliseconds. -/
def timelessFrame : Uint8List :=
  ⟨[0x89, 0x04, 0x01, 0x00, 0x61, 0x72, 0x40, 0x60, 0x1b, 0x7f, 0xff, 0xff, 0xff, 0xff, 0xff, 0xff, 0xff],
    by decide⟩

theorem phone_decoders_escape :
    (Call.text.phone (CborReader.of ⟨[0x7b, 0x7f, 0xff, 0xff, 0xff, 0xff, 0xff, 0xff, 0xff], by decide⟩)).1 =
      .error .rangeError ∧
    VaultListRequest.decode overlongRequest = .error .rangeError ∧
    ApplicationFrame.decode timelessFrame = .error .argumentError := by
  decide +kernel

end BioAuth.Mobile
