import BioAuth.Mobile.KeyWraps
import BioAuth.Mobile.PayloadAgreement
import BioAuth.Protocol.KeyWraps

namespace BioAuth.Mobile
open BioAuth
open BioAuth.Protocol (maxApplicationPayloadBytes)
open BioAuth.Protocol.LockerPayload (WrapRequest WrapResponse UnwrapRequest UnwrapResponse)
open BioAuth.Protocol.LuksPayload (EnrollRequest EnrollResponse UnlockRequest UnlockResponse)

theorem checkName_eq_ok {field value : String} {done : Unit} : checkName field value = .ok done ↔ Named 255 value := by
  rw [checkName, except_require_eq_ok, not_blankOrLong, Named]

theorem checkId_eq_ok {field value : String} {done : Unit} : checkId field value = .ok done ↔ Named 64 value := by
  rw [checkId, except_require_eq_ok, not_blankOrLong, Named]

theorem checkLength_eq_ok {value : Bytes} {message : String} {done : Unit} : checkLength value message = .ok done ↔ value.length = 32 :=
  except_require_eq_ok

theorem checkWrapper_eq_ok {wrapper : Bytes} {message : String} {done : Unit} :
    checkWrapper wrapper message = .ok done ↔ wrapper ≠ [] ∧ wrapper.length ≤ 512 :=
  except_require_eq_ok

theorem checkPlaintextLength_eq_ok {length : Int64} {done : Unit} : checkPlaintextLength length = .ok done ↔ 0 ≤ length :=
  except_require_eq_ok

theorem checkLuksNames_eq_ok {verifier volume : String} {done : Unit} :
    checkLuksNames verifier volume = .ok done ↔ Named 255 verifier ∧ Named 255 volume := by
  rw [checkLuksNames, except_require_eq_ok, not_blankOrLong, not_blankOrLong]
  rfl

theorem checkLuksCredential_eq_ok {value : String} {done : Unit} : checkLuksCredential value = .ok done ↔ Named 64 value := by
  rw [checkLuksCredential, except_require_eq_ok, not_blankOrLong, Named]

theorem desktop_checkKey_eq_ok {field : String} {length : Nat} {key : Bytes} {done : Unit} :
    Protocol.checkKey field length key = .ok done ↔ key.length = length :=
  except_require_eq_ok

theorem desktop_checkWrapper_eq_ok {wrapper : Bytes} {done : Unit} :
    Protocol.checkWrapper wrapper = .ok done ↔ wrapper ≠ [] ∧ wrapper.length ≤ Protocol.maxWrapperBytes :=
  except_require_eq_ok

namespace LockerWrapRequest

def view : View WrapRequest LockerWrapRequest where
  record request := ⟨request.verifierName, request.fileName, Int64.ofNat request.plaintextLen.toNat,
    request.containerBinding.val, request.dataKey⟩
  unmark request := { request with
    verifierName := dropMark request.verifierName
    fileName := dropMark request.fileName }
  few _ := True
  held request := request.plaintextLen.toNat < 2 ^ 63
  texts request := [request.verifierName, request.fileName]
  good request := Named 255 request.verifierName ∧ Named 255 request.fileName ∧ request.dataKey.length = 32

theorem faithful : view.Faithful maxLockerPayloadBytes WrapRequest.body WrapRequest.encode readFields encode where
  few_of_good _ := trivial
  reads {request} _ := by
    have chain := (Meets.text request.verifierName).bind fun verifierName _ =>
      (Meets.text request.fileName).bind fun fileName _ =>
      (Meets.uint request.plaintextLen).bind fun plaintextLength _ =>
      (Meets.bytes request.containerBinding.val).bind fun containerBinding _ =>
      (Meets.bytes request.dataKey).bind fun dataKey _ =>
      .pure ({ verifierName, fileName, plaintextLength, containerBinding, dataKey } : LockerWrapRequest)
    refine Meets.mono chain fun read => ?_
    simp only [exists_eq_left, and_assoc, exists_and_left, view]
  marks {request} := by
    simp only [view, LockerWrapRequest.mk.injEq, dropMark_eq_self, List.forall_mem_cons, List.not_mem_nil,
      IsEmpty.forall_iff, forall_const, and_true]
  written {record payload} run := by
    simp only [encode, validate, except_bind_eq_ok, checkLength_eq_ok, checkPlaintextLength_eq_ok] at run
    obtain ⟨_, ⟨_, _, _, _, _, length, _, _, nonneg⟩, _⟩ := run
    obtain ⟨number, held, same⟩ := exists_held nonneg
    exact ⟨⟨record.verifierName, record.fileName, number, ⟨record.containerBinding, length⟩, record.dataKey⟩, held,
      congrArg (LockerWrapRequest.mk _ _ · _ _) same⟩
  writes {request payload} held _ := by
    have spelled (good : view.good request) : [CborWriter.array 6, Writer.uint Protocol.LockerPayload.lockerSchema,
        CborWriter.text request.verifierName, CborWriter.text request.fileName, Writer.uint request.plaintextLen,
        CborWriter.bytes request.containerBinding.val, CborWriter.bytes request.dataKey].flatten = request.encode := by
      obtain ⟨⟨_, verifierName⟩, ⟨_, fileName⟩, dataKey⟩ := good
      rw [text_within (by omega), text_within (by omega), bytes_within (by rw [request.containerBinding.property]; decide),
        bytes_within (by omega)]
      rfl
    simp only [encode, validate, except_bind_eq_ok, checkName_eq_ok, checkLength_eq_ok, checkPlaintextLength_eq_ok,
      except_pure_eq_ok, view, uint_held held]
    constructor
    · intro ⟨_, ⟨_, verifierName, _, fileName, _, _, _, dataKey, _⟩, _, one, _, number, same⟩
      cases one
      cases number
      have good : view.good request := ⟨verifierName, fileName, dataKey⟩
      exact ⟨good, same.symm.trans (spelled good)⟩
    · intro ⟨good, same⟩
      exact ⟨(), ⟨(), good.1, (), good.2.1, (), request.containerBinding.property, (), good.2.2, nonneg_of_held held⟩, _, rfl,
        _, rfl, (spelled good).trans same.symm⟩

theorem stricter : view.Stricter maxApplicationPayloadBytes WrapRequest.encode WrapRequest.validate
    fun request => [request.verifierName, request.fileName] := by
  intro request _
  simp only [view, WrapRequest.validate, named_iff, except_bind_eq_ok, Protocol.checkText_eq_ok, exists_const,
    desktop_checkKey_eq_ok, Protocol.wrapMaxNameUnits, Protocol.LockerPayload.dataKeyLen, List.forall_mem_cons,
    List.not_mem_nil, IsEmpty.forall_iff, implies_true, and_true]
  tauto

theorem readAlike :
    view.ReadAlike WrapRequest.encode WrapRequest.validate (fun request => [request.verifierName, request.fileName])
      WrapRequest.decode decode :=
  faithful.readAlike stricter WrapRequest.exact (fun _ => rfl) (by decide) (by decide)

end LockerWrapRequest

namespace LockerWrapResponse

def view : View WrapResponse LockerWrapResponse where
  record response := ⟨response.credentialId, response.wrapper⟩
  unmark response := { response with credentialId := dropMark response.credentialId }
  few _ := True
  held _ := True
  texts response := [response.credentialId]
  good response := Named 64 response.credentialId ∧ response.wrapper ≠ [] ∧ response.wrapper.length ≤ 512

theorem faithful : view.Faithful maxLockerPayloadBytes WrapResponse.body WrapResponse.encode readFields encode where
  few_of_good _ := trivial
  reads {response} _ := by
    have chain := (Meets.text response.credentialId).bind fun credentialId _ =>
      (Meets.bytes response.wrapper).bind fun wrapper _ =>
      .pure ({ credentialId, wrapper } : LockerWrapResponse)
    refine Meets.mono chain fun read => ?_
    simp only [exists_eq_left, true_and, view]
  marks {response} := by
    simp only [view, LockerWrapResponse.mk.injEq, dropMark_eq_self, List.forall_mem_singleton, and_true]
  written {record payload} _ := ⟨⟨record.credentialId, record.wrapper⟩, trivial, rfl⟩
  writes {response payload} _ _ := by
    have spelled (good : view.good response) : [CborWriter.array 3, Writer.uint Protocol.LockerPayload.lockerSchema,
        CborWriter.text response.credentialId, CborWriter.bytes response.wrapper].flatten = response.encode := by
      obtain ⟨⟨_, credentialId⟩, _, wrapper⟩ := good
      rw [text_within (by omega), bytes_within (by omega)]
      rfl
    simp only [encode, validate, except_bind_eq_ok, checkId_eq_ok, checkWrapper_eq_ok, except_pure_eq_ok, view]
    constructor
    · intro ⟨_, ⟨_, credentialId, wrapper⟩, _, one, same⟩
      cases one
      have good : view.good response := ⟨credentialId, wrapper⟩
      exact ⟨good, same.symm.trans (spelled good)⟩
    · intro ⟨good, same⟩
      exact ⟨(), ⟨(), good⟩, _, rfl, (spelled good).trans same.symm⟩

theorem stricter : view.Stricter maxApplicationPayloadBytes WrapResponse.encode WrapResponse.validate
    fun response => [response.credentialId] := by
  intro response _
  simp only [view, WrapResponse.validate, named_iff, except_bind_eq_ok, Protocol.checkText_eq_ok, exists_const,
    desktop_checkWrapper_eq_ok, Protocol.maxWrapperBytes, Protocol.wrapMaxIdUnits, List.forall_mem_singleton]
  tauto

theorem readAlike :
    view.ReadAlike WrapResponse.encode WrapResponse.validate (fun response => [response.credentialId])
      WrapResponse.decode decode :=
  faithful.readAlike stricter WrapResponse.exact (fun _ => rfl) (by decide) (by decide)

end LockerWrapResponse

namespace LockerUnwrapRequest

def view : View UnwrapRequest LockerUnwrapRequest where
  record request := ⟨request.verifierName, request.fileName, Int64.ofNat request.plaintextLen.toNat,
    request.containerBinding.val, request.credentialId, request.wrapper⟩
  unmark request := { request with
    verifierName := dropMark request.verifierName
    fileName := dropMark request.fileName
    credentialId := dropMark request.credentialId }
  few _ := True
  held request := request.plaintextLen.toNat < 2 ^ 63
  texts request := [request.verifierName, request.fileName, request.credentialId]
  good request := Named 255 request.verifierName ∧ Named 255 request.fileName ∧ Named 64 request.credentialId ∧
    request.wrapper ≠ [] ∧ request.wrapper.length ≤ 512

theorem faithful : view.Faithful maxLockerPayloadBytes UnwrapRequest.body UnwrapRequest.encode readFields encode where
  few_of_good _ := trivial
  reads {request} _ := by
    have chain := (Meets.text request.verifierName).bind fun verifierName _ =>
      (Meets.text request.fileName).bind fun fileName _ =>
      (Meets.uint request.plaintextLen).bind fun plaintextLength _ =>
      (Meets.bytes request.containerBinding.val).bind fun containerBinding _ =>
      (Meets.text request.credentialId).bind fun credentialId _ =>
      (Meets.bytes request.wrapper).bind fun wrapper _ =>
      .pure ({ verifierName, fileName, plaintextLength, containerBinding, credentialId, wrapper } :
        LockerUnwrapRequest)
    refine Meets.mono chain fun read => ?_
    simp only [exists_eq_left, and_assoc, exists_and_left, view]
  marks {request} := by
    simp only [view, LockerUnwrapRequest.mk.injEq, dropMark_eq_self, List.forall_mem_cons, List.not_mem_nil,
      IsEmpty.forall_iff, forall_const, and_true, true_and]
  written {record payload} run := by
    simp only [encode, validate, except_bind_eq_ok, checkLength_eq_ok, checkPlaintextLength_eq_ok] at run
    obtain ⟨_, ⟨_, _, _, _, _, _, _, length, _, _, nonneg⟩, _⟩ := run
    obtain ⟨number, held, same⟩ := exists_held nonneg
    exact ⟨⟨record.verifierName, record.fileName, number, ⟨record.containerBinding, length⟩, record.credentialId,
      record.wrapper⟩, held, congrArg (LockerUnwrapRequest.mk _ _ · _ _ _) same⟩
  writes {request payload} held _ := by
    have spelled (good : view.good request) : [CborWriter.array 7, Writer.uint Protocol.LockerPayload.lockerSchema,
        CborWriter.text request.verifierName, CborWriter.text request.fileName, Writer.uint request.plaintextLen,
        CborWriter.bytes request.containerBinding.val, CborWriter.text request.credentialId,
        CborWriter.bytes request.wrapper].flatten = request.encode := by
      obtain ⟨⟨_, verifierName⟩, ⟨_, fileName⟩, ⟨_, credentialId⟩, _, wrapper⟩ := good
      rw [text_within (by omega), text_within (by omega), bytes_within (by rw [request.containerBinding.property]; decide),
        text_within (by omega), bytes_within (by omega)]
      rfl
    simp only [encode, validate, except_bind_eq_ok, checkName_eq_ok, checkId_eq_ok, checkLength_eq_ok,
      checkWrapper_eq_ok, checkPlaintextLength_eq_ok, except_pure_eq_ok, view, uint_held held]
    constructor
    · intro ⟨_, ⟨_, verifierName, _, fileName, _, credentialId, _, _, _, wrapper, _⟩, _, one, _, number, same⟩
      cases one
      cases number
      have good : view.good request := ⟨verifierName, fileName, credentialId, wrapper⟩
      exact ⟨good, same.symm.trans (spelled good)⟩
    · intro ⟨good, same⟩
      have both := good
      obtain ⟨verifierName, fileName, credentialId, wrapper⟩ := both
      exact ⟨(), ⟨(), verifierName, (), fileName, (), credentialId, (), request.containerBinding.property, (), wrapper,
        nonneg_of_held held⟩, _, rfl, _, rfl, (spelled good).trans same.symm⟩

theorem stricter : view.Stricter maxApplicationPayloadBytes UnwrapRequest.encode UnwrapRequest.validate
    fun request => [request.verifierName, request.fileName, request.credentialId] := by
  intro request _
  simp only [view, UnwrapRequest.validate, named_iff, except_bind_eq_ok, Protocol.checkText_eq_ok, exists_const,
    desktop_checkWrapper_eq_ok, Protocol.maxWrapperBytes, Protocol.wrapMaxNameUnits, Protocol.wrapMaxIdUnits,
    List.forall_mem_cons, List.not_mem_nil, IsEmpty.forall_iff, implies_true, and_true]
  tauto

theorem readAlike :
    view.ReadAlike UnwrapRequest.encode UnwrapRequest.validate
      (fun request => [request.verifierName, request.fileName, request.credentialId])
      UnwrapRequest.decode decode :=
  faithful.readAlike stricter UnwrapRequest.exact (fun _ => rfl) (by decide) (by decide)

end LockerUnwrapRequest

namespace LockerUnwrapResponse

def view : View UnwrapResponse LockerUnwrapResponse where
  record response := ⟨response.dataKey⟩
  unmark response := response
  few _ := True
  held _ := True
  texts _ := []
  good response := response.dataKey.length = 32

theorem faithful : view.Faithful maxLockerPayloadBytes UnwrapResponse.body UnwrapResponse.encode readFields encode where
  few_of_good _ := trivial
  reads {response} _ := by
    have chain := (Meets.bytes response.dataKey).bind fun dataKey _ => .pure (⟨dataKey⟩ : LockerUnwrapResponse)
    refine Meets.mono chain fun read => ?_
    simp only [exists_eq_left, true_and, view]
  marks := iff_of_true rfl fun _ member => nomatch member
  written {record payload} _ := ⟨⟨record.dataKey⟩, trivial, rfl⟩
  writes {response payload} _ _ := by
    have spelled (good : view.good response) : [CborWriter.array 2, Writer.uint Protocol.LockerPayload.lockerSchema,
        CborWriter.bytes response.dataKey].flatten = response.encode := by
      rw [bytes_within (by rw [show response.dataKey.length = 32 from good]; decide)]
      rfl
    simp only [encode, validate, except_bind_eq_ok, checkLength_eq_ok, except_pure_eq_ok, view]
    constructor
    · intro ⟨_, good, _, one, same⟩
      cases one
      exact ⟨good, same.symm.trans (spelled good)⟩
    · intro ⟨good, same⟩
      exact ⟨(), good, _, rfl, (spelled good).trans same.symm⟩

theorem stricter : view.Stricter maxApplicationPayloadBytes UnwrapResponse.encode UnwrapResponse.validate
    fun _ => [] := by
  intro response _
  simp only [view, UnwrapResponse.validate, desktop_checkKey_eq_ok, Protocol.LockerPayload.dataKeyLen,
    List.not_mem_nil, IsEmpty.forall_iff, implies_true, and_true]

theorem readAlike :
    view.ReadAlike UnwrapResponse.encode UnwrapResponse.validate (fun _ => [])
      UnwrapResponse.decode decode :=
  faithful.readAlike stricter UnwrapResponse.exact (fun _ => rfl) (by decide) (by decide)

end LockerUnwrapResponse

namespace LuksEnrollRequest

def view : View EnrollRequest LuksEnrollRequest where
  record request := ⟨request.verifierName, request.volumeName, request.volumeBinding.val, request.diskKey⟩
  unmark request := { request with
    verifierName := dropMark request.verifierName
    volumeName := dropMark request.volumeName }
  few _ := True
  held _ := True
  texts request := [request.verifierName, request.volumeName]
  good request := (Named 255 request.verifierName ∧ Named 255 request.volumeName) ∧ request.diskKey.length = 32

theorem faithful : view.Faithful luksMaxPayloadBytes EnrollRequest.body EnrollRequest.encode readFields encode where
  few_of_good _ := trivial
  reads {request} _ := by
    have chain := (Meets.text request.verifierName).bind fun verifierName _ =>
      (Meets.text request.volumeName).bind fun volumeName _ =>
      (Meets.bytes request.volumeBinding.val).bind fun volumeBinding _ =>
      (Meets.bytes request.diskKey).bind fun diskKey _ =>
      .pure ({ verifierName, volumeName, volumeBinding, diskKey } : LuksEnrollRequest)
    refine Meets.mono chain fun read => ?_
    simp only [exists_eq_left, true_and, view]
  marks {request} := by
    simp only [view, LuksEnrollRequest.mk.injEq, dropMark_eq_self, List.forall_mem_cons, List.not_mem_nil,
      IsEmpty.forall_iff, forall_const, and_true]
  written {record payload} run := by
    simp only [encode, validate, except_bind_eq_ok, checkLength_eq_ok] at run
    obtain ⟨_, ⟨_, _, _, length, _⟩, _⟩ := run
    exact ⟨⟨record.verifierName, record.volumeName, ⟨record.volumeBinding, length⟩, record.diskKey⟩, trivial, rfl⟩
  writes {request payload} _ _ := by
    have spelled (good : view.good request) : [CborWriter.array 5, Writer.uint Protocol.LuksPayload.luksSchema,
        CborWriter.text request.verifierName, CborWriter.text request.volumeName,
        CborWriter.bytes request.volumeBinding.val, CborWriter.bytes request.diskKey].flatten = request.encode := by
      obtain ⟨⟨⟨_, verifierName⟩, _, volumeName⟩, diskKey⟩ := good
      rw [text_within (by omega), text_within (by omega), bytes_within (by rw [request.volumeBinding.property]; decide),
        bytes_within (by omega)]
      rfl
    simp only [encode, validate, except_bind_eq_ok, checkLuksNames_eq_ok, checkLength_eq_ok, except_pure_eq_ok, view]
    constructor
    · intro ⟨_, ⟨_, names, _, _, diskKey⟩, _, one, same⟩
      cases one
      have good : view.good request := ⟨names, diskKey⟩
      exact ⟨good, same.symm.trans (spelled good)⟩
    · intro ⟨good, same⟩
      exact ⟨(), ⟨(), good.1, (), request.volumeBinding.property, good.2⟩, _, rfl, (spelled good).trans same.symm⟩

theorem stricter : view.Stricter maxApplicationPayloadBytes EnrollRequest.encode EnrollRequest.validate
    fun request => [request.verifierName, request.volumeName] := by
  intro request _
  simp only [view, EnrollRequest.validate, named_iff, except_bind_eq_ok, Protocol.checkText_eq_ok, exists_const,
    desktop_checkKey_eq_ok, Protocol.wrapMaxNameUnits, Protocol.LuksPayload.diskKeyLen,
    Protocol.LuksPayload.checkNames, List.forall_mem_cons, List.not_mem_nil, IsEmpty.forall_iff, implies_true,
    and_true]
  tauto

theorem readAlike :
    view.ReadAlike EnrollRequest.encode EnrollRequest.validate (fun request => [request.verifierName, request.volumeName])
      EnrollRequest.decode decode :=
  faithful.readAlike stricter EnrollRequest.exact (fun _ => rfl) (by decide) (by decide)

end LuksEnrollRequest

namespace LuksEnrollResponse

def view : View EnrollResponse LuksEnrollResponse where
  record response := ⟨response.credentialId, response.wrapper⟩
  unmark response := { response with credentialId := dropMark response.credentialId }
  few _ := True
  held _ := True
  texts response := [response.credentialId]
  good response := Named 64 response.credentialId ∧ response.wrapper ≠ [] ∧ response.wrapper.length ≤ 512

theorem faithful : view.Faithful luksMaxPayloadBytes EnrollResponse.body EnrollResponse.encode readFields encode where
  few_of_good _ := trivial
  reads {response} _ := by
    have chain := (Meets.text response.credentialId).bind fun credentialId _ =>
      (Meets.bytes response.wrapper).bind fun wrapper _ =>
      .pure ({ credentialId, wrapper } : LuksEnrollResponse)
    refine Meets.mono chain fun read => ?_
    simp only [exists_eq_left, true_and, view]
  marks {response} := by
    simp only [view, LuksEnrollResponse.mk.injEq, dropMark_eq_self, List.forall_mem_singleton, and_true]
  written {record payload} _ := ⟨⟨record.credentialId, record.wrapper⟩, trivial, rfl⟩
  writes {response payload} _ _ := by
    have spelled (good : view.good response) : [CborWriter.array 3, Writer.uint Protocol.LuksPayload.luksSchema,
        CborWriter.text response.credentialId, CborWriter.bytes response.wrapper].flatten = response.encode := by
      obtain ⟨⟨_, credentialId⟩, _, wrapper⟩ := good
      rw [text_within (by omega), bytes_within (by omega)]
      rfl
    simp only [encode, validate, except_bind_eq_ok, checkLuksCredential_eq_ok, checkWrapper_eq_ok, except_pure_eq_ok,
      view]
    constructor
    · intro ⟨_, ⟨_, credentialId, wrapper⟩, _, one, same⟩
      cases one
      have good : view.good response := ⟨credentialId, wrapper⟩
      exact ⟨good, same.symm.trans (spelled good)⟩
    · intro ⟨good, same⟩
      exact ⟨(), ⟨(), good⟩, _, rfl, (spelled good).trans same.symm⟩

theorem stricter : view.Stricter maxApplicationPayloadBytes EnrollResponse.encode EnrollResponse.validate
    fun response => [response.credentialId] := by
  intro response _
  simp only [view, EnrollResponse.validate, named_iff, except_bind_eq_ok, Protocol.checkText_eq_ok, exists_const,
    desktop_checkWrapper_eq_ok, Protocol.maxWrapperBytes, Protocol.wrapMaxIdUnits, List.forall_mem_singleton]
  tauto

theorem readAlike :
    view.ReadAlike EnrollResponse.encode EnrollResponse.validate (fun response => [response.credentialId])
      EnrollResponse.decode decode :=
  faithful.readAlike stricter EnrollResponse.exact (fun _ => rfl) (by decide) (by decide)

end LuksEnrollResponse

namespace LuksUnlockRequest

def view : View UnlockRequest LuksUnlockRequest where
  record request := ⟨request.verifierName, request.volumeName, request.volumeBinding.val, request.credentialId,
    request.wrapper⟩
  unmark request := { request with
    verifierName := dropMark request.verifierName
    volumeName := dropMark request.volumeName
    credentialId := dropMark request.credentialId }
  few _ := True
  held _ := True
  texts request := [request.verifierName, request.volumeName, request.credentialId]
  good request := (Named 255 request.verifierName ∧ Named 255 request.volumeName) ∧ Named 64 request.credentialId ∧
    request.wrapper ≠ [] ∧ request.wrapper.length ≤ 512

theorem faithful : view.Faithful luksMaxPayloadBytes UnlockRequest.body UnlockRequest.encode readFields encode where
  few_of_good _ := trivial
  reads {request} _ := by
    have chain := (Meets.text request.verifierName).bind fun verifierName _ =>
      (Meets.text request.volumeName).bind fun volumeName _ =>
      (Meets.bytes request.volumeBinding.val).bind fun volumeBinding _ =>
      (Meets.text request.credentialId).bind fun credentialId _ =>
      (Meets.bytes request.wrapper).bind fun wrapper _ =>
      .pure ({ verifierName, volumeName, volumeBinding, credentialId, wrapper } : LuksUnlockRequest)
    refine Meets.mono chain fun read => ?_
    simp only [exists_eq_left, true_and, view]
  marks {request} := by
    simp only [view, LuksUnlockRequest.mk.injEq, dropMark_eq_self, List.forall_mem_cons, List.not_mem_nil,
      IsEmpty.forall_iff, forall_const, and_true, true_and]
  written {record payload} run := by
    simp only [encode, validate, except_bind_eq_ok, checkLength_eq_ok] at run
    obtain ⟨_, ⟨_, _, _, length, _⟩, _⟩ := run
    exact ⟨⟨record.verifierName, record.volumeName, ⟨record.volumeBinding, length⟩, record.credentialId, record.wrapper⟩,
      trivial, rfl⟩
  writes {request payload} _ _ := by
    have spelled (good : view.good request) : [CborWriter.array 6, Writer.uint Protocol.LuksPayload.luksSchema,
        CborWriter.text request.verifierName, CborWriter.text request.volumeName,
        CborWriter.bytes request.volumeBinding.val, CborWriter.text request.credentialId,
        CborWriter.bytes request.wrapper].flatten = request.encode := by
      obtain ⟨⟨⟨_, verifierName⟩, _, volumeName⟩, ⟨_, credentialId⟩, _, wrapper⟩ := good
      rw [text_within (by omega), text_within (by omega), bytes_within (by rw [request.volumeBinding.property]; decide),
        text_within (by omega), bytes_within (by omega)]
      rfl
    simp only [encode, validate, except_bind_eq_ok, checkLuksNames_eq_ok, checkLuksCredential_eq_ok, checkLength_eq_ok,
      checkWrapper_eq_ok, except_pure_eq_ok, view]
    constructor
    · intro ⟨_, ⟨_, names, _, _, _, credentialId, wrapper⟩, _, one, same⟩
      cases one
      have good : view.good request := ⟨names, credentialId, wrapper⟩
      exact ⟨good, same.symm.trans (spelled good)⟩
    · intro ⟨good, same⟩
      exact ⟨(), ⟨(), good.1, (), request.volumeBinding.property, (), good.2⟩, _, rfl, (spelled good).trans same.symm⟩

theorem stricter : view.Stricter maxApplicationPayloadBytes UnlockRequest.encode UnlockRequest.validate
    fun request => [request.verifierName, request.volumeName, request.credentialId] := by
  intro request _
  simp only [view, UnlockRequest.validate, named_iff, except_bind_eq_ok, Protocol.checkText_eq_ok, exists_const,
    desktop_checkWrapper_eq_ok, Protocol.maxWrapperBytes, Protocol.wrapMaxNameUnits, Protocol.wrapMaxIdUnits,
    Protocol.LuksPayload.checkNames, List.forall_mem_cons, List.not_mem_nil, IsEmpty.forall_iff, implies_true,
    and_true]
  tauto

theorem readAlike :
    view.ReadAlike UnlockRequest.encode UnlockRequest.validate
      (fun request => [request.verifierName, request.volumeName, request.credentialId])
      UnlockRequest.decode decode :=
  faithful.readAlike stricter UnlockRequest.exact (fun _ => rfl) (by decide) (by decide)

end LuksUnlockRequest

namespace LuksUnlockResponse

def view : View UnlockResponse LuksUnlockResponse where
  record response := ⟨response.diskKey⟩
  unmark response := response
  few _ := True
  held _ := True
  texts _ := []
  good response := response.diskKey.length = 32

theorem faithful : view.Faithful luksMaxPayloadBytes UnlockResponse.body UnlockResponse.encode readFields encode where
  few_of_good _ := trivial
  reads {response} _ := by
    have chain := (Meets.bytes response.diskKey).bind fun diskKey _ => .pure (⟨diskKey⟩ : LuksUnlockResponse)
    refine Meets.mono chain fun read => ?_
    simp only [exists_eq_left, true_and, view]
  marks := iff_of_true rfl fun _ member => nomatch member
  written {record payload} _ := ⟨⟨record.diskKey⟩, trivial, rfl⟩
  writes {response payload} _ _ := by
    have spelled (good : view.good response) : [CborWriter.array 2, Writer.uint Protocol.LuksPayload.luksSchema,
        CborWriter.bytes response.diskKey].flatten = response.encode := by
      rw [bytes_within (by rw [show response.diskKey.length = 32 from good]; decide)]
      rfl
    simp only [encode, validate, except_bind_eq_ok, checkLength_eq_ok, except_pure_eq_ok, view]
    constructor
    · intro ⟨_, good, _, one, same⟩
      cases one
      exact ⟨good, same.symm.trans (spelled good)⟩
    · intro ⟨good, same⟩
      exact ⟨(), good, _, rfl, (spelled good).trans same.symm⟩

theorem stricter : view.Stricter maxApplicationPayloadBytes UnlockResponse.encode UnlockResponse.validate
    fun _ => [] := by
  intro response _
  simp only [view, UnlockResponse.validate, desktop_checkKey_eq_ok, Protocol.LuksPayload.diskKeyLen, List.not_mem_nil,
    IsEmpty.forall_iff, implies_true, and_true]

theorem readAlike :
    view.ReadAlike UnlockResponse.encode UnlockResponse.validate (fun _ => [])
      UnlockResponse.decode decode :=
  faithful.readAlike stricter UnlockResponse.exact (fun _ => rfl) (by decide) (by decide)

end LuksUnlockResponse

namespace SshSignRequest
open BioAuth.Protocol.SshPayload (SignRequest)

theorem encode_eq_ok {request : SshSignRequest} {payload : Bytes} :
    request.encode = .ok payload ↔
      ((request.verifierName ≠ "" ∧ utf16Len request.verifierName ≤ 64) ∧ utf16Len request.destination ≤ 128 ∧
        request.data ≠ [] ∧ request.data.length ≤ maxSshSignDataBytes) ∧
      [CborWriter.array 4, Writer.uint Protocol.SshPayload.sshSchema, CborWriter.text request.verifierName,
        CborWriter.text request.destination, CborWriter.bytes request.data].flatten = payload := by
  simp only [encode, except_bind_eq_ok, except_require_eq_ok, except_pure_eq_ok]
  constructor
  · intro ⟨_, verifierName, _, destination, _, data, _, one, same⟩
    cases one
    exact ⟨⟨verifierName, destination, data⟩, same⟩
  · intro ⟨⟨verifierName, destination, data⟩, same⟩
    exact ⟨(), verifierName, (), destination, (), data, _, rfl, same⟩

/-- The phone counts units where the desktop counts characters and octets. -/
def view : View SignRequest SshSignRequest where
  record request := ⟨request.verifierName, request.destination, request.data⟩
  unmark request := { request with
    verifierName := dropMark request.verifierName
    destination := dropMark request.destination }
  few _ := True
  held _ := True
  texts request := [request.verifierName, request.destination]
  good request := (request.verifierName ≠ "" ∧ utf16Len request.verifierName ≤ 64) ∧
    utf16Len request.destination ≤ 128 ∧ request.data ≠ [] ∧ request.data.length ≤ maxSshSignDataBytes

theorem faithful : view.Faithful (maxSshSignDataBytes * 2) SignRequest.body SignRequest.encode readFields encode where
  few_of_good _ := trivial
  reads {request} _ := by
    have chain := (Meets.text request.verifierName).bind fun verifierName _ =>
      (Meets.text request.destination).bind fun destination _ =>
      (Meets.bytes request.data).bind fun data _ => .pure ({ verifierName, destination, data } : SshSignRequest)
    refine Meets.mono chain fun read => ?_
    simp only [exists_eq_left, true_and, view]
  marks {request} := by
    simp only [view, SshSignRequest.mk.injEq, dropMark_eq_self, List.forall_mem_cons, List.not_mem_nil,
      IsEmpty.forall_iff, forall_const, and_true]
  written {record payload} _ := ⟨⟨record.verifierName, record.destination, record.data⟩, trivial, rfl⟩
  writes {request payload} _ _ := by
    have spelled (good : view.good request) : [CborWriter.array 4, Writer.uint Protocol.SshPayload.sshSchema,
        CborWriter.text request.verifierName, CborWriter.text request.destination,
        CborWriter.bytes request.data].flatten = request.encode := by
      obtain ⟨⟨_, verifierName⟩, destination, _, data⟩ := good
      unfold maxSshSignDataBytes at data
      rw [text_within (by omega), text_within (by omega), bytes_within (by omega)]
      rfl
    rw [encode_eq_ok]
    constructor
    · intro ⟨good, same⟩
      exact ⟨good, same.symm.trans (spelled good)⟩
    · intro ⟨good, same⟩
      exact ⟨good, (spelled good).trans same.symm⟩

/-- No request for a signature that suits the phone is too long for it. -/
theorem encode_le_of_good {request : SignRequest} (good : view.good request) :
    request.encode.length ≤ maxSshSignDataBytes * 2 := by
  obtain ⟨⟨_, name⟩, destination, _, data⟩ := good
  have text (value : String) : (Writer.text value).length ≤ 9 + 3 * utf16Len value := by
    have octets := utf8_length_le value
    have spelled := Writer.text_length_le value
    omega
  have verifierName := text request.verifierName
  have destination := text request.destination
  have data := Writer.bytes_length_le request.data
  have count := Writer.head_length_le majorArray Protocol.SshPayload.signRequestFields
  have schema := Writer.head_length_le majorUint Protocol.SshPayload.sshSchema
  simp only [SignRequest.encode, SignRequest.body, Writer.array, Writer.uint, List.flatten_cons, List.flatten_nil,
    List.length_append, List.length_nil, Nat.add_zero]
  unfold maxSshSignDataBytes at *
  omega

end SshSignRequest

end BioAuth.Mobile
