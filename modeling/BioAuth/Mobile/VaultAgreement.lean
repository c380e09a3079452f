import BioAuth.Mobile.KeyWrapAgreement
import BioAuth.Mobile.Vault
import BioAuth.Protocol.Vault

namespace BioAuth.Mobile
open BioAuth
open BioAuth.Protocol (maxApplicationPayloadBytes)
open BioAuth.Protocol.LockerPayload (WrapRequest WrapResponse UnwrapRequest UnwrapResponse)
open BioAuth.Protocol.LuksPayload (EnrollRequest EnrollResponse UnlockRequest UnlockResponse)
open BioAuth.Protocol.Vault (ItemKind ItemSummary ListRequest ListResponse FetchRequest FetchResponse CreateRequest
  UpdateRequest WriteResponse DeleteRequest DeleteResponse)

theorem checkOptional_eq_ok {field value : String} {max : Nat} {done : Unit} :
    checkOptional field value max = .ok done ↔ utf16Len value ≤ max :=
  except_require_eq_ok

theorem checkSecret_eq_ok {value : String} {done : Unit} :
    checkSecret value = .ok done ↔ value ≠ "" ∧ utf16Len value ≤ 4096 :=
  except_require_eq_ok

theorem checkRevision_eq_ok {revision : Int64} {done : Unit} : checkRevision revision = .ok done ↔ 1 ≤ revision :=
  except_require_eq_ok

theorem desktop_checkOptional_eq_ok {field value : String} {max : Nat} {done : Unit} :
    Protocol.Vault.checkOptionalText field value max = .ok done ↔ utf16Len value ≤ max :=
  except_require_eq_ok

theorem desktop_checkSecret_eq_ok {value : String} {done : Unit} :
    Protocol.Vault.checkSecret value = .ok done ↔ value ≠ "" ∧ utf16Len value ≤ Protocol.Vault.maxSecretUnits := by
  simp only [Protocol.Vault.checkSecret, except_bind_eq_ok, except_require_eq_ok, exists_const]

theorem desktop_checkRevision_eq_ok {revision : UInt64} {done : Unit} :
    Protocol.Vault.checkRevision revision = .ok done ↔ revision ≠ 0 :=
  except_require_eq_ok

theorem sized_eq_ok {spelled payload : Bytes} :
    sized spelled = .ok payload ↔ spelled.length ≤ maxVaultPayloadBytes ∧ spelled = payload := by
  simp only [sized, except_bind_eq_ok, except_require_eq_ok, except_pure_eq_ok, exists_const]

/-- A revision the phone can hold passes its check unless it is zero. -/
theorem one_le_held {revision : UInt64} (held : revision.toNat < 2 ^ 63) :
    1 ≤ Int64.ofNat revision.toNat ↔ revision ≠ 0 := by
  have same : (Int64.ofNat revision.toNat).toInt = revision.toNat := Int64.toInt_ofNat_of_lt held
  have one : (1 : Int64).toInt = 1 := rfl
  have zero : revision ≠ 0 ↔ revision.toNat ≠ 0 := not_congr UInt64.toNat_inj.symm
  rw [Int64.le_iff_toInt_le, zero]
  omega

theorem nonneg_of_one_le {revision : Int64} (least : 1 ≤ revision) : 0 ≤ revision := by
  have one : (1 : Int64).toInt = 1 := rfl
  have zero : (0 : Int64).toInt = 0 := rfl
  rw [Int64.le_iff_toInt_le] at least ⊢
  omega

/-- The kind of an item, as the phone names it. -/
def VaultItemKind.ofDesktop : ItemKind → VaultItemKind
  | .login => .login
  | .note => .note
  | .totp => .totp

theorem VaultItemKind.ofDesktop_surjective (kind : VaultItemKind) : ∃ desktop, kind = ofDesktop desktop := by
  cases kind with
  | login => exact ⟨.login, rfl⟩
  | note => exact ⟨.note, rfl⟩
  | totp => exact ⟨.totp, rfl⟩

theorem uint_kind (kind : ItemKind) :
    CborWriter.uint (VaultItemKind.ofDesktop kind).wire = .ok (Writer.uint kind.wire) := by
  cases kind <;> rfl

/-- The kind that is found where a kind is spelled. -/
theorem kind_found (kind : ItemKind) {holds : VaultItemKind → Prop} :
    (∃ wire, (kind.wire.toNat < 2 ^ 63 ∧ wire = Int64.ofNat kind.wire.toNat) ∧
      ∃ found, VaultItemKind.fromWire wire = .ok found ∧ holds found) ↔ holds (VaultItemKind.ofDesktop kind) := by
  have known : VaultItemKind.fromWire (Int64.ofNat kind.wire.toNat) = .ok (VaultItemKind.ofDesktop kind) := by
    cases kind <;> rfl
  have small : kind.wire.toNat < 2 ^ 63 := by
    cases kind <;> decide
  constructor
  · rintro ⟨_, ⟨_, rfl⟩, found, same, good⟩
    cases known.symm.trans same
    exact good
  · intro good
    exact ⟨_, ⟨small, rfl⟩, _, known, good⟩

namespace VaultListRequest

def view : View ListRequest VaultListRequest where
  record request := ⟨request.verifierName, request.cursor⟩
  unmark request := ⟨dropMark request.verifierName, dropMark request.cursor⟩
  few _ := True
  held _ := True
  texts request := [request.verifierName, request.cursor]
  good request := Named 255 request.verifierName ∧ utf16Len request.cursor ≤ 128

theorem faithful : view.Faithful maxVaultPayloadBytes ListRequest.body ListRequest.encode readFields encode where
  few_of_good _ := trivial
  reads {request} _ := by
    have chain := (Meets.text request.verifierName).bind fun verifierName _ =>
      (Meets.text request.cursor).bind fun cursor _ => .pure ({ verifierName, cursor } : VaultListRequest)
    refine Meets.mono chain fun read => ?_
    simp only [exists_eq_left, true_and, view]
  marks {request} := by
    simp only [view, VaultListRequest.mk.injEq, dropMark_eq_self, List.forall_mem_cons, List.not_mem_nil,
      IsEmpty.forall_iff, forall_const, and_true]
  written {record payload} _ := ⟨⟨record.verifierName, record.cursor⟩, trivial, rfl⟩
  writes {request payload} _ size := by
    have spelled (good : view.good request) : [CborWriter.array 3, Writer.uint Protocol.Vault.vaultSchema,
        CborWriter.text request.verifierName, CborWriter.text request.cursor].flatten = request.encode := by
      obtain ⟨⟨_, verifierName⟩, cursor⟩ := good
      rw [text_within (by omega), text_within (by omega)]
      rfl
    simp only [encode, validate, except_bind_eq_ok, checkName_eq_ok, checkOptional_eq_ok, sized_eq_ok, view]
    constructor
    · intro ⟨_, ⟨_, verifierName, cursor⟩, _, one, _, same⟩
      cases one
      have good : view.good request := ⟨verifierName, cursor⟩
      exact ⟨good, same.symm.trans (spelled good)⟩
    · intro ⟨good, same⟩
      have whole := (spelled good).trans same.symm
      exact ⟨(), ⟨(), good⟩, _, rfl, (congrArg List.length whole).le.trans size, whole⟩

theorem stricter : view.Stricter maxApplicationPayloadBytes ListRequest.encode ListRequest.validate
    fun request => [request.verifierName] := by
  intro request _
  simp only [view, ListRequest.validate, named_iff, except_bind_eq_ok, Protocol.checkText_eq_ok, exists_const,
    desktop_checkOptional_eq_ok, Protocol.Vault.maxNameUnits, Protocol.Vault.maxCursorUnits,
    List.forall_mem_singleton]
  tauto

theorem readAlike :
    view.ReadAlike ListRequest.encode ListRequest.validate (fun request => [request.verifierName])
      ListRequest.decode decode :=
  faithful.readAlike stricter ListRequest.exact (fun _ => rfl) (by decide) (by decide)

end VaultListRequest

namespace VaultFetchRequest

def view : View FetchRequest VaultFetchRequest where
  record request := ⟨request.verifierName, request.itemId⟩
  unmark request := ⟨dropMark request.verifierName, dropMark request.itemId⟩
  few _ := True
  held _ := True
  texts request := [request.verifierName, request.itemId]
  good request := Named 255 request.verifierName ∧ Named 64 request.itemId

theorem faithful : view.Faithful maxVaultPayloadBytes FetchRequest.body FetchRequest.encode readFields encode where
  few_of_good _ := trivial
  reads {request} _ := by
    have chain := (Meets.text request.verifierName).bind fun verifierName _ =>
      (Meets.text request.itemId).bind fun itemId _ =>
      .pure ({ verifierName, itemId } : VaultFetchRequest)
    refine Meets.mono chain fun read => ?_
    simp only [exists_eq_left, true_and, view]
  marks {request} := by
    simp only [view, VaultFetchRequest.mk.injEq, dropMark_eq_self, List.forall_mem_cons, List.not_mem_nil,
      IsEmpty.forall_iff, forall_const, and_true]
  written {record payload} _ := ⟨⟨record.verifierName, record.itemId⟩, trivial, rfl⟩
  writes {request payload} _ size := by
    have spelled (good : view.good request) : [CborWriter.array 3, Writer.uint Protocol.Vault.vaultSchema,
        CborWriter.text request.verifierName, CborWriter.text request.itemId].flatten = request.encode := by
      obtain ⟨⟨_, verifierName⟩, ⟨_, itemId⟩⟩ := good
      rw [text_within (by omega), text_within (by omega)]
      rfl
    simp only [encode, validate, except_bind_eq_ok, checkName_eq_ok, checkId_eq_ok, sized_eq_ok, view]
    constructor
    · intro ⟨_, ⟨_, verifierName, itemId⟩, _, one, _, same⟩
      cases one
      have good : view.good request := ⟨verifierName, itemId⟩
      exact ⟨good, same.symm.trans (spelled good)⟩
    · intro ⟨good, same⟩
      have whole := (spelled good).trans same.symm
      exact ⟨(), ⟨(), good⟩, _, rfl, (congrArg List.length whole).le.trans size, whole⟩

theorem stricter : view.Stricter maxApplicationPayloadBytes FetchRequest.encode FetchRequest.validate
    fun request => [request.verifierName, request.itemId] := by
  intro request _
  simp only [view, FetchRequest.validate, named_iff, except_bind_eq_ok, Protocol.checkText_eq_ok, exists_const,
    Protocol.Vault.maxNameUnits, Protocol.Vault.maxIdUnits, List.forall_mem_cons, List.not_mem_nil,
    IsEmpty.forall_iff, implies_true, and_true]
  tauto

theorem readAlike :
    view.ReadAlike FetchRequest.encode FetchRequest.validate (fun request => [request.verifierName, request.itemId])
      FetchRequest.decode decode :=
  faithful.readAlike stricter FetchRequest.exact (fun _ => rfl) (by decide) (by decide)

end VaultFetchRequest

namespace VaultFetchResponse

def view : View FetchResponse VaultFetchResponse where
  record response := ⟨response.itemId, Int64.ofNat response.revision.toNat, response.secret⟩
  unmark response := { response with
    itemId := dropMark response.itemId
    secret := dropMark response.secret }
  few _ := True
  held response := response.revision.toNat < 2 ^ 63
  texts response := [response.itemId, response.secret]
  good response := Named 64 response.itemId ∧ response.revision ≠ 0 ∧
    response.secret ≠ "" ∧ utf16Len response.secret ≤ 4096

theorem faithful : view.Faithful maxVaultPayloadBytes FetchResponse.body FetchResponse.encode readFields encode where
  few_of_good _ := trivial
  reads {response} _ := by
    have chain := (Meets.text response.itemId).bind fun itemId _ =>
      (Meets.uint response.revision).bind fun revision _ =>
      (Meets.text response.secret).bind fun secret _ =>
      .pure ({ itemId, revision, secret } : VaultFetchResponse)
    refine Meets.mono chain fun read => ?_
    simp only [exists_eq_left, and_assoc, exists_and_left, view]
  marks {response} := by
    simp only [view, VaultFetchResponse.mk.injEq, dropMark_eq_self, List.forall_mem_cons, List.not_mem_nil,
      IsEmpty.forall_iff, forall_const, and_true, true_and]
  written {record payload} run := by
    simp only [encode, validate, except_bind_eq_ok, checkRevision_eq_ok] at run
    obtain ⟨_, ⟨_, _, _, least, _⟩, _⟩ := run
    obtain ⟨number, held, same⟩ := exists_held (nonneg_of_one_le least)
    refine ⟨⟨record.itemId, number, record.secret⟩, held, ?_⟩
    simp only [view, ← same]
  writes {response payload} held size := by
    have spelled (good : view.good response) : [CborWriter.array 4, Writer.uint Protocol.Vault.vaultSchema,
        CborWriter.text response.itemId, Writer.uint response.revision,
        CborWriter.text response.secret].flatten = response.encode := by
      obtain ⟨⟨_, itemId⟩, _, _, secret⟩ := good
      rw [text_within (by omega), text_within (by omega)]
      rfl
    simp only [encode, validate, except_bind_eq_ok, checkId_eq_ok, checkRevision_eq_ok, checkSecret_eq_ok,
      sized_eq_ok, view, uint_held held, one_le_held held]
    constructor
    · intro ⟨_, ⟨_, itemId, _, revision, secret⟩, _, one, _, number, _, same⟩
      cases one
      cases number
      have good : view.good response := ⟨itemId, revision, secret⟩
      exact ⟨good, same.symm.trans (spelled good)⟩
    · intro ⟨good, same⟩
      have whole := (spelled good).trans same.symm
      have checks := good
      obtain ⟨itemId, revision, secret⟩ := checks
      exact ⟨(), ⟨(), itemId, (), revision, secret⟩, _, rfl, _, rfl, 
        (congrArg List.length whole).le.trans size, whole⟩

theorem stricter : view.Stricter maxApplicationPayloadBytes FetchResponse.encode FetchResponse.validate
    fun response => [response.itemId] := by
  intro response _
  simp only [view, FetchResponse.validate, named_iff, except_bind_eq_ok, Protocol.checkText_eq_ok, exists_const,
    Protocol.Vault.maxIdUnits, desktop_checkRevision_eq_ok, desktop_checkSecret_eq_ok, Protocol.Vault.maxSecretUnits,
    List.forall_mem_singleton]
  tauto

theorem readAlike :
    view.ReadAlike FetchResponse.encode FetchResponse.validate (fun response => [response.itemId])
      FetchResponse.decode decode :=
  faithful.readAlike stricter FetchResponse.exact (fun _ => rfl) (by decide) (by decide)

end VaultFetchResponse

namespace VaultCreateRequest

def view : View CreateRequest VaultCreateRequest where
  record request := ⟨request.verifierName, VaultItemKind.ofDesktop request.kind, request.name, request.username,
    request.uri, request.secret⟩
  unmark request := { request with
    verifierName := dropMark request.verifierName
    name := dropMark request.name
    username := dropMark request.username
    uri := dropMark request.uri
    secret := dropMark request.secret }
  few _ := True
  held _ := True
  texts request := [request.verifierName, request.name, request.username, request.uri, request.secret]
  good request := Named 255 request.verifierName ∧ Named 255 request.name ∧ utf16Len request.username ≤ 255 ∧
    utf16Len request.uri ≤ 1024 ∧ request.secret ≠ "" ∧ utf16Len request.secret ≤ 4096

theorem faithful : view.Faithful maxVaultPayloadBytes CreateRequest.body CreateRequest.encode readFields encode where
  few_of_good _ := trivial
  reads {request} _ := by
    have chain := (Meets.text request.verifierName).bind fun verifierName _ =>
      (Meets.uint request.kind.wire).bind fun wire _ => .refusing (VaultItemKind.fromWire wire) fun kind _ =>
      (Meets.text request.name).bind fun name _ =>
      (Meets.text request.username).bind fun username _ =>
      (Meets.text request.uri).bind fun uri _ =>
      (Meets.text request.secret).bind fun secret _ =>
      .pure ({ verifierName, kind, name, username, uri, secret } : VaultCreateRequest)
    refine Meets.mono chain fun read => ?_
    simp only [exists_eq_left, kind_found, true_and, view]
  marks {request} := by
    simp only [view, VaultCreateRequest.mk.injEq, dropMark_eq_self, List.forall_mem_cons, List.not_mem_nil,
      IsEmpty.forall_iff, forall_const, and_true, true_and]
  written {record payload} run := by
    obtain ⟨kind, which⟩ := record.kind.ofDesktop_surjective
    refine ⟨⟨record.verifierName, kind, record.name, record.username, record.uri, record.secret⟩, trivial, ?_⟩
    simp only [view, ← which]
  writes {request payload} _ size := by
    have spelled (good : view.good request) : [CborWriter.array 7, Writer.uint Protocol.Vault.vaultSchema,
        CborWriter.text request.verifierName, Writer.uint request.kind.wire, CborWriter.text request.name,
        CborWriter.text request.username, CborWriter.text request.uri,
        CborWriter.text request.secret].flatten = request.encode := by
      obtain ⟨⟨_, verifierName⟩, ⟨_, name⟩, username, uri, _, secret⟩ := good
      rw [text_within (by omega), text_within (by omega), text_within (by omega), text_within (by omega),
        text_within (by omega)]
      rfl
    simp only [encode, validate, except_bind_eq_ok, checkName_eq_ok, checkOptional_eq_ok, checkSecret_eq_ok,
      sized_eq_ok, view, uint_kind]
    constructor
    · intro ⟨_, ⟨_, verifierName, _, name, _, username, _, uri, secret⟩, _, one, _, which, _, same⟩
      cases one
      cases which
      have good : view.good request := ⟨verifierName, name, username, uri, secret⟩
      exact ⟨good, same.symm.trans (spelled good)⟩
    · intro ⟨good, same⟩
      have whole := (spelled good).trans same.symm
      have checks := good
      obtain ⟨verifierName, name, username, uri, secret⟩ := checks
      exact ⟨(), ⟨(), verifierName, (), name, (), username, (), uri, secret⟩, _, rfl, _, rfl, 
        (congrArg List.length whole).le.trans size, whole⟩

theorem stricter : view.Stricter maxApplicationPayloadBytes CreateRequest.encode CreateRequest.validate
    fun request => [request.verifierName, request.name] := by
  intro request _
  simp only [view, CreateRequest.validate, named_iff, except_bind_eq_ok, Protocol.checkText_eq_ok, exists_const,
    desktop_checkOptional_eq_ok, Protocol.Vault.maxNameUnits, Protocol.Vault.maxUsernameUnits,
    Protocol.Vault.maxUriUnits, desktop_checkSecret_eq_ok, Protocol.Vault.maxSecretUnits, List.forall_mem_cons,
    List.not_mem_nil, IsEmpty.forall_iff, implies_true, and_true]
  tauto

theorem readAlike :
    view.ReadAlike CreateRequest.encode CreateRequest.validate (fun request => [request.verifierName, request.name])
      CreateRequest.decode decode :=
  faithful.readAlike stricter CreateRequest.exact (fun _ => rfl) (by decide) (by decide)

end VaultCreateRequest

namespace VaultUpdateRequest

def view : View UpdateRequest VaultUpdateRequest where
  record request := ⟨request.verifierName, request.itemId, Int64.ofNat request.expectedRevision.toNat,
    VaultItemKind.ofDesktop request.kind, request.name, request.username, request.uri, request.secret⟩
  unmark request := { request with
    verifierName := dropMark request.verifierName
    itemId := dropMark request.itemId
    name := dropMark request.name
    username := dropMark request.username
    uri := dropMark request.uri
    secret := dropMark request.secret }
  few _ := True
  held request := request.expectedRevision.toNat < 2 ^ 63
  texts request := [request.verifierName, request.itemId, request.name, request.username, request.uri, request.secret]
  good request := Named 255 request.verifierName ∧ Named 64 request.itemId ∧ request.expectedRevision ≠ 0 ∧
    Named 255 request.name ∧ utf16Len request.username ≤ 255 ∧ utf16Len request.uri ≤ 1024 ∧
    request.secret ≠ "" ∧ utf16Len request.secret ≤ 4096

theorem faithful : view.Faithful maxVaultPayloadBytes UpdateRequest.body UpdateRequest.encode readFields encode where
  few_of_good _ := trivial
  reads {request} _ := by
    have chain := (Meets.text request.verifierName).bind fun verifierName _ =>
      (Meets.text request.itemId).bind fun itemId _ =>
      (Meets.uint request.expectedRevision).bind fun expectedRevision _ =>
      (Meets.uint request.kind.wire).bind fun wire _ => .refusing (VaultItemKind.fromWire wire) fun kind _ =>
      (Meets.text request.name).bind fun name _ =>
      (Meets.text request.username).bind fun username _ =>
      (Meets.text request.uri).bind fun uri _ =>
      (Meets.text request.secret).bind fun secret _ =>
      .pure ({ verifierName, itemId, expectedRevision, kind, name, username, uri, secret } : VaultUpdateRequest)
    refine Meets.mono chain fun read => ?_
    simp only [exists_eq_left, kind_found]
    simp only [and_assoc, exists_eq_left, exists_and_left, view]
  marks {request} := by
    simp only [view, VaultUpdateRequest.mk.injEq, dropMark_eq_self, List.forall_mem_cons, List.not_mem_nil,
      IsEmpty.forall_iff, forall_const, and_true, true_and]
  written {record payload} run := by
    simp only [encode, validate, except_bind_eq_ok, checkRevision_eq_ok] at run
    obtain ⟨_, ⟨_, _, _, _, _, least, _⟩, _⟩ := run
    obtain ⟨number, held, same⟩ := exists_held (nonneg_of_one_le least)
    obtain ⟨kind, which⟩ := record.kind.ofDesktop_surjective
    refine ⟨⟨record.verifierName, record.itemId, number, kind, record.name, record.username, record.uri, record.secret⟩, held, ?_⟩
    simp only [view, ← same, ← which]
  writes {request payload} held size := by
    have spelled (good : view.good request) : [CborWriter.array 9, Writer.uint Protocol.Vault.vaultSchema,
        CborWriter.text request.verifierName, CborWriter.text request.itemId, Writer.uint request.expectedRevision,
        Writer.uint request.kind.wire, CborWriter.text request.name, CborWriter.text request.username,
        CborWriter.text request.uri, CborWriter.text request.secret].flatten = request.encode := by
      obtain ⟨⟨_, verifierName⟩, ⟨_, itemId⟩, _, ⟨_, name⟩, username, uri, _, secret⟩ := good
      rw [text_within (by omega), text_within (by omega), text_within (by omega), text_within (by omega),
        text_within (by omega), text_within (by omega)]
      rfl
    simp only [encode, validate, except_bind_eq_ok, checkName_eq_ok, checkId_eq_ok, checkRevision_eq_ok,
      checkOptional_eq_ok, checkSecret_eq_ok, sized_eq_ok, view, uint_held held, one_le_held held, uint_kind]
    constructor
    · intro ⟨_, ⟨_, verifierName, _, itemId, _, expectedRevision, _, name, _, username, _, uri, secret⟩, _, one, _, number, _, which, _, same⟩
      cases one
      cases number
      cases which
      have good : view.good request := ⟨verifierName, itemId, expectedRevision, name, username, uri, secret⟩
      exact ⟨good, same.symm.trans (spelled good)⟩
    · intro ⟨good, same⟩
      have whole := (spelled good).trans same.symm
      have checks := good
      obtain ⟨verifierName, itemId, expectedRevision, name, username, uri, secret⟩ := checks
      exact ⟨(), ⟨(), verifierName, (), itemId, (), expectedRevision, (), name, (), username, (), uri, secret⟩, _, rfl, _, rfl, _, rfl, 
        (congrArg List.length whole).le.trans size, whole⟩

theorem stricter : view.Stricter maxApplicationPayloadBytes UpdateRequest.encode UpdateRequest.validate
    fun request => [request.verifierName, request.itemId, request.name] := by
  intro request _
  simp only [view, UpdateRequest.validate, named_iff, except_bind_eq_ok, Protocol.checkText_eq_ok, exists_const,
    desktop_checkOptional_eq_ok, Protocol.Vault.maxNameUnits, Protocol.Vault.maxIdUnits,
    Protocol.Vault.maxUsernameUnits, Protocol.Vault.maxUriUnits, desktop_checkRevision_eq_ok,
    desktop_checkSecret_eq_ok, Protocol.Vault.maxSecretUnits, List.forall_mem_cons, List.not_mem_nil,
    IsEmpty.forall_iff, implies_true, and_true]
  tauto

theorem readAlike :
    view.ReadAlike UpdateRequest.encode UpdateRequest.validate
      (fun request => [request.verifierName, request.itemId, request.name])
      UpdateRequest.decode decode :=
  faithful.readAlike stricter UpdateRequest.exact (fun _ => rfl) (by decide) (by decide)

end VaultUpdateRequest

namespace VaultWriteResponse

def view : View WriteResponse VaultWriteResponse where
  record response := ⟨response.itemId, Int64.ofNat response.revision.toNat⟩
  unmark response := { response with
    itemId := dropMark response.itemId }
  few _ := True
  held response := response.revision.toNat < 2 ^ 63
  texts response := [response.itemId]
  good response := Named 64 response.itemId ∧ response.revision ≠ 0

theorem faithful : view.Faithful maxVaultPayloadBytes WriteResponse.body WriteResponse.encode readFields encode where
  few_of_good _ := trivial
  reads {response} _ := by
    have chain := (Meets.text response.itemId).bind fun itemId _ =>
      (Meets.uint response.revision).bind fun revision _ =>
      .pure ({ itemId, revision } : VaultWriteResponse)
    refine Meets.mono chain fun read => ?_
    simp only [exists_eq_left, and_assoc, exists_and_left, view]
  marks {response} := by
    simp only [view, VaultWriteResponse.mk.injEq, dropMark_eq_self, List.forall_mem_cons, List.not_mem_nil,
      IsEmpty.forall_iff, forall_const, and_true]
  written {record payload} run := by
    simp only [encode, validate, except_bind_eq_ok, checkRevision_eq_ok] at run
    obtain ⟨_, ⟨_, _, least⟩, _⟩ := run
    obtain ⟨number, held, same⟩ := exists_held (nonneg_of_one_le least)
    refine ⟨⟨record.itemId, number⟩, held, ?_⟩
    simp only [view, ← same]
  writes {response payload} held size := by
    have spelled (good : view.good response) : [CborWriter.array 3, Writer.uint Protocol.Vault.vaultSchema,
        CborWriter.text response.itemId, Writer.uint response.revision].flatten = response.encode := by
      obtain ⟨⟨_, itemId⟩, _⟩ := good
      rw [text_within (by omega)]
      rfl
    simp only [encode, validate, except_bind_eq_ok, checkId_eq_ok, checkRevision_eq_ok, sized_eq_ok, view,
      uint_held held, one_le_held held]
    constructor
    · intro ⟨_, ⟨_, itemId, revision⟩, _, one, _, number, _, same⟩
      cases one
      cases number
      have good : view.good response := ⟨itemId, revision⟩
      exact ⟨good, same.symm.trans (spelled good)⟩
    · intro ⟨good, same⟩
      have whole := (spelled good).trans same.symm
      exact ⟨(), ⟨(), good⟩, _, rfl, _, rfl, (congrArg List.length whole).le.trans size, whole⟩

theorem stricter : view.Stricter maxApplicationPayloadBytes WriteResponse.encode WriteResponse.validate
    fun response => [response.itemId] := by
  intro response _
  simp only [view, WriteResponse.validate, named_iff, except_bind_eq_ok, Protocol.checkText_eq_ok, exists_const,
    Protocol.Vault.maxIdUnits, desktop_checkRevision_eq_ok, List.forall_mem_singleton]
  tauto

theorem readAlike :
    view.ReadAlike WriteResponse.encode WriteResponse.validate (fun response => [response.itemId])
      WriteResponse.decode decode :=
  faithful.readAlike stricter WriteResponse.exact (fun _ => rfl) (by decide) (by decide)

end VaultWriteResponse

namespace VaultDeleteRequest

def view : View DeleteRequest VaultDeleteRequest where
  record request := ⟨request.verifierName, request.itemId, Int64.ofNat request.expectedRevision.toNat⟩
  unmark request := { request with
    verifierName := dropMark request.verifierName
    itemId := dropMark request.itemId }
  few _ := True
  held request := request.expectedRevision.toNat < 2 ^ 63
  texts request := [request.verifierName, request.itemId]
  good request := Named 255 request.verifierName ∧ Named 64 request.itemId ∧ request.expectedRevision ≠ 0

theorem faithful : view.Faithful maxVaultPayloadBytes DeleteRequest.body DeleteRequest.encode readFields encode where
  few_of_good _ := trivial
  reads {request} _ := by
    have chain := (Meets.text request.verifierName).bind fun verifierName _ =>
      (Meets.text request.itemId).bind fun itemId _ =>
      (Meets.uint request.expectedRevision).bind fun expectedRevision _ =>
      .pure ({ verifierName, itemId, expectedRevision } : VaultDeleteRequest)
    refine Meets.mono chain fun read => ?_
    simp only [exists_eq_left, and_assoc, exists_and_left, view]
  marks {request} := by
    simp only [view, VaultDeleteRequest.mk.injEq, dropMark_eq_self, List.forall_mem_cons, List.not_mem_nil,
      IsEmpty.forall_iff, forall_const, and_true]
  written {record payload} run := by
    simp only [encode, validate, except_bind_eq_ok, checkRevision_eq_ok] at run
    obtain ⟨_, ⟨_, _, _, _, least⟩, _⟩ := run
    obtain ⟨number, held, same⟩ := exists_held (nonneg_of_one_le least)
    refine ⟨⟨record.verifierName, record.itemId, number⟩, held, ?_⟩
    simp only [view, ← same]
  writes {request payload} held size := by
    have spelled (good : view.good request) : [CborWriter.array 4, Writer.uint Protocol.Vault.vaultSchema,
        CborWriter.text request.verifierName, CborWriter.text request.itemId,
        Writer.uint request.expectedRevision].flatten = request.encode := by
      obtain ⟨⟨_, verifierName⟩, ⟨_, itemId⟩, _⟩ := good
      rw [text_within (by omega), text_within (by omega)]
      rfl
    simp only [encode, validate, except_bind_eq_ok, checkName_eq_ok, checkId_eq_ok, checkRevision_eq_ok, sized_eq_ok,
      view, uint_held held, one_le_held held]
    constructor
    · intro ⟨_, ⟨_, verifierName, _, itemId, expectedRevision⟩, _, one, _, number, _, same⟩
      cases one
      cases number
      have good : view.good request := ⟨verifierName, itemId, expectedRevision⟩
      exact ⟨good, same.symm.trans (spelled good)⟩
    · intro ⟨good, same⟩
      have whole := (spelled good).trans same.symm
      have checks := good
      obtain ⟨verifierName, itemId, expectedRevision⟩ := checks
      exact ⟨(), ⟨(), verifierName, (), itemId, expectedRevision⟩, _, rfl, _, rfl, 
        (congrArg List.length whole).le.trans size, whole⟩

theorem stricter : view.Stricter maxApplicationPayloadBytes DeleteRequest.encode DeleteRequest.validate
    fun request => [request.verifierName, request.itemId] := by
  intro request _
  simp only [view, DeleteRequest.validate, named_iff, except_bind_eq_ok, Protocol.checkText_eq_ok, exists_const,
    Protocol.Vault.maxNameUnits, Protocol.Vault.maxIdUnits, desktop_checkRevision_eq_ok, List.forall_mem_cons,
    List.not_mem_nil, IsEmpty.forall_iff, implies_true, and_true]
  tauto

theorem readAlike :
    view.ReadAlike DeleteRequest.encode DeleteRequest.validate (fun request => [request.verifierName, request.itemId])
      DeleteRequest.decode decode :=
  faithful.readAlike stricter DeleteRequest.exact (fun _ => rfl) (by decide) (by decide)

end VaultDeleteRequest

namespace VaultDeleteResponse

def view : View DeleteResponse VaultDeleteResponse where
  record response := ⟨response.itemId⟩
  unmark response := ⟨dropMark response.itemId⟩
  few _ := True
  held _ := True
  texts response := [response.itemId]
  good response := Named 64 response.itemId

theorem faithful : view.Faithful maxVaultPayloadBytes DeleteResponse.body DeleteResponse.encode readFields encode where
  few_of_good _ := trivial
  reads {response} _ := by
    have chain := (Meets.text response.itemId).bind fun itemId _ =>
      .pure ({ itemId } : VaultDeleteResponse)
    refine Meets.mono chain fun read => ?_
    simp only [exists_eq_left, true_and, view]
  marks {response} := by
    simp only [view, VaultDeleteResponse.mk.injEq, dropMark_eq_self, List.forall_mem_singleton]
  written {record payload} _ := ⟨⟨record.itemId⟩, trivial, rfl⟩
  writes {response payload} _ size := by
    have spelled (good : view.good response) : [CborWriter.array 2, Writer.uint Protocol.Vault.vaultSchema,
        CborWriter.text response.itemId].flatten = response.encode := by
      obtain ⟨_, itemId⟩ := good
      rw [text_within (by omega)]
      rfl
    simp only [encode, validate, except_bind_eq_ok, checkId_eq_ok, sized_eq_ok, view]
    constructor
    · intro ⟨_, itemId, _, one, _, same⟩
      cases one
      exact ⟨itemId, same.symm.trans (spelled itemId)⟩
    · intro ⟨good, same⟩
      have whole := (spelled good).trans same.symm
      exact ⟨(), good, _, rfl, (congrArg List.length whole).le.trans size, whole⟩

theorem stricter : view.Stricter maxApplicationPayloadBytes DeleteResponse.encode DeleteResponse.validate
    fun response => [response.itemId] := by
  intro response _
  simp only [view, DeleteResponse.validate, named_iff, Protocol.checkText_eq_ok, Protocol.Vault.maxIdUnits,
    List.forall_mem_singleton]

theorem readAlike :
    view.ReadAlike DeleteResponse.encode DeleteResponse.validate (fun response => [response.itemId])
      DeleteResponse.decode decode :=
  faithful.readAlike stricter DeleteResponse.exact (fun _ => rfl) (by decide) (by decide)

end VaultDeleteResponse

namespace VaultItemSummary

/-- The phone's record of a row. -/
def ofDesktop (item : ItemSummary) : VaultItemSummary :=
  ⟨item.id, Int64.ofNat item.revision.toNat, VaultItemKind.ofDesktop item.kind, item.name, item.username, item.uri,
    item.updatedAtMs⟩

def rowUnmark (item : ItemSummary) : ItemSummary :=
  { item with
    id := dropMark item.id
    name := dropMark item.name
    username := dropMark item.username
    uri := dropMark item.uri }

def rowTexts (item : ItemSummary) : List String := [item.id, item.name, item.username, item.uri]

/-- What the phone checks of a row. -/
def Good (item : ItemSummary) : Prop :=
  Named 64 item.id ∧ Named 255 item.name ∧ utf16Len item.username ≤ 255 ∧ utf16Len item.uri ≤ 1024 ∧ item.revision ≠ 0

theorem validate_ofDesktop {item : ItemSummary} (held : item.revision.toNat < 2 ^ 63) :
    (ofDesktop item).validate = .ok () ↔ Good item := by
  simp only [validate, ofDesktop, except_bind_eq_ok, checkId_eq_ok, checkName_eq_ok, checkOptional_eq_ok,
    checkRevision_eq_ok, one_le_held held, exists_const, Good]

theorem good_iff {item : ItemSummary} :
    Good item ↔ item.validate = .ok () ∧ ∀ text ∈ [item.id, item.name], blank text = false := by
  simp only [Good, ItemSummary.validate, named_iff, except_bind_eq_ok, Protocol.checkText_eq_ok, exists_const,
    desktop_checkOptional_eq_ok, desktop_checkRevision_eq_ok, Protocol.Vault.maxIdUnits, Protocol.Vault.maxNameUnits,
    Protocol.Vault.maxUsernameUnits, Protocol.Vault.maxUriUnits, List.forall_mem_cons, List.not_mem_nil,
    IsEmpty.forall_iff, implies_true, and_true]
  tauto

theorem exists_ofDesktop {item : VaultItemSummary} (valid : item.validate = .ok ()) :
    ∃ desktop : ItemSummary, desktop.revision.toNat < 2 ^ 63 ∧ item = ofDesktop desktop := by
  simp only [validate, except_bind_eq_ok, checkRevision_eq_ok] at valid
  obtain ⟨_, _, _, _, _, _, _, _, least⟩ := valid
  obtain ⟨number, held, same⟩ := exists_held (nonneg_of_one_le least)
  obtain ⟨kind, which⟩ := item.kind.ofDesktop_surjective
  refine ⟨⟨item.id, number, kind, item.name, item.username, item.uri, item.updatedAtMs⟩, held, ?_⟩
  simp only [ofDesktop, ← same, ← which]

theorem write_ofDesktop {item : ItemSummary} (held : item.revision.toNat < 2 ^ 63) (good : Good item) :
    (ofDesktop item).write = .ok item.write := by
  obtain ⟨⟨_, id⟩, ⟨_, name⟩, username, uri, _⟩ := good
  simp only [write, ofDesktop, uint_held held, uint_kind]
  rw [text_within (by omega), text_within (by omega), text_within (by omega), text_within (by omega),
    CborWriter.int64_eq]
  rfl

theorem ofDesktop_unmark {item : ItemSummary} :
    ofDesktop (rowUnmark item) = ofDesktop item ↔ ∀ text ∈ rowTexts item, marked text = false := by
  simp only [ofDesktop, rowUnmark, rowTexts, VaultItemSummary.mk.injEq, dropMark_eq_self, List.forall_mem_cons,
    List.not_mem_nil, IsEmpty.forall_iff, forall_const, and_true, true_and]

theorem read_meets (item : ItemSummary) :
    Meets read item.write fun row => item.revision.toNat < 2 ^ 63 ∧ row = ofDesktop (rowUnmark item) := by
  have chain := (Meets.array Protocol.Vault.summaryFields).bind fun count _ =>
    .require (count = 7) (formatException "Estrutura de resumo inesperada") fun _ =>
    (Meets.text item.id).bind fun id _ =>
    (Meets.uint item.revision).bind fun revision _ =>
    (Meets.uint item.kind.wire).bind fun wire _ => .refusing (VaultItemKind.fromWire wire) fun kind _ =>
    (Meets.text item.name).bind fun name _ =>
    (Meets.text item.username).bind fun username _ =>
    (Meets.text item.uri).bind fun uri _ =>
    (Meets.int item.updatedAtMs).bind fun updatedAtMs _ =>
    .pure ({ id, revision, kind, name, username, uri, updatedAtMs } : VaultItemSummary)
  refine Meets.mono chain fun row => ?_
  simp only [exists_eq_left, kind_found]
  constructor
  · intro ⟨_, _, _, _, ⟨held, rfl⟩, same⟩
    exact ⟨held, same⟩
  · intro ⟨held, same⟩
    exact ⟨7, ⟨by decide, rfl⟩, rfl, _, ⟨held, rfl⟩, same⟩

end VaultItemSummary

namespace VaultListResponse
open VaultItemSummary

def view : View ListResponse VaultListResponse where
  record response := ⟨response.items.map ofDesktop, response.nextCursor⟩
  unmark response := ⟨response.items.map rowUnmark, dropMark response.nextCursor⟩
  few response := response.items.length ≤ vaultMaxPageItems
  held response := ∀ item ∈ response.items, item.revision.toNat < 2 ^ 63
  texts response := response.nextCursor :: response.items.flatMap rowTexts
  good response := response.items.length ≤ vaultMaxPageItems ∧ (∀ item ∈ response.items, Good item) ∧
    utf16Len response.nextCursor ≤ 128

/-- The rows are read one after the other. -/
theorem items_meet (items : List ItemSummary) :
    Meets (Fallible.times VaultItemSummary.read items.length) (items.flatMap ItemSummary.write) fun rows =>
      (∀ item ∈ items, item.revision.toNat < 2 ^ 63) ∧ rows = (items.map rowUnmark).map ofDesktop := by
  induction items with
  | nil =>
    refine Meets.mono (.pure []) fun rows => ?_
    simp only [List.not_mem_nil, IsEmpty.forall_iff, implies_true, true_and, List.map_nil]
  | cons item items ih =>
    have chain := (read_meets item).bind fun row _ => ih.bind fun rows _ => .pure (row :: rows)
    rw [List.append_nil] at chain
    refine Meets.mono chain fun rows => ?_
    simp only [and_assoc, exists_eq_left, exists_and_left, List.forall_mem_cons, List.map_cons]

theorem faithful : view.Faithful maxVaultPayloadBytes ListResponse.body ListResponse.encode readFields encode where
  few_of_good good := good.1
  reads {response} few := by
    have bound : response.items.length ≤ vaultMaxPageItems := few
    unfold vaultMaxPageItems at bound
    have number : (UInt64.ofNat response.items.length).toNat = response.items.length := by
      rw [UInt64.toNat_ofNat']
      omega
    have count : (Int64.ofNat (UInt64.ofNat response.items.length).toNat).toInt = response.items.length := by
      rw [number, Int64.toInt_ofNat_of_lt (by omega)]
    have rows (found : Int64) (counted : found = Int64.ofNat (UInt64.ofNat response.items.length).toNat) :
        Meets (Fallible.times VaultItemSummary.read found.toInt.toNat) (response.items.flatMap ItemSummary.write)
          fun rows => (∀ item ∈ response.items, item.revision.toNat < 2 ^ 63) ∧
            rows = (response.items.map rowUnmark).map ofDesktop := by
      rw [counted, count, Int.toNat_natCast]
      exact items_meet response.items
    have chain := (Meets.array (UInt64.ofNat response.items.length)).bind fun found counted =>
      .require (found.toInt ≤ vaultMaxPageItems) (formatException "vault page too large") fun _ =>
      (rows found counted.2).bind fun items _ =>
      (Meets.text response.nextCursor).bind fun nextCursor _ => .pure ({ items, nextCursor } : VaultListResponse)
    refine Meets.mono chain fun read => ?_
    constructor
    · intro ⟨_, _, _, _, ⟨held, rfl⟩, _, rfl, same⟩
      exact ⟨held, same⟩
    · intro ⟨held, same⟩
      refine ⟨_, ⟨by omega, rfl⟩, ?_, _, ⟨held, rfl⟩, _, rfl, same⟩
      rw [count]
      unfold vaultMaxPageItems
      omega
  marks {response} := by
    simp only [view, VaultListResponse.mk.injEq, dropMark_eq_self, List.map_map, List.map_inj_left, Function.comp_apply,
      ofDesktop_unmark, List.forall_mem_cons, List.mem_flatMap, forall_exists_index, and_imp]
    exact ⟨fun both => ⟨both.2, fun text item member field => both.1 item member text field⟩,
      fun both => ⟨fun item member text field => both.2 text item member field, both.1⟩⟩
  written {record payload} run := by
    simp only [encode, validate, except_bind_eq_ok, except_forM_eq_ok] at run
    obtain ⟨_, ⟨_, _, _, each, _⟩, _⟩ := run
    have rows : ∀ items : List VaultItemSummary, (∀ item ∈ items, item.validate = .ok ()) →
        ∃ desktop : List ItemSummary, (∀ item ∈ desktop, item.revision.toNat < 2 ^ 63) ∧ items = desktop.map ofDesktop := by
      intro items valid
      induction items with
      | nil => exact ⟨[], fun _ member => (nomatch member), rfl⟩
      | cons item items ih =>
        obtain ⟨first, rest⟩ := List.forall_mem_cons.mp valid
        obtain ⟨row, held, same⟩ := exists_ofDesktop first
        obtain ⟨others, all, equal⟩ := ih rest
        exact ⟨row :: others, List.forall_mem_cons.mpr ⟨held, all⟩, by rw [List.map_cons, same, equal]⟩
    obtain ⟨items, held, same⟩ := rows record.items each
    refine ⟨⟨items, record.nextCursor⟩, held, ?_⟩
    simp only [view, ← same]
  writes {response payload} held size := by
    have spelled (good : view.good response) :
        [CborWriter.array 3, Writer.uint Protocol.Vault.vaultSchema,
          CborWriter.array (response.items.map ofDesktop).length].flatten ++
          (response.items.map ItemSummary.write).flatten ++ CborWriter.text response.nextCursor = response.encode := by
      obtain ⟨few, _, nextCursor⟩ := good
      unfold vaultMaxPageItems at few
      have count : CborWriter.array response.items.length = Writer.array (UInt64.ofNat response.items.length) :=
        CborWriter.head_ofNat majorArray (by omega)
      rw [text_within (by omega), List.length_map, count]
      simp only [ListResponse.encode, ListResponse.body, List.flatMap, List.flatten_cons, List.flatten_nil,
        List.append_nil, List.append_assoc]
      rfl
    have valid : (∀ item ∈ response.items.map ofDesktop, item.validate = .ok ()) ↔ ∀ item ∈ response.items, Good item := by
      rw [List.forall_mem_map]
      exact forall₂_congr fun item member => validate_ofDesktop (held item member)
    have written (good : view.good response) :
        (response.items.map ofDesktop).mapM VaultItemSummary.write = .ok (response.items.map ItemSummary.write) := by
      rw [List.mapM_map]
      exact except_mapM_eq_ok fun item member => write_ofDesktop (held item member) (good.2.1 item member)
    simp only [encode, validate, except_bind_eq_ok, except_require_eq_ok, except_forM_eq_ok, checkOptional_eq_ok,
      sized_eq_ok, view, valid, List.length_map]
    constructor
    · intro ⟨_, ⟨_, few, _, each, nextCursor⟩, _, one, _, rows, _, same⟩
      have good : view.good response := ⟨few, each, nextCursor⟩
      cases one
      cases (written good).symm.trans rows
      have whole := spelled good
      rw [List.length_map] at whole
      exact ⟨good, same.symm.trans whole⟩
    · intro ⟨good, same⟩
      have whole := (spelled good).trans same.symm
      rw [List.length_map] at whole
      obtain ⟨few, each, nextCursor⟩ := good
      exact ⟨(), ⟨(), few, (), each, nextCursor⟩, _, rfl, _, written ⟨few, each, nextCursor⟩,
        (congrArg List.length whole).le.trans size, whole⟩

theorem stricter : view.Stricter maxApplicationPayloadBytes ListResponse.encode ListResponse.validate
    fun response => response.items.flatMap fun item => [item.id, item.name] := by
  intro response size
  simp only [view, good_iff, ListResponse.validate, except_bind_eq_ok, except_require_eq_ok, except_forM_eq_ok,
    desktop_checkOptional_eq_ok, Protocol.Vault.maxCursorUnits, exists_const, List.mem_flatMap, forall_exists_index,
    and_imp]
  constructor
  · intro ⟨few, each, nextCursor⟩
    exact ⟨⟨few, fun item member => (each item member).1, nextCursor, size⟩,
      fun text item member field => (each item member).2 text field⟩
  · intro ⟨⟨few, each, nextCursor, _⟩, named⟩
    exact ⟨few, fun item member => ⟨each item member, fun text field => named text item member field⟩, nextCursor⟩

theorem readAlike :
    view.ReadAlike ListResponse.encode ListResponse.validate
      (fun response => response.items.flatMap fun item => [item.id, item.name])
      ListResponse.decode decode :=
  faithful.readAlike stricter ListResponse.exact (fun _ => rfl) (by decide) (by decide)

end VaultListResponse

/-- The payloads of the locker, LUKS and the vault are read alike on both sides, but for the spellings of valid messages
with a number past a signed word, a text that starts with a byte order mark, or a named text that is blank to the phone
alone. -/
theorem payloads_read_alike (payload : Uint8List) :
    LockerWrapRequest.view.ReadsAlike WrapRequest.encode WrapRequest.validate
      (fun request => [request.verifierName, request.fileName])
      WrapRequest.decode LockerWrapRequest.decode payload ∧
    LockerWrapResponse.view.ReadsAlike WrapResponse.encode WrapResponse.validate
      (fun response => [response.credentialId]) WrapResponse.decode LockerWrapResponse.decode payload ∧
    LockerUnwrapRequest.view.ReadsAlike UnwrapRequest.encode UnwrapRequest.validate
      (fun request => [request.verifierName, request.fileName, request.credentialId])
      UnwrapRequest.decode LockerUnwrapRequest.decode payload ∧
    LockerUnwrapResponse.view.ReadsAlike UnwrapResponse.encode UnwrapResponse.validate
      (fun _ => []) UnwrapResponse.decode LockerUnwrapResponse.decode payload ∧
    LuksEnrollRequest.view.ReadsAlike EnrollRequest.encode EnrollRequest.validate
      (fun request => [request.verifierName, request.volumeName])
      EnrollRequest.decode LuksEnrollRequest.decode payload ∧
    LuksEnrollResponse.view.ReadsAlike EnrollResponse.encode EnrollResponse.validate
      (fun response => [response.credentialId]) EnrollResponse.decode LuksEnrollResponse.decode payload ∧
    LuksUnlockRequest.view.ReadsAlike UnlockRequest.encode UnlockRequest.validate
      (fun request => [request.verifierName, request.volumeName, request.credentialId])
      UnlockRequest.decode LuksUnlockRequest.decode payload ∧
    LuksUnlockResponse.view.ReadsAlike UnlockResponse.encode UnlockResponse.validate
      (fun _ => []) UnlockResponse.decode LuksUnlockResponse.decode payload ∧
    VaultListRequest.view.ReadsAlike ListRequest.encode ListRequest.validate
      (fun request => [request.verifierName]) ListRequest.decode VaultListRequest.decode payload ∧
    VaultListResponse.view.ReadsAlike ListResponse.encode ListResponse.validate
      (fun response => response.items.flatMap fun item => [item.id, item.name])
      ListResponse.decode VaultListResponse.decode payload ∧
    VaultFetchRequest.view.ReadsAlike FetchRequest.encode FetchRequest.validate
      (fun request => [request.verifierName, request.itemId]) FetchRequest.decode VaultFetchRequest.decode payload ∧
    VaultFetchResponse.view.ReadsAlike FetchResponse.encode FetchResponse.validate
      (fun response => [response.itemId]) FetchResponse.decode VaultFetchResponse.decode payload ∧
    VaultCreateRequest.view.ReadsAlike CreateRequest.encode CreateRequest.validate
      (fun request => [request.verifierName, request.name]) CreateRequest.decode VaultCreateRequest.decode payload ∧
    VaultUpdateRequest.view.ReadsAlike UpdateRequest.encode UpdateRequest.validate
      (fun request => [request.verifierName, request.itemId, request.name])
      UpdateRequest.decode VaultUpdateRequest.decode payload ∧
    VaultWriteResponse.view.ReadsAlike WriteResponse.encode WriteResponse.validate
      (fun response => [response.itemId]) WriteResponse.decode VaultWriteResponse.decode payload ∧
    VaultDeleteRequest.view.ReadsAlike DeleteRequest.encode DeleteRequest.validate
      (fun request => [request.verifierName, request.itemId]) DeleteRequest.decode VaultDeleteRequest.decode payload ∧
    VaultDeleteResponse.view.ReadsAlike DeleteResponse.encode DeleteResponse.validate
      (fun response => [response.itemId]) DeleteResponse.decode VaultDeleteResponse.decode payload :=
  ⟨LockerWrapRequest.readAlike payload, LockerWrapResponse.readAlike payload, LockerUnwrapRequest.readAlike payload,
    LockerUnwrapResponse.readAlike payload, LuksEnrollRequest.readAlike payload,
    LuksEnrollResponse.readAlike payload, LuksUnlockRequest.readAlike payload, LuksUnlockResponse.readAlike payload,
    VaultListRequest.readAlike payload, VaultListResponse.readAlike payload, VaultFetchRequest.readAlike payload,
    VaultFetchResponse.readAlike payload, VaultCreateRequest.readAlike payload, VaultUpdateRequest.readAlike payload,
    VaultWriteResponse.readAlike payload, VaultDeleteRequest.readAlike payload,
    VaultDeleteResponse.readAlike payload⟩

/-- A name that starts with a byte order mark, a length past the largest signed integer, and an id that is blank to the
phone alone. -/
def markedList : ListRequest := ⟨"\uFEFFdesk", ""⟩

def longWrap : WrapRequest :=
  ⟨"desk", "notes", 0x8000000000000000, ⟨List.replicate 32 0, by decide⟩, List.replicate 32 0⟩

def blankWrite : WriteResponse := ⟨" \uFEFF", 1⟩

theorem payloads_read_differently :
    (ListRequest.decode markedList.encode = .ok markedList ∧
      VaultListRequest.decode (.ofBytes markedList.encode) = .error (formatException "non-canonical vault payload")) ∧
    (WrapRequest.decode longWrap.encode = .ok longWrap ∧
      LockerWrapRequest.decode (.ofBytes longWrap.encode) = .error (formatException "CBOR value out of range")) ∧
    WriteResponse.decode blankWrite.encode = .ok blankWrite ∧
      VaultWriteResponse.decode (.ofBytes blankWrite.encode) = .error (formatException "invalid itemId") := by
  decide +kernel

end BioAuth.Mobile
