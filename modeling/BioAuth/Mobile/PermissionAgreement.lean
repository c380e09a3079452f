import BioAuth.Mobile.Permissions
import BioAuth.Mobile.RequestAgreement
import Mathlib.Data.List.Basic

namespace BioAuth
open BioAuth.Protocol (Permission wireLimit)

/-- The texts of a grant. -/
def Protocol.Permission.texts (permission : Permission) : List String :=
  [permission.service, permission.action, permission.resource, permission.user]

theorem Protocol.Permission.validate_eq_ok {permission : Permission} :
    permission.validate = .ok () ↔
      ∀ text ∈ permission.texts, Protocol.blank text = false ∧ utf16Len text ≤ Protocol.maxFieldUnits := by
  simp only [Permission.validate, except_bind_eq_ok, Permission.texts, List.forall_mem_cons, List.not_mem_nil,
    IsEmpty.forall_iff, forall_const, and_true]
  constructor
  · intro ⟨_, service, _, action, _, resource, user⟩
    exact ⟨Protocol.checkText_eq_ok.mp service, Protocol.checkText_eq_ok.mp action,
      Protocol.checkText_eq_ok.mp resource, Protocol.checkText_eq_ok.mp user⟩
  · intro ⟨service, action, resource, user⟩
    exact ⟨(), Protocol.checkText_eq_ok.mpr service, (), Protocol.checkText_eq_ok.mpr action, (),
      Protocol.checkText_eq_ok.mpr resource, Protocol.checkText_eq_ok.mpr user⟩

/-- Two requests with one spelling are one request. -/
theorem Protocol.SyncRequest.encode_injective {request other : Protocol.SyncRequest}
    (few : request.permissions.length ≤ Protocol.maxPermissions)
    (fewer : other.permissions.length ≤ Protocol.maxPermissions) (same : request.encode = other.encode)
    (short : request.encode.length < wireLimit) : request = other := by
  have bodies : request.body = other.body := List.append_cancel_left (List.append_cancel_left same)
  have first := request.body_reads few
  have second := other.body_reads fewer
  rw [← bodies] at second
  refine first.injective second ?_
  simp only [Protocol.SyncRequest.encode, List.length_append] at short
  omega

theorem Protocol.SyncResponse.encode_injective {response other : Protocol.SyncResponse}
    (few : response.permissions.length ≤ Protocol.maxPermissions)
    (fewer : other.permissions.length ≤ Protocol.maxPermissions) (same : response.encode = other.encode)
    (short : response.encode.length < wireLimit) : response = other := by
  have bodies : response.body = other.body := List.append_cancel_left (List.append_cancel_left same)
  have first := response.body_reads few
  have second := other.body_reads fewer
  rw [← bodies] at second
  refine first.injective second ?_
  simp only [Protocol.SyncResponse.encode, List.length_append] at short
  omega

theorem Protocol.checkSet_eq_ok {permissions : List Permission} :
    Protocol.checkSet permissions = .ok () ↔
      permissions.length ≤ Protocol.maxPermissions ∧ ∀ permission ∈ permissions, permission.validate = .ok () := by
  unfold Protocol.checkSet
  simp only [except_bind_eq_ok, except_require_eq_ok, except_forM_eq_ok]
  exact ⟨fun ⟨_, both⟩ => both, fun both => ⟨(), both⟩⟩

namespace Mobile
open BioAuth

theorem fits_iff {text : String} : fits text = true ↔ text ≠ "" ∧ utf16Len text ≤ 255 := by
  simp only [fits, Bool.and_eq_true, decide_eq_true_eq]

theorem isValid_iff {permission : Permission} :
    isValid permission = true ↔ ∀ text ∈ permission.texts, text ≠ "" ∧ utf16Len text ≤ 255 := by
  simp only [isValid, Bool.and_eq_true, fits_iff, Permission.texts, List.forall_mem_cons, List.not_mem_nil,
    IsEmpty.forall_iff, forall_const, and_true, and_assoc]

theorem checkSet_eq_ok {permissions : List Permission} :
    checkSet permissions = .ok () ↔
      permissions.length ≤ maxPermissions ∧ ∀ permission ∈ permissions, isValid permission = true := by
  unfold checkSet
  simp only [except_bind_eq_ok, except_require_eq_ok, except_forM_eq_ok]
  exact ⟨fun ⟨_, both⟩ => both, fun both => ⟨(), both⟩⟩

theorem filled_of_nonblank {text : String} (filled : Protocol.blank text = false) : text ≠ "" := by
  intro same
  rw [same] at filled
  exact absurd filled (by decide)

/-- The desktop's rule for a grant is the stricter one. -/
theorem isValid_of_validate {permission : Permission} (valid : permission.validate = .ok ()) :
    isValid permission = true := by
  refine isValid_iff.mpr fun text member => ?_
  obtain ⟨filled, units⟩ := Protocol.Permission.validate_eq_ok.mp valid text member
  exact ⟨filled_of_nonblank filled, units⟩

/-- A short text, as octets. -/
theorem text_eq_of_units {text : String} (units : utf16Len text ≤ 255) : CborWriter.text text = Writer.text text := by
  have octets := utf8_length_le text
  exact CborWriter.text_eq (by omega)

theorem writePermission_eq {permission : Permission} (valid : isValid permission = true) :
    writePermission permission = permission.write := by
  have short := isValid_iff.mp valid
  simp only [Permission.texts, List.forall_mem_cons] at short
  obtain ⟨⟨_, service⟩, ⟨_, action⟩, ⟨_, resource⟩, ⟨_, user⟩, _⟩ := short
  unfold writePermission Permission.write
  rw [text_eq_of_units service, text_eq_of_units action, text_eq_of_units resource, text_eq_of_units user]
  rfl

theorem writeSet_eq {permissions : List Permission} (checked : checkSet permissions = .ok ()) :
    CborWriter.array permissions.length ++ permissions.flatMap writePermission = Protocol.writeSet permissions := by
  obtain ⟨few, valid⟩ := checkSet_eq_ok.mp checked
  unfold maxPermissions at few
  have each : permissions.flatMap writePermission = permissions.flatMap Permission.write :=
    List.flatMap_congr fun permission member => writePermission_eq (valid permission member)
  rw [each, Protocol.writeSet, CborWriter.array, CborWriter.head_ofNat majorArray (by omega)]
  rfl

/-- A grant as the phone reads it. -/
def unmark (permission : Permission) : Permission :=
  ⟨dropMark permission.service, dropMark permission.action, dropMark permission.resource, dropMark permission.user⟩

theorem unmark_eq_self {permission : Permission} :
    unmark permission = permission ↔ ∀ text ∈ permission.texts, marked text = false := by
  cases permission
  simp only [unmark, Permission.texts, Permission.mk.injEq, dropMark_eq_self, List.forall_mem_cons, List.not_mem_nil,
    IsEmpty.forall_iff, forall_const, and_true]

theorem readPermission_meets (permission : Permission) :
    Meets readPermission permission.write (· = unmark permission) := by
  have chain := (Meets.array 4).bind fun count _ =>
    .require (count = 4) (formatException "unexpected permission structure") fun _ =>
    (Meets.text permission.service).bind fun service _ =>
    (Meets.text permission.action).bind fun action _ =>
    (Meets.text permission.resource).bind fun resource _ =>
    (Meets.text permission.user).bind fun user _ =>
    .pure ({ service, action, resource, user } : Permission)
  refine Meets.mono chain fun read => ?_
  constructor
  · intro found
    obtain ⟨_, _, _, _, rfl, _, rfl, _, rfl, _, rfl, rfl⟩ := found
    rfl
  · intro same
    exact ⟨4, ⟨by decide, rfl⟩, rfl, _, rfl, _, rfl, _, rfl, _, rfl, same⟩

theorem readSet_meets {permissions : List Permission} (few : permissions.length ≤ maxPermissions) :
    Meets readSet (Protocol.writeSet permissions) (· = permissions.map unmark) := by
  unfold maxPermissions at few
  have number : (UInt64.ofNat permissions.length).toNat = permissions.length := by
    rw [UInt64.toNat_ofNat']
    omega
  have count : (Int64.ofNat (UInt64.ofNat permissions.length).toNat).toInt = permissions.length := by
    rw [number, Int64.toInt_ofNat_of_lt (by omega)]
  have all := Meets.times permissions fun permission _ => readPermission_meets permission
  have rest (found : Int64) (counted : found = Int64.ofNat (UInt64.ofNat permissions.length).toNat) :
      Meets (Fallible.times readPermission found.toInt.toNat) (permissions.flatMap Permission.write)
        (· = permissions.map unmark) := by
    rw [counted, count, Int.toNat_natCast]
    exact all
  have chain := (Meets.array (UInt64.ofNat permissions.length)).bind fun found counted =>
    .require (found.toInt ≤ (maxPermissions : Int)) (formatException "permission set too large") fun _ =>
      rest found counted.2
  refine Meets.mono chain fun read => ?_
  constructor
  · intro ⟨_, _, _, same⟩
    exact same
  · intro same
    refine ⟨_, ⟨by omega, rfl⟩, ?_, same⟩
    rw [count]
    unfold maxPermissions
    omega

namespace PermissionSyncRequest

/-- The request, as the desktop names it. -/
def desktop (request : PermissionSyncRequest) : Protocol.SyncRequest :=
  ⟨request.verifierName, UInt64.ofNat request.revision.toInt.toNat, request.permissions⟩

/-- What the phone checks of a request. -/
structure Checked (request : PermissionSyncRequest) : Prop where
  verifierName : request.verifierName ≠ "" ∧ utf16Len request.verifierName ≤ 255
  permissions : checkSet request.permissions = .ok ()
  revision : 0 ≤ request.revision.toInt

theorem encode_eq_ok {request : PermissionSyncRequest} {payload : Bytes} :
    request.encode = .ok payload ↔ request.Checked ∧ payload = request.desktop.encode := by
  have schema : CborWriter.uint permissionsSchema = .ok (Writer.uint Protocol.permissionsSchema) := rfl
  have nonneg : 0 ≤ request.revision ↔ 0 ≤ request.revision.toInt := Int64.le_iff_toInt_le
  have spelled (checked : request.Checked) :
      [CborWriter.array 4, Writer.uint Protocol.permissionsSchema, CborWriter.text request.verifierName,
        Writer.uint (UInt64.ofNat request.revision.toInt.toNat),
        CborWriter.array request.permissions.length].flatten ++ request.permissions.flatMap writePermission =
        request.desktop.encode := by
    simp only [List.flatten_cons, List.flatten_nil, List.append_nil, List.append_assoc, writeSet_eq checked.permissions,
      text_eq_of_units checked.verifierName.2]
    simp only [Protocol.SyncRequest.encode, Protocol.SyncRequest.body, desktop, List.flatten_cons, List.flatten_nil,
      List.append_nil]
    rfl
  simp only [encode, except_bind_eq_ok, except_require_eq_ok, except_pure_eq_ok, nonneg]
  constructor
  · intro ⟨_, named, _, set, _, up, _, one, _, revision, same⟩
    have checked : request.Checked := ⟨named, set, up⟩
    cases schema.symm.trans one
    cases (CborWriter.uint_eq up).symm.trans revision
    exact ⟨checked, same.symm.trans (spelled checked)⟩
  · intro ⟨checked, same⟩
    exact ⟨(), checked.verifierName, (), checked.permissions, (), checked.revision, _, schema, _,
      CborWriter.uint_eq checked.revision, (spelled checked).trans same.symm⟩

/-- A request as its fields come out on the phone. -/
structure Brings (request : Protocol.SyncRequest) (read : PermissionSyncRequest) : Prop where
  verifierName : read.verifierName = dropMark request.verifierName
  revision : request.revision.toNat < 2 ^ 63 ∧ read.revision = Int64.ofNat request.revision.toNat
  permissions : read.permissions = request.permissions.map unmark

theorem readFields_meets {request : Protocol.SyncRequest} (few : request.permissions.length ≤ maxPermissions) :
    Meets readFields request.body (Brings request) := by
  have chain := (Meets.text request.verifierName).bind fun verifierName _ =>
    (Meets.uint request.revision).bind fun revision _ =>
    (readSet_meets few).bind fun permissions _ =>
    .pure ({ verifierName, revision, permissions } : PermissionSyncRequest)
  refine Meets.mono chain fun read => ?_
  constructor
  · intro found
    obtain ⟨_, verifierName, _, revision, _, permissions, rfl⟩ := found
    exact ⟨verifierName, revision, permissions⟩
  · intro brings
    exact ⟨_, brings.verifierName, _, brings.revision, _, brings.permissions, rfl⟩

/-- What the phone makes of a request of the desktop. -/
theorem decode_eq_ok {request : Protocol.SyncRequest} (few : request.permissions.length ≤ maxPermissions)
    {payload : Uint8List} (whole : payload.octets = request.encode) {read : PermissionSyncRequest} :
    decode payload = .ok read ↔
      payload.octets.length ≤ maxPermissionsPayloadBytes ∧ Brings request read ∧ read.encode = .ok payload.octets :=
  decodePayload_eq_ok (readFields_meets few) whole (by decide) (by decide)

/-- The phone reads no other request than the one that was sent. -/
theorem desktop_of_decode {request : Protocol.SyncRequest} (few : request.permissions.length ≤ maxPermissions)
    {payload : Uint8List} (whole : payload.octets = request.encode) {read : PermissionSyncRequest}
    (run : decode payload = .ok read) : read.desktop = request ∧ read.Checked := by
  obtain ⟨size, brings, encoded⟩ := (decode_eq_ok few whole).mp run
  obtain ⟨checked, same⟩ := encode_eq_ok.mp encoded
  refine ⟨?_, checked⟩
  refine Protocol.SyncRequest.encode_injective (checkSet_eq_ok.mp checked.permissions).1 few (same.symm.trans whole) ?_
  rw [← same]
  unfold maxPermissionsPayloadBytes at size
  unfold wireLimit
  omega

/-- The texts of a request. -/
def requestTexts (request : Protocol.SyncRequest) : List String :=
  request.verifierName :: request.permissions.flatMap Permission.texts

/-- A request that the desktop may send is read by the phone exactly when the phone can hold its revision and none of
its texts starts with a byte order mark. -/
theorem decode_accepts_iff {request : Protocol.SyncRequest} (valid : request.validate = .ok ()) {payload : Uint8List}
    (whole : payload.octets = request.encode) :
    (∃ read, decode payload = .ok read) ↔
      request.revision.toNat < 2 ^ 63 ∧ ∀ text ∈ requestTexts request, marked text = false := by
  have few := Protocol.SyncRequest.permissions_le valid
  simp only [Protocol.SyncRequest.validate, except_bind_eq_ok] at valid
  obtain ⟨_, named, _, set, size⟩ := valid
  have short := except_require_eq_ok.mp size
  constructor
  · intro ⟨read, run⟩
    obtain ⟨_, brings, _⟩ := (decode_eq_ok few whole).mp run
    obtain ⟨same, _⟩ := desktop_of_decode few whole run
    have name : dropMark request.verifierName = request.verifierName := by
      rw [← brings.verifierName, ← same]
      rfl
    have permissions : request.permissions.map unmark = request.permissions.map id := by
      rw [← brings.permissions, List.map_id, ← same]
      rfl
    refine ⟨brings.revision.1, List.forall_mem_cons.mpr ⟨dropMark_eq_self.mp name, fun text member => ?_⟩⟩
    obtain ⟨permission, granted, field⟩ := List.mem_flatMap.mp member
    exact unmark_eq_self.mp (List.map_inj_left.mp permissions permission granted) text field
  · intro ⟨held, unmarked⟩
    obtain ⟨name, texts⟩ := List.forall_mem_cons.mp unmarked
    have revision : (Int64.ofNat request.revision.toNat).toInt = request.revision.toNat := Int64.toInt_ofNat_of_lt held
    let read : PermissionSyncRequest := ⟨request.verifierName, Int64.ofNat request.revision.toNat, request.permissions⟩
    have whose : read.desktop = request := by
      simp only [read, desktop, revision, Int.toNat_natCast, UInt64.ofNat_toNat]
    have permissions : request.permissions.map unmark = request.permissions := by
      rw [← List.map_id request.permissions, List.map_map]
      refine List.map_inj_left.mpr fun permission granted => unmark_eq_self.mpr fun text field => ?_
      exact texts text (List.mem_flatMap.mpr ⟨permission, granted, field⟩)
    have checked : read.Checked := by
      obtain ⟨filled, units⟩ := Protocol.checkText_eq_ok.mp named
      refine ⟨⟨filled_of_nonblank filled, units⟩, checkSet_eq_ok.mpr ⟨few, fun permission granted => ?_⟩, ?_⟩
      · exact isValid_of_validate ((Protocol.checkSet_eq_ok.mp set).2 permission granted)
      · rw [revision]
        exact Int.natCast_nonneg _
    refine ⟨read, (decode_eq_ok few whole).mpr ⟨?_, ⟨(dropMark_eq_self.mpr name).symm, ⟨held, rfl⟩, permissions.symm⟩, ?_⟩⟩
    · rw [whole]
      unfold maxPermissionsPayloadBytes
      unfold Protocol.maxApplicationPayloadBytes at short
      omega
    · exact encode_eq_ok.mpr ⟨checked, by rw [whole, whose]⟩

end PermissionSyncRequest

namespace PermissionSyncResponse

/-- The answer, as the desktop names it. -/
def desktop (response : PermissionSyncResponse) : Protocol.SyncResponse :=
  ⟨UInt64.ofNat response.revision.toInt.toNat, response.permissions⟩

theorem encode_eq_ok {response : PermissionSyncResponse} {payload : Bytes} :
    response.encode = .ok payload ↔
      (checkSet response.permissions = .ok () ∧ 0 ≤ response.revision.toInt) ∧ payload = response.desktop.encode := by
  have schema : CborWriter.uint permissionsSchema = .ok (Writer.uint Protocol.permissionsSchema) := rfl
  have nonneg : 0 ≤ response.revision ↔ 0 ≤ response.revision.toInt := Int64.le_iff_toInt_le
  have spelled (set : checkSet response.permissions = .ok ()) :
      [CborWriter.array 3, Writer.uint Protocol.permissionsSchema,
        Writer.uint (UInt64.ofNat response.revision.toInt.toNat),
        CborWriter.array response.permissions.length].flatten ++ response.permissions.flatMap writePermission =
        response.desktop.encode := by
    simp only [List.flatten_cons, List.flatten_nil, List.append_nil, List.append_assoc, writeSet_eq set]
    simp only [Protocol.SyncResponse.encode, Protocol.SyncResponse.body, desktop, List.flatten_cons, List.flatten_nil,
      List.append_nil]
    rfl
  simp only [encode, except_bind_eq_ok, except_require_eq_ok, except_pure_eq_ok, nonneg]
  constructor
  · intro ⟨_, set, _, up, _, one, _, revision, same⟩
    cases schema.symm.trans one
    cases (CborWriter.uint_eq up).symm.trans revision
    exact ⟨⟨set, up⟩, same.symm.trans (spelled set)⟩
  · intro ⟨⟨set, up⟩, same⟩
    exact ⟨(), set, (), up, _, schema, _, CborWriter.uint_eq up, (spelled set).trans same.symm⟩

/-- The desktop reads no other answer than the one the phone sent. -/
theorem desktop_of_decoded {response : PermissionSyncResponse} {payload : Bytes} (encoded : response.encode = .ok payload)
    {read : Protocol.SyncResponse} (run : Protocol.SyncResponse.decode payload = .ok read) :
    read = response.desktop ∧ read.validate = .ok () := by
  obtain ⟨⟨set, _⟩, same⟩ := encode_eq_ok.mp encoded
  obtain ⟨canonical, valid⟩ := Protocol.decodePayload_eq_ok run
  refine ⟨?_, valid⟩
  refine Protocol.SyncResponse.encode_injective (Protocol.SyncResponse.permissions_le valid) (checkSet_eq_ok.mp set).1
    (canonical.trans same) ?_
  simp only [Protocol.SyncResponse.validate, except_bind_eq_ok] at valid
  obtain ⟨_, _, size⟩ := valid
  have short := except_require_eq_ok.mp size
  unfold Protocol.maxApplicationPayloadBytes at short
  unfold wireLimit
  omega

/-- An answer of the phone that the desktop reads. -/
def Understood (response : PermissionSyncResponse) : Prop :=
  ∃ payload, response.encode = .ok payload ∧ ∃ read, Protocol.SyncResponse.decode payload = .ok read

theorem understood_iff {response : PermissionSyncResponse} :
    response.Understood ↔ 0 ≤ response.revision.toInt ∧ response.desktop.validate = .ok () := by
  constructor
  · intro ⟨payload, encoded, read, run⟩
    obtain ⟨⟨_, up⟩, _⟩ := encode_eq_ok.mp encoded
    obtain ⟨same, valid⟩ := desktop_of_decoded encoded run
    exact ⟨up, same ▸ valid⟩
  · intro ⟨up, valid⟩
    have checks := valid
    simp only [Protocol.SyncResponse.validate, except_bind_eq_ok] at checks
    obtain ⟨_, set, size⟩ := checks
    obtain ⟨few, each⟩ := Protocol.checkSet_eq_ok.mp set
    have phone : checkSet response.permissions = .ok () :=
      checkSet_eq_ok.mpr ⟨few, fun permission granted => isValid_of_validate (each permission granted)⟩
    exact ⟨_, encode_eq_ok.mpr ⟨⟨phone, up⟩, rfl⟩, _,
      Protocol.SyncResponse.exact.complete response.desktop valid (except_require_eq_ok.mp size)⟩

end PermissionSyncResponse

end Mobile

end BioAuth
