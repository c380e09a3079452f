import BioAuth.Agent.PermissionConvergence

namespace BioAuth

namespace Protocol

theorem Permission.text_octets {permission : Permission} (valid : permission.validate = .ok ()) {text : String}
    (field : text ∈ permission.texts) : (utf8 text).length ≤ 765 := by
  have units := (Permission.validate_eq_ok.mp valid text field).2
  have octets := utf8_length_le text
  unfold maxFieldUnits at units
  omega

/-- How many octets a grant comes to. -/
def Permission.size (permission : Permission) : Nat := 1 + (permission.texts.map Writer.textSize).sum

theorem Permission.write_length {permission : Permission} (valid : permission.validate = .ok ()) :
    permission.write.length = permission.size := by
  have short (text : String) (field : text ∈ permission.texts) := text_octets valid field
  simp only [Permission.texts, List.forall_mem_cons] at short
  obtain ⟨service, action, resource, user, _⟩ := short
  have array : (Writer.array 4).length = 1 := rfl
  simp only [Permission.write, Permission.size, Permission.texts, List.flatten_cons, List.flatten_nil, List.map_cons,
    List.map_nil, List.sum_cons, List.sum_nil, List.length_append, List.length_nil, array]
  rw [Writer.text_length (by omega), Writer.text_length (by omega), Writer.text_length (by omega),
    Writer.text_length (by omega)]

def setSize (permissions : List Permission) : Nat :=
  Writer.headSize permissions.length + (permissions.map Permission.size).sum

theorem grants_length {permissions : List Permission}
    (valid : ∀ permission ∈ permissions, permission.validate = .ok ()) :
    (permissions.flatMap Permission.write).length = (permissions.map Permission.size).sum := by
  induction permissions with
  | nil => rfl
  | cons permission permissions ih =>
    obtain ⟨first, rest⟩ := List.forall_mem_cons.mp valid
    rw [List.flatMap_cons, List.length_append, Permission.write_length first, ih rest, List.map_cons, List.sum_cons]

theorem writeSet_length {permissions : List Permission} (valid : checkSet permissions = .ok ()) :
    (writeSet permissions).length = setSize permissions := by
  obtain ⟨few, each⟩ := checkSet_eq_ok.mp valid
  have count : (UInt64.ofNat permissions.length).toNat = permissions.length := by
    rw [UInt64.toNat_ofNat']
    unfold maxPermissions at few
    omega
  rw [writeSet, List.length_append, grants_length each, Writer.array, Writer.head_length, count, setSize]

/-- How many octets the request comes to. -/
def SyncRequest.size (request : SyncRequest) : Nat :=
  2 + Writer.textSize request.verifierName + Writer.headSize request.revision.toNat + setSize request.permissions

def SyncResponse.size (response : SyncResponse) : Nat :=
  2 + Writer.headSize response.revision.toNat + setSize response.permissions

theorem SyncRequest.encode_length {request : SyncRequest} {field : String} {max : Nat}
    (named : checkText field request.verifierName max = .ok ()) (limit : max ≤ 255)
    (set : checkSet request.permissions = .ok ()) : request.encode.length = request.size := by
  have octets := text_short named
  have array : (Writer.array syncRequestFields).length = 1 := rfl
  have schema : (Writer.uint permissionsSchema).length = 1 := rfl
  simp only [SyncRequest.encode, SyncRequest.body, SyncRequest.size, List.flatten_cons, List.flatten_nil,
    List.length_append, List.length_nil, array, schema, Writer.uint_length request.revision, writeSet_length set]
  rw [Writer.text_length (by omega)]
  omega

theorem SyncResponse.encode_length {response : SyncResponse} (set : checkSet response.permissions = .ok ()) :
    response.encode.length = response.size := by
  have array : (Writer.array syncResponseFields).length = 1 := rfl
  have schema : (Writer.uint permissionsSchema).length = 1 := rfl
  simp only [SyncResponse.encode, SyncResponse.body, SyncResponse.size, List.flatten_cons, List.flatten_nil,
    List.length_append, List.length_nil, array, schema, Writer.uint_length response.revision, writeSet_length set]
  omega

theorem SyncRequest.validate_eq_ok {request : SyncRequest} :
    request.validate = .ok () ↔
      checkText "verifierName" request.verifierName 255 = .ok () ∧ checkSet request.permissions = .ok () ∧
        request.size ≤ maxApplicationPayloadBytes := by
  simp only [SyncRequest.validate, except_bind_eq_ok]
  constructor
  · rintro ⟨_, named, _, set, size⟩
    rw [SyncRequest.encode_length named le_rfl set] at size
    exact ⟨named, set, except_require_eq_ok.mp size⟩
  · rintro ⟨named, set, size⟩
    rw [← SyncRequest.encode_length named le_rfl set] at size
    exact ⟨(), named, (), set, except_require_eq_ok.mpr size⟩

theorem SyncResponse.validate_eq_ok {response : SyncResponse} :
    response.validate = .ok () ↔
      checkSet response.permissions = .ok () ∧ response.size ≤ maxApplicationPayloadBytes := by
  simp only [SyncResponse.validate, except_bind_eq_ok]
  constructor
  · rintro ⟨_, set, size⟩
    rw [SyncResponse.encode_length set] at size
    exact ⟨set, except_require_eq_ok.mp size⟩
  · rintro ⟨set, size⟩
    rw [← SyncResponse.encode_length set] at size
    exact ⟨(), set, except_require_eq_ok.mpr size⟩

end Protocol

namespace Agent
open BioAuth
open BioAuth.Mobile (PermissionSet PermissionSets PermissionSyncRequest PermissionSyncResponse)
open BioAuth.Protocol (Permission SyncRequest SyncResponse blank maxApplicationPayloadBytes)
open BioAuth.Verifier (Kept PairedCredential PairedDevice PairingStore)

/-- What an attempt to settle offers of a credential. -/
def offer (verifierName : String) (credential : PairedCredential) : SyncRequest where
  verifierName := verifierName
  revision := credential.permissionsRevision
  permissions := credential.permissions

/-- The request can be sent, and the phone reads it. -/
def Offered (request : SyncRequest) : Prop :=
  request.validate = .ok () ∧ ∃ read, PermissionSyncRequest.decode (.ofBytes request.encode) = .ok read

/-- A request with a set that was accepted at revision zero. -/
theorem offered_iff {request : SyncRequest} (accepted : SyncRequest.validate { request with revision := 0 } = .ok ()) :
    Offered request ↔ request.size ≤ maxApplicationPayloadBytes ∧ request.revision.toNat < 2 ^ 63 ∧
      ∀ text ∈ PermissionSyncRequest.requestTexts request, Mobile.marked text = false := by
  obtain ⟨named, set, _⟩ := SyncRequest.validate_eq_ok.mp accepted
  have valid : request.validate = .ok () ↔ request.size ≤ maxApplicationPayloadBytes :=
    ⟨fun valid => (SyncRequest.validate_eq_ok.mp valid).2.2, fun size => SyncRequest.validate_eq_ok.mpr ⟨named, set, size⟩⟩
  rw [Offered, valid]
  refine and_congr_right fun size => ?_
  have length : request.encode.length = request.size := SyncRequest.encode_length named le_rfl set
  have whole : (Mobile.Uint8List.ofBytes request.encode).octets = request.encode := by
    refine Mobile.Uint8List.ofBytes_octets ?_
    unfold maxApplicationPayloadBytes at size
    omega
  exact PermissionSyncRequest.decode_accepts_iff (valid.mpr size) whole

/-- A set of the phone that the desktop reads. -/
theorem understood_iff (set : PermissionSet) :
    set.response.Understood ↔ 0 ≤ set.revision.toInt ∧ set.permissions.length ≤ Protocol.maxPermissions ∧
      (∀ permission ∈ set.permissions, ∀ text ∈ permission.texts,
        blank text = false ∧ utf16Len text ≤ Protocol.maxFieldUnits) ∧
      set.response.desktop.size ≤ maxApplicationPayloadBytes := by
  rw [PermissionSyncResponse.understood_iff, SyncResponse.validate_eq_ok, Protocol.checkSet_eq_ok, and_assoc]
  simp only [Permission.validate_eq_ok]
  rfl

section Edits
variable {σ : Type} [JsonText]

/-- What an accepted edit leaves the desktop to offer. -/
theorem edit_offers {kept after : Kept σ} (keyed : kept.store.Keyed)
    {verifierName deviceId credentialId : String} {permissions : List Permission}
    (run : setPermissions verifierName deviceId credentialId permissions kept = (.ok (), after)) :
    SyncRequest.validate { verifierName, revision := 0, permissions } = .ok () ∧
      ∃ before credential, credentialOf kept.store deviceId credentialId = some before ∧
        credentialOf after.store deviceId credentialId = some credential ∧
        offer verifierName credential = ⟨verifierName, nextRevision before.permissionsRevision, permissions⟩ := by
  rcases (setPermissions_cases keyed run).2 with ⟨before, known, accepted, changed⟩ | ⟨_, error, failed⟩
  · exact ⟨accepted, before, _, known, changed, rfl⟩
  · cases failed

/-- An accepted edit can be synced exactly when its revision leaves it room in a payload and fits the phone's numbers, and
none of its texts starts with a byte order mark; the desktop reads exactly those sets of the phone that it could hold. -/
theorem permission_edits_sync_iff {path : Option Locker.Path} {world left : Locker.World σ} {store : PairingStore}
    (loaded : Verifier.load path world = (.ok store, left)) (whose : Grantee) (sets : PermissionSets)
    (acts : List PermissionAct) :
    (∀ permissions after, setPermissions whose.verifierName whose.deviceId whose.credentialId permissions
        (Sides.afterAll whose ⟨⟨store, left⟩, sets⟩ acts).kept = (.ok (), after) →
      ∃ before credential,
        credentialOf (Sides.afterAll whose ⟨⟨store, left⟩, sets⟩ acts).kept.store whose.deviceId whose.credentialId =
          some before ∧
        credentialOf after.store whose.deviceId whose.credentialId = some credential ∧
        (Offered (offer whose.verifierName credential) ↔
          SyncRequest.size ⟨whose.verifierName, nextRevision before.permissionsRevision, permissions⟩ ≤
              maxApplicationPayloadBytes ∧
            (nextRevision before.permissionsRevision).toNat < 2 ^ 63 ∧
            ∀ text ∈ whose.verifierName :: permissions.flatMap Permission.texts, Mobile.marked text = false)) ∧
    ∀ set : PermissionSet, set.response.Understood ↔
      0 ≤ set.revision.toInt ∧ set.permissions.length ≤ Protocol.maxPermissions ∧
        (∀ permission ∈ set.permissions, ∀ text ∈ permission.texts,
          blank text = false ∧ utf16Len text ≤ Protocol.maxFieldUnits) ∧
        set.response.desktop.size ≤ maxApplicationPayloadBytes := by
  refine ⟨fun permissions after run => ?_, understood_iff⟩
  obtain ⟨accepted, before, credential, known, changed, offered⟩ :=
    edit_offers (Sides.afterAll_keyed (Verifier.load_keyed loaded) acts) run
  refine ⟨before, credential, known, changed, ?_⟩
  rw [offered]
  exact offered_iff accepted

omit [JsonText] in
/-- An amended credential is bound as it was. -/
theorem checkConflicts_amend (store : PairingStore) (device : PairedDevice) (credentialId : String)
    (change : PairedCredential → PairedCredential)
    (keeps : ∀ credential, (change credential).credentialId = credential.credentialId ∧
      (change credential).publicKey = credential.publicKey) :
    store.checkConflicts (amend credentialId change device) = store.checkConflicts device := by
  have bound (credential : PairedCredential) :
      store.checkConflict device (change credential) = store.checkConflict device credential := by
    obtain ⟨id, key⟩ := keeps credential
    simp only [PairingStore.checkConflict, id, key]
  have all (credentials : List PairedCredential) :
      (amendFirst credentialId change credentials).forM (store.checkConflict device) =
        credentials.forM (store.checkConflict device) := by
    induction credentials with
    | nil => rfl
    | cons credential rest ih =>
      unfold amendFirst
      by_cases named : credential.credentialId = credentialId
      · rw [if_pos named]
        exact congrArg (· >>= fun _ => rest.forM (store.checkConflict device)) (bound credential)
      · rw [if_neg named]
        exact congrArg (fun later => store.checkConflict device credential >>= fun _ => later) ih
  exact all device.credentials

/-- A store in memory accepts every set that is checked. -/
theorem setPermissions_accepts {kept : Kept σ} {verifierName deviceId credentialId : String}
    {permissions : List Permission} {found : PairedDevice × PairedCredential} (memory : kept.store.path = none)
    (listed : lookup kept.store deviceId credentialId = .ok found)
    (free : kept.store.checkConflicts found.1 = .ok ())
    (valid : SyncRequest.validate { verifierName, revision := 0, permissions } = .ok ()) :
    (setPermissions verifierName deviceId credentialId permissions kept).1 = .ok () := by
  let change (credential : PairedCredential) : PairedCredential :=
    granted permissions (nextRevision credential.permissionsRevision) credential
  have amended : kept.store.checkConflicts (amend credentialId change found.1) = .ok () :=
    (checkConflicts_amend kept.store found.1 credentialId change fun _ => ⟨rfl, rfl⟩).trans free
  have ends := Verifier.insert_ends (amend credentialId change found.1) kept
  unfold setPermissions
  rw [Fallible.bind_run_ok _ (Fallible.get_run kept), listed, Fallible.bind_run_ok _ (Fallible.liftM_run _ kept), valid]
  change (Fallible.mapError PermissionsError.storeWriteFailed (Verifier.insert (amend credentialId change found.1))
    kept).1 = .ok ()
  rw [Fallible.mapError_run]
  rcases run : Verifier.insert (amend credentialId change found.1) kept with ⟨error | _, after⟩
  · rcases ends.bad_of_run run with ⟨conflict, _⟩ | ⟨_, _, _, _, path, named, _⟩
    · rw [amended] at conflict
      cases conflict
    · rw [memory] at named
      cases named
  · rfl

end Edits

section Lost

/-- An edit that is accepted and cannot be synced. -/
def LostEdit (whose : Grantee) (kept : Kept Unit) (permissions : List Permission) : Prop :=
  letI := Verifier.plainJson
  ∃ after credential, setPermissions whose.verifierName whose.deviceId whose.credentialId permissions kept = (.ok (), after) ∧
    credentialOf after.store whose.deviceId whose.credentialId = some credential ∧
    ¬Offered (offer whose.verifierName credential)

theorem nothingPaired :
    letI := Verifier.plainJson
    Verifier.load none (Locker.World.holding []) =
      (.ok (⟨none, ∅⟩ : PairingStore), (Locker.World.holding [] : Locker.World Unit)) := rfl

theorem lostEdit_of_checked {whose : Grantee} {kept : Kept Unit} (keyed : kept.store.Keyed)
    {permissions : List Permission} {device : PairedDevice} {credential : PairedCredential}
    (memory : kept.store.path = none)
    (listed : (lookup kept.store whose.deviceId whose.credentialId).toOption = some (device, credential))
    (free : (kept.store.checkConflicts device).toOption = some ())
    (valid : SyncRequest.validate { verifierName := whose.verifierName, revision := 0, permissions } = .ok ())
    (gap : ¬(SyncRequest.size ⟨whose.verifierName, nextRevision credential.permissionsRevision, permissions⟩ ≤
        maxApplicationPayloadBytes ∧ ∀ text ∈ permissions.flatMap Permission.texts, Mobile.marked text = false)) :
    LostEdit whose kept permissions := by
  let _ := Verifier.plainJson
  have found := except_toOption_eq_some.mp listed
  have accepted := setPermissions_accepts memory found (except_toOption_eq_some.mp free) valid
  rcases run : setPermissions whose.verifierName whose.deviceId whose.credentialId permissions kept with
    ⟨result, after⟩
  rw [run] at accepted
  replace accepted : result = .ok () := accepted
  subst accepted
  obtain ⟨_, before, now, known, changed, offered⟩ := edit_offers keyed run
  cases known.symm.trans (credentialOf_of_lookup found)
  refine ⟨after, now, run, changed, fun heard => ?_⟩
  rw [offered] at heard
  have room : Offered ⟨whose.verifierName, nextRevision credential.permissionsRevision, permissions⟩ ↔ _ :=
    offered_iff valid
  obtain ⟨size, _, unmarked⟩ := room.mp heard
  exact gap ⟨size, fun text field => unmarked text (List.mem_cons_of_mem _ field)⟩

def markedGrants : List Permission := [⟨"\uFEFFsudo", "*", "*", "*"⟩]

/-- A text of so many letters. -/
def letters (count : Nat) : String := String.ofList (List.replicate count 'a')

theorem letters_octets (count : Nat) : (utf8 (letters count)).length = count := by
  rw [utf8_eq_flatMap, letters, String.toList_ofList, List.length_flatMap, List.map_replicate, List.sum_replicate_nat]
  exact Nat.mul_one count

theorem letters_units (count : Nat) : utf16Len (letters count) = count := by
  rw [utf16Len, letters, String.toList_ofList, List.map_replicate, List.sum_replicate_nat]
  exact Nat.mul_one count

theorem letters_filled {count : Nat} (some : count ≠ 0) : blank (letters count) = false := by
  obtain ⟨count, rfl⟩ := Nat.exists_eq_succ_of_ne_zero some
  rw [blank, letters, String.toList_ofList, List.replicate_succ, List.all_cons]
  rfl

theorem letters_size {count : Nat} (long : 23 < count) (short : count ≤ 255) :
    Writer.textSize (letters count) = 2 + count := by
  rw [Writer.textSize, letters_octets, Writer.headSize, if_neg (by omega), if_pos (by omega)]

theorem letters_checked {count : Nat} (some : count ≠ 0) (short : count ≤ 255) :
    blank (letters count) = false ∧ utf16Len (letters count) ≤ Protocol.maxFieldUnits := by
  refine ⟨letters_filled some, ?_⟩
  rw [letters_units]
  exact short

def lettersGrant (count : Nat) : Permission := ⟨letters 255, letters 255, letters 255, letters count⟩

theorem lettersGrant_size {count : Nat} (long : 23 < count) (short : count ≤ 255) :
    (lettersGrant count).size = 774 + count := by
  have full : Writer.textSize (letters 255) = 257 := letters_size (by decide) le_rfl
  simp only [Permission.size, Permission.texts, lettersGrant, List.map_cons, List.map_nil, List.sum_cons, List.sum_nil,
    full, letters_size long short]
  omega

/-- Grants that come to as many octets as a payload may have, at the first revisions. -/
def brimGrants : List Permission := List.replicate 5 (lettersGrant 255) ++ [lettersGrant 216]

theorem brimGrants_size : Protocol.setSize brimGrants = 6136 := by
  have full : (lettersGrant 255).size = 1029 := lettersGrant_size (by decide) le_rfl
  have last : (lettersGrant 216).size = 990 := lettersGrant_size (by decide) (by decide)
  simp only [Protocol.setSize, brimGrants, List.map_append, List.map_replicate, List.map_cons, List.map_nil,
    List.sum_append, List.sum_replicate_nat, List.sum_cons, List.sum_nil, full, last, List.length_append,
    List.length_replicate, List.length_cons, List.length_nil]
  rfl

theorem brimGrants_checked : Protocol.checkSet brimGrants = .ok () := by
  have each {count : Nat} (some : count ≠ 0) (short : count ≤ 255) : (lettersGrant count).validate = .ok () := by
    refine Permission.validate_eq_ok.mpr ?_
    simp only [Permission.texts, lettersGrant, List.forall_mem_cons]
    have full := letters_checked (by decide : 255 ≠ 0) le_rfl
    exact ⟨full, full, full, letters_checked some short, fun _ none => absurd none List.not_mem_nil⟩
  refine Protocol.checkSet_eq_ok.mpr ⟨by decide, fun permission granted => ?_⟩
  rcases List.mem_append.mp granted with full | last
  · rw [List.eq_of_mem_replicate full]
    exact each (by decide) le_rfl
  · rw [List.mem_singleton.mp last]
    exact each (by decide) (by decide)

theorem brimGrants_valid : SyncRequest.validate { verifierName := "Desk", revision := 0, permissions := brimGrants } = .ok () := by
  refine SyncRequest.validate_eq_ok.mpr ⟨by decide +kernel, brimGrants_checked, ?_⟩
  have name : Writer.textSize "Desk" = 5 := by decide +kernel
  simp only [SyncRequest.size, name, brimGrants_size]
  decide

/-- A phone set with as many grants as there may be. -/
def crowdedSet : PermissionSet where
  revision := 1
  permissions := (List.range 64).map fun number => ⟨String.singleton (Char.ofNat (0x4e00 + number)), "*", "*", "*"⟩

def oftenEdits : List PermissionAct := .install Verifier.plainDevice :: List.replicate 23 (.edit [])

def editedOften : Sides Unit :=
  letI := Verifier.plainJson
  Sides.afterAll plainGrantee ⟨⟨⟨none, ∅⟩, Locker.World.holding []⟩, fun _ => none⟩ oftenEdits

theorem plain_keyed (acts : List PermissionAct) :
    letI := Verifier.plainJson
    (Sides.afterAll plainGrantee ⟨⟨⟨none, ∅⟩, Locker.World.holding []⟩, fun _ => none⟩ acts : Sides Unit).kept.store.Keyed :=
  letI := Verifier.plainJson
  Sides.afterAll_keyed (Verifier.load_keyed nothingPaired) acts

/-- A set with a text that starts with a byte order mark, a set that no longer fits at its own revision, and a set the
phone's screen makes one grant too long. -/
theorem permission_edits_lost :
    LostEdit plainGrantee plainSides.kept markedGrants ∧ LostEdit plainGrantee editedOften.kept brimGrants ∧
      ¬(Mobile.toggled crowdedSet "sudo" true).response.Understood := by
  let credentialAt (permissions : List Permission) (revision : UInt64) : PairedCredential :=
    ⟨"login", "EC_P256_SPKI", [4, 1], .strongBox, .authorization, permissions, revision⟩
  let deviceAt (permissions : List Permission) (revision : UInt64) : PairedDevice :=
    { Verifier.plainDevice with credentials := [credentialAt permissions revision] }
  refine ⟨?_, ?_, ?_⟩
  · have now : (lookup plainSides.kept.store "phone" "login").toOption =
        some (deviceAt [⟨"sudo", "*", "*", "*"⟩] 1, credentialAt [⟨"sudo", "*", "*", "*"⟩] 1) := by decide +kernel
    refine lostEdit_of_checked (plain_keyed plainEdits) rfl now (by decide +kernel) (by decide +kernel) fun ⟨_, unmarked⟩ => ?_
    exact absurd (unmarked "\uFEFFsudo" (by decide)) (by decide +kernel)
  · have now : (lookup editedOften.kept.store "phone" "login").toOption = some (deviceAt [] 23, credentialAt [] 23) := by
      decide +kernel
    refine lostEdit_of_checked (plain_keyed oftenEdits) (by decide +kernel) now (by decide +kernel) brimGrants_valid fun ⟨size, _⟩ => ?_
    have name : Writer.textSize "Desk" = 5 := by decide +kernel
    simp only [SyncRequest.size, plainGrantee, name, brimGrants_size] at size
    exact absurd size (by decide)
  · intro understood
    obtain ⟨_, few, _⟩ := (understood_iff _).mp understood
    have many : (Mobile.toggled crowdedSet "sudo" true).permissions.length = 65 := by decide +kernel
    rw [many] at few
    exact absurd few (by decide)

theorem permission_edits_sync_plain :
    letI := Verifier.plainJson
    ∃ after credential, setPermissions "Desk" "phone" "login" [⟨"vault", "*", "*", "*"⟩] plainSides.kept = (.ok (), after) ∧
      credentialOf after.store "phone" "login" = some credential ∧ Offered (offer "Desk" credential) := by
  let _ := Verifier.plainJson
  have accepted : (setPermissions "Desk" "phone" "login" [⟨"vault", "*", "*", "*"⟩] plainSides.kept).1.toOption = some () := by
    decide +kernel
  have now : credentialOf plainSides.kept.store "phone" "login" =
      some ⟨"login", "EC_P256_SPKI", [4, 1], .strongBox, .authorization, [⟨"sudo", "*", "*", "*"⟩], 1⟩ := by
    decide +kernel
  rcases run : setPermissions "Desk" "phone" "login" [⟨"vault", "*", "*", "*"⟩] plainSides.kept with ⟨result, after⟩
  rw [run] at accepted
  have same : result = .ok () := except_toOption_eq_some.mp accepted
  subst same
  obtain ⟨before, credential, known, changed, offered⟩ :=
    (permission_edits_sync_iff nothingPaired plainGrantee (fun _ => none) plainEdits).1 _ after run
  cases known.symm.trans now
  exact ⟨after, credential, rfl, changed, offered.mpr (by decide +kernel)⟩

end Lost

end Agent

end BioAuth
