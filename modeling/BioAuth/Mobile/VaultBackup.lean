import BioAuth.Mobile.VaultExport
import BioAuth.Native.VaultStore
import BioAuth.Native.VaultStoreRuns

namespace BioAuth.Mobile
open BioAuth
open BioAuth.Native (ChannelValue VaultStoreFailure VaultItem Operation Vault)

/-- What a call of the app's vault throws. -/
inductive VaultThrown
  | thrown (thrown : Thrown)
  | backup (thrown : BackupThrown)
  | platform (failure : VaultStoreFailure)
  deriving DecidableEq

namespace VaultStore

structure VaultItemInput where
  kind : VaultItemKind
  name : String
  username : String
  uri : String
  secret : String
  deriving DecidableEq

/-- `toMap` of an item that has no id yet. -/
def VaultItemInput.toMap (input : VaultItemInput) : ChannelValue :=
  .map [(.string "kind", .number (.integer input.kind.wire)), (.string "name", .string input.name),
    (.string "username", .string input.username), (.string "uri", .string input.uri),
    (.string "secret", .string input.secret)]

def textField (key : String) (map : List (ChannelValue × ChannelValue)) : Except Thrown String :=
  match ChannelValue.lookup key map with
  | .string value => .ok value
  | _ => .error (formatException ("invalid field: " ++ key))

def optionalText (key : String) (map : List (ChannelValue × ChannelValue)) : Except Thrown String :=
  match ChannelValue.lookup key map with
  | .null => .ok ""
  | .string value => .ok value
  | _ => .error (formatException ("invalid field: " ++ key))

/-- `VaultItemKind.values[_kind(value)]`. -/
def kindField (map : List (ChannelValue × ChannelValue)) : Except Thrown VaultItemKind :=
  match ChannelValue.lookup "kind" map with
  | .number (.integer value) =>
    if value = 0 then .ok .login
    else if value = 1 then .ok .note
    else if value = 2 then .ok .totp
    else .error (formatException "invalid vault item kind")
  | _ => .error (formatException "invalid field: kind")

def readInput : ChannelValue → Except Thrown VaultItemInput
  | .map map => do
    let kind ← kindField map
    let name ← textField "name" map
    let username ← optionalText "username" map
    let uri ← optionalText "uri" map
    let secret ← textField "secret" map
    return { kind, name, username, uri, secret }
  | _ => .error (formatException "invalid vault item")

/-- `NativeVaultStore.exportAll`, once the channel has answered. -/
def exportAll (raw : ChannelValue) : Except Thrown (List VaultItemInput) :=
  match raw with
  | .map map =>
    match ChannelValue.lookup "items" map with
    | .list values => values.mapM readInput
    | _ => .error (formatException "invalid vault response")
  | _ => .error (formatException "invalid vault response")

def validate (input : VaultItemInput) : Except Thrown Unit := do
  require (input.name ≠ "" ∧ utf16Len input.name ≤ 255) .argumentError
  require (utf16Len input.username ≤ 255 ∧ utf16Len input.uri ≤ 1024) .argumentError
  require (input.secret ≠ "" ∧ utf16Len input.secret ≤ 4096) .argumentError

def VaultItemInput.toExport (input : VaultItemInput) : VaultExportItem :=
  { kind := input.kind, name := input.name, username := input.username, uri := input.uri, secret := input.secret }

end VaultStore

def VaultExportItem.toInput (item : VaultExportItem) : VaultStore.VaultItemInput :=
  { kind := item.kind, name := item.name, username := item.username, uri := item.uri, secret := item.secret }

section Backup
variable [Crypto]

/-- What `exportBackup` makes of the items the store holds. -/
def exportBackup (items : List VaultItem) (key : Block 32) (createdAt : DateTime) (salt : Block 16) (nonce : Block 12) :
    Except VaultThrown Bytes := do
  let answer := .map [(.string "items", .list (Native.VaultStoreData.export items))]
  let inputs ← (VaultStore.exportAll answer).mapError .thrown
  (sealVaultExport (inputs.map VaultStore.VaultItemInput.toExport) key createdAt salt nonce).mapError .backup

/-- What `restoreBackup` makes of a file and the items the store holds. -/
def restoreBackup (file : Bytes) (key : Block 32) (items : List VaultItem) (randomUUID : Nat → String) (nowMs : Int64) :
    Except VaultThrown Native.VaultStoreData.Restored := do
  let opened ← (openVaultExport file key).mapError .backup
  let inputs := opened.map VaultExportItem.toInput
  (inputs.forM VaultStore.validate).mapError .thrown
  let arguments := [(.string "items", .list (inputs.map VaultStore.VaultItemInput.toMap))]
  let incoming ← (Native.Request.restoreItems arguments).mapError .platform
  (Native.VaultStoreData.restore randomUUID items incoming nowMs).mapError .platform

end Backup

/-- An item up to its id, its revision and its time. -/
def account (item : VaultItem) : Native.VaultItemInput :=
  { id := none, kind := item.kind, name := item.name, username := item.username, uri := item.uri, secret := item.secret }

namespace VaultStore

/-- The kind of an item the store has checked. -/
def kindOf (kind : Int32) : VaultItemKind := if kind = 0 then .login else if kind = 1 then .note else .totp

theorem kindOf_wire {kind : Int32} (within : Native.KindRange kind.toInt) :
    (kindOf kind).wire = Int64.ofInt kind.toInt ∧ Int32.ofInt (kindOf kind).wire.toInt = kind := by
  have same : kind = 0 ∨ kind = 1 ∨ kind = 2 := by
    have whole := Int32.ofInt_toInt kind
    obtain ⟨low, high⟩ := within
    have few : kind.toInt = 0 ∨ kind.toInt = 1 ∨ kind.toInt = 2 := by omega
    rcases few with zero | one | two
    · exact Or.inl (by rw [← whole, zero]; rfl)
    · exact Or.inr (Or.inl (by rw [← whole, one]; rfl))
    · exact Or.inr (Or.inr (by rw [← whole, two]; rfl))
  rcases same with rfl | rfl | rfl
  · decide
  · decide
  · decide

/-- An item as the app holds it in between. -/
def held (item : VaultItem) : VaultItemInput :=
  { kind := kindOf item.kind, name := item.name, username := item.username, uri := item.uri, secret := item.secret }

theorem readInput_exportFields {item : VaultItem} (fits : item.Fits) :
    readInput (.map (Native.VaultStoreData.exportFields item)) = .ok (held item) := by
  have kind : kindField (Native.VaultStoreData.exportFields item) = .ok (kindOf item.kind) := by
    have found : ChannelValue.lookup "kind" (Native.VaultStoreData.exportFields item) =
        .number (.integer (Int64.ofInt item.kind.toInt)) := rfl
    rw [kindField, found, ← (kindOf_wire fits.contents.kind).1]
    cases kindOf item.kind <;> rfl
  rw [readInput, kind]
  rfl

theorem exportAll_export {items : List VaultItem} (fits : ∀ item ∈ items, item.Fits) :
    exportAll (.map [(.string "items", .list (Native.VaultStoreData.export items))]) = .ok (items.map held) := by
  have each := except_mapM_eq_ok fun item member => readInput_exportFields (fits item member)
  have whole : exportAll (.map [(.string "items", .list (Native.VaultStoreData.export items))]) =
      (items.map fun item => .map (Native.VaultStoreData.exportFields item)).mapM readInput := rfl
  rw [whole, List.mapM_map]
  exact each

theorem fromArguments_toMap {item : VaultItem} (fits : item.Fits) :
    Native.VaultItemInput.fromArguments (held item).toMap false = .ok (account item) := by
  obtain ⟨within, name, username, uri, secret⟩ := fits.contents
  have kind : Native.VaultItemInput.kindField [(.string "kind", .number (.integer (held item).kind.wire)),
      (.string "name", .string item.name), (.string "username", .string item.username), (.string "uri", .string item.uri),
      (.string "secret", .string item.secret)] = .ok item.kind := by
    have back : Int32.ofInt (held item).kind.wire.toInt = item.kind := (kindOf_wire within).2
    generalize (held item).kind = kind at back ⊢
    rw [← back]
    cases kind <;> rfl
  unfold Native.VaultItemInput.fromArguments
  simp only [except_bind_eq_ok, except_pure_eq_ok, Native.validateText_eq_ok, except_require_eq_ok, exists_const]
  refine ⟨_, rfl, none, rfl, Or.inl trivial, (), rfl, item.kind, kind, item.name, rfl, item.username, rfl, item.uri, rfl,
    item.secret, rfl, ⟨Or.inr name.1, name.2⟩, ⟨Or.inl trivial, username⟩, ⟨Or.inl trivial, uri⟩, ⟨Or.inr secret.1, secret.2⟩, rfl⟩

theorem restoreItems_held {items : List VaultItem} (fits : ∀ item ∈ items, item.Fits)
    (few : items.length ≤ Native.VaultStoreData.maxItems) :
    Native.Request.restoreItems [(.string "items", .list ((items.map held).map VaultItemInput.toMap))] =
      .ok (items.map account) := by
  have found : ChannelValue.lookup "items" [(.string "items", .list ((items.map held).map VaultItemInput.toMap))] =
      .list ((items.map held).map VaultItemInput.toMap) := rfl
  rw [Native.Request.restoreItems, found]
  simp only [except_bind_eq_ok, except_require_eq_ok, exists_const, List.length_map, List.mapM_map]
  exact ⟨few, except_mapM_eq_ok fun item member => fromArguments_toMap (fits item member)⟩

theorem validate_held {items : List VaultItem} (fits : ∀ item ∈ items, item.Fits) :
    (items.map held).forM validate = .ok () := by
  rw [except_forM_eq_ok]
  intro input member
  obtain ⟨item, here, rfl⟩ := List.mem_map.mp member
  obtain ⟨_, name, username, uri, secret⟩ := (fits item here).contents
  simp only [validate, except_bind_eq_ok, except_require_eq_ok, exists_const]
  exact ⟨name, ⟨username, uri⟩, secret⟩

end VaultStore

/-- No text of the item starts with a byte order mark. -/
def Unmarked (item : VaultItem) : Prop :=
  ∀ text ∈ [item.name, item.username, item.uri, item.secret], dropMark text = text

instance (item : VaultItem) : Decidable (Unmarked item) :=
  inferInstanceAs (Decidable (∀ text ∈ [item.name, item.username, item.uri, item.secret], dropMark text = text))

/-- The export of a vault and what restoring it comes to. -/
structure Backed [Crypto] (items : List VaultItem) (key : Block 32) (file : Bytes) : Prop where
  /-- Into an empty vault: the first item of each kind, name, username and address, in order. -/
  moved : ∀ randomUUID nowMs, ∃ restored, restoreBackup file key [] randomUUID nowMs = .ok restored ∧
    restored.items.map account = unseen Native.VaultItemInput.identity [] (items.map account)
  whole : (items.map VaultItem.identity).Nodup → ∀ randomUUID nowMs restored,
    restoreBackup file key [] randomUUID nowMs = .ok restored → restored.items.map account = items.map account
  /-- Onto the same vault, while twice its items do not pass the ceiling: nothing is added and nothing changes. -/
  again : 2 * items.length ≤ Native.VaultStoreData.maxItems → ∀ randomUUID nowMs,
    restoreBackup file key items randomUUID nowMs = .ok ⟨items, 0, items.length⟩

theorem account_numbered (randomUUID : Nat → String) (nowMs : Int64) (drawn : Nat) {incoming : List Native.VaultItemInput}
    (fresh : ∀ input ∈ incoming, input.id = none) :
    (Native.VaultStoreData.numbered randomUUID nowMs drawn incoming).map account = incoming := by
  induction incoming generalizing drawn with
  | nil => rfl
  | cons input incoming ih =>
    rw [List.forall_mem_cons] at fresh
    rw [Native.VaultStoreData.numbered_cons, List.map_cons, ih _ fresh.2]
    refine congrArg (· :: incoming) ?_
    cases input
    cases fresh.1
    rfl

theorem backed [Crypto] (correct : Crypto.chacha20Poly1305.Correct tagLen) {items : List VaultItem}
    (fits : ∀ item ∈ items, item.Fits) (room : items.length ≤ Native.VaultStoreData.maxItems)
    (unmarked : ∀ item ∈ items, Unmarked item) (key : Block 32) (createdAt : DateTime) (salt : Block 16)
    (nonce : Block 12) : ∃ file, exportBackup items key createdAt salt nonce = .ok file ∧ Backed items key file := by
  have plain : ∀ item ∈ (items.map VaultStore.held).map VaultStore.VaultItemInput.toExport, VaultExport.Plain item := by
    simp only [List.map_map, List.forall_mem_map]
    intro item member
    obtain ⟨_, name, username, uri, secret⟩ := (fits item member).contents
    have texts := unmarked item member
    simp only [Unmarked, List.forall_mem_cons] at texts
    exact ⟨⟨name.2, username, uri, secret.2⟩, texts.1, texts.2.1, texts.2.2.1, texts.2.2.2.1⟩
  have few : ((items.map VaultStore.held).map VaultStore.VaultItemInput.toExport).length ≤ maxExportItems := by
    rw [List.length_map, List.length_map]
    exact room
  obtain ⟨file, written, opened⟩ :=
    VaultExport.openVaultExport_sealVaultExport correct few plain key createdAt salt nonce
  have inputs : ((items.map VaultStore.held).map VaultStore.VaultItemInput.toExport).map VaultExportItem.toInput =
      items.map VaultStore.held := by
    simp only [List.map_map]
    rfl
  have restores (old : List VaultItem) (randomUUID : Nat → String) (nowMs : Int64) :
      restoreBackup file key old randomUUID nowMs =
        (Native.VaultStoreData.restore randomUUID old (items.map account) nowMs).mapError .platform := by
    rw [restoreBackup, opened]
    dsimp only [Except.mapError, bind, Except.bind]
    rw [inputs, VaultStore.validate_held fits, VaultStore.restoreItems_held fits room]
  have ceiling : Native.VaultStoreData.maxItems = 4096 := rfl
  have moved (randomUUID : Nat → String) (nowMs : Int64) : ∃ restored,
      restoreBackup file key [] randomUUID nowMs = .ok restored ∧
        restored.items.map account = unseen Native.VaultItemInput.identity [] (items.map account) := by
    refine ⟨_, (restores _ _ _).trans (except_mapError_eq_ok.mpr
      (Native.VaultStoreData.restore_eq_ok.mpr ⟨by simpa using room, rfl⟩)), ?_⟩
    refine account_numbered randomUUID nowMs 0 fun input member => ?_
    obtain ⟨item, _, rfl⟩ := List.mem_map.mp ((unseen_sublist _ _).subset member)
    rfl
  have identities : (items.map account).map Native.VaultItemInput.identity = items.map VaultItem.identity := by
    rw [List.map_map]
    rfl
  refine ⟨file, ?_, moved, ?_, ?_⟩
  · rw [exportBackup, VaultStore.exportAll_export fits]
    exact except_mapError_eq_ok.mpr written
  · intro distinct randomUUID nowMs restored run
    obtain ⟨other, again, items⟩ := moved randomUUID nowMs
    cases run.symm.trans again
    rw [items]
    exact unseen_of_nodup (by rwa [identities]) fun _ _ => List.not_mem_nil
  · intro twice randomUUID nowMs
    have nothing : unseen Native.VaultItemInput.identity (items.map VaultItem.identity) (items.map account) = [] :=
      unseen_of_seen fun input member => by
        rw [← identities]
        exact List.mem_map_of_mem member
    rw [restores]
    refine except_mapError_eq_ok.mpr (Native.VaultStoreData.restore_eq_ok.mpr ⟨by rw [List.length_map]; omega, ?_⟩)
    rw [nothing]
    simp [Native.VaultStoreData.numbered]

def plainKey : Block 32 := ⟨List.replicate 32 7, by decide⟩
def plainSalt : Block 16 := ⟨List.replicate 16 1, by decide⟩
def plainNonce : Block 12 := ⟨List.replicate 12 2, by decide⟩

section Reached
variable [Crypto] {randomUUID : Nat → String}

/-- Of every vault that calls have made. -/
theorem backup_restores (correct : Crypto.chacha20Poly1305.Correct tagLen) (ids : Native.Ids randomUUID)
    (operations : List Operation) (accepted : ∀ operation ∈ operations, operation.Accepted)
    (distinct : Native.Distinct randomUUID (Vault.empty.afterAll randomUUID operations).drawn)
    (unmarked : ∀ item ∈ (Vault.empty.afterAll randomUUID operations).items, Unmarked item) (key : Block 32)
    (createdAt : DateTime) (salt : Block 16) (nonce : Block 12) :
    ∃ file, exportBackup (Vault.empty.afterAll randomUUID operations).items key createdAt salt nonce = .ok file ∧
      Backed (Vault.empty.afterAll randomUUID operations).items key file := by
  have sound := Native.Vault.empty_sound.run ids operations accepted distinct
  exact backed correct sound.fits sound.room unmarked key createdAt salt nonce

end Reached

theorem backup_restores_plain :
    letI := Crypto.plain
    ∃ file, exportBackup (Vault.empty.afterAll Native.plainUUID Native.plainOperations).items plainKey ⟨0, by decide⟩
        plainSalt plainNonce = .ok file ∧
      Backed (Vault.empty.afterAll Native.plainUUID Native.plainOperations).items plainKey file :=
  letI := Crypto.plain
  backup_restores (Aead.plain_correct _ _ _) Native.plainUUID_ids Native.plainOperations
    Native.plainOperations_accepted (by decide +kernel) (by
      rw [Native.plainOperations_items]
      decide) _ _ _ _

/-- Two logins of one name on one site, as they can be created. -/
def namesakes : List Operation := [.create (Native.plainInput none "one") 10, .create (Native.plainInput none "two") 20]

/-- Of two items that differ in nothing but the secret a backup brings back the first. -/
theorem backup_drops_namesake :
    letI := Crypto.plain
    (∀ operation ∈ namesakes, operation.Accepted) ∧
      ∃ file restored,
        exportBackup (Vault.empty.afterAll Native.plainUUID namesakes).items plainKey ⟨0, by decide⟩ plainSalt plainNonce =
          .ok file ∧
        restoreBackup file plainKey [] Native.plainUUID 30 = .ok restored ∧
        ¬(restored.items.map account).Perm ((Vault.empty.afterAll Native.plainUUID namesakes).items.map account) := by
  let := Crypto.plain
  have run : (do
      let file ← exportBackup (Vault.empty.afterAll Native.plainUUID namesakes).items plainKey ⟨0, by decide⟩ plainSalt
        plainNonce
      let restored ← restoreBackup file plainKey [] Native.plainUUID 30
      return restored.items.length) = .ok 1 := by
    decide +kernel
  have two : (Vault.empty.afterAll Native.plainUUID namesakes).items.length = 2 := by decide +kernel
  simp only [except_bind_eq_ok, except_pure_eq_ok] at run
  obtain ⟨file, written, restored, read, one⟩ := run
  refine ⟨?_, file, restored, written, read, fun same => ?_⟩
  · intro operation member
    simp only [namesakes, List.mem_cons, List.not_mem_nil, or_false] at member
    rcases member with rfl | rfl
    · exact ⟨Native.plainFields .null "one", by decide⟩
    · exact ⟨Native.plainFields .null "two", by decide⟩
  · have lengths := same.length_eq
    rw [List.length_map, List.length_map] at lengths
    omega

end BioAuth.Mobile
