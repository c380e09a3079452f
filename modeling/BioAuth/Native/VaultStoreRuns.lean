import BioAuth.Native.VaultStoreCodec

namespace BioAuth.Native
open BioAuth VaultStoreData

/-- A call that may change the vault. -/
inductive Operation
  | create (input : VaultItemInput) (nowMs : Int64)
  | update (input : VaultItemInput) (expectedRevision : Int32) (nowMs : Int64)
  | delete (id : String) (expectedRevision : Int32)
  | restore (incoming : List VaultItemInput) (nowMs : Int64)

/-- What it carries has been read from a request. -/
def Operation.Accepted : Operation → Prop
  | .create input _ => ∃ arguments, VaultItemInput.fromArguments arguments false = .ok input
  | .update input _ _ => ∃ arguments, VaultItemInput.fromArguments arguments true = .ok input
  | .delete _ _ => True
  | .restore incoming _ => ∀ input ∈ incoming, ∃ arguments, VaultItemInput.fromArguments arguments false = .ok input

/-- The vault, and how many ids have been drawn for it. -/
structure Vault where
  items : List VaultItem
  drawn : Nat
  deriving DecidableEq

/-- The first so many draws are told apart. -/
def Distinct (randomUUID : Nat → String) (count : Nat) : Prop :=
  ∀ a < count, ∀ b < count, randomUUID a = randomUUID b → a = b

instance (randomUUID : Nat → String) (count : Nat) : Decidable (Distinct randomUUID count) :=
  inferInstanceAs (Decidable (∀ a < count, ∀ b < count, randomUUID a = randomUUID b → a = b))

theorem Distinct.mono {randomUUID : Nat → String} {less more : Nat} (distinct : Distinct randomUUID more)
    (within : less ≤ more) : Distinct randomUUID less :=
  fun a small b little => distinct a (by omega) b (by omega)

section Runs
variable (randomUUID : Nat → String)

namespace Vault

def empty : Vault := ⟨[], 0⟩

/-- What becomes of the items, and how many ids are drawn. -/
def outcome (vault : Vault) : Operation → Except VaultStoreFailure (List VaultItem) × Nat
  | .create input nowMs =>
    ((create vault.items input nowMs (randomUUID vault.drawn)).map Prod.fst, 1)
  | .update input expectedRevision nowMs => ((update vault.items input expectedRevision nowMs).map Prod.fst, 0)
  | .delete id expectedRevision => (delete vault.items id expectedRevision, 0)
  | .restore incoming nowMs =>
    match restore (fun place => randomUUID (vault.drawn + place)) vault.items incoming nowMs with
    | .ok restored => (.ok restored.items, restored.added)
    | .error failure => (.error failure, 0)

/-- A call that fails leaves the items as they are. -/
def after (vault : Vault) (operation : Operation) : Vault :=
  let (result, draws) := vault.outcome randomUUID operation
  match result with
  | .ok items => ⟨items, vault.drawn + draws⟩
  | .error _ => ⟨vault.items, vault.drawn + draws⟩

def afterAll (vault : Vault) (operations : List Operation) : Vault := operations.foldl (after randomUUID) vault

end Vault

variable {randomUUID}

section Each
variable {items after : List VaultItem} {input : VaultItemInput} {nowMs : Int64} {id : String} {updated : VaultItem}
  {expected : Int32}

theorem create_eq_ok : create items input nowMs id = .ok (after, updated) ↔
    (id ≠ "" ∧ utf16Len id ≤ maxId) ∧ items.length < maxItems ∧ (∀ item ∈ items, item.id ≠ id) ∧
      updated = input.item id 1 nowMs ∧ after = items ++ [updated] := by
  unfold create
  simp only [except_bind_eq_ok, validateText_eq_ok, except_require_eq_ok, except_pure_eq_ok, exists_const, reduceCtorEq,
    false_or, Prod.mk.injEq]
  constructor
  · intro ⟨solid, room, fresh, items, same⟩
    exact ⟨solid, room, fresh, same.symm, by rw [← items, same]⟩
  · intro ⟨solid, room, fresh, same, items⟩
    exact ⟨solid, room, fresh, by rw [items, same], same.symm⟩

theorem update_eq_ok (distinct : (items.map VaultItem.id).Nodup) :
    update items input expected nowMs = .ok (after, updated) ↔
      ∃ current ∈ items, input.id = some current.id ∧ current.revision = expected ∧ 1 ≤ expected.toInt ∧
        expected ≠ Int32.maxValue ∧ updated = input.item current.id (expected + 1) nowMs ∧
        after = items.map fun item => if item.id = current.id then updated else item := by
  unfold update checkRevision
  simp only [except_bind_eq_ok, requireRevision_eq_ok, okOr_eq_ok, except_require_eq_ok, except_pure_eq_ok, exists_const,
    Prod.mk.injEq]
  constructor
  · intro ⟨positive, id, given, current, found, revision, before, result, same⟩
    rw [← List.find?_eq_getElem?_findIdx, find_key_eq_some distinct] at found
    obtain ⟨member, rfl⟩ := found
    subst same
    refine ⟨current, member, given, revision, positive, by rwa [← revision], by rw [revision], ?_⟩
    rw [← result, set_findIdx_key distinct]
  · intro ⟨current, member, given, revision, positive, before, same, result⟩
    refine ⟨positive, current.id, given, current, ?_, revision, by rwa [revision], ?_, by rw [same, revision]⟩
    · rw [← List.find?_eq_getElem?_findIdx, find_key_eq_some distinct]
      exact ⟨member, rfl⟩
    · rw [set_findIdx_key distinct, result, same, revision]

theorem delete_eq_ok (distinct : (items.map VaultItem.id).Nodup) :
    delete items id expected = .ok after ↔
      (id ≠ "" ∧ utf16Len id ≤ maxId) ∧ 1 ≤ expected.toInt ∧
        (∃ current ∈ items, current.id = id ∧ current.revision = expected) ∧
        after = items.filter fun item => item.id ≠ id := by
  unfold delete checkRevision
  simp only [except_bind_eq_ok, validateText_eq_ok, requireRevision_eq_ok, okOr_eq_ok, except_require_eq_ok,
    except_pure_eq_ok, exists_const, reduceCtorEq, false_or, find_key_eq_some distinct]
  constructor
  · intro ⟨solid, positive, current, ⟨member, named⟩, revision, result⟩
    exact ⟨solid, positive, ⟨current, member, named, revision⟩, result.symm⟩
  · intro ⟨solid, positive, ⟨current, member, named, revision⟩, result⟩
    exact ⟨solid, positive, current, ⟨member, named⟩, revision, result.symm⟩

end Each

/-- `UUID.randomUUID().toString()` may be the id of an item. -/
def Ids (randomUUID : Nat → String) : Prop := ∀ number, randomUUID number ≠ "" ∧ utf16Len (randomUUID number) ≤ maxId

namespace Vault

/-- What holds of the vault between two calls. -/
structure Sound (randomUUID : Nat → String) (vault : Vault) : Prop where
  fits : ∀ item ∈ vault.items, item.Fits
  ids : (vault.items.map VaultItem.id).Nodup
  room : vault.items.length ≤ maxItems
  drawn : ∀ item ∈ vault.items, ∃ number < vault.drawn, item.id = randomUUID number

theorem empty_sound : empty.Sound randomUUID where
  fits _ member := absurd member List.not_mem_nil
  ids := List.nodup_nil
  room := Nat.zero_le _
  drawn _ member := absurd member List.not_mem_nil

theorem item_fits {input : VaultItemInput} {id : String} {revision : Int32} {nowMs : Int64} (fits : input.Fits)
    (named : id ≠ "" ∧ utf16Len id ≤ maxId) (positive : 1 ≤ revision.toInt) : (input.item id revision nowMs).Fits :=
  ⟨named, positive, fits.contents⟩

theorem next_revision {revision : Int32} (positive : 1 ≤ revision.toInt) (before : revision ≠ Int32.maxValue) :
    (revision + 1).toInt = revision.toInt + 1 := by
  have other : revision.toInt ≠ 2 ^ 31 - 1 := fun same => before (Int32.toInt_inj.mp same)
  have below := revision.toInt_lt
  rw [Int32.toInt_add, Int32.toInt_one, Int.bmod_eq_of_le (by omega) (by omega)]

theorem Sound.draw_more {vault : Vault} (sound : vault.Sound randomUUID) (more : Nat) :
    Sound randomUUID ⟨vault.items, vault.drawn + more⟩ where
  fits := sound.fits
  ids := sound.ids
  room := sound.room
  drawn item member := by
    obtain ⟨number, early, named⟩ := sound.drawn item member
    exact ⟨number, Nat.lt_add_right more early, named⟩

/-- Items under ids drawn just now may be added. -/
theorem Sound.add {vault : Vault} (sound : vault.Sound randomUUID) (ids : Ids randomUUID)
    {incoming : List VaultItemInput} (fits : ∀ input ∈ incoming, input.Fits) (nowMs : Int64)
    (distinct : Distinct randomUUID (vault.drawn + incoming.length))
    (room : vault.items.length + incoming.length ≤ maxItems) :
    Sound randomUUID
      ⟨vault.items ++ numbered (fun place => randomUUID (vault.drawn + place)) nowMs 0 incoming,
        vault.drawn + incoming.length⟩ where
  fits item member := by
    rcases List.mem_append.mp member with old | new
    · exact sound.fits item old
    · obtain ⟨place, input, held, rfl⟩ := mem_numbered.mp new
      exact item_fits (fits input (List.mem_of_getElem? held)) (ids _) (by decide)
  ids := by
    rw [List.map_append, numbered_ids, List.nodup_append]
    refine ⟨sound.ids, List.nodup_range.map_on fun a small b little same => ?_, fun id old other new => ?_⟩
    · have equal := distinct _ (Nat.add_lt_add_left (List.mem_range.mp small) _) _
        (Nat.add_lt_add_left (List.mem_range.mp little) _) (by simpa using same)
      omega
    · obtain ⟨item, member, rfl⟩ := List.mem_map.mp old
      obtain ⟨place, small, rfl⟩ := List.mem_map.mp new
      obtain ⟨number, early, named⟩ := sound.drawn item member
      rw [List.mem_range] at small
      rw [named, Nat.zero_add]
      intro same
      have equal := distinct number (by omega) (vault.drawn + place) (by omega) same
      omega
  room := by
    rw [List.length_append, numbered_length]
    exact room
  drawn item member := by
    rcases List.mem_append.mp member with old | new
    · obtain ⟨number, early, named⟩ := sound.drawn item old
      exact ⟨number, Nat.lt_add_right _ early, named⟩
    · obtain ⟨place, input, held, rfl⟩ := mem_numbered.mp new
      have small := (List.getElem?_eq_some_iff.mp held).1
      exact ⟨vault.drawn + place, Nat.add_lt_add_left small _, by rw [VaultItemInput.item, Nat.zero_add]⟩

/-- An item may take the place of the one under its id. -/
theorem Sound.replace {vault : Vault} (sound : vault.Sound randomUUID) {current updated : VaultItem}
    (member : current ∈ vault.items) (fits : updated.Fits) (named : updated.id = current.id) :
    Sound randomUUID
      ⟨vault.items.map fun item => if item.id = current.id then updated else item, vault.drawn⟩ where
  fits item here := by
    obtain ⟨old, known, same⟩ := List.mem_map.mp here
    split at same
    · exact same ▸ fits
    · exact same ▸ sound.fits old known
  ids := by
    rw [map_key_replace named]
    exact sound.ids
  room := by
    rw [List.length_map]
    exact sound.room
  drawn item here := by
    obtain ⟨old, known, same⟩ := List.mem_map.mp here
    split at same
    · obtain ⟨number, early, id⟩ := sound.drawn current member
      exact ⟨number, early, by rw [← same, named, id]⟩
    · exact same ▸ sound.drawn old known

theorem Sound.filter {vault : Vault} (sound : vault.Sound randomUUID) (keep : VaultItem → Bool) :
    Sound randomUUID ⟨vault.items.filter keep, vault.drawn⟩ where
  fits item member := sound.fits item (List.mem_of_mem_filter member)
  ids := sound.ids.sublist (List.filter_sublist.map _)
  room := (List.length_filter_le _ _).trans sound.room
  drawn item member := sound.drawn item (List.mem_of_mem_filter member)

theorem Sound.step {vault : Vault} (sound : vault.Sound randomUUID) (ids : Ids randomUUID) {operation : Operation}
    (accepted : operation.Accepted) (distinct : Distinct randomUUID (vault.after randomUUID operation).drawn) :
    (vault.after randomUUID operation).Sound randomUUID := by
  unfold after at distinct ⊢
  cases operation with
  | create input nowMs =>
    obtain ⟨arguments, read⟩ := accepted
    rcases run : create vault.items input nowMs (randomUUID vault.drawn) with failure | ⟨items, created⟩
    · simp only [outcome, run, Except.map]
      exact sound.draw_more 1
    · obtain ⟨_, room, _, same, result⟩ := create_eq_ok.mp run
      simp only [outcome, run, Except.map] at distinct ⊢
      subst same result
      have fits : ∀ other ∈ [input], other.Fits :=
        List.forall_mem_singleton.mpr (VaultItemInput.fromArguments_fits read).1
      exact sound.add ids fits nowMs distinct room
  | update input expected nowMs =>
    obtain ⟨arguments, read⟩ := accepted
    rcases run : update vault.items input expected nowMs with failure | ⟨items, updated⟩
    · simp only [outcome, run, Except.map]
      exact sound.draw_more 0
    · obtain ⟨current, member, _, _, positive, before, same, result⟩ := (update_eq_ok sound.ids).mp run
      simp only [outcome, run, Except.map]
      subst same result
      have next := next_revision positive before
      exact sound.replace member (item_fits (VaultItemInput.fromArguments_fits read).1 (sound.fits current member).id
        (by omega)) rfl
  | delete id expected =>
    rcases run : delete vault.items id expected with failure | items
    · simp only [outcome, run]
      exact sound.draw_more 0
    · obtain ⟨_, _, _, result⟩ := (delete_eq_ok sound.ids).mp run
      simp only [outcome, run]
      subst result
      exact sound.filter _
  | restore incoming nowMs =>
    rcases run : restore (fun place => randomUUID (vault.drawn + place)) vault.items incoming nowMs with failure | restored
    · simp only [outcome, run]
      exact sound.draw_more 0
    · obtain ⟨room, same⟩ := restore_eq_ok.mp run
      simp only [outcome, run] at distinct ⊢
      dsimp only at same
      subst same
      have part : (unseen VaultItemInput.identity (vault.items.map VaultItem.identity) incoming).Sublist incoming :=
        unseen_sublist _ _
      refine sound.add ids (fun input member => ?_) nowMs distinct (by have := part.length_le; omega)
      obtain ⟨arguments, read⟩ := accepted input (part.subset member)
      exact (VaultItemInput.fromArguments_fits read).1

theorem drawn_le_after (vault : Vault) (operation : Operation) :
    vault.drawn ≤ (vault.after randomUUID operation).drawn := by
  unfold after
  rcases vault.outcome randomUUID operation with ⟨failure | items, draws⟩
  · exact Nat.le_add_right _ _
  · exact Nat.le_add_right _ _

theorem drawn_le_afterAll (vault : Vault) (operations : List Operation) :
    vault.drawn ≤ (vault.afterAll randomUUID operations).drawn := by
  induction operations generalizing vault with
  | nil => exact Nat.le_refl _
  | cons operation operations ih => exact (drawn_le_after vault operation).trans (ih _)

theorem Sound.run {vault : Vault} (sound : vault.Sound randomUUID) (ids : Ids randomUUID) (operations : List Operation)
    (accepted : ∀ operation ∈ operations, operation.Accepted)
    (distinct : Distinct randomUUID (vault.afterAll randomUUID operations).drawn) :
    (vault.afterAll randomUUID operations).Sound randomUUID := by
  induction operations generalizing vault with
  | nil => exact sound
  | cons operation operations ih =>
    rw [List.forall_mem_cons] at accepted
    have here := distinct.mono (drawn_le_afterAll (vault.after randomUUID operation) operations)
    exact ih (sound.step ids accepted.1 here) accepted.2 distinct

/-- What may be relied on of a vault between its calls. -/
structure Orderly (randomUUID : Nat → String) (vault : Vault) : Prop where
  ids : (vault.items.map VaultItem.id).Nodup
  room : vault.items.length ≤ maxItems
  fits : ∀ item ∈ vault.items, item.Fits
  /-- The last revision of all cannot be advanced. -/
  updates : ∀ input expected nowMs, (∃ result, update vault.items input expected nowMs = .ok result) ↔
    ∃ current ∈ vault.items, input.id = some current.id ∧ current.revision = expected ∧ expected ≠ Int32.maxValue
  deletes : ∀ id expected, (∃ items, delete vault.items id expected = .ok items) ↔
    ∃ current ∈ vault.items, current.id = id ∧ current.revision = expected
  updated : ∀ input expected nowMs items updated, update vault.items input expected nowMs = .ok (items, updated) →
    ∃ current ∈ vault.items, input.id = some current.id ∧ updated.revision.toInt = current.revision.toInt + 1 ∧
      updated = input.item current.id updated.revision nowMs ∧
      items = vault.items.map fun item => if item.id = current.id then updated else item
  deleted : ∀ id expected items, delete vault.items id expected = .ok items →
    items = vault.items.filter fun item => item.id ≠ id
  created : ∀ input nowMs id items created, create vault.items input nowMs id = .ok (items, created) →
    items = vault.items ++ [created] ∧ created = input.item id 1 nowMs
  restored : ∀ draws incoming nowMs restored, restore draws vault.items incoming nowMs = .ok restored →
    ∃ added, restored.items = vault.items ++ added ∧ ∀ item ∈ added, item.revision = 1
  failed : ∀ operation failure, (vault.outcome randomUUID operation).1 = .error failure →
    (vault.after randomUUID operation).items = vault.items
  opens : ∀ [OrgJson], OrgJson.Faithful (VaultStoreCodec.document vault.items) →
    VaultStoreCodec.decode (VaultStoreCodec.encode vault.items) = .ok vault.items

theorem Sound.orderly {vault : Vault} (sound : vault.Sound randomUUID) : vault.Orderly randomUUID where
  ids := sound.ids
  room := sound.room
  fits := sound.fits
  updates input expected nowMs := by
    constructor
    · intro ⟨(items, updated), run⟩
      obtain ⟨current, member, given, revision, _, before, _⟩ := (update_eq_ok sound.ids).mp run
      exact ⟨current, member, given, revision, before⟩
    · intro ⟨current, member, given, revision, before⟩
      have positive := (sound.fits current member).revision
      exact ⟨(_, _), (update_eq_ok sound.ids).mpr
        ⟨current, member, given, revision, by rwa [← revision], before, rfl, rfl⟩⟩
  deletes id expected := by
    constructor
    · intro ⟨items, run⟩
      exact ((delete_eq_ok sound.ids).mp run).2.2.1
    · intro ⟨current, member, named, revision⟩
      have fits := sound.fits current member
      exact ⟨_, (delete_eq_ok sound.ids).mpr
        ⟨named ▸ fits.id, revision ▸ fits.revision, ⟨current, member, named, revision⟩, rfl⟩⟩
  updated input expected nowMs items updated run := by
    obtain ⟨current, member, given, revision, positive, before, same, result⟩ := (update_eq_ok sound.ids).mp run
    have next : updated.revision = expected + 1 := by rw [same, VaultItemInput.item]
    refine ⟨current, member, given, ?_, by rw [next, same], result⟩
    rw [next, revision, next_revision positive before]
  deleted id expected items run := ((delete_eq_ok sound.ids).mp run).2.2.2
  created input nowMs id items created run := by
    obtain ⟨_, _, _, same, result⟩ := create_eq_ok.mp run
    exact ⟨result, same⟩
  restored draws incoming nowMs restored run := by
    obtain ⟨_, same⟩ := restore_eq_ok.mp run
    dsimp only at same
    refine ⟨_, by rw [same], fun item member => ?_⟩
    obtain ⟨place, input, _, made⟩ := mem_numbered.mp member
    rw [← made, VaultItemInput.item]
  failed operation failure fails := by
    unfold after
    dsimp only
    rw [fails]
  opens faithful := VaultStoreCodec.decode_encode faithful sound.fits sound.ids

end Vault

/-- From the first call on, whatever becomes of each. -/
theorem vault_store_orderly (ids : Ids randomUUID) (operations : List Operation)
    (accepted : ∀ operation ∈ operations, operation.Accepted)
    (distinct : Distinct randomUUID (Vault.empty.afterAll randomUUID operations).drawn) :
    (Vault.empty.afterAll randomUUID operations).Orderly randomUUID :=
  (Vault.empty_sound.run ids operations accepted distinct).orderly

end Runs

section Plain

def plainFields (id : ChannelValue) (secret : String) : ChannelValue :=
  .map [(.string "id", id), (.string "kind", .number (.integer 0)), (.string "name", .string "Mail"),
    (.string "username", .null), (.string "uri", .string "mail.example"), (.string "secret", .string secret)]

def plainInput (id : Option String) (secret : String) : VaultItemInput where
  id := id
  kind := 0
  name := "Mail"
  username := ""
  uri := "mail.example"
  secret := secret

def plainUUID : Nat → String
  | 0 => "0c6f1c35-6a25-4d11-8a38-0d7b4f1d6a11"
  | 1 => "5f0a2d7e-93b4-4c1b-b1c7-6f9b60c9a0de"
  | _ => "b8d1f9a2-17ce-4b52-9c6a-2f4f7a1f3c90"

def plainOperations : List Operation :=
  [.create (plainInput none "one") 10, .update (plainInput (some (plainUUID 0)) "two") 1 20,
    .create (plainInput none "three") 30, .delete (plainUUID 1) 2, .delete (plainUUID 1) 1,
    .restore [plainInput none "four"] 40]

theorem plainOperations_accepted : ∀ operation ∈ plainOperations, operation.Accepted := by
  intro operation member
  simp only [plainOperations, List.mem_cons, List.not_mem_nil, or_false] at member
  rcases member with rfl | rfl | rfl | rfl | rfl | rfl
  · exact ⟨plainFields .null "one", by decide⟩
  · exact ⟨plainFields (.string (plainUUID 0)) "two", by decide⟩
  · exact ⟨plainFields .null "three", by decide⟩
  · trivial
  · trivial
  · exact List.forall_mem_singleton.mpr ⟨plainFields .null "four", by decide⟩

theorem plainUUID_ids : Ids plainUUID := by
  intro number
  unfold plainUUID
  split
  · decide
  · decide
  · decide

theorem plainOperations_items :
    (Vault.empty.afterAll plainUUID plainOperations).items =
      [(plainInput none "two").item (plainUUID 0) 2 20] := by
  decide +kernel

def plainDocument : Bytes := utf8
  ("\x7b\"version\":1,\"items\":[\x7b\"id\":\"0c6f1c35-6a25-4d11-8a38-0d7b4f1d6a11\",\"revision\":2,\"kind\":0," ++
    "\"name\":\"Mail\",\"username\":\"\",\"uri\":\"mail.example\",\"secret\":\"two\",\"updatedAtMs\":20\x7d]\x7d")

/-- A library that knows that vault's document. -/
abbrev plainOrgJson : OrgJson where
  write
    | [("version", .number 1), ("items", .array [.object [("id", .string "0c6f1c35-6a25-4d11-8a38-0d7b4f1d6a11"),
        ("revision", .number 2), ("kind", .number 0), ("name", .string "Mail"), ("username", .string ""),
        ("uri", .string "mail.example"), ("secret", .string "two"), ("updatedAtMs", .number 20)]])] => plainDocument
    | _ => []
  read bytes :=
    if bytes = plainDocument then
      some (VaultStoreCodec.document [(plainInput none "two").item (plainUUID 0) 2 20])
    else none

theorem plainOrgJson_faithful :
    letI := plainOrgJson
    OrgJson.Faithful (VaultStoreCodec.document (Vault.empty.afterAll plainUUID plainOperations).items) := by
  rw [plainOperations_items]
  exact if_pos rfl

theorem vault_store_orderly_plain :
    letI := plainOrgJson
    (Vault.empty.afterAll plainUUID plainOperations).Orderly plainUUID ∧
      VaultStoreCodec.decode (VaultStoreCodec.encode (Vault.empty.afterAll plainUUID plainOperations).items) =
        .ok (Vault.empty.afterAll plainUUID plainOperations).items := by
  let := plainOrgJson
  have orderly := vault_store_orderly plainUUID_ids plainOperations plainOperations_accepted (by decide +kernel)
  exact ⟨orderly, orderly.opens plainOrgJson_faithful⟩

end Plain

section Last

/-- An item is created and then updated so many times. -/
def climb (times : Nat) : List Operation :=
  .create (plainInput none "one") 0 ::
    (List.range times).map fun (revision : Nat) =>
      .update (plainInput (some (plainUUID 0)) "one") (Int32.ofInt (revision + 1)) 0

theorem climb_accepted (times : Nat) : ∀ operation ∈ climb times, operation.Accepted := by
  intro operation member
  rcases List.mem_cons.mp member with rfl | later
  · exact ⟨plainFields .null "one", by decide⟩
  · obtain ⟨revision, _, rfl⟩ := List.mem_map.mp later
    exact ⟨plainFields (.string (plainUUID 0)) "one", by decide⟩

theorem after_climb {times : Nat} (within : times < 2 ^ 31 - 1) :
    Vault.empty.afterAll plainUUID (climb times) =
      ⟨[(plainInput none "one").item (plainUUID 0) (Int32.ofInt (times + 1)) 0], 1⟩ := by
  induction times with
  | zero => decide +kernel
  | succ times ih =>
    have before := ih (by omega)
    have revision : (Int32.ofInt (times + 1)).toInt = times + 1 := Int32.toInt_ofInt_of_le (by omega) (by omega)
    have split : climb (times + 1) = climb times ++
        [.update (plainInput (some (plainUUID 0)) "one") (Int32.ofInt (times + 1)) 0] := by
      rw [climb, climb, List.range_succ, List.map_append, List.map_singleton, List.cons_append]
    unfold Vault.afterAll at before ⊢
    rw [split, List.foldl_append, before, List.foldl_cons, List.foldl_nil]
    have next : Int32.ofInt ((times + 1 : Nat) + 1) = Int32.ofInt (times + 1) + 1 := by
      rw [Nat.cast_add, Nat.cast_one, Int32.ofInt_add (times + 1)]
      rfl
    have alone : ([(plainInput none "one").item (plainUUID 0) (Int32.ofInt (times + 1)) 0].map VaultItem.id).Nodup :=
      List.nodup_singleton _
    have early : Int32.ofInt (times + 1) ≠ Int32.maxValue := by
      intro last
      rw [last, Int32.toInt_maxValue] at revision
      omega
    have held : update [(plainInput none "one").item (plainUUID 0) (Int32.ofInt (times + 1)) 0]
        (plainInput (some (plainUUID 0)) "one") (Int32.ofInt (times + 1)) 0 =
          .ok ([(plainInput none "one").item (plainUUID 0) (Int32.ofInt (times + 1) + 1) 0],
            (plainInput none "one").item (plainUUID 0) (Int32.ofInt (times + 1) + 1) 0) :=
      (update_eq_ok alone).mpr ⟨_, List.mem_singleton_self _, rfl, rfl, by omega, early, rfl, rfl⟩
    simp only [Vault.after, Vault.outcome, held, Except.map, next]

/-- At its last revision an item takes no update, the current revision notwithstanding. -/
theorem last_revision_stays :
    (∀ operation ∈ climb (2 ^ 31 - 2), operation.Accepted) ∧
      ∃ current ∈ (Vault.empty.afterAll plainUUID (climb (2 ^ 31 - 2))).items,
        (Operation.update (plainInput (some current.id) "two") current.revision 0).Accepted ∧
          ∃ failure, update (Vault.empty.afterAll plainUUID (climb (2 ^ 31 - 2))).items
            (plainInput (some current.id) "two") current.revision 0 = .error failure := by
  rw [after_climb (by omega)]
  refine ⟨climb_accepted _, _, List.mem_singleton_self _, ?_, ?_⟩
  · exact ⟨plainFields (.string (plainUUID 0)) "two", by decide⟩
  · exact ⟨{ code := "revision_overflow", message := "Vault item revision cannot be advanced" }, by decide +kernel⟩

end Last

end BioAuth.Native
