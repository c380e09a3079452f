import BioAuth.Agent.SshSession
import BioAuth.Protocol.Encoding
import BioAuth.Session.NetworkSession
import BioAuth.Verifier.Pairing

namespace BioAuth.Agent
open BioAuth BioAuth.Protocol BioAuth.Regroup
open BioAuth.Protocol.Ssh (encodePublicKey pointFromSpki encodeSignature)
open BioAuth.Session (ServiceError)
open BioAuth.Verifier (PairedCredential PairedDevice PairingStore)

section Base64

def base64Unit (unit : Nat) : Char := base64.getD unit 'A'

/-- What an unfilled last chunk lacks is padded. -/
def serializeBase64 (bytes : Bytes) : String :=
  String.ofList ((base64urlUnits bytes).map base64Unit ++ List.replicate ((3 - bytes.length % 3) % 3) '=')

def readBase64 (state : UInt32 × Nat × Bytes) (ch : Char) : Except DecodeError (UInt32 × Nat × Bytes) := do
  require (ch ∈ base64) (DecodeError.mk "not base64")
  return collect 6 state (base64.idxOf ch)

def deserializeBase64 (value : String) : Except DecodeError Bytes := do
  let (_, _, out) ← (value.toList.filter (· ≠ '=')).foldlM readBase64 (0, 0, [])
  return out

theorem base64Unit_mem {unit : Nat} (small : unit < 64) :
    base64Unit unit ∈ base64 ∧ base64.idxOf (base64Unit unit) = unit ∧ base64Unit unit ≠ '=' := by
  revert unit
  decide +kernel

theorem readBase64_units {units : List Nat} (small : ∀ unit ∈ units, unit < 64) (state : UInt32 × Nat × Bytes) :
    (units.map base64Unit).foldlM readBase64 state = .ok (units.foldl (collect 6) state) := by
  induction units generalizing state with
  | nil => rfl
  | cons unit units ih =>
    rw [List.forall_mem_cons] at small
    obtain ⟨known, index, _⟩ := base64Unit_mem small.1
    have one : readBase64 state (base64Unit unit) = .ok (collect 6 state unit) := by
      rw [readBase64, require, if_pos known, index]
      rfl
    rw [List.map_cons, List.foldlM_cons, one]
    exact ih small.2 _

theorem deserializeBase64_serializeBase64 (bytes : Bytes) : deserializeBase64 (serializeBase64 bytes) = .ok bytes := by
  obtain ⟨count, small, value⟩ := base64urlUnits_value bytes
  obtain ⟨collected, total⟩ := collected_digits 6 (by decide) small
  have few : padding bytes < 8 := by
    have bound := Nat.mod_lt (2 * (3 - bytes.length % 3)) (show 6 > 0 by decide)
    exact Nat.lt_trans bound (by decide)
  have run := readBase64_units small (0, 0, [])
  have plain : ((base64urlUnits bytes).map base64Unit ++ List.replicate ((3 - bytes.length % 3) % 3) '=').filter (· ≠ '=') =
      (base64urlUnits bytes).map base64Unit := by
    rw [List.filter_append, List.filter_eq_self.mpr, List.filter_replicate, if_neg (by decide), List.append_nil]
    intro ch member
    obtain ⟨unit, inside, rfl⟩ := List.mem_map.mp member
    exact decide_eq_true (base64Unit_mem (small unit inside)).2.2
  generalize (base64urlUnits bytes).foldl (collect 6) (0, 0, []) = state at collected total run
  obtain ⟨acc, bits, out⟩ := state
  obtain ⟨_, same, _⟩ := collected.octets value few (by rw [total, count])
  dsimp only at same
  subst same
  simp only [deserializeBase64, serializeBase64, String.toList_ofList, plain, except_bind_eq_ok, except_pure_eq_ok]
  exact ⟨_, run, rfl⟩

end Base64

section Service

/-- The identity one credential is offered under. -/
def identityOf (device : PairedDevice) (credential : PairedCredential) : Option (Bytes × String) :=
  if credential.purpose ≠ .ssh then none
  else do
    let point ← (pointFromSpki credential.publicKey).toOption
    let blob ← (encodePublicKey point).toOption
    return (blob, s!"{device.displayName} ({credential.credentialId})")

/-- The public keys this machine can offer. -/
def sshIdentities (store : PairingStore) : List (Bytes × String) :=
  store.values.flatMap fun device => device.credentials.filterMap (identityOf device)

/-- Resolves one enrolled credential for `service`, by name or by being the only candidate. -/
def selectServiceCredential (store : PairingStore) (service label : String) (credentialId : Option String) :
    Except ServiceError (String × String) :=
  let purpose := Verifier.CredentialPurpose.forService service
  match credentialId with
  | some requested =>
    match store.findCredential requested with
    | none => .error ⟨"unknown-credential", s!"no credential `{requested}`"⟩
    | some (device, credential) =>
      if credential.purpose ≠ purpose then
        .error ⟨"policy-denied", s!"credential `{requested}` is not a {label} credential"⟩
      else .ok (device.deviceId, requested)
  | none =>
    let candidates := store.values.flatMap fun device =>
      (device.credentials.filter fun credential => credential.purpose = purpose).map fun credential =>
        (device.deviceId, credential.credentialId)
    match candidates with
    | [] =>
      if store.values = [] then .error ⟨"not-paired", "no phone is paired with this computer"⟩
      else .error ⟨"policy-denied", s!"no paired credential is enrolled for the {label}"⟩
    | [candidate] => .ok candidate
    | _ => .error ⟨"ambiguous-credential", s!"{candidates.length} credentials could open this; pass credentialId to choose"⟩

structure SshSignParams where
  data : Bytes
  destination : String
  credentialId : Option String

/-- Connects to one credential and has it sign some data for a destination: a raw signature, or why there is none. -/
abbrev PhoneSsh := String → String → Bytes → String → Except ServiceError Bytes

/-- Asks the phone to sign one SSH authentication request. -/
def sshSign (store : PairingStore) (phone : PhoneSsh) (params : SshSignParams) : Except ServiceError Bytes := do
  let (deviceId, credentialId) ← selectServiceCredential store "ssh" "SSH" params.credentialId
  phone deviceId credentialId params.data params.destination

/-- Talks to the background agent, which talks to the phone. -/
structure IpcBackend where
  store : PairingStore
  phone : PhoneSsh
  /-- The background agent answers. -/
  running : Bool

namespace IpcBackend

def identities (backend : IpcBackend) : List (Bytes × String) :=
  if backend.running then
    (sshIdentities backend.store).filterMap fun identity => do
      let blob ← (fromHex (toHex identity.1)).toOption
      return (blob, identity.2)
  else []

def sign (_keyBlob data : Bytes) (prompt : SshPrompt) (backend : IpcBackend) : Option Bytes :=
  if backend.running then do
    let data ← (deserializeBase64 (serializeBase64 data)).toOption
    let params : SshSignParams := { data, destination := prompt.destination.getD "", credentialId := none }
    let signature ← (sshSign backend.store backend.phone params).toOption
    (deserializeBase64 (serializeBase64 signature)).toOption
  else none

instance : SshBackend IpcBackend where
  identities backend := (backend.identities, backend)
  sign keyBlob data prompt backend := (backend.sign keyBlob data prompt, backend)

end IpcBackend

end Service

section Honoured

/-- The credentials of a store that are for SSH, with their devices. -/
def sshCredentials (store : PairingStore) : List (PairedDevice × PairedCredential) :=
  store.values.flatMap fun device =>
    (device.credentials.filter fun credential => credential.purpose = .ssh).map fun credential => (device, credential)

theorem mem_sshCredentials {store : PairingStore} {device : PairedDevice} {credential : PairedCredential} :
    (device, credential) ∈ sshCredentials store ↔
      device ∈ store.values ∧ credential ∈ device.credentials ∧ credential.purpose = .ssh := by
  unfold sshCredentials
  simp only [List.mem_flatMap, List.mem_map, List.mem_filter, Prod.mk.injEq, decide_eq_true_iff]
  constructor
  · rintro ⟨_, known, _, ⟨held, purpose⟩, rfl, rfl⟩
    exact ⟨known, held, purpose⟩
  · rintro ⟨known, held, purpose⟩
    exact ⟨device, known, credential, ⟨held, purpose⟩, rfl, rfl⟩

theorem identityOf_eq_some {device : PairedDevice} {credential : PairedCredential} {blob : Bytes} {comment : String} :
    identityOf device credential = some (blob, comment) ↔
      credential.purpose = .ssh ∧ comment = s!"{device.displayName} ({credential.credentialId})" ∧
        ∃ point, pointFromSpki credential.publicKey = .ok point ∧ encodePublicKey point = .ok blob := by
  unfold identityOf
  split
  · rename_i other
    exact iff_of_false nofun fun both => other both.1
  · rename_i own
    simp only [Option.bind_eq_bind, Option.bind_eq_some_iff, except_toOption_eq_some, Option.pure_def, Option.some.injEq,
      Prod.mk.injEq]
    constructor
    · rintro ⟨point, found, _, encoded, rfl, rfl⟩
      exact ⟨not_not.mp own, rfl, point, found, encoded⟩
    · rintro ⟨_, rfl, point, found, encoded⟩
      exact ⟨point, found, blob, encoded, rfl, rfl⟩

theorem mem_sshIdentities {store : PairingStore} {identity : Bytes × String} :
    identity ∈ sshIdentities store ↔
      ∃ device credential, (device, credential) ∈ sshCredentials store ∧ identityOf device credential = some identity := by
  unfold sshIdentities
  simp only [List.mem_flatMap, List.mem_filterMap, mem_sshCredentials]
  constructor
  · rintro ⟨device, known, credential, held, offered⟩
    exact ⟨device, credential, ⟨known, held, (identityOf_eq_some.mp offered).1⟩, offered⟩
  · rintro ⟨device, credential, ⟨known, held, _⟩, offered⟩
    exact ⟨device, known, credential, held, offered⟩

/-- The backend offers what the store does. -/
theorem identities_eq {backend : IpcBackend} (running : backend.running = true) :
    backend.identities = sshIdentities backend.store := by
  unfold IpcBackend.identities
  rw [if_pos running]
  have whole (identity : Bytes × String) : ((fromHex (toHex identity.1)).toOption.bind fun blob => some (blob, identity.2)) =
      some identity := by
    rw [fromHex_toHex]
    rfl
  simp only [Option.bind_eq_bind, Option.pure_def, whole, List.filterMap_some]

/-- The key in front of which a P-256 key names its algorithm and its curve. -/
def p256Header : Bytes := [0x30, 0x59, 0x30, 0x13, 0x06, 0x07, 0x2a, 0x86, 0x48, 0xce, 0x3d, 0x02, 0x01, 0x06, 0x08, 0x2a, 0x86,
  0x48, 0xce, 0x3d, 0x03, 0x01, 0x07, 0x03, 0x42, 0x00]

/-- The key is a P-256 key with this point, uncompressed. -/
def IsP256 (spki point : Bytes) : Prop := spki = p256Header ++ point ∧ point.length = Ssh.uncompressedPointLen ∧ point.head? = some 0x04

/-- An identity is offered for no key but a P-256 key, and is that key. -/
def KeysOwn (store : PairingStore) : Prop :=
  ∀ device credential, (device, credential) ∈ sshCredentials store → ∀ blob comment,
    identityOf device credential = some (blob, comment) →
      ∃ point, IsP256 credential.publicKey point ∧ encodePublicKey point = .ok blob

/-- Where a key ends in what could be a point, it is a P-256 key. -/
def TailsP256 (store : PairingStore) : Prop :=
  ∀ device credential, (device, credential) ∈ sshCredentials store → ∀ front point,
    credential.publicKey = front ++ point → point.length = Ssh.uncompressedPointLen → point.head? = some 0x04 →
      front = p256Header

theorem pointFromSpki_eq_ok {spki point : Bytes} :
    pointFromSpki spki = .ok point ↔
      point.length = Ssh.uncompressedPointLen ∧ point.head? = some 0x04 ∧ ∃ front, spki = front ++ point := by
  unfold pointFromSpki
  simp only [except_bind_eq_ok, except_require_eq_ok, except_pure_eq_ok, exists_const]
  constructor
  · rintro ⟨enough, starts, rfl⟩
    refine ⟨?_, starts, spki.take (spki.length - Ssh.uncompressedPointLen), (List.take_append_drop _ _).symm⟩
    rw [List.length_drop]
    omega
  · rintro ⟨length, starts, front, rfl⟩
    have tail : (front ++ point).drop ((front ++ point).length - Ssh.uncompressedPointLen) = point := by
      rw [← length, List.length_append, Nat.add_sub_cancel]
      exact List.drop_left
    rw [tail]
    refine ⟨?_, starts, rfl⟩
    rw [List.length_append]
    omega

theorem keysOwn_iff {store : PairingStore} : KeysOwn store ↔ TailsP256 store := by
  constructor
  · intro own device credential member front point ends length starts
    have found : pointFromSpki credential.publicKey = .ok point := pointFromSpki_eq_ok.mpr ⟨length, starts, front, ends⟩
    have offered : identityOf device credential = some (_, _) := identityOf_eq_some.mpr
      ⟨(mem_sshCredentials.mp member).2.2, rfl, point, found, Ssh.encodePublicKey_eq_ok.mpr ⟨⟨length, starts⟩, rfl⟩⟩
    obtain ⟨other, ⟨whole, same, _⟩, _⟩ := own device credential member _ _ offered
    rw [ends] at whole
    exact (List.append_inj' whole (length.trans same.symm)).1
  · intro tails device credential member blob comment offered
    obtain ⟨_, _, point, found, encoded⟩ := identityOf_eq_some.mp offered
    obtain ⟨length, starts, front, ends⟩ := pointFromSpki_eq_ok.mp found
    have own := tails device credential member front point ends length starts
    exact ⟨point, ⟨own ▸ ends, length, starts⟩, encoded⟩

/-- What the backend is asked to sign goes to whichever credential is the only one. -/
theorem sign_eq {store : PairingStore} {phone : PhoneSsh} {keyBlob data : Bytes} {prompt : SshPrompt} :
    IpcBackend.sign keyBlob data prompt ⟨store, phone, true⟩ =
      (sshSign store phone ⟨data, prompt.destination.getD "", none⟩).toOption := by
  unfold IpcBackend.sign
  rw [if_pos rfl]
  simp only [deserializeBase64_serializeBase64, Option.bind_eq_bind, Except.toOption, Option.bind_some]
  cases sshSign store phone ⟨data, prompt.destination.getD "", none⟩ <;> rfl

theorem candidates_eq (store : PairingStore) :
    (store.values.flatMap fun device =>
      (device.credentials.filter fun credential => credential.purpose = Verifier.CredentialPurpose.forService "ssh").map
        fun credential => (device.deviceId, credential.credentialId)) =
      (sshCredentials store).map fun pair => (pair.1.deviceId, pair.2.credentialId) := by
  unfold sshCredentials
  rw [List.map_flatMap]
  simp only [List.map_map]
  rfl

theorem select_of_one {store : PairingStore} {device : PairedDevice} {credential : PairedCredential}
    (one : sshCredentials store = [(device, credential)]) :
    selectServiceCredential store "ssh" "SSH" none = .ok (device.deviceId, credential.credentialId) := by
  unfold selectServiceCredential
  dsimp only
  rw [candidates_eq, one]
  rfl

/-- Among more than one there is no telling whose key was meant. -/
theorem select_of_more {store : PairingStore} {first second : PairedDevice × PairedCredential}
    {others : List (PairedDevice × PairedCredential)} (more : sshCredentials store = first :: second :: others) :
    ∃ error, selectServiceCredential store "ssh" "SSH" none = .error error := by
  unfold selectServiceCredential
  dsimp only
  rw [candidates_eq, more]
  exact ⟨_, rfl⟩

/-- A login with any key that is offered is read as such. -/
theorem parse_loginBody {keyBlob : Bytes} (short : keyBlob.length ≤ Ssh.maxFieldBytes) :
    SshRequest.parse (loginBody keyBlob) = .sign ⟨keyBlob, loginData, 0⟩ := by
  have key := Ssh.readString_string short (Ssh.string loginData ++ Ssh.uint32 0)
  have data := Ssh.readString_string (show loginData.length ≤ Ssh.maxFieldBytes by decide +kernel) (Ssh.uint32 0)
  have read : readSignRequest (Ssh.string keyBlob ++ Ssh.string loginData ++ Ssh.uint32 0) =
      (.ok ⟨keyBlob, loginData, 0⟩, []) := by
    unfold readSignRequest
    rw [List.append_assoc, Fallible.bind_run_ok _ key, Fallible.bind_run_ok _ data]
    rfl
  have shape : loginBody keyBlob = sshAgentcSignRequest :: (Ssh.string keyBlob ++ Ssh.string loginData ++ Ssh.uint32 0) := rfl
  rw [shape, SshRequest.parse, if_neg (fun both => absurd both.1 (by decide)), if_pos rfl, read]

theorem blob_short {point blob : Bytes} (encoded : encodePublicKey point = .ok blob) : blob.length ≤ Ssh.maxFieldBytes := by
  obtain ⟨⟨length, _⟩, rfl⟩ := Ssh.encodePublicKey_eq_ok.mp encoded
  have names : (Ssh.text Ssh.ecdsaP256Name ++ Ssh.text Ssh.ecdsaP256Curve).length = 35 := by decide +kernel
  have size : (Ssh.string point).length = 69 := by
    rw [Ssh.string, List.length_append, Ssh.uint32, BigEndian.encode_length, length]
    rfl
  rw [List.length_append, names, size]
  decide

variable [Crypto]

/-- Whoever names an offered identity in a request the policy admits gets the signature that the credential under whose key it
is offered gives, if it gives one. -/
def Signs (store : PairingStore) : Prop :=
  ∀ (phone : PhoneSsh) (session : SshSession IpcBackend) body request prompt, session.backend = ⟨store, phone, true⟩ →
    SshRequest.parse body = .sign request → session.policy.decide request.describe session.bind = .ask prompt →
      ∀ device credential comment, (device, credential) ∈ sshCredentials store →
        identityOf device credential = some (request.keyBlob, comment) →
          ∀ raw, raw.length = Ssh.scalarLen * 2 →
            phone device.deviceId credential.credentialId request.data (prompt.destination.getD "") = .ok raw →
              ∃ blob, encodeSignature raw = .ok blob ∧ (session.handle body).1 = signResponse blob

/-- What comes of a request for a key that is offered. -/
theorem handle_offered {store : PairingStore} {phone : PhoneSsh} {session : SshSession IpcBackend} {body : Bytes}
    {request : SignRequest} {prompt : SshPrompt} (backend : session.backend = ⟨store, phone, true⟩)
    (parsed : SshRequest.parse body = .sign request)
    (admitted : session.policy.decide request.describe session.bind = .ask prompt) {comment : String}
    (offered : (request.keyBlob, comment) ∈ sshIdentities store) :
    (session.handle body).1 =
      match (sshSign store phone ⟨request.data, prompt.destination.getD "", none⟩).toOption.bind
        (fun raw => (encodeSignature raw).toOption) with
      | none => sshFailure
      | some blob => signResponse blob := by
  have listed : (SshBackend.identities session.backend) = (sshIdentities store, session.backend) := by
    rw [backend]
    exact congrArg (·, _) (identities_eq rfl)
  have known : ((sshIdentities store).any fun key => key.1 = request.keyBlob) = true :=
    List.any_eq_true.mpr ⟨_, offered, decide_eq_true rfl⟩
  have signs : SshBackend.sign request.keyBlob request.data prompt session.backend =
      ((sshSign store phone ⟨request.data, prompt.destination.getD "", none⟩).toOption, session.backend) := by
    rw [backend]
    exact congrArg (·, _) sign_eq
  unfold SshSession.handle
  rw [parsed]
  dsimp only
  rw [admitted]
  dsimp only
  unfold SshSession.sign
  rw [listed]
  dsimp only
  rw [if_pos known, signs]
  dsimp only
  generalize Option.bind _ _ = blob
  cases blob <;> rfl

theorem login_admitted (keyBlob : Bytes) :
    (⟨∅, ∅, ∅⟩ : SshPolicy).decide (SignRequest.describe ⟨keyBlob, loginData, 0⟩) none = .ask ⟨"root", none, false, true⟩ := by
  have described : SignRequest.describe ⟨[], loginData, 0⟩ = some ⟨"root", "ssh-connection"⟩ := by decide +kernel
  have same : SignRequest.describe ⟨keyBlob, loginData, 0⟩ = SignRequest.describe ⟨[], loginData, 0⟩ := by
    unfold SignRequest.describe
    dsimp only
  rw [same, described]
  rfl

theorem signs_iff {store : PairingStore} :
    Signs store ↔ sshIdentities store = [] ∨ ∃ only, sshCredentials store = [only] := by
  constructor
  · intro signs
    rcases offered : sshIdentities store with _ | ⟨⟨blob, comment⟩, rest⟩
    · exact Or.inl rfl
    · right
      have member : (blob, comment) ∈ sshIdentities store := by
        rw [offered]
        exact List.mem_cons_self
      obtain ⟨device, credential, held, own⟩ := mem_sshIdentities.mp member
      rcases some_held : sshCredentials store with _ | ⟨first, _ | ⟨second, others⟩⟩
      · rw [some_held] at held
        cases held
      · exact ⟨first, rfl⟩
      · exfalso
        obtain ⟨_, _, point, _, encoded⟩ := identityOf_eq_some.mp own
        let phone : PhoneSsh := fun _ _ _ _ => .ok (List.replicate 64 1)
        let session : SshSession IpcBackend := SshSession.new ⟨store, phone, true⟩ ⟨∅, ∅, ∅⟩
        have parsed := parse_loginBody (blob_short encoded)
        obtain ⟨signature, _, replied⟩ := signs phone session (loginBody blob) _ _ rfl parsed (login_admitted blob) device credential
          comment held own (List.replicate 64 1) (by decide) rfl
        obtain ⟨error, refused⟩ := select_of_more some_held
        have reply : (session.handle (loginBody blob)).1 = _ := handle_offered rfl parsed (login_admitted blob) member
        have none_signed : sshSign store phone ⟨loginData, "", none⟩ = .error error := by
          unfold sshSign
          rw [refused]
          rfl
        simp only [Option.getD_none] at reply
        rw [none_signed] at reply
        exact framed_ne_signResponse (by decide) (reply.symm.trans replied)
  · rintro (none_offered | ⟨⟨device, credential⟩, one⟩)
    · intro phone session body request prompt _ _ _ device credential comment held own
      have member := mem_sshIdentities.mpr ⟨device, credential, held, own⟩
      rw [none_offered] at member
      cases member
    · intro phone session body request prompt backend parsed admitted owner key comment held own raw whole answers
      have member := mem_sshIdentities.mpr ⟨owner, key, held, own⟩
      rw [one, List.mem_singleton, Prod.mk.injEq] at held
      obtain ⟨rfl, rfl⟩ := held
      obtain ⟨blob, encoded⟩ := Ssh.exists_encodeSignature whole
      have signed : sshSign store phone ⟨request.data, prompt.destination.getD "", none⟩ = .ok raw := by
        unfold sshSign
        rw [select_of_one one]
        exact answers
      have reply := handle_offered backend parsed admitted member
      rw [signed] at reply
      refine ⟨blob, encoded, reply.trans ?_⟩
      change (match (encodeSignature raw).toOption with
        | none => _
        | some blob => _) = _
      rw [encoded]
      rfl

/-- Every identity is honoured exactly if the keys of the SSH credentials that could be P-256 keys are, and there is one
credential to choose from, or nothing to offer. -/
theorem identities_honoured (store : PairingStore) :
    KeysOwn store ∧ Signs store ↔
      TailsP256 store ∧ (sshIdentities store = [] ∨ ∃ only, sshCredentials store = [only]) :=
  and_congr keysOwn_iff signs_iff

end Honoured

section Plain

/-- A key on another curve, secp256k1, that ends in a point as a P-256 key does. -/
def secp256k1Key : Bytes :=
  [0x30, 0x56, 0x30, 0x10, 0x06, 0x07, 0x2a, 0x86, 0x48, 0xce, 0x3d, 0x02, 0x01, 0x06, 0x05, 0x2b, 0x81, 0x04, 0x00, 0x0a, 0x03,
    0x42, 0x00] ++ 0x04 :: List.replicate 64 7

def sshCredential (credentialId : String) (publicKey : Bytes) : PairedCredential where
  credentialId := credentialId
  algorithm := "ES256"
  publicKey := publicKey
  keyKind := .strongBox
  purpose := .ssh
  permissions := []
  permissionsRevision := 0

def sshPhone (credentials : List PairedCredential) : PairedDevice := ⟨"phone", "Phone", 0, [], credentials⟩

def sshStore (credentials : List PairedCredential) : PairingStore :=
  ⟨none, Std.ExtTreeMap.ofList [("phone", sshPhone credentials)] compare⟩

/-- A key of another curve is offered as a P-256 key, and of two that are offered neither can sign. -/
theorem identities_not_honoured :
    letI := Crypto.plain
    ¬KeysOwn (sshStore [sshCredential "k" secp256k1Key]) ∧
      ¬Signs (sshStore [sshCredential "a" (p256Header ++ 0x04 :: List.replicate 64 7),
        sshCredential "b" (p256Header ++ 0x04 :: List.replicate 64 8)]) := by
  let := Crypto.plain
  constructor
  · intro own
    have held : (sshPhone [sshCredential "k" secp256k1Key], sshCredential "k" secp256k1Key) ∈
        sshCredentials (sshStore [sshCredential "k" secp256k1Key]) := by decide +kernel
    have offered : identityOf (sshPhone [sshCredential "k" secp256k1Key]) (sshCredential "k" secp256k1Key) =
        some (Ssh.text Ssh.ecdsaP256Name ++ Ssh.text Ssh.ecdsaP256Curve ++ Ssh.string (0x04 :: List.replicate 64 7),
          "Phone (k)") := by decide +kernel
    obtain ⟨point, ⟨whole, length, _⟩, _⟩ := own _ _ held _ _ offered
    have size := congrArg List.length whole
    rw [List.length_append, length] at size
    exact absurd size (by decide)
  · intro signs
    have several : (sshCredentials (sshStore [sshCredential "a" (p256Header ++ 0x04 :: List.replicate 64 7),
        sshCredential "b" (p256Header ++ 0x04 :: List.replicate 64 8)])).length = 2 := by decide +kernel
    have offers : (sshIdentities (sshStore [sshCredential "a" (p256Header ++ 0x04 :: List.replicate 64 7),
        sshCredential "b" (p256Header ++ 0x04 :: List.replicate 64 8)])).length = 2 := by decide +kernel
    rcases signs_iff.mp signs with none_offered | ⟨only, one⟩
    · rw [none_offered] at offers
      cases offers
    · rw [one] at several
      cases several

end Plain

end BioAuth.Agent
