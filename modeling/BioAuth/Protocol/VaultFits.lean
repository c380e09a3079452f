import BioAuth.Protocol.Sizes
import BioAuth.Protocol.Vault

namespace BioAuth

namespace Protocol

namespace Vault

theorem optional_short {field value : String} {max : Nat} (checked : checkOptionalText field value max = .ok ()) :
    (utf8 value).length ≤ 3 * max := by
  have units := except_require_eq_ok.mp checked
  have octets := utf8_length_le value
  omega

theorem secret_short {value : String} (checked : checkSecret value = .ok ()) :
    (utf8 value).length ≤ 3 * maxSecretUnits := by
  simp only [checkSecret, except_bind_eq_ok, except_require_eq_ok] at checked
  obtain ⟨_, _, units⟩ := checked
  have octets := utf8_length_le value
  omega

/-- How many octets the answer comes to. -/
def FetchResponse.size (response : FetchResponse) : Nat :=
  2 + Writer.textSize response.itemId + Writer.headSize response.revision.toNat + Writer.textSize response.secret

def CreateRequest.size (request : CreateRequest) : Nat :=
  3 + Writer.textSize request.verifierName + Writer.textSize request.name + Writer.textSize request.username +
    Writer.textSize request.uri + Writer.textSize request.secret

def UpdateRequest.size (request : UpdateRequest) : Nat :=
  3 + Writer.textSize request.verifierName + Writer.textSize request.itemId +
    Writer.headSize request.expectedRevision.toNat + Writer.textSize request.name +
      Writer.textSize request.username + Writer.textSize request.uri + Writer.textSize request.secret

theorem FetchResponse.encode_length {response : FetchResponse} (valid : response.validate = .ok ()) :
    response.encode.length = response.size := by
  simp only [FetchResponse.validate, except_bind_eq_ok] at valid
  obtain ⟨_, itemId, _, _, secret⟩ := valid
  have itemId := text_short itemId
  have secret := secret_short secret
  unfold maxIdUnits at itemId
  unfold maxSecretUnits at secret
  have array : (Writer.array fetchResponseFields).length = 1 := rfl
  have schema : (Writer.uint vaultSchema).length = 1 := rfl
  simp only [FetchResponse.encode, FetchResponse.body, FetchResponse.size, List.flatten_cons, List.flatten_nil,
    List.length_append, List.length_nil, array, schema, Writer.uint_length response.revision]
  rw [Writer.text_length (by omega), Writer.text_length (by omega)]
  omega

theorem kind_length (kind : ItemKind) : (Writer.uint kind.wire).length = 1 := by
  cases kind <;> rfl

theorem CreateRequest.encode_length {request : CreateRequest} (valid : request.validate = .ok ()) :
    request.encode.length = request.size := by
  simp only [CreateRequest.validate, except_bind_eq_ok] at valid
  obtain ⟨_, verifierName, _, name, _, username, _, uri, secret⟩ := valid
  have verifierName := text_short verifierName
  have name := text_short name
  have username := optional_short username
  have uri := optional_short uri
  have secret := secret_short secret
  unfold maxNameUnits at verifierName name
  unfold maxUsernameUnits at username
  unfold maxUriUnits at uri
  unfold maxSecretUnits at secret
  have array : (Writer.array createRequestFields).length = 1 := rfl
  have schema : (Writer.uint vaultSchema).length = 1 := rfl
  simp only [CreateRequest.encode, CreateRequest.body, CreateRequest.size, List.flatten_cons, List.flatten_nil,
    List.length_append, List.length_nil, array, schema, kind_length]
  rw [Writer.text_length (by omega), Writer.text_length (by omega), Writer.text_length (by omega),
    Writer.text_length (by omega), Writer.text_length (by omega)]
  omega

theorem UpdateRequest.encode_length {request : UpdateRequest} (valid : request.validate = .ok ()) :
    request.encode.length = request.size := by
  simp only [UpdateRequest.validate, except_bind_eq_ok] at valid
  obtain ⟨_, verifierName, _, itemId, _, _, _, name, _, username, _, uri, secret⟩ := valid
  have verifierName := text_short verifierName
  have itemId := text_short itemId
  have name := text_short name
  have username := optional_short username
  have uri := optional_short uri
  have secret := secret_short secret
  unfold maxNameUnits at verifierName name
  unfold maxIdUnits at itemId
  unfold maxUsernameUnits at username
  unfold maxUriUnits at uri
  unfold maxSecretUnits at secret
  have array : (Writer.array updateRequestFields).length = 1 := rfl
  have schema : (Writer.uint vaultSchema).length = 1 := rfl
  simp only [UpdateRequest.encode, UpdateRequest.body, UpdateRequest.size, List.flatten_cons, List.flatten_nil,
    List.length_append, List.length_nil, array, schema, kind_length, Writer.uint_length request.expectedRevision]
  rw [Writer.text_length (by omega), Writer.text_length (by omega), Writer.text_length (by omega),
    Writer.text_length (by omega), Writer.text_length (by omega), Writer.text_length (by omega)]
  omega

/-- A message fits the wire: its octets are a payload, every frame that is otherwise in order carries them, and they
are read back as the message. -/
structure FitsWire {α : Type} (encode : α → Bytes) (decode : Bytes → Except ProtocolError α) (message : α) : Prop where
  payload : (encode message).length ≤ maxApplicationPayloadBytes
  frame : ∀ frame : ApplicationFrame, frame.payload = encode message →
    ApplicationFrame.validate { frame with payload := [] } = .ok () →
      frame.encode.length ≤ maxFrameBytes ∧ ApplicationFrame.decode frame.encode = .ok frame
  decoded : decode (encode message) = .ok message

theorem fitsWire_iff {α : Type} {encode : α → Bytes} {validate : α → Except ProtocolError Unit}
    {decode : Bytes → Except ProtocolError α} (exact : Exact encode validate decode maxApplicationPayloadBytes) {message : α}
    (valid : validate message = .ok ()) {size : Nat} (length : (encode message).length = size) :
    FitsWire encode decode message ↔ size ≤ maxApplicationPayloadBytes := by
  rw [← length]
  refine ⟨FitsWire.payload, fun within => ⟨within, fun frame carried others => ?_, exact.complete message valid within⟩⟩
  obtain ⟨inOrder, short⟩ := ApplicationFrame.holds_payload others (by rw [carried]; exact within)
  exact ⟨short, ApplicationFrame.exact.complete frame inOrder short⟩

/-- An item fits the wire exactly when its texts do not come to more octets than a payload may have. -/
theorem vault_items_fit_iff (response : FetchResponse) (create : CreateRequest) (update : UpdateRequest) :
    (response.validate = .ok () →
      (FitsWire FetchResponse.encode FetchResponse.decode response ↔ response.size ≤ maxApplicationPayloadBytes)) ∧
    (create.validate = .ok () →
      (FitsWire CreateRequest.encode CreateRequest.decode create ↔ create.size ≤ maxApplicationPayloadBytes)) ∧
    (update.validate = .ok () →
      (FitsWire UpdateRequest.encode UpdateRequest.decode update ↔ update.size ≤ maxApplicationPayloadBytes)) :=
  ⟨fun valid => fitsWire_iff FetchResponse.exact valid (FetchResponse.encode_length valid),
    fun valid => fitsWire_iff CreateRequest.exact valid (CreateRequest.encode_length valid),
    fun valid => fitsWire_iff UpdateRequest.exact valid (UpdateRequest.encode_length valid)⟩

section Long

/-- A text of a sign that takes one code unit and three octets. -/
def euros (count : Nat) : String := String.ofList (List.replicate count '€')

theorem euros_octets (count : Nat) : (utf8 (euros count)).length = 3 * count := by
  rw [utf8_eq_flatMap, euros, String.toList_ofList, List.length_flatMap, List.map_replicate, List.sum_replicate_nat]
  exact Nat.mul_comm count 3

theorem euros_units (count : Nat) : utf16Len (euros count) = count := by
  rw [utf16Len, euros, String.toList_ofList, List.map_replicate, List.sum_replicate_nat]
  exact Nat.mul_one count

theorem euros_secret {count : Nat} (some : count ≠ 0) (short : count ≤ maxSecretUnits) :
    checkSecret (euros count) = .ok () := by
  simp only [checkSecret, except_bind_eq_ok, except_require_eq_ok]
  refine ⟨(), fun nothing => some ?_, by rw [euros_units]; exact short⟩
  rw [← euros_units count, nothing]
  rfl

/-- A note the desktop may create, and the answer that brings it back under the id the phone gave it. -/
def euroNote (count : Nat) : CreateRequest := ⟨"desk", .note, "n", "", "", euros count⟩

def euroAnswer (count : Nat) : FetchResponse := ⟨"5f0c7a52-5d7d-4b0b-9d0a-7b6d3a3f6f51", 1, euros count⟩

theorem euroAnswer_valid {count : Nat} (some : count ≠ 0) (short : count ≤ maxSecretUnits) :
    (euroAnswer count).validate = .ok () := by
  simp only [FetchResponse.validate, except_bind_eq_ok]
  have id : checkText "itemId" "5f0c7a52-5d7d-4b0b-9d0a-7b6d3a3f6f51" maxIdUnits = .ok () := by decide +kernel
  have revision : checkRevision 1 = .ok () := by decide
  exact ⟨(), id, (), revision, euros_secret some short⟩

theorem euroAnswer_size (count : Nat) : (euroAnswer count).size = 41 + Writer.textSize (euros count) := by
  have id : Writer.textSize "5f0c7a52-5d7d-4b0b-9d0a-7b6d3a3f6f51" = 38 := by decide +kernel
  have revision : Writer.headSize (1 : UInt64).toNat = 1 := rfl
  rw [FetchResponse.size, euroAnswer, id, revision]

theorem euros_size {count : Nat} (long : 100 ≤ count) (short : count ≤ maxSecretUnits) :
    Writer.textSize (euros count) = 3 + 3 * count := by
  unfold maxSecretUnits at short
  rw [Writer.textSize, euros_octets, Writer.headSize, if_neg (by omega), if_neg (by omega), if_pos (by omega)]

theorem euroAnswer_lost {count : Nat} (long : 2034 < count) (short : count ≤ maxSecretUnits) :
    ¬FitsWire FetchResponse.encode FetchResponse.decode (euroAnswer count) := by
  intro fits
  have valid := euroAnswer_valid (by omega) short
  have size := (fitsWire_iff FetchResponse.exact valid (FetchResponse.encode_length valid)).mp fits
  rw [euroAnswer_size, euros_size (by omega) short] at size
  unfold maxApplicationPayloadBytes at size
  omega

theorem euroAnswer_secret (count : Nat) : (euroAnswer count).secret = (euroNote count).secret := rfl

theorem euroNote_valid {count : Nat} (some : count ≠ 0) (short : count ≤ maxSecretUnits) :
    (euroNote count).validate = .ok () := by
  simp only [CreateRequest.validate, except_bind_eq_ok]
  have verifierName : checkText "verifierName" "desk" maxNameUnits = .ok () := by decide +kernel
  have name : checkText "name" "n" maxNameUnits = .ok () := by decide +kernel
  have username : checkOptionalText "username" "" maxUsernameUnits = .ok () := by decide +kernel
  have uri : checkOptionalText "uri" "" maxUriUnits = .ok () := by decide +kernel
  exact ⟨(), verifierName, (), name, (), username, (), uri, euros_secret some short⟩

theorem euroNote_fits {count : Nat} (long : 100 ≤ count) (short : count ≤ 2043) :
    FitsWire CreateRequest.encode CreateRequest.decode (euroNote count) := by
  have desk : Writer.textSize "desk" = 5 := by decide +kernel
  have name : Writer.textSize "n" = 2 := by decide +kernel
  have empty : Writer.textSize "" = 1 := by decide +kernel
  have size : (euroNote count).size = 12 + Writer.textSize (euros count) := by
    simp only [CreateRequest.size, euroNote, desk, name, empty]
  have within : count ≤ maxSecretUnits := le_trans short (by decide)
  have valid := euroNote_valid (by omega) within
  refine (fitsWire_iff CreateRequest.exact valid (CreateRequest.encode_length valid)).mpr ?_
  rw [size, euros_size long within]
  unfold maxApplicationPayloadBytes
  omega

/-- A secret of the longest there may be does not come back, and neither does a shorter one that could be created. -/
theorem vault_item_lost :
    (euroAnswer maxSecretUnits).validate = .ok () ∧
      ¬FitsWire FetchResponse.encode FetchResponse.decode (euroAnswer maxSecretUnits) ∧
    (euroNote 2035).validate = .ok () ∧ FitsWire CreateRequest.encode CreateRequest.decode (euroNote 2035) ∧
      (euroAnswer 2035).secret = (euroNote 2035).secret ∧ (euroAnswer 2035).validate = .ok () ∧
        ¬FitsWire FetchResponse.encode FetchResponse.decode (euroAnswer 2035) :=
  ⟨euroAnswer_valid (by decide) le_rfl, euroAnswer_lost (by decide) le_rfl, euroNote_valid (by decide) (by decide),
    euroNote_fits (by decide) (by decide), euroAnswer_secret 2035, euroAnswer_valid (by decide) (by decide), euroAnswer_lost (by decide) (by decide)⟩

theorem vault_items_fit_short :
    FitsWire FetchResponse.encode FetchResponse.decode (euroAnswer 100) ∧
      FitsWire CreateRequest.encode CreateRequest.decode ⟨"desk", .note, "n", "", "", "s"⟩ ∧
        FitsWire UpdateRequest.encode UpdateRequest.decode ⟨"desk", "i", 1, .note, "n", "", "", "s"⟩ := by
  obtain ⟨response, create, update⟩ := vault_items_fit_iff (euroAnswer 100) ⟨"desk", .note, "n", "", "", "s"⟩
    ⟨"desk", "i", 1, .note, "n", "", "", "s"⟩
  refine ⟨(response (euroAnswer_valid (by decide) (by decide))).mpr ?_,
    (create (by decide +kernel)).mpr (by decide +kernel), (update (by decide +kernel)).mpr (by decide +kernel)⟩
  rw [euroAnswer_size, euros_size (by decide) (by decide)]
  decide

end Long

end Vault

end Protocol

end BioAuth
