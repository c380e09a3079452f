import BioAuth.Mobile.KeyWrapAgreement
import BioAuth.Protocol.SshAccount

namespace BioAuth.Mobile
open BioAuth
open BioAuth.Protocol.SshPayload (SignRequest)
open BioAuth.Protocol.Ssh (Head ShowsSigned Whole UserauthRequest userauthRequest publickey maxFieldBytes)

/-- `String.fromCharCodes` of octets: each is one code unit. -/
def fromCharCodes (octets : Bytes) : String := String.ofList (octets.map fun octet => Char.ofNat octet.toNat)

namespace SshBlob

/-- One length-prefixed string. The length is passed over even when too little follows. -/
def string (data : Bytes) : Option Bytes × Bytes :=
  match data with
  | a :: b :: c :: d :: rest =>
    let length := a.toNat <<< 24 ||| b.toNat <<< 16 ||| c.toNat <<< 8 ||| d.toNat
    if length ≤ rest.length then (some (rest.take length), rest.drop length) else (none, rest)
  | short => (none, short)

def text (data : Bytes) : Option String × Bytes := ((string data).1.map fromCharCodes, (string data).2)

end SshBlob

/-- The account and service an authentication request is for, as the phone reads them. -/
def accountInRequest (data : Bytes) : Option (String × String) :=
  match SshBlob.string data with
  | (none, _) => none
  | (some _, []) => none
  | (some _, kind :: rest) =>
    if kind ≠ userauthRequest then none else
      let (user, rest) := SshBlob.text rest
      let (service, rest) := SshBlob.text rest
      let (method, _) := SshBlob.text rest
      match user, service with
      | some user, some service =>
        if method ≠ some publickey then none else if user = "" then none else some (user, service)
      | _, _ => none

theorem shifted_number (a b c d : UInt8) :
    a.toNat <<< 24 ||| b.toNat <<< 16 ||| c.toNat <<< 8 ||| d.toNat = BigEndian.decode [a, b, c, d] := by
  have second := b.toNat_lt
  have third := c.toNat_lt
  have fourth := d.toNat_lt
  have low : c.toNat <<< 8 ||| d.toNat = c.toNat * 2 ^ 8 + d.toNat := by
    rw [← Nat.shiftLeft_add_eq_or_of_lt (by omega), Nat.shiftLeft_eq]
  have middle : b.toNat <<< 16 ||| (c.toNat * 2 ^ 8 + d.toNat) = b.toNat * 2 ^ 16 + (c.toNat * 2 ^ 8 + d.toNat) := by
    rw [← Nat.shiftLeft_add_eq_or_of_lt (by omega), Nat.shiftLeft_eq]
  rw [Nat.or_assoc, Nat.or_assoc, low, middle, ← Nat.shiftLeft_add_eq_or_of_lt (by omega), Nat.shiftLeft_eq]
  simp only [BigEndian.decode, List.foldl_cons, List.foldl_nil]
  omega

namespace SshBlob

theorem string_eq_some {data value rest : Bytes} :
    string data = (some value, rest) ↔ value.length < 256 ^ 4 ∧ data = Protocol.Ssh.string value ++ rest := by
  constructor
  · intro run
    unfold string at run
    split at run
    · rename_i a b c d left
      rw [shifted_number] at run
      dsimp only at run
      split at run
      · rename_i enough
        simp only [Prod.mk.injEq, Option.some.injEq] at run
        obtain ⟨rfl, rfl⟩ := run
        have small := BigEndian.decode_lt [a, b, c, d]
        have width := List.length_take_of_le enough
        refine ⟨width.trans_lt small, ?_⟩
        have back : BigEndian.encode 4 (BigEndian.decode [a, b, c, d]) = [a, b, c, d] := BigEndian.encode_decode [a, b, c, d]
        unfold Protocol.Ssh.string Protocol.Ssh.uint32
        rw [width, back, List.append_assoc, List.take_append_drop]
        rfl
      · cases run
    · cases run
  · rintro ⟨small, rfl⟩
    have back := BigEndian.decode_encode_of_lt small
    have width := BigEndian.encode_length 4 value.length
    unfold Protocol.Ssh.string Protocol.Ssh.uint32
    revert back width
    generalize BigEndian.encode 4 value.length = front
    intro back width
    match front, width with
    | [a, b, c, d], _ =>
      have whole : [a, b, c, d] ++ value ++ rest = a :: b :: c :: d :: (value ++ rest) := rfl
      rw [whole, string, shifted_number, back, if_pos (by rw [List.length_append]; omega), List.take_left, List.drop_left]

theorem text_eq_some {data rest : Bytes} {value : String} :
    text data = (some value, rest) ↔
      ∃ octets, value = fromCharCodes octets ∧ octets.length < 256 ^ 4 ∧ data = Protocol.Ssh.string octets ++ rest := by
  simp only [text, Prod.mk.injEq, Option.map_eq_some_iff]
  constructor
  · rintro ⟨⟨octets, read, rfl⟩, left⟩
    exact ⟨octets, rfl, string_eq_some.mp (Prod.ext read left)⟩
  · rintro ⟨octets, rfl, small, spelled⟩
    have read := string_eq_some.mpr ⟨small, spelled⟩
    rw [read]
    exact ⟨⟨octets, rfl, rfl⟩, rfl⟩

end SshBlob

theorem fromCharCodes_injective {a b : Bytes} (same : fromCharCodes a = fromCharCodes b) : a = b := by
  have number : ∀ n < 256, (Char.ofNat n).toNat = n := by decide +kernel
  have inner : Function.Injective fun octet : UInt8 => Char.ofNat octet.toNat := by
    intro x y equal
    have codes := congrArg Char.toNat equal
    dsimp only at codes
    rw [number _ x.toNat_lt, number _ y.toNat_lt] at codes
    exact UInt8.toNat_inj.mp codes
  exact (List.map_inj_right fun _ _ equal => inner equal).mp (String.ofList_injective same)

/-- Every octet is a character of its own in UTF-8 too. -/
def Ascii (octets : Bytes) : Prop := ∀ octet ∈ octets, octet.toNat < 0x80

/-- What the phone reads of octets spells them, in UTF-8, exactly when they are ASCII: any other octet takes two. -/
theorem utf8_fromCharCodes_iff {octets : Bytes} : utf8 (fromCharCodes octets) = octets ↔ Ascii octets := by
  have one : ∀ n < 128, String.utf8EncodeChar (Char.ofNat n) = [UInt8.ofNat n] := by decide +kernel
  have two : ∀ n < 256, 1 ≤ (String.utf8EncodeChar (Char.ofNat n)).length ∧
      (128 ≤ n → (String.utf8EncodeChar (Char.ofNat n)).length = 2) := by decide +kernel
  rw [utf8_eq_flatMap, fromCharCodes, String.toList_ofList, List.flatMap_map]
  have long (octets : Bytes) :
      octets.length ≤ (octets.flatMap fun octet => String.utf8EncodeChar (Char.ofNat octet.toNat)).length := by
    induction octets with
    | nil => exact Nat.le_refl _
    | cons octet rest ih =>
      have least := (two _ octet.toNat_lt).1
      rw [List.flatMap_cons, List.length_append, List.length_cons]
      omega
  induction octets with
  | nil => exact iff_of_true rfl fun _ member => nomatch member
  | cons octet rest ih =>
    rw [List.flatMap_cons, Ascii, List.forall_mem_cons]
    by_cases small : octet.toNat < 128
    · rw [one _ small, UInt8.ofNat_toNat, List.singleton_append, List.cons_inj_right, and_iff_right small]
      exact ih
    · refine iff_of_false (fun same => ?_) fun both => small both.1
      have lengths := congrArg List.length same
      have wide := (two _ octet.toNat_lt).2 (by omega)
      have least := long rest
      rw [List.length_append, List.length_cons] at lengths
      omega

theorem fromCharCodes_eq_empty {octets : Bytes} : fromCharCodes octets = "" ↔ octets = [] :=
  ⟨fun same => fromCharCodes_injective (same.trans (by decide)), fun none => none ▸ by decide⟩

theorem fromCharCodes_eq_publickey {octets : Bytes} : fromCharCodes octets = publickey ↔ octets = utf8 publickey :=
  ⟨fun same => fromCharCodes_injective (same.trans (by decide)), fun same => same ▸ by decide⟩

/-- The phone reads the same head as the desktop, of any size, and its two texts octet by octet. -/
theorem accountInRequest_eq_some {data : Bytes} {user service : String} :
    accountInRequest data = some (user, service) ↔ ∃ (head : Head) (rest : Bytes),
      data = head.spell ++ rest ∧ head.Fits ∧ head.user ≠ [] ∧ user = fromCharCodes head.user ∧
        service = fromCharCodes head.service := by
  constructor
  · intro named
    unfold accountInRequest at named
    split at named
    · cases named
    · cases named
    · rename_i sessionId kind left session
      obtain ⟨sessionFits, rfl⟩ := SshBlob.string_eq_some.mp session
      split at named
      · cases named
      · rename_i number
        rw [ne_eq, not_not] at number
        rcases first : SshBlob.text left with ⟨_ | account, second⟩
        · rw [first] at named
          cases named
        rcases next : SshBlob.text second with ⟨_ | task, third⟩
        · simp only [first, next] at named
          cases named
        rcases last : SshBlob.text third with ⟨method, rest⟩
        simp only [first, next, last] at named
        split at named
        · cases named
        · rename_i methods
          rw [ne_eq, not_not] at methods
          split at named
          · cases named
          · rename_i filled
            cases named
            subst methods
            obtain ⟨account, rfl, accountFits, rfl⟩ := SshBlob.text_eq_some.mp first
            obtain ⟨task, rfl, taskFits, rfl⟩ := SshBlob.text_eq_some.mp next
            obtain ⟨method, same, _, rfl⟩ := SshBlob.text_eq_some.mp last
            rw [fromCharCodes_eq_publickey.mp same.symm, number]
            refine ⟨⟨sessionId, account, task⟩, rest, (Head.spell_append ..).symm, ⟨sessionFits, accountFits, taskFits⟩,
              fun none => filled (fromCharCodes_eq_empty.mpr none), rfl, rfl⟩
  · rintro ⟨⟨sessionId, account, task⟩, rest, rfl, fits, filled, rfl, rfl⟩
    have session := SshBlob.string_eq_some.mpr ⟨fits.sessionId, Head.spell_append sessionId account task rest⟩
    have text {octets : Bytes} (small : octets.length < 256 ^ 4) (rest : Bytes) :
        SshBlob.text (Protocol.Ssh.string octets ++ rest) = (some (fromCharCodes octets), rest) :=
      SshBlob.text_eq_some.mpr ⟨octets, rfl, small, rfl⟩
    have last : SshBlob.text (Protocol.Ssh.text publickey ++ rest) = (some publickey, rest) :=
      SshBlob.text_eq_some.mpr ⟨utf8 publickey, by decide, by decide, rfl⟩
    unfold accountInRequest
    rw [session]
    simp only [List.cons_append, List.nil_append, text fits.user, text fits.service, last, ne_eq, not_true_eq_false,
      if_false]
    rw [if_neg fun none => filled (fromCharCodes_eq_empty.mp none)]

theorem accountInRequest_shows_iff (data : Bytes) :
    ShowsSigned accountInRequest data ↔ ∀ (head : Head) (rest : Bytes), data = head.spell ++ rest → head.Fits → head.user ≠ [] →
      Ascii head.user ∧ (∃ service, head.service = utf8 service) ∧ Whole rest := by
  constructor
  · intro shows head rest spelled fits filled
    have named := accountInRequest_eq_some.mpr ⟨head, rest, spelled, fits, filled, rfl, rfl⟩
    obtain ⟨request, requestFits, whole, user⟩ := shows _ _ named
    obtain ⟨rfl, complete⟩ := Protocol.Ssh.whole_of_encode requestFits fits (spelled.symm.trans whole)
    have own : utf8 (fromCharCodes (utf8 request.user)) = utf8 request.user := congrArg utf8 user.symm
    exact ⟨utf8_fromCharCodes_iff.mp own, ⟨request.service, rfl⟩, complete⟩
  · intro whole user service named
    obtain ⟨head, rest, spelled, fits, filled, rfl, rfl⟩ := accountInRequest_eq_some.mp named
    obtain ⟨ascii, ⟨task, served⟩, algorithm, keyBlob, algorithmFits, keyFits, rfl⟩ := whole head rest spelled fits filled
    have own := utf8_fromCharCodes_iff.mpr ascii
    let request : UserauthRequest := ⟨head.sessionId, fromCharCodes head.user, task, algorithm, keyBlob⟩
    have heads : request.head = head := by
      rw [UserauthRequest.head, own, ← served]
    have small : request.head.Fits := by
      rw [heads]
      exact fits
    refine ⟨request, ⟨small, algorithmFits, keyFits⟩, ?_, rfl⟩
    rw [UserauthRequest.encode, heads, spelled]

/-- An account is named of exactly the requests that are whole, and it is their user's, when the data goes on behind the
method as a whole request does. On the phone the user must also be ASCII, or missing. -/
theorem account_shown_iff (data : Bytes) :
    (ShowsSigned Protocol.Ssh.accountInRequest data ↔ ∀ sessionId user service rest,
      data = (Head.mk sessionId (utf8 user) (utf8 service)).spell ++ rest → sessionId.length ≤ maxFieldBytes →
      (utf8 user).length ≤ maxFieldBytes → (utf8 service).length ≤ maxFieldBytes → Whole rest) ∧
    (ShowsSigned accountInRequest data ↔ ∀ (head : Head) (rest : Bytes), data = head.spell ++ rest → head.Fits →
      head.user ≠ [] → Ascii head.user ∧ (∃ service, head.service = utf8 service) ∧ Whole rest) :=
  ⟨Protocol.Ssh.accountInRequest_shows_iff data, accountInRequest_shows_iff data⟩

/-- A request for `ana` that ends with the name of the method. -/
def cutRequest : Bytes := (Head.mk [1] (utf8 "ana") (utf8 "ssh-connection")).spell

/-- Both sides name the account of a request that lacks its flag, its algorithm and its key. -/
theorem cut_request_named :
    Protocol.Ssh.accountInRequest cutRequest = some ("ana", "ssh-connection") ∧
    accountInRequest cutRequest = some ("ana", "ssh-connection") ∧
    ¬ShowsSigned Protocol.Ssh.accountInRequest cutRequest ∧ ¬ShowsSigned accountInRequest cutRequest := by
  have desktop : Protocol.Ssh.accountInRequest cutRequest = some ("ana", "ssh-connection") := by decide +kernel
  have phone : accountInRequest cutRequest = some ("ana", "ssh-connection") := by decide +kernel
  have cut (request : UserauthRequest) (fits : request.Fits) : cutRequest ≠ request.encode := by
    intro whole
    have small : (Head.mk [1] (utf8 "ana") (utf8 "ssh-connection")).Fits := ⟨by decide, by decide, by decide⟩
    obtain ⟨_, _, _, _, _, rest⟩ := Protocol.Ssh.whole_of_encode fits small ((List.append_nil _).trans whole)
    cases rest
  refine ⟨desktop, phone, fun shows => ?_, fun shows => ?_⟩
  · obtain ⟨request, fits, whole, _⟩ := shows _ _ desktop
    exact cut request fits whole
  · obtain ⟨request, fits, whole, _⟩ := shows _ _ phone
    exact cut request fits whole

/-- The desktop takes the session id and the two texts of a head: none is too long, and the texts are UTF-8. -/
structure Taken (head : Head) : Prop where
  sessionId : head.sessionId.length ≤ maxFieldBytes
  user : head.user.length ≤ maxFieldBytes ∧ ∃ user, head.user = utf8 user
  service : head.service.length ≤ maxFieldBytes ∧ ∃ service, head.service = utf8 service

theorem desktop_names_iff {head : Head} {rest : Bytes} (fits : head.Fits) :
    (∃ account, Protocol.Ssh.accountInRequest (head.spell ++ rest) = some account) ↔ Taken head := by
  constructor
  · rintro ⟨⟨user, service⟩, named⟩
    obtain ⟨sessionId, others, spelled, sessionFits, userFits, serviceFits⟩ :=
      Protocol.Ssh.accountInRequest_eq_some.mp named
    have small {size : Nat} (within : size ≤ maxFieldBytes) : size < 256 ^ 4 := within.trans_lt (by decide)
    obtain ⟨rfl, _⟩ := Head.spell_injective fits ⟨small sessionFits, small userFits, small serviceFits⟩ spelled
    exact ⟨sessionFits, ⟨userFits, user, rfl⟩, serviceFits, service, rfl⟩
  · intro taken
    obtain ⟨userFits, user, owner⟩ := taken.user
    obtain ⟨serviceFits, service, task⟩ := taken.service
    obtain ⟨sessionId, _, _⟩ := head
    cases owner
    cases task
    exact ⟨(user, service), Protocol.Ssh.accountInRequest_eq_some.mpr
      ⟨sessionId, rest, rfl, taken.sessionId, userFits, serviceFits⟩⟩

/-- Both sides name one account, or neither names any. -/
theorem accounts_agree_iff (data : Bytes) :
    Protocol.Ssh.accountInRequest data = accountInRequest data ↔
      ∀ (head : Head) (rest : Bytes), data = head.spell ++ rest → head.Fits →
        (head.user ≠ [] ∧ Ascii head.user ∧ Ascii head.service ∧ Taken head) ∨ (head.user = [] ∧ ¬Taken head) := by
  have small {size : Nat} (within : size ≤ maxFieldBytes) : size < 256 ^ 4 := within.trans_lt (by decide)
  constructor
  · intro same head rest spelled fits
    by_cases filled : head.user = []
    · refine Or.inr ⟨filled, fun taken => ?_⟩
      obtain ⟨⟨user, service⟩, named⟩ := (desktop_names_iff fits).mpr taken
      rw [← spelled, same] at named
      obtain ⟨other, left, elsewhere, otherFits, some, _⟩ := accountInRequest_eq_some.mp named
      obtain ⟨rfl, _⟩ := Head.spell_injective fits otherFits (spelled.symm.trans elsewhere)
      exact some filled
    · have named := accountInRequest_eq_some.mpr ⟨head, rest, spelled, fits, filled, rfl, rfl⟩
      rw [← same] at named
      have taken := (desktop_names_iff fits).mp ⟨_, spelled ▸ named⟩
      obtain ⟨sessionId, left, elsewhere, sessionFits, userFits, serviceFits⟩ :=
        Protocol.Ssh.accountInRequest_eq_some.mp named
      obtain ⟨heads, _⟩ := Head.spell_injective fits ⟨small sessionFits, small userFits, small serviceFits⟩
        (spelled.symm.trans elsewhere)
      have user : head.user = utf8 (fromCharCodes head.user) := congrArg Head.user heads
      have service : head.service = utf8 (fromCharCodes head.service) := congrArg Head.service heads
      exact Or.inl ⟨filled, utf8_fromCharCodes_iff.mp user.symm, utf8_fromCharCodes_iff.mp service.symm, taken⟩
  · intro alike
    refine Option.ext fun (user, service) => ?_
    constructor
    · intro named
      obtain ⟨sessionId, rest, spelled, sessionFits, userFits, serviceFits⟩ :=
        Protocol.Ssh.accountInRequest_eq_some.mp named
      have fits : (Head.mk sessionId (utf8 user) (utf8 service)).Fits := ⟨small sessionFits, small userFits, small serviceFits⟩
      rcases alike _ rest spelled fits with ⟨filled, owner, task, _⟩ | ⟨_, refused⟩
      · exact accountInRequest_eq_some.mpr ⟨_, rest, spelled, fits, filled,
          utf8_injective (utf8_fromCharCodes_iff.mpr owner).symm, utf8_injective (utf8_fromCharCodes_iff.mpr task).symm⟩
      · exact absurd ⟨sessionFits, ⟨userFits, user, rfl⟩, serviceFits, service, rfl⟩ refused
    · intro named
      obtain ⟨head, rest, spelled, fits, filled, rfl, rfl⟩ := accountInRequest_eq_some.mp named
      rcases alike head rest spelled fits with ⟨_, owner, task, taken⟩ | ⟨none, _⟩
      · have user := utf8_fromCharCodes_iff.mpr owner
        have service := utf8_fromCharCodes_iff.mpr task
        refine Protocol.Ssh.accountInRequest_eq_some.mpr ⟨head.sessionId, rest, ?_, taken.sessionId, ?_, ?_⟩
        · rw [user, service]
          exact spelled
        · rw [user]
          exact taken.user.1
        · rw [service]
          exact taken.service.1
      · exact absurd none filled

/-- The phone reads a request the desktop may send, field by field, exactly when the name is short in units too and
neither text starts with a byte order mark. -/
theorem sign_request_read_iff {request : SignRequest} (valid : request.validate = .ok ()) :
    (∃ read, SshSignRequest.decode (.ofBytes request.encode) = .ok read ∧ read.verifierName = request.verifierName ∧
        read.destination = request.destination ∧ read.data = request.data) ↔
      utf16Len request.verifierName ≤ 64 ∧ marked request.verifierName = false ∧ marked request.destination = false := by
  simp only [SignRequest.validate, Protocol.SshPayload.checkName, except_bind_eq_ok, except_require_eq_ok,
    exists_const] at valid
  obtain ⟨⟨named, _⟩, destination, data⟩ := valid
  constructor
  · rintro ⟨read, run, _⟩
    have suits := ((SshSignRequest.faithful.read_iff (fun _ => rfl) SignRequest.body_reads (by decide) (by decide)
      (by decide) request).mp ⟨read, run⟩).2
    exact ⟨suits.good.1.2, suits.unmarked _ List.mem_cons_self, suits.unmarked _ (by simp [SshSignRequest.view])⟩
  · rintro ⟨units, name, place⟩
    have good : SshSignRequest.view.good request := ⟨⟨named, units⟩, (utf16Len_le_utf8 _).trans destination, data⟩
    have unmarked : ∀ text ∈ SshSignRequest.view.texts request, marked text = false :=
      List.forall_mem_cons.mpr ⟨name, List.forall_mem_singleton.mpr place⟩
    have size := SshSignRequest.encode_le_of_good good
    have octets : (Uint8List.ofBytes request.encode).octets = request.encode :=
      Uint8List.ofBytes_octets (size.trans_lt (by decide))
    have run : SshSignRequest.decode (.ofBytes request.encode) = .ok (SshSignRequest.view.record request) :=
      (SshSignRequest.faithful.decodePayload_eq_ok (fun _ => rfl) (by decide) (by decide)).mpr
        ⟨(congrArg List.length octets).le.trans size, request, octets, ⟨trivial, good, unmarked⟩, rfl⟩
    exact ⟨_, run, rfl, rfl, rfl⟩

/-- The two sides agree on a request exactly when its name is short in units and neither text is marked, and on the account
of some data exactly when the texts of its head are plain. -/
theorem sign_requests_agree_iff {request : SignRequest} (valid : request.validate = .ok ()) (data : Bytes) :
    ((∃ read, SshSignRequest.decode (.ofBytes request.encode) = .ok read ∧ read.verifierName = request.verifierName ∧
        read.destination = request.destination ∧ read.data = request.data) ↔
      utf16Len request.verifierName ≤ 64 ∧ marked request.verifierName = false ∧ marked request.destination = false) ∧
    (Protocol.Ssh.accountInRequest data = accountInRequest data ↔
      ∀ (head : Head) (rest : Bytes), data = head.spell ++ rest → head.Fits →
        (head.user ≠ [] ∧ Ascii head.user ∧ Ascii head.service ∧ Taken head) ∨ (head.user = [] ∧ ¬Taken head)) :=
  ⟨sign_request_read_iff valid, accounts_agree_iff data⟩

/-- A request from a desktop of some name. -/
def signFrom (name : String) : SignRequest := ⟨name, "host", [1]⟩

/-- The head of a request for a user of some name. -/
def requestOf (user : String) : Bytes := (Head.mk [1] (utf8 user) (utf8 "ssh-connection")).spell

theorem plain_sign_request :
    ((∃ read, SshSignRequest.decode (.ofBytes (signFrom "desk").encode) = .ok read ∧ read.verifierName = "desk" ∧
        read.destination = "host" ∧ read.data = [1]) ↔
      utf16Len "desk" ≤ 64 ∧ marked "desk" = false ∧ marked "host" = false) ∧
    (Protocol.Ssh.accountInRequest (requestOf "ana") = accountInRequest (requestOf "ana") ↔
      ∀ (head : Head) (rest : Bytes), requestOf "ana" = head.spell ++ rest → head.Fits →
        (head.user ≠ [] ∧ Ascii head.user ∧ Ascii head.service ∧ Taken head) ∨ (head.user = [] ∧ ¬Taken head)) :=
  @sign_requests_agree_iff (signFrom "desk") (by decide +kernel) (requestOf "ana")

/-- A name of 33 characters, each of which is two units. -/
def emojiName : String := String.ofList (List.replicate 33 (Char.ofNat 0x1F4BB))

/-- The phone refuses a name that is short in characters only, and reads `josé` as it is spelled, not as it is written. An
empty user is an account to the desktop alone. -/
theorem sign_requests_disagree :
    (signFrom emojiName).validate = .ok () ∧
    SshSignRequest.decode (.ofBytes (signFrom emojiName).encode) = .error (formatException "invalid verifierName") ∧
    Protocol.Ssh.accountInRequest (requestOf "jos\u00e9") = some ("jos\u00e9", "ssh-connection") ∧
    accountInRequest (requestOf "jos\u00e9") = some ("jos\u00c3\u00a9", "ssh-connection") ∧
    Protocol.Ssh.accountInRequest (requestOf "") = some ("", "ssh-connection") ∧
    accountInRequest (requestOf "") = none := by
  decide +kernel

end BioAuth.Mobile
