import BioAuth.Agent.Permissions
import BioAuth.Lib.Replica
import BioAuth.Mobile.FrameAgreement
import BioAuth.Mobile.PermissionAgreement
import BioAuth.Mobile.PermissionService
import BioAuth.Protocol.Sizes

namespace BioAuth.Agent
open BioAuth
open BioAuth.Mobile (DateTime PermissionService PermissionSet PermissionSets StoreWeather Uint8List)
open BioAuth.Protocol (ApplicationFrame Permission SyncRequest SyncResponse sessionBindingLen)
open BioAuth.Session (IoError)
open BioAuth.Verifier (Kept PairedCredential PairingStore)

/-- A session whose other end is the phone that answers for one credential, over a network that may lose the request or
the answer. -/
structure PhoneLink where
  binding : Block sessionBindingLen
  service : PermissionService
  clock : DateTime
  weather : StoreWeather
  /-- Whether what is sent arrives, and what the sender is told. -/
  arrives : Bool
  sent : Except IoError Unit
  /-- Whether the answer comes back. -/
  returns : Bool
  answered : Option Bytes
  sets : PermissionSets

namespace PhoneLink

/-- The phone takes a frame. An answer it cannot make closes the session. -/
def deliver (frame : Bytes) (link : PhoneLink) : PhoneLink :=
  if link.arrives then
    let run := link.service.handle link.weather link.clock (.ofBytes frame) link.binding.val link.sets
    { link with answered := run.1.toOption, sets := run.2 }
  else link

instance : SecureSession PhoneLink where
  sessionBinding link := link.binding
  security _ := ⟨true, true⟩
  send frame link := (link.sent, link.deliver frame)
  receive _ link :=
    match link.answered with
    | some raw => if link.returns then (.ok raw, link) else (.error ⟨.timedOut, "the session timed out"⟩, link)
    | none => (.error ⟨.unexpectedEof, "failed to fill whole buffer"⟩, link)

end PhoneLink

/-- What the desktop holds of a credential. -/
def PairedCredential.copy (credential : PairedCredential) : Copy (List Permission) :=
  ⟨credential.permissionsRevision.toNat, credential.permissions⟩

def PermissionSet.copy (set : PermissionSet) : Copy (List Permission) := ⟨set.revision.toInt, set.permissions⟩

def SyncResponse.copy (response : SyncResponse) : Copy (List Permission) :=
  ⟨response.revision.toNat, response.permissions⟩

theorem granted_copy (response : SyncResponse) (credential : PairedCredential) :
    PairedCredential.copy (granted response.permissions response.revision credential) = SyncResponse.copy response := rfl

theorem response_copy {set : PermissionSet} (up : 0 ≤ set.revision.toInt) :
    SyncResponse.copy set.response.desktop = PermissionSet.copy set := by
  have number : ((UInt64.ofNat set.revision.toInt.toNat).toNat : Int) = set.revision.toInt := by
    have largest := set.revision.toInt_lt
    rw [UInt64.toNat_ofNat']
    omega
  unfold SyncResponse.copy PermissionSet.copy
  rw [← number]
  rfl

theorem int64_eq_zero (revision : Int64) : revision = 0 ↔ revision.toInt = 0 := by
  rw [← Int64.toInt_inj]
  rfl

/-- When the phone keeps its own set. -/
theorem reconcile_eq_mine {mine theirs : Int64} :
    Mobile.reconcile mine theirs true = .mine ↔
      ¬(theirs.toInt = 0 ∧ mine.toInt = 0) ∧ ¬mine.toInt < theirs.toInt := by
  unfold Mobile.reconcile
  simp only [int64_eq_zero, Int64.lt_iff_toInt_lt]
  by_cases unedited : mine.toInt = 0 ∧ theirs.toInt = 0
  · rw [if_pos unedited]
    exact iff_of_false nofun fun ⟨edited, _⟩ => edited unedited.symm
  · rw [if_neg unedited]
    by_cases newer : theirs.toInt < mine.toInt
    · rw [if_pos newer]
      exact iff_of_true rfl ⟨fun zeros => unedited zeros.symm, by omega⟩
    · rw [if_neg newer]
      by_cases older : mine.toInt < theirs.toInt
      · rw [if_pos older]
        exact iff_of_false nofun fun ⟨_, not⟩ => not older
      · rw [if_neg older]
        exact iff_of_true rfl ⟨fun zeros => unedited zeros.symm, older⟩

/-- The set that the phone settles on is the copy that stands. -/
theorem settled_copy (mine : PermissionSet) (offered : Mobile.PermissionSyncRequest) :
    PermissionSet.copy (PermissionService.settled mine offered) =
      Copy.winner ⟨offered.revision.toInt, offered.permissions⟩ (PermissionSet.copy mine) := by
  unfold PermissionService.settled
  rcases decided : Mobile.reconcile mine.revision offered.revision true with _ | _
  · obtain ⟨edited, newer⟩ := reconcile_eq_mine.mp decided
    exact (Copy.winner_of_ge edited newer).symm
  · by_cases unedited : offered.revision.toInt = 0 ∧ mine.revision.toInt = 0
    · exact (Copy.winner_of_unedited unedited).symm
    · by_cases newer : mine.revision.toInt < offered.revision.toInt
      · exact (Copy.winner_of_lt newer).symm
      · rw [reconcile_eq_mine.mpr ⟨unedited, newer⟩] at decided
        cases decided

/-- What a phone makes of the frame that offers it a set. -/
theorem handled {service : PermissionService} {weather : StoreWeather} {clock : DateTime} {binding : Bytes}
    {request : ApplicationFrame} (valid : request.validate = .ok ()) {offered : SyncRequest}
    (few : offered.permissions.length ≤ Protocol.maxPermissions) (carried : request.payload = offered.encode)
    {sets after : PermissionSets} {result : Except Mobile.Thrown Bytes}
    (run : service.handle weather clock (.ofBytes request.encode) binding sets = (result, after)) :
    let mine := PermissionSet.copy (sets.read service.verifierId service.credentialId)
    let stands := Copy.winner ⟨offered.revision.toNat, offered.permissions⟩ mine
    (PermissionSet.copy (after.read service.verifierId service.credentialId) = mine ∨
        PermissionSet.copy (after.read service.verifierId service.credentialId) = stands) ∧
      ∀ raw, result = .ok raw → PermissionService.IsError raw ∨
        ∃ (set : PermissionSet) (payload : Bytes) (frame : Mobile.ApplicationFrame),
          after.read service.verifierId service.credentialId = set ∧ PermissionSet.copy set = stands ∧
            set.response.encode = .ok payload ∧
            Mobile.ApplicationFrame.encode { frame with kind := .response, payload } = .ok raw := by
  intro mine stands
  rcases PermissionService.handle_cases run with ⟨same, errors⟩ | ⟨read, found, decoded, asked, places, content⟩
  · rw [same]
    exact ⟨Or.inl rfl, fun raw answered => Or.inl (errors raw answered)⟩
  · -- The phone read the frame that was sent, and in it the set that was offered.
    have small := ApplicationFrame.payload_short valid
    have short := ApplicationFrame.encode_short valid
    have whole : (Uint8List.ofBytes request.encode).octets = request.encode := by
      refine Uint8List.ofBytes_octets ?_
      unfold Protocol.maxFrameBytes at short
      omega
    obtain ⟨mirrors, _⟩ := Mobile.ApplicationFrame.mirrors_of_decode whole decoded
    have payload : (Uint8List.ofBytes read.payload).octets = offered.encode := by
      rw [mirrors.payload, ← carried]
      refine Uint8List.ofBytes_octets ?_
      unfold Protocol.maxApplicationPayloadBytes at small
      omega
    obtain ⟨same, checked⟩ := Mobile.PermissionSyncRequest.desktop_of_decode few payload asked
    have revision : found.revision.toInt = offered.revision.toNat := by
      rw [← same, Mobile.PermissionSyncRequest.desktop, UInt64.toNat_ofNat']
      have least := checked.revision
      have largest := found.revision.toInt_lt
      omega
    have permissions : found.permissions = offered.permissions := by
      rw [← same]
      rfl
    have settled := settled_copy (sets.read service.verifierId service.credentialId) found
    rw [revision, permissions] at settled
    constructor
    · rcases places with same | same
      · rw [same]
        exact Or.inl rfl
      · rw [same, PermissionSets.read_write]
        exact Or.inr settled
    · intro raw answered
      refine (content raw answered).imp_right fun content => ?_
      obtain ⟨holds, payload, encoded, replied⟩ := content
      exact ⟨_, payload, read, holds, settled, encoded, replied⟩

namespace PhoneLink

/-- The set that the phone at the other end has. -/
def set (link : PhoneLink) : PermissionSet := link.sets.read link.service.verifierId link.service.credentialId

theorem receive_after (timeout : Nat) (link : PhoneLink) : (SecureSession.receive timeout link).2 = link := by
  change (match link.answered with
    | some raw => if link.returns then (.ok raw, link) else (.error ⟨.timedOut, "the session timed out"⟩, link)
    | none => (.error ⟨.unexpectedEof, "failed to fill whole buffer"⟩, link) : Except IoError Bytes × PhoneLink).2 = link
  split
  · split <;> rfl
  · rfl

theorem answered_of_receive {timeout : Nat} {link after : PhoneLink} {raw : Bytes}
    (run : SecureSession.receive timeout link = (.ok raw, after)) : after.answered = some raw := by
  replace run : (match link.answered with
    | some raw => if link.returns then (.ok raw, link) else (.error ⟨.timedOut, "the session timed out"⟩, link)
    | none => (.error ⟨.unexpectedEof, "failed to fill whole buffer"⟩, link) : Except IoError Bytes × PhoneLink) =
      (.ok raw, after) := run
  rcases answered : link.answered with _ | found
  · rw [answered] at run
    cases run
  · rw [answered] at run
    by_cases returns : link.returns = true
    · simp only [if_pos returns] at run
      cases run
      exact answered
    · simp only [if_neg returns] at run
      cases run

theorem deliver_cases (frame : Bytes) (link : PhoneLink) :
    (link.deliver frame = link) ∨
      ∃ result sets, link.service.handle link.weather link.clock (.ofBytes frame) link.binding.val link.sets =
          (result, sets) ∧ link.deliver frame = { link with answered := result.toOption, sets } := by
  unfold deliver
  by_cases arrives : link.arrives = true
  · rw [if_pos arrives]
    exact Or.inr ⟨_, _, rfl, rfl⟩
  · rw [if_neg arrives]
    exact Or.inl rfl

end PhoneLink

/-- How far an attempt gets, however it ends. -/
theorem sync_after (verifierName : String) (draws : Draws) (revision : UInt64) (permissions : List Permission)
    (link : PhoneLink) :
    let offered : SyncRequest := { verifierName, revision, permissions }
    let request := applicationRequest link.binding draws operationSync offered.encode
    (PhonePermissions.sync verifierName draws revision permissions link).2 = link ∨
      offered.validate = .ok () ∧ request.validate = .ok () ∧
        (PhonePermissions.sync verifierName draws revision permissions link).2 = link.deliver request.encode := by
  intro offered request
  let sent := link.deliver request.encode
  let holds (after : PhoneLink) : Prop := after = link ∨ offered.validate = .ok () ∧ request.validate = .ok () ∧ after = sent
  suffices ends : (PhonePermissions.sync verifierName draws revision permissions).Ends (fun _ => holds) (fun _ => holds)
      link from ends.state
  refine .liftM_bind (fun _ _ => Or.inl rfl) fun _ checked => ?_
  have valid : offered.validate = .ok () := except_mapError_eq_ok.mp checked
  have exchanged : holds (PhonePermissions.exchange draws operationSync offered.encode link).2 := by
    rw [PhonePermissions.exchange_eq]
    rcases exchangeWith_after permissionsRefusals 120_000 draws operationSync offered.encode link with same | ⟨framed, ends⟩
    · exact Or.inl same
    · refine Or.inr ⟨valid, framed, ?_⟩
      rcases ends with same | same
      · exact same
      · exact same.trans (PhoneLink.receive_after _ _)
  refine .bind (fun _ after => holds after) ((Fallible.ends_self _).mono ?_ ?_) ?_
  · exact fun _ _ same => same ▸ exchanged
  · exact fun _ _ same => same ▸ exchanged
  · intro payload after left
    exact .liftM_bind (fun _ _ => left) fun response _ => .require_bind (fun _ => left) fun _ => left

/-- One attempt to settle with a phone, at the desktop's client: the phone has its own set still or the copy that stands,
and it is the latter that a client that got an answer returns. -/
theorem sync_link {link after : PhoneLink} (fresh : link.answered = none) {verifierName : String} {draws : Draws}
    {revision : UInt64} {permissions : List Permission} {answered : Except VaultError SyncResponse}
    (run : PhonePermissions.sync verifierName draws revision permissions link = (answered, after)) :
    let mine := PermissionSet.copy link.set
    let stands := Copy.winner ⟨revision.toNat, permissions⟩ mine
    after.service = link.service ∧
      (PermissionSet.copy after.set = mine ∨ PermissionSet.copy after.set = stands) ∧
      ∀ response, answered = .ok response →
        SyncResponse.copy response = stands ∧ PermissionSet.copy after.set = stands := by
  intro mine stands
  let offered : SyncRequest := { verifierName, revision, permissions }
  let request := applicationRequest link.binding draws operationSync offered.encode
  -- Where there is no answer, nothing can have been returned.
  have silent (nothing : after.answered = none) (response : SyncResponse) : answered ≠ .ok response := by
    intro same
    rw [same] at run
    obtain ⟨_, ⟨payload, exchanged, _⟩, _⟩ := PhonePermissions.sync_eq_ok run
    rw [PhonePermissions.exchange_eq] at exchanged
    obtain ⟨_, _, reply, ⟨sent, raw, _, receiving, _⟩, _, _⟩ := exchangeWith_eq_ok.mp exchanged
    rw [PhoneLink.answered_of_receive receiving] at nothing
    cases nothing
  have left := sync_after verifierName draws revision permissions link
  rw [run] at left
  replace left : after = link ∨ offered.validate = .ok () ∧ request.validate = .ok () ∧
    after = link.deliver request.encode := left
  rcases left with same | ⟨valid, framed, same⟩
  · rw [same]
    exact ⟨rfl, Or.inl rfl, fun response returned => absurd returned (silent (same ▸ fresh) response)⟩
  · rcases link.deliver_cases request.encode with lost | ⟨result, sets, handling, delivered⟩
    · rw [lost] at same
      rw [same]
      exact ⟨rfl, Or.inl rfl, fun response returned => absurd returned (silent (same ▸ fresh) response)⟩
    · obtain ⟨places, content⟩ := handled framed (Protocol.SyncRequest.permissions_le valid) rfl handling
      have set : after.set = sets.read link.service.verifierId link.service.credentialId := by
        rw [same, delivered]
        rfl
      have service : after.service = link.service := by
        rw [same, delivered]
      rw [set]
      refine ⟨service, places, fun response returned => ?_⟩
      rw [returned] at run
      obtain ⟨_, ⟨payload, exchanged, decoded⟩, _⟩ := PhonePermissions.sync_eq_ok run
      rw [PhonePermissions.exchange_eq] at exchanged
      obtain ⟨_, _, reply, ⟨_, raw, _, receiving, read⟩, answers, carried⟩ := exchangeWith_eq_ok.mp exchanged
      have heard := PhoneLink.answered_of_receive receiving
      rw [same, delivered] at heard
      rcases content raw (except_toOption_eq_some.mp heard) with ⟨frame, kind, encoded⟩ |
        ⟨held, sentBack, frame, stored, stood, encoded, framing⟩
      · have mirrors := Mobile.ApplicationFrame.mirrors_of_decoded encoded read
        have other := mirrors.kind
        rw [kind, answers.kind] at other
        cases other
      · have mirrors := Mobile.ApplicationFrame.mirrors_of_decoded framing read
        have whole : sentBack = payload := mirrors.payload.trans carried
        rw [whole] at encoded
        obtain ⟨one, _⟩ := Mobile.PermissionSyncResponse.desktop_of_decoded encoded decoded
        obtain ⟨⟨_, up⟩, _⟩ := Mobile.PermissionSyncResponse.encode_eq_ok.mp encoded
        have copies : SyncResponse.copy response = PermissionSet.copy held := by
          rw [one]
          exact response_copy up
        rw [stored]
        exact ⟨copies.trans stood, stood⟩

end BioAuth.Agent
