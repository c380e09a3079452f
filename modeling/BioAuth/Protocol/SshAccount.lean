import BioAuth.Protocol.Ssh

namespace BioAuth.Protocol.Ssh
open BioAuth

/-- `SSH_MSG_USERAUTH_REQUEST`. -/
def userauthRequest : UInt8 := 50

def publickey : String := "publickey"

/-- `.ok()?`: what was read and what is left, or nothing. -/
def took {ε α : Type} : Except ε α × Bytes → Option (α × Bytes)
  | (.ok a, rest) => some (a, rest)
  | (.error _, _) => none

/-- The account an authentication request is for, and its service. -/
def accountInRequest (data : Bytes) : Option (String × String) := do
  let (_, rest) ← took (readString data)
  let (kind, rest) ← took (readU8 rest)
  if kind ≠ userauthRequest then none else
    let (user, rest) ← took (readText rest)
    let (service, rest) ← took (readText rest)
    let (method, _) ← took (readText rest)
    if method ≠ publickey then none else some (user, service)

/-- What comes before the signature flag of a request for the method `publickey`. -/
structure Head where
  sessionId : Bytes
  user : Bytes
  service : Bytes

namespace Head

def spell (head : Head) : Bytes :=
  string head.sessionId ++ userauthRequest :: (string head.user ++ (string head.service ++ text publickey))

/-- Every length can be written. -/
structure Fits (head : Head) : Prop where
  sessionId : head.sessionId.length < 256 ^ 4
  user : head.user.length < 256 ^ 4
  service : head.service.length < 256 ^ 4

theorem spell_append (sessionId user service rest : Bytes) :
    (Head.mk sessionId user service).spell ++ rest =
      string sessionId ++ ([userauthRequest] ++ (string user ++ (string service ++ (text publickey ++ rest)))) := by
  simp only [spell, List.append_assoc, List.cons_append, List.nil_append]

theorem spell_injective {head other : Head} {s t : Bytes} (fits : head.Fits) (fitsOther : other.Fits)
    (same : head.spell ++ s = other.spell ++ t) : head = other ∧ s = t := by
  simp only [spell, List.append_assoc, List.cons_append] at same
  obtain ⟨sessions, later⟩ := string_injective fits.sessionId fitsOther.sessionId same
  obtain ⟨users, later⟩ := string_injective fits.user fitsOther.user (List.cons.inj later).2
  obtain ⟨services, later⟩ := string_injective fits.service fitsOther.service later
  have rest := List.append_cancel_left later
  obtain ⟨sessionId, user, service⟩ := head
  cases sessions
  cases users
  cases services
  exact ⟨rfl, rest⟩

end Head

theorem took_eq_some {ε α : Type} {result : Except ε α × Bytes} {a : α} {rest : Bytes} :
    took result = some (a, rest) ↔ result = (.ok a, rest) := by
  rcases result with ⟨_ | value, left⟩
  · exact iff_of_false nofun nofun
  · simp only [took, Option.some.injEq, Prod.mk.injEq, Except.ok.injEq]

/-- The account is the two texts behind the session id and the message number. -/
theorem accountInRequest_eq_some {data : Bytes} {user service : String} :
    accountInRequest data = some (user, service) ↔ ∃ sessionId rest,
      data = (Head.mk sessionId (utf8 user) (utf8 service)).spell ++ rest ∧ sessionId.length ≤ maxFieldBytes ∧
        (utf8 user).length ≤ maxFieldBytes ∧ (utf8 service).length ≤ maxFieldBytes := by
  unfold accountInRequest
  simp only [Option.bind_eq_bind, Option.bind_eq_some_iff, Prod.exists, took_eq_some, readString_spells _ _ _,
    readU8_spells _ _ _]
  constructor
  · rintro ⟨sessionId, _, ⟨sessionFits, rfl⟩, kind, _, ⟨_, rfl⟩, found⟩
    split at found
    · cases found
    · rename_i number
      rw [not_not] at number
      simp only [Option.bind_eq_some_iff, Prod.exists, took_eq_some, readText_spells _ _ _] at found
      obtain ⟨_, _, ⟨userFits, rfl⟩, _, _, ⟨serviceFits, rfl⟩, method, rest, ⟨_, rfl⟩, found⟩ := found
      split at found
      · cases found
      · rename_i named
        rw [not_not] at named
        cases found
        rw [number, named]
        exact ⟨sessionId, rest, (Head.spell_append ..).symm, sessionFits, userFits, serviceFits⟩
  · rintro ⟨sessionId, rest, spelled, sessionFits, userFits, serviceFits⟩
    rw [Head.spell_append] at spelled
    refine ⟨sessionId, _, ⟨sessionFits, spelled⟩, userauthRequest, _, ⟨trivial, rfl⟩, ?_⟩
    rw [if_neg (not_not.mpr rfl)]
    simp only [Option.bind_eq_some_iff, Prod.exists, took_eq_some, readText_spells _ _ _]
    refine ⟨user, _, ⟨userFits, rfl⟩, service, _, ⟨serviceFits, rfl⟩, publickey, rest, ⟨by decide, rfl⟩, ?_⟩
    rw [if_neg (not_not.mpr rfl)]

/-- A user authentication request for the method `publickey`, as the bytes that are signed spell it. -/
structure UserauthRequest where
  sessionId : Bytes
  user : String
  service : String
  algorithm : Bytes
  keyBlob : Bytes

namespace UserauthRequest

def head (request : UserauthRequest) : Head := ⟨request.sessionId, utf8 request.user, utf8 request.service⟩

/-- A true flag says that a signature follows. -/
def encode (request : UserauthRequest) : Bytes :=
  request.head.spell ++ 1 :: (string request.algorithm ++ string request.keyBlob)

structure Fits (request : UserauthRequest) : Prop where
  head : request.head.Fits
  algorithm : request.algorithm.length < 256 ^ 4
  keyBlob : request.keyBlob.length < 256 ^ 4

end UserauthRequest

/-- Whenever an account is named, the data is one whole request and the account is that of its user. -/
def ShowsSigned (account : Bytes → Option (String × String)) (data : Bytes) : Prop :=
  ∀ user service, account data = some (user, service) →
    ∃ request : UserauthRequest, request.Fits ∧ data = request.encode ∧ request.user = user

/-- What follows the method is the true flag, one algorithm and one key, and nothing else. -/
def Whole (rest : Bytes) : Prop :=
  ∃ algorithm keyBlob : Bytes, algorithm.length < 256 ^ 4 ∧ keyBlob.length < 256 ^ 4 ∧
    rest = 1 :: (string algorithm ++ string keyBlob)

/-- A request that starts with this head is whole exactly when what follows the head is. -/
theorem whole_of_encode {request : UserauthRequest} {head : Head} {rest : Bytes} (fits : request.Fits)
    (small : head.Fits) (same : head.spell ++ rest = request.encode) : request.head = head ∧ Whole rest := by
  obtain ⟨heads, later⟩ := Head.spell_injective small fits.head same
  exact ⟨heads.symm, request.algorithm, request.keyBlob, fits.algorithm, fits.keyBlob, later⟩

theorem accountInRequest_shows_iff (data : Bytes) :
    ShowsSigned accountInRequest data ↔ ∀ sessionId user service rest,
      data = (Head.mk sessionId (utf8 user) (utf8 service)).spell ++ rest → sessionId.length ≤ maxFieldBytes →
      (utf8 user).length ≤ maxFieldBytes → (utf8 service).length ≤ maxFieldBytes → Whole rest := by
  have small {size : Nat} (within : size ≤ maxFieldBytes) : size < 256 ^ 4 := within.trans_lt (by decide)
  constructor
  · intro shows sessionId user service rest spelled sessionFits userFits serviceFits
    have named := accountInRequest_eq_some.mpr ⟨sessionId, rest, spelled, sessionFits, userFits, serviceFits⟩
    obtain ⟨request, fits, whole, _⟩ := shows user service named
    exact (whole_of_encode fits ⟨small sessionFits, small userFits, small serviceFits⟩ (spelled.symm.trans whole)).2
  · intro whole user service named
    obtain ⟨sessionId, rest, spelled, sessionFits, userFits, serviceFits⟩ := accountInRequest_eq_some.mp named
    obtain ⟨algorithm, keyBlob, algorithmFits, keyFits, rfl⟩ :=
      whole sessionId user service rest spelled sessionFits userFits serviceFits
    exact ⟨⟨sessionId, user, service, algorithm, keyBlob⟩,
      ⟨⟨small sessionFits, small userFits, small serviceFits⟩, algorithmFits, keyFits⟩, spelled, rfl⟩

end BioAuth.Protocol.Ssh
