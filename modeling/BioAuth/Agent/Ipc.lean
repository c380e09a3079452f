import BioAuth.Lib.Text
import BioAuth.Protocol.Common
import BioAuth.Session.Framing

namespace BioAuth.Agent
open BioAuth BioAuth.Protocol BioAuth.Session

/-- `MAX_CALL_BYTES`. -/
def maxCallBytes : Nat := 64 * 1024

/-- A client-to-agent call, with the method and the parameters that `dispatch` reads. -/
structure IpcCall (κ : Type) where
  id : UInt64
  token : String
  method : String
  params : κ

structure ApiError where
  code : String
  message : String

/-- An agent-to-client reply. -/
structure IpcReply (κ : Type) where
  id : UInt64
  ok : Bool
  result : Option κ
  error : Option ApiError

namespace IpcReply
variable {κ : Type}

def err (id : UInt64) (code message : String) : IpcReply κ := ⟨id, false, none, some ⟨code, message⟩⟩

end IpcReply

/-- Compares two tokens without an early exit on the first differing byte. -/
def tokensMatch (left right : String) : Bool :=
  if (utf8 left).length ≠ (utf8 right).length then false
  else ((utf8 left).zip (utf8 right)).foldl (fun acc pair => acc ||| (pair.1 ^^^ pair.2)) 0 = 0

/-- What a connection brings behind the octets read so far: another, its end, or an error, such as a read that reaches
its deadline. `BufRead` itself tries an interrupted read again. -/
inductive Received
  | octet (value : UInt8)
  | closed
  | failed (e : IoError)

/-- What a peer sends, by the place in its stream. It need not end. -/
abbrev Peer := Nat → Received

/-- `BufRead::read_until` a newline through `take`, which pretends the stream ends after so many octets. The state is
the place in the stream. -/
def readUntil (peer : Peer) : Nat → Fallible Nat IoError Bytes
  | 0 => pure []
  | limit + 1 => fun place =>
    match peer place with
    | .closed => (.ok [], place)
    | .failed e => (.error e, place)
    | .octet value =>
      if value = 10 then (.ok [value], place + 1)
      else
        match readUntil peer limit (place + 1) with
        | (.ok rest, stopped) => (.ok (value :: rest), stopped)
        | (.error e, stopped) => (.error e, stopped)

/-- `BufRead::read_line`, with how many octets it has read. -/
def readLine (peer : Peer) : Fallible Nat IoError (Nat × String) := do
  let octets ← readUntil peer (maxCallBytes + 1)
  let line ← okOr (IoError.mk .invalidData "stream did not contain valid UTF-8") (fromUtf8 octets)
  return (octets.length, line)

/-- What a connection stands on: the agent and the writing half of the socket, and what is done with them. -/
structure IpcHost (σ κ : Type) where
  token : String
  /-- `serde_json::from_str`, with the text of its error. -/
  parse : String → Except String (IpcCall κ)
  dispatch : IpcCall κ → σ → IpcReply κ × σ
  writeLine : IpcReply κ → Fallible σ IoError Unit
  /-- `set_read_timeout(None)`. -/
  untime : Fallible σ IoError Unit

structure IpcConnection (σ κ : Type) where
  /-- How much of what the peer sends has been read. -/
  place : Nat
  trusted : Bool
  agent : σ
  /-- The calls that have been dispatched. -/
  dispatched : List (IpcCall κ)

namespace IpcConnection
variable {σ κ : Type} (host : IpcHost σ κ) (peer : Peer)

def opened (agent : σ) : IpcConnection σ κ := ⟨0, false, agent, []⟩

/-- A step of the agent's. -/
def onAgent {α : Type} (step : Fallible σ IoError α) : Fallible (IpcConnection σ κ) IoError α := fun connection =>
  let (result, agent) := step connection.agent
  (result, { connection with agent })

/-- A read of the peer's. -/
def onPeer {α : Type} (step : Fallible Nat IoError α) : Fallible (IpcConnection σ κ) IoError α := fun connection =>
  let (result, place) := step connection.place
  (result, { connection with place })

/-- The deadline on reads is lifted the moment the peer proves it holds the token. -/
def trust : Fallible (IpcConnection σ κ) IoError Unit := do
  if ¬(← get).trusted then
    onAgent host.untime
    modify fun connection => { connection with trusted := true }

/-- `dispatch`, which is noted down, and its reply. -/
def answer (call : IpcCall κ) : Fallible (IpcConnection σ κ) IoError Unit := do
  modify fun connection => { connection with dispatched := connection.dispatched ++ [call] }
  let reply ← onAgent fun agent =>
    let (reply, agent) := host.dispatch call agent
    (.ok reply, agent)
  onAgent (host.writeLine reply)

/-- One time round the loop of `serve_connection`, and whether it goes round again. -/
def turn : Fallible (IpcConnection σ κ) IoError Bool := do
  let (read, line) ← onPeer (readLine peer)
  if read = 0 then return false
  if maxCallBytes < read then
    onAgent (host.writeLine (.err 0 "bad-request" "call exceeds the line limit"))
    return false
  if blank line then return true
  match host.parse line with
  | .error error =>
    onAgent (host.writeLine (.err 0 "bad-request" error))
    return false
  | .ok call =>
    if ¬tokensMatch call.token host.token then
      onAgent (host.writeLine (.err call.id "unauthorized" "invalid agent token"))
      return false
    trust host
    answer host call
    return true

/-- `serve_connection` for so many times round its loop: what it has returned by then, if it has. -/
def serve : Nat → IpcConnection σ κ → Option (Except IoError Unit) × IpcConnection σ κ
  | 0, connection => (none, connection)
  | turns + 1, connection =>
    match turn host peer connection with
    | (.error e, after) => (some (.error e), after)
    | (.ok false, after) => (some (.ok ()), after)
    | (.ok true, after) => serve turns after

end IpcConnection

theorem zip_eq_iff {left right : Bytes} (level : left.length = right.length) :
    (∀ pair ∈ left.zip right, pair.1 = pair.2) ↔ left = right := by
  induction left generalizing right with
  | nil =>
    rw [List.length_eq_zero_iff.mp level.symm]
    simp
  | cons value left ih =>
    cases right with
    | nil => cases level
    | cons other right =>
      rw [List.zip_cons_cons, List.forall_mem_cons, ih (Nat.succ.inj level), List.cons.injEq]

/-- No difference gets lost on the way to the last byte. -/
theorem tokensMatch_iff {left right : String} : tokensMatch left right = true ↔ left = right := by
  have folded (pairs : List (UInt8 × UInt8)) (acc : UInt8) :
      pairs.foldl (fun acc pair => acc ||| (pair.1 ^^^ pair.2)) acc = 0 ↔ acc = 0 ∧ ∀ pair ∈ pairs, pair.1 = pair.2 := by
    induction pairs generalizing acc with
    | nil => simp
    | cons pair pairs ih =>
      rw [List.foldl_cons, ih, UInt8.or_eq_zero_iff, UInt8.xor_eq_zero_iff, List.forall_mem_cons, and_assoc]
  unfold tokensMatch
  split
  · rename_i apart
    exact iff_of_false Bool.false_ne_true fun same => apart (congrArg (fun text => (utf8 text).length) same)
  · rename_i level
    rw [decide_eq_true_eq, folded, zip_eq_iff (not_not.mp level)]
    exact (and_iff_right rfl).trans ⟨fun same => utf8_injective same, congrArg utf8⟩

section Lines
variable (peer : Peer)

/-- Where the lines start that the stream falls into. -/
def lineStart : Nat → Nat
  | 0 => 0
  | i + 1 => (readLine peer (lineStart i)).2

/-- The line is there whole, within the limit, and holds nothing. -/
def BlankLine (i : Nat) : Prop :=
  ∃ read line, (readLine peer (lineStart peer i)).1 = .ok (read, line) ∧ read ≠ 0 ∧ read ≤ maxCallBytes ∧ blank line = true

theorem readUntil_le (limit place : Nat) : (readUntil peer limit place).2 ≤ place + limit := by
  induction limit generalizing place with
  | zero => exact le_rfl
  | succ limit ih =>
    simp only [readUntil]
    rcases peer place with value | _ | e
    · have near := ih (place + 1)
      dsimp only
      split
      · omega
      · generalize readUntil peer limit (place + 1) = rest at near
        rcases rest with ⟨_ | _, stopped⟩ <;> dsimp only at near ⊢ <;> omega
    · exact Nat.le_add_right _ _
    · exact Nat.le_add_right _ _

theorem readLine_le (place : Nat) : (readLine peer place).2 ≤ place + maxCallBytes + 1 := by
  have near := readUntil_le peer (maxCallBytes + 1) place
  unfold readLine
  rw [Fallible.bind_run]
  generalize readUntil peer (maxCallBytes + 1) place = octets at near
  rcases octets with ⟨_ | octets, stopped⟩
  · exact near
  · dsimp only
    rw [Fallible.bind_run, Fallible.liftM_run]
    cases okOr (IoError.mk .invalidData "stream did not contain valid UTF-8") (fromUtf8 octets) <;> exact near

theorem lineStart_le (i : Nat) : lineStart peer i ≤ i * (maxCallBytes + 1) := by
  induction i with
  | zero => exact Nat.zero_le _
  | succ i ih =>
    have near := readLine_le peer (lineStart peer i)
    rw [lineStart, Nat.succ_mul]
    omega

end Lines

section Serve
variable {σ κ : Type} {host : IpcHost σ κ} {peer : Peer} {connection after : IpcConnection σ κ}

open IpcConnection

theorem onAgent_run {α : Type} (step : Fallible σ IoError α) : onAgent step connection =
    ((step connection.agent).1, { connection with agent := (step connection.agent).2 }) := rfl

/-- A refusal is written and ends the connection, whether it can be written or not. -/
theorem refuse_run (connection : IpcConnection σ κ) (step : Fallible σ IoError Unit) : ∃ result after,
    (onAgent step >>= fun _ => pure false) connection = (result, after) ∧ result ≠ .ok true ∧
      after.place = connection.place ∧ after.dispatched = connection.dispatched := by
  rw [Fallible.bind_run, onAgent_run]
  rcases step connection.agent with ⟨e | u, agent⟩
  · exact ⟨_, _, rfl, nofun, rfl, rfl⟩
  · exact ⟨_, _, rfl, nofun, rfl, rfl⟩

theorem trust_run (host : IpcHost σ κ) (connection : IpcConnection σ κ) :
    (trust host connection).2.place = connection.place ∧ (trust host connection).2.dispatched = connection.dispatched := by
  simp only [trust, Fallible.bind_run, Fallible.get_run]
  split
  · rw [Fallible.bind_run, onAgent_run]
    rcases host.untime connection.agent with ⟨_ | _, agent⟩ <;> exact ⟨rfl, rfl⟩
  · exact ⟨rfl, rfl⟩

theorem answer_run (host : IpcHost σ κ) (call : IpcCall κ) (connection : IpcConnection σ κ) :
    (answer host call connection).2.place = connection.place ∧
      (answer host call connection).2.dispatched = connection.dispatched ++ [call] := ⟨rfl, rfl⟩

/-- A turn passes over a blank line, or ends the connection, or dispatches a call that presents the token. -/
inductive Turned (host : IpcHost σ κ) (peer : Peer) (connection : IpcConnection σ κ) :
    Except IoError Bool → IpcConnection σ κ → Prop
  | passed {read : Nat} {line : String} (there : (readLine peer connection.place).1 = .ok (read, line)) (some : read ≠ 0)
      (short : read ≤ maxCallBytes) (blank : blank line = true) :
      Turned host peer connection (.ok true) { connection with place := (readLine peer connection.place).2 }
  | ended {result : Except IoError Bool} {after : IpcConnection σ κ} (final : result ≠ .ok true)
      (place : after.place = (readLine peer connection.place).2) (dispatched : after.dispatched = connection.dispatched) :
      Turned host peer connection result after
  | dispatched {read : Nat} {line : String} {call : IpcCall κ} {result : Except IoError Bool} {after : IpcConnection σ κ}
      (there : (readLine peer connection.place).1 = .ok (read, line)) (parsed : host.parse line = .ok call)
      (token : call.token = host.token) (place : after.place = (readLine peer connection.place).2)
      (dispatched : after.dispatched = connection.dispatched ++ [call]) : Turned host peer connection result after

theorem turned (host : IpcHost σ κ) (peer : Peer) (connection : IpcConnection σ κ) :
    Turned host peer connection (turn host peer connection).1 (turn host peer connection).2 := by
  rcases reading : readLine peer connection.place with ⟨e | ⟨read, line⟩, place⟩
  · simp only [turn, Fallible.bind_run, onPeer, reading]
    exact .ended nofun (by rw [reading]) rfl
  · have there : (readLine peer connection.place).1 = .ok (read, line) := by rw [reading]
    have stopped : place = (readLine peer connection.place).2 := by rw [reading]
    simp only [turn, Fallible.bind_run, onPeer, reading]
    by_cases none : read = 0
    · rw [if_pos none]
      exact .ended nofun stopped rfl
    rw [if_neg none]
    by_cases long : maxCallBytes < read
    · rw [if_pos long]
      obtain ⟨result, after, run, final, same, kept⟩ := refuse_run { connection with place }
        (host.writeLine (.err 0 "bad-request" "call exceeds the line limit"))
      rw [run]
      exact .ended final (same.trans stopped) kept
    rw [if_neg long]
    by_cases empty : blank line = true
    · rw [if_pos empty, stopped]
      exact .passed there none (Nat.not_lt.mp long) empty
    rw [if_neg empty]
    rcases parsed : host.parse line with error | call
    · obtain ⟨result, after, run, final, same, kept⟩ := refuse_run { connection with place }
        (host.writeLine (.err 0 "bad-request" error))
      dsimp only
      rw [run]
      exact .ended final (same.trans stopped) kept
    dsimp only
    by_cases token : tokensMatch call.token host.token = true
    · rw [if_neg (not_not_intro token)]
      obtain ⟨same, kept⟩ := trust_run host { connection with place }
      rw [Fallible.bind_run]
      generalize trust host { connection with place } = trusting at same kept
      rcases trusting with ⟨e | u, after⟩
      · exact .ended nofun (same.trans stopped) kept
      · dsimp only at same kept ⊢
        rw [Fallible.bind_run]
        obtain ⟨still, noted⟩ := answer_run host call after
        generalize answer host call after = answering at still noted
        rcases answering with ⟨e | u, last⟩
        · exact .dispatched there parsed (tokensMatch_iff.mp token) (still.trans (same.trans stopped))
            (noted.trans (kept ▸ rfl))
        · exact .dispatched there parsed (tokensMatch_iff.mp token) (still.trans (same.trans stopped))
            (noted.trans (kept ▸ rfl))
    · rw [if_pos token]
      obtain ⟨result, after, run, final, same, kept⟩ := refuse_run { connection with place }
        (host.writeLine (.err call.id "unauthorized" "invalid agent token"))
      rw [run]
      exact .ended final (same.trans stopped) kept

theorem Turned.place {result : Except IoError Bool} (turned : Turned host peer connection result after) :
    after.place = (readLine peer connection.place).2 := by
  cases turned with
  | passed => rfl
  | ended _ place _ => exact place
  | dispatched _ _ _ place _ => exact place

/-- What a turn adds to the calls that have been dispatched. -/
theorem Turned.known {result : Except IoError Bool} (turned : Turned host peer connection result after) {call : IpcCall κ}
    (member : call ∈ after.dispatched) : call ∈ connection.dispatched ∨ ∃ read line,
      (readLine peer connection.place).1 = .ok (read, line) ∧ host.parse line = .ok call ∧ call.token = host.token := by
  cases turned with
  | passed => exact Or.inl member
  | ended _ _ dispatched => exact Or.inl (dispatched ▸ member)
  | dispatched there parsed token _ dispatched =>
    rw [dispatched] at member
    rcases List.mem_append.mp member with earlier | last
    · exact Or.inl earlier
    · obtain rfl := List.mem_singleton.mp last
      exact Or.inr ⟨_, _, there, parsed, token⟩

/-- Whatever is dispatched was asked for on a line that presents the token. -/
theorem serve_dispatched (turns : Nat) {k : Nat} (here : connection.place = lineStart peer k) {call : IpcCall κ}
    (member : call ∈ (serve host peer turns connection).2.dispatched) : call ∈ connection.dispatched ∨ ∃ i read line,
      (readLine peer (lineStart peer i)).1 = .ok (read, line) ∧ host.parse line = .ok call ∧ call.token = host.token := by
  induction turns generalizing connection k with
  | zero => exact Or.inl member
  | succ turns ih =>
    have turned := turned host peer connection
    rw [serve] at member
    generalize turn host peer connection = out at turned member
    have here' : call ∈ out.2.dispatched → call ∈ connection.dispatched ∨ ∃ i read line,
        (readLine peer (lineStart peer i)).1 = .ok (read, line) ∧ host.parse line = .ok call ∧ call.token = host.token := by
      intro known
      rcases turned.known known with earlier | ⟨read, line, there, presented⟩
      · exact Or.inl earlier
      · exact Or.inr ⟨k, read, line, here ▸ there, presented⟩
    rcases out with ⟨e | again, after⟩
    · exact here' member
    · cases again with
      | false => exact here' member
      | true =>
        have next : after.place = lineStart peer (k + 1) := turned.place.trans (congrArg (fun n => (readLine peer n).2) here)
        rcases ih next member with known | later
        · exact here' known
        · exact Or.inr later

/-- Blank lines are passed over, however many there are. -/
theorem serve_blank (host : IpcHost σ κ) (turns : Nat) {k : Nat} (here : connection.place = lineStart peer k)
    (blank : ∀ i < turns, BlankLine peer (k + i)) :
    serve host peer turns connection = (none, { connection with place := lineStart peer (k + turns) }) := by
  induction turns generalizing connection k with
  | zero =>
    rw [Nat.add_zero, ← here]
    rfl
  | succ turns ih =>
    obtain ⟨read, line, there, some, short, empty⟩ := blank 0 (Nat.succ_pos turns)
    rw [Nat.add_zero, ← here] at there
    have passed : turn host peer connection = (.ok true, { connection with place := (readLine peer connection.place).2 }) := by
      rcases reading : readLine peer connection.place with ⟨result, place⟩
      rw [reading] at there
      subst there
      simp only [turn, Fallible.bind_run, onPeer, reading]
      rw [if_neg some, if_neg (Nat.not_lt.mpr short), if_pos empty]
      rfl
    have next : (readLine peer connection.place).2 = lineStart peer (k + 1) := by rw [here, lineStart]
    rw [serve, passed]
    dsimp only
    rw [ih next fun i below => ?_]
    · rw [show k + 1 + turns = k + (turns + 1) by omega]
    · rw [show k + 1 + i = k + (i + 1) by omega]
      exact blank (i + 1) (Nat.succ_lt_succ below)

theorem serve_add {turns : Nat} (more : Nat) (goesOn : serve host peer turns connection = (none, after)) :
    serve host peer (turns + more) connection = serve host peer more after := by
  induction turns generalizing connection with
  | zero =>
    rw [Nat.zero_add, (Prod.mk.inj goesOn).2]
  | succ turns ih =>
    rw [serve] at goesOn
    rw [Nat.add_right_comm, serve]
    generalize turn host peer connection = out at goesOn
    rcases out with ⟨e | again, next⟩
    · cases goesOn
    · cases again with
      | false => cases goesOn
      | true => exact ih goesOn

/-- The first line that is not blank ends the connection of a peer that does not present the token there. -/
theorem turn_stranger {k : Nat} (here : connection.place = lineStart peer k) (content : ¬BlankLine peer k)
    (stranger : ∀ read line, (readLine peer (lineStart peer k)).1 = .ok (read, line) → ∀ call, host.parse line = .ok call →
      call.token ≠ host.token) : (turn host peer connection).1 ≠ .ok true ∧
        (turn host peer connection).2.place = lineStart peer (k + 1) ∧
        (turn host peer connection).2.dispatched = connection.dispatched := by
  have turned := turned host peer connection
  have place := turned.place
  rw [here] at place
  refine ⟨?_, place, ?_⟩
  · intro again
    rw [again] at turned
    generalize (turn host peer connection).2 = after at turned
    cases turned with
    | passed there some short empty => exact content ⟨_, _, here ▸ there, some, short, empty⟩
    | ended final => exact final rfl
    | dispatched there parsed token => exact stranger _ _ (here ▸ there) _ parsed token
  · generalize turn host peer connection = out at turned
    rcases out with ⟨result, after⟩
    cases turned with
    | passed there some short empty => rfl
    | ended _ _ dispatched => exact dispatched
    | dispatched there parsed token => exact absurd token (stranger _ _ (here ▸ there) _ parsed)

/-- A peer that does not present the token is shed with its first line that is not blank. -/
theorem serve_stranger {i : Nat} (blank : ∀ j < i, BlankLine peer j) (content : ¬BlankLine peer i)
    (stranger : ∀ read line, (readLine peer (lineStart peer i)).1 = .ok (read, line) → ∀ call, host.parse line = .ok call →
      call.token ≠ host.token) (start : connection.place = lineStart peer 0) {turns : Nat} (enough : i < turns) :
    ∃ result after, serve host peer turns connection = (some result, after) ∧ after.place = lineStart peer (i + 1) ∧
      after.dispatched = connection.dispatched := by
  obtain ⟨more, rfl⟩ := Nat.exists_eq_add_of_lt enough
  have front := serve_blank host i start fun j below => (Nat.zero_add j).symm ▸ blank j below
  rw [Nat.zero_add] at front
  have there : ({ connection with place := lineStart peer i } : IpcConnection σ κ).place = lineStart peer i := rfl
  obtain ⟨final, place, kept⟩ := turn_stranger there content stranger
  rw [Nat.add_assoc, serve_add _ front, serve]
  generalize turn host peer { connection with place := lineStart peer i } = out at final place kept
  rcases out with ⟨e | again, after⟩
  · exact ⟨_, _, rfl, place, kept⟩
  · cases again with
    | false => exact ⟨_, _, rfl, place, kept⟩
    | true => exact absurd rfl final

/-- Nothing is dispatched but what a line asks for that presents the token. A peer of whom no line does is shed exactly
when one of its lines is not blank, with the first such line, and nothing is dispatched for it. -/
theorem stranger_shed_iff (host : IpcHost σ κ) (peer : Peer) (agent : σ) :
    (∀ turns, ∀ call ∈ (serve host peer turns (opened agent)).2.dispatched, ∃ i read line,
      (readLine peer (lineStart peer i)).1 = .ok (read, line) ∧ host.parse line = .ok call ∧ call.token = host.token) ∧
    ((∀ i read line, (readLine peer (lineStart peer i)).1 = .ok (read, line) → ∀ call, host.parse line = .ok call →
        call.token ≠ host.token) →
      ((∃ turns, (serve host peer turns (opened agent)).1 ≠ none) ↔ ∃ i, ¬BlankLine peer i) ∧
      ∀ i, (∀ j < i, BlankLine peer j) → ¬BlankLine peer i → ∀ turns, i < turns → ∃ result after,
        serve host peer turns (opened agent) = (some result, after) ∧ after.place ≤ (i + 1) * (maxCallBytes + 1) ∧
          after.dispatched = []) := by
  have start : (opened agent : IpcConnection σ κ).place = lineStart peer 0 := rfl
  refine ⟨fun turns call member => ?_, fun stranger => ?_⟩
  · rcases serve_dispatched turns start member with never | there
    · cases never
    · exact there
  have shed (i : Nat) (blank : ∀ j < i, BlankLine peer j) (content : ¬BlankLine peer i) (turns : Nat) (enough : i < turns) :
      ∃ result after, serve host peer turns (opened agent) = (some result, after) ∧
        after.place ≤ (i + 1) * (maxCallBytes + 1) ∧ after.dispatched = [] := by
    obtain ⟨result, after, served, place, kept⟩ := serve_stranger blank content (stranger i) start enough
    exact ⟨result, after, served, place.trans_le (lineStart_le peer (i + 1)), kept⟩
  refine ⟨⟨fun ⟨turns, returned⟩ => ?_, fun ⟨i, content⟩ => ?_⟩, shed⟩
  · by_contra all
    rw [not_exists] at all
    have front := serve_blank host turns start fun j _ => not_not.mp (all _)
    rw [front] at returned
    exact returned rfl
  · classical
    have exists' : ∃ i, ¬BlankLine peer i := ⟨i, content⟩
    have first := Nat.find_spec exists'
    have least : ∀ j < Nat.find exists', BlankLine peer j := fun j below => not_not.mp (Nat.find_min exists' below)
    obtain ⟨result, after, served, _⟩ := shed _ least first _ (Nat.lt_succ_self _)
    exact ⟨_, by rw [served]; exact nofun⟩

end Serve

section Plain
open IpcConnection

/-- A host that takes no line for a call. -/
def plainHost : IpcHost Unit Unit where
  token := "00"
  parse _ := .error "expected value at line 1 column 1"
  dispatch call agent := (⟨call.id, true, none, none⟩, agent)
  writeLine _ := pure ()
  untime := pure ()

/-- An empty line and a letter, and then the peer hangs up. -/
def knock : Peer
  | 0 => .octet 10
  | 1 => .octet 120
  | _ => .closed

theorem readLine_newline {peer : Peer} {place : Nat} (there : peer place = .octet 10) :
    readLine peer place = (.ok (1, "\n"), place + 1) := by
  have read : readUntil peer (maxCallBytes + 1) place = (.ok [10], place + 1) := by
    simp only [readUntil, there, if_true]
  rw [readLine, Fallible.bind_run, read]
  rfl

theorem stranger_shed_iff_knock : ∃ turns, (serve plainHost knock turns (opened ())).1 ≠ none := by
  have content : ¬BlankLine knock 1 := by
    rintro ⟨read, line, there, _, _, empty⟩
    have start : lineStart knock 1 = 1 := congrArg Prod.snd (@readLine_newline knock 0 rfl)
    have letter : (readLine knock 1).1 = .ok (1, "x") := rfl
    rw [start, letter] at there
    cases there
    revert empty
    decide
  exact ((stranger_shed_iff plainHost knock ()).2 fun _ _ _ _ _ parsed => nomatch parsed).1.mpr ⟨1, content⟩

/-- A peer that sends empty lines, one after the other. -/
def endless : Peer := fun _ => .octet 10

/-- It is never shed. -/
theorem endless_never_shed : ¬∃ turns, (serve plainHost endless turns (opened ())).1 ≠ none := by
  rintro ⟨turns, shed⟩
  have blank (i : Nat) : BlankLine endless i := by
    refine ⟨1, "\n", ?_, by decide, by decide, by decide⟩
    rw [readLine_newline rfl]
  have start : (opened () : IpcConnection Unit Unit).place = lineStart endless 0 := rfl
  exact shed (by rw [serve_blank plainHost turns start fun i _ => blank _])

end Plain

end BioAuth.Agent
