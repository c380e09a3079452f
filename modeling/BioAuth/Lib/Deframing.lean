import BioAuth.Lib.Fallible
import Mathlib.Algebra.BigOperators.Group.List.Basic
import Mathlib.Algebra.Ring.Nat
import Mathlib.Data.List.Induction

namespace BioAuth.Deframing

/-- How messages follow each other in a stream: before each stands an announcement of a fixed width, which tells its
length or is not admitted. -/
structure Framing (α ε : Type) where
  width : Nat
  positive : 0 < width
  announced : List α → Except ε Nat

variable {α ε : Type}

/-- What can be taken from a stream: the messages, what is left behind them, and whether that begins with an
announcement that is not admitted. -/
structure Parsed (α ε : Type) where
  messages : List (List α)
  rest : List α
  refused : Option ε

def Parsed.after (messages : List (List α)) (parsed : Parsed α ε) : Parsed α ε :=
  { parsed with messages := messages ++ parsed.messages }

/-- Messages behind their announcements. -/
inductive Framed (framing : Framing α ε) : List (List α) → List α → Prop
  | nil : Framed framing [] []
  | cons {announcement message octets : List α} {messages : List (List α)} (width : announcement.length = framing.width)
      (announced : framing.announced announcement = .ok message.length) (rest : Framed framing messages octets) :
      Framed framing (message :: messages) (announcement ++ message ++ octets)

/-- Octets that no message can be taken from: too few for an announcement or for the message it announces, or behind an
announcement that is not admitted. -/
inductive Halts (framing : Framing α ε) : List α → Option ε → Prop
  | short {octets : List α} (short : octets.length < framing.width) : Halts framing octets none
  | cut {announcement octets : List α} {length : Nat} (width : announcement.length = framing.width)
      (announced : framing.announced announcement = .ok length) (short : octets.length < length) :
      Halts framing (announcement ++ octets) none
  | refused {announcement octets : List α} {e : ε} (width : announcement.length = framing.width)
      (announced : framing.announced announcement = .error e) : Halts framing (announcement ++ octets) (some e)

namespace Framing
variable (framing : Framing α ε)

/-- Take messages from a stream for as long as there are any. -/
def parse (stream : List α) : Parsed α ε :=
  if stream.length < framing.width then ⟨[], stream, none⟩
  else
    match framing.announced (stream.take framing.width) with
    | .error e => ⟨[], stream, some e⟩
    | .ok length =>
      if stream.length < framing.width + length then ⟨[], stream, none⟩
      else (parse (stream.drop (framing.width + length))).after [(stream.drop framing.width).take length]
termination_by stream.length
decreasing_by
  have positive := framing.positive
  rw [List.length_drop]
  omega

variable {framing}

theorem parse_of_halts {octets : List α} {refused : Option ε} (halts : Halts framing octets refused) :
    framing.parse octets = ⟨[], octets, refused⟩ := by
  unfold parse
  cases halts with
  | short short => rw [if_pos short]
  | @cut announcement octets length width announced short =>
    have long : ¬(announcement ++ octets).length < framing.width := by
      rw [List.length_append]
      omega
    have missing : (announcement ++ octets).length < framing.width + length := by
      rw [List.length_append]
      omega
    rw [if_neg long, List.take_left' width, announced]
    exact if_pos missing
  | @refused announcement octets e width announced =>
    have long : ¬(announcement ++ octets).length < framing.width := by
      rw [List.length_append]
      omega
    rw [if_neg long, List.take_left' width, announced]

/-- A message with its announcement is taken first. -/
theorem parse_message {announcement message : List α} (width : announcement.length = framing.width)
    (announced : framing.announced announcement = .ok message.length) (behind : List α) :
    framing.parse (announcement ++ message ++ behind) = (framing.parse behind).after [message] := by
  have long : ¬(announcement ++ message ++ behind).length < framing.width := by
    simp only [List.length_append]
    omega
  have whole : ¬(announcement ++ message ++ behind).length < framing.width + message.length := by
    simp only [List.length_append]
    omega
  have taken : (announcement ++ message).length = framing.width + message.length := by
    rw [List.length_append, width]
  conv_lhs => unfold parse
  rw [if_neg long, List.append_assoc, List.take_left' width, announced, ← List.append_assoc]
  simp only [if_neg whole, List.drop_left' taken]
  rw [List.append_assoc, List.drop_left' width, List.take_left]

theorem parse_framed {messages : List (List α)} {octets : List α} (framed : Framed framing messages octets)
    (behind : List α) : framing.parse (octets ++ behind) = (framing.parse behind).after messages := by
  induction framed with
  | nil => rfl
  | cons width announced rest ih =>
    rw [List.append_assoc, parse_message width announced, ih]
    rfl

/-- A stream falls into messages and octets that no message can be taken from. -/
theorem parse_spec (stream : List α) : ∃ octets, Framed framing (framing.parse stream).messages octets ∧
    stream = octets ++ (framing.parse stream).rest ∧
      Halts framing (framing.parse stream).rest (framing.parse stream).refused := by
  fun_induction parse framing stream with
  | case1 stream short => exact ⟨[], .nil, rfl, .short short⟩
  | case2 stream long e announced =>
    have width : (stream.take framing.width).length = framing.width := List.length_take_of_le (by omega)
    refine ⟨[], .nil, rfl, ?_⟩
    have halts : Halts framing (stream.take framing.width ++ stream.drop framing.width) (some e) := .refused width announced
    rwa [List.take_append_drop] at halts
  | case3 stream long length announced short =>
    have width : (stream.take framing.width).length = framing.width := List.length_take_of_le (by omega)
    refine ⟨[], .nil, rfl, ?_⟩
    have missing : (stream.drop framing.width).length < length := by
      rw [List.length_drop]
      omega
    have halts := Halts.cut width announced missing
    rwa [List.take_append_drop] at halts
  | case4 stream long length announced whole ih =>
    obtain ⟨octets, framed, same, halts⟩ := ih
    have width : (stream.take framing.width).length = framing.width := List.length_take_of_le (by omega)
    have size : ((stream.drop framing.width).take length).length = length := by
      rw [List.length_take, List.length_drop]
      omega
    refine ⟨_, .cons width (announced.trans (congrArg _ size.symm)) framed, ?_, halts⟩
    rw [List.append_assoc, List.append_assoc]
    refine (List.take_append_drop framing.width stream).symm.trans (congrArg _ ?_)
    refine (List.take_append_drop length _).symm.trans (congrArg _ ?_)
    rw [List.drop_drop]
    exact same

/-- The messages and what is left of them determine each other. -/
theorem parse_eq {messages : List (List α)} {octets rest : List α} {refused : Option ε}
    (framed : Framed framing messages octets) (halts : Halts framing rest refused) :
    framing.parse (octets ++ rest) = ⟨messages, rest, refused⟩ := by
  rw [parse_framed framed, parse_of_halts halts]
  exact congrArg (Parsed.mk · rest refused) (List.append_nil messages)

end Framing

theorem Framed.length_eq {framing : Framing α ε} {messages : List (List α)} {octets : List α}
    (framed : Framed framing messages octets) :
    octets.length = (messages.map fun message => framing.width + message.length).sum := by
  induction framed with
  | nil => rfl
  | cons width announced rest ih =>
    rw [List.map_cons, List.sum_cons, List.length_append, List.length_append, width, ih]

namespace Framing
variable {framing : Framing α ε}

/-- A stream can be taken apart piece by piece. -/
theorem parse_append (first second : List α) : framing.parse (first ++ second) =
    (framing.parse ((framing.parse first).rest ++ second)).after (framing.parse first).messages := by
  obtain ⟨octets, framed, same, _⟩ := framing.parse_spec first
  conv_lhs => rw [same, List.append_assoc, parse_framed framed]

/-- What is refused stays so, whatever follows. -/
theorem parse_append_of_refused {first : List α} {e : ε} (refused : (framing.parse first).refused = some e)
    (second : List α) : framing.parse (first ++ second) =
      ⟨(framing.parse first).messages, (framing.parse first).rest ++ second, some e⟩ := by
  obtain ⟨octets, framed, same, halts⟩ := framing.parse_spec first
  rw [refused] at halts
  have still : Halts framing ((framing.parse first).rest ++ second) (some e) := by
    generalize (framing.parse first).rest = rest at halts
    cases halts with
    | refused width announced =>
      rw [List.append_assoc]
      exact .refused width announced
  conv_lhs => rw [same, List.append_assoc]
  exact parse_eq framed still

end Framing

/-- A step that takes a chunk behind what is pending hands out the messages that are then whole, and keeps what is left
of them. What it keeps when the chunk is refused is its own affair. -/
structure Feeds (framing : Framing α ε) (step : List α → Fallible (List α) ε (List (List α))) : Prop where
  taken : ∀ chunk pending, (framing.parse (pending ++ chunk)).refused = none →
    step chunk pending = (.ok (framing.parse (pending ++ chunk)).messages, (framing.parse (pending ++ chunk)).rest)
  refused : ∀ chunk pending e, (framing.parse (pending ++ chunk)).refused = some e → (step chunk pending).1 = .error e

/-- What came of a stream of chunks: the messages handed out, the refusal that ended it, and what is pending. -/
structure Fed (α ε : Type) where
  handed : List (List α)
  refused : Option ε
  pending : List α

/-- Chunks are taken up to the first that is refused. -/
def feed (step : List α → Fallible (List α) ε (List (List α))) : List (List α) → List α → Fed α ε
  | [], pending => ⟨[], none, pending⟩
  | chunk :: chunks, pending =>
    match step chunk pending with
    | (.error e, pending) => ⟨[], some e, pending⟩
    | (.ok messages, pending) =>
      let later := feed step chunks pending
      { later with handed := messages ++ later.handed }

/-- Every message whose stream is refused arrives before the chunk that completes the announcement to refuse. -/
def Apart (framing : Framing α ε) (chunks : List (List α)) : Prop :=
  ∀ before chunk after, chunks = before ++ chunk :: after →
    ∀ messages framed announcement rest e, Framed framing messages framed → announcement.length = framing.width →
      framing.announced announcement = .error e → chunks.flatten = framed ++ announcement ++ rest →
      before.flatten.length < (framed ++ announcement).length →
      (framed ++ announcement).length ≤ (before.flatten ++ chunk).length → framed.length ≤ before.flatten.length

section Feed
variable {framing : Framing α ε} {step : List α → Fallible (List α) ε (List (List α))}

/-- A stream that is not refused is handed out as if it had come in one chunk. -/
theorem Feeds.accepts (feeds : Feeds framing step) {chunks : List (List α)} {pending : List α}
    (halts : Halts framing pending none) (passed : (framing.parse (pending ++ chunks.flatten)).refused = none) :
    feed step chunks pending = ⟨(framing.parse (pending ++ chunks.flatten)).messages, none,
      (framing.parse (pending ++ chunks.flatten)).rest⟩ := by
  induction chunks generalizing pending with
  | nil =>
    rw [List.flatten_nil, List.append_nil, Framing.parse_of_halts halts]
    rfl
  | cons chunk chunks ih =>
    rw [List.flatten_cons, ← List.append_assoc] at passed ⊢
    have first : (framing.parse (pending ++ chunk)).refused = none := by
      rcases refused : (framing.parse (pending ++ chunk)).refused with _ | e
      · rfl
      · rw [Framing.parse_append_of_refused refused] at passed
        cases passed
    obtain ⟨_, _, _, between⟩ := framing.parse_spec (pending ++ chunk)
    rw [first] at between
    rw [Framing.parse_append] at passed ⊢
    rw [feed, feeds.taken chunk pending first]
    dsimp only
    rw [ih between passed]
    rfl

theorem feed_append {first second : List (List α)} {pending between : List α} {handed : List (List α)}
    (accepted : feed step first pending = ⟨handed, none, between⟩) :
    feed step (first ++ second) pending =
      { feed step second between with handed := handed ++ (feed step second between).handed } := by
  induction first generalizing pending handed with
  | nil =>
    obtain ⟨rfl, _, rfl⟩ := Fed.mk.inj accepted
    rfl
  | cons chunk chunks ih =>
    rw [feed] at accepted
    rw [List.cons_append, feed]
    rcases run : step chunk pending with ⟨e | messages, after⟩
    · rw [run] at accepted
      cases accepted
    · rw [run] at accepted
      dsimp only at accepted ⊢
      rcases later : feed step chunks after with ⟨rest, refused, left⟩
      rw [later] at accepted
      obtain ⟨rfl, rfl, rfl⟩ := Fed.mk.inj accepted
      rw [ih later, List.append_assoc]

/-- A stream that is refused is handed out up to the chunk that brings the refusal. -/
theorem Feeds.refuses (feeds : Feeds framing step) {before after : List (List α)} {chunk : List α} {e : ε}
    (passed : (framing.parse before.flatten).refused = none)
    (refused : (framing.parse (before.flatten ++ chunk)).refused = some e) :
    feed step (before ++ chunk :: after) [] = ⟨(framing.parse before.flatten).messages, some e,
      (step chunk (framing.parse before.flatten).rest).2⟩ := by
  have nothing : Halts framing [] none := .short framing.positive
  have first := feeds.accepts nothing passed
  rw [List.nil_append] at first
  have last : (framing.parse ((framing.parse before.flatten).rest ++ chunk)).refused = some e := by
    rw [Framing.parse_append] at refused
    exact refused
  rw [feed_append first, feed, Fallible.run_of_fst (feeds.refused chunk _ e last)]
  exact congrArg (Fed.mk · _ _) (List.append_nil _)

end Feed

theorem Halts.refused_length {framing : Framing α ε} {octets : List α} {e : ε} (halts : Halts framing octets (some e)) :
    framing.width ≤ octets.length := by
  cases halts with
  | refused width announced =>
    rw [List.length_append]
    omega

theorem Halts.length_lt {framing : Framing α ε} {octets : List α} {most : Nat}
    (bounded : ∀ announcement length, framing.announced announcement = .ok length → length ≤ most)
    (halts : Halts framing octets none) : octets.length < framing.width + most := by
  cases halts with
  | short short => exact Nat.lt_add_right most short
  | cut width announced short =>
    have limit := bounded _ _ announced
    rw [List.length_append]
    omega

section Refused
variable {framing : Framing α ε} {messages : List (List α)} {framed announcement : List α} {e : ε}

/-- The refusal comes with the last of the announcement. -/
theorem refused_eq_none_iff (parts : Framed framing messages framed) (width : announcement.length = framing.width)
    (announced : framing.announced announcement = .error e) {octets rest : List α}
    (start : octets <+: framed ++ announcement ++ rest) :
    (framing.parse octets).refused = none ↔ octets.length < (framed ++ announcement).length := by
  have whole : Halts framing announcement (some e) := by
    rw [← List.append_nil announcement]
    exact .refused width announced
  have inside : framed ++ announcement <+: framed ++ announcement ++ rest := List.prefix_append _ _
  constructor
  · intro passed
    by_contra long
    obtain ⟨more, rfl⟩ := List.prefix_of_prefix_length_le inside start (Nat.not_lt.mp long)
    have refused : (framing.parse (framed ++ announcement)).refused = some e := by
      rw [Framing.parse_eq parts whole]
    rw [Framing.parse_append_of_refused refused] at passed
    cases passed
  · intro short
    obtain ⟨more, same⟩ := List.prefix_of_prefix_length_le start inside short.le
    rcases refused : (framing.parse octets).refused with _ | early
    · rfl
    · obtain ⟨_, _, _, halts⟩ := framing.parse_spec octets
      rw [refused] at halts
      have rest := congrArg Parsed.rest (Framing.parse_append_of_refused refused more)
      rw [same, Framing.parse_eq parts whole] at rest
      have size := congrArg List.length rest
      have total := congrArg List.length same
      have enough := halts.refused_length
      simp only [List.length_append] at size total short
      omega

/-- Before the refusal, the messages are all there when their octets are. -/
theorem messages_eq_iff (parts : Framed framing messages framed) (width : announcement.length = framing.width)
    {octets rest : List α} (start : octets <+: framed ++ announcement ++ rest)
    (short : octets.length < (framed ++ announcement).length) :
    (framing.parse octets).messages = messages ↔ framed.length ≤ octets.length := by
  constructor
  · intro all
    obtain ⟨taken, own, same, _⟩ := framing.parse_spec octets
    rw [all] at own
    rw [parts.length_eq, ← own.length_eq, same, List.length_append]
    exact Nat.le_add_right _ _
  · intro long
    rw [List.append_assoc] at start
    obtain ⟨part, rfl⟩ := List.prefix_of_prefix_length_le (List.prefix_append framed _) start long
    rw [List.length_append, List.length_append] at short
    have few : Halts framing part none := .short (by omega)
    rw [Framing.parse_eq parts few]

end Refused

/-- The chunk that brings the refusal. -/
theorem exists_refused {framing : Framing α ε} {chunks : List (List α)} {e : ε}
    (refused : (framing.parse chunks.flatten).refused = some e) :
    ∃ before chunk after, chunks = before ++ chunk :: after ∧ (framing.parse before.flatten).refused = none ∧
      (framing.parse (before.flatten ++ chunk)).refused = some e := by
  induction chunks using List.reverseRecOn with
  | nil =>
    have nothing : Halts framing [] none := .short framing.positive
    rw [List.flatten_nil, Framing.parse_of_halts nothing] at refused
    cases refused
  | append_singleton chunks chunk ih =>
    rcases earlier : (framing.parse chunks.flatten).refused with _ | early
    · refine ⟨chunks, chunk, [], rfl, earlier, ?_⟩
      rw [← refused, List.flatten_append, List.flatten_singleton]
    · rw [List.flatten_append, Framing.parse_append_of_refused earlier] at refused
      obtain rfl : early = e := Option.some.inj refused
      obtain ⟨before, first, after, rfl, passed, stopped⟩ := ih earlier
      exact ⟨before, first, after ++ [chunk], by rw [List.append_assoc, List.cons_append], passed, stopped⟩

section Exact
variable {framing : Framing α ε} {step : List α → Fallible (List α) ε (List (List α))}

/-- A stream is refused however it is split. -/
theorem Feeds.refused_eq (feeds : Feeds framing step) (chunks : List (List α)) :
    (feed step chunks []).refused = (framing.parse chunks.flatten).refused := by
  rcases refused : (framing.parse chunks.flatten).refused with _ | e
  · have nothing : Halts framing [] none := .short framing.positive
    rw [feeds.accepts nothing refused]
  · obtain ⟨before, chunk, after, rfl, passed, stopped⟩ := exists_refused refused
    rw [feeds.refuses passed stopped]

/-- The messages handed out are those of the unsplit stream exactly when none of them comes with the refusal. -/
theorem Feeds.handed_iff (feeds : Feeds framing step) (chunks : List (List α)) :
    (feed step chunks []).handed = (framing.parse chunks.flatten).messages ↔ Apart framing chunks := by
  have start (before : List (List α)) (chunk : List α) (after : List (List α)) :
      before.flatten ++ chunk ++ after.flatten = (before ++ chunk :: after).flatten := by
    rw [List.flatten_append, List.flatten_cons, List.append_assoc]
  constructor
  · intro all before chunk after same messages framed announcement rest e parts width announced stream short long
    subst same
    have whole : Halts framing (announcement ++ rest) (some e) := .refused width announced
    have unsplit : (framing.parse (before ++ chunk :: after).flatten).messages = messages := by
      rw [stream, List.append_assoc, Framing.parse_eq parts whole]
    have more : before.flatten ++ chunk <+: framed ++ announcement ++ rest := ⟨after.flatten, (start _ _ _).trans stream⟩
    have less : before.flatten <+: framed ++ announcement ++ rest := (List.prefix_append _ _).trans more
    have passed := (refused_eq_none_iff parts width announced less).mpr short
    rcases stopped : (framing.parse (before.flatten ++ chunk)).refused with _ | stop
    · exact absurd ((refused_eq_none_iff parts width announced more).mp stopped) (Nat.not_lt.mpr long)
    · rw [feeds.refuses passed stopped, unsplit] at all
      exact (messages_eq_iff parts width less short).mp all
  · intro apart
    rcases refused : (framing.parse chunks.flatten).refused with _ | e
    · have nothing : Halts framing [] none := .short framing.positive
      rw [feeds.accepts nothing refused]
      rfl
    · obtain ⟨before, chunk, after, rfl, passed, stopped⟩ := exists_refused refused
      obtain ⟨framed, parts, stream, halts⟩ := framing.parse_spec (before ++ chunk :: after).flatten
      rw [refused] at halts
      rw [feeds.refuses passed stopped]
      generalize (framing.parse (before ++ chunk :: after).flatten).rest = left at halts stream
      cases halts with
      | @refused announcement rest _ width announced =>
        rw [← List.append_assoc] at stream
        have more : before.flatten ++ chunk <+: framed ++ announcement ++ rest :=
          ⟨after.flatten, (start _ _ _).trans stream⟩
        have less : before.flatten <+: framed ++ announcement ++ rest := (List.prefix_append _ _).trans more
        have short := (refused_eq_none_iff parts width announced less).mp passed
        have long : (framed ++ announcement).length ≤ (before.flatten ++ chunk).length := by
          by_contra early
          have none := (refused_eq_none_iff parts width announced more).mpr (Nat.not_le.mp early)
          rw [stopped] at none
          cases none
        exact (messages_eq_iff parts width less short).mpr
          (apart before chunk after rfl _ _ _ _ _ parts width announced stream short long)

/-- While nothing is refused, what is pending is what no message could be taken from. -/
theorem Feeds.pending (feeds : Feeds framing step) {chunks : List (List α)} {most : Nat}
    (bounded : ∀ announcement length, framing.announced announcement = .ok length → length ≤ most)
    (passed : (feed step chunks []).refused = none) :
    ∃ octets, Framed framing (feed step chunks []).handed octets ∧
      chunks.flatten = octets ++ (feed step chunks []).pending ∧
      (feed step chunks []).pending.length < framing.width + most := by
  rw [feeds.refused_eq] at passed
  obtain ⟨octets, framed, same, halts⟩ := framing.parse_spec chunks.flatten
  rw [passed] at halts
  have nothing : Halts framing [] none := .short framing.positive
  rw [feeds.accepts nothing passed]
  exact ⟨octets, framed, same, halts.length_lt bounded⟩

/-- What a framer makes of a stream in these chunks: it refuses it if it is to be refused, holds what follows the
messages it has handed out until then, and hands out all that the unsplit stream has when they stand apart. -/
structure Reads (framing : Framing α ε) (most : Nat) (step : List α → Fallible (List α) ε (List (List α)))
    (chunks : List (List α)) : Prop where
  refused : (feed step chunks []).refused = (framing.parse chunks.flatten).refused
  pending : (feed step chunks []).refused = none → ∃ octets, Framed framing (feed step chunks []).handed octets ∧
    chunks.flatten = octets ++ (feed step chunks []).pending ∧
      (feed step chunks []).pending.length < framing.width + most
  handed : (feed step chunks []).handed = (framing.parse chunks.flatten).messages ↔ Apart framing chunks

theorem Feeds.reads (feeds : Feeds framing step) {most : Nat}
    (bounded : ∀ announcement length, framing.announced announcement = .ok length → length ≤ most)
    (chunks : List (List α)) : Reads framing most step chunks :=
  ⟨feeds.refused_eq chunks, feeds.pending bounded, feeds.handed_iff chunks⟩

/-- Messages before a refusal are handed out when they come before it, and lost when they come with it. -/
theorem Feeds.handed_split (feeds : Feeds framing step) {messages : List (List α)} {framed announcement : List α} {e : ε}
    (parts : Framed framing messages framed) (width : announcement.length = framing.width)
    (announced : framing.announced announcement = .error e) :
    (feed step [framed, announcement] []).handed = messages ∧ (feed step [framed ++ announcement] []).handed = [] := by
  have nothing : Halts framing [] none := .short framing.positive
  have illegal : Halts framing announcement (some e) := by
    rw [← List.append_nil announcement]
    exact .refused width announced
  have whole : (framing.parse framed) = ⟨messages, [], none⟩ := by
    conv_lhs => rw [← List.append_nil framed, Framing.parse_eq parts nothing]
  have last : (framing.parse (framed ++ announcement)).refused = some e := by rw [Framing.parse_eq parts illegal]
  constructor
  · have one : (framing.parse [framed].flatten).refused = none := by rw [List.flatten_singleton, whole]
    have both : (framing.parse ([framed].flatten ++ announcement)).refused = some e := by
      rw [List.flatten_singleton, last]
    have fed := @Feeds.refuses _ _ _ _ feeds [framed] [] announcement e one both
    rw [List.flatten_singleton, whole] at fed
    exact congrArg Fed.handed fed
  · have none : (framing.parse ([] : List (List α)).flatten).refused = none := by
      rw [List.flatten_nil, Framing.parse_of_halts nothing]
    have fed := @Feeds.refuses _ _ _ _ feeds [] [] (framed ++ announcement) e none last
    rw [List.flatten_nil, Framing.parse_of_halts nothing] at fed
    exact congrArg Fed.handed fed

end Exact

end BioAuth.Deframing
