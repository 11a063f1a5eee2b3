/-
  OneAiKey.ByteStream — the body streams of the forwarding path
  (`prefixed_body_stream` of `src/upstream_response.rs`, the two adapters of
  `src/success_guard.rs`).

  A stream is what polling it gives.  The streams of the source are the
  upstream's own one, `stream::once`, and towers of `stream::unfold` adapters
  over these; each is a constructor with the adapter's state, and `next` is one
  poll.  The upstream's stream and `once` answer `None` again when they are
  polled after their end, an `unfold` panics.
-/
import OneAiKey.Error

namespace OneAiKey

/-! ## §1. Streams. -/

/-- The errors of a body stream: the upstream's, and the ones that the guard adds. -/
inductive IoError where
  | upstream (message : String)
  | shortBody (seen expected : Nat)
  | incompleteEnvelope
  deriving DecidableEq, Repr

/-- The text of a body error. -/
def IoError.text : IoError → String
  | upstream message => message
  | shortBody seen expected =>
      "upstream body ended before declared content-length: read " ++ toString seen ++ " of "
        ++ toString expected ++ " bytes"
  | incompleteEnvelope => "upstream body ended before structured success envelope completed"

abbrev StreamItem := Except IoError Bytes

inductive Poll where
  | item (item : StreamItem)
  | done
  | panicked

inductive ByteStream where
  /-- The items that the upstream still delivers. -/
  | upstream (items : List StreamItem)
  | once (item : Option StreamItem)
  | prefixed (replayed : Option Bytes) (remaining : ByteStream)
  | contentLength (stream : ByteStream) (seen expected : Nat) (reportedShort : Bool)
  | structuredEof (stream : ByteStream) (pending : Bytes) (isIncomplete : Bytes → Bool)
      (maxBytes : Nat) (capped reportedIncomplete : Bool)
  /-- An `unfold` after its end. -/
  | exhausted

/-- `prefixed_body_stream`. -/
def prefixedBodyStream (replayed : Bytes) (remaining : ByteStream) : ByteStream :=
  .prefixed (if replayed.isEmpty then none else some replayed) remaining

/-- `usize::saturating_add`. -/
def saturatingAdd (a b : Nat) : Nat := min (a + b) (2 ^ 64 - 1)

/-- What a chunk adds to the capped copy of `enforce_structured_eof`. -/
def copyCapped (pending chunk : Bytes) (maxBytes : Nat) (capped : Bool) : Bytes × Bool :=
  if capped then (pending, true)
  else
    let available := maxBytes - pending.length
    if chunk.length ≤ available then (pending ++ chunk, false)
    else (pending ++ chunk.take available, true)

/-- One poll, and the stream after it.  Each adapter polls the stream it is put around, and
some of them add an error of their own at the end. -/
def ByteStream.next : ByteStream → Poll × ByteStream
  | upstream [] => (.done, .upstream [])
  | upstream (item :: items) => (.item item, .upstream items)
  | once none => (.done, .once none)
  | once (some item) => (.item item, .once none)
  | prefixed (some replayed) remaining => (.item (.ok replayed), .prefixed none remaining)
  -- the prefix has been replayed, and the rest of the body follows
  | prefixed none remaining =>
      match remaining.next with
      | (.item item, remaining) => (.item item, .prefixed none remaining)
      | (.done, _) => (.done, .exhausted)
      | (.panicked, _) => (.panicked, .exhausted)
  | contentLength stream seen expected reportedShort =>
      match stream.next with
      | (.item (.ok chunk), stream) =>
          (.item (.ok chunk),
            .contentLength stream (saturatingAdd seen chunk.length) expected reportedShort)
      | (.item (.error err), stream) =>
          (.item (.error err), .contentLength stream seen expected reportedShort)
      | (.done, stream) =>
          -- a body that ends early is an error once, and the end after that
          if !reportedShort && decide (seen < expected) then
            (.item (.error (.shortBody seen expected)), .contentLength stream seen expected true)
          else (.done, .exhausted)
      | (.panicked, _) => (.panicked, .exhausted)
  | structuredEof stream pending isIncomplete maxBytes capped reportedIncomplete =>
      match stream.next with
      | (.item (.ok chunk), stream) =>
          -- the chunk goes through, and as much of it as fits is kept for the check at the end
          let copy := copyCapped pending chunk maxBytes capped
          (.item (.ok chunk),
            .structuredEof stream copy.1 isIncomplete maxBytes copy.2 reportedIncomplete)
      | (.item (.error err), stream) =>
          (.item (.error err),
            .structuredEof stream pending isIncomplete maxBytes capped reportedIncomplete)
      | (.done, stream) =>
          if !reportedIncomplete && !capped && isIncomplete pending then
            (.item (.error .incompleteEnvelope),
              .structuredEof stream pending isIncomplete maxBytes capped true)
          else (.done, .exhausted)
      | (.panicked, _) => (.panicked, .exhausted)
  | exhausted => (.panicked, .exhausted)

/-- Polling the stream until it ends, or panics, gives these items. -/
inductive ByteStream.Drains : ByteStream → List StreamItem → Prop where
  | done {stream stream' : ByteStream} : stream.next = (.done, stream') → Drains stream []
  | panicked {stream stream' : ByteStream} : stream.next = (.panicked, stream') → Drains stream []
  | item {stream stream' : ByteStream} {item : StreamItem} {items : List StreamItem} :
      stream.next = (.item item, stream') → Drains stream' items → Drains stream (item :: items)

/-! ## §2. What a stream relays. -/

/-- The error was added by the guard. -/
def IoError.Added : IoError → Prop
  | upstream _ => False
  | shortBody _ _ | incompleteEnvelope => True

/-- The items that a stream still relays from its source. -/
def ByteStream.relayed : ByteStream → List StreamItem
  | upstream items => items
  | once item => item.toList
  | prefixed replayed remaining => replayed.toList.map .ok ++ remaining.relayed
  | contentLength stream _ _ _ => stream.relayed
  | structuredEof stream _ _ _ _ _ => stream.relayed
  | exhausted => []

/-- How many errors the adapters of a stream may still add. -/
def ByteStream.slots : ByteStream → Nat
  | upstream _ | once _ | exhausted => 0
  | prefixed _ remaining => remaining.slots
  | contentLength stream _ _ reportedShort => stream.slots + if reportedShort then 0 else 1
  | structuredEof stream _ _ _ _ reportedIncomplete =>
      stream.slots + if reportedIncomplete then 0 else 1

/-- What one poll of `stream` does. -/
inductive ByteStream.PollSpec (stream : ByteStream) : Poll × ByteStream → Prop where
  /-- The next relayed item. -/
  | relay {item : StreamItem} {stream' : ByteStream} :
      stream.relayed = item :: stream'.relayed → stream'.slots ≤ stream.slots →
      PollSpec stream (.item item, stream')
  /-- An added error, when nothing is left to relay. -/
  | add {err : IoError} {stream' : ByteStream} :
      err.Added → stream.relayed = [] → stream'.relayed = [] → stream'.slots < stream.slots →
      PollSpec stream (.item (.error err), stream')
  | done {stream' : ByteStream} :
      stream.relayed = [] → stream'.relayed = [] → stream'.slots ≤ stream.slots →
      PollSpec stream (.done, stream')
  | panicked {stream' : ByteStream} : stream.relayed = [] → PollSpec stream (.panicked, stream')

namespace ByteStream

/-- One poll, by induction on the tower of adapters.  An adapter passes on what it polls or
adds an error, and in both cases the rest that it relays is that of the stream below. -/
theorem next_spec (stream : ByteStream) : PollSpec stream stream.next := by
  induction stream with
  | upstream items =>
      cases items with
      | nil => exact .done rfl rfl (Nat.le_refl _)
      | cons item items => exact .relay rfl (Nat.le_refl _)
  | once item =>
      cases item with
      | none => exact .done rfl rfl (Nat.le_refl _)
      | some item => exact .relay rfl (Nat.le_refl _)
  | exhausted => exact .panicked rfl
  -- the replayed chunk first, then whatever the rest does
  | prefixed replayed remaining ih =>
      cases replayed with
      | some replayed => exact .relay rfl (Nat.le_refl _)
      | none =>
          unfold next
          generalize remaining.next = polled at ih
          cases ih with
          | relay hrelayed hslots => exact .relay hrelayed hslots
          | add hadded hrelayed hrelayed' hslots => exact .add hadded hrelayed hrelayed' hslots
          | done hrelayed hrelayed' hslots => exact .done hrelayed rfl (Nat.zero_le _)
          | panicked hrelayed => exact .panicked hrelayed
  | contentLength stream seen expected reportedShort ih =>
      unfold next
      generalize stream.next = polled at ih
      cases ih with
      | @relay item stream' hrelayed hslots =>
          cases item with
          | ok chunk => exact .relay hrelayed (Nat.add_le_add_right hslots _)
          | error err => exact .relay hrelayed (Nat.add_le_add_right hslots _)
      | add hadded hrelayed hrelayed' hslots =>
          exact .add hadded hrelayed hrelayed' (Nat.add_lt_add_right hslots _)
      | @done stream' hrelayed hrelayed' hslots =>
          dsimp only
          -- the end of the body: the adapter adds its error once, and only now
          split
          · next hreport =>
              have hopen : reportedShort = false := by
                simpa using (Bool.and_eq_true_iff.mp hreport).1
              refine .add trivial hrelayed hrelayed' ?_
              show stream'.slots + 0 < stream.slots + if reportedShort then 0 else 1
              rw [hopen]
              show stream'.slots + 0 < stream.slots + 1
              omega
          · exact .done hrelayed rfl (Nat.zero_le _)
      | panicked hrelayed => exact .panicked hrelayed
  | structuredEof stream pending isIncomplete maxBytes capped reportedIncomplete ih =>
      unfold next
      generalize stream.next = polled at ih
      cases ih with
      | @relay item stream' hrelayed hslots =>
          cases item with
          | ok chunk => exact .relay hrelayed (Nat.add_le_add_right hslots _)
          | error err => exact .relay hrelayed (Nat.add_le_add_right hslots _)
      | add hadded hrelayed hrelayed' hslots =>
          exact .add hadded hrelayed hrelayed' (Nat.add_lt_add_right hslots _)
      | @done stream' hrelayed hrelayed' hslots =>
          dsimp only
          split
          · next hreport =>
              have hopen : reportedIncomplete = false := by
                simpa using (Bool.and_eq_true_iff.mp (Bool.and_eq_true_iff.mp hreport).1).1
              refine .add trivial hrelayed hrelayed' ?_
              show stream'.slots + 0 < stream.slots + if reportedIncomplete then 0 else 1
              rw [hopen]
              show stream'.slots + 0 < stream.slots + 1
              omega
          · exact .done hrelayed rfl (Nat.zero_le _)
      | panicked hrelayed => exact .panicked hrelayed

/-- When nothing is left to relay, what still comes is added.  By induction on the errors that
the adapters may still add: each of them does so once. -/
theorem drains_of_nothing_left : ∀ (n : Nat) (stream : ByteStream), stream.slots ≤ n →
    stream.relayed = [] → ∃ added : List IoError,
      stream.Drains (added.map .error) ∧ ∀ err ∈ added, err.Added := by
  intro n
  induction n with
  -- no slot is free, so no error can be added
  | zero =>
      intro stream hslots hnil
      have hspec := stream.next_spec
      generalize hpoll : stream.next = polled at hspec
      cases hspec with
      | relay hrelayed _ =>
          rw [hnil] at hrelayed
          cases hrelayed
      | add _ _ _ hless => omega
      | done _ _ _ => exact ⟨[], .done hpoll, fun err h => by cases h⟩
      | panicked _ => exact ⟨[], .panicked hpoll, fun err h => by cases h⟩
  | succ n ih =>
      intro stream hslots hnil
      have hspec := stream.next_spec
      generalize hpoll : stream.next = polled at hspec
      cases hspec with
      | relay hrelayed _ =>
          rw [hnil] at hrelayed
          cases hrelayed
      | @add err stream' hadded _ hnil' hless =>
          -- an added error takes its slot
          obtain ⟨added, hdrains, hall⟩ := ih stream' (by omega) hnil'
          refine ⟨err :: added, .item hpoll hdrains, ?_⟩
          intro err' hmem
          rcases List.mem_cons.mp hmem with rfl | hmem
          · exact hadded
          · exact hall err' hmem
      | done _ _ _ => exact ⟨[], .done hpoll, fun err h => by cases h⟩
      | panicked _ => exact ⟨[], .panicked hpoll, fun err h => by cases h⟩

/-- Polling a stream to its end gives what it relays, and then only added errors.  By induction
over what there is to relay; `drains_of_nothing_left` is the end of it. -/
theorem drains_relayed (items : List StreamItem) : ∀ stream : ByteStream,
    stream.relayed = items → ∃ added : List IoError,
      stream.Drains (items ++ added.map .error) ∧ ∀ err ∈ added, err.Added := by
  induction items with
  | nil => exact fun stream hnil => drains_of_nothing_left _ stream (Nat.le_refl _) hnil
  | cons item items ih =>
      intro stream hitems
      have hspec := stream.next_spec
      generalize hpoll : stream.next = polled at hspec
      -- an item of the upstream is next, so the stream gives that
      cases hspec with
      | @relay item' stream' hrelayed _ =>
          rw [hitems] at hrelayed
          obtain ⟨rfl, hrest⟩ := List.cons.inj hrelayed
          obtain ⟨added, hdrains, hall⟩ := ih stream' hrest.symm
          exact ⟨added, .item hpoll hdrains, hall⟩
      | add _ hnil _ _ =>
          rw [hitems] at hnil
          cases hnil
      | done hnil _ _ =>
          rw [hitems] at hnil
          cases hnil
      | panicked hnil =>
          rw [hitems] at hnil
          cases hnil

end ByteStream

/-! ## §3. Streams without an adapter that adds errors. -/

/-- Nothing but `prefixed_body_stream` is wrapped around the source. -/
def ByteStream.Plain : ByteStream → Prop
  | upstream _ | once _ => True
  | prefixed _ remaining => remaining.Plain
  | contentLength _ _ _ _ | structuredEof _ _ _ _ _ _ | exhausted => False

/-- Polling the stream until its first error, or until it ends, gives these chunks and that
error. -/
inductive ByteStream.Consumed : ByteStream → List Bytes → Option IoError → Prop where
  | done {stream stream' : ByteStream} : stream.next = (.done, stream') → Consumed stream [] none
  | failed {stream stream' : ByteStream} {err : IoError} :
      stream.next = (.item (.error err), stream') → Consumed stream [] (some err)
  | chunk {stream stream' : ByteStream} {chunk : Bytes} {chunks : List Bytes}
      {err : Option IoError} :
      stream.next = (.item (.ok chunk), stream') → Consumed stream' chunks err →
      Consumed stream (chunk :: chunks) err

namespace ByteStream

/-- A plain stream gives its next item, or it has none and ends.  A plain stream has no adapter
that may add an error. -/
theorem next_of_plain (stream : ByteStream) (hplain : stream.Plain) :
    (∃ item stream', stream.next = (.item item, stream') ∧ stream'.Plain ∧
      stream.relayed = item :: stream'.relayed) ∨
    (∃ stream', stream.next = (.done, stream') ∧ stream.relayed = []) := by
  induction stream with
  | upstream items =>
      cases items with
      | nil => exact .inr ⟨_, rfl, rfl⟩
      | cons item items => exact .inl ⟨item, _, rfl, trivial, rfl⟩
  | once item =>
      cases item with
      | none => exact .inr ⟨_, rfl, rfl⟩
      | some item => exact .inl ⟨item, _, rfl, trivial, rfl⟩
  -- the prefix is given out first
  | prefixed replayed remaining ih =>
      cases replayed with
      | some replayed => exact .inl ⟨.ok replayed, .prefixed none remaining, rfl, hplain, rfl⟩
      | none =>
          rcases ih hplain with ⟨item, remaining', hnext, hplain', hrelayed⟩ | ⟨_, hnext, hrelayed⟩
          · refine .inl ⟨item, .prefixed none remaining', ?_, hplain', hrelayed⟩
            unfold next
            rw [hnext]
          · refine .inr ⟨.exhausted, ?_, hrelayed⟩
            unfold next
            rw [hnext]
  | contentLength | structuredEof | exhausted => exact hplain.elim

/-- A plain stream without errors gives its chunks and ends.  By induction over the chunks. -/
theorem consumed_of_plain (chunks : List Bytes) : ∀ stream : ByteStream, stream.Plain →
    stream.relayed = chunks.map .ok → stream.Consumed chunks none := by
  induction chunks with
  | nil =>
      intro stream hplain hrelayed
      rcases stream.next_of_plain hplain with ⟨item, _, _, _, hitem⟩ | ⟨_, hnext, _⟩
      · rw [hrelayed] at hitem
        cases hitem
      · exact .done hnext
  | cons chunk chunks ih =>
      intro stream hplain hrelayed
      rcases stream.next_of_plain hplain with ⟨item, stream', hnext, hplain', hitem⟩ |
        ⟨_, _, hnone⟩
      · rw [hrelayed] at hitem
        obtain ⟨rfl, hrest⟩ := List.cons.inj hitem
        exact .chunk hnext (ih stream' hplain' hrest.symm)
      · rw [hrelayed] at hnone
        cases hnone

end ByteStream

end OneAiKey
