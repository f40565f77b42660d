import TelemetryRelay.Datagram
import TelemetryRelay.Proofs.Utf8

/-!
Datagrams are read line by line. A datagram of two parts joined by a line feed has the lines of the
first part and then those of the second, and a line that is no envelope leaves its neighbours alone.
-/

namespace TelemetryRelay

open Text

def Notice.isUndecodable : Notice → Bool
  | .undecodable _ _ => true
  | _ => false

namespace Datagram

def fullLines (text : List Char) : List (List Char) :=
  ((text.splitOn '\n').map trim).filter fun line => !line.isEmpty

def failures (bytes : List UInt8) : List Notice :=
  (notices bytes).filter Notice.isUndecodable

def accepted (bytes : List UInt8) : Nat :=
  match lines bytes with
  | .error _ => 0
  | .ok lines => (envelopes lines).length

theorem fullLines_append_lineFeed (first rest : List Char) :
    fullLines (first ++ '\n' :: rest) = fullLines first ++ fullLines rest := by
  simp only [fullLines, List.splitOn_append_cons_self, List.map_append, List.filter_append]

theorem lines_of_decode {bytes : List UInt8} {text : List Char}
    (decoded : Utf8.decode bytes = .ok text) : lines bytes = .ok (fullLines text) := by
  simp only [lines, decoded, fullLines]

theorem lines_append_lineFeed {first rest : List UInt8} {before after : List Char}
    (decodedFirst : Utf8.decode first = .ok before) (decodedRest : Utf8.decode rest = .ok after) :
    lines (first ++ 0x0A :: rest) = .ok (fullLines before ++ fullLines after) := by
  have decoded : Utf8.decode (first ++ 0x0A :: rest) = .ok (before ++ '\n' :: after) :=
    (Utf8.decode_append_lineFeed first rest _).mpr ⟨before, after, rfl, decodedFirst, decodedRest⟩
  rw [lines_of_decode decoded, fullLines_append_lineFeed]

theorem lines_of_invalid {bytes : List UInt8} (invalid : ¬Utf8.Valid bytes) :
    ∃ fault, lines bytes = .error fault := by
  cases decoded : Utf8.decode bytes with
  | error fault => exact ⟨fault, by simp only [lines, decoded]⟩
  | ok text => exact absurd ((Utf8.valid_iff bytes).mpr ⟨text, decoded⟩) invalid

theorem isUndecodable_of_undecodable? {line : List Char} {notice : Notice}
    (failed : undecodable? line = some notice) : notice.isUndecodable = true := by
  unfold undecodable? at failed
  split at failed
  · cases failed
  · cases failed
    rfl

theorem isUndecodable_of_envelopeNotices {envelope : Envelope} {notice : Notice}
    (reported : notice ∈ envelopeNotices envelope) : notice.isUndecodable = false := by
  rcases List.mem_append.mp reported with signalled | noticed
  · split at signalled
    · rcases List.mem_pair.mp signalled with rfl | rfl <;> rfl
    · cases signalled
  · unfold Envelope.notices at noticed
    split at noticed
    · cases List.mem_singleton.mp noticed
      rfl
    · split at noticed
      · cases noticed
      · cases List.mem_singleton.mp noticed
        rfl

theorem failures_of_lines {bytes : List UInt8} {texts : List (List Char)}
    (read : lines bytes = .ok texts) : failures bytes = texts.filterMap undecodable? := by
  have kept : (texts.filterMap undecodable?).filter Notice.isUndecodable =
      texts.filterMap undecodable? :=
    List.filter_eq_self.mpr fun notice member => by
      obtain ⟨line, -, failed⟩ := List.mem_filterMap.mp member
      exact isUndecodable_of_undecodable? failed
  have dropped : ((envelopes texts).flatMap envelopeNotices).filter Notice.isUndecodable = [] :=
    List.filter_eq_nil_iff.mpr fun notice member => by
      obtain ⟨envelope, -, reported⟩ := List.mem_flatMap.mp member
      simp [isUndecodable_of_envelopeNotices reported]
  simp only [failures, notices, read, List.filter_append, kept]
  split
  · exact List.append_nil _
  · rw [List.filter_cons_of_neg (by simp [Notice.isUndecodable]), dropped, List.append_nil]

end Datagram

/-- A datagram in the middle of its lines. -/
structure Reading where
  collector : Collector
  accepted : Nat
  failures : List Notice

namespace Reading

def next (clock : Nat → Int64) (reading : Reading) (line : List Char) : Reading :=
  match Envelope.decode line with
  | .error fault =>
    { reading with
      failures := reading.failures ++ [.undecodable (String.ofList line) fault] }
  | .ok envelope =>
    let alerted :=
      if envelope.reportsSlowConsumer then reading.collector.raiseAlert (clock reading.accepted)
      else reading.collector
    { reading with
      collector := alerted.add envelope
      accepted := reading.accepted + 1 }

def ofLines (clock : Nat → Int64) (collector : Collector) (lines : List (List Char)) : Reading :=
  lines.foldl (next clock) ⟨collector, 0, []⟩

theorem foldl_next (clock : Nat → Int64) (lines : List (List Char)) (reading : Reading) :
    lines.foldl (next clock) reading =
      ⟨((Datagram.envelopes lines).zipIdx reading.accepted).foldl
          (fun collector (envelope, place) => collector.accept (clock place) envelope)
          reading.collector,
        reading.accepted + (Datagram.envelopes lines).length,
        reading.failures ++ lines.filterMap Datagram.undecodable?⟩ := by
  -- For any reading, as each line leaves the next one a later place on the clock.
  induction lines generalizing reading with
  | nil => simp [Datagram.envelopes]
  | cons line rest ih =>
      rw [List.foldl_cons, ih]
      cases decoded : Envelope.decode line with
      | error fault =>
          simp [next, Datagram.envelopes, Datagram.undecodable?, decoded, Except.toOption]
      | ok envelope =>
          simp [next, Datagram.envelopes, Datagram.undecodable?, decoded, Except.toOption,
            Collector.accept]
          omega

theorem ofLines_eq {bytes : List UInt8} {lines : List (List Char)}
    (read : Datagram.lines bytes = .ok lines) (clock : Nat → Int64) (collector : Collector) :
    ofLines clock collector lines =
      ⟨collector.receive clock bytes, Datagram.accepted bytes, Datagram.failures bytes⟩ := by
  rw [ofLines, foldl_next, Datagram.failures_of_lines read]
  simp only [Collector.receive, Datagram.accepted, read, Nat.zero_add, List.nil_append]

theorem ofLines_append (clock : Nat → Int64) (collector : Collector)
    (before after : List (List Char)) :
    let first := ofLines clock collector before
    let second := ofLines (fun place => clock (first.accepted + place)) first.collector after
    ofLines clock collector (before ++ after) =
      ⟨second.collector, first.accepted + second.accepted, first.failures ++ second.failures⟩ := by
  have later : (Datagram.envelopes after).zipIdx (Datagram.envelopes before).length =
      (Datagram.envelopes after).zipIdx.map fun (envelope, place) =>
        (envelope, (Datagram.envelopes before).length + place) := List.zipIdx_eq_map_add
  simp only [ofLines, List.foldl_append, foldl_next, Nat.zero_add, List.nil_append, later,
    List.foldl_map]

/-- What a reading accounts for, against the collector it began with and the lines behind it. -/
structure Accounts (start : Collector) (lines : Nat) (reading : Reading) : Prop where
  received : reading.collector.received = start.received + .ofNat reading.accepted
  lines : reading.accepted + reading.failures.length = lines

theorem Accounts.next {start : Collector} {lines : Nat} {reading : Reading}
    (accounts : Accounts start lines reading) (clock : Nat → Int64) (line : List Char) :
    Accounts start (lines + 1) (reading.next clock line) := by
  have counted := accounts.lines
  unfold Reading.next
  split
  · exact ⟨accounts.received, by simp only [List.length_append, List.length_singleton]; omega⟩
  · rename_i envelope _
    have kept : (if envelope.reportsSlowConsumer then
        reading.collector.raiseAlert (clock reading.accepted)
        else reading.collector).received = reading.collector.received := by
      split <;> rfl
    refine ⟨?_, by simp only; omega⟩
    simp only [Collector.received_add, kept, accounts.received, UInt64.ofNat_add, UInt64.add_assoc]
    rfl

theorem Accounts.foldl {start : Collector} {reading : Reading} {behind : Nat}
    (accounts : Accounts start behind reading) (clock : Nat → Int64) (lines : List (List Char)) :
    Accounts start (behind + lines.length) (lines.foldl (Reading.next clock) reading) := by
  induction lines generalizing reading behind with
  | nil => exact accounts
  | cons line rest ih =>
      have step := ih (accounts.next clock line)
      rwa [Nat.add_assoc, Nat.add_comm 1, ← List.length_cons] at step

theorem accounts_ofLines (clock : Nat → Int64) (collector : Collector)
    (lines : List (List Char)) :
    Accounts collector lines.length (ofLines clock collector lines) := by
  have start : Accounts collector 0 ⟨collector, 0, []⟩ := ⟨(UInt64.add_zero _).symm, rfl⟩
  simpa only [Nat.zero_add, ofLines] using start.foldl clock lines

end Reading

namespace Collector

open Datagram

/-- Two datagrams joined by a line feed do what they do one after the other, with the same failures
in the same order, each envelope finding the clock where the one before it left it. Of a datagram
that is UTF-8 the lines that are not blank act one by one, and each is either received or reported;
any other datagram, such as one of two parts of which either is not UTF-8, only reports itself. -/
theorem receive_by_lines (collector : Collector) (clock : Nat → Int64)
    (first rest : List UInt8) :
    (Utf8.Valid (first ++ 0x0A :: rest) ↔ Utf8.Valid first ∧ Utf8.Valid rest) ∧
      (Utf8.Valid first → Utf8.Valid rest →
        collector.receive clock (first ++ 0x0A :: rest) =
            (collector.receive clock first).receive
              (fun place => clock (accepted first + place)) rest ∧
          failures (first ++ 0x0A :: rest) = failures first ++ failures rest) ∧
      (∀ text : String,
        let lines := ((text.toList.splitOn '\n').map trim).filter fun line => !line.isEmpty
        let reading := lines.foldl (Reading.next clock) ⟨collector, 0, []⟩
        collector.receive clock (Utf8.encode text) = reading.collector ∧
          failures (Utf8.encode text) = reading.failures ∧
          reading.collector.received = collector.received + .ofNat reading.accepted ∧
          reading.accepted + reading.failures.length = lines.length) ∧
      ∀ bytes, ¬Utf8.Valid bytes →
        collector.receive clock bytes = collector ∧
          ∃ fault, notices bytes = [.malformedDatagram fault] := by
  refine ⟨Utf8.valid_append_lineFeed first rest, ?joined, ?lines, ?malformed⟩
  case joined =>
    intro validFirst validRest
    obtain ⟨before, decodedFirst⟩ := (Utf8.valid_iff first).mp validFirst
    obtain ⟨after, decodedRest⟩ := (Utf8.valid_iff rest).mp validRest
    have joined := Reading.ofLines_append clock collector (fullLines before) (fullLines after)
    simp only [Reading.ofLines_eq (lines_append_lineFeed decodedFirst decodedRest),
      Reading.ofLines_eq (lines_of_decode decodedFirst),
      Reading.ofLines_eq (lines_of_decode decodedRest), Reading.mk.injEq] at joined
    exact ⟨joined.1, joined.2.2⟩
  case lines =>
    intro text lines reading
    have read := lines_of_decode (Utf8.decode_encode text)
    have same : reading = _ := Reading.ofLines_eq read clock collector
    have accounts := Reading.accounts_ofLines clock collector lines
    exact ⟨by rw [same], by rw [same], accounts.received, accounts.lines⟩
  case malformed =>
    intro bytes invalid
    obtain ⟨fault, malformed⟩ := lines_of_invalid invalid
    exact ⟨collector.receive_of_fault malformed clock, fault, by simp only [notices, malformed]⟩

theorem receive_by_lines_signal :
    let collector := fresh "cf" "10.0.0.1"
    let clock := fun place => Int64.ofNat place
    let garbage := Utf8.encode "not json"
    let signal := Utf8.encode <|
      "\x7b\"origin\":\"doppler\",\"eventType\":\"CounterEvent\",\"counterEvent\":" ++
        "\x7b\"name\":\"TruncatingBuffer.DroppedMessages\",\"total\":3\x7d\x7d"
    Utf8.Valid garbage ∧ Utf8.Valid signal ∧ ¬Utf8.Valid (signal ++ 0x0A :: [0xFF]) ∧
      collector.receive clock (garbage ++ 0x0A :: signal) =
          (collector.receive clock garbage).receive (fun place => clock (0 + place)) signal ∧
      failures (garbage ++ 0x0A :: signal) =
          [.undecodable "not json" (.json (.broken .word))] ∧
      collector.receive clock (signal ++ 0x0A :: [0xFF]) = collector := by
  intro collector clock garbage signal
  have broken : ¬Utf8.Valid (signal ++ 0x0A :: [0xFF]) := by
    rw [Utf8.valid_append_lineFeed, Utf8.valid_iff [0xFF]]
    rintro ⟨-, chars, decoded⟩
    cases decoded
  have failed : failures garbage = [.undecodable "not json" (.json (.broken .word))] := by
    decide +kernel
  have clean : failures signal = [] := by decide +kernel
  have empty : accepted garbage = 0 := by decide +kernel
  obtain ⟨_, joined, _, malformed⟩ := receive_by_lines collector clock garbage signal
  obtain ⟨same, reported⟩ := joined ⟨_, rfl⟩ ⟨_, rfl⟩
  rw [empty] at same
  rw [failed, clean] at reported
  exact ⟨⟨_, rfl⟩, ⟨_, rfl⟩, broken, same, reported, (malformed _ broken).1⟩

end Collector

end TelemetryRelay
