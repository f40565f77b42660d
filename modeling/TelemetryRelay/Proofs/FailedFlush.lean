import TelemetryRelay.Proofs.History

/-!
A flush that fails leaves no trace: the collector is as if its batch had never been detached.
-/

namespace TelemetryRelay

namespace Collector

theorem endFlush_of_error (collector : Collector) {flush : Flush} {answer : Answer}
    {failure : DeliveryFailure} (failed : flush.result answer = .error failure) :
    collector.endFlush flush answer = collector.reattach flush.batch := by
  simp only [endFlush, failed]

theorem endFlush_of_ok (collector : Collector) {flush : Flush} {answer : Answer} {count : Nat}
    (delivered : flush.result answer = .ok count) :
    collector.endFlush flush answer = collector.countSent (.ofNat count) := by
  simp only [endFlush, delivered]

theorem reattach_beginFlush (collector : Collector) (now : Int64) :
    (collector.beginFlush now).2.reattach (collector.beginFlush now).1.batch =
      collector.refresh now := by
  simp only [beginFlush, detach, reattach, Batch.prepend_empty_right]

theorem endFlush_gather_of_error (collector : Collector) (now : Int64) (during : List Arrival)
    {answer : Answer} {failure : DeliveryFailure}
    (failed : (collector.beginFlush now).1.result answer = .error failure) :
    ((collector.beginFlush now).2.gather during).endFlush (collector.beginFlush now).1 answer =
      (collector.refresh now).gather during := by
  rw [endFlush_of_error _ failed, reattach_gather, reattach_beginFlush]

end Collector

namespace Relay

/-- Whatever arrives while a write is under way, if the write fails the collector ends as it would
have without the write: brought up to date at the time of the flush, and then gathering. -/
theorem failed_flush_leaves_no_trace (collector : Collector) (now : Int64)
    (during : List Arrival) (answer : Answer) (failure : DeliveryFailure)
    (failed : (collector.beginFlush now).1.result answer = .error failure) :
    Relay.run ⟨collector, none⟩ (round now during answer) =
      ⟨(collector.refresh now).gather during, none⟩ := by
  rw [run_round, collector.endFlush_gather_of_error now during failed]

theorem failed_flush_leaves_no_trace_alerts :
    let collector := (Collector.fresh "cf" "10.0.0.1").raiseAlert 3
    let during : List Arrival :=
      [.alert 6, .envelope ⟨none, -1, none, none, none, none, [⟨"az", "z1"⟩],
        .counterEvent ⟨"bytes", 1, 9223372036854775808⟩⟩]
    let answer : Answer := .response ⟨503, by decide⟩ none
    (collector.beginFlush 5).1.result answer = .error (.unreadable ⟨503, by decide⟩) ∧
      Relay.run ⟨collector, none⟩ (round 5 during answer) =
        ⟨(collector.refresh 5).gather during, none⟩ :=
  ⟨rfl, failed_flush_leaves_no_trace _ 5 _ _ _ rfl⟩

end Relay

end TelemetryRelay
