import QuantGateway.MarketData.TickerCodec
import QuantGateway.Sink.QueueSink

/-!
Owns the way of the venue's frames through `TickerCodec` and a `QueueSink` to the
handler: which frames it gets to see, in what order, and that it ends on the newest.

Does not own the session that receives the frames; a run says in what order their
ticks reach `on_tick`.
-/

namespace QuantGateway.Sink

open QuantGateway.Foundation
open QuantGateway.Queue
open QuantGateway.MarketData

universe u v

variable {T : Type u} {Thread : Type v}

/-! ## The newest tick -/

/-- What was taken, and then what still waits, ends with the last tick accepted. -/
def Fresh (ledger : Ledger T) : Prop :=
  (ledger.delivered ++ ledger.queue.items).getLast? = ledger.accepted.getLast?

/-- A full queue makes room at its other end. -/
theorem Fresh.push {ledger : Ledger T} {item : T} {result : PushResult}
    {queue : BlockingQueue (Numbered T)} (fresh : Fresh ledger)
    (locked : ledger.queue.push (ledger.next item) = some (result, queue)) :
    Fresh (ledger.afterPush item queue result) := by
  unfold Fresh
  rcases BlockingQueue.push_cases locked with
    ⟨-, rfl, rfl⟩ | ⟨-, -, rfl, rfl⟩ | ⟨-, -, rfl, oldest, rest, -, rfl⟩
  · exact fresh
  · simp only [Ledger.afterPush, ← List.append_assoc, List.getLast?_concat]
  · simp only [Ledger.afterPush, ← List.append_assoc, List.getLast?_concat]

theorem Fresh.pop {ledger : Ledger T} {result : PopResult (Numbered T)}
    {queue : BlockingQueue (Numbered T)} (fresh : Fresh ledger)
    (locked : ledger.queue.pop = (result, queue)) : Fresh (ledger.afterPop queue result) := by
  rcases BlockingQueue.pop_cases locked with
    ⟨entry, rest, itemsEq, rfl, rfl⟩ | ⟨-, -, rfl, rfl⟩ | ⟨-, -, rfl, rfl⟩
  · unfold Fresh at fresh
    rw [itemsEq, List.append_cons] at fresh
    exact fresh
  · exact fresh
  · exact fresh

theorem fresh_of_reachable {capacity : Nat} {ledger : Ledger T}
    (reachable : (Ledger.system Thread T capacity).Reachable ledger) : Fresh ledger := by
  refine reachable.invariant ?_ ?_
  · rintro _ rfl
    rfl
  · intro ledger label after step fresh
    cases step with
    | push _ locked => exact fresh.push locked
    | pop _ locked => exact fresh.pop locked
    | close _ => exact fresh

/-! ## Frames -/

/-- A `params.data` payload whose timestamp is an integer number of milliseconds that an
`int64` of nanoseconds can hold, with what the session decodes it under. -/
structure Frame where
  entry : EntryPoint
  data : JsonObject
  id : InstrumentId
  recvTs : Nanos
  millis : Int
  stamped : venueMillis data = some millis
  widenable : Widenable millis

namespace Frame

/-- The tick the frame is decoded to, if it is one. -/
def tick (undefined : Undefined) (frame : Frame) : Option Tick :=
  frame.entry.decode undefined frame.data frame.id frame.recvTs

theorem id_of_tick {undefined : Undefined} {frame : Frame} {tick : Tick}
    (decoded : frame.tick undefined = some tick) : tick.id = frame.id := by
  rcases decodePriced_cases undefined frame.data frame.entry.priceKey frame.id frame.recvTs with
    ⟨refused, -⟩ | ⟨-, -, exchangeTs, made⟩
  · rw [Frame.tick, EntryPoint.decode_eq, refused] at decoded
    cases decoded
  · rw [Frame.tick, EntryPoint.decode_eq, made] at decoded
    cases decoded
    rfl

theorem exchangeTs_of_tick {undefined : Undefined} {frame : Frame} {tick : Tick}
    (decoded : frame.tick undefined = some tick) :
    tick.exchangeTs.toInt = frame.millis * 1000000 :=
  (exactlyStamped_iff undefined frame.stamped frame.entry frame.id frame.recvTs).mpr
    (.inr frame.widenable) tick decoded

/-- The venue does not go back in time on an instrument. -/
def InOrder (first second : Frame) : Prop :=
  first.id = second.id → first.millis ≤ second.millis

end Frame

/-- The handler does not go back in time on an instrument. -/
def TicksInOrder (first second : Tick) : Prop :=
  first.id = second.id → first.exchangeTs ≤ second.exchangeTs

theorem ticks_in_order (undefined : Undefined) {frames : List Frame}
    (ordered : frames.Pairwise Frame.InOrder) :
    (frames.filterMap (Frame.tick undefined)).Pairwise TicksInOrder := by
  refine ordered.filterMap _ ?_
  intro first second inOrder tick decoded tick' decoded' sameId
  rw [Frame.id_of_tick decoded, Frame.id_of_tick decoded'] at sameId
  rw [Int64.le_iff_toInt_le, Frame.exchangeTs_of_tick decoded, Frame.exchangeTs_of_tick decoded']
  have later := inOrder sameId
  omega

/-! ## From the venue to the handler -/

section Handler

variable {capacity : Nat} {labels : List (SinkEvent Thread T)} {sink : QueueSink T}

/-- The handler is called with ticks the sink was brought, in that order. -/
theorem handled_sublist_arrivals
    (run : (sinks Thread T capacity).Run (.make capacity) labels sink)
    (armed : sink.onTick = true) :
    (sink.handled.map Numbered.item).Sublist (labels.filterMap SinkEvent.arrival) := by
  have reachable : (sinks Thread T capacity).Reachable sink := ⟨_, labels, rfl, run⟩
  have delivered : sink.ledger.delivered.Sublist sink.ledger.accepted :=
    (Ledger.balanced_of_reachable
      ((sinkSimulation Thread T capacity).reachable reachable)).delivered_sublist
  have handled : sink.handled <+: sink.ledger.delivered :=
    ⟨_, ((orderly_of_reachable reachable).handled armed).symm⟩
  have accepted : sink.ledger.accepted.map Numbered.item = ticksBeforeStop labels :=
    (gated_of_run run).entered
  exact ((handled.sublist.trans delivered).map _).trans (accepted ▸ admitted_sublist labels)

/-- When `stop` has returned, the last call of the handler was with the last tick
brought before the stop. -/
theorem last_handled (run : (sinks Thread T capacity).Run (.make capacity) labels sink)
    (armed : sink.onTick = true) (stopped : sink.Stopped) :
    (sink.handled.map Numbered.item).getLast? = (ticksBeforeStop labels).getLast? := by
  have reachable : (sinks Thread T capacity).Reachable sink := ⟨_, labels, rfl, run⟩
  have orderly := orderly_of_reachable reachable
  have fresh : Fresh sink.ledger :=
    fresh_of_reachable ((sinkSimulation Thread T capacity).reachable reachable)
  have handled : sink.ledger.delivered = sink.handled := by
    simpa [stopped.1, Consumer.inHand] using orderly.handled armed
  unfold Fresh at fresh
  rw [(orderly.finished stopped.1).2, List.append_nil, handled] at fresh
  have accepted : sink.ledger.accepted.map Numbered.item = ticksBeforeStop labels :=
    (gated_of_run run).entered
  rw [← accepted, List.getLast?_map, List.getLast?_map, fresh]

end Handler

/-- When the frames that reach a sink are in the venue's order for each instrument, so
are the ticks its handler is called with, whatever the queue drops and however the
threads interleave: they are the ticks of some of the frames, in the order of the
frames, and when `stop` has returned the last of them is the last that was brought
before the stop. -/
theorem handler_follows_venue (undefined : Undefined) {capacity : Nat} {frames : List Frame}
    {labels : List (SinkEvent Thread Tick)} {sink : QueueSink Tick}
    (ordered : frames.Pairwise Frame.InOrder)
    (brought : labels.filterMap SinkEvent.arrival = frames.filterMap (Frame.tick undefined))
    (run : (sinks Thread Tick capacity).Run (.make capacity) labels sink)
    (armed : sink.onTick = true) :
    (∃ seen : List Frame, seen.Sublist frames ∧
      sink.handled.map Numbered.item = seen.filterMap (Frame.tick undefined)) ∧
    (sink.handled.map Numbered.item).Pairwise TicksInOrder ∧
    (sink.Stopped →
      (sink.handled.map Numbered.item).getLast? = (ticksBeforeStop labels).getLast?) := by
  have handled : (sink.handled.map Numbered.item).Sublist
      (frames.filterMap (Frame.tick undefined)) := brought ▸ handled_sublist_arrivals run armed
  refine ⟨List.sublist_filterMap_iff.mp handled, ?_, last_handled run armed⟩
  exact (ticks_in_order undefined ordered).sublist handled

/-- A ticker frame of instrument 7. -/
def sevenFrame (millis : Int64) (lastPrice : Json) (widenable : Widenable millis.toInt) :
    Frame where
  entry := .ticker
  data := tickerFrame (.int64 millis) lastPrice
  id := 7
  recvTs := 0
  millis := millis.toInt
  stamped := rfl
  widenable := widenable

/-- A quote, a strike that never traded, a quote that displaces the first, one that is
waiting when the sink stops, and one that comes too late. -/
def quotes : List Frame :=
  [sevenFrame 3 (.double (.finite 1)) (by decide), sevenFrame 4 .null (by decide),
    sevenFrame 5 (.double (.finite 2)) (by decide),
    sevenFrame 6 (.double (.finite 3)) (by decide),
    sevenFrame 7 (.double (.finite 4)) (by decide)]

def conflation : List (SinkEvent Unit Tick) :=
  [.start true, .onTick () ⟨7, 3000000, 0, .finite 1⟩ .stored,
    .onTick () ⟨7, 5000000, 0, .finite 2⟩ .displaced, .consume, .handle,
    .onTick () ⟨7, 6000000, 0, .finite 3⟩ .stored, .stop,
    .onTick () ⟨7, 7000000, 0, .finite 4⟩ .refused, .consume, .handle, .consume, .join]

def conflated : QueueSink Tick where
  ledger := ⟨⟨[], 1, 1, true⟩,
    [⟨0, 7, 3000000, 0, .finite 1⟩, ⟨1, 7, 5000000, 0, .finite 2⟩, ⟨2, 7, 6000000, 0, .finite 3⟩],
    [⟨1, 7, 5000000, 0, .finite 2⟩, ⟨2, 7, 6000000, 0, .finite 3⟩],
    [⟨0, 7, 3000000, 0, .finite 1⟩]⟩
  onTick := true
  consumer := .finished
  joinable := false
  joining := false
  handled := [⟨1, 7, 5000000, 0, .finite 2⟩, ⟨2, 7, 6000000, 0, .finite 3⟩]

theorem handler_follows_venue_conflated :
    (sinks Unit Tick 1).Run (.make 1) conflation conflated ∧
    (∃ seen : List Frame, seen.Sublist quotes ∧
      conflated.handled.map Numbered.item = seen.filterMap (Frame.tick wrapping)) ∧
    (conflated.handled.map Numbered.item).Pairwise TicksInOrder ∧
    (conflated.handled.map Numbered.item).getLast? = (ticksBeforeStop conflation).getLast? := by
  have run : (sinks Unit Tick 1).Run (.make 1) conflation conflated :=
    .cons (.start _ _ rfl) <| .cons (.onTick _ _ rfl) <| .cons (.onTick _ _ rfl) <|
      .cons (.consume _ rfl rfl) <| .cons (.handle _ rfl) <| .cons (.onTick _ _ rfl) <|
      .cons (.stop _ rfl) <| .cons (.onTick _ _ rfl) <| .cons (.consume _ rfl rfl) <|
      .cons (.handle _ rfl) <| .cons (.consume _ rfl rfl) <| .cons (.join _ rfl rfl) (.nil _)
  have ordered : quotes.Pairwise Frame.InOrder := by
    simp [quotes, Frame.InOrder, sevenFrame]
  obtain ⟨seen, inOrder, last⟩ := handler_follows_venue wrapping ordered rfl run rfl
  exact ⟨run, seen, inOrder, last ⟨rfl, rfl⟩⟩

end QuantGateway.Sink
