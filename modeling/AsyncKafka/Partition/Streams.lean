import AsyncKafka.Library.Chunks
import AsyncKafka.Partition.Life

/-!
# The bytes on a connection

`onWriteReady` takes a frame off the deque before it knows how much of it the
kernel accepts, and it does not keep what was not accepted.  A frame that was
cut short is therefore never continued: the connection carries whole requests
as long as nothing is written on it after that.
-/

namespace AsyncKafka

open Wire Execution

/-- What the broker still waits for of the last frame of a connection, and none
when another frame was begun within it. -/
def Sent.owed (stream : Sent) : Option Bytes :=
  Chunks.owed WriteBuffer.second stream

/-- Whether the last frame of a connection was accepted in part only. -/
def Sent.cutShort (stream : Sent) : Bool :=
  Chunks.cutShort WriteBuffer.second stream

/-- The bytes of a connection are whole frames and a part of one more, of which
`rest` is missing. -/
def Sent.Framed (stream : Sent) (rest : Bytes) : Prop :=
  Chunks.Framed WriteBuffer.second stream rest

/-- A frame may begin when nothing is missing. -/
theorem Sent.owed_begin
    {stream : Sent}
    (complete : stream.owed = some [])
    (req : WriteBuffer)
    (accepted : Option Nat) :
    Sent.owed (stream ++ [(req, req.taken accepted)]) =
      some (req.second.drop (accepted.getD 0)) :=
  Chunks.owed_begin complete req _

theorem Sent.drop_of_not_cutShort
    {stream : Sent}
    {req : WriteBuffer}
    {accepted : Option Nat}
    (complete : Sent.cutShort (stream ++ [(req, req.taken accepted)]) = false) :
    req.second.drop (accepted.getD 0) = [] :=
  Chunks.drop_of_not_cutShort complete

/-- On every connection frames are continued before others begin, and on the
current one nothing is missing unless its last frame was cut short. -/
structure Aligned (streams : List Sent) : Prop where
  whole : ∀ stream ∈ streams, ∃ rest, stream.owed = some rest
  current : ∀ stream ∈ streams.head?, stream.cutShort = false →
    stream.owed = some []

namespace Aligned

/-- A new connection with at most a part of one frame. -/
theorem opening
    {stream : Sent}
    (opening : Line.Opening stream) :
    Aligned [stream] := by
  suffices ∃ rest, stream.owed = some rest ∧ (stream.cutShort = false → rest = []) by
    obtain ⟨rest, owes, complete⟩ := this
    refine ⟨?_, ?_⟩
    · intro other member
      obtain rfl := List.mem_singleton.mp member
      exact ⟨rest, owes⟩
    · intro other member uncut
      obtain rfl := Option.some.inj member
      rw [owes, complete uncut]
  rcases opening with rfl | ⟨req, accepted, rfl⟩
  · exact ⟨[], rfl, fun _ => rfl⟩
  · have complete : Sent.owed [] = some [] := rfl
    refine ⟨_, Sent.owed_begin complete req accepted, fun uncut => ?_⟩
    exact Sent.drop_of_not_cutShort (show Sent.cutShort
      ([] ++ [(req, req.taken accepted)]) = false from uncut)

/-- The frames of earlier connections stay as they are. -/
theorem prepend
    {opened earlier : List Sent}
    (nonempty : opened ≠ [])
    (openings : ∀ stream ∈ opened, Line.Opening stream)
    (aligned : Aligned earlier) :
    Aligned (opened ++ earlier) := by
  refine ⟨?_, ?_⟩
  · intro stream member
    rcases List.mem_append.mp member with new | old
    · exact (opening (openings stream new)).whole stream (List.mem_singleton_self _)
    · exact aligned.whole stream old
  · obtain ⟨first, others, rfl⟩ := List.exists_cons_of_ne_nil nonempty
    intro stream member
    obtain rfl := Option.some.inj member
    exact (opening (openings first List.mem_cons_self)).current first rfl

/-- A write on the current connection keeps the alignment, if nothing was
accepted or if the last frame was not cut short. -/
theorem extend
    {streams : List Sent}
    (aligned : Aligned streams)
    (req : WriteBuffer)
    (accepted : Option Nat)
    (fits : streams.head?.any Sent.cutShort = true →
      req.taken accepted = []) :
    Aligned (Exchange.extend streams req (req.taken accepted)) := by
  by_cases nothing : req.taken accepted = []
  · rw [nothing]
    exact aligned
  have begins : Exchange.extend streams req (req.taken accepted) =
      (streams.head?.getD [] ++ [(req, req.taken accepted)]) :: streams.tail := by
    unfold Exchange.extend
    split
    · rename_i empty
      exact absurd empty nothing
    · rfl
    · rfl
  rw [begins]
  have complete : Sent.owed (streams.head?.getD []) = some [] := by
    cases streams with
    | nil => rfl
    | cons stream earlier =>
        apply aligned.current stream rfl
        by_contra cut
        exact nothing (fits (by simpa using cut))
  have after := Sent.owed_begin complete req accepted
  refine ⟨?_, ?_⟩
  · intro stream member
    rcases List.mem_cons.mp member with rfl | earlier
    · exact ⟨_, after⟩
    · exact aligned.whole stream (List.mem_of_mem_tail earlier)
  · intro stream member uncut
    obtain rfl := Option.some.inj member
    rw [after, Sent.drop_of_not_cutShort uncut]

end Aligned

namespace KafkaPartition

/-- Whether the kernel accepts no byte of the frame. -/
def WriteOutcome.acceptsNone : WriteOutcome → Bool
  | .written => false
  | .short count => count == 0
  | .failed => true
  | .reset _ _ => true

theorem WriteOutcome.taken_of_acceptsNone
    {outcome : WriteOutcome}
    (none : outcome.acceptsNone = true)
    (req : WriteBuffer) :
    req.taken (outcome.accepted req) = [] := by
  cases outcome with
  | written => cases none
  | short count =>
      obtain rfl : count = 0 := by simpa [acceptsNone] using none
      rfl
  | failed => rfl
  | reset _ _ => rfl

/-- Whether the last frame that was written on the current connection was
accepted in part only. -/
def isCutShort (p : KafkaPartition) : Bool :=
  p.exchange.streams.head?.any Sent.cutShort

/-- Whether a call hands bytes to the current connection: a write of the front
frame, or the write with which the partition reacts to an error code. -/
def writesBytes (p : KafkaPartition) : Call → Bool
  | .event (.writeReady outcome) =>
      !p.writeBuffers.isEmpty && !outcome.acceptsNone
  | .event (.readReady (.payload payload) surroundings) =>
      errorNeedsRequest (responseError payload) &&
        !surroundings.writes.acceptsNone
  | _ => false

/-- Nothing is written after a frame that was cut short. -/
def KeepsFrames (p : KafkaPartition) (call : Call) : Prop :=
  p.isCutShort = true → p.writesBytes call = false

instance (p : KafkaPartition) (call : Call) : Decidable (KeepsFrames p call) :=
  inferInstanceAs (Decidable (_ → _))

end KafkaPartition

namespace Line

open KafkaPartition

theorem Replaced.aligned
    {line after : Line}
    {wakes : Bool}
    (replaced : line.Replaced wakes after)
    (aligned : Aligned line.exchange.streams) :
    Aligned after.exchange.streams := by
  obtain ⟨opened, nonempty, openings, rfl⟩ := replaced
  exact aligned.prepend nonempty openings

/-- The reaction to an error code keeps the alignment if its write does. -/
theorem Reaction.aligned
    {line after : Line}
    {consumer : Bool}
    {ec : Int}
    {writes : WriteOutcome}
    (reaction : line.Reaction consumer ec writes after)
    (aligned : Aligned line.exchange.streams)
    (fits : line.exchange.streams.head?.any Sent.cutShort = true →
      errorNeedsRequest ec = true → writes.acceptsNone = true) :
    Aligned after.exchange.streams := by
  cases reaction with
  | ignored _ => exact aligned
  | @asked req needs _ _ =>
      exact aligned.extend req _ fun cut =>
        WriteOutcome.taken_of_acceptsNone (fits cut needs) req
  | lost _ _ replaced => exact replaced.aligned aligned

end Line

namespace KafkaPartition

/-- An event that writes nothing into a frame that was cut short keeps the
alignment. -/
theorem Motion.aligned
    {p : KafkaPartition}
    {event : Event}
    {after : Line}
    (motion : Motion p event after)
    (keeps : KeepsFrames p (.event event))
    (aligned : Aligned p.line.exchange.streams) :
    Aligned after.exchange.streams := by
  have reacts {payload : Bytes} {surroundings : Surroundings}
      (isRead : event = .readReady (.payload payload) surroundings)
      (cut : p.line.exchange.streams.head?.any Sent.cutShort = true)
      (needs : errorNeedsRequest (responseError payload) = true) :
      surroundings.writes.acceptsNone = true := by
    subst isRead
    have silent := keeps cut
    simpa [writesBytes, needs] using silent
  cases motion with
  | @write outcome req rest front _ =>
      refine aligned.extend req _ fun cut => ?_
      apply WriteOutcome.taken_of_acceptsNone
      have silent := keeps cut
      simpa [writesBytes, front] using silent
  | reset _ _ replaced => exact replaced.aligned aligned
  | lost _ replaced => exact replaced.aligned aligned
  | moved _ _ replaced => exact replaced.aligned aligned
  | refused _ _ _ reaction _ => exact reaction.aligned aligned (reacts rfl)
  | fetched _ reaction => exact reaction.aligned aligned (reacts rfl)
  | answered _ _ reaction => exact reaction.aligned aligned (reacts rfl)
  | _ => exact aligned

theorem CallMotion.aligned
    {p : KafkaPartition}
    {call : Call}
    {after : Line}
    (motion : CallMotion p call after)
    (keeps : KeepsFrames p call)
    (aligned : Aligned p.line.exchange.streams) :
    Aligned after.exchange.streams := by
  cases motion with
  | event motion => exact motion.aligned keeps aligned
  | _ => exact aligned

theorem Unborn.aligned
    {p : KafkaPartition}
    (unborn : Unborn p) :
    Aligned p.line.exchange.streams := by
  rw [unborn.line_eq]
  exact .opening (.inl rfl)

/-- Every connection carries whole requests, the last one perhaps in part, as
long as nothing is written on a connection after a frame that was cut short. -/
theorem streams_of_whole_requests
    {crc32 : Bytes → UInt32}
    {start p : KafkaPartition}
    {history : List Call}
    (unborn : Unborn start)
    (run : Run (perform crc32) KeepsFrames start history p) :
    ∀ stream ∈ p.exchange.streams,
      ∃ rest, stream.owed = some rest ∧ stream.Framed rest := by
  have aligned : Aligned p.line.exchange.streams :=
    line_invariant (fun line => Aligned line.exchange.streams) unborn.aligned
      (fun _ _ _ before keeps motion => motion.aligned keeps before) run
  intro stream member
  obtain ⟨rest, owes⟩ := aligned.whole stream member
  exact ⟨rest, owes, Chunks.framed_of_owed owes⟩

/-- A producer of whose batch the kernel accepts three bytes. -/
def cutCalls : List Call :=
  initCalls 5 sampleSurroundings ++
    [.startProduce 7 8 9, .event (.produce [1]), .event .batchTimer,
      .event (.writeReady (.short 3))]

/-- The connection is lost after a frame was cut short. -/
theorem streams_of_whole_requests_lost :
    ∃ p, Run (perform Crc32.checksum) KeepsFrames (sampleUnborn .producer)
        (cutCalls ++ [.event (.readReady .closed { connect := some 10 })]) p ∧
      p.exchange.streams.length = 2 ∧
      ∀ stream ∈ p.exchange.streams,
        ∃ rest, stream.owed = some rest ∧ stream.Framed rest := by
  obtain ⟨p, run, two⟩ := exists_run_of_follow (perform Crc32.checksum)
    KeepsFrames (sampleUnborn .producer)
    (cutCalls ++ [.event (.readReady .closed { connect := some 10 })])
    (fun p => p.exchange.streams.length = 2) (by decide +kernel)
  exact ⟨p, run, of_decide_eq_true two,
    streams_of_whole_requests (sampleUnborn_unborn .producer) run⟩

/-- A metadata request begins within the produce request that was cut short. -/
theorem request_within_request :
    ∃ p, Unborn (sampleUnborn .producer) ∧
      Run (perform Crc32.checksum) (fun _ _ => True) (sampleUnborn .producer)
        (cutCalls ++ [.event .metadataTimer, .event (.writeReady .written)]) p ∧
      ∃ stream ∈ p.exchange.streams, stream.owed = none := by
  obtain ⟨p, run, cut⟩ := exists_run_of_follow (perform Crc32.checksum)
    (fun _ _ => True) (sampleUnborn .producer)
    (cutCalls ++ [.event .metadataTimer, .event (.writeReady .written)])
    (fun p => p.exchange.streams.any fun stream => stream.owed == none)
    (by decide +kernel)
  obtain ⟨stream, member, none⟩ := List.any_eq_true.mp cut
  exact ⟨p, sampleUnborn_unborn .producer, run, stream, member,
    eq_of_beq none⟩

end KafkaPartition
end AsyncKafka
