import AsyncKafka.Partition.Life

/-!
# The interest in writing

When there is nothing to write, `onWriteReady` tells the reactor to stop
watching the socket for writing.  Whoever puts a frame on the deque afterwards
has to register the socket again, and the retry of a refused produce request
does not.
-/

namespace AsyncKafka

open Wire Execution

/-- The reactor runs, and it watches the socket for writing as long as there is
something to write. -/
structure Line.Interested (line : Line) : Prop where
  attached : line.attached = true
  watched : line.queue ≠ [] → line.watched = true

namespace Line

open KafkaPartition

/-- A replaced connection is watched from its beginning. -/
theorem Replaced.interested
    {line after : Line}
    {wakes : Bool}
    (replaced : line.Replaced wakes after)
    (attached : line.attached = true) :
    after.Interested := by
  obtain ⟨_, -, -, rfl⟩ := replaced
  exact ⟨attached, fun _ => rfl⟩

/-- The reaction to an error code leaves an interested line interested. -/
theorem Reaction.interested
    {line after : Line}
    {consumer : Bool}
    {ec : Int}
    {writes : WriteOutcome}
    (reaction : line.Reaction consumer ec writes after)
    (interested : line.Interested) :
    after.Interested := by
  cases reaction with
  | ignored _ => exact interested
  | asked _ _ _ => exact ⟨interested.attached, fun _ => rfl⟩
  | lost _ _ replaced => exact replaced.interested interested.attached

/-- A reaction that asks for something ends with a watched socket. -/
theorem Reaction.watched
    {line after : Line}
    {consumer : Bool}
    {ec : Int}
    {writes : WriteOutcome}
    (reaction : line.Reaction consumer ec writes after)
    (watched : errorNeedsRequest ec = false → line.watched = true) :
    after.watched = true := by
  cases reaction with
  | ignored idle => exact watched idle
  | asked _ _ _ => rfl
  | lost _ _ replaced =>
      obtain ⟨_, -, -, rfl⟩ := replaced
      rfl

end Line

namespace KafkaPartition

/-- The socket is open and the reactor does not watch it for writing. -/
def isUnwatched (p : KafkaPartition) : Bool :=
  p.sockFd != -1 && !p.reactor.watchesWriting p.sockFd

/-- A produce request is refused while the socket is not watched for writing,
with an error code that does not make the partition ask for anything. -/
def refusedUnwatched (p : KafkaPartition) : Call → Bool
  | .event (.readReady (.payload payload) _) =>
      correlationId payload == apiKeyProduceRequest &&
        responseError payload != 0 &&
        !errorNeedsRequest (responseError payload) && p.isUnwatched
  | _ => false

/-- With a reactor that runs, the line shows whether the socket is watched. -/
theorem line_watched
    {p : KafkaPartition}
    (attached : p.line.attached = true) :
    p.line.watched = !p.isUnwatched := by
  have base : p.reactor.base = true := attached
  simp [line, isUnwatched, base, bne]

/-- An event that does not refuse a request unwatched keeps the interest. -/
theorem Motion.interested
    {p : KafkaPartition}
    {event : Event}
    {after : Line}
    (motion : Motion p event after)
    (kept : p.refusedUnwatched (.event event) = false)
    (interested : p.line.Interested) :
    after.Interested := by
  obtain ⟨attached, watched⟩ := interested
  cases motion with
  | still => exact ⟨attached, watched⟩
  | pause => exact ⟨attached, watched⟩
  | resume _ => exact ⟨attached, watched⟩
  | drain _ _ => exact ⟨attached, fun _ => rfl⟩
  | metadata _ => exact ⟨attached, fun _ => rfl⟩
  | swallow _ _ => exact ⟨attached, watched⟩
  | fetch _ _ _ => exact ⟨attached, fun _ => rfl⟩
  | idle nothing => exact ⟨attached, fun something => absurd nothing something⟩
  | @write _ req rest front _ =>
      -- There was something to write, so the socket was watched.
      have nonempty : p.line.queue ≠ [] := by
        rw [show p.line.queue = req :: rest from front]
        exact List.cons_ne_nil req rest
      exact ⟨attached, fun _ => watched nonempty⟩
  | reset _ _ replaced => exact replaced.interested attached
  | lost _ replaced => exact replaced.interested attached
  | moved _ _ replaced => exact replaced.interested attached
  | produced _ _ => exact ⟨attached, watched⟩
  | @refused payload _ _ _ produce error _ reaction _ =>
      refine ⟨reaction.keeps.1.trans attached, fun _ => ?_⟩
      apply reaction.watched
      intro silent
      change p.line.watched = true
      rw [line_watched attached]
      simpa [refusedUnwatched, produce, error, silent] using kept
  | fetched _ reaction =>
      have middle := reaction.interested ⟨attached, watched⟩
      exact ⟨middle.attached, middle.watched⟩
  | answered _ _ reaction => exact reaction.interested ⟨attached, watched⟩

theorem CallMotion.interested
    {p : KafkaPartition}
    {call : Call}
    {after : Line}
    (motion : CallMotion p call after)
    (kept : p.refusedUnwatched call = false)
    (interested : p.line.Interested) :
    after.Interested := by
  cases motion with
  | event motion => exact motion.interested kept interested
  | connect => exact ⟨interested.attached, fun _ => rfl⟩
  | ask _ => exact ⟨interested.attached, fun _ => rfl⟩
  | start => exact ⟨interested.attached, interested.watched⟩
  | quiet => exact interested

/-- A partition that was never connected has nothing to write. -/
theorem Unborn.interested
    {p : KafkaPartition}
    (unborn : Unborn p) :
    p.line.Interested := by
  rw [unborn.line_eq]
  exact ⟨rfl, fun _ => rfl⟩

/-- Frames wait only on a socket that is watched for writing, as long as no
produce request is refused silently while the socket is not watched. -/
theorem queued_requests_watched
    {crc32 : Bytes → UInt32}
    {start p : KafkaPartition}
    {history : List Call}
    (unborn : Unborn start)
    (run : Run (perform crc32)
      (fun p call => p.refusedUnwatched call = false) start history p) :
    p.writeBuffers ≠ [] → p.sockFd ≠ -1 →
      p.reactor.watchesWriting p.sockFd = true := by
  have interested : p.line.Interested :=
    line_invariant Line.Interested unborn.interested
      (fun _ _ _ before kept motion => motion.interested kept before) run
  intro waiting opened
  have watched := interested.watched waiting
  rw [line_watched interested.attached] at watched
  simpa [isUnwatched, opened] using watched

/-- A producer that writes a batch, finds nothing more to write, and is then
told that the request was refused. -/
def refusalCalls (ec : UInt8) : List Call :=
  initCalls 5 sampleSurroundings ++
    [.startProduce 7 8 9, .event (.produce [1]), .event .batchTimer,
      .event (.writeReady .written), .event (.writeReady .written),
      .event (.readReady (.payload [0, 0, 0, 0, 0, 0, 0, 1, 0, 1, 116,
        0, 0, 0, 1, 0, 0, 0, 0, 0, ec, 0, 0, 0, 0, 0, 0, 0, 0]) {})]

/-- A request that was refused because the leader has moved is sent again. -/
theorem queued_requests_watched_leader :
    ∃ p, Run (perform Crc32.checksum)
        (fun p call => p.refusedUnwatched call = false) (sampleUnborn .producer)
        (refusalCalls 6) p ∧
      p.writeBuffers ≠ [] ∧ p.sockFd ≠ -1 ∧
      p.reactor.watchesWriting p.sockFd = true := by
  obtain ⟨p, run, waiting⟩ := exists_run_of_follow (perform Crc32.checksum)
    (fun p call => p.refusedUnwatched call = false) (sampleUnborn .producer)
    (refusalCalls 6) (fun p => p.writeBuffers ≠ [] ∧ p.sockFd ≠ -1)
    (by decide +kernel)
  obtain ⟨nonempty, opened⟩ := of_decide_eq_true waiting
  exact ⟨p, run, nonempty, opened,
    queued_requests_watched (sampleUnborn_unborn .producer) run nonempty opened⟩

/-- A request that was refused for a timeout at the broker waits on a socket
that is not watched for writing. -/
theorem stranded_after_timeout :
    ∃ p, Unborn (sampleUnborn .producer) ∧
      Run (perform Crc32.checksum) (fun _ _ => True) (sampleUnborn .producer)
        (refusalCalls 7) p ∧
      p.writeBuffers ≠ [] ∧ p.sockFd ≠ -1 ∧
      p.reactor.watchesWriting p.sockFd = false := by
  obtain ⟨p, run, stranded⟩ := exists_run_of_follow (perform Crc32.checksum)
    (fun _ _ => True) (sampleUnborn .producer) (refusalCalls 7)
    (fun p => p.writeBuffers ≠ [] ∧ p.sockFd ≠ -1 ∧
      p.reactor.watchesWriting p.sockFd = false)
    (by decide +kernel)
  exact ⟨p, sampleUnborn_unborn .producer, run, of_decide_eq_true stranded⟩

end KafkaPartition
end AsyncKafka
