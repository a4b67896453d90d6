import AsyncKafka.Producer.Intake

/-!
# The calls of `onMsgQueued`

Every call of `produce` adds one to the counter of an eventfd, whether it
accepts one message or many, and the handler takes the whole counter with one
call of `onMsgQueued`.  So a message is announced by a call of its own exactly
when it was accepted alone and no announcement was due at that time.
-/

namespace AsyncKafka

open Wire Execution

/-- The calls of `onMsgQueued` that were made, and the one that is due. -/
def Intake.announcements (intake : Intake) : Nat :=
  intake.notifications + min intake.produceMsgQEvent.pending 1

namespace KafkaPartition

/-- The number of messages that `produce` has accepted. -/
def accepted (history : List Event) : Nat :=
  (history.flatMap Event.messages).length

/-- An event accepts at most one message, and none while an announcement is
due. -/
def AcceptsAlone (p : KafkaPartition) (event : Event) : Prop :=
  event.messages ≠ [] →
    event.messages.length = 1 ∧ p.produceMsgQEvent.pending = 0

instance (p : KafkaPartition) (event : Event) :
    Decidable (p.AcceptsAlone event) :=
  inferInstanceAs (Decidable (_ → _))

/-- The report of accepted messages makes an announcement due. -/
theorem announcements_wakeupProduceMsgQ
    {p queued q : KafkaPartition}
    {msgs : List Bytes}
    (queues : msgs.foldlM enqueue p = .ok queued)
    (woken : queued.wakeupProduceMsgQ = .ok q) :
    q.intake.announcements = p.intake.notifications + 1 := by
  have trace : queued.trace = p.trace := by
    obtain ⟨⟨_, _, _, _, _, _, _, _, _, _, _, rfl⟩, -⟩ :=
      foldlM_enqueue_spec queues
    exact List.append_nil p.trace
  obtain ⟨source, raised, finished⟩ := bind_eq_ok.mp woken
  obtain rfl := Except.ok.inj finished
  obtain ⟨opened, rfl⟩ := WakeupEventSource.wakeup_eq_ok.mp raised
  have pending := WakeupEventSource.pending_setCounter opened
    (queued.produceMsgQEvent.pending + 1)
  simp only [Intake.announcements, intake, pending, trace]
  omega

/-- A dispatch makes the announcement that is due. -/
theorem announcements_dispatch
    {crc32 : Bytes → UInt32}
    {p q : KafkaPartition}
    (registered : p.onMsgQueued = true)
    (stepped : step crc32 p .produceMsgQEvent = .ok q) :
    q.intake.announcements = p.intake.announcements := by
  simp only [step, WakeupEventSource.handleEvent_eq] at stepped
  by_cases idle : p.produceMsgQEvent.pending = 0
  · simp only [idle, if_true] at stepped
    obtain rfl := Except.ok.inj stepped
    rfl
  · simp only [idle, if_false] at stepped
    obtain rfl := Except.ok.inj stepped
    have opened := WakeupEventSource.isOpen_of_pending (Nat.pos_of_ne_zero idle)
    have taken := WakeupEventSource.pending_setCounter opened 0
    simp only [notifyProduceMsgQ, registered, if_true, Intake.announcements,
      intake, record, taken, List.count_append, List.count_singleton_self]
    omega

/-- Accepting messages makes one announcement due, and nothing else changes the
number of announcements. -/
theorem step_announcements
    {crc32 : Bytes → UInt32}
    {p q : KafkaPartition}
    {event : Event}
    (registered : p.onMsgQueued = true)
    (stepped : step crc32 p event = .ok q) :
    q.intake.announcements =
      if event.messages = [] then p.intake.announcements
      else p.intake.notifications + 1 := by
  cases event with
  | produce msg =>
      obtain ⟨queued, accepted, woken⟩ := bind_eq_ok.mp stepped
      have queues : [msg].foldlM enqueue p = .ok queued := by simpa using accepted
      rw [if_neg (by simp [Event.messages])]
      exact announcements_wakeupProduceMsgQ queues woken
  | produceAll msgs =>
      obtain ⟨code, returned⟩ := step_produceAll stepped
      rcases produceAll_cases returned with
        ⟨rfl, rfl⟩ | ⟨nonempty, queued, queues, notified⟩
      · rfl
      · rw [if_neg (by simpa [Event.messages] using nonempty)]
        exact announcements_wakeupProduceMsgQ queues notified
  | produceEvent =>
      simp only [step] at stepped
      split at stepped <;> obtain rfl := Except.ok.inj stepped <;> rfl
  | produceMsgQEvent => exact announcements_dispatch registered stepped
  | batchTimer =>
      obtain rfl := Except.ok.inj stepped
      rfl
  | pauseFetch | resumeFetch | fetchEvent | metadataTimer | commitTimer
  | readReady _ _ | writeReady _ =>
      exact congrArg Intake.announcements (step_intake rfl stepped)

/-- An event announces at most what it accepts, and exactly that if it accepts
alone. -/
theorem step_announced
    {crc32 : Bytes → UInt32}
    {p q : KafkaPartition}
    {event : Event}
    (registered : p.onMsgQueued = true)
    (stepped : step crc32 p event = .ok q) :
    q.intake.announcements ≤ p.intake.announcements + event.messages.length ∧
      (q.intake.announcements = p.intake.announcements + event.messages.length ↔
        p.AcceptsAlone event) := by
  have announcements := step_announcements registered stepped
  by_cases silent : event.messages = []
  · rw [if_pos silent] at announcements
    rw [announcements, silent, List.length_nil]
    exact ⟨le_rfl, iff_of_true rfl fun speaks => absurd silent speaks⟩
  · rw [if_neg silent] at announcements
    have due : p.intake.announcements =
        p.intake.notifications + min p.produceMsgQEvent.pending 1 := rfl
    have positive : 0 < event.messages.length := List.length_pos_iff.mpr silent
    have alone : p.AcceptsAlone event ↔
        event.messages.length = 1 ∧ p.produceMsgQEvent.pending = 0 :=
      ⟨fun accepts => accepts silent, fun accepts _ => accepts⟩
    rw [alone, announcements, due]
    omega

theorem accepted_concat (history : List Event) (event : Event) :
    accepted (history ++ [event]) = accepted history + event.messages.length := by
  simp [accepted]

/-- A producer whose application wants to be told starts with one announcement
due. -/
theorem StartedProducer.announcements
    {start : KafkaPartition}
    (started : StartedProducer start) :
    start.intake.announcements = 1 := by
  obtain ⟨-, none⟩ := started.constructed.intake
  have due : start.intake.announcements =
      start.intake.notifications + min start.produceMsgQEvent.pending 1 := rfl
  rw [due, none, started.pending]
  rfl

/-- The callbacks stay registered. -/
theorem run_onMsgQueued
    {crc32 : Bytes → UInt32}
    {allowed : KafkaPartition → Event → Prop}
    {start p : KafkaPartition}
    {history : List Event}
    (run : Run (step crc32) allowed start history p) :
    p.onMsgQueued = start.onMsgQueued :=
  congrArg Identity.onMsgQueued (run_identity run)

/-- A run in which every message was accepted alone has announced them all. -/
theorem announcements_of_alone
    {crc32 : Bytes → UInt32}
    {start p : KafkaPartition}
    {history : List Event}
    (started : StartedProducer start)
    (registered : start.onMsgQueued = true)
    (run : Run (step crc32) AcceptsAlone start history p) :
    p.intake.announcements = 1 + accepted history := by
  induction run with
  | nil => exact started.announcements
  | snoc before alone stepped inductionHypothesis =>
      have asked := (run_onMsgQueued before).trans registered
      rw [accepted_concat, (step_announced asked stepped).2.mpr alone,
        inductionHypothesis, Nat.add_assoc]

/-- No run has announced more than it has accepted, and a run that has announced
them all has accepted every message alone. -/
theorem alone_of_announcements
    {crc32 : Bytes → UInt32}
    {start p : KafkaPartition}
    {history : List Event}
    (started : StartedProducer start)
    (registered : start.onMsgQueued = true)
    (run : Run (step crc32) (fun _ _ => True) start history p) :
    p.intake.announcements ≤ 1 + accepted history ∧
      (p.intake.announcements = 1 + accepted history →
        Run (step crc32) AcceptsAlone start history p) := by
  induction run with
  | nil => exact ⟨started.announcements.le, fun _ => .nil⟩
  | snoc before _ stepped inductionHypothesis =>
      obtain ⟨bounded, alone⟩ := inductionHypothesis
      have asked := (run_onMsgQueued before).trans registered
      obtain ⟨atMost, exactly⟩ := step_announced asked stepped
      rw [accepted_concat]
      constructor
      · omega
      · intro all
        -- A message that was not announced stays so: both parts must be exact.
        exact .snoc (alone (by omega)) (exactly.mp (by omega)) stepped

/-- In every run of a producer with `onMsgQueued` registered that ends without a
pending wakeup, `onMsgQueued` was called once for the start and once for every
message, if and only if every message of the run was accepted alone and while
no wakeup was pending. -/
theorem one_notification_per_message_iff
    {crc32 : Bytes → UInt32}
    {start p : KafkaPartition}
    {history : List Event}
    (started : StartedProducer start)
    (registered : start.onMsgQueued = true)
    (run : Run (step crc32) (fun _ _ => True) start history p)
    (idle : p.produceMsgQEvent.pending = 0) :
    p.trace.count .msgQueued = 1 + (history.flatMap Event.messages).length ↔
      Run (step crc32) AcceptsAlone start history p := by
  have made : p.intake.announcements = p.trace.count .msgQueued := by
    change p.trace.count .msgQueued + min p.produceMsgQEvent.pending 1 = _
    rw [idle]
    rfl
  rw [← made]
  exact ⟨(alone_of_announcements started registered run).2,
    announcements_of_alone started registered⟩

/-- A producer of the topic `t` with `onMsgQueued` registered. -/
def sampleNotified : KafkaPartition :=
  (do let (p, _) ← sampleConstruct .producer {}
      { p with onMsgQueued := true }.startProduce 7 8 9
      : Except Halt KafkaPartition).toOption.getD
    (blank .producer [116] 0 sampleBrokers {} {})

theorem sampleNotified_started : StartedProducer sampleNotified := by
  have returns : (do
      let (p, _) ← sampleConstruct .producer {}
      { p with onMsgQueued := true }.startProduce 7 8 9
        : Except Halt KafkaPartition).isOk = true := by
    decide +kernel
  obtain ⟨⟨p, disk⟩, constructed, started⟩ := bind_eq_ok.mp
    (eq_ok_of_isOk returns (blank .producer [116] 0 sampleBrokers {} {}))
  exact ⟨p, p.onProduceResponse, true, 7, 8, 9, .constructed constructed,
    started⟩

/-- An application that produces its next message when it is told about the
last one. -/
theorem one_notification_per_message_iff_paced :
    ∃ p, Run (step Crc32.checksum) (fun _ _ => True) sampleNotified
        [.produceMsgQEvent, .produce [1], .produceMsgQEvent, .produce [2],
          .produceMsgQEvent] p ∧
      p.trace.count .msgQueued = 3 := by
  obtain ⟨p, run, idle⟩ := exists_run_of_follow (step Crc32.checksum)
    AcceptsAlone sampleNotified
    [.produceMsgQEvent, .produce [1], .produceMsgQEvent, .produce [2],
      .produceMsgQEvent]
    (fun p => p.produceMsgQEvent.pending = 0) (by decide +kernel)
  have unrestricted := run.mono fun _ _ _ => trivial
  exact ⟨p, unrestricted, (one_notification_per_message_iff
    sampleNotified_started (by decide +kernel) unrestricted
    (of_decide_eq_true idle)).mpr run⟩

/-- A vector of two messages is announced once. -/
theorem vector_announced_once :
    ∃ p, Run (step Crc32.checksum) (fun _ _ => True) sampleNotified
        [.produceMsgQEvent, .produceAll [[1], [2]], .produceMsgQEvent] p ∧
      p.produceMsgQEvent.pending = 0 ∧ p.trace.count .msgQueued = 2 ∧
      p.trace.count .msgQueued ≠ 1 + (([.produceMsgQEvent,
        .produceAll [[1], [2]], .produceMsgQEvent] : List Event).flatMap
          Event.messages).length := by
  obtain ⟨p, run, checked⟩ := exists_run_of_follow (step Crc32.checksum)
    (fun _ _ => True) sampleNotified
    [.produceMsgQEvent, .produceAll [[1], [2]], .produceMsgQEvent]
    (fun p => p.produceMsgQEvent.pending = 0 ∧ p.trace.count .msgQueued = 2)
    (by decide +kernel)
  obtain ⟨idle, twice⟩ := of_decide_eq_true checked
  refine ⟨p, run, idle, twice, ?_⟩
  rw [twice]
  decide

end KafkaPartition
end AsyncKafka
