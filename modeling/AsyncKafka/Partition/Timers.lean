import AsyncKafka.Partition.Start

/-!
# The intervals of the timers

Three timers drive a partition: one refreshes the metadata, one commits the
offset, one sends what is left of a batch.  `PeriodicEventSource::init` takes a
period in seconds and splits it without loss, but its three callers divide the
configured milliseconds as integers before they pass them on.  What is left of
an interval is its whole seconds, and an interval below one second disarms its
timer.
-/

namespace AsyncKafka

open Wire Execution

namespace PeriodicEventSource

/-- The timer expires every `periodMs` milliseconds, the first time after as
many. -/
structure ArmedFor (source : PeriodicEventSource) (periodMs : Int) : Prop where
  periodic : source.spec.itValue = source.spec.itInterval
  split : source.spec.itValue.tvNsec < 10 ^ 9
  exact : (source.spec.itValue.tvSec * 10 ^ 9 + source.spec.itValue.tvNsec : Int) =
    periodMs * 10 ^ 6
  running : source.spec.itValue ≠ ⟨0, 0⟩

/-- A period is split into whole seconds and the nanoseconds that remain. -/
theorem init_split
    {timePeriodSeconds : ℚ}
    {fd : Int}
    {source : PeriodicEventSource}
    (armed : init timePeriodSeconds fd = .ok source) :
    source.nanoseconds < 10 ^ 9 ∧
      (source.seconds * 10 ^ 9 + source.nanoseconds : Int) =
        ⌊timePeriodSeconds * 10 ^ 9⌋ := by
  obtain ⟨nonnegative, -⟩ := init_eq_ok armed
  have whole : ((⌊timePeriodSeconds⌋.toNat : Nat) : Int) = ⌊timePeriodSeconds⌋ :=
    Int.toNat_of_nonneg (Int.floor_nonneg.mpr nonnegative)
  have wholeRat : ((⌊timePeriodSeconds⌋.toNat : Nat) : ℚ) =
      (⌊timePeriodSeconds⌋ : ℚ) := by
    exact_mod_cast congrArg (Int.cast : Int → ℚ) whole
  have lower : (⌊timePeriodSeconds⌋ : ℚ) ≤ timePeriodSeconds :=
    Int.floor_le timePeriodSeconds
  have upper : timePeriodSeconds < (⌊timePeriodSeconds⌋ : ℚ) + 1 :=
    Int.lt_floor_add_one timePeriodSeconds
  have rest : ⌊(timePeriodSeconds - (⌊timePeriodSeconds⌋ : ℚ)) * 1000000000⌋ =
      ⌊timePeriodSeconds * 10 ^ 9⌋ - ⌊timePeriodSeconds⌋ * 10 ^ 9 := by
    rw [← Int.floor_sub_intCast]
    congr 1
    push_cast
    ring
  have restNonnegative :
      0 ≤ ⌊(timePeriodSeconds - (⌊timePeriodSeconds⌋ : ℚ)) * 1000000000⌋ := by
    apply Int.floor_nonneg.mpr
    nlinarith
  have restSmall :
      ⌊(timePeriodSeconds - (⌊timePeriodSeconds⌋ : ℚ)) * 1000000000⌋ < 10 ^ 9 := by
    apply Int.floor_lt.mpr
    push_cast
    nlinarith
  rw [init, if_neg (not_lt.mpr nonnegative)] at armed
  obtain rfl := Except.ok.inj armed
  simp only [wholeRat]
  omega

end PeriodicEventSource

namespace KafkaPartition

/-- The timers that a partition arms, each with the interval that its
configuration gives for it. -/
inductive Arms : KafkaPartition → Int → PeriodicEventSource → Prop
  | init
      {p q : KafkaPartition}
      {surroundings : InitSurroundings} :
      p.init surroundings = .ok q →
      Arms p p.config.mRefreshIntervalMs q.mdTimerEvent
  | startFetch
      {p q : KafkaPartition}
      {eventFd timerFd : Int} :
      p.startFetch eventFd timerFd = .ok q →
      Arms p p.config.cAutoCommitIntervalMs q.ocTimerEvent
  | startProduce
      {p q : KafkaPartition}
      {eventFd queueFd timerFd : Int} :
      p.startProduce eventFd queueFd timerFd = .ok q →
      Arms p p.config.pMaxBatchWaitTimeMs q.pReqTimerEvent

/-- Every timer is armed with the whole seconds of its interval. -/
theorem Arms.armTimer
    {p : KafkaPartition}
    {periodMs : Int}
    {timer : PeriodicEventSource}
    (arms : Arms p periodMs timer) :
    ∃ fd, KafkaPartition.armTimer periodMs fd = .ok timer := by
  cases arms with
  | init returned =>
      have same := congrArg Identity.config (init_identity returned)
      obtain ⟨_, _, _, _, fourth, _, _, _, _, _, kept, armed, rfl⟩ :=
        init_steps returned
      have fourthSame : fourth.config = p.config :=
        (congrArg Identity.config kept.identity).symm.trans same
      rw [fourthSame] at armed
      exact ⟨_, armed⟩
  | startFetch returned =>
      obtain ⟨_, armed, woken⟩ := bind_eq_ok.mp returned
      obtain ⟨⟨_, _, _, _, rfl⟩, -⟩ := ConnectionOnly.wakeupFetchOfConsumer woken
      exact ⟨_, armed⟩
  | startProduce returned =>
      obtain ⟨_, armed, woken⟩ := bind_eq_ok.mp returned
      obtain ⟨produceMsgQEvent, -, finished⟩ := bind_eq_ok.mp woken
      obtain rfl := Except.ok.inj finished
      exact ⟨_, armed⟩

/-- What the kernel is told when a timer is armed. -/
theorem spec_armTimer
    {periodMs fd : Int}
    {timer : PeriodicEventSource}
    (armed : KafkaPartition.armTimer periodMs fd = .ok timer)
    (positive : 0 < periodMs) :
    timer.spec.itValue.tvNsec < 10 ^ 9 ∧
      (timer.spec.itValue.tvSec * 10 ^ 9 + timer.spec.itValue.tvNsec : Int) =
        periodMs / 1000 * 10 ^ 9 := by
  have whole : periodMs.tdiv 1000 = periodMs / 1000 :=
    Int.tdiv_eq_ediv_of_nonneg positive.le
  obtain ⟨split, exact⟩ := PeriodicEventSource.init_split armed
  refine ⟨split, exact.trans ?_⟩
  rw [whole]
  have integral : (((periodMs / 1000 : Int) : ℚ) * 10 ^ 9) =
      ((periodMs / 1000 * 10 ^ 9 : Int) : ℚ) := by
    push_cast
    rfl
  rw [integral, Int.floor_intCast]

/-- Every timer that a partition arms expires after the configured interval, and
again every time it has passed, if and only if the interval consists of whole
seconds. -/
theorem armed_iff_whole_seconds
    {p : KafkaPartition}
    {periodMs : Int}
    {timer : PeriodicEventSource}
    (arms : Arms p periodMs timer)
    (positive : 0 < periodMs) :
    timer.ArmedFor periodMs ↔ 1000 ∣ periodMs := by
  obtain ⟨fd, armed⟩ := arms.armTimer
  obtain ⟨split, whole⟩ := spec_armTimer armed positive
  constructor
  · intro armed
    have exact := armed.exact
    omega
  · intro divides
    have exact : periodMs / 1000 * 10 ^ 9 = periodMs * 10 ^ 6 := by omega
    refine ⟨rfl, split, whole.trans exact, ?_⟩
    intro disarmed
    rw [disarmed] at whole
    simp only [Nat.cast_zero] at whole
    omega

/-- The batch timer of a producer with the default configuration. -/
theorem armed_iff_whole_seconds_default :
    ∃ p disk q, sampleConstruct .producer {} = .ok (p, disk) ∧
      p.startProduce 7 8 9 = .ok q ∧ p.config.pMaxBatchWaitTimeMs = 5000 ∧
      q.pReqTimerEvent.ArmedFor 5000 := by
  obtain ⟨⟨p, disk⟩, constructed, checked⟩ := exists_ok_of_any
    (sampleConstruct .producer {})
    (fun constructed =>
      (constructed.1.startProduce 7 8 9).toOption.any fun _ =>
        constructed.1.config.pMaxBatchWaitTimeMs = 5000) (by decide +kernel)
  obtain ⟨q, started, interval⟩ := exists_ok_of_any _ _ checked
  have interval := of_decide_eq_true interval
  have armed := armed_iff_whole_seconds (.startProduce started)
  rw [interval] at armed
  exact ⟨p, disk, q, constructed, started, interval,
    (armed (by decide)).mpr (by decide)⟩

/-- A batch interval of half a second disarms the batch timer. -/
theorem half_second_disarms :
    ∃ p disk q,
      sampleConstruct .producer { pMaxBatchWaitTimeMs := 500 } = .ok (p, disk) ∧
      p.startProduce 7 8 9 = .ok q ∧ p.config.pMaxBatchWaitTimeMs = 500 ∧
      q.pReqTimerEvent.spec.itValue = ⟨0, 0⟩ ∧
      ¬ q.pReqTimerEvent.ArmedFor 500 := by
  obtain ⟨⟨p, disk⟩, constructed, checked⟩ := exists_ok_of_any
    (sampleConstruct .producer { pMaxBatchWaitTimeMs := 500 })
    (fun constructed =>
      (constructed.1.startProduce 7 8 9).toOption.any fun q =>
        constructed.1.config.pMaxBatchWaitTimeMs = 500 ∧
          q.pReqTimerEvent.spec.itValue = ⟨0, 0⟩) (by decide +kernel)
  obtain ⟨q, started, checked⟩ := exists_ok_of_any _ _ checked
  obtain ⟨interval, zero⟩ := of_decide_eq_true checked
  exact ⟨p, disk, q, constructed, started, interval, zero,
    fun armed => armed.running zero⟩

end KafkaPartition
end AsyncKafka
