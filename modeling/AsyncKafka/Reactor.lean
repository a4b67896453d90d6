import AsyncKafka.Wire.Primitives
import Mathlib.Data.Rat.Floor

/-!
# Event sources and the reactor

The libevent reactor that dispatches descriptor events, and the two kinds of
event sources that the client registers with it besides its sockets: wakeup
events over eventfds and periodic events over timerfds.  Descriptor numbers
come from the kernel and are arguments of the operations that obtain them.
-/

namespace AsyncKafka

/-- The object whose callback an event carries. -/
inductive EventData
  | socket
  | produceEvent
  | produceMsgQEvent
  | fetchEvent
  | mdTimerEvent
  | ocTimerEvent
  | pReqTimerEvent
  deriving DecidableEq, Repr

/-- The two event flags the client uses. -/
structure EventFlags where
  aeventIn : Bool
  aeventOut : Bool
  deriving DecidableEq, Repr

/-- An event object of libevent.  `id` tells apart the objects that
`event_new` has returned.  The event data is passed on and never looked at. -/
structure LibEvent (δ : Type := EventData) where
  id : Nat
  fd : Int
  evRead : Bool
  evWrite : Bool
  evPersist : Bool
  eventData : δ
  deriving DecidableEq, Repr

/-- The reactor together with what libevent holds for it. -/
structure LibeventReactor (δ : Type := EventData) where
  /-- Whether the event base is set. -/
  base : Bool := true
  /-- The table `m_events`. -/
  events : List (Int × LibEvent δ) := []
  /-- The events created and not yet freed. -/
  live : List (LibEvent δ) := []
  /-- The number of events created so far. -/
  created : Nat := 0
  deriving DecidableEq, Repr

namespace LibeventReactor

/-- Free the event the table holds for a descriptor and drop its entry. -/
def unregisterFdCallback
    (reactor : LibeventReactor δ)
    (fd : Int) : LibeventReactor δ :=
  { reactor with
    live := match reactor.events.lookup fd with
      | none => reactor.live
      | some event => reactor.live.filter fun other => other.id != event.id
    events := reactor.events.filter fun entry => entry.1 != fd }

/-- `std::map::insert`, which keeps an entry that is already there. -/
def insertEvent
    (events : List (Int × LibEvent δ))
    (fd : Int)
    (event : LibEvent δ) : List (Int × LibEvent δ) :=
  match events.lookup fd with
  | none => events ++ [(fd, event)]
  | some _ => events

/-- Create an event for a descriptor and enter it in the table. -/
def registerFdCallback
    (reactor : LibeventReactor δ)
    (fd : Int)
    (eventData : δ)
    (eventFlags : EventFlags)
    (oneshot modify : Bool) : LibeventReactor δ :=
  if reactor.base then
    let reactor := if modify then reactor.unregisterFdCallback fd else reactor
    let event : LibEvent δ :=
      { id := reactor.created
        fd
        evRead := eventFlags.aeventIn
        evWrite := eventFlags.aeventOut
        evPersist := !oneshot
        eventData }
    { reactor with
      live := reactor.live ++ [event]
      created := reactor.created + 1
      events := insertEvent reactor.events fd event }
  else reactor

end LibeventReactor

/-- A wakeup event source with the kernel's counters of the eventfds that it
has created. -/
structure WakeupEventSource where
  /-- The descriptor, `-1` before `init`. -/
  wakeupFd : Int := -1
  /-- The eventfds created so far with their counters. -/
  eventfds : List (Int × Nat) := []
  deriving DecidableEq, Repr

namespace WakeupEventSource

/-- Create an eventfd; the kernel has returned `fd`. -/
def init (source : WakeupEventSource) (fd : Int) : WakeupEventSource :=
  { wakeupFd := fd, eventfds := (fd, 0) :: source.eventfds }

/-- The counter of the descriptor in use. -/
def pending (source : WakeupEventSource) : Nat :=
  (source.eventfds.lookup source.wakeupFd).getD 0

/-- Set the counter of the descriptor in use. -/
def setCounter (source : WakeupEventSource) (count : Nat) : WakeupEventSource :=
  { source with
    eventfds := source.eventfds.map fun entry =>
      if entry.1 = source.wakeupFd then (entry.1, count) else entry }

/-- Add one to the counter.  Writing to a descriptor that is not open fails,
which the assertion does not allow. -/
def wakeup (source : WakeupEventSource) : Except Halt WakeupEventSource :=
  match source.eventfds.lookup source.wakeupFd with
  | none => .error .assertionFailed
  | some count => .ok (source.setCounter (count + 1))

/-- Read and reset the counter of the descriptor in use.  The result is the
number of wakeups for the callback, or none when nothing was pending. -/
def handleEvent (source : WakeupEventSource) :
    Option Nat × WakeupEventSource :=
  match source.pending with
  | 0 => (none, source)
  | count + 1 => (some (count + 1), source.setCounter 0)

/-- The descriptor in use is open, so that it can be written to. -/
def isOpen (source : WakeupEventSource) : Bool :=
  (source.eventfds.lookup source.wakeupFd).isSome

theorem isOpen_init (source : WakeupEventSource) (fd : Int) :
    (source.init fd).isOpen = true := by
  simp [isOpen, init]

/-- Setting the counter of the descriptor in use changes no other counter. -/
theorem lookup_setCounter
    (source : WakeupEventSource)
    (count : Nat)
    (fd : Int) :
    (source.setCounter count).eventfds.lookup fd =
      if fd = source.wakeupFd then
        (source.eventfds.lookup fd).map fun _ => count
      else source.eventfds.lookup fd := by
  obtain ⟨wakeupFd, eventfds⟩ := source
  simp only [setCounter]
  induction eventfds with
  | nil => simp
  | cons entry eventfds inductionHypothesis =>
      obtain ⟨created, counter⟩ := entry
      by_cases found : fd = created
      · subst found
        by_cases inUse : fd = wakeupFd <;> simp [inUse]
      · have other : (fd == created) = false := beq_eq_false_iff_ne.mpr found
        by_cases inUse : created = wakeupFd
        · simp only [List.map_cons, if_pos inUse, List.lookup_cons, other,
            inductionHypothesis]
        · simp only [List.map_cons, if_neg inUse, List.lookup_cons, other,
            inductionHypothesis]

/-- Setting a counter closes no descriptor. -/
theorem isOpen_setCounter (source : WakeupEventSource) (count : Nat) :
    (source.setCounter count).isOpen = source.isOpen := by
  change ((source.setCounter count).eventfds.lookup source.wakeupFd).isSome =
    source.isOpen
  rw [lookup_setCounter, if_pos rfl, Option.isSome_map]
  rfl

/-- The counter of an open descriptor can be set. -/
theorem pending_setCounter
    {source : WakeupEventSource}
    (opened : source.isOpen = true)
    (count : Nat) :
    (source.setCounter count).pending = count := by
  obtain ⟨before, found⟩ := Option.isSome_iff_exists.mp opened
  change ((source.setCounter count).eventfds.lookup source.wakeupFd).getD 0 =
    count
  rw [lookup_setCounter, if_pos rfl, found]
  rfl

/-- A wakeup succeeds exactly on an open descriptor, and adds one. -/
theorem wakeup_eq_ok
    {source next : WakeupEventSource} :
    source.wakeup = .ok next ↔
      source.isOpen = true ∧ next = source.setCounter (source.pending + 1) := by
  unfold wakeup isOpen pending
  cases source.eventfds.lookup source.wakeupFd with
  | none => simp
  | some count => simp [eq_comm]

/-- A wakeup fails in one way only. -/
theorem wakeup_error
    {source : WakeupEventSource}
    {halt : Halt}
    (failed : source.wakeup = .error halt) :
    halt = .assertionFailed := by
  unfold wakeup at failed
  split at failed
  · exact (Except.error.inj failed).symm
  · cases failed

/-- What is pending is pending on an open descriptor. -/
theorem isOpen_of_pending
    {source : WakeupEventSource}
    (waiting : 0 < source.pending) :
    source.isOpen = true := by
  unfold pending at waiting
  unfold isOpen
  cases found : source.eventfds.lookup source.wakeupFd with
  | none => simp [found] at waiting
  | some count => rfl

/-- Handling an event reads the counter of the descriptor in use and leaves it
at zero. -/
theorem handleEvent_eq (source : WakeupEventSource) :
    source.handleEvent =
      if source.pending = 0 then (none, source)
      else (some source.pending, source.setCounter 0) := by
  unfold handleEvent
  cases source.pending <;> simp

end WakeupEventSource

/-- A periodic event source with the interval its timer is armed with. -/
structure PeriodicEventSource where
  timerFd : Int := -1
  seconds : Nat := 0
  nanoseconds : Nat := 0
  deriving DecidableEq, Repr

namespace PeriodicEventSource

/-- Arm a timer; the kernel has returned `fd`.  The period is split into whole
seconds and nanoseconds, which are unsigned: the language does not define the
conversion of a negative period.  As it is compiled, `timerfd_settime` refuses
what comes out and the assertion on its result fails. -/
def init (timePeriodSeconds : ℚ) (fd : Int) : Except Halt PeriodicEventSource :=
  if timePeriodSeconds < 0 then .error .undefinedBehaviour
  else
    let seconds := ⌊timePeriodSeconds⌋.toNat
    .ok
      { timerFd := fd
        seconds
        nanoseconds := ⌊(timePeriodSeconds - seconds) * 1000000000⌋.toNat }

/-- A timer is armed with any period but a negative one, and its descriptor is the
one that the kernel returned. -/
theorem init_eq_ok
    {timePeriodSeconds : ℚ}
    {fd : Int}
    {source : PeriodicEventSource}
    (armed : init timePeriodSeconds fd = .ok source) :
    0 ≤ timePeriodSeconds ∧ source.timerFd = fd := by
  unfold init at armed
  split at armed
  · cases armed
  · obtain rfl := Except.ok.inj armed
    exact ⟨not_lt.mp (by assumption), rfl⟩

theorem exists_init
    {timePeriodSeconds : ℚ}
    (nonnegative : 0 ≤ timePeriodSeconds)
    (fd : Int) :
    ∃ source, init timePeriodSeconds fd = .ok source :=
  ⟨_, if_neg (not_lt.mpr nonnegative)⟩

end PeriodicEventSource

/-- A time as the kernel takes it. -/
structure Timespec where
  tvSec : Nat
  tvNsec : Nat
  deriving DecidableEq, Repr

/-- The argument of `timerfd_settime`: the time of the first expiration, where
zero disarms the timer, and the time between expirations. -/
structure Itimerspec where
  itInterval : Timespec
  itValue : Timespec
  deriving DecidableEq, Repr

/-- The argument with which `init` sets the timer. -/
def PeriodicEventSource.spec (source : PeriodicEventSource) : Itimerspec :=
  { itInterval := ⟨source.seconds, source.nanoseconds⟩
    itValue := ⟨source.seconds, source.nanoseconds⟩ }

end AsyncKafka
