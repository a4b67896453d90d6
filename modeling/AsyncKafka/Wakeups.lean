import AsyncKafka.Library.Execution
import AsyncKafka.Reactor

/-!
# Wakeups across initialisations

A wakeup event source may be initialised again while it is in use: the
constructor of a producer starts it, and so does the call that the
documentation asks for.  The source then has a new eventfd, and the old one
stays registered with the reactor together with what is pending on it.  The
handler reads the descriptor in use, whichever descriptor it is called for, so
no wakeup is lost, but what is pending on an old descriptor stays there and
the reactor reports it for ever.
-/

namespace AsyncKafka

open Execution

namespace WakeupEventSource

/-- The kernel's counter of an eventfd. -/
def counter (source : WakeupEventSource) (fd : Int) : Nat :=
  (source.eventfds.lookup fd).getD 0

/-- What is pending on all eventfds together. -/
def total (source : WakeupEventSource) : Nat :=
  (source.eventfds.map Prod.snd).sum

/-- The kernel has never returned a descriptor that is still open. -/
def Distinct (source : WakeupEventSource) : Prop :=
  (source.eventfds.map Prod.fst).Nodup

theorem setCounter_fds (source : WakeupEventSource) (count : Nat) :
    (source.setCounter count).eventfds.map Prod.fst =
      source.eventfds.map Prod.fst := by
  simp only [setCounter, List.map_map]
  apply List.map_congr_left
  intro entry _
  simp only [Function.comp_apply]
  split <;> rfl

/-- Setting a counter to which nothing belongs changes nothing. -/
theorem setCounter_absent
    {eventfds : List (Int × Nat)}
    {fd : Int}
    (absent : fd ∉ eventfds.map Prod.fst)
    (count : Nat) :
    (setCounter ⟨fd, eventfds⟩ count).eventfds = eventfds := by
  simp only [setCounter]
  conv_rhs => rw [← List.map_id eventfds]
  apply List.map_congr_left
  intro entry member
  rw [if_neg]
  · rfl
  · rintro rfl
    exact absent (List.mem_map_of_mem member)

/-- Setting the counter of the descriptor in use changes the total by as much
as the counter. -/
theorem total_setCounter
    {source : WakeupEventSource}
    (distinct : source.Distinct)
    (opened : source.isOpen = true)
    (count : Nat) :
    (source.setCounter count).total + source.pending = source.total + count := by
  obtain ⟨wakeupFd, eventfds⟩ := source
  unfold Distinct at distinct
  unfold isOpen at opened
  simp only at distinct opened
  induction eventfds with
  | nil => simp at opened
  | cons entry eventfds inductionHypothesis =>
      obtain ⟨fd, pending⟩ := entry
      obtain ⟨absent, later⟩ := List.nodup_cons.mp distinct
      by_cases inUse : fd = wakeupFd
      · subst inUse
        have rest := setCounter_absent absent count
        simp only [setCounter] at rest
        simp [total, WakeupEventSource.pending, setCounter, rest]
        omega
      · have other : (wakeupFd == fd) = false :=
          beq_eq_false_iff_ne.mpr (Ne.symm inUse)
        rw [List.lookup_cons, other] at opened
        have rest := inductionHypothesis later opened
        simp only [total, WakeupEventSource.pending, setCounter, List.map_cons,
          if_neg inUse, List.sum_cons, List.lookup_cons, other] at rest ⊢
        omega

end WakeupEventSource

/-- A wakeup event source in use, with the number of `wakeup` calls and the
numbers its callback was called with. -/
structure WakeupHistory where
  source : WakeupEventSource := {}
  wakeups : Nat := 0
  numWakeups : List Nat := []
  deriving DecidableEq, Repr

namespace WakeupHistory

/-- What can happen to a wakeup event source. -/
inductive Event
  /-- `init`, for which the kernel has returned a descriptor, and the
  registration of that descriptor. -/
  | init (fd : Int)
  | wakeup
  /-- The reactor reports a descriptor as readable. -/
  | dispatch (fd : Int)
  deriving DecidableEq, Repr

def step (history : WakeupHistory) : Event → Except Halt WakeupHistory
  | .init fd => .ok { history with source := history.source.init fd }
  | .wakeup => do
      let source ← history.source.wakeup
      return { history with source, wakeups := history.wakeups + 1 }
  -- The handler makes no use of the descriptor it is called for.
  | .dispatch _ =>
      match history.source.handleEvent with
      | (none, source) => .ok { history with source }
      | (some numWakeups, source) =>
          .ok { history with
            source, numWakeups := history.numWakeups ++ [numWakeups] }

/-- The kernel returns descriptors that are not open, and the reactor reports
descriptors on which something is pending. -/
def Possible (history : WakeupHistory) : Event → Prop
  | .init fd => fd ∉ history.source.eventfds.map Prod.fst
  | .wakeup => True
  | .dispatch fd => 0 < history.source.counter fd

instance (history : WakeupHistory) :
    (event : Event) → Decidable (history.Possible event)
  | .init fd =>
      inferInstanceAs (Decidable (fd ∉ history.source.eventfds.map Prod.fst))
  | .wakeup => inferInstanceAs (Decidable True)
  | .dispatch fd => inferInstanceAs (Decidable (0 < history.source.counter fd))

/-- Every wakeup was passed to the callback or is pending on some eventfd. -/
def Conserved (history : WakeupHistory) : Prop :=
  history.numWakeups.sum + history.source.total = history.wakeups

/-- The invariant of all histories. -/
def Accounted (history : WakeupHistory) : Prop :=
  history.source.Distinct ∧ history.Conserved

theorem Accounted.init
    {history : WakeupHistory}
    {fd : Int}
    (accounted : history.Accounted)
    (unused : fd ∉ history.source.eventfds.map Prod.fst) :
    Accounted { history with source := history.source.init fd } := by
  obtain ⟨distinct, conserved⟩ := accounted
  refine ⟨List.nodup_cons.mpr ⟨unused, distinct⟩, ?_⟩
  simpa [Conserved, WakeupEventSource.total, WakeupEventSource.init] using
    conserved

/-- Changing the counter in use keeps the account when the numbers passed on
or the wakeups change by as much. -/
theorem Accounted.setCounter
    {history : WakeupHistory}
    {count wakeups : Nat}
    {numWakeups : List Nat}
    (accounted : history.Accounted)
    (opened : history.source.isOpen = true)
    (balance : numWakeups.sum + count + history.wakeups =
      history.numWakeups.sum + history.source.pending + wakeups) :
    Accounted ⟨history.source.setCounter count, wakeups, numWakeups⟩ := by
  obtain ⟨distinct, conserved⟩ := accounted
  constructor
  · rw [WakeupEventSource.Distinct, WakeupEventSource.setCounter_fds]
    exact distinct
  · have total := WakeupEventSource.total_setCounter distinct opened count
    unfold Conserved at conserved ⊢
    dsimp only at *
    omega

/-- What a dispatch does: it takes what is pending on the descriptor in use. -/
theorem step_dispatch
    (history : WakeupHistory)
    (fd : Int) :
    history.step (.dispatch fd) = .ok
      (if history.source.pending = 0 then history
        else ⟨history.source.setCounter 0, history.wakeups,
          history.numWakeups ++ [history.source.pending]⟩) := by
  simp only [step, WakeupEventSource.handleEvent_eq]
  by_cases idle : history.source.pending = 0 <;> simp [idle]

theorem Accounted.step
    {history next : WakeupHistory}
    {event : Event}
    (accounted : history.Accounted)
    (possible : history.Possible event)
    (stepped : history.step event = .ok next) :
    next.Accounted := by
  cases event with
  | init fd =>
      obtain rfl := Except.ok.inj stepped
      exact accounted.init possible
  | wakeup =>
      obtain ⟨source, woken, returned⟩ := bind_eq_ok.mp stepped
      obtain rfl := Except.ok.inj returned
      obtain ⟨opened, rfl⟩ := WakeupEventSource.wakeup_eq_ok.mp woken
      apply accounted.setCounter opened
      omega
  | dispatch fd =>
      rw [step_dispatch] at stepped
      obtain rfl := Except.ok.inj stepped
      split
      · exact accounted
      · rename_i waiting
        apply accounted.setCounter
          (WakeupEventSource.isOpen_of_pending (by omega))
        simp only [List.sum_append, List.sum_singleton, Nat.add_zero]

/-- A dispatch leaves the counter of its descriptor at zero exactly when that
is the descriptor in use. -/
theorem drained_iff
    {history next : WakeupHistory}
    {fd : Int}
    (possible : history.Possible (.dispatch fd))
    (stepped : history.step (.dispatch fd) = .ok next) :
    next.source.counter fd = 0 ↔ fd = history.source.wakeupFd := by
  rw [step_dispatch] at stepped
  obtain rfl := Except.ok.inj stepped
  change 0 < history.source.counter fd at possible
  by_cases inUse : fd = history.source.wakeupFd
  · subst inUse
    have waiting : history.source.pending ≠ 0 := Nat.pos_iff_ne_zero.mp possible
    have drained := WakeupEventSource.pending_setCounter
      (WakeupEventSource.isOpen_of_pending possible) 0
    rw [if_neg waiting]
    exact iff_of_true drained rfl
  · have kept : history.source.counter fd ≠ 0 := Nat.pos_iff_ne_zero.mp possible
    refine iff_of_false ?_ inUse
    split
    · exact kept
    · rw [WakeupEventSource.counter, WakeupEventSource.lookup_setCounter,
        if_neg inUse]
      exact kept

/-- In every history all wakeups are accounted for, and a dispatch drains its
descriptor exactly when that is the one of the last initialisation. -/
theorem wakeups_conserved_and_drained_iff
    {events : List Event}
    {history : WakeupHistory}
    (run : Run step Possible {} events history) :
    history.Conserved ∧
      ∀ fd next, history.Possible (.dispatch fd) →
        history.step (.dispatch fd) = .ok next →
        (next.source.counter fd = 0 ↔ fd = history.source.wakeupFd) := by
  have accounted : history.Accounted := by
    apply run.invariant (fun _ history => history.Accounted)
    · exact ⟨List.nodup_nil, rfl⟩
    · intro _ state event next before possible stepped
      exact before.step possible stepped
  exact ⟨accounted.2, fun fd next => drained_iff⟩

/-- Two wakeups reach the callback in one call. -/
theorem wakeups_conserved_and_drained_iff_once :
    ∃ history next,
      Run step Possible {} [.init 7, .wakeup, .wakeup] history ∧
      history.step (.dispatch 7) = .ok next ∧
      next.numWakeups = [2] ∧ next.source.counter 7 = 0 := by
  obtain ⟨history, run, checked⟩ := exists_run_of_follow step Possible {}
    [.init 7, .wakeup, .wakeup]
    (fun history => decide (history =
      ⟨⟨7, [(7, 2)]⟩, 2, []⟩)) (by decide)
  obtain rfl := of_decide_eq_true checked
  refine ⟨_, ⟨⟨7, [(7, 0)]⟩, 2, [2]⟩, run, rfl, rfl, ?_⟩
  exact ((wakeups_conserved_and_drained_iff run).2 7 _ (by decide) rfl).mpr rfl

/-- The source is initialised again while a wakeup is pending.  The reactor
reports the old descriptor, and after the dispatch it is as readable as
before. -/
theorem undrained_after_second_init :
    ∃ history next,
      Run step Possible {} [.init 7, .wakeup, .init 8] history ∧
      history.Possible (.dispatch 7) ∧
      history.step (.dispatch 7) = .ok next ∧
      next.source.counter 7 = 1 := by
  obtain ⟨history, run, checked⟩ := exists_run_of_follow step Possible {}
    [.init 7, .wakeup, .init 8]
    (fun history => decide (history =
      ⟨⟨8, [(8, 0), (7, 1)]⟩, 1, []⟩)) (by decide)
  obtain rfl := of_decide_eq_true checked
  exact ⟨_, _, run, by decide, rfl, rfl⟩

end WakeupHistory
end AsyncKafka
