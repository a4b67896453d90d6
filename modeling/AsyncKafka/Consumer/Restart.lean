import AsyncKafka.Consumer.OffsetStore
import AsyncKafka.Consumer.StartPolicy

/-!
# Restarts

A process that has committed and died is followed by one that starts from the
stored offset.  The commit writes the offset of the last message delivered, and
the start reads it as the next one to fetch, so that message is delivered again
unless the log has moved on just so far that it is gone.
-/

namespace AsyncKafka

open Wire Execution LogReader Broker KafkaPartition

namespace OffsetStore

/-- The constructor first finds the file and then goes through `init`.  Under
the policy of the stored offset it takes the offset of a file that exists. -/
theorem construct_fromStored
    {store : OffsetStore}
    {brokers : List KafkaBroker}
    {leader : KafkaBroker}
    {config : KafkaClientConfig}
    {disk disk' : Disk}
    {surroundings : InitSurroundings}
    {q : KafkaPartition}
    (sameDirectories : disk.isDirectory = store.isDirectory)
    (fits : store.Fits config)
    (policy : config.cStartOffset = .fromStored)
    (returned : construct .consumer store.topic store.partition brokers leader
      config disk surroundings = .ok (q, disk')) :
    ∃ offset,
      ((Host.newcomer store brokers leader config).positioned store.fileName
        offset).init surroundings = .ok q ∧
      (disk.files store.fileName = none → offset = 0) ∧
      ∀ contents, disk.files store.fileName = some contents →
        storedOffset contents = .ok offset := by
  unfold construct at returned
  obtain ⟨⟨positioned, positionedDisk⟩, located, returned⟩ :=
    bind_eq_ok.mp returned
  obtain ⟨initialised, initOk, returned⟩ := bind_eq_ok.mp returned
  obtain ⟨rfl, -⟩ := Prod.mk.inj (Except.ok.inj returned)
  have named := Host.newcomer_fileName sameDirectories fits brokers leader
  have found : (Host.newcomer store brokers leader config).getKafkaOffset disk =
      .ok (positioned, positionedDisk) := located
  cases contents : disk.files store.fileName with
  | none =>
      rw [getKafkaOffset_missing named contents] at found
      obtain ⟨rfl, -⟩ := Prod.mk.inj (Except.ok.inj found)
      exact ⟨0, initOk, fun _ => rfl, by simp⟩
  | some text =>
      have fromStored : (Host.newcomer store brokers leader
        config).config.cStartOffset = .fromStored := policy
      rw [getKafkaOffset_found named contents, if_pos fromStored] at found
      cases stored : storedOffset text with
      | error halt =>
          rw [stored] at found
          cases found
      | ok offset =>
          rw [stored] at found
          obtain ⟨rfl, -⟩ := Prod.mk.inj (Except.ok.inj found)
          refine ⟨offset, initOk, by simp, ?_⟩
          intro other same
          rw [← Option.some.inj same]
          exact stored

/-- A consumer that starts from the stored offset, with its initial exchanges
answered from a log that begins at an offset. -/
def StartsFrom
    (store : OffsetStore)
    (disk : Disk)
    (earliest : Int)
    (start : KafkaPartition) : Prop :=
  ∃ brokers leader config surroundings constructed disk' eventFd timerFd,
    store.Fits config ∧ config.cStartOffset = .fromStored ∧
    AnswersMetadata surroundings.metadataRead ∧
    surroundings.offsetRead =
      .payload (offsetResponse store.topic store.partition 0 [earliest]) ∧
    construct .consumer store.topic store.partition brokers leader config disk
      surroundings = .ok (constructed, disk') ∧
    { constructed with onReceivedData := true }.startFetch eventFd timerFd =
      .ok start

/-- The next offset of a new consumer is the stored one, moved up to the
beginning of the log. -/
theorem construct_nextFetchOffset
    {store : OffsetStore}
    {brokers : List KafkaBroker}
    {leader : KafkaBroker}
    {config : KafkaClientConfig}
    {disk disk' : Disk}
    {surroundings : InitSurroundings}
    {earliest : Int}
    {q : KafkaPartition}
    (valid : ValidPartition store.topic store.partition 0)
    (lower : -(2 ^ 63) ≤ earliest)
    (upper : earliest < 2 ^ 63)
    (sameDirectories : disk.isDirectory = store.isDirectory)
    (fits : store.Fits config)
    (policy : config.cStartOffset = .fromStored)
    (metadata : AnswersMetadata surroundings.metadataRead)
    (offsetRead : surroundings.offsetRead =
      .payload (offsetResponse store.topic store.partition 0 [earliest]))
    (returned : construct .consumer store.topic store.partition brokers leader
      config disk surroundings = .ok (q, disk')) :
    ∃ offset, q.nextFetchOffset = max offset earliest ∧
      q.storedOffsetFileName = store.fileName ∧ OffsetInRange q ∧
      ∀ contents, disk.files store.fileName = some contents →
        storedOffset contents = .ok offset := by
  obtain ⟨offset, initOk, created, stored⟩ :=
    construct_fromStored sameDirectories fits policy returned
  have position := init_nextFetchOffset
    (p := (Host.newcomer store brokers leader config).positioned store.fileName
      offset) valid lower upper metadata offsetRead initOk
  have fromStored : ((Host.newcomer store brokers leader config).positioned
      store.fileName offset).config.cStartOffset = .fromStored := policy
  rw [fromStored] at position
  have inRange : -(2 ^ 63) ≤ offset ∧ offset < 2 ^ 63 := by
    cases contents : disk.files store.fileName with
    | none =>
        rw [created contents]
        decide
    | some text => exact storedOffset_inRange (stored text contents)
  obtain ⟨named, kept⟩ := Host.init_sound inRange
    (show q ∈ (Except.toOption _) by rw [initOk]; rfl)
  exact ⟨offset, position, named, kept, stored⟩

/-- A commit at an offset leaves its predecessor for the next construction. -/
theorem construct_after_commit
    {store : OffsetStore}
    {p q : KafkaPartition}
    {brokers : List KafkaBroker}
    {leader : KafkaBroker}
    {config : KafkaClientConfig}
    {disk disk' : Disk}
    {surroundings : InitSurroundings}
    {earliest : Int}
    (valid : ValidPartition store.topic store.partition 0)
    (lower : -(2 ^ 63) ≤ earliest)
    (upper : earliest < 2 ^ 63)
    (sameDirectories : disk.isDirectory = store.isDirectory)
    (named : p.storedOffsetFileName = store.fileName)
    (inRange : OffsetInRange p)
    (delivered : 1 ≤ p.nextFetchOffset)
    (fits : store.Fits config)
    (policy : config.cStartOffset = .fromStored)
    (metadata : AnswersMetadata surroundings.metadataRead)
    (offsetRead : surroundings.offsetRead =
      .payload (offsetResponse store.topic store.partition 0 [earliest]))
    (returned : construct .consumer store.topic store.partition brokers leader
      config (p.commitKafkaOffset disk) surroundings = .ok (q, disk')) :
    q.nextFetchOffset = max (p.nextFetchOffset - 1) earliest := by
  have committed := files_commitKafkaOffset delivered inRange disk
  rw [named] at committed
  obtain ⟨offset, position, -, -, stored⟩ := construct_nextFetchOffset valid
    lower upper ((isDirectory_commitKafkaOffset p disk).trans sameDirectories)
    fits policy metadata offsetRead returned
  have read := stored _ committed
  have upper := inRange.2
  rw [storedOffset_ofNat (by omega)] at read
  have value : ((p.nextFetchOffset - 1).toNat : Int) = offset :=
    Except.ok.inj read
  rw [position]
  omega

/-- Lives of a consumer, each of which starts from the stored offset, runs
against a broker that serves from its log, and commits before it dies.  The
indices are the disk that is left, all that was delivered, and the next offset
at the last commit; `admits` relates the beginning of the log at a restart to
the offset of the commit before it. -/
inductive Lives
    (store : OffsetStore)
    (crc32 : Bytes → UInt32)
    (log : Int → Bytes)
    (admits : Int → Int → Prop)
    (origin : Int) : Disk → List Bytes → Int → Prop
  | first
      {disk disk' : Disk}
      {earliest : Int}
      {start p : KafkaPartition}
      {history : List Event} :
      disk.isDirectory = store.isDirectory →
      disk'.isDirectory = store.isDirectory →
      0 ≤ earliest → earliest < 2 ^ 63 →
      StartsFrom store disk earliest start →
      start.nextFetchOffset = origin →
      Run (step crc32) (BrokerServes log earliest) start history p →
      1 ≤ p.nextFetchOffset →
      Lives store crc32 log admits origin (p.commitKafkaOffset disk')
        p.delivered p.nextFetchOffset
  | restart
      {disk disk' : Disk}
      {delivered : List Bytes}
      {reached earliest : Int}
      {start p : KafkaPartition}
      {history : List Event} :
      Lives store crc32 log admits origin disk delivered reached →
      admits earliest reached →
      disk'.isDirectory = store.isDirectory →
      0 ≤ earliest → earliest < 2 ^ 63 →
      StartsFrom store disk earliest start →
      Run (step crc32) (BrokerServes log earliest) start history p →
      1 ≤ p.nextFetchOffset →
      Lives store crc32 log admits origin (p.commitKafkaOffset disk')
        (delivered ++ p.delivered) p.nextFetchOffset

/-- What one life does: it delivers the log from its start on, and its commit
leaves the predecessor of its next offset. -/
theorem life_spec
    {store : OffsetStore}
    {crc32 : Bytes → UInt32}
    {log : Int → Bytes}
    {earliest : Int}
    {disk : Disk}
    {start p : KafkaPartition}
    {history : List Event}
    (valid : ValidPartition store.topic store.partition 0)
    (nonempty : ∀ offset, log offset ≠ [])
    (sameDirectories : disk.isDirectory = store.isDirectory)
    (nonnegative : 0 ≤ earliest)
    (bounded : earliest < 2 ^ 63)
    (starts : StartsFrom store disk earliest start)
    (run : Run (step crc32) (BrokerServes log earliest) start history p) :
    (∃ offset, start.nextFetchOffset = max offset earliest ∧
      ∀ contents, disk.files store.fileName = some contents →
        storedOffset contents = .ok offset) ∧
    Advance log start.nextFetchOffset p.delivered p.nextFetchOffset ∧
    p.storedOffsetFileName = store.fileName ∧ OffsetInRange p := by
  obtain ⟨brokers, leader, config, surroundings, constructed, disk', eventFd,
    timerFd, fits, policy, metadata, offsetRead, constructedOk, startedOk⟩ :=
    starts
  obtain ⟨offset, position, named, inRange, stored⟩ :=
    construct_nextFetchOffset valid (by omega) bounded sameDirectories fits
      policy metadata offsetRead constructedOk
  have kept := startFetch_bookkeeping startedOk
  have startPosition : start.nextFetchOffset = max offset earliest :=
    kept.nextFetchOffset.trans position
  have started : StartedConsumer start :=
    ⟨_, _, _, _, _, _, _, _, _, _, _, constructedOk, startedOk⟩
  have sameConfig : start.config = config :=
    (congrArg Identity.config kept.identity).trans
      (construct_fresh constructedOk).2.2.1
  have startPolicy : start.config.cStartOffset ≠ .fromEnd := by
    rw [sameConfig, policy]
    decide
  have fetching := started.fetching startPolicy
    (show earliest ≤ start.nextFetchOffset by omega)
  obtain ⟨-, output, emitted, advance⟩ := fetching.run nonempty run
  rw [started.fresh.1.delivered, List.nil_append] at emitted
  rw [← emitted] at advance
  refine ⟨⟨offset, startPosition, stored⟩, advance, ?_, ?_⟩
  · exact (congrArg Identity.storedOffsetFileName (run_identity run)).trans
      ((congrArg Identity.storedOffsetFileName kept.identity).trans named)
  · exact run_offsetInRange (kept.offsetInRange inRange) run

/-- As long as the log begins just at the offset of each commit, the lives
together deliver one segment of the log. -/
theorem Lives.deliver_segment
    {store : OffsetStore}
    {crc32 : Bytes → UInt32}
    {log : Int → Bytes}
    {origin reached : Int}
    {disk : Disk}
    {delivered : List Bytes}
    (valid : ValidPartition store.topic store.partition 0)
    (nonempty : ∀ offset, log offset ≠ [])
    (lives : Lives store crc32 log (fun earliest reached => earliest = reached)
      origin disk delivered reached) :
    Advance log origin delivered reached ∧
      disk.isDirectory = store.isDirectory ∧ reached < 2 ^ 63 ∧
      disk.files store.fileName = some (Decimal.ofNat (reached - 1).toNat) := by
  induction lives with
  | @first _ disk' _ _ p _ sameDirectories sameLater nonnegative bounded starts
      isOrigin run positive =>
      obtain ⟨-, advance, named, inRange⟩ := life_spec valid nonempty
        sameDirectories nonnegative bounded starts run
      have committed := files_commitKafkaOffset positive inRange disk'
      rw [isOrigin] at advance
      rw [named] at committed
      exact ⟨advance, (isDirectory_commitKafkaOffset p disk').trans sameLater,
        inRange.2, committed⟩
  | @restart _ disk' _ reached _ _ p _ _ resumed sameLater nonnegative bounded
      starts run positive inductionHypothesis =>
      obtain ⟨before, sameDirectories, fits, written⟩ := inductionHypothesis
      obtain ⟨⟨offset, position, stored⟩, advance, named, inRange⟩ := life_spec
        valid nonempty sameDirectories nonnegative bounded starts run
      have committed := files_commitKafkaOffset positive inRange disk'
      rw [named] at committed
      have read := stored _ written
      rw [storedOffset_ofNat (by omega)] at read
      have value : ((reached - 1).toNat : Int) = offset := Except.ok.inj read
      -- The stored offset lies below the beginning of the log.
      have resumes : max offset reached = reached := by omega
      rw [position, resumed, resumes] at advance
      exact ⟨before.trans advance,
        (isDirectory_commitKafkaOffset p disk').trans sameLater, inRange.2,
        committed⟩

/-- A restart resumes at the offset of the commit exactly when the log begins
there; and as long as it does so at every restart, any number of lives deliver
each message once and in order. -/
theorem restart_resumes_iff
    {store : OffsetStore}
    (valid : ValidPartition store.topic store.partition 0) :
    (∀ p q brokers leader config disk disk' surroundings earliest,
      disk.isDirectory = store.isDirectory →
      p.storedOffsetFileName = store.fileName → OffsetInRange p →
      1 ≤ p.nextFetchOffset → store.Fits config →
      config.cStartOffset = .fromStored → 0 ≤ earliest →
      earliest ≤ p.nextFetchOffset →
      AnswersMetadata surroundings.metadataRead →
      surroundings.offsetRead =
        .payload (offsetResponse store.topic store.partition 0 [earliest]) →
      construct .consumer store.topic store.partition brokers leader config
        (p.commitKafkaOffset disk) surroundings = .ok (q, disk') →
      (q.nextFetchOffset = p.nextFetchOffset ↔ earliest = p.nextFetchOffset)) ∧
    ∀ crc32 log origin disk delivered reached,
      (∀ offset, log offset ≠ []) →
      Lives store crc32 log (fun earliest reached => earliest = reached) origin
        disk delivered reached →
      delivered = segment log origin reached := by
  constructor
  · intro p q brokers leader config disk disk' surroundings earliest
      sameDirectories named inRange positive fits policy nonnegative within
      metadata offsetRead returned
    have position := construct_after_commit valid (by omega)
      (lt_of_le_of_lt within inRange.2) sameDirectories named inRange positive
      fits policy metadata offsetRead returned
    rw [position]
    omega
  · intro crc32 log origin disk delivered reached nonempty lives
    exact (lives.deliver_segment valid nonempty).1.2

/-- The start of the sample consumer on a disk, with a log that begins at an
offset. -/
def sampleLaunch (disk : Disk) (earliest : Int) : Except Halt KafkaPartition := do
  let (p, _) ← construct .consumer [116] 0 sampleBrokers
    { id := 1, host := [97], ip := [49], port := 9092 } {} disk
    (answeringSurroundings (offsetResponse [116] 0 0 [earliest]))
  { p with onReceivedData := true }.startFetch 7 8

theorem sampleLaunch_startsFrom
    {disk : Disk}
    {earliest : Int}
    {start : KafkaPartition}
    (launched : sampleLaunch disk earliest = .ok start) :
    StartsFrom Host.sampleStore disk earliest start := by
  obtain ⟨⟨constructed, disk'⟩, constructedOk, startedOk⟩ :=
    bind_eq_ok.mp launched
  exact ⟨_, _, _, _, _, _, _, _, ⟨rfl, rfl⟩, rfl,
    answeringSurroundings_answersMetadata _, rfl, constructedOk, startedOk⟩

/-- The events of a consumer that fetches once and is sent some letters. -/
def letterEvents (count : Nat) : List Event :=
  [.fetchEvent, .writeReady .written,
    .readReady (.payload (letterAnswer count)) {}]

/-- A run of the sample consumer that ends as checked. -/
theorem exists_letter_run
    {start : KafkaPartition}
    {count : Nat}
    (check : KafkaPartition → Bool)
    (followed : (follow (step Crc32.checksum)
      (fun p event => servesLetters p event = true) start
      (letterEvents count)).any check = true)
    (earliest : Int) :
    ∃ p, Run (step Crc32.checksum) (BrokerServes letterLog earliest) start
      (letterEvents count) p ∧ check p = true := by
  obtain ⟨p, run, checked⟩ := exists_run_of_follow _ _ _ _ check followed
  exact ⟨p, run.mono fun _ _ serves =>
    brokerServes_of_servesLetters serves earliest, checked⟩

/-- Two letters are delivered and committed, the log loses what was delivered,
and the second life goes on with the third letter. -/
theorem restart_resumes_iff_two_lives :
    ∃ start p q disk' second last disk,
      sampleLaunch emptyDisk 0 = .ok start ∧
      Run (step Crc32.checksum) (BrokerServes letterLog 0) start
        (letterEvents 2) p ∧
      construct .consumer [116] 0 sampleBrokers
        { id := 1, host := [97], ip := [49], port := 9092 } {}
        (p.commitKafkaOffset emptyDisk)
        (answeringSurroundings (offsetResponse [116] 0 0 [2])) =
        .ok (q, disk') ∧
      q.nextFetchOffset = p.nextFetchOffset ∧
      sampleLaunch (p.commitKafkaOffset emptyDisk) 2 = .ok second ∧
      Run (step Crc32.checksum) (BrokerServes letterLog 2) second
        (letterEvents 3) last ∧
      Lives Host.sampleStore Crc32.checksum letterLog
        (fun earliest reached => earliest = reached) 0 disk
        (p.delivered ++ last.delivered) 3 ∧
      p.delivered ++ last.delivered = segment letterLog 0 3 := by
  have valid : ValidPartition Host.sampleStore.topic Host.sampleStore.partition
      0 := by decide
  have noDirectories :
      emptyDisk.isDirectory = Host.sampleStore.isDirectory := rfl
  let goesOn (p : KafkaPartition) (count : Nat) (check : KafkaPartition → Bool) :
      Bool :=
    (follow (step Crc32.checksum) (fun p event => servesLetters p event = true) p
      (letterEvents count)).any check
  let resumes (p : KafkaPartition) : Bool :=
    p.nextFetchOffset == 2 &&
      (sampleLaunch (p.commitKafkaOffset emptyDisk) 2).toOption.any fun second =>
        goesOn second 3 fun last => last.nextFetchOffset == 3
  obtain ⟨start, launched, started⟩ := exists_ok_of_any
    (sampleLaunch emptyDisk 0)
    (fun start => start.nextFetchOffset == 0 && goesOn start 2 resumes)
    (by decide +kernel)
  obtain ⟨origin, continues⟩ := Bool.and_eq_true_iff.mp started
  obtain ⟨p, run, resumed⟩ := exists_letter_run resumes continues 0
  obtain ⟨reached, relaunches⟩ := Bool.and_eq_true_iff.mp resumed
  obtain ⟨second, relaunched, ends⟩ := exists_ok_of_any _ _ relaunches
  obtain ⟨last, secondRun, final⟩ := exists_letter_run _ ends 2
  rw [beq_iff_eq] at origin reached final
  have starts := sampleLaunch_startsFrom launched
  have restarts := sampleLaunch_startsFrom relaunched
  have nonempty : ∀ offset, letterLog offset ≠ [] := by simp [letterLog]
  obtain ⟨-, -, named, inRange⟩ := life_spec valid nonempty noDirectories
    (by decide) (by decide) starts run
  obtain ⟨⟨q, disk'⟩, constructed, -⟩ := bind_eq_ok.mp relaunched
  have firstLife : Lives Host.sampleStore Crc32.checksum letterLog
      (fun earliest reached => earliest = reached) 0
      (p.commitKafkaOffset emptyDisk) p.delivered p.nextFetchOffset :=
    .first noDirectories noDirectories le_rfl (by decide) starts origin run
      (by omega)
  have lives : Lives Host.sampleStore Crc32.checksum letterLog
      (fun earliest reached => earliest = reached) 0
      (last.commitKafkaOffset emptyDisk) (p.delivered ++ last.delivered)
      last.nextFetchOffset :=
    .restart firstLife reached.symm noDirectories (by decide) (by decide)
      restarts secondRun (by omega)
  rw [final] at lives
  obtain ⟨resumesIff, deliversOnce⟩ := restart_resumes_iff valid
  have position := (resumesIff p q _ _ _ emptyDisk disk' _ 2 noDirectories named
    inRange (by omega) ⟨rfl, rfl⟩ rfl (by decide) (by omega)
    (answeringSurroundings_answersMetadata _) rfl constructed).mpr reached.symm
  exact ⟨start, p, q, disk', second, last, _, launched, run, constructed,
    position, relaunched, secondRun, lives,
    deliversOnce _ _ _ _ _ _ nonempty lives⟩

/-- The log still begins at zero: the second letter was delivered and committed,
and the next life starts with it again. -/
theorem restart_repeats_message :
    ∃ start p q disk',
      sampleLaunch emptyDisk 0 = .ok start ∧
      Run (step Crc32.checksum) (BrokerServes letterLog 0) start
        (letterEvents 2) p ∧
      p.nextFetchOffset = 2 ∧ p.delivered = segment letterLog 0 2 ∧
      construct .consumer [116] 0 sampleBrokers
        { id := 1, host := [97], ip := [49], port := 9092 } {}
        (p.commitKafkaOffset emptyDisk)
        (answeringSurroundings (offsetResponse [116] 0 0 [0])) =
        .ok (q, disk') ∧
      q.nextFetchOffset = 1 := by
  let repeats (p : KafkaPartition) : Bool :=
    decide (p.nextFetchOffset = 2 ∧ p.delivered = segment letterLog 0 2) &&
      (construct .consumer [116] 0 sampleBrokers
        { id := 1, host := [97], ip := [49], port := 9092 } {}
        (p.commitKafkaOffset emptyDisk)
        (answeringSurroundings (offsetResponse [116] 0 0 [0]))).toOption.any
        fun result => result.1.nextFetchOffset == 1
  obtain ⟨start, launched, started⟩ := exists_ok_of_any
    (sampleLaunch emptyDisk 0)
    (fun start => (follow (step Crc32.checksum)
      (fun p event => servesLetters p event = true) start
      (letterEvents 2)).any repeats)
    (by decide +kernel)
  obtain ⟨p, run, repeated⟩ := exists_letter_run repeats started 0
  obtain ⟨reached, constructs⟩ := Bool.and_eq_true_iff.mp repeated
  obtain ⟨position, delivered⟩ := of_decide_eq_true reached
  obtain ⟨⟨q, disk'⟩, constructed, again⟩ := exists_ok_of_any _ _ constructs
  exact ⟨start, p, q, disk', launched, run, position, delivered, constructed,
    by simpa using again⟩

end OffsetStore
end AsyncKafka
