import AsyncKafka.Consumer.Delivery

/-!
# The offset store

The offset file outlives the processes that write it.  A host is a disk with
at most one consumer process on it, which is constructed, runs, commits and
dies, possibly in the middle of writing the file.  What a later construction
reads is a number that some process has reached, as long as nobody commits
before the first message and nobody dies between the truncating open and the
write.
-/

namespace AsyncKafka

open Wire Execution ByteOrder

namespace KafkaPartition

/-- The next offset fits its type. -/
def OffsetInRange (p : KafkaPartition) : Prop :=
  -(2 ^ 63) ≤ p.nextFetchOffset ∧ p.nextFetchOffset < 2 ^ 63

theorem Bookkeeping.offsetInRange
    {p q : KafkaPartition}
    {effects : List Effect}
    (kept : Bookkeeping p effects q)
    (inRange : OffsetInRange p) :
    OffsetInRange q := by
  unfold OffsetInRange
  rw [kept.nextFetchOffset]
  exact inRange

theorem collectMessages_inRange
    {next : Int}
    (inRange : -(2 ^ 63) ≤ next ∧ next < 2 ^ 63)
    (messages : MessageSet) :
    -(2 ^ 63) ≤ (collectMessages messages next).2 ∧
      (collectMessages messages next).2 < 2 ^ 63 := by
  induction messages generalizing next with
  | nil => exact inRange
  | cons message messages inductionHypothesis =>
      unfold collectMessages
      split
      · exact inductionHypothesis
          ⟨le_wrap 64 _, wrap_lt (by decide) (message.offset + 1)⟩
      · exact inductionHypothesis inRange

theorem deliver_offsetInRange
    {p : KafkaPartition}
    (inRange : OffsetInRange p)
    (messages : MessageSet) :
    OffsetInRange (p.deliver messages) := by
  have collected := collectMessages_inRange inRange messages
  obtain ⟨effects, same, -⟩ := deliver_eq p messages
  rw [same]
  exact collected

theorem resetOffset_offsetInRange
    {p : KafkaPartition}
    (inRange : OffsetInRange p)
    {offset : Int}
    (reported : -(2 ^ 63) ≤ offset ∧ offset < 2 ^ 63) :
    OffsetInRange (p.resetOffset offset) := by
  obtain ⟨lower, upper⟩ := inRange
  rw [resetOffset_eq, OffsetInRange]
  dsimp only
  split
  · exact reported
  · exact ⟨lower.trans (le_max_left _ _), max_lt upper reported.2⟩

/-- The offset that a payload announces is a 64-bit integer. -/
theorem announcedOffset_inRange
    {p : KafkaPartition}
    {payload : Bytes}
    {offset : Int}
    (announced : p.announcedOffset payload = some offset) :
    -(2 ^ 63) ≤ offset ∧ offset < 2 ^ 63 := by
  unfold announcedOffset at announced
  obtain ⟨⟨response, errorCode⟩, decoded, found⟩ :=
    Option.bind_eq_some_iff.mp announced
  obtain ⟨entry, located, head⟩ := Option.bind_eq_some_iff.mp found
  have readOk : readOffsetResponse payload = .ok (response, errorCode) := by
    cases result : readOffsetResponse payload with
    | error halt =>
        rw [result] at decoded
        cases decoded
    | ok value =>
        rw [result] at decoded
        rw [Option.some.inj decoded]
  unfold OffsetResponse.topicPartitionOffset findTopicPartition at located
  split at located
  · cases located
  · rename_i topic inTopics
    exact readOffsetResponse_range readOk topic
      (List.mem_of_find?_eq_some inTopics) entry
      (List.mem_of_find?_eq_some located) offset
      (List.mem_of_mem_head? head)

/-- Every move keeps the next offset within its type. -/
theorem Transition.offsetInRange
    {crc32 : Bytes → UInt32}
    {p q : KafkaPartition}
    {event : Event}
    (inRange : OffsetInRange p)
    (moved : Transition crc32 p event q) :
    OffsetInRange q := by
  cases moved with
  | accept kept _ => exact kept.offsetInRange inRange
  | drain _ kept => exact kept.offsetInRange inRange
  | fetch kept => exact kept.offsetInRange inRange
  | metadata kept => exact kept.offsetInRange inRange
  | idle _ kept => exact kept.offsetInRange inRange
  | write _ kept _ _ => exact kept.offsetInRange inRange
  | lost _ kept => exact kept.offsetInRange inRange
  | produced _ _ _ result _ =>
      subst result
      exact inRange
  | refused _ _ _ _ kept _ result =>
      subst result
      exact kept.offsetInRange inRange
  | @fetched payload _ _ _ _ _ kept =>
      have read : OffsetInRange (p.record (.read payload)) := inRange
      exact kept.offsetInRange (deliver_offsetInRange read _)
  | repositioned _ announced kept _ =>
      exact resetOffset_offsetInRange (kept.offsetInRange inRange)
        (announcedOffset_inRange announced)
  | answered _ kept _ => exact kept.offsetInRange inRange

theorem run_offsetInRange
    {crc32 : Bytes → UInt32}
    {allowed : KafkaPartition → Event → Prop}
    {start p : KafkaPartition}
    {history : List Event}
    (inRange : OffsetInRange start)
    (run : Run (step crc32) allowed start history p) :
    OffsetInRange p := by
  apply run.invariant (fun _ state => OffsetInRange state) inRange
  intro _ state event next held _ stepped
  exact (step_transition stepped).offsetInRange held

/-- The constructor leaves the next offset within its type. -/
theorem init_offsetInRange
    {p q : KafkaPartition}
    {surroundings : InitSurroundings}
    (inRange : OffsetInRange p)
    (returned : p.init surroundings = .ok q) :
    OffsetInRange q := by
  obtain ⟨fd, first, second, third, fourth, _, firstWritten, secondRead,
    thirdWritten, fourthRead, armed, -, -⟩ := init_steps returned
  have connected : OffsetInRange (p.connectLeader fd).createMetadataRequest :=
    inRange
  have afterFirst :=
    (onWriteReady_transition (fun _ => 0) firstWritten).offsetInRange connected
  have afterSecond :=
    (onReadReady_transition (fun _ => 0) secondRead).offsetInRange afterFirst
  have asked : OffsetInRange second.createOffsetRequest := afterSecond
  have afterThird :=
    (onWriteReady_transition (fun _ => 0) thirdWritten).offsetInRange asked
  exact armed.offsetInRange
    ((onReadReady_transition (fun _ => 0) fourthRead).offsetInRange afterThird)

/-- A natural number that fits is read back from its text. -/
theorem storedOffset_ofNat {value : Nat} (fits : (value : Int) < 2 ^ 63) :
    storedOffset (Decimal.ofNat value) = .ok (value : Int) := by
  have word : Decimal.lastWord (Decimal.ofNat value) = Decimal.ofNat value :=
    Decimal.lastWord_of_isDigit (Decimal.all_isDigit_ofNat value)
  rw [storedOffset, word, Decimal.toSigned_ofNat, if_pos fits]

/-- What is read from a file is a 64-bit integer. -/
theorem storedOffset_inRange
    {contents : Bytes}
    {offset : Int}
    (stored : storedOffset contents = .ok offset) :
    -(2 ^ 63) ≤ offset ∧ offset < 2 ^ 63 := by
  unfold storedOffset at stored
  split at stored
  · cases stored
  · rename_i converted
    obtain rfl := Except.ok.inj stored
    exact Decimal.toSigned_inRange converted

/-- From the first message on, a commit writes the offset before the next one. -/
theorem files_commitKafkaOffset
    {p : KafkaPartition}
    (delivered : 1 ≤ p.nextFetchOffset)
    (inRange : OffsetInRange p)
    (disk : Disk) :
    (p.commitKafkaOffset disk).files p.storedOffsetFileName =
      some (Decimal.ofNat (p.nextFetchOffset - 1).toNat) := by
  obtain ⟨-, upper⟩ := inRange
  have wrapped : wrap 64 (p.nextFetchOffset - 1) = p.nextFetchOffset - 1 :=
    wrap_of_range (by decide) (by omega) (by omega)
  have offset : p.commitOffset = (p.nextFetchOffset - 1).toNat := by
    rw [commitOffset, wrapped]
    omega
  rw [commitKafkaOffset, if_pos (Nat.zero_le _), offset,
    Disk.files_write_self]

theorem isDirectory_commitKafkaOffset (p : KafkaPartition) (disk : Disk) :
    (p.commitKafkaOffset disk).isDirectory = disk.isDirectory := by
  unfold commitKafkaOffset
  split <;> rfl

/-- A partition that has found its offset file. -/
def positioned
    (p : KafkaPartition)
    (name : Bytes)
    (nextFetchOffset : Int) : KafkaPartition :=
  { p with storedOffsetFileName := name, nextFetchOffset }

/-- Without an offset file `getKafkaOffset` creates one. -/
theorem getKafkaOffset_missing
    {p : KafkaPartition}
    {disk : Disk}
    {name : Bytes}
    (named : offsetFileName disk.isDirectory p.config p.topic p.partition = name)
    (missing : disk.files name = none) :
    p.getKafkaOffset disk = .ok (p.positioned name p.nextFetchOffset,
      disk.write name (Decimal.ofInt p.nextFetchOffset)) := by
  subst named
  simp [getKafkaOffset, missing, positioned]

/-- With an offset file `getKafkaOffset` reads it if the policy says so. -/
theorem getKafkaOffset_found
    {p : KafkaPartition}
    {disk : Disk}
    {name contents : Bytes}
    (named : offsetFileName disk.isDirectory p.config p.topic p.partition = name)
    (found : disk.files name = some contents) :
    p.getKafkaOffset disk =
      if p.config.cStartOffset = .fromStored then
        (storedOffset contents).map fun offset => (p.positioned name offset, disk)
      else .ok (p.positioned name p.nextFetchOffset, disk) := by
  subst named
  cases stored : storedOffset contents <;>
    simp [getKafkaOffset, found, stored, bind, Except.bind, pure, Except.pure,
      Except.map, positioned]

/-- What `getKafkaOffset` does when it returns: it creates the file and keeps
the offset, or leaves the file alone and may take its offset. -/
theorem getKafkaOffset_outcome
    {p q : KafkaPartition}
    {disk disk' : Disk}
    {name : Bytes}
    (named : offsetFileName disk.isDirectory p.config p.topic p.partition = name)
    (returned : p.getKafkaOffset disk = .ok (q, disk')) :
    ∃ offset, q = p.positioned name offset ∧
      (disk.files name = none ∧ offset = p.nextFetchOffset ∧
          disk' = disk.write name (Decimal.ofInt p.nextFetchOffset) ∨
        ∃ contents, disk.files name = some contents ∧ disk' = disk ∧
          (offset = p.nextFetchOffset ∨ storedOffset contents = .ok offset)) := by
  cases found : disk.files name with
  | none =>
      rw [getKafkaOffset_missing named found] at returned
      obtain ⟨rfl, rfl⟩ := Prod.mk.inj (Except.ok.inj returned)
      exact ⟨_, rfl, .inl ⟨rfl, rfl, rfl⟩⟩
  | some contents =>
      rw [getKafkaOffset_found named found] at returned
      split at returned
      · cases stored : storedOffset contents with
        | error halt =>
            rw [stored] at returned
            cases returned
        | ok offset =>
            rw [stored] at returned
            obtain ⟨rfl, rfl⟩ := Prod.mk.inj (Except.ok.inj returned)
            exact ⟨offset, rfl, .inr ⟨contents, rfl, rfl, .inr stored⟩⟩
      · obtain ⟨rfl, rfl⟩ := Prod.mk.inj (Except.ok.inj returned)
        exact ⟨_, rfl, .inr ⟨contents, rfl, rfl, .inl rfl⟩⟩

end KafkaPartition

/-! ## Hosts -/

/-- What the name of an offset file depends on. -/
structure OffsetStore where
  clientId : Bytes
  storePath : Bytes
  topic : Bytes
  partition : Int
  isDirectory : Bytes → Bool

namespace OffsetStore

/-- A configuration that leads to the store. -/
def Fits (store : OffsetStore) (config : KafkaClientConfig) : Prop :=
  config.clientId = store.clientId ∧ config.cOffsetStorePath = store.storePath

instance (store : OffsetStore) (config : KafkaClientConfig) :
    Decidable (store.Fits config) :=
  inferInstanceAs (Decidable (_ ∧ _))

/-- The offset file of the store. -/
def fileName (store : OffsetStore) : Bytes :=
  KafkaPartition.offsetFileName store.isDirectory
    { clientId := store.clientId, cOffsetStorePath := store.storePath }
    store.topic store.partition

theorem offsetFileName_of_fits
    {store : OffsetStore}
    {config : KafkaClientConfig}
    (fits : store.Fits config) :
    KafkaPartition.offsetFileName store.isDirectory config store.topic
      store.partition = store.fileName := by
  simp only [fileName, KafkaPartition.offsetFileName, fits.1, fits.2]

end OffsetStore

/-- A disk with at most one consumer process. -/
structure Host where
  disk : Disk
  process : Option KafkaPartition := none
  /-- The next offset of the process that wrote the offset file, when it did. -/
  writtenAt : Option Int := none

/-- What can happen on a host. -/
inductive HostEvent
  /-- A consumer is constructed, in place of one that may still run. -/
  | construct
      (brokers : List KafkaBroker)
      (leader : KafkaBroker)
      (config : KafkaClientConfig)
      (surroundings : KafkaPartition.InitSurroundings)
  /-- The application registers for messages and starts fetching. -/
  | start (eventFd timerFd : Int)
  /-- An event of the process. -/
  | event (event : KafkaPartition.Event)
  /-- The commit timer ticks. -/
  | commit
  /-- The process dies. -/
  | death
  /-- The process dies in `commitKafkaOffset`, after the file was truncated. -/
  | deathInCommit
  /-- A process dies in `getKafkaOffset`, after the file was created. -/
  | deathInCreation

namespace Host

open KafkaPartition

/-- The partition that a construction begins with. -/
def newcomer
    (store : OffsetStore)
    (brokers : List KafkaBroker)
    (leader : KafkaBroker)
    (config : KafkaClientConfig) : KafkaPartition :=
  blank .consumer store.topic store.partition brokers leader config

/-- A construction.  What `getKafkaOffset` has written stays on the disk even
when `init` does not return. -/
def construct
    (store : OffsetStore)
    (brokers : List KafkaBroker)
    (leader : KafkaBroker)
    (config : KafkaClientConfig)
    (surroundings : InitSurroundings)
    (host : Host) : Host :=
  match (newcomer store brokers leader config).getKafkaOffset host.disk with
  | .error _ => { host with process := none }
  | .ok (p, disk) =>
      { disk
        process := (p.init surroundings).toOption
        writtenAt :=
          if (host.disk.files store.fileName).isSome then host.writtenAt
          else some (newcomer store brokers leader config).nextFetchOffset }

/-- The effect of an event.  A process that halts is gone. -/
def step
    (store : OffsetStore)
    (crc32 : Bytes → UInt32)
    (host : Host) : HostEvent → Host
  | .construct brokers leader config surroundings =>
      host.construct store brokers leader config surroundings
  | .start eventFd timerFd =>
      { host with
        process := host.process.bind fun p =>
          ({ p with onReceivedData := true }.startFetch eventFd
            timerFd).toOption }
  | .event event =>
      { host with
        process := host.process.bind fun p => (p.step crc32 event).toOption }
  | .commit =>
      match host.process with
      | none => host
      | some p =>
          { host with
            disk := p.commitKafkaOffset host.disk
            writtenAt := some p.nextFetchOffset }
  | .death => { host with process := none }
  | .deathInCommit =>
      match host.process with
      | none => host
      | some p =>
          { disk := host.disk.truncate p.storedOffsetFileName
            writtenAt := some p.nextFetchOffset }
  | .deathInCreation =>
      if (host.disk.files store.fileName).isSome then { host with process := none }
      else { disk := host.disk.truncate store.fileName, writtenAt := some 0 }

/-- The offset file, if there is one, holds a number between zero and the next
offset of its writer. -/
def Readable (store : OffsetStore) (host : Host) : Prop :=
  ∀ contents, host.disk.files store.fileName = some contents →
    ∃ value reached, storedOffset contents = .ok value ∧
      host.writtenAt = some reached ∧ 0 ≤ value ∧ value ≤ reached

/-- The event is a construction for this store, or no construction. -/
def Belongs (store : OffsetStore) (_ : Host) : HostEvent → Prop
  | .construct _ _ config _ => store.Fits config
  | _ => True

instance (store : OffsetStore) (host : Host) :
    (event : HostEvent) → Decidable (Belongs store host event)
  | .construct _ _ config _ => inferInstanceAs (Decidable (store.Fits config))
  | .start _ _ => .isTrue trivial
  | .event _ => .isTrue trivial
  | .commit => .isTrue trivial
  | .death => .isTrue trivial
  | .deathInCommit => .isTrue trivial
  | .deathInCreation => .isTrue trivial

/-- Nobody commits before the first message, and nobody dies between opening
the file and writing it. -/
def Careful (host : Host) : HostEvent → Prop
  | .commit => ∀ p ∈ host.process, 1 ≤ p.nextFetchOffset
  | .deathInCommit => False
  | .deathInCreation => False
  | _ => True

instance (host : Host) : (event : HostEvent) → Decidable (Careful host event)
  | .construct _ _ _ _ => .isTrue trivial
  | .start _ _ => .isTrue trivial
  | .event _ => .isTrue trivial
  | .commit =>
      inferInstanceAs (Decidable (∀ p ∈ host.process, 1 ≤ p.nextFetchOffset))
  | .death => .isTrue trivial
  | .deathInCommit => .isFalse id
  | .deathInCreation => .isFalse id

/-! ## The invariant -/

/-- The offset file is readable, and a process knows its name. -/
structure Sound (store : OffsetStore) (host : Host) : Prop where
  sameDirectories : host.disk.isDirectory = store.isDirectory
  readable : host.Readable store
  process : ∀ p ∈ host.process,
    p.storedOffsetFileName = store.fileName ∧ OffsetInRange p

theorem newcomer_fileName
    {store : OffsetStore}
    {disk : Disk}
    {config : KafkaClientConfig}
    (sameDirectories : disk.isDirectory = store.isDirectory)
    (fits : store.Fits config)
    (brokers : List KafkaBroker)
    (leader : KafkaBroker) :
    offsetFileName disk.isDirectory
        (newcomer store brokers leader config).config
        (newcomer store brokers leader config).topic
        (newcomer store brokers leader config).partition =
      store.fileName := by
  rw [sameDirectories]
  exact OffsetStore.offsetFileName_of_fits fits

/-- A process that was constructed knows the name of its file. -/
theorem init_sound
    {store : OffsetStore}
    {brokers : List KafkaBroker}
    {leader : KafkaBroker}
    {config : KafkaClientConfig}
    {offset : Int}
    {surroundings : InitSurroundings}
    {q : KafkaPartition}
    (inRange : -(2 ^ 63) ≤ offset ∧ offset < 2 ^ 63)
    (returned : q ∈ (((newcomer store brokers leader config).positioned
      store.fileName offset).init surroundings).toOption) :
    q.storedOffsetFileName = store.fileName ∧ OffsetInRange q := by
  have initOk : ((newcomer store brokers leader config).positioned
      store.fileName offset).init surroundings = .ok q := by
    revert returned
    cases KafkaPartition.init _ surroundings with
    | error halt =>
        intro returned
        cases returned
    | ok constructed =>
        intro returned
        rw [Option.some.inj returned]
  have fresh : Fresh ((newcomer store brokers leader config).positioned
      store.fileName offset) :=
    ⟨rfl, rfl, by simp [newcomer, blank, positioned],
      by simp [newcomer, blank, positioned]⟩
  have offsetInRange : OffsetInRange ((newcomer store brokers leader
      config).positioned store.fileName offset) := inRange
  have same := (init_fresh fresh rfl initOk).2
  exact ⟨congrArg Identity.storedOffsetFileName same,
    init_offsetInRange offsetInRange initOk⟩

/-- A file that was just created can be read. -/
theorem storedOffset_zero : storedOffset (Decimal.ofInt 0) = .ok 0 := by
  have text : Decimal.ofInt 0 = Decimal.ofNat 0 := rfl
  rw [text]
  exact storedOffset_ofNat (by decide)

theorem Sound.construct
    {store : OffsetStore}
    {host : Host}
    {config : KafkaClientConfig}
    (sound : Sound store host)
    (fits : store.Fits config)
    (brokers : List KafkaBroker)
    (leader : KafkaBroker)
    (surroundings : InitSurroundings) :
    Sound store (host.construct store brokers leader config surroundings) := by
  have named := newcomer_fileName sound.sameDirectories fits brokers leader
  have origin : -(2 ^ 63) ≤ (newcomer store brokers leader config).nextFetchOffset ∧
      (newcomer store brokers leader config).nextFetchOffset < 2 ^ 63 := by
    change -(2 ^ 63) ≤ (0 : Int) ∧ (0 : Int) < 2 ^ 63
    decide
  unfold Host.construct
  split
  · exact ⟨sound.sameDirectories, sound.readable, by simp⟩
  · rename_i p disk located
    obtain ⟨offset, rfl, ⟨missing, rfl, rfl⟩ | ⟨contents, found, rfl, kinds⟩⟩ :=
      getKafkaOffset_outcome named located
    · refine ⟨sound.sameDirectories, ?_, ?_⟩
      · intro written inFile
        rw [Disk.files_write_self] at inFile
        obtain rfl := Option.some.inj inFile
        refine ⟨0, 0, storedOffset_zero, ?_, le_rfl, le_rfl⟩
        simp [missing, newcomer, blank]
      · intro q constructed
        exact init_sound origin constructed
    · refine ⟨sound.sameDirectories, ?_, ?_⟩
      · intro written inFile
        rw [found]
        exact sound.readable written inFile
      · intro q constructed
        refine init_sound ?_ constructed
        rcases kinds with rfl | stored
        · exact origin
        · exact storedOffset_inRange stored

/-- Every careful event keeps the invariant. -/
theorem Sound.step
    {store : OffsetStore}
    {crc32 : Bytes → UInt32}
    {host : Host}
    {event : HostEvent}
    (sound : Sound store host)
    (belongs : Belongs store host event)
    (careful : Careful host event) :
    Sound store (host.step store crc32 event) := by
  -- A process that goes on keeps its name and its range.
  have continues {next : KafkaPartition → Except Halt KafkaPartition}
      (keeps : ∀ p q, OffsetInRange p → next p = .ok q →
        q.storedOffsetFileName = p.storedOffsetFileName ∧ OffsetInRange q) :
      ∀ q ∈ host.process.bind fun p => (next p).toOption,
        q.storedOffsetFileName = store.fileName ∧ OffsetInRange q := by
    intro q member
    obtain ⟨p, running, returned⟩ := Option.bind_eq_some_iff.mp member
    obtain ⟨named, inRange⟩ := sound.process p running
    cases result : next p with
    | error halt =>
        rw [result] at returned
        cases returned
    | ok value =>
        rw [result] at returned
        obtain rfl := Option.some.inj returned
        obtain ⟨same, kept⟩ := keeps p value inRange result
        exact ⟨same.trans named, kept⟩
  cases event with
  | construct brokers leader config surroundings =>
      exact sound.construct belongs brokers leader surroundings
  | start eventFd timerFd =>
      refine ⟨sound.sameDirectories, sound.readable, continues ?_⟩
      intro p q inRange returned
      have kept := startFetch_bookkeeping returned
      exact ⟨congrArg Identity.storedOffsetFileName kept.identity,
        kept.offsetInRange inRange⟩
  | event event =>
      refine ⟨sound.sameDirectories, sound.readable, continues ?_⟩
      intro p q inRange returned
      have moved := step_transition returned
      exact ⟨congrArg Identity.storedOffsetFileName moved.identity,
        moved.offsetInRange inRange⟩
  | commit =>
      simp only [Host.step]
      split
      · exact sound
      · rename_i p running
        obtain ⟨named, inRange⟩ := sound.process p running
        have delivered := careful p running
        refine ⟨(isDirectory_commitKafkaOffset p host.disk).trans
          sound.sameDirectories, ?_, sound.process⟩
        intro written inFile
        have committed := files_commitKafkaOffset delivered inRange host.disk
        rw [named] at committed
        obtain rfl := Option.some.inj (committed.symm.trans inFile)
        have upper := inRange.2
        exact ⟨(p.nextFetchOffset - 1).toNat, p.nextFetchOffset,
          storedOffset_ofNat (by omega), rfl, by omega, by omega⟩
  | death => exact ⟨sound.sameDirectories, sound.readable, by simp [Host.step]⟩
  | deathInCommit => exact careful.elim
  | deathInCreation => exact careful.elim

/-- A step of a host always returns. -/
def next
    (store : OffsetStore)
    (crc32 : Bytes → UInt32)
    (host : Host)
    (event : HostEvent) : Except Halt Host :=
  .ok (host.step store crc32 event)

/-- In every history of careful events, what a construction from the stored
offset reads is a number between zero and the next offset at which it was
written. -/
theorem offset_store_readable
    {store : OffsetStore}
    {crc32 : Bytes → UInt32}
    {disk : Disk}
    {host : Host}
    {history : List HostEvent}
    (sameDirectories : disk.isDirectory = store.isDirectory)
    (untouched : disk.files store.fileName = none)
    (run : Run (next store crc32)
      (fun host event => Belongs store host event ∧ Careful host event)
      { disk } history host)
    {config : KafkaClientConfig}
    {contents : Bytes}
    (brokers : List KafkaBroker)
    (leader : KafkaBroker)
    (fits : store.Fits config)
    (policy : config.cStartOffset = .fromStored)
    (found : host.disk.files store.fileName = some contents) :
    ∃ value reached,
      (newcomer store brokers leader config).getKafkaOffset host.disk =
        .ok ((newcomer store brokers leader config).positioned store.fileName
          value, host.disk) ∧
      storedOffset contents = .ok value ∧ host.writtenAt = some reached ∧
      0 ≤ value ∧ value ≤ reached := by
  have initially : Sound store { disk } := by
    refine ⟨sameDirectories, ?_, by simp⟩
    intro contents inFile
    rw [untouched] at inFile
    cases inFile
  have sound : Sound store host := by
    apply run.invariant (fun _ host => Sound store host) initially
    intro _ before event after held permitted stepped
    obtain rfl := Except.ok.inj stepped
    exact held.step permitted.1 permitted.2
  obtain ⟨value, reached, stored, writtenAt, nonnegative, bounded⟩ :=
    sound.readable contents found
  have named := newcomer_fileName sound.sameDirectories fits brokers leader
  refine ⟨value, reached, ?_, stored, writtenAt, nonnegative, bounded⟩
  have fromStored : (newcomer store brokers leader config).config.cStartOffset =
      .fromStored := policy
  rw [getKafkaOffset_found named found, if_pos fromStored, stored]
  rfl

/-- The store of the sample consumer. -/
def sampleStore : OffsetStore :=
  { clientId := ({} : KafkaClientConfig).clientId
    storePath := []
    topic := [116]
    partition := 0
    isDirectory := fun _ => false }

/-- The construction of the sample consumer. -/
def sampleConstruction : HostEvent :=
  .construct sampleBrokers { id := 1, host := [97], ip := [49], port := 9092 } {}
    sampleSurroundings

/-- A partition of the topic `t` that is about to look for its offset. -/
def sampleNewcomer : KafkaPartition :=
  newcomer sampleStore sampleBrokers
    { id := 1, host := [97], ip := [49], port := 9092 } {}

/-- A commit after two messages leaves the offset of the second one. -/
theorem offset_store_readable_after_commit :
    ∃ host, Run (next sampleStore Crc32.checksum)
        (fun host event => Belongs sampleStore host event ∧ Careful host event)
        { disk := emptyDisk }
        [sampleConstruction, .start 7 8, .event .fetchEvent,
          .event (.writeReady .written),
          .event (.readReady (.payload (letterAnswer 2)) {}), .commit, .death]
        host ∧
      ∃ value reached,
        sampleNewcomer.getKafkaOffset host.disk =
          .ok (sampleNewcomer.positioned sampleStore.fileName value, host.disk) ∧
        storedOffset [49] = .ok value ∧ host.writtenAt = some reached ∧
        0 ≤ value ∧ value ≤ reached := by
  obtain ⟨host, run, written⟩ := exists_run_of_follow
    (next sampleStore Crc32.checksum)
    (fun host event => Belongs sampleStore host event ∧ Careful host event)
    { disk := emptyDisk }
    [sampleConstruction, .start 7 8, .event .fetchEvent,
      .event (.writeReady .written),
      .event (.readReady (.payload (letterAnswer 2)) {}), .commit, .death]
    (fun host => host.disk.files sampleStore.fileName == some [49])
    (by decide +kernel)
  exact ⟨host, run, offset_store_readable rfl rfl run sampleBrokers
    { id := 1, host := [97], ip := [49], port := 9092 } ⟨rfl, rfl⟩ rfl
    (by simpa using written)⟩

/-- A commit before the first message, and a death between the truncating open
and the write, leave a file that kills the next start. -/
theorem unreadable_offset_store :
    (∃ host, Run (next sampleStore Crc32.checksum) (Belongs sampleStore)
        { disk := emptyDisk } [sampleConstruction, .start 7 8, .commit, .death]
        host ∧
      (host.disk.files sampleStore.fileName).map storedOffset =
        some (.error .uncaughtException) ∧
      (sampleNewcomer.getKafkaOffset host.disk).map Prod.fst =
        .error .uncaughtException) ∧
    ∃ host, Run (next sampleStore Crc32.checksum) (Belongs sampleStore)
        { disk := emptyDisk }
        [sampleConstruction, .start 7 8, .event .fetchEvent,
          .event (.writeReady .written),
          .event (.readReady (.payload (letterAnswer 2)) {}), .deathInCommit]
        host ∧
      (host.disk.files sampleStore.fileName).map storedOffset =
        some (.error .uncaughtException) ∧
      (sampleNewcomer.getKafkaOffset host.disk).map Prod.fst =
        .error .uncaughtException := by
  constructor
  · obtain ⟨host, run, fails⟩ := exists_run_of_follow
      (next sampleStore Crc32.checksum) (Belongs sampleStore)
      { disk := emptyDisk } [sampleConstruction, .start 7 8, .commit, .death]
      (fun host => decide (
        (host.disk.files sampleStore.fileName).map storedOffset =
          some (.error .uncaughtException) ∧
        (sampleNewcomer.getKafkaOffset host.disk).map Prod.fst =
          .error .uncaughtException))
      (by decide +kernel)
    exact ⟨host, run, of_decide_eq_true fails⟩
  · obtain ⟨host, run, fails⟩ := exists_run_of_follow
      (next sampleStore Crc32.checksum) (Belongs sampleStore)
      { disk := emptyDisk }
      [sampleConstruction, .start 7 8, .event .fetchEvent,
        .event (.writeReady .written),
        .event (.readReady (.payload (letterAnswer 2)) {}), .deathInCommit]
      (fun host => decide (
        (host.disk.files sampleStore.fileName).map storedOffset =
          some (.error .uncaughtException) ∧
        (sampleNewcomer.getKafkaOffset host.disk).map Prod.fst =
          .error .uncaughtException))
      (by decide +kernel)
    exact ⟨host, run, of_decide_eq_true fails⟩

end Host
end AsyncKafka
