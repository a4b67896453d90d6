import AsyncKafka.Consumer.OffsetStore
import AsyncKafka.Library.Delimited
import AsyncKafka.Partition.Life

/-!
# The names of the offset files

The name of an offset file joins the client identifier, the topic and the
partition with `-`, which may occur in client identifiers and in topics.  Two
consumers share a file exactly when their parts are equal or the client
identifier of one reaches over a `-` into the topic of the other.  All other
consumers have their files for themselves.
-/

namespace AsyncKafka

open Execution Delimited

namespace KafkaPartition

/-- A store path that names a directory, with or without a slash at its end. -/
def NamesDirectory
    (isDirectory : Bytes → Bool)
    (directory storePath : Bytes) : Prop :=
  isDirectory storePath = true ∧
    (storePath = directory ++ [47] ∨
      storePath = directory ∧ directory ≠ [] ∧ directory.getLast? ≠ some 47)

/-- What the offset of a consumer belongs to. -/
def offsetKey (p : KafkaPartition) : Bytes × Bytes × Int :=
  (p.config.clientId, p.topic, p.partition)

/-- The offset file of a partition. -/
def offsetFile (p : KafkaPartition) (disk : Disk) : Bytes :=
  offsetFileName disk.isDirectory p.config p.topic p.partition

/-- A name in a directory is a name after the directory and one slash, however
the directory is written. -/
theorem offsetFile_eq
    {p : KafkaPartition}
    {disk : Disk}
    {directory : Bytes}
    (store : NamesDirectory disk.isDirectory directory p.config.cOffsetStorePath) :
    p.offsetFile disk = directory ++ [47] ++
      (join 45 (join 45 p.config.clientId p.topic) (Decimal.ofInt p.partition) ++
        offsetFileSuffix) := by
  obtain ⟨isDirectory, withSlash | ⟨without, nonempty, unterminated⟩⟩ := store
  · rw [withSlash] at isDirectory
    simp [offsetFile, offsetFileName, withSlash, isDirectory, join]
  · rw [without] at isDirectory
    simp [offsetFile, offsetFileName, without, isDirectory, nonempty,
      unterminated, join]

/-- The client identifier of the second partition reaches over a `-` into the
topic of the first. -/
def Reaches (p q : KafkaPartition) : Prop :=
  p.partition = q.partition ∧
    Shift 45 p.config.clientId p.topic q.config.clientId q.topic

/-- Two partitions of one store have the same file exactly when they agree in
everything or one reaches into the other. -/
theorem offsetFile_eq_iff
    {p q : KafkaPartition}
    {disk : Disk}
    {directory : Bytes}
    (pStore : NamesDirectory disk.isDirectory directory p.config.cOffsetStorePath)
    (qStore : NamesDirectory disk.isDirectory directory q.config.cOffsetStorePath)
    (pNonnegative : 0 ≤ p.partition)
    (qNonnegative : 0 ≤ q.partition) :
    p.offsetFile disk = q.offsetFile disk ↔
      p.offsetKey = q.offsetKey ∨ p.Reaches q ∨ q.Reaches p := by
  rw [offsetFile_eq pStore, offsetFile_eq qStore, List.append_cancel_left_eq,
    List.append_cancel_right_eq,
    join_eq_join_iff_of_notMem (Decimal.minus_notMem_ofInt pNonnegative)
      (Decimal.minus_notMem_ofInt qNonnegative),
    join_eq_join_iff, Decimal.ofInt_inj pNonnegative qNonnegative]
  simp only [offsetKey, Prod.mk.injEq, Reaches]
  constructor
  · rintro ⟨⟨client, topic⟩ | shift | shift, partition⟩
    · exact .inl ⟨client, topic, partition⟩
    · exact .inr (.inl ⟨partition, shift⟩)
    · exact .inr (.inr ⟨partition.symm, shift⟩)
  · rintro (⟨client, topic, partition⟩ | ⟨partition, shift⟩ | ⟨partition, shift⟩)
    · exact ⟨.inl ⟨client, topic⟩, partition⟩
    · exact ⟨.inr (.inl shift), partition⟩
    · exact ⟨.inr (.inr shift), partition.symm⟩

/-- Partitions that reach into each other belong to different consumers. -/
theorem Reaches.offsetKey_ne
    {p q : KafkaPartition}
    (reaches : p.Reaches q) :
    p.offsetKey ≠ q.offsetKey := by
  intro same
  exact reaches.2.first_ne (congrArg Prod.fst same)

/-- No call changes the name of the offset file. -/
theorem perform_storedOffsetFileName
    {crc32 : Bytes → UInt32}
    {p q : KafkaPartition}
    {call : Call}
    (returned : perform crc32 p call = .ok q) :
    q.storedOffsetFileName = p.storedOffsetFileName := by
  cases call with
  | connect _ | offsetRequest | callbacks _ _ _ =>
      obtain rfl := Except.ok.inj returned
      rfl
  | armTimer _ =>
      obtain ⟨_, -, rfl⟩ := perform_armTimer returned
      rfl
  | startFetch eventFd timerFd =>
      exact congrArg Identity.storedOffsetFileName
        (startFetch_bookkeeping returned).identity
  | startProduce eventFd queueFd timerFd =>
      exact congrArg Identity.storedOffsetFileName
        (startProduce_bookkeeping returned).identity
  | event event =>
      exact congrArg Identity.storedOffsetFileName
        (step_transition returned).identity

/-- From `getKafkaOffset` to the end of its life, a partition has the name of its
own offset file. -/
theorem run_storedOffsetFileName
    {crc32 : Bytes → UInt32}
    {p located later : KafkaPartition}
    {disk disk' : Disk}
    {history : List Call}
    (returned : p.getKafkaOffset disk = .ok (located, disk'))
    (run : Run (perform crc32) (fun _ _ => True) located history later) :
    later.storedOffsetFileName = p.offsetFile disk := by
  apply run.invariant fun _ state =>
    state.storedOffsetFileName = p.offsetFile disk
  · obtain ⟨offset, rfl, -⟩ := getKafkaOffset_outcome rfl returned
    rfl
  · intro _ state call next named _ performed
    exact (perform_storedOffsetFileName performed).trans named

/-- A commit touches no file but that of the partition. -/
theorem files_commitKafkaOffset_of_ne
    {p : KafkaPartition}
    {other : Bytes}
    (different : other ≠ p.storedOffsetFileName)
    (disk : Disk) :
    (p.commitKafkaOffset disk).files other = disk.files other := by
  unfold commitKafkaOffset
  split
  · rw [Disk.files_write_of_ne different, Disk.truncate,
      Disk.files_write_of_ne different]
  · rfl

/-- Nor does `getKafkaOffset`. -/
theorem files_getKafkaOffset_of_ne
    {p located : KafkaPartition}
    {disk disk' : Disk}
    {other : Bytes}
    (different : other ≠ p.offsetFile disk)
    (returned : p.getKafkaOffset disk = .ok (located, disk')) :
    disk'.files other = disk.files other := by
  obtain ⟨offset, -, ⟨-, -, rfl⟩ | ⟨contents, -, rfl, -⟩⟩ :=
    getKafkaOffset_outcome rfl returned
  · exact Disk.files_write_of_ne different disk _
  · rfl

/-- What `getKafkaOffset` finds does not depend on other files. -/
theorem getKafkaOffset_write_of_ne
    {p : KafkaPartition}
    {disk : Disk}
    {other : Bytes}
    (different : p.offsetFile disk ≠ other)
    (contents : Bytes) :
    (p.getKafkaOffset (disk.write other contents)).map Prod.fst =
      (p.getKafkaOffset disk).map Prod.fst := by
  have named : offsetFileName (disk.write other contents).isDirectory p.config
      p.topic p.partition = p.offsetFile disk := rfl
  have unchanged := Disk.files_write_of_ne different disk contents
  cases found : disk.files (p.offsetFile disk) with
  | none =>
      rw [getKafkaOffset_missing rfl found,
        getKafkaOffset_missing named (unchanged.trans found)]
      rfl
  | some stored =>
      rw [getKafkaOffset_found rfl found,
        getKafkaOffset_found named (unchanged.trans found)]
      split
      · cases storedOffset stored <;> rfl
      · rfl

/-- Of two partitions, the first has nothing to do with the offset of the second
unless both belong to the same consumer. -/
structure KeepsOffTheFileOf (disk : Disk) (p q : KafkaPartition) : Prop where
  /-- The files are the same exactly for the same consumer. -/
  names : p.offsetFile disk = q.offsetFile disk ↔ p.offsetKey = q.offsetKey
  /-- The other's file is not read. -/
  unread : p.offsetKey ≠ q.offsetKey → ∀ contents,
    (p.getKafkaOffset (disk.write (q.offsetFile disk) contents)).map Prod.fst =
      (p.getKafkaOffset disk).map Prod.fst
  /-- The other's file is not created. -/
  uncreated : p.offsetKey ≠ q.offsetKey → ∀ located disk',
    p.getKafkaOffset disk = .ok (located, disk') →
    disk'.files (q.offsetFile disk) = disk.files (q.offsetFile disk)
  /-- No commit ever overwrites the other's file. -/
  uncommitted : p.offsetKey ≠ q.offsetKey → ∀ crc32 located disk' history later,
    p.getKafkaOffset disk = .ok (located, disk') →
    Run (perform crc32) (fun _ _ => True) located history later →
    ∀ disk'' : Disk, (later.commitKafkaOffset disk'').files (q.offsetFile disk) =
      disk''.files (q.offsetFile disk)

/-- Two partitions with their offset files in one directory keep off each
other's files, unless they have the same partition number and the client
identifier of one reaches over a `-` into the topic of the other. -/
theorem keepsOffTheFileOf_iff
    {p q : KafkaPartition}
    {disk : Disk}
    {directory : Bytes}
    (pStore : NamesDirectory disk.isDirectory directory p.config.cOffsetStorePath)
    (qStore : NamesDirectory disk.isDirectory directory q.config.cOffsetStorePath)
    (pNonnegative : 0 ≤ p.partition)
    (qNonnegative : 0 ≤ q.partition) :
    KeepsOffTheFileOf disk p q ↔ ¬ p.Reaches q ∧ ¬ q.Reaches p := by
  have sameFile := offsetFile_eq_iff pStore qStore pNonnegative qNonnegative
  constructor
  · intro keeps
    constructor
    · intro reaches
      exact reaches.offsetKey_ne
        (keeps.names.mp (sameFile.mpr (.inr (.inl reaches))))
    · intro reaches
      exact reaches.offsetKey_ne.symm
        (keeps.names.mp (sameFile.mpr (.inr (.inr reaches))))
  · rintro ⟨unreached, unreaching⟩
    have names : p.offsetFile disk = q.offsetFile disk ↔
        p.offsetKey = q.offsetKey := by
      rw [sameFile]
      exact or_iff_left (not_or.mpr ⟨unreached, unreaching⟩)
    have apart (different : p.offsetKey ≠ q.offsetKey) :
        q.offsetFile disk ≠ p.offsetFile disk :=
      fun same => different (names.mp same.symm)
    refine ⟨names, ?_, ?_, ?_⟩
    · intro different contents
      exact getKafkaOffset_write_of_ne (apart different).symm contents
    · intro different located disk' returned
      exact files_getKafkaOffset_of_ne (apart different) returned
    · intro different crc32 located disk' history later returned run disk''
      apply files_commitKafkaOffset_of_ne
      rw [run_storedOffsetFileName returned run]
      exact apart different

/-- A disk with the directory `d`. -/
def sampleDirectory : Disk :=
  ⟨fun _ => none, fun path => path == [100] || path == [100, 47]⟩

/-- A consumer of partition 0 with its offsets in the directory `d`. -/
def sampleReader (clientId topic storePath : Bytes) : KafkaPartition :=
  blank .consumer topic 0 sampleBrokers {}
    { clientId, cOffsetStorePath := storePath }

/-- The consumer `a` of the topic `b-c` and the consumer `a-b` of the topic `d`
have files of their own. -/
theorem keepsOffTheFileOf_iff_of_hyphens :
    KeepsOffTheFileOf sampleDirectory (sampleReader [97] [98, 45, 99] [100])
      (sampleReader [97, 45, 98] [100] [100, 47]) := by
  have without : NamesDirectory sampleDirectory.isDirectory [100] [100] :=
    ⟨rfl, .inr ⟨rfl, by decide, by decide⟩⟩
  have withSlash : NamesDirectory sampleDirectory.isDirectory [100] [100, 47] :=
    ⟨rfl, .inl rfl⟩
  apply (keepsOffTheFileOf_iff without withSlash (by decide) (by decide)).mpr
  constructor
  · rintro ⟨-, middle, client, topic⟩
    obtain rfl : [98] = middle := by simpa [sampleReader, blank] using client
    exact absurd topic (by decide)
  · rintro ⟨-, middle, client, -⟩
    have lengths := congrArg List.length client
    simp [sampleReader, blank] at lengths

/-- The consumer `a` of the topic `b-c` and the consumer `a-b` of the topic `c`
share one file. -/
theorem offset_files_collide :
    (sampleReader [97] [98, 45, 99] [100]).offsetKey ≠
        (sampleReader [97, 45, 98] [99] [100]).offsetKey ∧
      (sampleReader [97] [98, 45, 99] [100]).offsetFile sampleDirectory =
        (sampleReader [97, 45, 98] [99] [100]).offsetFile sampleDirectory ∧
      ¬ KeepsOffTheFileOf sampleDirectory (sampleReader [97] [98, 45, 99] [100])
        (sampleReader [97, 45, 98] [99] [100]) := by
  have different : (sampleReader [97] [98, 45, 99] [100]).offsetKey ≠
      (sampleReader [97, 45, 98] [99] [100]).offsetKey := by decide
  have same : (sampleReader [97] [98, 45, 99] [100]).offsetFile sampleDirectory =
      (sampleReader [97, 45, 98] [99] [100]).offsetFile sampleDirectory := by
    decide +kernel
  exact ⟨different, same, fun keeps => different (keeps.names.mp same)⟩

end KafkaPartition
end AsyncKafka
