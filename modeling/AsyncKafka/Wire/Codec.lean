import AsyncKafka.Library.Codec
import AsyncKafka.Wire.Response
import Mathlib.Algebra.BigOperators.Group.List.Basic
import Mathlib.Algebra.Order.BigOperators.Group.List

/-!
# The wire primitives as a codec

What was written as an integer, a string, a counted run or an array of topics
is taken for the same value, whatever follows it on the wire.
-/

namespace AsyncKafka
namespace Wire

open ByteOrder StreamReader

/-- The integer fits into that many bytes. -/
def Fits (width : Nat) (value : Int) : Prop :=
  -(2 ^ (8 * width - 1)) ≤ value ∧ value < 2 ^ (8 * width - 1)

instance (width : Nat) (value : Int) : Decidable (Fits width value) :=
  inferInstanceAs (Decidable (_ ∧ _))

/-- A length that fits into 32 bits. -/
theorem fits_length {count : Nat} (few : count < 2 ^ 31) : Fits 4 count :=
  ⟨by omega, by omega⟩

theorem readInt_takes
    {width : Nat}
    {value : Int}
    (positive : 0 < width)
    (fits : Fits width value) :
    (readInt width).Takes (writeSigned width value) value :=
  readInt_writeSigned positive fits.1 fits.2

theorem readInt8_takes {value : Int} (fits : Fits 1 value) :
    readInt8.Takes (writeInt8 value) value :=
  readInt_takes (by decide) fits

theorem readInt16_takes {value : Int} (fits : Fits 2 value) :
    readInt16.Takes (writeInt16 value) value :=
  readInt_takes (by decide) fits

theorem readInt32_takes {value : Int} (fits : Fits 4 value) :
    readInt32.Takes (writeInt32 value) value :=
  readInt_takes (by decide) fits

theorem readInt64_takes {value : Int} (fits : Fits 8 value) :
    readInt64.Takes (writeInt64 value) value :=
  readInt_takes (by decide) fits

theorem readString_takes {value : Bytes} (short : value.length < 2 ^ 15) :
    readString.Takes (writeString value) value :=
  readString_writeString short

theorem readArrayLength_takes {count : Nat} (few : count < 2 ^ 31) :
    readArrayLength.Takes (writeInt32 count) count := by
  intro rest
  rw [readArrayLength, bind_of_eq (readInt32_takes (fits_length few) rest),
    if_neg (by omega)]
  rfl

/-- A counted run is read value by value. -/
theorem readMany_takes
    {readOne : Reader α}
    {write : β → Bytes}
    {values : List β}
    (read : β → α)
    (takes : ∀ value ∈ values, readOne.Takes (write value) (read value)) :
    (readMany readOne values.length).Takes (values.flatMap write)
      (values.map read) := by
  induction values with
  | nil => exact .pure []
  | cons value values inductionHypothesis =>
      have later := inductionHypothesis
        fun other member => takes other (List.mem_cons_of_mem _ member)
      rw [List.flatMap_cons, List.length_cons, readMany]
      exact (takes value List.mem_cons_self).bind later.bind_pure

/-- A run of values is at least as long as each of them. -/
theorem length_le_length_flatMap
    {values : List α}
    {value : α}
    (write : α → Bytes)
    (member : value ∈ values) :
    (write value).length ≤ (values.flatMap write).length := by
  rw [List.length_flatMap]
  exact List.single_le_sum (by simp) _ (List.mem_map_of_mem member)

/-- There are no more values than bytes if none is written as nothing. -/
theorem count_le_length_flatMap
    {write : α → Bytes}
    {values : List α}
    (positive : ∀ value ∈ values, 0 < (write value).length) :
    values.length ≤ (values.flatMap write).length := by
  have each : ∀ size ∈ values.map fun value => (write value).length,
      1 ≤ size := by
    intro size member
    obtain ⟨value, inside, rfl⟩ := List.mem_map.mp member
    exact positive value inside
  have counted := List.length_le_sum_of_one_le _ each
  rwa [List.length_map, ← List.length_flatMap] at counted

@[simp] theorem length_writeString (value : Bytes) :
    (writeString value).length = stringWireSize value := by
  simp [writeString, stringWireSize]

/-- The block of a topic with a block for each of its partitions. -/
def writeTopic (writeEntry : π → Bytes) (topic : Topic π) : Bytes :=
  writeString topic.topicName ++ (writeInt32 topic.partitions.length ++
    topic.partitions.flatMap writeEntry)

/-- An array of topics. -/
def writeTopicArray (writeEntry : π → Bytes) (topics : List (Topic π)) : Bytes :=
  writeInt32 topics.length ++ topics.flatMap (writeTopic writeEntry)

theorem length_writeTopicArray
    (writeEntry : π → Bytes)
    (topics : List (Topic π)) :
    (writeTopicArray writeEntry topics).length =
      4 + (topics.map fun topic => stringWireSize topic.topicName +
        (4 + (topic.partitions.map fun entry =>
          (writeEntry entry).length).sum)).sum := by
  simp only [writeTopicArray, writeTopic, List.length_append,
    length_writeInt32, length_writeString, List.length_flatMap]

/-- The names and entries of an array of topics can be written. -/
def TopicsFit (entryFits : π → Prop) (topics : List (Topic π)) : Prop :=
  ∀ topic ∈ topics, topic.topicName.length < 2 ^ 15 ∧
    ∀ entry ∈ topic.partitions, entryFits entry

theorem length_writeTopic_pos (writeEntry : π → Bytes) (topic : Topic π) :
    0 < (writeTopic writeEntry topic).length := by
  simp [writeTopic, stringWireSize]

/-- A short array of topics has few topics, and each of them few partitions and
short entries. -/
theorem writeTopicArray_short
    {writeEntry : π → Bytes}
    {topics : List (Topic π)}
    (positive : ∀ entry, 0 < (writeEntry entry).length)
    (short : (writeTopicArray writeEntry topics).length < 2 ^ 31) :
    topics.length < 2 ^ 31 ∧ ∀ topic ∈ topics,
      topic.partitions.length < 2 ^ 31 ∧
        ∀ entry ∈ topic.partitions, (writeEntry entry).length < 2 ^ 31 := by
  have total : (topics.flatMap (writeTopic writeEntry)).length < 2 ^ 31 := by
    rw [writeTopicArray, List.length_append] at short
    omega
  have count := count_le_length_flatMap fun topic (_ : topic ∈ topics) =>
    length_writeTopic_pos writeEntry topic
  refine ⟨by omega, fun topic member => ?_⟩
  have whole := length_le_length_flatMap (writeTopic writeEntry) member
  have entries : (topic.partitions.flatMap writeEntry).length ≤
      (writeTopic writeEntry topic).length := by
    simp only [writeTopic, List.length_append]
    omega
  have few := count_le_length_flatMap
    fun entry (_ : entry ∈ topic.partitions) => positive entry
  refine ⟨by omega, fun entry inside => ?_⟩
  have one := length_le_length_flatMap writeEntry inside
  omega

end Wire
end AsyncKafka
