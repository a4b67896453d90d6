import AsyncKafka.Library.Cursor
import AsyncKafka.Partition.Responses

/-!
# The iterator of a fetch response

`FetchResponseIterator` holds an iterator into each of three vectors, one inside
the other: the topics, the partitions of a topic, the messages of a partition.
It must never read at the end of one of them, although any of them may be empty.
An iterator into a vector that does not change is the list of what it has left.
-/

namespace AsyncKafka
namespace Wire

/-- `topic_iter_`, `topic_partition_iter_` and `message_iter_`.  The empty list
is the end of the vector. -/
structure IteratorPosition where
  topicIter : List (Topic FetchResponsePartition)
  topicPartitionIter : List FetchResponsePartition
  messageIter : MessageSet
  deriving DecidableEq, Repr

/-- The iterator, none when `topics_` is a null pointer. -/
abbrev FetchResponseIterator := Option IteratorPosition

/-- A message together with the topic and the partition that it belongs to. -/
structure Located where
  topic : Topic FetchResponsePartition
  topicPartition : FetchResponsePartition
  message : MessageAndOffset
  deriving DecidableEq, Repr

namespace FetchResponseIterator

/-- The inner loop of the constructor: the first partition that has messages. -/
def firstPartition :
    List FetchResponsePartition → Option (List FetchResponsePartition)
  | [] => none
  | entry :: entries =>
      match entry.messages with
      | [] => firstPartition entries
      | _ :: _ => some (entry :: entries)

/-- The constructor. -/
def create : List (Topic FetchResponsePartition) → FetchResponseIterator
  | [] => none
  | topic :: topics =>
      match firstPartition topic.partitions with
      | some (entry :: entries) =>
          some ⟨topic :: topics, entry :: entries, entry.messages⟩
      | _ => create topics

/-- The inner loop of `increment`, at the end of a topic: the next topic that has
partitions, if there is one. -/
def nextTopic : List (Topic FetchResponsePartition) →
    Except Halt (Option (List (Topic FetchResponsePartition)))
  | [] => .error .undefinedBehaviour
  | [_] => .ok none
  | _ :: topic :: topics =>
      match topic.partitions with
      | [] => nextTopic (topic :: topics)
      | _ :: _ => .ok (some (topic :: topics))

theorem nextTopic_length
    {topicIter next : List (Topic FetchResponsePartition)}
    (found : nextTopic topicIter = .ok (some next)) :
    next.length < topicIter.length := by
  induction topicIter with
  | nil => cases found
  | cons first topics inductionHypothesis =>
      cases topics with
      | nil => cases found
      | cons topic topics =>
          unfold nextTopic at found
          split at found
          · have shorter := inductionHypothesis found
            simp only [List.length_cons] at shorter ⊢
            omega
          · obtain rfl := Option.some.inj (Except.ok.inj found)
            exact Nat.lt_succ_self _

/-- The outer loop of `increment`: from a position that may be at the end of its
messages to the next one that is not. -/
def settle
    (topicIter : List (Topic FetchResponsePartition))
    (topicPartitionIter : List FetchResponsePartition)
    (messageIter : MessageSet) : Except Halt FetchResponseIterator :=
  match messageIter with
  | _ :: _ => .ok (some ⟨topicIter, topicPartitionIter, messageIter⟩)
  | [] =>
      match topicPartitionIter with
      | [] => .error .undefinedBehaviour
      | _ :: entry :: entries =>
          settle topicIter (entry :: entries) entry.messages
      | [_] =>
          match _found : nextTopic topicIter with
          | .error halt => .error halt
          | .ok none => .ok none
          | .ok (some []) => .error .undefinedBehaviour
          | .ok (some (topic :: topics)) =>
              match topic.partitions with
              | [] => .error .undefinedBehaviour
              | entry :: entries =>
                  settle (topic :: topics) (entry :: entries) entry.messages
termination_by (topicIter.length, topicPartitionIter.length)
decreasing_by
  · exact Prod.Lex.right _ (by simp)
  · exact Prod.Lex.left _ _ (nextTopic_length _found)

/-- The operator `++`. -/
def increment : FetchResponseIterator → Except Halt FetchResponseIterator
  | none => .ok none
  | some position =>
      match position.messageIter with
      | [] => .error .undefinedBehaviour
      | _ :: messages =>
          settle position.topicIter position.topicPartitionIter messages

/-- `topic()`, `topic_partition()` and the operator `*`. -/
def dereference : FetchResponseIterator → Except Halt Located
  | some ⟨topic :: _, entry :: _, message :: _⟩ => .ok ⟨topic, entry, message⟩
  | _ => .error .undefinedBehaviour

/-- The iterator as a cursor.  The end is the iterator that was made without
topics. -/
def cursor : Cursor Halt FetchResponseIterator Located where
  atEnd := Option.isNone
  dereference := dereference
  increment := increment

/-- The messages of a partition. -/
def ofPartition
    (topic : Topic FetchResponsePartition)
    (entry : FetchResponsePartition) : List Located :=
  entry.messages.map (Located.mk topic entry)

/-- The messages of a topic. -/
def ofTopic (topic : Topic FetchResponsePartition) : List Located :=
  topic.partitions.flatMap (ofPartition topic)

/-- What an iterator has left to read. -/
def remaining : FetchResponseIterator → List Located
  | some ⟨topic :: topics, entry :: entries, messages⟩ =>
      messages.map (Located.mk topic entry) ++
        (entries.flatMap (ofPartition topic) ++ topics.flatMap ofTopic)
  | _ => []

/-- An iterator that is not at the end stands in front of a message. -/
def Valid : FetchResponseIterator → Prop
  | some position => position.topicIter ≠ [] ∧
      position.topicPartitionIter ≠ [] ∧ position.messageIter ≠ []
  | none => True

/-- What `nextTopic` can return: the topics that it passes have nothing to read,
and the one that it stops at has a partition. -/
theorem nextTopic_cases
    {topic : Topic FetchResponsePartition}
    {topics : List (Topic FetchResponsePartition)}
    {result : Except Halt (Option (List (Topic FetchResponsePartition)))}
    (found : nextTopic (topic :: topics) = result) :
    result = .ok none ∧ topics.flatMap ofTopic = [] ∨
      ∃ next later entry entries,
        result = .ok (some (next :: later)) ∧
        next.partitions = entry :: entries ∧
        topics.flatMap ofTopic =
          ofPartition next entry ++
            (entries.flatMap (ofPartition next) ++ later.flatMap ofTopic) := by
  subst found
  induction topics generalizing topic with
  | nil => exact .inl ⟨rfl, rfl⟩
  | cons second topics inductionHypothesis =>
      unfold nextTopic
      cases partitions : second.partitions with
      | nil =>
          have empty : ofTopic second = [] := by
            rw [ofTopic, partitions]
            rfl
          rw [List.flatMap_cons, empty, List.nil_append]
          exact inductionHypothesis
      | cons entry entries =>
          refine .inr ⟨second, topics, entry, entries, rfl, partitions, ?_⟩
          rw [List.flatMap_cons, ofTopic, partitions, List.flatMap_cons,
            List.append_assoc]

/-- The outer loop finds the next message, passes over none, and never reads at
the end of a vector. -/
theorem settle_spec
    (topicIter : List (Topic FetchResponsePartition))
    (topicPartitionIter : List FetchResponsePartition)
    (messageIter : MessageSet)
    (someTopic : topicIter ≠ [])
    (somePartition : topicPartitionIter ≠ []) :
    ∃ next, settle topicIter topicPartitionIter messageIter = .ok next ∧
      Valid next ∧
      remaining next =
        remaining (some ⟨topicIter, topicPartitionIter, messageIter⟩) := by
  fun_induction settle topicIter topicPartitionIter messageIter with
  | case1 topicIter topicPartitionIter message messages =>
      exact ⟨_, rfl, ⟨someTopic, somePartition, List.cons_ne_nil _ _⟩, rfl⟩
  | case2 topicIter => exact absurd rfl somePartition
  | case3 topicIter passed entry entries inductionHypothesis =>
      obtain ⟨next, settled, valid, left⟩ :=
        inductionHypothesis someTopic (List.cons_ne_nil _ _)
      refine ⟨next, settled, valid, left.trans ?_⟩
      obtain ⟨topic, topics, rfl⟩ := List.exists_cons_of_ne_nil someTopic
      simp [remaining, ofPartition]
  | case4 topicIter passed halt found =>
      obtain ⟨topic, topics, rfl⟩ := List.exists_cons_of_ne_nil someTopic
      obtain ⟨⟨⟩, -⟩ | ⟨_, _, _, _, ⟨⟩, -⟩ := nextTopic_cases found
  | case5 topicIter passed found =>
      obtain ⟨topic, topics, rfl⟩ := List.exists_cons_of_ne_nil someTopic
      obtain ⟨-, nothing⟩ | ⟨_, _, _, _, ⟨⟩, -⟩ := nextTopic_cases found
      exact ⟨none, rfl, trivial, by simp [remaining, nothing]⟩
  | case6 topicIter passed found =>
      obtain ⟨topic, topics, rfl⟩ := List.exists_cons_of_ne_nil someTopic
      obtain ⟨⟨⟩, -⟩ | ⟨_, _, _, _, ⟨⟩, -⟩ := nextTopic_cases found
  | case7 topicIter passed next later found partitions =>
      obtain ⟨topic, topics, rfl⟩ := List.exists_cons_of_ne_nil someTopic
      obtain ⟨⟨⟩, -⟩ | ⟨_, _, _, _, ⟨⟩, nonempty, -⟩ := nextTopic_cases found
      rw [partitions] at nonempty
      cases nonempty
  | case8 topicIter passed next later found entry entries partitions
      inductionHypothesis =>
      obtain ⟨topic, topics, rfl⟩ := List.exists_cons_of_ne_nil someTopic
      obtain ⟨after, settled, valid, left⟩ :=
        inductionHypothesis (List.cons_ne_nil _ _) (List.cons_ne_nil _ _)
      refine ⟨after, settled, valid, left.trans ?_⟩
      obtain ⟨⟨⟩, -⟩ | ⟨_, _, _, _, ⟨⟩, nonempty, passes⟩ :=
        nextTopic_cases found
      rw [partitions] at nonempty
      obtain ⟨rfl, rfl⟩ := List.cons.inj nonempty
      simp [remaining, passes, ofPartition]

/-- The operator `++` moves on by one message. -/
theorem cursor_traverses : cursor.Traverses Valid remaining := by
  constructor
  · intro position valid
    cases position with
    | none => exact iff_of_true rfl rfl
    | some position =>
        obtain ⟨topicIter, topicPartitionIter, messageIter⟩ := position
        obtain ⟨someTopic, somePartition, someMessage⟩ := valid
        obtain ⟨topic, topics, rfl⟩ := List.exists_cons_of_ne_nil someTopic
        obtain ⟨entry, entries, rfl⟩ := List.exists_cons_of_ne_nil somePartition
        obtain ⟨message, messages, rfl⟩ := List.exists_cons_of_ne_nil someMessage
        exact iff_of_false Bool.false_ne_true (List.cons_ne_nil _ _)
  · intro position value rest valid left
    cases position with
    | none => cases left
    | some position =>
        obtain ⟨topicIter, topicPartitionIter, messageIter⟩ := position
        obtain ⟨someTopic, somePartition, someMessage⟩ := valid
        obtain ⟨message, messages, rfl⟩ := List.exists_cons_of_ne_nil someMessage
        obtain ⟨next, settled, stillValid, after⟩ :=
          settle_spec topicIter topicPartitionIter messages someTopic
            somePartition
        obtain ⟨topic, topics, rfl⟩ := List.exists_cons_of_ne_nil someTopic
        obtain ⟨entry, entries, rfl⟩ := List.exists_cons_of_ne_nil somePartition
        obtain ⟨rfl, rfl⟩ := List.cons.inj left
        exact ⟨rfl, next, settled, stillValid, after⟩

theorem firstPartition_spec
    (topic : Topic FetchResponsePartition)
    (entries : List FetchResponsePartition) :
    firstPartition entries = none ∧ entries.flatMap (ofPartition topic) = [] ∨
      ∃ entry later, firstPartition entries = some (entry :: later) ∧
        entry.messages ≠ [] ∧
        entries.flatMap (ofPartition topic) =
          ofPartition topic entry ++ later.flatMap (ofPartition topic) := by
  induction entries with
  | nil => exact .inl ⟨rfl, rfl⟩
  | cons entry entries inductionHypothesis =>
      unfold firstPartition
      cases messages : entry.messages with
      | nil =>
          have empty : ofPartition topic entry = [] := by
            rw [ofPartition, messages]
            rfl
          rw [List.flatMap_cons, empty, List.nil_append]
          exact inductionHypothesis
      | cons message later =>
          refine .inr ⟨entry, entries, rfl, ?_, List.flatMap_cons⟩
          rw [messages]
          exact List.cons_ne_nil _ _

/-- The constructor finds the first message of a response, if there is one. -/
theorem create_spec (topics : List (Topic FetchResponsePartition)) :
    Valid (create topics) ∧ remaining (create topics) = topics.flatMap ofTopic := by
  induction topics with
  | nil => exact ⟨trivial, rfl⟩
  | cons topic topics inductionHypothesis =>
      unfold create
      rw [List.flatMap_cons, ofTopic]
      rcases firstPartition_spec topic topic.partitions with
        ⟨missing, nothing⟩ | ⟨entry, later, found, nonempty, passes⟩
      · rw [missing, nothing, List.nil_append]
        exact inductionHypothesis
      · rw [found, passes, List.append_assoc]
        exact ⟨⟨List.cons_ne_nil _ _, List.cons_ne_nil _ _, nonempty⟩, rfl⟩

end FetchResponseIterator

/-- The messages of a response with the topics and partitions they belong to. -/
def FetchResponse.located (response : FetchResponse) : List Located :=
  response.topics.flatMap FetchResponseIterator.ofTopic

theorem FetchResponse.map_message_located (response : FetchResponse) :
    response.located.map Located.message = response.messages := by
  simp [located, messages, FetchResponseIterator.ofTopic,
    FetchResponseIterator.ofPartition, List.map_flatMap, Function.comp_def]

/-- A loop from `begin()` to `end()` is a fold over all messages of a response. -/
theorem forEach_create
    (body : σ → Located → σ)
    (fuel : Nat)
    (response : FetchResponse)
    (state : σ) :
    FetchResponseIterator.cursor.forEach body fuel
        (FetchResponseIterator.create response.topics) state =
      if response.messages.length ≤ fuel then
        some (.ok (response.located.foldl body state))
      else none := by
  obtain ⟨valid, all⟩ := FetchResponseIterator.create_spec response.topics
  rw [FetchResponseIterator.cursor_traverses.forEach_eq body fuel valid state,
    all, ← response.map_message_located, List.length_map]
  rfl

end Wire

namespace KafkaPartition

open Wire ByteOrder

/-- The body of the loop in `handleFetchResponse`: the received messages and the
next fetch offset. -/
def collectMessage (state : List Bytes × Int) (located : Located) :
    List Bytes × Int :=
  let message := located.message
  if state.2 ≤ message.offset then
    (state.1 ++ message.value.toList, wrap 64 (message.offset + 1))
  else state

theorem foldl_collectMessage
    (locateds : List Located)
    (received : List Bytes)
    (next : Int) :
    locateds.foldl collectMessage (received, next) =
      (received ++ (collectMessages (locateds.map Located.message) next).1,
        (collectMessages (locateds.map Located.message) next).2) := by
  induction locateds generalizing received next with
  | nil =>
      simp only [List.foldl_nil, List.map_nil, collectMessages, List.append_nil]
  | cons located locateds inductionHypothesis =>
      rw [List.foldl_cons, List.map_cons, collectMessages, collectMessage]
      dsimp only
      split
      · rw [inductionHypothesis, List.append_assoc]
      · exact inductionHypothesis received next

/-- The iterator passes through all messages of a response in order, each with
its topic and its partition, once for each message; no vector is read at its end,
however many topics and partitions are empty.  So the loop of
`handleFetchResponse` collects from the messages of all partitions in a row. -/
theorem iterator_visits_all
    (response : FetchResponse)
    (next : Int)
    (fuel : Nat) :
    FetchResponseIterator.cursor.forEach (fun seen located => seen ++ [located])
        fuel (FetchResponseIterator.create response.topics) [] =
        (if response.messages.length ≤ fuel then some (.ok response.located)
          else none) ∧
      FetchResponseIterator.cursor.forEach collectMessage fuel
          (FetchResponseIterator.create response.topics) ([], next) =
        if response.messages.length ≤ fuel then
          some (.ok (collectMessages response.messages next))
        else none := by
  have visited (seen locateds : List Located) :
      locateds.foldl (fun seen located => seen ++ [located]) seen =
        seen ++ locateds := by
    induction locateds generalizing seen with
    | nil => exact (List.append_nil seen).symm
    | cons located locateds inductionHypothesis =>
        rw [List.foldl_cons, inductionHypothesis, List.append_assoc]
        rfl
  rw [forEach_create, forEach_create, foldl_collectMessage,
    response.map_message_located, visited, List.nil_append, List.nil_append]
  exact ⟨rfl, rfl⟩

end KafkaPartition
end AsyncKafka
