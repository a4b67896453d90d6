import AsyncKafka.Library.ByteStream

/-!
# Decoders and the blocks they take

A decoder takes a block for a value if it returns the value and leaves what
follows the block, whatever that is.  Taking is compositional, so that a format
which is written part by part is read back part by part.  A length prefix is
checked by a decoder that has to use up exactly the announced number of bytes.
-/

namespace StreamReader

/-- The decoder reads the block as the value and leaves what follows. -/
def Takes (reader : StreamReader ε α) (block : List UInt8) (value : α) : Prop :=
  ∀ rest, reader ⟨block ++ rest, false⟩ = .ok (value, ⟨rest, false⟩)

/-- The decoder reads the value from the front of the block, and may leave a
part of it. -/
def Begins (reader : StreamReader ε α) (block : List UInt8) (value : α) : Prop :=
  ∀ rest, ∃ later, reader ⟨block ++ rest, false⟩ = .ok (value, later)

namespace Takes

theorem pure (value : α) :
    (Pure.pure value : StreamReader ε α).Takes [] value :=
  fun _ => rfl

theorem bind
    {first : StreamReader ε α}
    {second : α → StreamReader ε β}
    {front back : List UInt8}
    {value : α}
    {result : β}
    (before : first.Takes front value)
    (after : (second value).Takes back result) :
    (first >>= second).Takes (front ++ back) result := by
  intro rest
  rw [List.append_assoc, bind_of_eq (before (back ++ rest)), after rest]

/-- A decoder whose last step only returns a value. -/
theorem bind_pure
    {first : StreamReader ε α}
    {finish : α → β}
    {block : List UInt8}
    {value : α}
    (before : first.Takes block value) :
    (first >>= fun value => Pure.pure (finish value)).Takes block
      (finish value) := by
  intro rest
  rw [bind_of_eq (before rest)]
  rfl

theorem map
    {reader : StreamReader ε α}
    {block : List UInt8}
    {value : α}
    (takes : reader.Takes block value)
    (finish : α → β) :
    (finish <$> reader).Takes block (finish value) := by
  intro rest
  rw [map_eq_pure_bind, bind_of_eq (takes rest)]
  rfl

/-- A fixed block of the right length. -/
theorem block
    {bytes : List UInt8}
    {count : Nat}
    (width : bytes.length = count) :
    (StreamReader.block count : StreamReader ε (List UInt8)).Takes bytes
      bytes := by
  intro rest
  rw [StreamReader.block, ByteStream.fill_append width]

/-- A block on its own is used up. -/
theorem whole
    {reader : StreamReader ε α}
    {block : List UInt8}
    {value : α}
    (takes : reader.Takes block value) :
    reader ⟨block, false⟩ = .ok (value, ⟨[], false⟩) := by
  have alone := takes []
  rwa [List.append_nil] at alone

theorem begins
    {reader : StreamReader ε α}
    {block : List UInt8}
    {value : α}
    (takes : reader.Takes block value) :
    reader.Begins block value :=
  fun rest => ⟨⟨rest, false⟩, takes rest⟩

end Takes

namespace Begins

theorem bind
    {first : StreamReader ε α}
    {second : α → StreamReader ε β}
    {front back : List UInt8}
    {value : α}
    {result : β}
    (before : first.Takes front value)
    (after : (second value).Begins back result) :
    (first >>= second).Begins (front ++ back) result := by
  intro rest
  obtain ⟨later, read⟩ := after rest
  refine ⟨later, ?_⟩
  rw [List.append_assoc, bind_of_eq (before (back ++ rest)), read]

/-- Once the last part has begun nothing more is needed. -/
theorem bind_pure
    {first : StreamReader ε α}
    {finish : α → β}
    {block : List UInt8}
    {value : α}
    (before : first.Begins block value) :
    (first >>= fun value => Pure.pure (finish value)).Begins block
      (finish value) := by
  intro rest
  obtain ⟨later, read⟩ := before rest
  refine ⟨later, ?_⟩
  rw [bind_of_eq read]
  rfl

/-- A decoder that returns without looking any further. -/
theorem pure (block : List UInt8) (value : α) :
    (Pure.pure value : StreamReader ε α).Begins block value :=
  fun rest => ⟨⟨block ++ rest, false⟩, rfl⟩

end Begins

/-- Run a decoder on exactly the next bytes, all of which it has to use up. -/
def exactly (error : ε) (count : Nat) (reader : StreamReader ε α) :
    StreamReader ε α := do
  let bytes ← block count
  match reader ⟨bytes, false⟩ with
  | .error halt => fail halt
  | .ok (value, left) =>
      if left = ⟨[], false⟩ then return value else fail error

theorem exactly_takes
    {reader : StreamReader ε α}
    {bytes : List UInt8}
    {value : α}
    {count : Nat}
    (error : ε)
    (width : bytes.length = count)
    (read : reader ⟨bytes, false⟩ = .ok (value, ⟨[], false⟩)) :
    (exactly error count reader).Takes bytes value := by
  have taken : (StreamReader.block count : StreamReader ε (List UInt8)).Takes
      bytes bytes := .block width
  intro rest
  rw [exactly, bind_of_eq (taken rest), read]
  rfl

/-- Read values until the stream is used up.  The first argument bounds their
number. -/
def untilEnd (error : ε) (reader : StreamReader ε α) :
    Nat → StreamReader ε (List α)
  | 0 => fail error
  | count + 1 => do
      let stream ← get
      if stream = ⟨[], false⟩ then return []
      else
        let value ← reader
        let later ← untilEnd error reader count
        return value :: later

/-- Values that are written one after the other, none of them as nothing, are
read until the end. -/
theorem untilEnd_flatMap
    {reader : StreamReader ε α}
    {write : β → List UInt8}
    {values : List β}
    {count : Nat}
    (error : ε)
    (read : β → α)
    (takes : ∀ value ∈ values,
      write value ≠ [] ∧ reader.Takes (write value) (read value))
    (enough : values.length < count) :
    untilEnd error reader count ⟨values.flatMap write, false⟩ =
      .ok (values.map read, ⟨[], false⟩) := by
  induction values generalizing count with
  | nil =>
      obtain ⟨count, rfl⟩ := Nat.exists_eq_add_of_lt enough
      rfl
  | cons value values inductionHypothesis =>
      obtain ⟨count, rfl⟩ : ∃ fewer, count = fewer + 1 :=
        ⟨count - 1, by rw [List.length_cons] at enough; omega⟩
      obtain ⟨nonempty, first⟩ := takes value List.mem_cons_self
      have later := inductionHypothesis
        (fun other member => takes other (List.mem_cons_of_mem _ member))
        (Nat.lt_of_succ_lt_succ enough)
      have unfinished : ¬ (⟨write value ++ values.flatMap write, false⟩ :
          ByteStream) = ⟨[], false⟩ := by
        simp [nonempty]
      have stream (bytes : List UInt8) :
          (get : StreamReader ε ByteStream) ⟨bytes, false⟩ =
            .ok (⟨bytes, false⟩, ⟨bytes, false⟩) := rfl
      rw [List.flatMap_cons, untilEnd, bind_of_eq (stream _), if_neg unfinished,
        bind_of_eq (first _), bind_of_eq later]
      rfl

/-- No beginning of the bytes is enough for the decoder: it gives up, or it asks
for more than there is. -/
def Starves (reader : StreamReader ε α) (bytes : List UInt8) : Prop :=
  ∀ part, part <+: bytes → ∀ value rest,
    reader ⟨part, false⟩ ≠ .ok (value, ⟨rest, false⟩)

/-- A decoder that needs the whole of a block. -/
def Awaits (reader : StreamReader ε α) (block : List UInt8) : Prop :=
  ∀ part, part <+: block → part ≠ block → reader.Starves part

/-- The values that have arrived whole.  The first argument bounds their
number. -/
def arrived (reader : StreamReader ε α) : Nat → List UInt8 → List α
  | 0, _ => []
  | count + 1, bytes =>
      match reader ⟨bytes, false⟩ with
      | .ok (value, ⟨rest, false⟩) => value :: arrived reader count rest
      | _ => []

theorem Starves.arrived
    {reader : StreamReader ε α}
    {bytes part : List UInt8}
    (starves : reader.Starves bytes)
    (beginning : part <+: bytes)
    (count : Nat) :
    reader.arrived count part = [] := by
  cases count with
  | zero => rfl
  | succ count =>
      unfold StreamReader.arrived
      split
      · rename_i value rest returned
        exact absurd returned (starves part beginning value rest)
      · rfl

theorem Takes.arrived
    {reader : StreamReader ε α}
    {block : List UInt8}
    {value : α}
    (takes : reader.Takes block value)
    (count : Nat)
    (rest : List UInt8) :
    reader.arrived (count + 1) (block ++ rest) =
      value :: reader.arrived count rest := by
  rw [StreamReader.arrived, takes rest]

/-- A decoder whose result depends on the block that it uses up, and not on what
follows. -/
def Settles (reader : StreamReader ε α) : Prop :=
  ∀ bytes value rest, reader ⟨bytes, false⟩ = .ok (value, ⟨rest, false⟩) →
    ∃ block, bytes = block ++ rest ∧ reader.Takes block value

/-- What has arrived stays when more arrives. -/
theorem Settles.arrived_prefix
    {reader : StreamReader ε α}
    (settles : reader.Settles)
    {count countLater : Nat}
    (fewer : count ≤ countLater)
    (bytes more : List UInt8) :
    reader.arrived count bytes <+: reader.arrived countLater (bytes ++ more) := by
  induction count generalizing countLater bytes with
  | zero => exact List.nil_prefix
  | succ count inductionHypothesis =>
      obtain ⟨countLater, rfl⟩ : ∃ smaller, countLater = smaller + 1 :=
        ⟨countLater - 1, by omega⟩
      rw [StreamReader.arrived]
      split
      · rename_i value rest returned
        obtain ⟨block, rfl, takes⟩ := settles bytes value rest returned
        rw [List.append_assoc, takes.arrived]
        exact (List.prefix_cons_inj value).mpr
          (inductionHypothesis (by omega) rest)
      · exact List.nil_prefix

/-- Of values written one after the other and a part that starves the decoder,
whatever has arrived so far gives the first of the values, and all of them once
they have arrived. -/
theorem arrived_flatMap
    {reader : StreamReader ε α}
    {write : β → List UInt8}
    {values : List β}
    {part bytes : List UInt8}
    {count : Nat}
    (read : β → α)
    (takes : ∀ value ∈ values, write value ≠ [] ∧
      reader.Takes (write value) (read value) ∧ reader.Awaits (write value))
    (starves : reader.Starves part)
    (beginning : bytes <+: values.flatMap write ++ part)
    (enough : bytes.length < count) :
    ∃ front, front <+: values ∧ reader.arrived count bytes = front.map read ∧
      (values.flatMap write <+: bytes → front = values) := by
  induction values generalizing bytes count with
  | nil => exact ⟨[], List.prefix_rfl, starves.arrived beginning count, fun _ => rfl⟩
  | cons value values inductionHypothesis =>
      obtain ⟨nonempty, first, whole⟩ := takes value List.mem_cons_self
      have later : ∀ other ∈ values, write other ≠ [] ∧
          reader.Takes (write other) (read other) ∧
          reader.Awaits (write other) :=
        fun other member => takes other (List.mem_cons_of_mem _ member)
      rw [List.flatMap_cons, List.append_assoc] at beginning
      by_cases complete : write value <+: bytes
      · -- The first value is there.
        obtain ⟨rest, rfl⟩ := complete
        have restBegins : rest <+: values.flatMap write ++ part :=
          (List.prefix_append_right_inj _).mp beginning
        have positive : 0 < (write value).length := List.length_pos_iff.mpr nonempty
        rw [List.length_append] at enough
        obtain ⟨count, rfl⟩ : ∃ fewer, count = fewer + 1 :=
          ⟨count - 1, by omega⟩
        have fewer : rest.length < count := by omega
        obtain ⟨front, isFront, reads, all⟩ :=
          inductionHypothesis later restBegins fewer
        refine ⟨value :: front, (List.prefix_cons_inj value).mpr isFront, ?_, ?_⟩
        · rw [first.arrived, reads, List.map_cons]
        · intro everything
          rw [List.flatMap_cons, List.prefix_append_right_inj] at everything
          rw [all everything]
      · -- A part of the first value is all there is.
        have cut : bytes <+: write value :=
          (List.prefix_or_prefix_of_prefix beginning
            (List.prefix_append (write value) _)).resolve_right complete
        have unlike : bytes ≠ write value := by
          rintro rfl
          exact complete List.prefix_rfl
        refine ⟨[], List.nil_prefix, ?_, ?_⟩
        · exact (whole bytes cut unlike).arrived List.prefix_rfl count
        · intro everything
          rw [List.flatMap_cons] at everything
          exact absurd ((List.prefix_append _ _).trans everything) complete

/-- A decoder of exactly so many bytes reads them and leaves what follows. -/
theorem exactly_spec
    {reader : StreamReader ε α}
    {error : ε}
    {count : Nat}
    {stream later : ByteStream}
    {value : α}
    (returned : exactly error count reader stream = .ok (value, later)) :
    reader ⟨(stream.fill count).1, false⟩ = .ok (value, ⟨[], false⟩) ∧
      later = (stream.fill count).2 := by
  obtain ⟨⟨bytes, rest⟩, filled, same⟩ : ∃ result,
      (block count : StreamReader ε (List UInt8)) stream = .ok result ∧
        result = stream.fill count := ⟨_, rfl, rfl⟩
  rw [exactly, bind_of_eq filled] at returned
  rw [← same]
  cases read : reader ⟨bytes, false⟩ with
  | error halt =>
      rw [read] at returned
      cases returned
  | ok result =>
      rw [read] at returned
      dsimp only at returned
      split at returned
      · rename_i finished
        obtain ⟨rfl, rfl⟩ := Prod.mk.inj (Except.ok.inj returned)
        exact ⟨congrArg (fun left => Except.ok (result.1, left)) finished, rfl⟩
      · cases returned

/-- A decoder that reads a head of a fixed width, from which it learns how many
bytes follow. -/
def prefixed
    (error : ε)
    (width : Nat)
    (size : List UInt8 → Nat)
    (reader : StreamReader ε α) : StreamReader ε α := do
  let head ← block width
  exactly error (size head) reader

/-- What a decoder with a length prefix has used up and left. -/
theorem prefixed_left
    {reader : StreamReader ε α}
    {error : ε}
    {width : Nat}
    {size : List UInt8 → Nat}
    {bytes rest : List UInt8}
    {value : α}
    (returned : prefixed error width size reader ⟨bytes, false⟩ =
      .ok (value, ⟨rest, false⟩)) :
    ∃ head body, head.length = width ∧ body.length = size head ∧
      bytes = head ++ (body ++ rest) ∧
      reader ⟨body, false⟩ = .ok (value, ⟨[], false⟩) := by
  obtain ⟨⟨head, behind⟩, filled, same⟩ : ∃ result,
      (block width : StreamReader ε (List UInt8)) ⟨bytes, false⟩ =
        .ok result ∧ result = ByteStream.fill width ⟨bytes, false⟩ :=
    ⟨_, rfl, rfl⟩
  rw [prefixed, bind_of_eq filled] at returned
  obtain ⟨inner, leaves⟩ := exactly_spec returned
  obtain ⟨unfailed, enough, left⟩ := ByteStream.fill_left leaves.symm
  obtain ⟨behindRest, behindFailed⟩ := behind
  obtain rfl : behindFailed = false := unfailed
  have behindEq : (ByteStream.fill width ⟨bytes, false⟩).2 =
      ⟨behindRest, false⟩ := by
    rw [← same]
  obtain ⟨-, headEnough, headLeft⟩ := ByteStream.fill_left behindEq
  have headEq : head = bytes.take width :=
    (Prod.mk.inj (same.trans (ByteStream.fill_of_le headEnough))).1
  rw [ByteStream.fill_of_le enough] at inner
  refine ⟨head, behindRest.take (size head), ?_, ?_, ?_, inner⟩
  · rw [headEq, List.length_take_of_le headEnough]
  · exact List.length_take_of_le enough
  · rw [← left, List.take_append_drop, ← headLeft, headEq,
      List.take_append_drop]

/-- A decoder with a length prefix depends on the block that it uses up. -/
theorem prefixed_settles
    (error : ε)
    (width : Nat)
    (size : List UInt8 → Nat)
    (reader : StreamReader ε α) :
    (prefixed error width size reader).Settles := by
  intro bytes value rest returned
  obtain ⟨head, body, headWidth, bodyWidth, rfl, read⟩ := prefixed_left returned
  refine ⟨head ++ body, (List.append_assoc _ _ _).symm, ?_⟩
  have first : (block width : StreamReader ε (List UInt8)).Takes head head :=
    .block headWidth
  exact first.bind (exactly_takes error bodyWidth read)

/-- A decoder with a length prefix needs the whole of the block that it uses
up. -/
theorem prefixed_awaits
    {reader : StreamReader ε α}
    {error : ε}
    {width : Nat}
    {size : List UInt8 → Nat}
    {bytes : List UInt8}
    {value : α}
    (returned : prefixed error width size reader ⟨bytes, false⟩ =
      .ok (value, ⟨[], false⟩)) :
    (prefixed error width size reader).Awaits bytes := by
  intro part beginning unlike shorter shortest other rest early
  obtain ⟨head, body, headWidth, bodyWidth, shape, -⟩ := prefixed_left returned
  obtain ⟨first, later, firstWidth, laterWidth, split, -⟩ := prefixed_left early
  have inside : first ++ (later ++ rest) <+: head ++ (body ++ []) :=
    shape ▸ split ▸ shortest.trans beginning
  -- The two heads have the same width, so they announce the same size.
  obtain rfl : first = head := by
    have firstInside : first <+: head ++ (body ++ []) :=
      (List.prefix_append first _).trans inside
    have headInside : head <+: head ++ (body ++ []) := List.prefix_append head _
    exact (List.prefix_of_prefix_length_le firstInside headInside
      (by omega)).eq_of_length (by omega)
  have short : bytes.length ≤ part.length := by
    have atMost := shortest.length_le
    rw [split] at atMost
    rw [shape]
    simp only [List.length_append, List.length_nil] at atMost ⊢
    omega
  exact unlike (beginning.eq_of_length_le short)

end StreamReader
