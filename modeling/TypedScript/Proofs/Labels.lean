import Mathlib.Algebra.Order.Ring.Nat
import TypedScript.Text.Bytes

/-! Labels point at the right bytes. The bytes of a span are those that its characters are encoded as,
where a span that goes past the end of the text is cut off there. -/

namespace TypedScript

variable (text : List Char)

theorem size_utf8Encode : text.utf8Encode.size = (text.map Char.utf8Size).sum := by
  induction text with
  | nil => rfl
  | cons c rest ih =>
    rw [List.utf8Encode_cons, ByteArray.size_append, List.utf8Encode_singleton, List.size_toByteArray,
      String.length_utf8EncodeChar, ih, List.map_cons, List.sum_cons]

theorem byteOffset_eq (offset : Nat) :
    byteOffset text offset = (text.take offset).utf8Encode.size := by
  rw [size_utf8Encode, List.sum_eq_foldl, List.foldl_map]
  rfl

theorem byteOffset_min (offset : Nat) :
    byteOffset text (min offset text.length) = byteOffset text offset := by
  rw [byteOffset_eq, byteOffset_eq, ← List.take_eq_take_min]

theorem byteOffset_add (start length : Nat) : byteOffset text (start + length) =
    byteOffset text start + ((text.drop start).take length).utf8Encode.size := by
  rw [byteOffset_eq, byteOffset_eq, List.take_add, List.utf8Encode_append, ByteArray.size_append]

theorem monotone_byteOffset : Monotone (byteOffset text) := by
  intro a b le
  obtain ⟨length, rfl⟩ := Nat.exists_eq_add_of_le le
  rw [byteOffset_add]
  exact Nat.le_add_right _ _

theorem byteOffset_le (offset : Nat) : byteOffset text offset ≤ text.utf8Encode.size := by
  calc byteOffset text offset
      = byteOffset text (min offset text.length) := (byteOffset_min text offset).symm
    _ ≤ byteOffset text text.length := monotone_byteOffset text (Nat.min_le_right _ _)
    _ = text.utf8Encode.size := by rw [byteOffset_eq, List.take_length]

theorem isValid_byteOffset (offset : Nat) :
    (⟨byteOffset text offset⟩ : String.Pos.Raw).IsValid (String.ofList text) := by
  refine String.Pos.Raw.isValid_iff_exists_append.2
    ⟨.ofList (text.take offset), .ofList (text.drop offset), ?_, ?_⟩
  · rw [← String.ofList_append, List.take_append_drop]
  · rw [byteOffset_eq]
    rfl

theorem extract_byteOffset (start length : Nat) :
    text.utf8Encode.extract (byteOffset text start) (byteOffset text (start + length)) =
      ((text.drop start).take length).utf8Encode := by
  have split : text.utf8Encode = (text.take start).utf8Encode ++
      (((text.drop start).take length).utf8Encode ++ ((text.drop start).drop length).utf8Encode) := by
    rw [← List.utf8Encode_append, ← List.utf8Encode_append, List.take_append_drop,
      List.take_append_drop]
  rw [byteOffset_add, byteOffset_eq, split]
  exact (ByteArray.extract_append_size_add (i := 0)).trans (ByteArray.extract_append_eq_left rfl)

theorem extract_span (s : Span) : text.extract (min s.start text.length) (min s.stop text.length) =
    (text.drop s.start).take s.length := by
  rw [List.extract_eq_take_drop, Span.stop]
  rcases Nat.le_total text.length s.start with past | inside
  · rw [Nat.min_eq_right past, Nat.min_eq_right (by omega), List.drop_eq_nil_of_le past,
      List.drop_length, List.take_nil, List.take_nil]
  · rw [Nat.min_eq_left inside, List.take_eq_take_iff, List.length_drop]
    omega

def ByteSpan.stop (b : ByteSpan) : Nat := b.start + b.length

theorem Span.stop_bytes (s : Span) : (s.bytes text).stop = byteOffset text s.stop :=
  Nat.add_sub_cancel' (monotone_byteOffset text (Nat.le_add_right _ _))

/-- The bytes of a span are bytes of the text, from between two characters to between two, and what they
decode to is the characters of the span. So spans side by side have bytes side by side, and those of a
later span are later. -/
theorem Span.bytes_decode (s : Span) :
    (s.bytes text).stop ≤ text.utf8Encode.size ∧
    (⟨(s.bytes text).start⟩ : String.Pos.Raw).IsValid (String.ofList text) ∧
    (⟨(s.bytes text).stop⟩ : String.Pos.Raw).IsValid (String.ofList text) ∧
    (text.utf8Encode.extract (s.bytes text).start (s.bytes text).stop).utf8Decode? =
      some (text.extract (min s.start text.length) (min s.stop text.length)).toArray ∧
    ∀ t : Span,
      (s.stop = t.start → (s.bytes text).stop = (t.bytes text).start) ∧
      (s.start ≤ t.start → (s.bytes text).start ≤ (t.bytes text).start) ∧
      (s.stop ≤ t.stop → (s.bytes text).stop ≤ (t.bytes text).stop) := by
  simp only [stop_bytes]
  refine ⟨byteOffset_le text _, isValid_byteOffset text _, isValid_byteOffset text _, ?_, fun t =>
    ⟨fun meets => congrArg (byteOffset text) meets, fun le => monotone_byteOffset text le,
      fun le => monotone_byteOffset text le⟩⟩
  calc (text.utf8Encode.extract (byteOffset text s.start) (byteOffset text s.stop)).utf8Decode?
      = ((text.drop s.start).take s.length).utf8Encode.utf8Decode? :=
        congrArg _ (extract_byteOffset text s.start s.length)
    _ = some ((text.drop s.start).take s.length).toArray := List.utf8Decode?_utf8Encode
    _ = _ := by rw [extract_span]

theorem Span.bytes_decode_mixed :
    let text := ['a', 'é', '😀', 'b']
    let s : Span := ⟨1, 2⟩
    let t : Span := ⟨3, 5⟩
    s.bytes text = ⟨1, 6⟩ ∧ t.bytes text = ⟨7, 1⟩ ∧ s.stop = t.start ∧
      (text.utf8Encode.extract 1 7).utf8Decode? = some #['é', '😀'] ∧
      (s.bytes text).stop = (t.bytes text).start := by
  intro text s t
  obtain ⟨-, -, -, decode, order⟩ := Span.bytes_decode text s
  exact ⟨by decide, by decide, rfl, decode, (order t).1 rfl⟩

end TypedScript
