import HttpEngine.Wire.Stream

/-! Messages that are written one behind the other are decoded one after the other. -/

namespace HttpEngine

variable {α ι : Type} {decode : Bytes → Decoded α}

/-- A message is the first answer, and the others are those for what is left behind it. -/
theorem decodeStream_of_message {buffer : Bytes} {value : α} {consumed : Nat}
    (decoded : decode buffer = .message value consumed) (positive : 0 < consumed) :
    decodeStream decode buffer =
      .message value consumed :: if (buffer.drop consumed).isEmpty then []
        else decodeStream decode (buffer.drop consumed) := by
  rw [decodeStream, decoded]
  dsimp only
  generalize buffer.drop consumed = rest
  cases rest with
  | nil => simp
  | cons first others => simp [positive]

/-- A message at the front is the first answer, and the others are those for what is behind it. -/
theorem decodeStream_message {front rest : Bytes} {value : α}
    (decoded : decode (front ++ rest) = .message value front.length) (nonempty : front ≠ []) :
    decodeStream decode (front ++ rest) =
      .message value front.length :: if rest.isEmpty then [] else decodeStream decode rest := by
  rw [decodeStream_of_message decoded (List.length_pos_iff.2 nonempty), List.drop_left]

/-- Two messages, of which the second one takes all that the first one leaves. -/
theorem decodeStream_pair {buffer : Bytes} {first second : α} {front back : Nat}
    (before : decode buffer = .message first front)
    (behind : decode (buffer.drop front) = .message second back)
    (positive : 0 < front ∧ 0 < back) (whole : buffer.length = front + back) :
    decodeStream decode buffer = [.message first front, .message second back] := by
  have left : buffer.drop front ≠ [] := by
    rw [← List.length_pos_iff, List.length_drop]
    omega
  have dropped : (buffer.drop front).drop back = [] := by
    rw [← List.length_eq_zero_iff, List.length_drop, List.length_drop]
    omega
  rw [decodeStream_of_message before positive.1, decodeStream_of_message behind positive.2, dropped]
  simp [left]

/-- What is decoded in front of anything is decoded in a row as well. -/
theorem decodeStream_flatMap {write : ι → Bytes} {read : ι → α} (items : List ι)
    (decodes : ∀ item ∈ items, ∀ rest,
      decode (write item ++ rest) = .message (read item) (write item).length)
    (nonempty : ∀ item, write item ≠ []) (waits : decode [] = .incomplete) :
    decodeStream decode (items.flatMap write) =
      if items.isEmpty then [.incomplete]
      else items.map fun item => .message (read item) (write item).length := by
  induction items with
  | nil => rw [List.flatMap_nil, decodeStream, waits, List.isEmpty_nil, if_pos rfl]
  | cons first others ih =>
    have behind := ih fun item member => decodes item (List.mem_cons_of_mem _ member)
    rw [List.flatMap_cons,
      decodeStream_message (decodes first List.mem_cons_self _) (nonempty first),
      behind]
    -- Something is left behind the first one exactly if there are others.
    cases others with
    | nil => rfl
    | cons next rest => simp [nonempty next]

end HttpEngine
