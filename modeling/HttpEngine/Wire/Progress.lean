import HttpEngine.Wire.Decoding

/-! Decoding goes forward: a message takes at least one byte, and none that is not there. -/

namespace HttpEngine

/-- Whatever a reading finds leaves at most a number of bytes. -/
def Scan.LeavesAtMost {α : Type} (scan : Scan α) (n : Nat) : Prop :=
  ∀ value rest, scan = .found value rest → rest.length ≤ n

namespace Scan

variable {α β : Type}

/-- Two readings leave no more than the second one does. -/
theorem LeavesAtMost.andThen {scan : Scan α} {n m : Nat} (first : scan.LeavesAtMost n)
    {next : α → Bytes → Scan β}
    (second : ∀ value rest, rest.length ≤ n → (next value rest).LeavesAtMost m) :
    (scan.andThen next).LeavesAtMost m := by
  -- What the second reading leaves is all that counts, and it starts from what the first one left.
  intro value rest found
  cases scan with
  | found inner middle => exact second inner middle (first inner middle rfl) value rest found
  | more => cases found
  | wrong fault => cases found

/-- Another value leaves as much. -/
theorem LeavesAtMost.map {scan : Scan α} {n : Nat} (leaves : scan.LeavesAtMost n) (f : α → β) :
    (scan.map f).LeavesAtMost n := by
  -- The function sees the value alone, so that the rest is the same.
  intro value rest found
  cases scan with
  | found inner middle =>
    cases found
    exact leaves inner _ rfl
  | more => cases found
  | wrong fault => cases found

/-- A bound may be raised. -/
theorem LeavesAtMost.mono {scan : Scan α} {n m : Nat} (leaves : scan.LeavesAtMost n)
    (le : n ≤ m) : scan.LeavesAtMost m :=
  fun value rest found => Nat.le_trans (leaves value rest found) le

end Scan

/-- Dropping bytes leaves no more bytes. -/
theorem length_dropWhile_le (p : UInt8 → Bool) (bytes : Bytes) :
    (bytes.dropWhile p).length ≤ bytes.length :=
  (List.dropWhile_sublist p).length_le

/-- The end of a line takes a byte. -/
theorem scanLineEnd_leaves (fault : HeadError) (bytes : Bytes) :
    (scanLineEnd fault bytes).LeavesAtMost (bytes.length - 1) := by
  -- Every way to find an end of line drops one byte or two.
  intro value rest found
  unfold scanLineEnd at found
  repeat' split at found
  all_goals first
    | cases found; simp
    | cases found

/-- Empty lines only take bytes away. -/
theorem scanEmptyLines_leaves (bytes : Bytes) :
    (scanEmptyLines bytes).LeavesAtMost bytes.length := by
  -- Each round drops an end of line, and the last one drops nothing.
  fun_induction scanEmptyLines bytes with
  | case1 => intro value rest found; cases found
  | case2 rest ih => exact ih.mono (by simp)
  | case3 => intro value rest found; cases found
  | case4 rest _ ih => exact ih.mono (by simp; omega)
  | case5 => intro value rest found; cases found
  | case6 first rest => intro value rest found; cases found; simp

/-- A method only takes bytes away. -/
theorem scanMethod_leaves (bytes : Bytes) : (scanMethod bytes).LeavesAtMost bytes.length := by
  -- The rest lies behind the byte that stopped the token.
  intro value rest found
  have bound := length_dropWhile_le isTokenByte bytes
  unfold scanMethod at found
  dsimp only at found
  split at found
  · cases found
  · rename_i stop after cut
    rw [cut, List.length_cons] at bound
    split at found
    · cases found; omega
    · cases found

/-- A target only takes bytes away. -/
theorem scanTarget_leaves (bytes : Bytes) : (scanTarget bytes).LeavesAtMost bytes.length := by
  -- The rest lies behind the byte that stopped the target.
  intro value rest found
  have bound := length_dropWhile_le isTargetByte bytes
  unfold scanTarget at found
  dsimp only at found
  split at found
  · cases found
  · rename_i stop after cut
    rw [cut, List.length_cons] at bound
    repeat' split at found
    all_goals cases found
    omega

/-- A version only takes bytes away. -/
theorem scanVersion_leaves (bytes : Bytes) : (scanVersion bytes).LeavesAtMost bytes.length := by
  -- Each pattern that matches names the bytes that are dropped.
  intro value rest found
  unfold scanVersion at found
  dsimp only at found
  repeat' split at found
  all_goals cases found
  simp

/-- One byte that has to be there only takes bytes away. -/
theorem scanByte_leaves (expected : UInt8) (fault : HeadError) (bytes : Bytes) :
    (scanByte expected fault bytes).LeavesAtMost bytes.length := by
  -- The byte itself is gone.
  intro value rest found
  unfold scanByte at found
  repeat' split at found
  all_goals cases found
  simp

/-- A digit only takes bytes away. -/
theorem scanDigit_leaves (bytes : Bytes) : (scanDigit bytes).LeavesAtMost bytes.length := by
  intro value rest found
  unfold scanDigit at found
  repeat' split at found
  all_goals cases found
  simp

/-- A status code only takes bytes away. -/
theorem scanCode_leaves (bytes : Bytes) : (scanCode bytes).LeavesAtMost bytes.length :=
  (scanDigit_leaves bytes).andThen fun _ rest le =>
    ((scanDigit_leaves rest).mono le).andThen fun _ rest le =>
      ((scanDigit_leaves rest).mono le).map _

/-- A reason phrase only takes bytes away. -/
theorem scanReason_leaves (bytes : Bytes) : (scanReason bytes).LeavesAtMost bytes.length := by
  -- The phrase is dropped first, and then the end of its line.
  unfold scanReason
  split
  · intro value rest found; cases found
  · rename_i first rest
    have bound := length_dropWhile_le isTextByte rest
    split
    · exact (scanLineEnd_leaves _ _).mono (by simp only [List.length_cons]; omega)
    · exact (scanLineEnd_leaves _ _).mono (by simp)

/-- A header name only takes bytes away. -/
theorem scanFieldName_leaves (bytes : Bytes) :
    (scanFieldName bytes).LeavesAtMost bytes.length := by
  -- The rest lies behind the colon.
  intro value rest found
  have bound := length_dropWhile_le isTokenByte bytes
  unfold scanFieldName at found
  dsimp only at found
  split at found
  · cases found
  · rename_i stop after cut
    rw [cut, List.length_cons] at bound
    split at found
    · cases found; omega
    · cases found

/-- A header value only takes bytes away. -/
theorem scanFieldValue_leaves (bytes : Bytes) :
    (scanFieldValue bytes).LeavesAtMost bytes.length := by
  -- The padding, the value and the end of the line are dropped in turn.
  have padded := length_dropWhile_le isPadByte bytes
  have value := length_dropWhile_le isTextByte (bytes.dropWhile isPadByte)
  exact ((scanLineEnd_leaves _ _).mono (by omega)).map _

/-- A header line only takes bytes away. -/
theorem scanField_leaves (bytes : Bytes) : (scanField bytes).LeavesAtMost bytes.length :=
  (scanFieldName_leaves bytes).andThen fun _ rest le =>
    ((scanFieldValue_leaves rest).mono le).map _

/-- The header lines take at least the byte that ends the head. -/
theorem scanFields_leaves (room : Nat) (bytes : Bytes) :
    (scanFields room bytes).LeavesAtMost (bytes.length - 1) := by
  -- A line is followed by fewer bytes, and the empty line ends the head.
  induction room generalizing bytes with
  | zero =>
    unfold scanFields
    split
    · intro value rest found; cases found
    · split
      · exact (scanLineEnd_leaves _ _).map _
      · exact (scanField_leaves _).andThen fun _ _ _ => by intro value rest found; cases found
  | succ room ih =>
    unfold scanFields
    split
    · intro value rest found; cases found
    · split
      · exact (scanLineEnd_leaves _ _).map _
      · exact (scanField_leaves _).andThen fun _ rest le =>
          ((ih rest).mono (by omega)).map _

/-- A request head takes at least one byte. -/
theorem scanRequestHead_leaves (bytes : Bytes) :
    (scanRequestHead bytes).LeavesAtMost (bytes.length - 1) :=
  (scanEmptyLines_leaves bytes).andThen fun _ rest le =>
  ((scanMethod_leaves rest).mono le).andThen fun _ rest le =>
  ((scanTarget_leaves rest).mono le).andThen fun _ rest le =>
  ((scanVersion_leaves rest).mono le).andThen fun _ rest le =>
  ((scanLineEnd_leaves _ rest).mono (by omega : _ ≤ bytes.length - 1)).andThen fun _ rest le =>
  ((scanFields_leaves _ rest).mono (by omega)).map _

/-- A response head takes at least one byte. -/
theorem scanResponseHead_leaves (bytes : Bytes) :
    (scanResponseHead bytes).LeavesAtMost (bytes.length - 1) :=
  (scanEmptyLines_leaves bytes).andThen fun _ rest le =>
  ((scanVersion_leaves rest).mono le).andThen fun _ rest le =>
  ((scanByte_leaves _ _ rest).mono le).andThen fun _ rest le =>
  ((scanCode_leaves rest).mono le).andThen fun _ rest le =>
  ((scanReason_leaves rest).mono le).andThen fun _ rest le =>
  ((scanFields_leaves _ rest).mono (by omega)).map _

/-- Nothing is found at the front of no bytes. -/
theorem scanRequestHead_nil : scanRequestHead [] = .more := rfl

/-- Nothing is found at the front of no bytes. -/
theorem scanResponseHead_nil : scanResponseHead [] = .more := rfl

/-- The end of a message lies as far behind its head as the body is long. -/
theorem eq_of_messageEnd {head body stop : Nat} (ends : messageEnd head body = .ok stop) :
    stop = head + body := by
  -- The only end that is given is the sum.
  unfold messageEnd at ends
  split at ends
  · cases ends; rfl
  · cases ends

/-- A decoded request takes at least one byte, and none that is not there. -/
theorem decodeRequest_consumed {maxPayload : Nat} {buffer : Bytes} {request : Request}
    {consumed : Nat} (decoded : decodeRequest maxPayload buffer = .message request consumed) :
    0 < consumed ∧ consumed ≤ buffer.length := by
  -- A message ends behind its head, which takes at least one byte, and its end is checked.
  unfold decodeRequest at decoded
  split at decoded
  · cases decoded
  · split at decoded <;> cases decoded
  · rename_i head rest found
    have leaves := scanRequestHead_leaves buffer head rest found
    have nonempty : buffer ≠ [] := by rintro rfl; cases found
    have positive := List.length_pos_iff.2 nonempty
    dsimp only at decoded
    repeat' split at decoded
    all_goals try (cases decoded; done)
    rename_i stop ends enough
    have sum := eq_of_messageEnd ends
    cases decoded
    omega

/-- A decoded response takes at least one byte, and none that is not there. -/
theorem decodeResponse_consumed {toHead ended : Bool} {buffer : Bytes} {response : Response}
    {consumed : Nat} (decoded : decodeResponse toHead ended buffer = .message response consumed) :
    0 < consumed ∧ consumed ≤ buffer.length := by
  -- A body runs to its declared end, which is checked, or to the end of the buffer.
  unfold decodeResponse at decoded
  split at decoded
  · cases decoded
  · repeat' split at decoded
    all_goals cases decoded
  · rename_i head rest found
    have leaves := scanResponseHead_leaves buffer head rest found
    have nonempty : buffer ≠ [] := by rintro rfl; cases found
    have positive := List.length_pos_iff.2 nonempty
    dsimp only at decoded
    split at decoded
    · cases decoded
    · split at decoded
      · cases decoded
      · split at decoded
        · cases decoded
        · split at decoded
          · cases decoded; omega
          · cases decoded
        · split at decoded
          · cases decoded
          · rename_i stop ends
            have sum := eq_of_messageEnd ends
            split at decoded
            · cases decoded; omega
            · split at decoded <;> cases decoded

end HttpEngine
