import HttpEngine.Proofs.Wire.ResponseStream

/-!
What is known about a message that was decoded: the head that it was read from, what its header
lines declare, and where it ends.
-/

namespace HttpEngine

/-- A length is declared as it is stated, if it can be read and no coding is announced. -/
theorem declaredLength_eq_ok_iff {headers : Headers} {declared : Option Nat} :
    declaredLength headers = .ok declared ↔
      (∀ coding ∈ headers.get? "transfer-encoding", sameName coding "identity" = true) ∧
      (headers.get? "content-length").map (readUnsigned? wordLimit) = declared.map some := by
  -- The announcement of a coding is refused by its first field alone.
  have plain : (headers.get? "transfer-encoding").any
        (fun coding => !sameName coding "identity") = false ↔
      ∀ coding ∈ headers.get? "transfer-encoding", sameName coding "identity" = true := by
    cases headers.get? "transfer-encoding" <;> simp
  rw [← plain, declaredLength]
  cases (headers.get? "transfer-encoding").any fun coding => !sameName coding "identity" with
  | true => simp
  | false =>
    cases headers.get? "content-length" with
    | none => cases declared <;> simp
    | some value =>
      -- A length that is stated counts if it is a number.
      cases read : readUnsigned? wordLimit value <;> cases declared <;> simp [read]

/-- A body that is there is as long as it is from its head to its end. -/
theorem length_bodyBytes {buffer : Bytes} {stop : Nat} (inside : stop ≤ buffer.length)
    (headLength : Nat) : (bodyBytes buffer headLength stop).length = stop - headLength := by
  rw [bodyBytes, List.length_take, List.length_drop]
  omega

section Requests

variable {maxPayload : Nat} {buffer : Bytes} {request : Request} {consumed : Nat}

/-- A request as it is read from its head. -/
structure Request.ReadFrom (request : Request) (head : RequestHead) : Prop where
  method : Method.ofToken head.method = .ok request.method
  target : request.target = head.target
  version : request.version = head.version
  fields : collectFields head.fields = .ok request.headers.fields
  /-- The body is as long as the header lines declare, and empty if they declare nothing. -/
  length : ∃ declared, declaredLength request.headers = .ok declared ∧
    declared.getD 0 = request.body.length

/-- What a head announces is read from it, with a body that ends where it was announced to end. -/
theorem Request.readFrom_of_announced {head : RequestHead} {headLength stop : Nat} {bare : Request}
    (announced : announcedRequest maxPayload head headLength = .ok (bare, stop)) :
    headLength ≤ stop ∧ ∀ body : Bytes, body.length = stop - headLength →
      body.length ≤ maxPayload ∧ ({ bare with body } : Request).ReadFrom head := by
  -- Each step of the reading has one way on, so that the others are closed as they come up.
  unfold announcedRequest at announced
  cases named : Method.ofToken head.method with
  | error fault => rw [named] at announced; cases announced
  | ok method =>
    rw [named] at announced
    cases collected : collectFields head.fields with
    | error reason => simp only [collected] at announced; cases announced
    | ok fields =>
      simp only [collected] at announced
      cases declares : declaredLength ⟨fields⟩ with
      | error reason => simp only [declares] at announced; cases announced
      | ok declared =>
        simp only [declares] at announced
        split at announced
        · cases announced
        · rename_i small
          cases ends : messageEnd headLength (declared.getD 0) with
          | error reason => simp only [ends] at announced; cases announced
          | ok last =>
            -- The message ends as far behind its head as is declared.
            simp only [ends] at announced
            have sum := eq_of_messageEnd ends
            cases announced
            refine ⟨by omega, fun body long => ⟨by omega, named, rfl, rfl, collected, ?_⟩⟩
            exact ⟨declared, declares, by dsimp only; omega⟩

/-- A request that was decoded was read from the head at the front, and ends with its body. -/
theorem Request.exists_readFrom
    (decoded : decodeRequest maxPayload buffer = .message request consumed) :
    ∃ head rest, scanRequestHead buffer = .found head rest ∧ request.ReadFrom head ∧
      request.body.length ≤ maxPayload ∧
      consumed = buffer.length - rest.length + request.body.length := by
  obtain ⟨head, rest, bare, scanned, announced, inside, rfl⟩ := announced_of_request decoded
  obtain ⟨behind, reads⟩ := Request.readFrom_of_announced announced
  have long := length_bodyBytes inside (buffer.length - rest.length)
  obtain ⟨few, read⟩ := reads _ long
  exact ⟨head, rest, scanned, read, few, by dsimp only; omega⟩

end Requests

section Responses

variable {toHead ended : Bool} {buffer : Bytes} {response : Response} {consumed : Nat}

/-- A response as it is read from its head, with what is declared there about its body. -/
structure Response.ReadFrom (response : Response) (toHead : Bool) (head : ResponseHead)
    (declared : Option Nat) : Prop where
  status : Status.ofCode head.code = .ok response.status
  version : response.version = head.version
  fields : collectFields head.fields = .ok response.headers.fields
  declares : (if toHead || response.status.isBodiless then .ok (some 0)
    else declaredLength response.headers) = .ok declared

/-- What a head announces is read from it, whatever the body is. -/
theorem Response.readFrom_of_announced {head : ResponseHead} {bare : Response}
    {declared : Option Nat} (announced : announcedResponse toHead head = .ok (bare, declared))
    (body : Bytes) : ({ bare with body } : Response).ReadFrom toHead head declared := by
  -- The same with a response, whose status stands in the place of the method.
  unfold announcedResponse at announced
  cases known : Status.ofCode head.code with
  | error fault => rw [known] at announced; cases announced
  | ok status =>
    rw [known] at announced
    cases collected : collectFields head.fields with
    | error reason => simp only [collected] at announced; cases announced
    | ok fields =>
      simp only [collected] at announced
      split at announced
      · cases announced
      · rename_i length declares
        cases announced
        exact ⟨known, rfl, collected, declares⟩

/-- A response that was decoded was read from the head at the front, and ends where its head says. -/
theorem Response.exists_readFrom
    (decoded : decodeResponse toHead ended buffer = .message response consumed) :
    ∃ head rest bare declared, scanResponseHead buffer = .found head rest ∧
      announcedResponse toHead head = .ok (bare, declared) ∧
      response.ReadFrom toHead head declared ∧
      response.body = bodyBytes buffer (buffer.length - rest.length) consumed ∧
      consumed = buffer.length - rest.length + response.body.length ∧
      match declared with
      | some length => response.body.length = length
      | none => ended = true ∧ consumed = buffer.length := by
  have inside := (decodeResponse_consumed decoded).2
  obtain ⟨head, rest, bare, declared, scanned, announced, rfl, ends⟩ := ends_of_message decoded
  have long := length_bodyBytes inside (buffer.length - rest.length)
  refine ⟨head, rest, bare, declared, scanned, announced,
    Response.readFrom_of_announced announced _, rfl, ?_⟩
  dsimp only
  -- Without a declaration the end of the stream is where the body ends.
  cases declared with
  | none => exact ⟨by omega, ends⟩
  | some length =>
    have sum := eq_of_messageEnd ends.1
    exact ⟨by omega, by dsimp only; omega⟩

end Responses

end HttpEngine
