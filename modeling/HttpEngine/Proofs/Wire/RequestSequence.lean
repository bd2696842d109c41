import HttpEngine.Proofs.Wire.RoundTrip
import HttpEngine.Proofs.Wire.Sequence

/-!
Requests that are written one behind the other are read one after the other: as many as there were,
in the same order, each of them as it was with the header lines that were added to it, and not a
byte is left.
-/

namespace HttpEngine

/-- A request on its way out: the host that it is for, and whether the connection is to stay. -/
structure Outgoing where
  request : Request
  host : String
  keepAlive : Bool
  deriving DecidableEq

/-- The methods that call for a length are these three. -/
theorem Method.announcesBody_iff {method : Method} :
    method.announcesBody = true ↔ method ∈ ([.post, .put, .patch] : List Method) := by
  cases method <;> decide

namespace Outgoing

variable {outgoing : Outgoing} {maxPayload : Nat}

/-- What is written. -/
def bytes (outgoing : Outgoing) : Bytes :=
  encodeRequest outgoing.request outgoing.host outgoing.keepAlive

/-- The request as it is read again. -/
def arrived (outgoing : Outgoing) : Request :=
  outgoing.request.delivered outgoing.host outgoing.keepAlive

/-- What can be written, and read again under a limit for bodies. -/
structure Fits (outgoing : Outgoing) (maxPayload : Nat) : Prop where
  writable : outgoing.request.IsWritable outgoing.host outgoing.keepAlive
  payload : outgoing.request.body.length ≤ maxPayload
  /-- A machine word counts the bytes. -/
  size : outgoing.bytes.length < wordLimit

instance (outgoing : Outgoing) (maxPayload : Nat) : Decidable (outgoing.Fits maxPayload) :=
  decidable_of_iff (outgoing.request.IsWritable outgoing.host outgoing.keepAlive ∧
      outgoing.request.body.length ≤ maxPayload ∧ outgoing.bytes.length < wordLimit)
    ⟨fun ⟨writable, payload, size⟩ => ⟨writable, payload, size⟩,
      fun fits => ⟨fits.writable, fits.payload, fits.size⟩⟩

/-- Something is written for every request. -/
theorem bytes_ne_nil (outgoing : Outgoing) : outgoing.bytes ≠ [] := by
  simp [bytes, encodeRequest, lineBytes]

/-- A request is read at the front, whatever stands behind it. -/
theorem Fits.decode (fits : outgoing.Fits maxPayload) (rest : Bytes) :
    decodeRequest maxPayload (outgoing.bytes ++ rest) =
      .message outgoing.arrived outgoing.bytes.length :=
  fits.writable.decode fits.payload fits.size rest

/-- Of the lines that are added, only the last one is about the connection. -/
theorem get?_connection (silent : outgoing.request.headers.contains "connection" = false) :
    outgoing.arrived.headers.get? "connection" = some (connectionWord outgoing.keepAlive) := by
  rw [arrived, Request.delivered, Headers.get?_append, get?_addedFields_connection, silent,
    if_neg Bool.false_ne_true, Option.some_or]

/-- A request that says nothing about the connection itself arrives with what was said for it. -/
theorem keepAlive_arrived (silent : outgoing.request.headers.contains "connection" = false) :
    outgoing.arrived.keepAlive = outgoing.keepAlive := by
  obtain ⟨closes, stays⟩ := Headers.wants_of_connectionWord (get?_connection silent)
  -- The version has no part in it.
  rw [Request.keepAlive, closes, stays]
  cases outgoing.keepAlive <;> simp

end Outgoing

/-- Requests that are written one behind the other are decoded one after the other. -/
theorem decodeStream_sequence {maxPayload : Nat} (sent : List Outgoing)
    (fits : ∀ outgoing ∈ sent, outgoing.Fits maxPayload) :
    decodeStream (decodeRequest maxPayload) (sent.flatMap Outgoing.bytes) =
      if sent.isEmpty then [.incomplete]
      else sent.map fun outgoing => .message outgoing.arrived outgoing.bytes.length := by
  refine decodeStream_flatMap sent (fun outgoing member => (fits outgoing member).decode)
    Outgoing.bytes_ne_nil ?_
  -- Where nothing is, a request may still come.
  simp [decodeRequest, scanRequestHead_nil]

/--
Requests that are written one behind the other come through.

As many are read as were written, in the same order, and each takes the bytes that were written for
it, so that nothing is left. It has its method, target, version, body and header lines, and in front
of these the lines that it lacked: the host, the length of its body if it has one or if its method
calls for one, and whether the connection is to stay. If the request says nothing about that itself,
it is read as it was said for it.
-/
theorem requests_come_through {maxPayload : Nat} (sent : List Outgoing)
    (fits : ∀ outgoing ∈ sent, outgoing.Fits maxPayload) :
    decodeStream (decodeRequest maxPayload) (sent.flatMap Outgoing.bytes) =
      (if sent.isEmpty then [.incomplete]
        else sent.map fun outgoing => .message outgoing.arrived outgoing.bytes.length) ∧
    ∀ outgoing ∈ sent,
      let request := outgoing.request
      let arrived := outgoing.arrived
      arrived.method = request.method ∧ arrived.target = request.target ∧
      arrived.version = request.version ∧ arrived.body = request.body ∧
      arrived.headers.fields =
        (if request.headers.contains "host" then [] else [⟨"Host", outgoing.host⟩])
          ++ (if request.headers.contains "content-length" = false ∧
                (request.body ≠ [] ∨ request.method ∈ [.post, .put, .patch]) then
              [⟨"Content-Length", decimal request.body.length⟩] else [])
          ++ (if request.headers.contains "connection" then []
              else [⟨"Connection", if outgoing.keepAlive then "keep-alive" else "close"⟩])
          ++ request.headers.fields ∧
      (request.headers.contains "connection" = false → arrived.keepAlive = outgoing.keepAlive) := by
  refine ⟨decodeStream_sequence sent fits, fun outgoing _ => ?_⟩
  refine ⟨rfl, rfl, rfl, rfl, ?_, Outgoing.keepAlive_arrived⟩
  simp only [Outgoing.arrived, Request.delivered, addedFields, connectionWord, Bool.and_eq_true,
    Bool.or_eq_true, Bool.not_eq_true', List.isEmpty_eq_false_iff, Method.announcesBody_iff]

/-- Three requests, of which one names its host itself, and one states its length. -/
def threeOutgoing : List Outgoing :=
  [⟨{ method := .get, target := "/caf\u00e9", headers := ⟨[⟨"Accept", "*/*"⟩]⟩ }, "a.example", true⟩,
    ⟨{ method := .put, target := "/", version := .http10
       headers := ⟨[⟨"host", "b.example"⟩, ⟨"Transfer-Encoding", "Identity"⟩]⟩ }, "", false⟩,
    ⟨{ method := .post, target := "*"
       headers := ⟨[⟨"content-length", "2"⟩, ⟨"Connection", "close"⟩]⟩, body := [0x0D, 0x0A] },
      "c.example:8080", true⟩]

/-- Three requests come through, the last of which has a body that looks like an empty line. -/
theorem requests_come_through_three :
    (∀ outgoing ∈ threeOutgoing, outgoing.Fits 2) ∧
      decodeStream (decodeRequest 2) (threeOutgoing.flatMap Outgoing.bytes) =
        threeOutgoing.map fun outgoing => .message outgoing.arrived outgoing.bytes.length := by
  have fits : ∀ outgoing ∈ threeOutgoing, outgoing.Fits 2 := by decide +kernel
  exact ⟨fits, (requests_come_through threeOutgoing fits).1⟩

end HttpEngine
