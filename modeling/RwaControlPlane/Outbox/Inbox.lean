import RwaControlPlane.Storage.Canonical

open checked js_value rwa.storage
open rwa.gate (uniqueViolation)

namespace rwa.outbox

def foreignKeyViolation : Failure := ⟨"23503", "insert violates foreign key constraint"⟩

def payloadTampered : Failure := ⟨"OUTBOX_PAYLOAD_TAMPERED", "outbox payload hash does not match payload"⟩

def serializationFailure : Failure :=
  ⟨"40001", "could not serialize access due to read/write dependencies among transactions"⟩

/-- A row of `outbox_events`, with what the consumers read of it. -/
structure OutboxEvent where
  id : String
  tenantId : String
  topic : String
  aggregateId : String
  payload : JsValue
  payloadHash : String

/-- What the callers of `enqueueOutbox` pass. The objects in the payload have each
key once. -/
structure OutboxInput where
  id : String
  tenantId : String
  topic : String
  aggregateId : String
  payload : JsValue
  distinct : distinctKeys payload = true

/-- A row of `inbox_consumptions`. -/
structure Consumption where
  consumerName : String
  eventId : String
  payloadHash : String
  result : JsValue

def Consumption.key (row : Consumption) : String × String := (row.consumerName, row.eventId)

/-- The rows that a handler has inserted in one transaction, with the delivery in
which it ran. -/
structure HandlerWrites (ρ : Type) where
  consumerName : String
  eventId : String
  delivery : Nat
  rows : List ρ

def HandlerWrites.key {ρ : Type} (writes : HandlerWrites ρ) : String × String := (writes.consumerName, writes.eventId)

structure Tables (ρ : Type) where
  events : List OutboxEvent
  consumptions : List Consumption
  writes : List (HandlerWrites ρ)

/-- What a handler that does not throw returns, and the rows it inserts. -/
structure Handled (ρ : Type) where
  result : JsValue
  rows : List ρ

/-- What `consumeOutboxOnce` returns. -/
structure Answer where
  duplicate : Bool
  result : JsValue

variable {ρ : Type} (platform : Platform)

/-- The row that `enqueueOutbox` inserts. -/
def outboxRow (input : OutboxInput) : Except Failure OutboxEvent := do
  let payloadHash ← sha256Canonical platform input.payload
  let payload ← jsonParameter platform input.payload
  throwIf (¬IsHash payloadHash) checkViolation
  pure
    { payload, payloadHash, id := input.id, tenantId := input.tenantId, topic := input.topic
      aggregateId := input.aggregateId }

/-- `enqueueOutbox` -/
def enqueueOutbox (events : List OutboxEvent) (input : OutboxInput) : Except Failure (List OutboxEvent) := do
  let row ← outboxRow platform input
  throwIf (∃ event ∈ events, event.id = input.id) uniqueViolation
  pure (events ++ [row])

/-- `value ?? other` -/
def coalesce (value other : JsValue) : JsValue :=
  match value with
  | .undefined => other
  | .null => other
  | value => value

/-- `handlerResult ?? {}` -/
def orEmpty (value : JsValue) : JsValue := coalesce value (.object [])

def findConsumption (consumptions : List Consumption) (consumerName eventId : String) : Option Consumption :=
  consumptions.find? (·.key = (consumerName, eventId))

/-- `consumeOutboxOnce` up to the call of the handler: the answer for an event that
was consumed before. -/
def checkEvent (consumptions : List Consumption) (consumerName : String) (event : OutboxEvent) :
    Except Failure (Option Answer) :=
  match findConsumption consumptions consumerName event.id with
  | some row => do
    throwIf (row.payloadHash ≠ event.payloadHash)
      ⟨"INBOX_PAYLOAD_CONFLICT", "event id was reused with a different payload"⟩
    pure (some ⟨true, row.result⟩)
  | none => do
    let payloadHash ← sha256Canonical platform event.payload
    throwIf (payloadHash ≠ event.payloadHash) payloadTampered
    pure none

/-- `consumeOutboxOnce` after the handler has returned, up to the end of its
transaction. The snapshot is the one in which the transaction reads. Two
transactions that have both looked for a row and both insert it cannot be
serialized. -/
def recordConsumption (snapshot tables : Tables ρ) (delivery : Nat) (consumerName : String) (event : OutboxEvent)
    (handled : Handled ρ) : Except Failure (Answer × Tables ρ) := do
  let result ← jsonParameter platform (orEmpty handled.result)
  throwIf (¬IsHash event.payloadHash) checkViolation
  throwIf ((findConsumption tables.consumptions consumerName event.id).isSome) serializationFailure
  throwIf (¬∃ row ∈ snapshot.events, row.id = event.id) foreignKeyViolation
  pure (⟨false, orEmpty handled.result⟩,
    { tables with
      consumptions := tables.consumptions ++
        [{ consumerName, eventId := event.id, payloadHash := event.payloadHash, result }]
      writes := tables.writes ++ [{ consumerName, eventId := event.id, delivery, rows := handled.rows }] })

/-- A row of `register_callback_events`. The transaction id is the parameter as
it is passed. -/
structure RegisterCallbackEvent where
  eventId : String
  transactionId : JsValue
  callbackType : String
  payloadHash : String

/-- A member of a value, where reading one does not throw. -/
def readMember (value : JsValue) (key : String) : Except Failure JsValue :=
  match value with
  | .undefined => .error (typeError ("Cannot read properties of undefined (reading '" ++ key ++ "')"))
  | .null => .error (typeError ("Cannot read properties of null (reading '" ++ key ++ "')"))
  | .object members => .ok (((members.find? (·.1 = key)).map Prod.snd).getD .undefined)
  | _ => .ok .undefined

/-- The handler of `SimulatedRegisterCallbackConsumer`. -/
def simulatedRegisterCallback (event : OutboxEvent) : Except Failure (Handled RegisterCallbackEvent) := do
  let named ← readMember event.payload "transactionId"
  let transactionId := coalesce named (.string event.aggregateId)
  pure
    { result := .object [("transactionId", transactionId), ("callbackType", .string event.topic)]
      rows := [{ transactionId, eventId := event.id, callbackType := event.topic, payloadHash := event.payloadHash }] }

def sampleHash : String := "0000000000000000000000000000000000000000000000000000000000000000"

def samplePlatform : Platform where
  sha256 _ := sampleHash
  numberText _ := "0"
  isoText _ := "1970-01-01T00:00:00.000Z"

end rwa.outbox
