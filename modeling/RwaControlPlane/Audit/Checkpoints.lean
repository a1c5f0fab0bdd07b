import RwaControlPlane.Library.JsText
import RwaControlPlane.Library.Paging
import RwaControlPlane.Storage.Canonical

open checked js_value paging rwa.storage
open rwa.gate (uniqueViolation)

namespace rwa.audit

/-- `audit_events` -/
structure AuditEvent where
  sequenceId : Int
  tenantId : String
  eventType : String
  aggregateType : String
  aggregateId : String
  metadata : JsValue
  previousHash : Option String
  eventHash : String

/-- `audit_chain_checkpoints` -/
structure AuditChainCheckpoint where
  tenantId : String
  checkpointNumber : Nat
  throughSequenceId : Int
  eventCount : Nat
  previousDigest : Option String
  digest : String
  createdBy : String
  externalAnchor : Option JsValue

/-- What a query on the audit tables can see. -/
structure Tables where
  events : List AuditEvent
  checkpoints : List AuditChainCheckpoint

/-- The largest `bigint`. -/
def maxBigint : Int := 9223372036854775807

section EventRange

-- rows of a page, and the table that is scanned
variable (batch : Nat) (events : List AuditEvent) (tenantId : String)

/-- The events of a tenant from one sequence id to another, in the order of
sequence ids. Without a last one the range is open. -/
def selected (first : Int) (last : Option Int) : List AuditEvent :=
  inOrder AuditEvent.sequenceId <| events.filter fun row =>
    row.tenantId = tenantId ∧ first ≤ row.sequenceId ∧ last.all (fun last => row.sequenceId ≤ last)

/-- The page loop of `eventRange`. The fuel bounds the pages that are read. -/
def eventPages (last : Option Int) : Nat → List String → Int → Int → Option (List String × Int)
  | 0, _, _, _ => none
  | fuel + 1, eventHashes, cursor, through =>
    let page := (selected events tenantId cursor last).take batch
    let eventHashes := eventHashes ++ page.map AuditEvent.eventHash
    let through := (page.getLast?.map AuditEvent.sequenceId).getD through
    if page.length < batch then some (eventHashes, through)
    else eventPages last fuel eventHashes (through + 1) through

/-- The event hashes of a range, and the sequence id of its last event. Every
full page reads at least one row, so the fuel is never used up. -/
def eventRange (first : Int) (last : Option Int) : List String × Int :=
  (eventPages batch events tenantId last (events.length + 1) [] first (first - 1)).getD ([], first - 1)

end EventRange

def digestPrefix : String := "rwa.audit-chain-checkpoint.v1"

/-- The text that a checkpoint hashes. Every part after the first stands behind a unit
separator. -/
def digestText (previousDigest : Option String) (throughSequenceId : Int) (eventCount : Nat)
    (eventHashes : List String) : String :=
  digestPrefix ++ "\x1f" ++ previousDigest.getD "" ++ "\x1f" ++ throughSequenceId.repr ++ "\x1f" ++
    eventCount.repr ++ String.join (eventHashes.map ("\x1f" ++ ·))

def digestOf (platform : Platform) (previousDigest : Option String) (throughSequenceId : Int) (eventCount : Nat)
    (eventHashes : List String) : String :=
  platform.sha256 (digestText previousDigest throughSequenceId eventCount eventHashes)

/-- The checkpoints of a tenant in the order of their numbers. -/
def checkpointsOf (checkpoints : List AuditChainCheckpoint) (tenantId : String) : List AuditChainCheckpoint :=
  inOrder AuditChainCheckpoint.checkpointNumber (checkpoints.filter fun row => row.tenantId = tenantId)

def lastCheckpoint (checkpoints : List AuditChainCheckpoint) (tenantId : String) : Option AuditChainCheckpoint :=
  (checkpointsOf checkpoints tenantId).getLast?

/-- The checks of `createCheckpoint` that come before its transaction. -/
def checkCreatedBy : JsValue → Except Failure String
  | .string text => do
    throwIf (¬js_text.Bounded text 200)
      ⟨"INVALID_CHECKPOINT_ACTOR", "createdBy must be a bounded non-empty string"⟩
    pure text
  | _ => .error ⟨"INVALID_CHECKPOINT_ACTOR", "createdBy must be a bounded non-empty string"⟩

/-- The checkpoint that `createCheckpoint` makes of what its transaction sees. -/
def createCheckpoint (platform : Platform) (batch : Nat) (view : Tables) (tenantId createdBy : String) :
    Except Failure AuditChainCheckpoint := do
  let last := lastCheckpoint view.checkpoints tenantId
  let first := (last.map AuditChainCheckpoint.throughSequenceId).getD 0 + 1
  let (eventHashes, through) := eventRange batch view.events tenantId first none
  throwIf (eventHashes.length = 0) ⟨"NO_NEW_AUDIT_EVENTS", "there are no new audit events to checkpoint"⟩
  let eventCount := (last.map AuditChainCheckpoint.eventCount).getD 0 + eventHashes.length
  let previousDigest := last.map AuditChainCheckpoint.digest
  pure
    { tenantId, throughSequenceId := through, eventCount, previousDigest, createdBy
      checkpointNumber := (last.map AuditChainCheckpoint.checkpointNumber).getD 0 + 1
      digest := digestOf platform previousDigest through eventCount eventHashes
      externalAnchor := none }

/-- The table constraints on a row of `audit_chain_checkpoints`. -/
def AuditChainCheckpoint.Valid (row : AuditChainCheckpoint) : Prop :=
  0 < row.checkpointNumber ∧ 0 < row.throughSequenceId ∧ row.previousDigest.all (IsHash ·) = true ∧ IsHash row.digest

instance (row : AuditChainCheckpoint) : Decidable row.Valid :=
  inferInstanceAs (Decidable (_ ∧ _ ∧ _ ∧ _))

/-- The columns of a row hold numbers of type `bigint`. -/
def AuditChainCheckpoint.InRange (row : AuditChainCheckpoint) : Prop :=
  (row.checkpointNumber : Int) ≤ maxBigint ∧ row.throughSequenceId ≤ maxBigint ∧ (row.eventCount : Int) ≤ maxBigint

instance (row : AuditChainCheckpoint) : Decidable row.InRange :=
  inferInstanceAs (Decidable (_ ∧ _ ∧ _))

def insertCheckpoint (tables : Tables) (row : AuditChainCheckpoint) : Except Failure Tables := do
  throwIf (¬row.InRange) bigintOutOfRange
  throwIf (¬row.Valid) checkViolation
  throwIf ((row.tenantId, row.checkpointNumber) ∈ tables.checkpoints.map fun other =>
    (other.tenantId, other.checkpointNumber)) uniqueViolation
  throwIf ((row.tenantId, row.throughSequenceId) ∈ tables.checkpoints.map fun other =>
    (other.tenantId, other.throughSequenceId)) uniqueViolation
  pure { tables with checkpoints := tables.checkpoints ++ [row] }

inductive MismatchReason
  | checkpointChainBroken | eventCountMismatch | digestMismatch
deriving DecidableEq

def MismatchReason.text : MismatchReason → String
  | checkpointChainBroken => "CHECKPOINT_CHAIN_BROKEN"
  | eventCountMismatch => "EVENT_COUNT_MISMATCH"
  | digestMismatch => "DIGEST_MISMATCH"

/-- `Boolean(value)` of a JSON value. -/
def truthy : JsValue → Bool
  | .null | .undefined | .bool false | .string "" => false
  | .number value => value ≠ 0
  | _ => true

/-- The first checkpoint that is not reproduced. -/
structure Mismatch where
  reason : MismatchReason
  checkpointNumber : Nat
  throughSequenceId : Int
  anchored : Bool

inductive Verification
  | invalid (mismatch : Mismatch)
  | valid (checkpoints : Nat) (eventCount : Nat) (latestDigest : Option String) (latestAnchor : Option JsValue)

/-- What the loop of `verifyCheckpoints` carries from one checkpoint to the next. -/
structure Progress where
  previousDigest : Option String
  previousThrough : Int
  eventCount : Nat

def Progress.start : Progress := ⟨none, 0, 0⟩

section Verify

variable (platform : Platform) (batch : Nat) (events : List AuditEvent) (tenantId : String)

/-- The body of the loop of `verifyCheckpoints`. -/
def verifyRow (progress : Progress) (row : AuditChainCheckpoint) : Except Mismatch Progress := do
  let through := row.throughSequenceId
  let eventHashes := (eventRange batch events tenantId (progress.previousThrough + 1) (some through)).1
  let eventCount := progress.eventCount + eventHashes.length
  let mismatch (reason : MismatchReason) : Mismatch :=
    { reason, checkpointNumber := row.checkpointNumber, throughSequenceId := through
      anchored := row.externalAnchor.any truthy }
  throwIf (row.previousDigest ≠ progress.previousDigest) (mismatch .checkpointChainBroken)
  throwIf (row.eventCount ≠ eventCount) (mismatch .eventCountMismatch)
  let expected := digestOf platform progress.previousDigest through eventCount eventHashes
  throwIf (expected ≠ row.digest) (mismatch .digestMismatch)
  pure { previousDigest := some row.digest, previousThrough := through, eventCount }

def verifyCheckpoints (checkpoints : List AuditChainCheckpoint) : Verification :=
  let rows := checkpointsOf checkpoints tenantId
  match rows.foldlM (verifyRow platform batch events tenantId) .start with
  | .error mismatch => .invalid mismatch
  | .ok final =>
    .valid rows.length final.eventCount final.previousDigest (rows.getLast?.bind AuditChainCheckpoint.externalAnchor)

end Verify

def Verification.isValid : Verification → Bool
  | .invalid .. => false
  | .valid .. => true

end rwa.audit
