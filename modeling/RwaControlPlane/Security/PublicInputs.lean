import RwaControlPlane.Security.FieldElement

open checked

namespace rwa.security

/-- Names of the public signals of the JoinSplit circuit. -/
inductive PublicSignal
  | merkleRoot | contextId | assetType | fee | recipient | relayer | transactionHash
  | inputNullifier0 | inputNullifier1
  | outputCommitmentX0 | outputCommitmentX1 | outputCommitmentY0 | outputCommitmentY1
deriving DecidableEq, Repr

/-- The property name of a signal. -/
def PublicSignal.name : PublicSignal → String
  | merkleRoot => "merkleRoot"
  | contextId => "contextId"
  | assetType => "assetType"
  | fee => "fee"
  | recipient => "recipient"
  | relayer => "relayer"
  | transactionHash => "transactionHash"
  | inputNullifier0 => "inputNullifier0"
  | inputNullifier1 => "inputNullifier1"
  | outputCommitmentX0 => "outputCommitmentX0"
  | outputCommitmentX1 => "outputCommitmentX1"
  | outputCommitmentY0 => "outputCommitmentY0"
  | outputCommitmentY1 => "outputCommitmentY1"

/-- The declared order of the public signals. -/
def joinSplitPublicSignalOrder : List PublicSignal :=
  [.merkleRoot, .contextId, .assetType, .fee, .recipient, .relayer, .transactionHash,
    .inputNullifier0, .inputNullifier1, .outputCommitmentX0, .outputCommitmentX1,
    .outputCommitmentY0, .outputCommitmentY1]

/-- The public inputs of a JoinSplit, by name. -/
structure JoinSplitPublicInputs (α : Type) where
  merkleRoot : α
  contextId : α
  assetType : α
  fee : α
  recipient : α
  relayer : α
  transactionHash : α
  inputNullifier0 : α
  inputNullifier1 : α
  outputCommitmentX0 : α
  outputCommitmentX1 : α
  outputCommitmentY0 : α
  outputCommitmentY1 : α
deriving DecidableEq, Repr

namespace JoinSplitPublicInputs

variable {α : Type}

/-- Property access by signal name. -/
def get (inputs : JoinSplitPublicInputs α) : PublicSignal → α
  | .merkleRoot => inputs.merkleRoot
  | .contextId => inputs.contextId
  | .assetType => inputs.assetType
  | .fee => inputs.fee
  | .recipient => inputs.recipient
  | .relayer => inputs.relayer
  | .transactionHash => inputs.transactionHash
  | .inputNullifier0 => inputs.inputNullifier0
  | .inputNullifier1 => inputs.inputNullifier1
  | .outputCommitmentX0 => inputs.outputCommitmentX0
  | .outputCommitmentX1 => inputs.outputCommitmentX1
  | .outputCommitmentY0 => inputs.outputCommitmentY0
  | .outputCommitmentY1 => inputs.outputCommitmentY1

/-- The values in the declared order. -/
def toList (inputs : JoinSplitPublicInputs α) : List α :=
  joinSplitPublicSignalOrder.map inputs.get

end JoinSplitPublicInputs

/-- Normalize every public input, in the declared order. -/
def normalizeJoinSplitPublicInputs (publicInputs : JoinSplitPublicInputs String) (labelPrefix : String) :
    Except Failure (JoinSplitPublicInputs FieldElement) := do
  let normalize (signal : PublicSignal) := normalizeFieldElement (publicInputs.get signal) (labelPrefix ++ signal.name)
  let merkleRoot ← normalize .merkleRoot
  let contextId ← normalize .contextId
  let assetType ← normalize .assetType
  let fee ← normalize .fee
  let recipient ← normalize .recipient
  let relayer ← normalize .relayer
  let transactionHash ← normalize .transactionHash
  let inputNullifier0 ← normalize .inputNullifier0
  let inputNullifier1 ← normalize .inputNullifier1
  let outputCommitmentX0 ← normalize .outputCommitmentX0
  let outputCommitmentX1 ← normalize .outputCommitmentX1
  let outputCommitmentY0 ← normalize .outputCommitmentY0
  let outputCommitmentY1 ← normalize .outputCommitmentY1
  pure { merkleRoot, contextId, assetType, fee, recipient, relayer, transactionHash, inputNullifier0,
         inputNullifier1, outputCommitmentX0, outputCommitmentX1, outputCommitmentY0, outputCommitmentY1 }

/-- Canonical JSON of a list of decimal texts. -/
def canonicalizeTexts (texts : List String) : String :=
  "[" ++ ",".intercalate (texts.map fun text => "\"" ++ text ++ "\"") ++ "]"

/-- Digest of the public inputs in the declared order. -/
def joinSplitPublicInputsHash (sha256 : String → String) (publicInputs : JoinSplitPublicInputs FieldElement) : String :=
  sha256 (canonicalizeTexts (publicInputs.toList.map toText))

end rwa.security
