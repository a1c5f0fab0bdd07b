import RwaControlPlane.Durable.Schema

open checked
open rwa.gate (uniqueViolation)

namespace rwa.durable

/-- What names an account, after the name of its table. -/
def accountKey (productId ownerRef assetCode : String) (accountType : AccountType) : String :=
  ":" ++ productId ++ ":" ++ ownerRef ++ ":" ++ assetCode ++ ":" ++ accountType.text

def ledgerAccountId (productId ownerRef assetCode : String) (accountType : AccountType) : String :=
  "ledger" ++ accountKey productId ownerRef assetCode accountType

def registerAccountId (productId ownerRef assetCode : String) (accountType : AccountType) : String :=
  "register" ++ accountKey productId ownerRef assetCode accountType

/-- The asset of a product's units. -/
def unitAssetOf (productId : String) : String := "UNIT:" ++ productId

/-- Sum of the deltas of an asset. -/
def assetTotal (entries : List Entry) (assetCode : String) : Int :=
  ((entries.filter (·.assetCode = assetCode)).map (·.signedDelta)).sum

/-- Sum of the deltas of an account. -/
def accountTotal (entries : List Entry) (accountId : String) : Int :=
  ((entries.filter (·.accountId = accountId)).map (·.signedDelta)).sum

/-- Balance of an account: the sum of all its entries. -/
def accountBalance (batches : List Batch) (accountId : String) : Int :=
  (batches.map fun batch => accountTotal batch.entries accountId).sum

/-- A batch has two entries or more, none of them zero, and adds up to zero in
each asset. -/
def assertBalancedEntries (entries : List Entry) : Except Failure Unit := do
  throwIf (entries.length < 2) ⟨"INVALID_LEDGER_BATCH", "a ledger batch requires at least two entries"⟩
  throwIf (∃ entry ∈ entries, entry.signedDelta = 0) ⟨"INVALID_LEDGER_ENTRY", "ledger entries cannot be zero"⟩
  throwIf (∃ entry ∈ entries, assetTotal entries entry.assetCode ≠ 0)
    ⟨"UNBALANCED_LEDGER_BATCH", "unbalanced ledger asset"⟩

/-- A number of more than 78 digits does not fit its column. -/
def numericLimit : Int := 10 ^ 78

/-- Insert the entries of a draft batch: the account of an entry holds its asset,
and a batch has one entry for an account and asset. -/
def assertEntries (accounts : List Account) (entries : List Entry) : Except Failure Unit := do
  throwIf (∃ entry ∈ entries, ∃ account ∈ accounts, account.id = entry.accountId ∧
      account.assetCode ≠ entry.assetCode)
    ⟨"23514", "ledger account asset does not match entry asset"⟩
  throwIf (∃ entry ∈ entries, numericLimit ≤ |entry.signedDelta|) ⟨"22003", "numeric field overflow"⟩
  throwIf (¬(entries.map fun entry => (entry.accountId, entry.assetCode)).Nodup) uniqueViolation

/-- A batch id is new, and a transaction has one batch. -/
def assertNewBatch (batches : List Batch) (batchId : String) (transactionId : Option String) : Except Failure Unit :=
  throwIf (batchId ∈ batches.map (·.id) ∨ (transactionId ≠ none ∧ transactionId ∈ batches.map (·.transactionId)))
    uniqueViolation

namespace Database

/-- An account that is there already stays as it is. -/
def ensureLedgerAccount (db : Database) (productId ownerRef assetCode : String) (accountType : AccountType) :
    Database :=
  if ledgerAccountId productId ownerRef assetCode accountType ∈ db.ledgerAccounts.map (·.id) then db
  else
    { db with
      ledgerAccounts := db.ledgerAccounts ++
        [⟨ledgerAccountId productId ownerRef assetCode accountType, productId, ownerRef, assetCode, accountType⟩] }

def ensureRegisterAccount (db : Database) (productId ownerRef assetCode : String) (accountType : AccountType) :
    Database :=
  if registerAccountId productId ownerRef assetCode accountType ∈ db.registerAccounts.map (·.id) then db
  else
    { db with
      registerAccounts := db.registerAccounts ++
        [⟨registerAccountId productId ownerRef assetCode accountType, productId, ownerRef, assetCode, accountType⟩] }

/-- Post a balanced batch of existing accounts. The database checks the balance
once more when the batch becomes POSTED. -/
def appendLedgerBatch (db : Database) (batchId : String) (transactionId : Option String) (entries : List Entry) :
    Except Failure Database := do
  assertBalancedEntries entries
  throwIf (∃ entry ∈ entries, entry.accountId ∉ db.ledgerAccounts.map (·.id))
    ⟨"UNKNOWN_LEDGER_ACCOUNT", "one or more ledger accounts do not exist"⟩
  assertNewBatch db.ledgerBatches batchId transactionId
  assertEntries db.ledgerAccounts entries
  pure { db with ledgerBatches := db.ledgerBatches ++ [⟨batchId, transactionId, entries⟩] }

/-- Owner of an account. -/
def ownerOf (accounts : List Account) (accountId : String) : Option String :=
  (accounts.find? (·.id = accountId)).map (·.ownerRef)

/-- What the entries of an owner in an asset add up to, if there are any. -/
def ownerTotal (accounts : List Account) (entries : List Entry) (assetCode ownerRef : String) : Option Int :=
  match entries.filter fun entry => entry.assetCode = assetCode && ownerOf accounts entry.accountId = some ownerRef with
  | [] => none
  | owned => some (owned.map (·.signedDelta)).sum

/-- Post a batch of the share register. It has to mirror what the ledger batch of
the transaction moves in the same asset. -/
def appendRegisterBatch (db : Database) (batchId : String) (transactionId : Option String) (assetCode : String)
    (entries : List Entry) : Except Failure Database := do
  assertBalancedEntries entries
  throwIf (∃ entry ∈ entries, entry.accountId ∉ db.registerAccounts.map (·.id))
    ⟨"UNKNOWN_REGISTER_ACCOUNT", "one or more register accounts do not exist"⟩
  assertNewBatch db.registerBatches batchId transactionId
  throwIf (∃ entry ∈ entries, entry.assetCode ≠ assetCode) ⟨"23514", "register entry asset mismatch"⟩
  assertEntries db.registerAccounts entries
  let moves := (db.ledgerBatches.filter (·.transactionId = transactionId)).flatMap (·.entries)
  throwIf (∃ account ∈ db.ledgerAccounts ++ db.registerAccounts,
      ownerTotal db.ledgerAccounts moves assetCode account.ownerRef ≠
        ownerTotal db.registerAccounts entries assetCode account.ownerRef)
    ⟨"23514", "register batch does not mirror the asset ledger"⟩
  pure { db with registerBatches := db.registerBatches ++ [⟨batchId, transactionId, entries⟩] }

end Database

end rwa.durable
