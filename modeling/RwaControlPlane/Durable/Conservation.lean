import RwaControlPlane.Durable.Calls
import RwaControlPlane.Library.AsciiText

open checked keyed_rows
open rwa.control_plane (PlainId)

namespace rwa.durable

variable {service : DurableWorkflowService} {db : Database} {productId : String}

section Treasury

private theorem sum_filter_split {α : Type} {rows : List α} {weight : α → Int} {first second : α → Bool} :
    ((rows.filter first).map weight).sum =
      ((rows.filter fun row => first row && second row).map weight).sum +
        ((rows.filter fun row => first row && !second row).map weight).sum := by
  induction rows with
  | nil => rfl
  | cons row rest ih =>
    cases hfirst : first row <;> cases hsecond : second row <;> simp [hfirst, hsecond, ih] <;> omega

/-- Rows with one key are one row or none. -/
private theorem eq_nil_or_singleton {α κ : Type} {rows : List α} {key : α → κ} {wanted : κ}
    (hkeys : (rows.map key).Nodup)
    (hsame : ∀ row ∈ rows, key row = wanted) : rows = [] ∨ ∃ row, rows = [row] ∧ key row = wanted := by
  match rows with
  | [] => exact Or.inl rfl
  | [row] => exact Or.inr ⟨row, rfl, hsame row List.mem_cons_self⟩
  | first :: second :: rest =>
    rw [List.map_cons, List.map_cons, List.nodup_cons] at hkeys
    have heq : key first = key second := (hsame first (by simp)).trans (hsame second (by simp)).symm
    exact absurd (heq ▸ List.mem_cons_self) hkeys.1

/-- Balances of the unit accounts of a product's investors. -/
def Database.investorUnits (db : Database) (productId : String) : List Int :=
  (db.ledgerAccounts.filter fun account => account.productId = productId &&
    account.assetCode = unitAssetOf productId && account.accountType = .investor).map
      fun account => accountBalance db.ledgerBatches account.id

/-- Balance of a product's treasury account. -/
def Database.treasuryUnits (db : Database) (productId : String) : Int :=
  accountBalance db.ledgerBatches (ledgerAccountId productId "TREASURY" (unitAssetOf productId) .treasury)

/-- A unit account belongs to its product, and to an investor or to the treasury. -/
private theorem unit_account (hsound : db.Sound) {account : Account} (hmem : account ∈ db.ledgerAccounts)
    (hasset : account.assetCode = unitAssetOf productId) : account.productId = productId ∧
      (account.accountType = .investor ∨ account.accountType = .treasury ∧ account.ownerRef = "TREASURY") := by
  obtain hcurrency | ⟨hunit, htype⟩ := hsound.ledger.kinds account hmem
  · exact absurd hasset hcurrency.ne_unitAssetOf
  · exact ⟨unitAssetOf_inj (hunit.symm.trans hasset), htype⟩

/-- The treasury has issued what its investors hold. -/
theorem treasury_balance (hsound : db.Sound) (hplain : PlainId productId) :
    db.treasuryUnits productId = -(db.investorUnits productId).sum := by
  have htotal := @sum_accountBalance _ _ (unitAssetOf productId) hsound.ledger.ids hsound.ledger.booked
  have hzero : assetTotal (entriesOf db.ledgerBatches) (unitAssetOf productId) = 0 := by
    rw [assetTotal_entriesOf]
    refine List.sum_eq_zero fun amount hamount => ?_
    obtain ⟨batch, hbatch, rfl⟩ := List.mem_map.mp hamount
    exact hsound.ledger.balanced batch hbatch _
  rw [hzero, @sum_filter_split _ db.ledgerAccounts _ _ fun account => account.accountType = .investor] at htotal
  have hinvestors : (db.ledgerAccounts.filter fun account => account.assetCode = unitAssetOf productId &&
      account.accountType = .investor) = db.ledgerAccounts.filter fun account => account.productId = productId &&
        account.assetCode = unitAssetOf productId && account.accountType = .investor := by
    refine List.filter_congr fun account hmem => ?_
    by_cases hasset : account.assetCode = unitAssetOf productId
    · simp [hasset, (unit_account hsound hmem hasset).1]
    · simp [hasset]
  have htreasury : ((db.ledgerAccounts.filter fun account => account.assetCode = unitAssetOf productId &&
      !(account.accountType = .investor)).map fun account => accountBalance db.ledgerBatches account.id).sum =
        db.treasuryUnits productId := by
    have hsame : ∀ account ∈ db.ledgerAccounts.filter (fun account => account.assetCode = unitAssetOf productId &&
        !(account.accountType = .investor)),
        account.id = ledgerAccountId productId "TREASURY" (unitAssetOf productId) .treasury := by
      intro account hmem
      obtain ⟨hstored, hselected⟩ := List.mem_filter.mp hmem
      simp only [Bool.and_eq_true, Bool.not_eq_true', decide_eq_true_eq, decide_eq_false_iff_not] at hselected
      obtain ⟨hproduct, htype⟩ := unit_account hsound hstored hselected.1
      obtain ⟨htreasury, howner⟩ := htype.resolve_left hselected.2
      rw [hsound.ledger.named account hstored, hproduct, hselected.1, htreasury, howner]
    obtain hnone | ⟨account, hone, hid⟩ := eq_nil_or_singleton
      (hsound.ledger.ids.sublist (List.filter_sublist.map Account.id)) hsame
    · -- without a treasury account nothing is posted to it
      rw [hnone]
      refine (hsound.ledger.balance_of_unknown fun hknown => ?_).symm
      obtain ⟨account, hmem, hid⟩ := List.mem_map.mp hknown
      have hnamed := hsound.ledger.plain account hmem
      rw [hsound.ledger.named account hmem] at hid
      obtain ⟨-, -, hasset, htype⟩ := accountKey_inj hnamed.1 hnamed.2 hplain (by decide) (ledgerAccountId_key hid)
      have hselected : account ∈ db.ledgerAccounts.filter fun account =>
          account.assetCode = unitAssetOf productId && !(account.accountType = .investor) :=
        List.mem_filter.mpr ⟨hmem, by simp [hasset, htype]⟩
      rw [hnone] at hselected
      cases hselected
    · rw [hone, List.map_singleton, List.sum_singleton, hid]
      rfl
  rw [hinvestors, htreasury] at htotal
  unfold Database.investorUnits
  omega

end Treasury

/-- Invariants of the durable ledger and register. After every run over ids without
a colon: every posted batch adds up to zero in each asset, no investor and no issuer is
overdrawn, units in the ledger are those in the register, and the treasury of a product
has issued what its investors hold. -/
theorem books_invariants {actions : List Action} (hplain : ∀ action ∈ actions, action.call.PlainIds) :
    let db := run service actions
    (∀ batch ∈ db.ledgerBatches ++ db.registerBatches, ∀ assetCode, assetTotal batch.entries assetCode = 0) ∧
      (∀ account ∈ db.ledgerAccounts, account.accountType = .investor ∨ account.accountType = .issuer →
        0 ≤ accountBalance db.ledgerBatches account.id) ∧
      (∀ account ∈ db.registerAccounts, account.accountType = .investor ∨ account.accountType = .issuer →
        0 ≤ accountBalance db.registerBatches account.id) ∧
      (∀ productId ownerRef accountType, PlainId productId → PlainId ownerRef →
        accountBalance db.ledgerBatches (ledgerAccountId productId ownerRef (unitAssetOf productId) accountType) =
          accountBalance db.registerBatches
            (registerAccountId productId ownerRef (unitAssetOf productId) accountType)) ∧
      ∀ productId, PlainId productId → db.treasuryUnits productId = -(db.investorUnits productId).sum := by
  intro db
  have hsound : db.Sound := run_sound hplain
  refine ⟨List.forall_mem_append.mpr ⟨hsound.ledger.balanced, hsound.register.balanced⟩, hsound.covered, ?_,
    hsound.mirrored, fun _ => treasury_balance hsound⟩
  intro account hmem htype
  obtain ⟨hproduct, howner⟩ := hsound.register.plain account hmem
  rw [hsound.register.named account hmem, hsound.units account hmem,
    ← hsound.mirrored account.productId account.ownerRef account.accountType hproduct howner]
  by_cases hknown : ledgerAccountId account.productId account.ownerRef (unitAssetOf account.productId)
      account.accountType ∈ db.ledgerAccounts.map Account.id
  · obtain ⟨mirror, hmirror, hid⟩ := List.mem_map.mp hknown
    have hsame := accountKey_type (ledgerAccountId_key ((hsound.ledger.named mirror hmirror).symm.trans hid))
    rw [← hid]
    exact hsound.covered mirror hmirror (hsame ▸ htype)
  · rw [hsound.ledger.balance_of_unknown hknown]

section Sample

open rwa.control_plane (samplePlatform sampleSetup)

/-- Members written one after another. -/
def sampleEncrypt (request : Request) : String :=
  String.ofList (request.members.flatMap fun member => member.1.toList ++ '=' :: (member.2.toList ++ [';']))

/-- Members read back, with the text that was read since the last mark and the key
that waits for its value. -/
def sampleMembers : List Char → List Char → String → List (String × String)
  | [], _, _ => []
  | '=' :: rest, buffer, _ => sampleMembers rest [] (String.ofList buffer.reverse)
  | ';' :: rest, buffer, key => (key, String.ofList buffer.reverse) :: sampleMembers rest [] ""
  | char :: rest, buffer, key => sampleMembers rest (char :: buffer) key

def sampleDecrypt (ciphertext : String) : Except Failure Request :=
  let members := sampleMembers ciphertext.toList [] ""
  if distinct : (members.map Prod.fst).Nodup then .ok ⟨members, distinct⟩
  else .error ⟨"INVALID_CIPHERTEXT", "payload cannot be read"⟩

/-- Sixty-four digits that tell the sample's values apart. -/
def sampleMac (field : String) (value : Int) : String :=
  let code := (field ++ toString value).toList.foldl (fun code char => code * 257 + char.toNat) 7
  String.ofList ((List.range 64).map fun place => Nat.digitChar (code / 16 ^ place % 16))

def sampleService : DurableWorkflowService where
  tenantId := "sandbox-hk"
  sha256 := id
  numberText := fun number => toString number.num
  dateTime := js_text.bigInt
  isoText := toString
  timestamptz := js_text.bigInt
  numeric := js_text.bigInt
  encrypt := fun request _ => .ok (sampleEncrypt request)
  decrypt := fun ciphertext _ => sampleDecrypt ciphertext
  economicCommitter := some ⟨"HMAC-SHA256-v1", "key-1", fun _ _ field value => .ok (sampleMac field value)⟩

/-- The service of the sample, with ciphertexts read off their bytes. -/
def quickService : DurableWorkflowService :=
  { sampleService with
    decrypt := fun ciphertext _ =>
      let members := sampleMembers (ascii.chars ciphertext) [] ""
      if distinct : (members.map Prod.fst).Nodup then .ok ⟨members, distinct⟩
      else .error ⟨"INVALID_CIPHERTEXT", "payload cannot be read"⟩ }

theorem sampleService_eq_quick : sampleService = quickService := by
  simp only [quickService, sampleService, sampleDecrypt, ascii.chars_eq]

def sampleSubscription (id key units cashAmount : String) : Request :=
  ⟨[("id", id), ("idempotencyKey", key), ("productId", "fund"), ("investorId", "alice"),
    ("credentialId", "credential-alice"), ("units", units), ("cashAmount", cashAmount)], by simp⟩

def sampleTransfer (id key units : String) : Request :=
  ⟨[("id", id), ("idempotencyKey", key), ("productId", "fund"), ("sellerId", "alice"),
    ("sellerCredentialId", "credential-alice"), ("buyerId", "bob"), ("buyerCredentialId", "credential-bob"),
    ("units", units), ("pricePerUnit", "10"), ("fee", "1"), ("expiresAt", "900")], by simp⟩

def sampleRedemption (id key units : String) : Request :=
  ⟨[("id", id), ("idempotencyKey", key), ("productId", "fund"), ("investorId", "bob"),
    ("credentialId", "credential-bob"), ("units", units)], by simp⟩

/-- A plane is loaded; then a subscription, a transfer that fails and is retried,
and a redemption. -/
def sampleActions : List Action :=
  [⟨1, .bootstrapFromControlPlane samplePlatform sampleSetup⟩,
    ⟨2, .settle .subscribe (sampleSubscription "subscribe-1" "key-1" "5" "50")⟩,
    ⟨2, .settle .simulateRegisterFailure (sampleTransfer "transfer-1" "key-2" "2")⟩,
    ⟨3, .proposeExceptionResolution "case-transfer-1" "maker" .retry (some "transfer-2")⟩,
    ⟨3, .approveExceptionResolution "case-transfer-1" "checker" .approve⟩,
    ⟨4, .settle .redeem (sampleRedemption "redeem-1" "key-3" "1")⟩]

/-- What the investors hold of the fund at the end of the sample. -/
theorem sampleActions_units :
    (run sampleService sampleActions).investorUnits "fund" = [0, 3, 1] ∧
      0 < accountBalance (run sampleService sampleActions).registerBatches
        (registerAccountId "fund" "alice" (unitAssetOf "fund") .investor) := by
  rw [sampleService_eq_quick]
  decide +kernel

theorem sampleActions_plainIds : ∀ action ∈ sampleActions, action.call.PlainIds := by decide +kernel

theorem books_invariants_sample :
    (run sampleService sampleActions).investorUnits "fund" = [0, 3, 1] ∧
      (run sampleService sampleActions).treasuryUnits "fund" = -4 := by
  have hunits := sampleActions_units.1
  refine ⟨hunits, ?_⟩
  rw [(@books_invariants sampleService sampleActions sampleActions_plainIds).2.2.2.2 "fund" (by decide), hunits]
  rfl

end Sample

end rwa.durable
