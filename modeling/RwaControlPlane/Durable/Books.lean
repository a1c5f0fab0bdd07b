import RwaControlPlane.Durable.Resolutions

open checked keyed_rows
open rwa.control_plane (PlainId)

namespace rwa.durable

/-- How the accounts of a table are named. -/
abbrev Naming := String → String → String → AccountType → String

/-- An account holds cash, or units of its own product for an investor or for the
treasury. -/
def Account.OfKind (account : Account) : Prop :=
  IsCurrency account.assetCode ∨ account.assetCode = unitAssetOf account.productId ∧
    (account.accountType = .investor ∨ account.accountType = .treasury ∧ account.ownerRef = "TREASURY")

/-- Accounts under their names, and balanced batches that post to them. -/
structure Books (name : Naming) (accounts : List Account) (batches : List Batch) : Prop where
  ids : (accounts.map Account.id).Nodup
  named : ∀ account ∈ accounts,
    account.id = name account.productId account.ownerRef account.assetCode account.accountType
  plain : ∀ account ∈ accounts, PlainId account.productId ∧ PlainId account.ownerRef
  kinds : ∀ account ∈ accounts, account.OfKind
  booked : ∀ entry ∈ entriesOf batches, Booked accounts entry
  balanced : ∀ batch ∈ batches, ∀ assetCode, assetTotal batch.entries assetCode = 0

namespace Books

variable {name : Naming} {accounts : List Account} {batches : List Batch}

theorem empty : Books name [] [] :=
  ⟨List.nodup_nil, by simp, by simp, by simp, by simp [entriesOf], by simp⟩

/-- Nothing is posted to an account that does not exist. -/
theorem balance_of_unknown (h : Books name accounts batches) {accountId : String}
    (hunknown : accountId ∉ accounts.map Account.id) : accountBalance batches accountId = 0 := by
  rw [accountBalance_eq]
  refine double_entry.balance_of_not_mem fun hmem => ?_
  rw [List.map_map] at hmem
  obtain ⟨entry, hentry, rfl⟩ := List.mem_map.mp hmem
  obtain ⟨account, haccount, hid, -⟩ := h.booked entry hentry
  exact hunknown (List.mem_map.mpr ⟨account, haccount, hid⟩)

theorem post (h : Books name accounts batches) {batch : Batch} (hpostable : Postable accounts batch.entries) :
    Books name accounts (batches ++ [batch]) := by
  refine ⟨h.ids, h.named, h.plain, h.kinds, ?_, ?_⟩
  · intro entry hentry
    rw [entriesOf, List.flatMap_append, List.mem_append] at hentry
    rcases hentry with hold | hnew
    · exact h.booked entry hold
    · exact hpostable.booked entry (by simpa using hnew)
  · intro other hother
    rcases List.mem_append.mp hother with hold | hnew
    · exact h.balanced other hold
    · obtain rfl := List.mem_singleton.mp hnew
      exact hpostable.balanced

theorem addAccount (h : Books name accounts batches) {account : Account}
    (hfresh : account.id ∉ accounts.map Account.id)
    (hnamed : account.id = name account.productId account.ownerRef account.assetCode account.accountType)
    (hplain : PlainId account.productId ∧ PlainId account.ownerRef) (hkind : account.OfKind) :
    Books name (accounts ++ [account]) batches := by
  refine ⟨nodup_concat h.ids hfresh, ?_, ?_, ?_, ?_, h.balanced⟩
  · exact List.forall_mem_append.mpr ⟨h.named, by simpa using hnamed⟩
  · exact List.forall_mem_append.mpr ⟨h.plain, by simpa using hplain⟩
  · exact List.forall_mem_append.mpr ⟨h.kinds, by simpa using hkind⟩
  · exact fun entry hentry => (h.booked entry hentry).mono fun _ hmem => List.mem_append_left _ hmem

end Books

/-- No investor and no issuer is overdrawn. -/
def Covered (accounts : List Account) (batches : List Batch) : Prop :=
  ∀ account ∈ accounts, account.accountType = .investor ∨ account.accountType = .issuer →
    0 ≤ accountBalance batches account.id

/-- Every entry that takes something is covered by its account, or takes it from
an account that may be overdrawn. -/
def CoveredBy (batches : List Batch) (entries : List Entry) : Prop :=
  ∀ entry ∈ entries, entry.signedDelta < 0 → 0 ≤ accountBalance batches entry.accountId + entry.signedDelta ∨
    ∃ productId ownerRef assetCode accountType, accountType ≠ .investor ∧ accountType ≠ .issuer ∧
      entry.accountId = ledgerAccountId productId ownerRef assetCode accountType

section Ledger

variable {accounts : List Account} {batches : List Batch}

theorem Covered.post (h : Covered accounts batches) (hbooks : Books ledgerAccountId accounts batches) {batch : Batch}
    (hpostable : Postable accounts batch.entries) (hcovered : CoveredBy batches batch.entries) :
    Covered accounts (batches ++ [batch]) := by
  intro account hmem htype
  have hentries : entriesOf (batches ++ [batch]) = entriesOf batches ++ batch.entries := by simp [entriesOf]
  have hbalance := h account hmem htype
  rw [accountBalance_eq] at hbalance ⊢
  rw [hentries, List.map_append]
  refine double_entry.nonneg_of_covered hpostable.nodup hbalance fun posting hposting hsame hneg => ?_
  obtain ⟨entry, hentry, rfl⟩ := List.mem_map.mp hposting
  obtain henough | ⟨productId, ownerRef, assetCode, accountType, hinvestor, hissuer, hname⟩ :=
    hcovered entry hentry hneg
  · rw [accountBalance_eq, show entry.accountId = account.id from hsame] at henough
    exact henough
  · -- the account would have two types
    have hid : entry.accountId = account.id := hsame
    rw [hname, hbooks.named account hmem] at hid
    have hsameType := accountKey_type (ledgerAccountId_key hid)
    rw [← hsameType] at htype
    exact absurd htype (not_or.mpr ⟨hinvestor, hissuer⟩)

theorem Covered.addAccount (h : Covered accounts batches) (hbooks : Books ledgerAccountId accounts batches)
    {account : Account} (hfresh : account.id ∉ accounts.map Account.id) : Covered (accounts ++ [account]) batches := by
  intro other hother htype
  rcases List.mem_append.mp hother with hold | hnew
  · exact h other hold htype
  · obtain rfl := List.mem_singleton.mp hnew
    rw [hbooks.balance_of_unknown hfresh]

end Ledger

section Units

variable {ledgerAccounts registerAccounts : List Account} {ledgerBatches registerBatches : List Batch}

/-- Every unit account of the ledger has the balance of the register account of
the same name. -/
def Mirrored (ledgerBatches registerBatches : List Batch) : Prop :=
  ∀ productId ownerRef accountType, PlainId productId → PlainId ownerRef →
    accountBalance ledgerBatches (ledgerAccountId productId ownerRef (unitAssetOf productId) accountType) =
      accountBalance registerBatches (registerAccountId productId ownerRef (unitAssetOf productId) accountType)

/-- Entries in a currency post nothing to unit accounts. -/
theorem cash_total (hbooks : Books ledgerAccountId ledgerAccounts ledgerBatches) {entries : List Entry}
    (hbooked : ∀ entry ∈ entries, Booked ledgerAccounts entry)
    (hcurrency : ∀ entry ∈ entries, IsCurrency entry.assetCode)
    {productId ownerRef : String} {accountType : AccountType} (hproduct : PlainId productId)
    (howner : PlainId ownerRef) :
    accountTotal entries (ledgerAccountId productId ownerRef (unitAssetOf productId) accountType) = 0 := by
  rw [accountTotal_eq]
  refine double_entry.balance_of_not_mem fun hmem => ?_
  rw [List.map_map] at hmem
  obtain ⟨entry, hentry, hid⟩ := List.mem_map.mp hmem
  obtain ⟨account, haccount, hsame, hasset⟩ := hbooked entry hentry
  have hplain := hbooks.plain account haccount
  have hname : ledgerAccountId account.productId account.ownerRef account.assetCode account.accountType =
      ledgerAccountId productId ownerRef (unitAssetOf productId) accountType := by
    rw [← hbooks.named account haccount, hsame]
    exact hid
  have hunit := (accountKey_inj hplain.1 hplain.2 hproduct howner (ledgerAccountId_key hname)).2.2.1
  exact (hcurrency entry hentry).ne_unitAssetOf (hasset.symm.trans hunit)

/-- Units move in the ledger as they move in the register. -/
theorem unitEntries_total {productId source target ownerRef unitProduct : String}
    {sourceType targetType accountType : AccountType} {units : Int} :
    accountTotal (unitEntries ledgerAccountId productId source sourceType target targetType units)
        (ledgerAccountId unitProduct ownerRef (unitAssetOf unitProduct) accountType) =
      accountTotal (unitEntries registerAccountId productId source sourceType target targetType units)
        (registerAccountId unitProduct ownerRef (unitAssetOf unitProduct) accountType) := by
  have hname {owner : String} {type : AccountType} :
      (ledgerAccountId productId owner (unitAssetOf productId) type =
        ledgerAccountId unitProduct ownerRef (unitAssetOf unitProduct) accountType) =
      (registerAccountId productId owner (unitAssetOf productId) type =
        registerAccountId unitProduct ownerRef (unitAssetOf unitProduct) accountType) := by
    refine propext ⟨fun h => ?_, fun h => ?_⟩
    · exact congrArg ("register" ++ ·) (ledgerAccountId_key h)
    · exact congrArg ("ledger" ++ ·) (registerAccountId_key h)
  simp only [accountTotal, unitEntries, List.filter_cons, List.filter_nil, hname]
  split <;> split <;> rfl

end Units

end rwa.durable
