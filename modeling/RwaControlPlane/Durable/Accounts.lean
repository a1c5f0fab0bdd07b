import RwaControlPlane.ControlPlane.Conservation
import RwaControlPlane.Durable.System
import RwaControlPlane.Library.DoubleEntry

open checked keyed_rows
open rwa.control_plane (PlainId)

namespace rwa.durable

section Names

/-- Texts before the first colon are the same when the whole texts are. -/
theorem colon_inj {first second rest other : List Char} (hfirst : ':' ∉ first) (hsecond : ':' ∉ second)
    (h : first ++ ':' :: rest = second ++ ':' :: other) : first = second ∧ rest = other := by
  induction first generalizing second with
  | nil =>
    cases second with
    | nil => exact ⟨rfl, (List.cons.inj h).2⟩
    | cons char second => exact absurd ((List.cons.inj h).1 ▸ List.mem_cons_self) hsecond
  | cons char first ih =>
    cases second with
    | nil => exact absurd ((List.cons.inj h).1 ▸ List.mem_cons_self) hfirst
    | cons other second =>
      obtain ⟨rfl, hrest⟩ := List.cons.inj h
      obtain ⟨rfl, hsame⟩ := ih (fun hmem => hfirst (List.mem_cons_of_mem _ hmem))
        (fun hmem => hsecond (List.mem_cons_of_mem _ hmem)) hrest
      exact ⟨rfl, hsame⟩

/-- Texts after the last colon are the same when the whole texts are. -/
theorem last_colon_inj {first second rest other : List Char} (hrest : ':' ∉ rest) (hother : ':' ∉ other)
    (h : first ++ ':' :: rest = second ++ ':' :: other) : first = second ∧ rest = other := by
  have hreverse := congrArg List.reverse h
  simp only [List.reverse_append, List.reverse_cons, List.append_assoc, List.singleton_append] at hreverse
  obtain ⟨hlast, hfront⟩ := colon_inj (by simpa using hrest) (by simpa using hother) hreverse
  exact ⟨List.reverse_injective hfront, List.reverse_injective hlast⟩

private theorem text_plain (accountType : AccountType) : ':' ∉ accountType.text.toList := by
  cases accountType <;> decide

private theorem text_inj {first second : AccountType} (h : first.text = second.text) : first = second := by
  cases first <;> cases second <;> first | rfl | exact absurd h (by decide)

variable {productId ownerRef assetCode productId' ownerRef' assetCode' : String} {type type' : AccountType}

private theorem accountKey_toList : (accountKey productId ownerRef assetCode type).toList =
    ':' :: (productId.toList ++ ':' :: (ownerRef.toList ++ ':' :: (assetCode.toList ++ ':' :: type.text.toList))) := by
  simp [accountKey]

/-- An account's name tells its type. -/
theorem accountKey_type
    (h : accountKey productId ownerRef assetCode type = accountKey productId' ownerRef' assetCode' type') :
    type = type' := by
  have hchars := congrArg String.toList h
  rw [accountKey_toList, accountKey_toList] at hchars
  have hlast := @last_colon_inj (':' :: (productId.toList ++ ':' :: (ownerRef.toList ++ ':' :: assetCode.toList)))
    (':' :: (productId'.toList ++ ':' :: (ownerRef'.toList ++ ':' :: assetCode'.toList))) _ _
    (text_plain type) (text_plain type') (by simpa using hchars)
  exact text_inj (String.toList_injective hlast.2)

/-- An account's name tells its asset, if that has no colon, and the text of product and
owner. -/
theorem accountKey_text (hasset : ':' ∉ assetCode.toList) (hasset' : ':' ∉ assetCode'.toList)
    (h : accountKey productId ownerRef assetCode type = accountKey productId' ownerRef' assetCode' type') :
    assetCode = assetCode' ∧ productId ++ ":" ++ ownerRef = productId' ++ ":" ++ ownerRef' := by
  have hchars := congrArg String.toList h
  rw [accountKey_toList, accountKey_toList] at hchars
  obtain ⟨hfront, -⟩ := @last_colon_inj
    (':' :: (productId.toList ++ ':' :: (ownerRef.toList ++ ':' :: assetCode.toList)))
    (':' :: (productId'.toList ++ ':' :: (ownerRef'.toList ++ ':' :: assetCode'.toList))) _ _
    (text_plain type) (text_plain type') (by simpa using hchars)
  obtain ⟨hparties, hassets⟩ := @last_colon_inj (productId.toList ++ ':' :: ownerRef.toList)
    (productId'.toList ++ ':' :: ownerRef'.toList) _ _ hasset hasset' (by simpa using hfront)
  exact ⟨String.toList_injective hassets, String.toList_injective (by simpa using hparties)⟩

/-- The text of product and owner is all that an account's name takes from them. -/
theorem accountKey_congr (h : productId ++ ":" ++ ownerRef = productId' ++ ":" ++ ownerRef') :
    accountKey productId ownerRef assetCode type = accountKey productId' ownerRef' assetCode type := by
  have hkey (product owner : String) : accountKey product owner assetCode type =
      ":" ++ (product ++ ":" ++ owner) ++ ":" ++ assetCode ++ ":" ++ type.text := by
    simp only [accountKey, String.append_assoc]
  rw [hkey, hkey, h]

/-- An account's name tells all that it is made of, for a product and an owner
without a colon. -/
theorem accountKey_inj (hproduct : PlainId productId) (howner : PlainId ownerRef) (hproduct' : PlainId productId')
    (howner' : PlainId ownerRef')
    (h : accountKey productId ownerRef assetCode type = accountKey productId' ownerRef' assetCode' type') :
    productId = productId' ∧ ownerRef = ownerRef' ∧ assetCode = assetCode' ∧ type = type' := by
  have hchars := congrArg String.toList h
  rw [accountKey_toList, accountKey_toList] at hchars
  obtain ⟨hproducts, howners⟩ := colon_inj hproduct hproduct' (List.cons.inj hchars).2
  obtain ⟨howners, hassets⟩ := colon_inj howner howner' howners
  obtain ⟨hassets, htypes⟩ := last_colon_inj (text_plain type) (text_plain type') hassets
  exact ⟨String.toList_injective hproducts, String.toList_injective howners, String.toList_injective hassets,
    text_inj (String.toList_injective htypes)⟩

private theorem append_left_inj {text first second : String} (h : text ++ first = text ++ second) : first = second := by
  have hchars := congrArg String.toList h
  rw [String.toList_append, String.toList_append] at hchars
  exact String.toList_injective (List.append_cancel_left hchars)

theorem ledgerAccountId_key
    (h : ledgerAccountId productId ownerRef assetCode type = ledgerAccountId productId' ownerRef' assetCode' type') :
    accountKey productId ownerRef assetCode type = accountKey productId' ownerRef' assetCode' type' :=
  append_left_inj h

theorem registerAccountId_key
    (h : registerAccountId productId ownerRef assetCode type =
      registerAccountId productId' ownerRef' assetCode' type') :
    accountKey productId ownerRef assetCode type = accountKey productId' ownerRef' assetCode' type' :=
  append_left_inj h

theorem unitAssetOf_inj (h : unitAssetOf productId = unitAssetOf productId') : productId = productId' :=
  append_left_inj h

/-- A currency is not the units of a product. -/
theorem IsCurrency.ne_unitAssetOf {currency : String} (h : IsCurrency currency) : currency ≠ unitAssetOf productId := by
  rintro rfl
  have hlength := h.1
  rw [unitAssetOf, String.toList_append, List.length_append] at hlength
  have hprefixed : "UNIT:".toList.length = 5 := rfl
  omega

end Names

section Balances

/-- What an entry posts. -/
def Entry.posting (entry : Entry) : String × Int := (entry.accountId, entry.signedDelta)

/-- All entries of some batches. -/
def entriesOf (batches : List Batch) : List Entry := batches.flatMap (·.entries)

theorem accountTotal_eq {entries : List Entry} {accountId : String} :
    accountTotal entries accountId = double_entry.balance (entries.map Entry.posting) accountId := by
  rw [accountTotal, double_entry.balance, List.filter_map, List.map_map]
  rfl

theorem accountBalance_eq {batches : List Batch} {accountId : String} :
    accountBalance batches accountId = double_entry.balance ((entriesOf batches).map Entry.posting) accountId := by
  induction batches with
  | nil => rfl
  | cons batch rest ih =>
    have hentries : entriesOf (batch :: rest) = batch.entries ++ entriesOf rest := rfl
    rw [hentries, List.map_append, double_entry.balance_append, ← ih, ← accountTotal_eq]
    rfl

theorem accountBalance_concat {batches : List Batch} {batch : Batch} {accountId : String} :
    accountBalance (batches ++ [batch]) accountId = accountBalance batches accountId +
      accountTotal batch.entries accountId := by
  simp [accountBalance]

/-- An entry posts to an account of its asset. -/
def Booked (accounts : List Account) (entry : Entry) : Prop :=
  ∃ account ∈ accounts, account.id = entry.accountId ∧ account.assetCode = entry.assetCode

theorem Booked.mono {accounts more : List Account} {entry : Entry} (h : Booked accounts entry)
    (hmore : ∀ account ∈ accounts, account ∈ more) : Booked more entry := by
  obtain ⟨account, hmem, hid, hasset⟩ := h
  exact ⟨account, hmore account hmem, hid, hasset⟩

/-- The asset of an entry is that of the account it posts to. -/
theorem Booked.asset {accounts : List Account} {entry : Entry} (h : Booked accounts entry)
    (hids : (accounts.map Account.id).Nodup) {account : Account} (hmem : account ∈ accounts)
    (hid : account.id = entry.accountId) : account.assetCode = entry.assetCode := by
  obtain ⟨other, hother, hid', hasset⟩ := h
  rw [List.inj_on_of_nodup_map hids hmem hother (hid.trans hid'.symm)]
  exact hasset

theorem assetTotal_append {first second : List Entry} {assetCode : String} :
    assetTotal (first ++ second) assetCode = assetTotal first assetCode + assetTotal second assetCode := by
  simp [assetTotal]

theorem assetTotal_entriesOf {batches : List Batch} {assetCode : String} :
    assetTotal (entriesOf batches) assetCode = (batches.map fun batch => assetTotal batch.entries assetCode).sum := by
  induction batches with
  | nil => rfl
  | cons batch rest ih =>
    have hentries : entriesOf (batch :: rest) = batch.entries ++ entriesOf rest := rfl
    rw [hentries, assetTotal_append, ih]
    rfl

/-- The balances of all accounts of an asset add up to what is posted in it. -/
theorem sum_accountBalance {accounts : List Account} {batches : List Batch} {assetCode : String}
    (hids : (accounts.map Account.id).Nodup) (hbooked : ∀ entry ∈ entriesOf batches, Booked accounts entry) :
    ((accounts.filter (·.assetCode = assetCode)).map fun account => accountBalance batches account.id).sum =
      assetTotal (entriesOf batches) assetCode := by
  have hnodup : ((accounts.filter (·.assetCode = assetCode)).map Account.id).Nodup :=
    hids.sublist (List.filter_sublist.map Account.id)
  have hposted : ∀ posting ∈ ((entriesOf batches).filter (·.assetCode = assetCode)).map Entry.posting,
      posting.1 ∈ (accounts.filter (·.assetCode = assetCode)).map Account.id := by
    intro posting hposting
    obtain ⟨entry, hentry, rfl⟩ := List.mem_map.mp hposting
    obtain ⟨hmem, hasset⟩ := List.mem_filter.mp hentry
    obtain ⟨account, haccount, hid, hsame⟩ := hbooked entry hmem
    have hkept : account.assetCode = assetCode := hsame.trans (by simpa using hasset)
    exact List.mem_map.mpr ⟨account, List.mem_filter.mpr ⟨haccount, by simpa using hkept⟩, hid⟩
  have hsum := double_entry.sum_balance hnodup hposted
  have htotal : double_entry.total (((entriesOf batches).filter (·.assetCode = assetCode)).map Entry.posting) =
      assetTotal (entriesOf batches) assetCode := by
    rw [double_entry.total, List.map_map]
    rfl
  rw [← htotal, ← hsum, List.map_map]
  refine congrArg List.sum (List.map_congr_left fun account haccount => ?_)
  obtain ⟨hmem, hasset⟩ := List.mem_filter.mp haccount
  -- every entry of the account is in its asset
  rw [Function.comp_apply, accountBalance_eq, ← accountTotal_eq, ← accountTotal_eq, accountTotal, accountTotal,
    List.filter_filter]
  refine congrArg (fun entries => (entries.map Entry.signedDelta).sum) (List.filter_congr fun entry hentry => ?_)
  by_cases hid : entry.accountId = account.id
  · have hsame := (hbooked entry hentry).asset hids hmem hid.symm
    have hkept : entry.assetCode = assetCode := hsame.symm.trans (by simpa using hasset)
    simp [hid, hkept]
  · simp [hid]

end Balances

section Posting

/-- Entries that can be posted: they add up to zero in each asset, and each posts
to an account of its own. -/
structure Postable (accounts : List Account) (entries : List Entry) : Prop where
  balanced : ∀ assetCode, assetTotal entries assetCode = 0
  booked : ∀ entry ∈ entries, Booked accounts entry
  nodup : ((entries.map Entry.posting).map Prod.fst).Nodup

/-- Whatever the two checks on a batch accept can be posted. -/
private theorem postable_of_checks {accounts : List Account} {entries : List Entry}
    (hbalanced : assertBalancedEntries entries = .ok ())
    (hknown : ¬∃ entry ∈ entries, entry.accountId ∉ accounts.map (·.id))
    (hentries : assertEntries accounts entries = .ok ()) : Postable accounts entries := by
  simp only [assertBalancedEntries, bind_eq_ok_iff, throwIf_eq_ok_iff, exists_unit] at hbalanced
  simp only [assertEntries, bind_eq_ok_iff, throwIf_eq_ok_iff, exists_unit, not_not] at hentries
  obtain ⟨-, -, hzero⟩ := hbalanced
  obtain ⟨hassets, -, hnodup⟩ := hentries
  have hbooked : ∀ entry ∈ entries, Booked accounts entry := by
    intro entry hentry
    have hid : entry.accountId ∈ accounts.map (·.id) := by
      by_contra hmissing
      exact hknown ⟨entry, hentry, hmissing⟩
    obtain ⟨account, haccount, hsame⟩ := List.mem_map.mp hid
    refine ⟨account, haccount, hsame, ?_⟩
    by_contra hasset
    exact hassets ⟨entry, hentry, account, haccount, hsame, hasset⟩
  refine ⟨fun assetCode => ?_, hbooked, ?_⟩
  · by_cases hposted : ∃ entry ∈ entries, entry.assetCode = assetCode
    · obtain ⟨entry, hentry, rfl⟩ := hposted
      by_contra hsum
      exact hzero ⟨entry, hentry, hsum⟩
    · have hnone : entries.filter (·.assetCode = assetCode) = [] := by
        rw [List.filter_eq_nil_iff]
        intro entry hentry hsame
        exact hposted ⟨entry, hentry, by simpa using hsame⟩
      rw [assetTotal, hnone]
      rfl
  · -- entries of one account would be in one asset
    rw [List.map_map]
    refine List.Nodup.map_on ?_ (List.Nodup.of_map _ hnodup)
    intro first hfirst second hsecond hsame
    obtain ⟨account, haccount, hid, hasset⟩ := hbooked first hfirst
    have hother : account.assetCode = second.assetCode := by
      by_contra hne
      exact hassets ⟨second, hsecond, account, haccount, hid.trans hsame, hne⟩
    exact List.inj_on_of_nodup_map hnodup hfirst hsecond (Prod.ext hsame (hasset.symm.trans hother))

variable {db next : Database} {batchId : String} {transactionId : Option String} {entries : List Entry}

theorem appendLedgerBatch_ok (h : db.appendLedgerBatch batchId transactionId entries = .ok next) :
    Postable db.ledgerAccounts entries ∧ batchId ∉ db.ledgerBatches.map (·.id) ∧
      next = { db with ledgerBatches := db.ledgerBatches ++ [⟨batchId, transactionId, entries⟩] } := by
  simp only [Database.appendLedgerBatch, assertNewBatch, bind_eq_ok_iff, throwIf_eq_ok_iff, exists_unit,
    pure_eq_ok_iff, not_or] at h
  obtain ⟨hbalanced, hknown, ⟨hfresh, -⟩, hentries, rfl⟩ := h
  exact ⟨postable_of_checks hbalanced hknown hentries, hfresh, rfl⟩

theorem appendRegisterBatch_ok {assetCode : String}
    (h : db.appendRegisterBatch batchId transactionId assetCode entries = .ok next) :
    Postable db.registerAccounts entries ∧
      next = { db with registerBatches := db.registerBatches ++ [⟨batchId, transactionId, entries⟩] } := by
  simp only [Database.appendRegisterBatch, assertNewBatch, bind_eq_ok_iff, throwIf_eq_ok_iff, exists_unit,
    pure_eq_ok_iff] at h
  obtain ⟨hbalanced, hknown, -, -, hentries, -, rfl⟩ := h
  exact ⟨postable_of_checks hbalanced hknown hentries, rfl⟩

end Posting

end rwa.durable
