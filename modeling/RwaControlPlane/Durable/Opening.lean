import RwaControlPlane.Durable.Loading

open checked inserts js_map
open rwa.control_plane (ControlPlane balanceKey balanceOf)

namespace rwa.durable

section Asking

variable (plane : ControlPlane) (product : control_plane.Product)

/-- The ledger accounts that an owner needs at a product. -/
def accountsOfOwner (owner : String) : List Account :=
  let cash : Account :=
    ⟨ledgerAccountId product.id owner product.rules.currency (cashType product.issuerId owner), product.id, owner,
      product.rules.currency, cashType product.issuerId owner⟩
  let units : Account :=
    ⟨ledgerAccountId product.id owner (unitAssetOf product.id) (unitType owner), product.id, owner,
      unitAssetOf product.id, unitType owner⟩
  (if owner = "TREASURY" then [] else [cash]) ++ (if owner = "EXTERNAL_CASH" then [] else [units])

/-- The ledger accounts that a product needs. -/
def accountsOf : List Account :=
  (ownersOf plane product).flatMap (accountsOfOwner product) ++
    [⟨ledgerAccountId product.id product.issuerId product.rules.currency .fee, product.id, product.issuerId,
      product.rules.currency, .fee⟩]

/-- The ledger accounts that the products of a plane need, one after another. -/
def accountsNeeded : List Account := plane.products.values.flatMap (accountsOf plane)

/-- An account of this id has this asset: of the accounts with the id that are needed, the
first one. -/
def Bookable (accountId assetCode : String) : Prop :=
  ∃ account, (accountsNeeded plane).find? (·.id = accountId) = some account ∧ account.assetCode = assetCode

variable {plane product} {db : Database}

private theorem ensureLedgerAccount_rows {productId ownerRef assetCode : String} {accountType : AccountType} :
    (db.ensureLedgerAccount productId ownerRef assetCode accountType).ledgerAccounts =
      insertNew Account.id db.ledgerAccounts
        ⟨ledgerAccountId productId ownerRef assetCode accountType, productId, ownerRef, assetCode, accountType⟩ := by
  unfold Database.ensureLedgerAccount insertNew
  split
  · rfl
  · rfl

private theorem ensureRegisterAccount_rows {productId ownerRef assetCode : String} {accountType : AccountType} :
    (db.ensureRegisterAccount productId ownerRef assetCode accountType).ledgerAccounts = db.ledgerAccounts := by
  unfold Database.ensureRegisterAccount
  split
  · rfl
  · rfl

private theorem ensureOwner_rows {owner : String} : (ensureOwner product db owner).ledgerAccounts =
    (accountsOfOwner product owner).foldl (insertNew Account.id) db.ledgerAccounts := by
  unfold ensureOwner accountsOfOwner
  by_cases htreasury : owner = "TREASURY"
  · have hexternal : owner ≠ "EXTERNAL_CASH" := by
      rintro rfl
      exact absurd htreasury (by decide)
    simp only [if_pos htreasury, if_neg hexternal, ensureRegisterAccount_rows, ensureLedgerAccount_rows,
      List.nil_append, List.foldl_cons, List.foldl_nil, unitType]
  · by_cases hexternal : owner = "EXTERNAL_CASH"
    · simp only [if_neg htreasury, if_pos hexternal, ensureLedgerAccount_rows, List.append_nil, List.foldl_cons,
        List.foldl_nil]
    · simp only [if_neg htreasury, if_neg hexternal, ensureRegisterAccount_rows, ensureLedgerAccount_rows,
        List.singleton_append, List.foldl_cons, List.foldl_nil, unitType]

private theorem ensureOwners_rows {owners : List String} : (owners.foldl (ensureOwner product) db).ledgerAccounts =
    (owners.flatMap (accountsOfOwner product)).foldl (insertNew Account.id) db.ledgerAccounts := by
  induction owners generalizing db with
  | nil => rfl
  | cons owner rest ih => rw [List.foldl_cons, ih, ensureOwner_rows, List.flatMap_cons, List.foldl_append]

private theorem ensureAccounts_rows : (ensureAccounts plane db product).ledgerAccounts =
    (accountsOf plane product).foldl (insertNew Account.id) db.ledgerAccounts := by
  unfold ensureAccounts accountsOf
  rw [ensureLedgerAccount_rows, ensureOwners_rows, List.foldl_append]
  rfl

/-- The accounts that are opened are those that are needed, each id once. -/
theorem ensureAll_rows {products : List control_plane.Product} :
    (products.foldl (ensureAccounts plane) db).ledgerAccounts =
      (products.flatMap (accountsOf plane)).foldl (insertNew Account.id) db.ledgerAccounts := by
  induction products generalizing db with
  | nil => rfl
  | cons product rest ih => rw [List.foldl_cons, ih, ensureAccounts_rows, List.flatMap_cons, List.foldl_append]

private theorem ensureAll_batches {products : List control_plane.Product} :
    (products.foldl (ensureAccounts plane) db).ledgerBatches = db.ledgerBatches := by
  have howner (product : control_plane.Product) (db : Database) (owner : String) :
      (ensureOwner product db owner).ledgerBatches = db.ledgerBatches := by
    unfold ensureOwner Database.ensureLedgerAccount Database.ensureRegisterAccount
    dsimp only
    split_ifs <;> rfl
  have howners (product : control_plane.Product) (owners : List String) (db : Database) :
      (owners.foldl (ensureOwner product) db).ledgerBatches = db.ledgerBatches := by
    induction owners generalizing db with
    | nil => rfl
    | cons owner rest ih => rw [List.foldl_cons, ih, howner]
  induction products generalizing db with
  | nil => rfl
  | cons product rest ih =>
    rw [List.foldl_cons, ih]
    unfold ensureAccounts Database.ensureLedgerAccount
    split
    · exact howners product _ db
    · exact howners product _ db

/-- The accounts of a plane that is loaded into a database without accounts. -/
def openedAccounts (plane : ControlPlane) : List Account := (accountsNeeded plane).foldl (insertNew Account.id) []

theorem openedAccounts_nodup : ((openedAccounts plane).map Account.id).Nodup := insertAll_nodup List.nodup_nil

theorem booked_iff {entry : Entry} : Booked (openedAccounts plane) entry ↔
    Bookable plane entry.accountId entry.assetCode := by
  have hfound : (openedAccounts plane).find? (fun account => decide (account.id = entry.accountId)) =
      (accountsNeeded plane).find? (fun account => decide (account.id = entry.accountId)) := by
    unfold openedAccounts
    rw [find?_insertAll, List.nil_append]
  unfold Bookable
  rw [← hfound]
  constructor
  · rintro ⟨account, hmem, hid, hasset⟩
    refine ⟨account, ?_, hasset⟩
    cases hfirst : (openedAccounts plane).find? (fun account => decide (account.id = entry.accountId)) with
    | none => exact absurd hid (by simpa using List.find?_eq_none.mp hfirst account hmem)
    | some first =>
      have hsame : first.id = entry.accountId := by simpa using List.find?_some hfirst
      rw [List.inj_on_of_nodup_map openedAccounts_nodup hmem (List.mem_of_find?_eq_some hfirst) (hid.trans hsame.symm)]
  · rintro ⟨account, hfirst, hasset⟩
    exact ⟨account, List.mem_of_find?_eq_some hfirst, by simpa using List.find?_some hfirst, hasset⟩

end Asking

section Openings

/-- A cash balance that is opened at a product. -/
structure Opening where
  productId : String
  owner : String
  currency : String
  amount : Int

def Opening.account (opening : Opening) : String :=
  ledgerAccountId opening.productId opening.owner opening.currency .investor

def Opening.clearing (opening : Opening) : String :=
  ledgerAccountId opening.productId "EXTERNAL_CASH" opening.currency .cashClearing

def Opening.batch (opening : Opening) : Batch where
  id := "opening:" ++ opening.productId ++ ":" ++ opening.owner ++ ":" ++ opening.currency
  transactionId := none
  entries := [⟨opening.account, opening.currency, opening.amount⟩,
    ⟨opening.clearing, opening.currency, -opening.amount⟩]

variable (plane : ControlPlane)

/-- The first product of a currency. -/
def productOf (currency : String) : Option control_plane.Product :=
  plane.products.values.find? (·.rules.currency = currency)

/-- What is opened for a cash balance: nothing if it is zero or in the currency of no
product. -/
def openingOf (entry : String × Int) : Option Opening :=
  if entry.2 = 0 then none
  else (productOf plane (splitKey entry.1).2).map fun product =>
    ⟨product.id, (splitKey entry.1).1, (splitKey entry.1).2, entry.2⟩

def openings : List Opening := plane.cashBalances.entries.filterMap (openingOf plane)

/-- Open a balance, once. -/
def openOne (db : Database) (opening : Opening) : Except Failure Database :=
  if opening.batch.id ∈ db.ledgerBatches.map (·.id) then .ok db
  else db.appendLedgerBatch opening.batch.id opening.batch.transactionId opening.batch.entries

variable {plane} {db : Database}

private theorem openBalance_eq {entry : String × Int} : openBalance plane db entry =
    match openingOf plane entry with
    | none => .ok db
    | some opening => openOne db opening := by
  unfold openBalance openingOf productOf
  by_cases hamount : entry.2 = 0
  · rw [if_pos hamount, if_pos hamount]
  · rw [if_neg hamount, if_neg hamount]
    dsimp only
    cases plane.products.values.find? (·.rules.currency = (splitKey entry.1).2) with
    | none => rfl
    | some product => rfl

private theorem openBalances_eq {entries : List (String × Int)} :
    entries.foldlM (openBalance plane) db = (entries.filterMap (openingOf plane)).foldlM openOne db := by
  induction entries generalizing db with
  | nil => rfl
  | cons entry rest ih =>
    rw [List.foldlM_cons, openBalance_eq, List.filterMap_cons]
    cases openingOf plane entry with
    | none => exact ih
    | some opening =>
      rw [List.foldlM_cons]
      exact congrArg _ (funext fun _ => ih)

section Keys

theorem splitKey_balanceKey {owner currency : String} (h : ':' ∉ currency.toList) :
    splitKey (balanceKey owner currency) = (owner, currency) := by
  have hkey : (balanceKey owner currency).toList.reverse =
      currency.toList.reverse ++ ':' :: owner.toList.reverse := by
    have htext : balanceKey owner currency = owner ++ ":" ++ currency := rfl
    simp [htext]
  have htake : (currency.toList.reverse ++ ':' :: owner.toList.reverse).takeWhile (· ≠ ':') =
      currency.toList.reverse := by
    rw [List.takeWhile_append_of_pos]
    · simp
    · intro char hchar
      have hne : char ≠ ':' := by
        rintro rfl
        exact h (List.mem_reverse.mp hchar)
      simpa using hne
  unfold splitKey
  rw [hkey]
  dsimp only
  rw [htake, List.drop_left]
  simp

/-- A key with a colon is that of the owner before the last colon and the currency after it. -/
theorem balanceKey_splitKey {key : String} (h : ':' ∈ key.toList) :
    balanceKey (splitKey key).1 (splitKey key).2 = key ∧ ':' ∉ (splitKey key).2.toList := by
  obtain ⟨after, before, hreverse, hplain⟩ := List.eq_append_cons_of_mem (List.mem_reverse.mpr h)
  have hkey : key = balanceKey (String.ofList before.reverse) (String.ofList after.reverse) := by
    refine String.toList_injective ?_
    have htext : balanceKey (String.ofList before.reverse) (String.ofList after.reverse) =
      String.ofList before.reverse ++ ":" ++ String.ofList after.reverse := rfl
    rw [← List.reverse_reverse key.toList, hreverse, htext]
    simp
  have hcurrency : ':' ∉ (String.ofList after.reverse).toList := by simpa using hplain
  rw [hkey, splitKey_balanceKey hcurrency]
  exact ⟨rfl, hcurrency⟩

end Keys

/-- A batch that can be posted: two accounts of the asset, and a number that fits. -/
private theorem appendLedgerBatch_isOk_iff {batchId source target assetCode : String} {amount : Int}
    (hids : (db.ledgerAccounts.map Account.id).Nodup) (hfresh : batchId ∉ db.ledgerBatches.map (·.id))
    (hamount : amount ≠ 0) (hdistinct : source ≠ target) :
    (∃ next, db.appendLedgerBatch batchId none [⟨source, assetCode, amount⟩, ⟨target, assetCode, -amount⟩] = .ok next) ↔
      Booked db.ledgerAccounts ⟨source, assetCode, amount⟩ ∧ Booked db.ledgerAccounts ⟨target, assetCode, -amount⟩ ∧
        |amount| < numericLimit := by
  constructor
  · rintro ⟨next, h⟩
    obtain ⟨hpostable, -, -⟩ := appendLedgerBatch_ok h
    refine ⟨hpostable.booked _ (by simp), hpostable.booked _ (by simp), ?_⟩
    simp only [Database.appendLedgerBatch, assertEntries, bind_eq_ok_iff, throwIf_eq_ok_iff, exists_unit] at h
    obtain ⟨-, -, -, ⟨-, hlimit, -⟩, -⟩ := h
    by_contra hlarge
    exact hlimit ⟨⟨source, assetCode, amount⟩, by simp, by simpa using hlarge⟩
  · rintro ⟨hsource, htarget, hlimit⟩
    have hbooked : ∀ entry ∈ [(⟨source, assetCode, amount⟩ : Entry), ⟨target, assetCode, -amount⟩],
        Booked db.ledgerAccounts entry := by simp [hsource, htarget]
    refine ⟨{ db with ledgerBatches := db.ledgerBatches ++
      [⟨batchId, none, [⟨source, assetCode, amount⟩, ⟨target, assetCode, -amount⟩]⟩] }, ?_⟩
    simp only [Database.appendLedgerBatch, assertBalancedEntries, assertNewBatch, assertEntries, bind_eq_ok_iff,
      throwIf_eq_ok_iff, exists_unit, pure_eq_ok_iff]
    refine ⟨⟨by simp, by simp [hamount], ?_⟩, ?_, by simpa using hfresh, ⟨?_, ?_, ?_⟩, trivial⟩
    · simp [assetTotal]
    · rintro ⟨entry, hentry, hunknown⟩
      obtain ⟨account, hmem, hid, -⟩ := hbooked entry hentry
      exact hunknown (List.mem_map.mpr ⟨account, hmem, hid⟩)
    · rintro ⟨entry, hentry, account, hmem, hid, hasset⟩
      exact hasset ((hbooked entry hentry).asset hids hmem hid)
    · simpa using hlimit
    · simp [hdistinct]

theorem Opening.account_ne_clearing {opening other : Opening} : opening.account ≠ other.clearing := by
  intro h
  exact absurd (accountKey_type (ledgerAccountId_key h)) (by decide)

/-- What is opened at the investor accounts. -/
def openedCash (plane : ControlPlane) : List (String × Int) :=
  (openings plane).map fun opening => (opening.account, opening.amount)

/-- A batch posts its amount to the investor account, and the opposite to the clearing. -/
private theorem balance_of_batches {batches : List Opening} {accountId : String} :
    accountBalance (batches.map Opening.batch) accountId =
      double_entry.balance (batches.map fun opening => (opening.account, opening.amount)) accountId -
        double_entry.balance (batches.map fun opening => (opening.clearing, opening.amount)) accountId := by
  induction batches with
  | nil => rfl
  | cons opening rest ih =>
    have hbatch : accountTotal opening.batch.entries accountId =
        (if opening.account = accountId then opening.amount else 0) -
          if opening.clearing = accountId then opening.amount else 0 := by
      by_cases haccount : opening.account = accountId
      · have hclearing : opening.clearing ≠ accountId := fun hsame =>
          Opening.account_ne_clearing (haccount.trans hsame.symm)
        simp [accountTotal, Opening.batch, haccount, hclearing]
      · by_cases hclearing : opening.clearing = accountId
        · simp [accountTotal, Opening.batch, haccount, hclearing]
        · simp [accountTotal, Opening.batch, haccount, hclearing]
    have hsplit : accountBalance ((opening :: rest).map Opening.batch) accountId =
        accountTotal opening.batch.entries accountId + accountBalance (rest.map Opening.batch) accountId := rfl
    rw [hsplit, ih, hbatch, List.map_cons, List.map_cons, double_entry.balance_cons, double_entry.balance_cons]
    dsimp only
    omega

/-- An account that is not one for clearing holds what is opened at it. -/
theorem opened_balance {productId ownerRef assetCode : String} {accountType : AccountType}
    (htype : accountType ≠ .cashClearing) :
    accountBalance ((openings plane).map Opening.batch) (ledgerAccountId productId ownerRef assetCode accountType) =
      double_entry.balance (openedCash plane) (ledgerAccountId productId ownerRef assetCode accountType) := by
  rw [balance_of_batches, openedCash, @double_entry.balance_of_not_mem _ _
    ((openings plane).map fun opening => (opening.clearing, opening.amount))]
  · exact sub_zero _
  · rw [List.map_map, List.mem_map]
    rintro ⟨opening, -, hsame⟩
    exact htype (accountKey_type (ledgerAccountId_key hsame)).symm

/-- Only investors' accounts are opened. -/
theorem opened_issuer {productId ownerRef assetCode : String} :
    accountBalance ((openings plane).map Opening.batch) (ledgerAccountId productId ownerRef assetCode .issuer) = 0 := by
  rw [opened_balance (by decide)]
  refine double_entry.balance_of_not_mem fun hmem => ?_
  rw [openedCash, List.map_map, List.mem_map] at hmem
  obtain ⟨opening, -, hsame⟩ := hmem
  exact absurd (accountKey_type (ledgerAccountId_key hsame)) (by decide)

/-- The id of a batch tells the text it is made of. -/
private theorem opening_text {first second : Opening} (h : first.batch.id = second.batch.id) :
    first.productId ++ ":" ++ first.owner ++ ":" ++ first.currency =
      second.productId ++ ":" ++ second.owner ++ ":" ++ second.currency := by
  have hchars := congrArg String.toList h
  simp only [Opening.batch, String.toList_append, List.append_assoc] at hchars
  refine String.toList_injective ?_
  simp only [String.toList_append, List.append_assoc]
  exact List.append_cancel_left hchars

section Opened

-- the keys of the cash balances have a colon
variable (hcolon : ∀ key amount, plane.cashBalances.get key = some amount → ':' ∈ key.toList)

include hcolon

/-- What is opened: a balance that is not zero, at the first product of its currency. -/
theorem mem_openings_iff {opening : Opening} : opening ∈ openings plane ↔
    ':' ∉ opening.currency.toList ∧
      plane.cashBalances.get (balanceKey opening.owner opening.currency) = some opening.amount ∧ opening.amount ≠ 0 ∧
        ∃ product, productOf plane opening.currency = some product ∧ product.id = opening.productId := by
  unfold openings
  rw [List.mem_filterMap]
  constructor
  · rintro ⟨⟨key, amount⟩, hentry, hopening⟩
    rw [mem_entries] at hentry
    obtain ⟨hkey, hplain⟩ := balanceKey_splitKey (hcolon key amount hentry)
    unfold openingOf at hopening
    split at hopening
    · cases hopening
    · next hamount =>
      obtain ⟨product, hproduct, rfl⟩ := Option.map_eq_some_iff.mp hopening
      exact ⟨hplain, hkey.symm ▸ hentry, hamount, product, hproduct, rfl⟩
  · rintro ⟨hplain, hget, hamount, product, hproduct, hid⟩
    refine ⟨(balanceKey opening.owner opening.currency, opening.amount), mem_entries.mpr hget, ?_⟩
    unfold openingOf
    rw [if_neg hamount, splitKey_balanceKey hplain, hproduct, Option.map_some, hid]

/-- The owner and the currency of what is opened tell it apart. -/
private theorem opening_eq {first second : Opening} (hfirst : first ∈ openings plane)
    (hsecond : second ∈ openings plane)
    (howner : first.owner = second.owner) (hcurrency : first.currency = second.currency) : first = second := by
  obtain ⟨-, hget, -, product, hproduct, hid⟩ := (mem_openings_iff hcolon).mp hfirst
  obtain ⟨-, hget', -, product', hproduct', hid'⟩ := (mem_openings_iff hcolon).mp hsecond
  rw [howner, hcurrency] at hget
  rw [hcurrency] at hproduct
  have hamount : first.amount = second.amount := Option.some.inj (hget.symm.trans hget')
  have hsame : product = product' := Option.some.inj (hproduct.symm.trans hproduct')
  obtain ⟨firstId, firstOwner, firstCurrency, firstAmount⟩ := first
  obtain ⟨secondId, secondOwner, secondCurrency, secondAmount⟩ := second
  simp only at howner hcurrency hamount hid hid'
  rw [howner, hcurrency, hamount, ← hid, ← hid', hsame]

/-- Texts that end in a colon and the currency tell the currency and the owner. -/
private theorem opening_eq_of_text {first second : Opening} (hfirst : first ∈ openings plane)
    (hsecond : second ∈ openings plane)
    (h : first.productId ++ ":" ++ first.owner ++ ":" ++ first.currency =
      second.productId ++ ":" ++ second.owner ++ ":" ++ second.currency) : first = second := by
  obtain ⟨hplain, -, -, product, hproduct, hid⟩ := (mem_openings_iff hcolon).mp hfirst
  obtain ⟨hplain', -, -, product', hproduct', hid'⟩ := (mem_openings_iff hcolon).mp hsecond
  have hchars := congrArg String.toList h
  obtain ⟨hfront, hlast⟩ := @last_colon_inj (first.productId ++ ":" ++ first.owner).toList
    (second.productId ++ ":" ++ second.owner).toList _ _ hplain hplain' (by simpa using hchars)
  have hcurrency : first.currency = second.currency := String.toList_injective hlast
  have hproducts : first.productId = second.productId := by
    rw [hcurrency, hproduct', Option.some.injEq] at hproduct
    rw [← hid, ← hid', hproduct]
  have howner : first.owner = second.owner := by
    rw [hproducts] at hfront
    exact String.toList_injective (by simpa using hfront)
  exact opening_eq hcolon hfirst hsecond howner hcurrency

private theorem openings_nodup : (openings plane).Nodup := by
  have hkeys : plane.cashBalances.entries.Pairwise fun first second => first.1 ≠ second.1 :=
    List.pairwise_map.mp plane.cashBalances.nodup
  unfold openings List.Nodup
  rw [List.pairwise_filterMap]
  refine hkeys.imp_of_mem fun {first second} hfirst hsecond hne opening hopening other hother hsame => hne ?_
  subst hsame
  have hkey (entry : String × Int) (hentry : entry ∈ plane.cashBalances.entries)
      (hopened : openingOf plane entry = some opening) : entry.1 = balanceKey opening.owner opening.currency := by
    obtain ⟨key, amount⟩ := entry
    obtain ⟨hkey, -⟩ := balanceKey_splitKey (hcolon key amount (mem_entries.mp hentry))
    unfold openingOf at hopened
    split at hopened
    · cases hopened
    · obtain ⟨product, -, rfl⟩ := Option.map_eq_some_iff.mp hopened
      exact hkey.symm
  exact (hkey first hfirst hopening).trans (hkey second hsecond hother).symm

/-- A balance can be opened: its owner has an investor account at the first product of its
currency, which has one for the clearing of external cash, and the number fits. -/
structure Opening.Fits (plane : ControlPlane) (opening : Opening) : Prop where
  account : Bookable plane opening.account opening.currency
  clearing : Bookable plane opening.clearing opening.currency
  amount : |opening.amount| < numericLimit

/-- The balances are opened exactly if each can be. -/
theorem openings_isOk_iff (haccounts : db.ledgerAccounts = openedAccounts plane) (hempty : db.ledgerBatches = []) :
    ((∃ next, plane.cashBalances.entries.foldlM (openBalance plane) db = .ok next) ↔
        ∀ opening ∈ openings plane, opening.Fits plane) ∧
      ∀ next, plane.cashBalances.entries.foldlM (openBalance plane) db = .ok next →
        next.ledgerAccounts = openedAccounts plane ∧ next.ledgerBatches = (openings plane).map Opening.batch := by
  rw [openBalances_eq]
  -- batches that are there are of openings, so an id that is there is that of the same opening
  have hfresh (opening : Opening) (hopening : opening ∈ openings plane) (db : Database)
      (hopened : ∀ batch ∈ db.ledgerBatches, ∃ other ∈ openings plane, other.batch = batch)
      (hnew : opening.batch ∉ db.ledgerBatches) : opening.batch.id ∉ db.ledgerBatches.map (·.id) := by
    intro hknown
    obtain ⟨batch, hbatch, hid⟩ := List.mem_map.mp hknown
    obtain ⟨other, hother, rfl⟩ := hopened batch hbatch
    refine hnew ?_
    rwa [← opening_eq_of_text hcolon hother hopening (opening_text hid)]
  have hloop := @foldlM_isOk_iff _ _ _ Batch openOne (openings plane) db
    (fun db => db.ledgerAccounts = openedAccounts plane ∧
      ∀ batch ∈ db.ledgerBatches, ∃ other ∈ openings plane, other.batch = batch)
    Database.ledgerBatches Opening.batch (Opening.Fits plane) ?_ ?_ ?_ (by simp [hempty]) ⟨haccounts, by simp [hempty]⟩
  · refine ⟨hloop.1, fun next h => ?_⟩
    obtain ⟨⟨hsame, -⟩, hbatches⟩ := hloop.2 next h
    rw [hempty, List.nil_append] at hbatches
    exact ⟨hsame, hbatches⟩
  · rintro opening hopening db ⟨hsame, hopened⟩ hnew
    have hunused := hfresh opening hopening db hopened hnew
    obtain ⟨-, -, hamount, -⟩ := (mem_openings_iff hcolon).mp hopening
    have happend := @appendLedgerBatch_isOk_iff db opening.batch.id opening.account opening.clearing opening.currency
      opening.amount (hsame ▸ openedAccounts_nodup) hunused hamount Opening.account_ne_clearing
    unfold openOne
    rw [if_neg hunused]
    refine happend.trans ?_
    rw [hsame, booked_iff, booked_iff]
    exact ⟨fun h => ⟨h.1, h.2.1, h.2.2⟩, fun h => ⟨h.account, h.clearing, h.amount⟩⟩
  · rintro opening hopening db next ⟨hsame, hopened⟩ hnew h
    unfold openOne at h
    rw [if_neg (hfresh opening hopening db hopened hnew)] at h
    obtain ⟨-, -, rfl⟩ := appendLedgerBatch_ok h
    refine ⟨⟨hsame, List.forall_mem_append.mpr ⟨hopened, ?_⟩⟩, rfl⟩
    exact List.forall_mem_singleton.mpr ⟨opening, hopening, rfl⟩
  · refine (openings_nodup hcolon).map_on fun first hfirst second hsecond hsame => ?_
    exact opening_eq_of_text hcolon hfirst hsecond (opening_text (congrArg Batch.id hsame))

/-- Each opening has an account of its own. -/
private theorem openedCash_nodup : ((openedCash plane).map Prod.fst).Nodup := by
  rw [openedCash, List.map_map]
  refine (openings_nodup hcolon).map_on fun first hfirst second hsecond hsame => ?_
  obtain ⟨hplain, -⟩ := (mem_openings_iff hcolon).mp hfirst
  obtain ⟨hplain', -⟩ := (mem_openings_iff hcolon).mp hsecond
  obtain ⟨hcurrency, htext⟩ := accountKey_text hplain hplain' (ledgerAccountId_key hsame)
  exact opening_eq_of_text hcolon hfirst hsecond (by rw [htext, hcurrency])

/-- What an investor's account holds: the cash of the party that its name stands for at the
first product of the currency, if there is one. -/
theorem opened_investor {product first : control_plane.Product} {subject : String}
    (hcurrency : ':' ∉ product.rules.currency.toList) (hfirst : productOf plane product.rules.currency = some first) :
    let opened := double_entry.balance (openedCash plane)
      (ledgerAccountId product.id subject product.rules.currency .investor)
    (∀ owner, first.id ++ ":" ++ owner = product.id ++ ":" ++ subject →
        opened = balanceOf plane.cashBalances (balanceKey owner product.rules.currency)) ∧
      ((∀ owner, first.id ++ ":" ++ owner ≠ product.id ++ ":" ++ subject) → opened = 0) := by
  intro opened
  by_cases hopened : ∃ opening ∈ openings plane,
      opening.account = ledgerAccountId product.id subject product.rules.currency .investor
  · obtain ⟨opening, hopening, haccount⟩ := hopened
    obtain ⟨hplain, hget, -, product', hproduct', hid⟩ := (mem_openings_iff hcolon).mp hopening
    obtain ⟨hsame, htext⟩ := accountKey_text hplain hcurrency (ledgerAccountId_key haccount)
    rw [hsame, hfirst] at hproduct'
    obtain rfl := Option.some.inj hproduct'
    rw [← hid] at htext
    have hbalance : opened = opening.amount := by
      have hmem : (opening.account, opening.amount) ∈ openedCash plane := List.mem_map_of_mem hopening
      have hvalue := double_entry.balance_of_mem (openedCash_nodup hcolon) hmem
      rwa [haccount] at hvalue
    refine ⟨fun owner howner => ?_, fun hnone => absurd htext (hnone opening.owner)⟩
    have hparty : owner = opening.owner := by
      refine String.toList_injective ?_
      have hchars := congrArg String.toList (howner.trans htext.symm)
      simpa using hchars
    rw [hbalance, hparty, balanceOf, ← hsame, hget]
    rfl
  · have hzero : opened = 0 := by
      refine double_entry.balance_of_not_mem fun hmem => hopened ?_
      rw [openedCash, List.map_map, List.mem_map] at hmem
      exact hmem
    refine ⟨fun owner howner => ?_, fun _ => hzero⟩
    rw [hzero]
    unfold balanceOf
    cases hget : plane.cashBalances.get (balanceKey owner product.rules.currency) with
    | none => rfl
    | some amount =>
      by_contra hamount
      refine hopened ⟨⟨first.id, owner, product.rules.currency, amount⟩, ?_, ?_⟩
      · exact (mem_openings_iff hcolon).mpr ⟨hcurrency, hget, fun hnone => hamount hnone.symm, first, hfirst, rfl⟩
      · exact congrArg ("ledger" ++ ·) (accountKey_congr howner)

end Opened

section Totals

/-- All cash in a currency, but for what clears external cash. -/
def Database.cashTotal (db : Database) (currency : String) : Int :=
  ((db.ledgerAccounts.filter fun account =>
    account.assetCode = currency && !(account.accountType = .cashClearing)).map
      fun account => accountBalance db.ledgerBatches account.id).sum

/-- All cash of a control plane in a currency. -/
def planeCash (plane : ControlPlane) (currency : String) : Int :=
  plane.cashBalances.total fun key amount => if (splitKey key).2 = currency then amount else 0

/-- All that is opened in a currency. -/
def openedTotal (plane : ControlPlane) (currency : String) : Int :=
  (((openings plane).filter (·.currency = currency)).map Opening.amount).sum

/-- Each account has the id that its columns make. -/
private theorem openedAccounts_named {account : Account} (h : account ∈ openedAccounts plane) :
    account.id = ledgerAccountId account.productId account.ownerRef account.assetCode account.accountType := by
  have hneeded : account ∈ accountsNeeded plane := by simpa [openedAccounts] using mem_of_insertAll h
  obtain ⟨product, -, haccount⟩ := List.mem_flatMap.mp hneeded
  obtain howned | hfee := List.mem_append.mp haccount
  · obtain ⟨owner, -, howned⟩ := List.mem_flatMap.mp howned
    obtain hcash | hunits := List.mem_append.mp howned
    · split at hcash
      · cases hcash
      · rw [List.mem_singleton.mp hcash]
    · split at hunits
      · cases hunits
      · rw [List.mem_singleton.mp hunits]
  · rw [List.mem_singleton.mp hfee]

theorem cashTotal_opened (haccounts : db.ledgerAccounts = openedAccounts plane)
    (hbatches : db.ledgerBatches = (openings plane).map Opening.batch)
    (hfits : ∀ opening ∈ openings plane, opening.Fits plane) (currency : String) :
    db.cashTotal currency = openedTotal plane currency := by
  set kept : Account → Bool := fun account =>
    account.assetCode = currency && !(account.accountType = .cashClearing) with hkept
  set accounts := (openedAccounts plane).filter kept with haccountsKept
  set postings := ((openings plane).filter (·.currency = currency)).map fun opening => (opening.account, opening.amount)
    with hpostings
  have hnodup : (accounts.map Account.id).Nodup :=
    openedAccounts_nodup.sublist (List.filter_sublist.map Account.id)
  have hbooked (opening : Opening) (hopening : opening ∈ openings plane) : ∃ account ∈ openedAccounts plane,
      account.id = opening.account ∧ account.assetCode = opening.currency := by
    have hentry := @booked_iff plane ⟨opening.account, opening.currency, opening.amount⟩
    exact hentry.mpr (hfits opening hopening).account
  have hposted : ∀ posting ∈ postings, posting.1 ∈ accounts.map Account.id := by
    intro posting hposting
    obtain ⟨opening, hopening, rfl⟩ := List.mem_map.mp hposting
    obtain ⟨hmem, hcurrency⟩ := List.mem_filter.mp hopening
    obtain ⟨account, haccount, hid, hasset⟩ := hbooked opening hmem
    have htype : account.accountType = .investor :=
      accountKey_type (ledgerAccountId_key ((openedAccounts_named haccount).symm.trans hid))
    refine List.mem_map.mpr ⟨account, List.mem_filter.mpr ⟨haccount, ?_⟩, hid⟩
    have hsame : account.assetCode = currency := hasset.trans (by simpa using hcurrency)
    simp [hkept, hsame, htype]
  have hbalance : ∀ account ∈ accounts,
      accountBalance db.ledgerBatches account.id = double_entry.balance postings account.id := by
    intro account haccount
    obtain ⟨hmem, hkeep⟩ := List.mem_filter.mp haccount
    rw [hkept, Bool.and_eq_true, decide_eq_true_eq, Bool.not_eq_true', decide_eq_false_iff_not] at hkeep
    rw [hbatches, openedAccounts_named hmem, opened_balance hkeep.2, ← openedAccounts_named hmem, openedCash, hpostings,
      double_entry.balance, double_entry.balance, List.filter_map, List.filter_map, List.filter_filter]
    -- what is opened at the account is in its currency
    refine congrArg (fun opened : List Opening =>
      ((opened.map fun opening => (opening.account, opening.amount)).map Prod.snd).sum)
      (List.filter_congr fun opening hopening => ?_)
    by_cases hid : opening.account = account.id
    · obtain ⟨other, hother, hid', hasset⟩ := hbooked opening hopening
      rw [List.inj_on_of_nodup_map openedAccounts_nodup hother hmem (hid'.trans hid)] at hasset
      simp [hid, ← hasset, hkeep.1]
    · simp [hid]
  have hsum := double_entry.sum_balance hnodup hposted
  rw [List.map_map] at hsum
  rw [Database.cashTotal, haccounts, List.map_congr_left hbalance, openedTotal]
  refine hsum.trans ?_
  rw [double_entry.total, hpostings, List.map_map]
  rfl

/-- In the currency of a product, all cash is opened. -/
theorem openedTotal_eq {currency : String} {product : control_plane.Product}
    (h : productOf plane currency = some product) :
    openedTotal plane currency = planeCash plane currency := by
  unfold openedTotal openings planeCash JsMap.total
  induction plane.cashBalances.entries with
  | nil => rfl
  | cons entry rest ih =>
    rw [List.filterMap_cons, List.map_cons, List.sum_cons, ← ih]
    cases hopening : openingOf plane entry with
    | none =>
      have hnothing : (if (splitKey entry.1).2 = currency then entry.2 else 0) = 0 := by
        split
        · next hcurrency =>
          by_contra hamount
          rw [openingOf, if_neg hamount, hcurrency, h] at hopening
          cases hopening
        · rfl
      dsimp only
      rw [hnothing, zero_add]
    | some opening =>
      unfold openingOf at hopening
      split at hopening
      · cases hopening
      · obtain ⟨other, -, rfl⟩ := Option.map_eq_some_iff.mp hopening
        by_cases hcurrency : (splitKey entry.1).2 = currency
        · simp [hcurrency]
        · simp [hcurrency]

/-- A balance that is not zero counts: none is negative. -/
private theorem planeCash_pos (hcash : ∀ key amount, plane.cashBalances.get key = some amount → 0 ≤ amount)
    {key : String} {amount : Int} (hget : plane.cashBalances.get key = some amount) (hamount : amount ≠ 0) :
    0 < planeCash plane (splitKey key).2 := by
  have hnonneg : ∀ entry ∈ plane.cashBalances.entries.map fun entry =>
      (if (splitKey entry.1).2 = (splitKey key).2 then entry.2 else 0), 0 ≤ entry := by
    intro value hvalue
    obtain ⟨entry, hentry, rfl⟩ := List.mem_map.mp hvalue
    split
    · exact hcash entry.1 entry.2 (mem_entries.mp hentry)
    · exact le_rfl
  have hmem : amount ∈ plane.cashBalances.entries.map fun entry =>
      (if (splitKey entry.1).2 = (splitKey key).2 then entry.2 else 0) :=
    List.mem_map.mpr ⟨(key, amount), mem_entries.mpr hget, if_pos rfl⟩
  have hle := List.single_le_sum hnonneg amount hmem
  have hsome := hcash key amount hget
  have hsum : amount ≤ planeCash plane (splitKey key).2 := hle
  omega

private theorem planeCash_zero {currency : String} (h : ∀ key amount, plane.cashBalances.get key = some amount →
    (splitKey key).2 = currency → amount = 0) : planeCash plane currency = 0 := by
  refine List.sum_eq_zero fun value hvalue => ?_
  obtain ⟨entry, hentry, rfl⟩ := List.mem_map.mp hvalue
  dsimp only
  split
  · next hcurrency => exact h entry.1 entry.2 (mem_entries.mp hentry) hcurrency
  · rfl

/-- In the currency of no product, nothing is opened. -/
theorem openedTotal_none {currency : String} (h : productOf plane currency = none) :
    openedTotal plane currency = 0 := by
  unfold openedTotal
  rw [List.filter_eq_nil_iff.mpr]
  · rfl
  · intro opening hopening hcurrency
    obtain ⟨entry, -, hopened⟩ := List.mem_filterMap.mp hopening
    unfold openingOf at hopened
    split at hopened
    · cases hopened
    · obtain ⟨product, hproduct, rfl⟩ := Option.map_eq_some_iff.mp hopened
      have hsame : (splitKey entry.1).2 = currency := by simpa using hcurrency
      rw [hsame, h] at hproduct
      cases hproduct

end Totals

end Openings

section Carrying

variable (service : DurableWorkflowService) (plane : ControlPlane)

/-- What a party's cash account at a product holds. -/
def Database.cashOf (db : Database) (product : control_plane.Product) (party : String) (accountType : AccountType) :
    Int :=
  accountBalance db.ledgerBatches (ledgerAccountId product.id party product.rules.currency accountType)

/-- A party's cash on the plane in the currency of a product. -/
def planeCashOf (product : control_plane.Product) (party : String) : Int :=
  balanceOf plane.cashBalances (balanceKey party product.rules.currency)

/-- The cash that holders can spend on a product, and that its issuer can redeem from, is
what they have on the plane, and so is all cash in a currency. -/
structure Carried (db : Database) : Prop where
  holders : ∀ product ∈ plane.products.values, ∀ credential ∈ plane.credentials.values,
    credential.productId = product.id →
      db.cashOf product credential.subjectId .investor = planeCashOf plane product credential.subjectId
  issuers : ∀ product ∈ plane.products.values,
    db.cashOf product product.issuerId .issuer = planeCashOf plane product product.issuerId
  total : ∀ currency, db.cashTotal currency = planeCash plane currency

/-- The name of a holder's account at a product stands for the party of the same cash at the
first product of the currency, or for none if the holder has no cash. For the first product
itself that is so. -/
structure HolderCarries (first product : control_plane.Product) (holder : String) : Prop where
  named : ∀ owner, first.id ++ ":" ++ owner = product.id ++ ":" ++ holder →
    planeCashOf plane product owner = planeCashOf plane product holder
  unnamed : (∀ owner, first.id ++ ":" ++ owner ≠ product.id ++ ":" ++ holder) → planeCashOf plane product holder = 0

/-- A plane whose rows pass the checks of their tables; each balance that is not zero can be
opened at the first product of its currency; issuers have no cash in the currency of their
products, and holders none at a product that is not the first of its currency. -/
structure CarriesOver : Prop where
  fits : Fits service plane
  opens : ∀ key amount, plane.cashBalances.get key = some amount → amount ≠ 0 →
    ∃ product, productOf plane (splitKey key).2 = some product ∧
      Opening.Fits plane ⟨product.id, (splitKey key).1, (splitKey key).2, amount⟩
  issuers : ∀ product ∈ plane.products.values, planeCashOf plane product product.issuerId = 0
  holders : ∀ product ∈ plane.products.values, ∀ first, productOf plane product.rules.currency = some first →
    ∀ credential ∈ plane.credentials.values, credential.productId = product.id →
      HolderCarries plane first product credential.subjectId

variable {service plane}

private theorem IsCurrency.plain {currency : String} (h : IsCurrency currency) : ':' ∉ currency.toList := by
  intro hmem
  exact absurd (h.2 ':' hmem) (by decide)

private theorem productOf_isSome {product : control_plane.Product} (h : product ∈ plane.products.values) :
    ∃ first, productOf plane product.rules.currency = some first := by
  cases hfirst : productOf plane product.rules.currency with
  | none => exact absurd (decide_eq_true rfl) (List.find?_eq_none.mp hfirst product h)
  | some first => exact ⟨first, rfl⟩

/-- The accounts of a plane that was loaded, and its batches. -/
private theorem bootstrap_books (hproducts : (plane.products.values.map (·.id)).Nodup) (hown : plane.toTables.OwnKeys) :
    ((∃ loaded, bootstrapFromControlPlane service plane Database.empty = .ok ((), loaded)) ↔
        Fits service plane ∧ ∀ opening ∈ openings plane, opening.Fits plane) ∧
      ∀ loaded, bootstrapFromControlPlane service plane Database.empty = .ok ((), loaded) →
        loaded.ledgerAccounts = openedAccounts plane ∧ loaded.ledgerBatches = (openings plane).map Opening.batch := by
  obtain ⟨hrows, hlisted⟩ := @loadRows_isOk_iff service plane hproducts hown
  have hopen (rows : Database) (hloaded : loadRows service plane Database.empty = .ok rows) :=
    @openings_isOk_iff plane (plane.products.values.foldl (ensureAccounts plane) rows) hown.cash
      (by rw [ensureAll_rows, (hlisted rows hloaded).ledgerAccounts]; rfl)
      (by rw [ensureAll_batches, (hlisted rows hloaded).ledgerBatches])
  constructor
  · constructor
    · rintro ⟨loaded, h⟩
      rw [bootstrap_eq] at h
      obtain ⟨rows, hloaded, h⟩ := bind_eq_ok_iff.mp h
      obtain ⟨opened, hopened, -⟩ := bind_eq_ok_iff.mp h
      exact ⟨hrows.mp ⟨rows, hloaded⟩, (hopen rows hloaded).1.mp ⟨opened, hopened⟩⟩
    · rintro ⟨hfits, hopenings⟩
      obtain ⟨rows, hloaded⟩ := hrows.mpr hfits
      obtain ⟨opened, hopened⟩ := (hopen rows hloaded).1.mpr hopenings
      refine ⟨opened, ?_⟩
      rw [bootstrap_eq]
      exact bind_eq_ok_iff.mpr ⟨rows, hloaded, bind_eq_ok_iff.mpr ⟨opened, hopened, rfl⟩⟩
  · intro loaded h
    rw [bootstrap_eq] at h
    obtain ⟨rows, hloaded, h⟩ := bind_eq_ok_iff.mp h
    obtain ⟨opened, hopened, h⟩ := bind_eq_ok_iff.mp h
    obtain ⟨-, rfl⟩ := Prod.mk.inj (pure_eq_ok_iff.mp h)
    exact (hopen rows hloaded).2 opened hopened

/-- Loading a control plane into an empty database succeeds, changes nothing when it is done
again and carries all cash over, exactly if issuers have no cash, every balance is in the
currency of a product at the first of which its owner is an investor, and holders of other
products of a currency have none in it. -/
theorem bootstrap_carries_cash {platform : control_plane.Platform} {calls : List control_plane.Action} :
    (∃ loaded,
      bootstrapFromControlPlane service (control_plane.run platform calls) Database.empty = .ok ((), loaded) ∧
        bootstrapFromControlPlane service (control_plane.run platform calls) loaded = .ok ((), loaded) ∧
          Carried (control_plane.run platform calls) loaded) ↔
      CarriesOver service (control_plane.run platform calls) := by
  have hsound := @control_plane.run_sound platform calls
  have hown := @control_plane.run_ownKeys platform calls
  generalize control_plane.run platform calls = plane at hsound hown
  have hproducts : (plane.products.values.map (·.id)).Nodup := control_plane.UnderOwnId.nodup hsound.products
  obtain ⟨hloads, hbooks⟩ := @bootstrap_books service plane hproducts hown
  -- what the accounts hold, whichever plane was loaded
  have hholder (hfits : Fits service plane) (loaded : Database)
      (hbatches : loaded.ledgerBatches = (openings plane).map Opening.batch) (product first : control_plane.Product)
      (hproduct : product ∈ plane.products.values) (hfirst : productOf plane product.rules.currency = some first)
      (holder : String) : loaded.cashOf product holder .investor = planeCashOf plane product holder ↔
        HolderCarries plane first product holder := by
    have hplain : ':' ∉ product.rules.currency.toList :=
      (productRow_currency (hfits.products product hproduct).row).plain
    have hopened := @opened_investor plane hown.cash product first holder hplain hfirst
    rw [Database.cashOf, hbatches, opened_balance (by decide)]
    constructor
    · intro h
      exact ⟨fun owner howner => (hopened.1 owner howner).symm.trans h, fun hnone => h.symm.trans (hopened.2 hnone)⟩
    · intro h
      by_cases howner : ∃ owner, first.id ++ ":" ++ owner = product.id ++ ":" ++ holder
      · obtain ⟨owner, howner⟩ := howner
        exact (hopened.1 owner howner).trans (h.named owner howner)
      · have hnone (owner : String) (hsame : first.id ++ ":" ++ owner = product.id ++ ":" ++ holder) : False :=
          howner ⟨owner, hsame⟩
        exact (hopened.2 hnone).trans (h.unnamed hnone).symm
  constructor
  · rintro ⟨loaded, hloaded, -, hcarried⟩
    obtain ⟨hfits, hopenings⟩ := hloads.mp ⟨loaded, hloaded⟩
    obtain ⟨haccounts, hbatches⟩ := hbooks loaded hloaded
    refine ⟨hfits, fun key amount hget hamount => ?_, fun product hproduct => ?_,
      fun product hproduct first hfirst credential hcredential hof => ?_⟩
    · obtain ⟨hkey, hplain⟩ := balanceKey_splitKey (hown.cash key amount hget)
      cases hproduct : productOf plane (splitKey key).2 with
      | some product =>
        refine ⟨product, rfl,
          hopenings _ ((mem_openings_iff hown.cash).mpr ⟨hplain, ?_, hamount, product, hproduct, rfl⟩)⟩
        rw [hkey, hget]
      | none =>
        -- cash in the currency of no product is lost
        have htotal := hcarried.total (splitKey key).2
        rw [cashTotal_opened haccounts hbatches hopenings, openedTotal_none hproduct] at htotal
        have hsome := planeCash_pos hsound.cash hget hamount
        omega
    · have hissuer := hcarried.issuers product hproduct
      rw [Database.cashOf, hbatches, opened_issuer] at hissuer
      exact hissuer.symm
    · exact (hholder hfits loaded hbatches product first hproduct hfirst credential.subjectId).mp
        (hcarried.holders product hproduct credential hcredential hof)
  · intro h
    have hopenings : ∀ opening ∈ openings plane, opening.Fits plane := by
      intro opening hopening
      obtain ⟨hplain, hget, hamount, product, hproduct, hid⟩ := (mem_openings_iff hown.cash).mp hopening
      obtain ⟨other, hother, hfits⟩ := h.opens _ _ hget hamount
      rw [splitKey_balanceKey hplain] at hother hfits
      obtain rfl := Option.some.inj (hproduct.symm.trans hother)
      rw [hid] at hfits
      exact hfits
    obtain ⟨loaded, hloaded⟩ := hloads.mpr ⟨h.fits, hopenings⟩
    obtain ⟨haccounts, hbatches⟩ := hbooks loaded hloaded
    refine ⟨loaded, hloaded, bootstrap_again hloaded, ?_, fun product hproduct => ?_, fun currency => ?_⟩
    · intro product hproduct credential hcredential hof
      obtain ⟨first, hfirst⟩ := productOf_isSome hproduct
      exact (hholder h.fits loaded hbatches product first hproduct hfirst credential.subjectId).mpr
        (h.holders product hproduct first hfirst credential hcredential hof)
    · rw [Database.cashOf, hbatches, opened_issuer, h.issuers product hproduct]
    · rw [cashTotal_opened haccounts hbatches hopenings]
      cases hproduct : productOf plane currency with
      | some product => exact openedTotal_eq hproduct
      | none =>
        rw [openedTotal_none hproduct]
        refine (planeCash_zero fun key amount hget hcurrency => ?_).symm
        by_contra hamount
        obtain ⟨product, hsome, -⟩ := h.opens key amount hget hamount
        rw [hcurrency, hproduct] at hsome
        cases hsome

end Carrying

section Sample

open rwa.control_plane (samplePlatform sampleSetup REQUIRED_PRODUCT_ROLES)

/-- Cash that is credited to the issuer, which has no investor account. -/
def issuerCredited : List control_plane.Action :=
  sampleSetup ++ [⟨2, .creditSandboxCash "operator" "HKD" "300"⟩]

/-- A second product of the same currency, of which alice is a holder as well. -/
def secondProduct : List control_plane.Action :=
  sampleSetup ++
    [⟨2, .createProduct ⟨"bond", "Bond", "HK", "operator", REQUIRED_PRODUCT_ROLES.map fun role => (role, "operator"),
        ⟨⟨"HKD", ["PROFESSIONAL"], ["HK"], 100, []⟩, none⟩⟩⟩,
      ⟨2, .activateProduct "bond"⟩,
      ⟨2, .registerCredential
        ⟨"credential-alice-bond", "operator", "alice", "bond", "PROFESSIONAL", "HK", "100", "0", "1000",
          "signature", []⟩⟩]

/-- Cash of an issuer stops the plane from being loaded at all. Cash of a holder of two
products in one currency can be spent on the first of them only. -/
theorem bootstrap_loses_cash :
    (¬∃ loaded,
      bootstrapFromControlPlane sampleService (control_plane.run samplePlatform issuerCredited) Database.empty =
          .ok ((), loaded) ∧
        bootstrapFromControlPlane sampleService (control_plane.run samplePlatform issuerCredited) loaded =
            .ok ((), loaded) ∧
          Carried (control_plane.run samplePlatform issuerCredited) loaded) ∧
      ¬∃ loaded,
        bootstrapFromControlPlane sampleService (control_plane.run samplePlatform secondProduct) Database.empty =
            .ok ((), loaded) ∧
          bootstrapFromControlPlane sampleService (control_plane.run samplePlatform secondProduct) loaded =
              .ok ((), loaded) ∧
            Carried (control_plane.run samplePlatform secondProduct) loaded := by
  constructor
  · rintro ⟨loaded, hloaded, -⟩
    have hrefused : (bootstrapFromControlPlane sampleService (control_plane.run samplePlatform issuerCredited)
        Database.empty).toOption.isNone = true := by decide +kernel
    rw [hloaded] at hrefused
    cases hrefused
  · rintro ⟨loaded, hloaded, -, hcarried⟩
    have hdiffers : (bootstrapFromControlPlane sampleService (control_plane.run samplePlatform secondProduct)
        Database.empty).toOption.any (fun outcome =>
          (control_plane.run samplePlatform secondProduct).products.values.any fun product =>
            (control_plane.run samplePlatform secondProduct).credentials.values.any fun credential =>
              credential.productId = product.id && outcome.2.cashOf product credential.subjectId .investor ≠
                planeCashOf (control_plane.run samplePlatform secondProduct) product credential.subjectId) = true := by
      decide +kernel
    rw [hloaded] at hdiffers
    simp only [Except.toOption, Option.any_some, List.any_eq_true, Bool.and_eq_true, decide_eq_true_eq] at hdiffers
    obtain ⟨product, hproduct, credential, hcredential, hof, hne⟩ := hdiffers
    exact hne (hcarried.holders product hproduct credential hcredential hof)

end Sample

end rwa.durable
