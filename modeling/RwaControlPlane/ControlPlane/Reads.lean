import RwaControlPlane.ControlPlane.System

open attempt js_map js_value

namespace rwa.control_plane

variable {platform : Platform} {plane final : ControlPlane}

section Clock

theorem now_eq_ok_iff {time : Int} : now plane = (.ok time, final) ↔ plane.clock = time ∧ plane = final :=
  read_eq_ok_iff

theorem toBigInt_eq_ok_iff {text : String} {number : Int} :
    toBigInt text = .ok number ↔ js_text.bigInt text = some number := by
  unfold toBigInt
  cases js_text.bigInt text <;> simp

theorem toNonNegativeInteger_eq_ok_iff {value field : String} {number : Int} :
    toNonNegativeInteger value field plane = (.ok number, final) ↔
      js_text.bigInt value = some number ∧ 0 ≤ number ∧ plane = final := by
  simp only [toNonNegativeInteger, readsOnly_lift.bind_eq_ok_iff, readsOnly_ensure.bind_eq_ok_iff, lift_eq_ok_iff,
    ensure_eq_ok_iff, pure_eq_ok_iff, toBigInt_eq_ok_iff]
  constructor
  · rintro ⟨parsed, ⟨hparsed, -⟩, _, ⟨hpositive, -⟩, rfl, rfl⟩
    exact ⟨hparsed, hpositive, rfl⟩
  · rintro ⟨hparsed, hpositive, rfl⟩
    exact ⟨number, ⟨hparsed, trivial⟩, (), ⟨hpositive, trivial⟩, rfl, rfl⟩

end Clock

section ReadsOnly

@[simp] theorem readsOnly_now : ReadsOnly now := readsOnly_read

@[simp] theorem readsOnly_toNonNegativeInteger {value field : String} : ReadsOnly (toNonNegativeInteger value field) :=
  ReadsOnly.bind readsOnly_lift fun _ => ReadsOnly.bind readsOnly_ensure fun _ => readsOnly_pure

@[simp] theorem readsOnly_verifyStatement {institutionId signature : String} {body : JsValue} :
    ReadsOnly (verifyStatement platform institutionId body signature) := by
  apply ReadsOnly.bind readsOnly_read
  intro institution
  cases institution with
  | none => exact readsOnly_pure
  | some institution =>
    refine Keeps.ite readsOnly_pure ?_
    intro plane
    cases canonicalize platform.numberText body <;> rfl

@[simp] theorem readsOnly_product {productId : String} : ReadsOnly (product productId) :=
  ReadsOnly.bind readsOnly_read fun _ => readsOnly_require

@[simp] theorem readsOnly_activeProduct {productId : String} : ReadsOnly (activeProduct productId) :=
  ReadsOnly.bind readsOnly_product fun _ => ReadsOnly.bind readsOnly_ensure fun _ => readsOnly_pure

@[simp] theorem readsOnly_assertNewTransaction {id : String} : ReadsOnly (assertNewTransaction id) :=
  ReadsOnly.bind readsOnly_read fun _ => readsOnly_ensure

@[simp] theorem readsOnly_credentialStatus {credentialId : String} :
    ReadsOnly (credentialStatus platform credentialId) := by
  refine ReadsOnly.bind readsOnly_read fun restriction => ReadsOnly.bind readsOnly_read fun credential =>
    ReadsOnly.bind readsOnly_read fun time => ?_
  cases restriction with
  | some restriction => exact readsOnly_pure
  | none =>
    cases credential with
    | none => exact readsOnly_pure
    | some credential => exact Keeps.ite readsOnly_pure (Keeps.ite readsOnly_pure readsOnly_pure)

@[simp] theorem readsOnly_assertEligible {found : Product} {investorId credentialId : String} {additionalUnits : Int} :
    ReadsOnly (assertEligible platform found investorId credentialId additionalUnits) :=
  ReadsOnly.bind readsOnly_read fun _ => ReadsOnly.bind readsOnly_require fun _ =>
    ReadsOnly.bind readsOnly_credentialStatus fun _ =>
    ReadsOnly.bind readsOnly_ensure fun _ => ReadsOnly.bind readsOnly_ensure fun _ =>
      ReadsOnly.bind readsOnly_ensure fun _ =>
    ReadsOnly.bind readsOnly_ensure fun _ => ReadsOnly.bind readsOnly_verifyStatement fun _ =>
      ReadsOnly.bind readsOnly_ensure fun _ =>
    ReadsOnly.bind readsOnly_read fun _ => ReadsOnly.bind readsOnly_ensure fun _ =>
      ReadsOnly.bind readsOnly_ensure fun _ =>
    ReadsOnly.bind readsOnly_ensure fun _ => ReadsOnly.bind readsOnly_read fun _ =>
      ReadsOnly.bind readsOnly_lift fun _ => readsOnly_ensure

@[simp] theorem readsOnly_assertExitAllowed {found : Product} {investorId credentialId : String} :
    ReadsOnly (assertExitAllowed platform found investorId credentialId) :=
  ReadsOnly.bind readsOnly_read fun _ => ReadsOnly.bind readsOnly_require fun _ =>
    ReadsOnly.bind readsOnly_ensure fun _ =>
    ReadsOnly.bind readsOnly_ensure fun _ => ReadsOnly.bind readsOnly_verifyStatement fun _ =>
      ReadsOnly.bind readsOnly_ensure fun _ =>
    ReadsOnly.bind readsOnly_credentialStatus fun _ => ReadsOnly.bind readsOnly_ensure fun _ =>
      ReadsOnly.bind readsOnly_ensure fun _ =>
    readsOnly_pure

@[simp] theorem readsOnly_currentEvidence {found : Product} {dataType : String} :
    ReadsOnly (currentEvidence platform found dataType) :=
  ReadsOnly.bind readsOnly_read fun _ => ReadsOnly.bind readsOnly_read fun _ =>
    ReadsOnly.bind readsOnly_require fun _ =>
    ReadsOnly.bind readsOnly_ensure fun _ => readsOnly_pure

@[simp] theorem readsOnly_navPrice {nav : StoredEvidence} : ReadsOnly (navPrice nav) :=
  ReadsOnly.bind readsOnly_require fun _ => readsOnly_lift

@[simp] theorem readsOnly_policySnapshot {found : Product} {nav : StoredEvidence} :
    ReadsOnly (policySnapshot platform found nav) :=
  ReadsOnly.bind readsOnly_lift fun _ => readsOnly_pure

@[simp] theorem readsOnly_evidencePackageHash {transactionId : String} :
    ReadsOnly (evidencePackageHash platform transactionId) :=
  ReadsOnly.bind readsOnly_read fun _ => ReadsOnly.bind readsOnly_require fun _ =>
    ReadsOnly.bind readsOnly_read fun _ => readsOnly_lift

@[simp] theorem readsOnly_publicReceipt {transaction : Transaction} : ReadsOnly (publicReceipt platform transaction) :=
  ReadsOnly.bind readsOnly_evidencePackageHash fun _ => readsOnly_pure

@[simp] theorem readsOnly_checkSubscribe {command : SubscribeCommand} : ReadsOnly (checkSubscribe platform command) :=
  ReadsOnly.bind readsOnly_assertNewTransaction fun _ => ReadsOnly.bind readsOnly_activeProduct fun _ =>
    ReadsOnly.bind readsOnly_toNonNegativeInteger fun _ => ReadsOnly.bind readsOnly_toNonNegativeInteger fun _ =>
    ReadsOnly.bind readsOnly_ensure fun _ => ReadsOnly.bind readsOnly_assertEligible fun _ =>
    ReadsOnly.bind readsOnly_currentEvidence fun _ => ReadsOnly.bind readsOnly_navPrice fun _ =>
      ReadsOnly.bind readsOnly_ensure fun _ =>
    ReadsOnly.bind readsOnly_read fun _ => ReadsOnly.bind readsOnly_ensure fun _ => readsOnly_pure

@[simp] theorem readsOnly_checkTransfer {command : TransferCommand} : ReadsOnly (checkTransfer platform command) :=
  ReadsOnly.bind readsOnly_assertNewTransaction fun _ => ReadsOnly.bind readsOnly_activeProduct fun _ =>
    ReadsOnly.bind readsOnly_read fun _ => ReadsOnly.bind readsOnly_ensure fun _ =>
      ReadsOnly.bind readsOnly_toNonNegativeInteger fun _ =>
    ReadsOnly.bind readsOnly_toNonNegativeInteger fun _ => ReadsOnly.bind readsOnly_toNonNegativeInteger fun _ =>
    ReadsOnly.bind readsOnly_ensure fun _ => ReadsOnly.bind readsOnly_ensure fun _ =>
      ReadsOnly.bind readsOnly_read fun _ =>
    ReadsOnly.bind readsOnly_ensure fun _ => ReadsOnly.bind readsOnly_assertEligible fun _ =>
    ReadsOnly.bind readsOnly_assertEligible fun _ => ReadsOnly.bind readsOnly_currentEvidence fun _ =>
    ReadsOnly.bind readsOnly_navPrice fun _ => ReadsOnly.bind readsOnly_ensure fun _ =>
      ReadsOnly.bind readsOnly_read fun _ =>
    ReadsOnly.bind readsOnly_ensure fun _ => readsOnly_pure

@[simp] theorem readsOnly_checkRedeem {command : RedeemCommand} : ReadsOnly (checkRedeem platform command) :=
  ReadsOnly.bind readsOnly_assertNewTransaction fun _ => ReadsOnly.bind readsOnly_activeProduct fun _ =>
    ReadsOnly.bind readsOnly_toNonNegativeInteger fun _ => ReadsOnly.bind readsOnly_ensure fun _ =>
    ReadsOnly.bind readsOnly_assertExitAllowed fun _ => ReadsOnly.bind readsOnly_read fun _ =>
      ReadsOnly.bind readsOnly_ensure fun _ =>
    ReadsOnly.bind readsOnly_currentEvidence fun _ => ReadsOnly.bind readsOnly_navPrice fun _ =>
      ReadsOnly.bind readsOnly_read fun _ =>
    ReadsOnly.bind readsOnly_ensure fun _ => readsOnly_pure

end ReadsOnly

/-- A credential that lets an investor hold a number of units. -/
structure Tables.Covers (tables : Tables) (credentialId productId investorId : String) (units : Int) : Prop where
  credential : ∃ credential maxUnits, tables.credentials.get credentialId = some credential ∧
    credential.productId = productId ∧ credential.subjectId = investorId ∧
    js_text.bigInt credential.maxUnits = some maxUnits ∧ units ≤ maxUnits

/-- The envelope that prices a settlement: the newest one in effect, and not
expired. -/
structure ControlPlane.PricedBy (platform : Platform) (plane : ControlPlane) (product : Product)
    (nav : StoredEvidence) (price : Int) : Prop where
  newest : (evidenceCandidates platform plane.evidence.values product.id "nav" plane.clock).head? = some nav
  unexpired : dateAfter platform nav.expiresAt plane.clock = true
  price : nav.payload.navPerUnit.bind js_text.bigInt = some price

theorem product_eq_ok_iff {productId : String} {found : Product} :
    product productId plane = (.ok found, final) ↔ plane.products.get productId = some found ∧ plane = final := by
  simp only [product, ReadsOnly.bind_eq_ok_iff, readsOnly_read, read_eq_ok_iff, require_eq_ok_iff, and_true,
    exists_eq_left']

theorem activeProduct_eq_ok_iff {productId : String} {found : Product} :
    activeProduct productId plane = (.ok found, final) ↔
      plane.products.get productId = some found ∧ found.status = .active ∧ plane = final := by
  simp only [activeProduct, ReadsOnly.bind_eq_ok_iff, readsOnly_product, readsOnly_ensure, product_eq_ok_iff,
    ensure_eq_ok_iff, pure_eq_ok_iff, and_true, exists_const]
  constructor
  · rintro ⟨_, hfound, hactive, rfl, rfl⟩
    exact ⟨hfound, hactive, rfl⟩
  · rintro ⟨hfound, hactive, rfl⟩
    exact ⟨found, hfound, hactive, rfl, rfl⟩

theorem assertNewTransaction_eq_ok_iff {id : String} {done : Unit} :
    assertNewTransaction id plane = (.ok done, final) ↔ plane.transactions.get id = none ∧ plane = final := by
  simp only [assertNewTransaction, ReadsOnly.bind_eq_ok_iff, readsOnly_read, read_eq_ok_iff, ensure_eq_ok_iff,
    and_true, exists_eq_left', has_eq_false_iff]

theorem navPrice_eq_ok_iff {nav : StoredEvidence} {price : Int} :
    navPrice nav plane = (.ok price, final) ↔ nav.payload.navPerUnit.bind js_text.bigInt = some price ∧
    plane = final := by
  simp only [navPrice, ReadsOnly.bind_eq_ok_iff, readsOnly_require, require_eq_ok_iff, lift_eq_ok_iff,
    toBigInt_eq_ok_iff, and_true, Option.bind_eq_some_iff]
  constructor
  · rintro ⟨text, htext, hprice, rfl⟩
    exact ⟨⟨text, htext, hprice⟩, rfl⟩
  · rintro ⟨⟨text, htext, hprice⟩, rfl⟩
    exact ⟨text, htext, hprice, rfl⟩

theorem currentEvidence_ok {found : Product} {dataType : String} {evidence : StoredEvidence}
    (h : currentEvidence platform found dataType plane = (.ok evidence, final)) :
    (evidenceCandidates platform plane.evidence.values found.id dataType plane.clock).head? = some evidence ∧
      dateAfter platform evidence.expiresAt plane.clock = true := by
  simp only [currentEvidence, ReadsOnly.bind_eq_ok_iff, readsOnly_read, readsOnly_now, readsOnly_require,
    readsOnly_ensure, read_eq_ok_iff, require_eq_ok_iff, ensure_eq_ok_iff, pure_eq_ok_iff, now_eq_ok_iff, and_true,
    exists_eq_left', exists_const] at h
  obtain ⟨_, hnewest, hunexpired, rfl, _⟩ := h
  exact ⟨hnewest, hunexpired⟩

theorem assertEligible_ok {found : Product} {investorId credentialId : String} {additionalUnits : Int} {done : Unit}
    (h : assertEligible platform found investorId credentialId additionalUnits plane = (.ok done, final)) :
    plane.Covers credentialId found.id investorId
      (balanceOf plane.assetBalances (balanceKey investorId found.id) + additionalUnits) := by
  simp only [assertEligible, assetOf, ReadsOnly.bind_eq_ok_iff, readsOnly_read, readsOnly_now, readsOnly_require,
    readsOnly_ensure, readsOnly_lift, readsOnly_credentialStatus, readsOnly_verifyStatement, read_eq_ok_iff,
    require_eq_ok_iff, ensure_eq_ok_iff, lift_eq_ok_iff, toBigInt_eq_ok_iff, now_eq_ok_iff, and_true,
    exists_eq_left', exists_const] at h
  obtain ⟨credential, hcredential, status, _, _, _, hproduct, hsubject, _, _, _, _, _, _, maxUnits, hmaxUnits, hlimit,
    _⟩ := h
  exact ⟨credential, maxUnits, hcredential, hproduct, hsubject, hmaxUnits, hlimit⟩

/-- What a checked subscription relies on. -/
structure SubscribePlan.Checked (platform : Platform) (plane : ControlPlane) (command : SubscribeCommand)
    (plan : SubscribePlan) : Prop where
  fresh : plane.transactions.get command.id = none
  product : plane.products.get command.productId = some plan.product
  active : plan.product.status = .active
  positive : 0 < plan.units
  covers : plane.Covers command.credentialId plan.product.id command.investorId
    (balanceOf plane.assetBalances (balanceKey command.investorId plan.product.id) + plan.units)
  priced : ∃ price, plane.PricedBy platform plan.product plan.nav price ∧ plan.amount = plan.units * price
  funds : plan.amount ≤ balanceOf plane.cashBalances (balanceKey command.investorId plan.product.rules.currency)

theorem checkSubscribe_ok {command : SubscribeCommand} {plan : SubscribePlan}
    (h : checkSubscribe platform command plane = (.ok plan, final)) : plan.Checked platform plane command := by
  simp only [checkSubscribe, ReadsOnly.bind_eq_ok_iff, readsOnly_assertNewTransaction, readsOnly_activeProduct,
    readsOnly_toNonNegativeInteger, readsOnly_assertEligible, readsOnly_currentEvidence, readsOnly_navPrice,
    readsOnly_read, readsOnly_ensure, assertNewTransaction_eq_ok_iff, activeProduct_eq_ok_iff,
    toNonNegativeInteger_eq_ok_iff, navPrice_eq_ok_iff, read_eq_ok_iff, ensure_eq_ok_iff, pure_eq_ok_iff, and_true,
    exists_eq_left', exists_const] at h
  obtain ⟨hnew, found, ⟨hfound, hactive⟩, units, _, amount, _, hpositive, _, heligible, nav, hnav, price, hprice,
    hamount, hfunds, rfl, _⟩ := h
  obtain ⟨hnewest, hunexpired⟩ := currentEvidence_ok hnav
  exact {
    fresh := hnew
    product := hfound
    active := hactive
    positive := hpositive
    covers := assertEligible_ok heligible
    priced := ⟨price, ⟨hnewest, hunexpired, hprice⟩, hamount⟩
    funds := hfunds
  }

/-- What a checked transfer relies on. -/
structure TransferPlan.Checked (platform : Platform) (plane : ControlPlane) (command : TransferCommand)
    (plan : TransferPlan) : Prop where
  fresh : plane.transactions.get command.id = none
  product : plane.products.get command.productId = some plan.product
  active : plan.product.status = .active
  units : js_text.bigInt command.units = some plan.units
  price : js_text.bigInt command.pricePerUnit = some plan.price
  fee : js_text.bigInt command.feeText = some plan.fee
  positive : 0 < plan.units ∧ 0 < plan.price ∧ 0 ≤ plan.fee
  parties : command.sellerId ≠ command.buyerId
  held : plan.units ≤ balanceOf plane.assetBalances (balanceKey command.sellerId command.productId)
  covers : plane.Covers command.buyerCredentialId plan.product.id command.buyerId
    (balanceOf plane.assetBalances (balanceKey command.buyerId plan.product.id) + plan.units)
  priced : ∃ price, plane.PricedBy platform plan.product plan.nav price
  funds : plan.consideration + plan.fee ≤
    balanceOf plane.cashBalances (balanceKey command.buyerId plan.product.rules.currency)

theorem checkTransfer_ok {command : TransferCommand} {plan : TransferPlan}
    (h : checkTransfer platform command plane = (.ok plan, final)) : plan.Checked platform plane command := by
  simp only [checkTransfer, assetOf, ReadsOnly.bind_eq_ok_iff, readsOnly_assertNewTransaction,
    readsOnly_activeProduct, readsOnly_toNonNegativeInteger, readsOnly_assertEligible, readsOnly_currentEvidence,
    readsOnly_navPrice, readsOnly_read, readsOnly_now, readsOnly_ensure, assertNewTransaction_eq_ok_iff,
    activeProduct_eq_ok_iff, toNonNegativeInteger_eq_ok_iff, navPrice_eq_ok_iff, now_eq_ok_iff, read_eq_ok_iff,
    ensure_eq_ok_iff, pure_eq_ok_iff, and_true, exists_eq_left', exists_const] at h
  obtain ⟨hnew, found, ⟨hfound, hactive⟩, _, units, ⟨hunits, _⟩, price, ⟨hprice, _⟩, fee, ⟨hfee, hfeeSign⟩, hpositive,
    hparties, hheld, _, _, _, hbuyer, nav, hnav, navValue, hnavPrice, _, hfunds, rfl, _⟩ := h
  obtain ⟨hnewest, hunexpired⟩ := currentEvidence_ok hnav
  exact {
    fresh := hnew
    product := hfound
    active := hactive
    units := hunits
    price := hprice
    fee := hfee
    positive := ⟨hpositive.1, hpositive.2, hfeeSign⟩
    parties := hparties
    held := hheld
    covers := assertEligible_ok hbuyer
    priced := ⟨navValue, hnewest, hunexpired, hnavPrice⟩
    funds := hfunds
  }

/-- What a checked redemption relies on. -/
structure RedeemPlan.Checked (platform : Platform) (plane : ControlPlane) (command : RedeemCommand)
    (plan : RedeemPlan) : Prop where
  fresh : plane.transactions.get command.id = none
  product : plane.products.get command.productId = some plan.product
  active : plan.product.status = .active
  positive : 0 < plan.units
  held : plan.units ≤ balanceOf plane.assetBalances (balanceKey command.investorId command.productId)
  priced : ∃ price, plane.PricedBy platform plan.product plan.nav price ∧ plan.cashAmount = plan.units * price
  funds : plan.cashAmount ≤
    balanceOf plane.cashBalances (balanceKey plan.product.issuerId plan.product.rules.currency)

theorem checkRedeem_ok {command : RedeemCommand} {plan : RedeemPlan}
    (h : checkRedeem platform command plane = (.ok plan, final)) : plan.Checked platform plane command := by
  simp only [checkRedeem, assetOf, ReadsOnly.bind_eq_ok_iff, readsOnly_assertNewTransaction, readsOnly_activeProduct,
    readsOnly_toNonNegativeInteger, readsOnly_assertExitAllowed, readsOnly_currentEvidence, readsOnly_navPrice,
    readsOnly_read, readsOnly_ensure, assertNewTransaction_eq_ok_iff, activeProduct_eq_ok_iff,
    toNonNegativeInteger_eq_ok_iff, navPrice_eq_ok_iff, read_eq_ok_iff, ensure_eq_ok_iff, pure_eq_ok_iff, and_true,
    exists_eq_left', exists_const] at h
  obtain ⟨hnew, found, ⟨hfound, hactive⟩, units, _, hpositive, status, _, hheld, nav, hnav, price, hprice, hfunds, rfl,
    _⟩ := h
  obtain ⟨hnewest, hunexpired⟩ := currentEvidence_ok hnav
  exact {
    fresh := hnew
    product := hfound
    active := hactive
    positive := hpositive
    held := hheld
    priced := ⟨price, ⟨hnewest, hunexpired, hprice⟩, rfl⟩
    funds := hfunds
  }

end rwa.control_plane
