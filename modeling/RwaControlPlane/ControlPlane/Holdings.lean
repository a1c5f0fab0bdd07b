import RwaControlPlane.ControlPlane.Conservation

open attempt js_map js_value

namespace rwa.control_plane

variable {platform : Platform} {plane final : ControlPlane}

/-- A positive holding is within the limit of a registered credential, and the
holders of every pending retry have no colon in their ids. -/
structure Tables.Covered (tables : Tables) : Prop where
  holdings : ∀ subject productId, PlainId subject → 0 < balanceOf tables.assetBalances (balanceKey subject productId) →
    ∃ credentialId, tables.Covers credentialId productId subject
      (balanceOf tables.assetBalances (balanceKey subject productId))
  payloads : ∀ id exceptionCase, tables.exceptionCases.get id = some exceptionCase →
    PlainId exceptionCase.retryPayload.sellerId ∧ PlainId exceptionCase.retryPayload.buyerId

section Keys

/-- A key determines its holder and its asset when the holder has no colon. -/
theorem balanceKey_inj {first second asset other : String} (hfirst : PlainId first) (hsecond : PlainId second)
    (h : balanceKey first asset = balanceKey second other) : first = second ∧ asset = other := by
  have hasset : asset = other := by
    rw [← @keyAsset_balanceKey asset first hfirst, h, keyAsset_balanceKey hsecond]
  subst hasset
  exact ⟨balanceKey_left h, rfl⟩

end Keys

section Holdings

variable {tables moved : Tables} {command : Command} {passed : Passed}

theorem Tables.Covers.mono {credentialId productId subject : String} {units less : Int}
    (h : tables.Covers credentialId productId subject units) (hless : less ≤ units) :
    tables.Covers credentialId productId subject less := by
  obtain ⟨credential, maxUnits, hcredential, hproduct, hsubject, hparsed, hlimit⟩ := h.credential
  exact ⟨credential, maxUnits, hcredential, hproduct, hsubject, hparsed, hless.trans hlimit⟩

/-- A limit stays when credentials are only added. -/
theorem Tables.Covers.of_credentials {credentialId productId subject : String} {units : Int}
    (h : tables.Covers credentialId productId subject units)
    (hkept : ∀ id credential, tables.credentials.get id = some credential →
      moved.credentials.get id = some credential) :
    moved.Covers credentialId productId subject units := by
  obtain ⟨credential, maxUnits, hcredential, hrest⟩ := h.credential
  exact ⟨credential, maxUnits, hkept _ _ hcredential, hrest⟩

/-- Movements leave every holding as it was or lower, or within the limit of the
credential that was checked. -/
private theorem moved_holding (h : command.Settles platform plane passed) (hsound : plane.toTables.Sound)
    (hplain : command.PlainHolders) {subject productId : String} (hsubject : PlainId subject) :
    balanceOf (passed.moved plane.toTables).assetBalances (balanceKey subject productId) ≤
        balanceOf plane.assetBalances (balanceKey subject productId) ∨
      ∃ credentialId, plane.Covers credentialId productId subject
        (balanceOf (passed.moved plane.toTables).assetBalances (balanceKey subject productId)) := by
  cases command with
  | subscribe command =>
    obtain ⟨plan, hchecked, rfl⟩ := settles_subscribe h
    have hunits := hchecked.positive
    simp only [SubscribeCommand.passed, Tables.subscribed, addLegalRegister_assetBalances,
      addAssetBalance_assetBalances, setCashSettlement_assetBalances, addCash_assetBalances]
    rw [balanceOf_add]
    by_cases hkey : balanceKey subject productId = balanceKey command.investorId command.productId
    · obtain ⟨rfl, rfl⟩ := balanceKey_inj hsubject hplain hkey
      have hcovers := hchecked.covers
      rw [hsound.products _ _ hchecked.product] at hcovers
      rw [if_pos rfl]
      exact Or.inr ⟨_, hcovers⟩
    · rw [if_neg hkey]
      omega
  | transfer command =>
    obtain ⟨plan, hchecked, rfl⟩ := settles_transfer h
    have hunits := hchecked.positive.1
    simp only [TransferCommand.passed, Tables.transferred, addLegalRegister_assetBalances,
      addAssetBalance_assetBalances, setCashSettlement_assetBalances, addCash_assetBalances]
    rw [balanceOf_add, balanceOf_add]
    by_cases hkey : balanceKey subject productId = balanceKey command.buyerId command.productId
    · obtain ⟨rfl, rfl⟩ := balanceKey_inj hsubject hplain.2 hkey
      have hparties : ¬balanceKey command.buyerId command.productId = balanceKey command.sellerId command.productId :=
        fun heq => hchecked.parties (balanceKey_inj hplain.2 hplain.1 heq).1.symm
      have hcovers := hchecked.covers
      rw [hsound.products _ _ hchecked.product] at hcovers
      rw [if_pos rfl, if_neg hparties, Int.add_zero]
      exact Or.inr ⟨_, hcovers⟩
    · rw [if_neg hkey]
      left
      split <;> omega
  | redeem command =>
    obtain ⟨plan, hchecked, rfl⟩ := settles_redeem h
    have hunits := hchecked.positive
    simp only [RedeemCommand.passed, Tables.redeemed, setCashSettlement_assetBalances, addCash_assetBalances,
      addLegalRegister_assetBalances, addAssetBalance_assetBalances]
    rw [balanceOf_add]
    left
    split <;> omega
  | simulateRegisterFailure command =>
    obtain ⟨plan, _, rfl⟩ := settles_failure h
    exact Or.inl (Int.le_refl _)

/-- Holdings that went down or were checked stay covered. -/
private theorem covered_of_holdings (hcovered : tables.Covered)
    (hholdings : ∀ subject productId, PlainId subject →
      balanceOf moved.assetBalances (balanceKey subject productId) ≤
          balanceOf tables.assetBalances (balanceKey subject productId) ∨
        ∃ credentialId, tables.Covers credentialId productId subject
          (balanceOf moved.assetBalances (balanceKey subject productId)))
    (hcredentials : ∀ id credential, tables.credentials.get id = some credential →
      moved.credentials.get id = some credential)
    (hpayloads : ∀ id exceptionCase, moved.exceptionCases.get id = some exceptionCase →
      PlainId exceptionCase.retryPayload.sellerId ∧ PlainId exceptionCase.retryPayload.buyerId) : moved.Covered := by
  refine ⟨?_, hpayloads⟩
  intro subject productId hsubject hpositive
  rcases hholdings subject productId hsubject with hless | ⟨credentialId, hcovers⟩
  · obtain ⟨credentialId, hcovers⟩ := hcovered.holdings subject productId hsubject (by omega)
    exact ⟨credentialId, (hcovers.mono hless).of_credentials hcredentials⟩
  · exact ⟨credentialId, hcovers.of_credentials hcredentials⟩

/-- Changes to other maps keep the holdings covered. -/
private theorem covered_of_same (hcovered : tables.Covered) (hassets : moved.assetBalances = tables.assetBalances)
    (hcredentials : moved.credentials = tables.credentials)
    (hpayloads : ∀ id exceptionCase, moved.exceptionCases.get id = some exceptionCase →
      PlainId exceptionCase.retryPayload.sellerId ∧ PlainId exceptionCase.retryPayload.buyerId) : moved.Covered := by
  refine covered_of_holdings hcovered (fun _ _ _ => ?_) (fun _ _ hstored => hcredentials ▸ hstored) hpayloads
  rw [hassets]
  exact Or.inl (Int.le_refl _)

/-- A transaction and a case may change together, under the same retry terms. -/
private theorem resolution_covered (hcovered : tables.Covered) {exceptionCase changed : ExceptionCase} {caseId : String}
    {transaction : Transaction} (hcase : tables.exceptionCases.get caseId = some exceptionCase)
    (hpayload : changed.retryPayload = exceptionCase.retryPayload) :
    ((tables.setTransaction transaction).setCase changed).Covered := by
  refine covered_of_same hcovered rfl rfl ?_
  intro id stored hget
  rw [setCase_exceptionCases, get_set] at hget
  by_cases hid : id = changed.id
  · rw [if_pos hid] at hget
    obtain rfl := Option.some.inj hget
    rw [hpayload]
    exact hcovered.payloads _ _ hcase
  · rw [if_neg hid] at hget
    exact hcovered.payloads id stored hget

end Holdings

section Calls

variable {tables : Tables}

/-- A settlement call keeps every holding covered, however it ends. -/
theorem Command.Outcome.covered {command : Command} {outcome : Except Failure Receipt}
    (h : command.Outcome platform plane outcome final) (hsound : plane.toTables.Sound) (hplain : command.PlainHolders)
    (hcovered : plane.toTables.Covered) : final.toTables.Covered := by
  cases h with
  | refused _ _ kept => rwa [show final.toTables = plane.toTables from congrArg Books.toTables kept]
  | replayed => exact hcovered
  | conflict => exact hcovered
  | @broken passed _ _ settles _ moved =>
    rw [toTables_of_books moved]
    have hrecords := settles.moved_records plane.toTables
    refine covered_of_holdings hcovered (fun _ _ hsubject => moved_holding settles hsound hplain hsubject) ?_ ?_
    · exact fun _ _ hstored => hrecords.credentials ▸ hstored
    · exact fun id exceptionCase hcase => hcovered.payloads id exceptionCase (hrecords.exceptionCases ▸ hcase)
  | @executed passed policy settledAt lifecycle commitment fingerprint receipt _ settles _ _ _ stored =>
    rw [toTables_of_books stored]
    have hrecords := settles.moved_records plane.toTables
    refine covered_of_holdings hcovered (fun subject productId hsubject => ?_) ?_ ?_
    · simp only [setIdempotency_assetBalances, openCase_assetBalances, setTransaction_assetBalances]
      exact moved_holding settles hsound hplain hsubject
    · intro id credential hstored
      simp only [setIdempotency_credentials, openCase_credentials, setTransaction_credentials, ← hrecords.credentials]
      exact hstored
    · intro id exceptionCase hcase
      rw [setIdempotency_exceptionCases] at hcase
      rcases settles.opened with ⟨hopened, _⟩ | ⟨terms, plan, rfl, _, hopened⟩
      · rw [hopened, Tables.openCase, setTransaction_exceptionCases, ← hrecords.exceptionCases] at hcase
        exact hcovered.payloads id exceptionCase hcase
      · rw [hopened, Tables.openCase, setCase_exceptionCases, setTransaction_exceptionCases, ← hrecords.exceptionCases,
          get_set] at hcase
        by_cases hid : id = (terms.exceptionCase (platform.isoText plane.clock) plan).id
        · rw [if_pos hid] at hcase
          obtain rfl := Option.some.inj hcase
          exact hplain
        · rw [if_neg hid] at hcase
          exact hcovered.payloads id exceptionCase hcase

/-- An approval keeps every holding covered, however it ends. -/
theorem ApprovalEnds.covered {caseId checkerId : String} {outcome : Except Failure Resolved} {books : Books}
    (h : ApprovalEnds platform plane caseId checkerId outcome books) (hsound : plane.toTables.Sound)
    (hcovered : plane.toTables.Covered) : books.toTables.Covered := by
  cases h with
  | refused => exact hcovered
  | cancelled approvable => exact resolution_covered hcovered approvable.found rfl
  | @retry exceptionCase proposal original reviewed settled lifecycle transferred _ _ approvable _ _ review _
    transfer ends =>
    have hreviewed : reviewed.toTables.Sound := by
      rw [toTables_of_books review]
      exact setTransaction_sound hsound approvable.stored
    have hplain : (exceptionCase.retry proposal).PlainHolders := hcovered.payloads _ _ approvable.found
    have hsettled : settled.toTables.Covered := by
      refine transfer.covered hreviewed hplain ?_
      rw [toTables_of_books review]
      exact covered_of_same hcovered rfl rfl hcovered.payloads
    have hcase : settled.exceptionCases.get caseId = some exceptionCase := by
      rw [transfer.keeps_cases Operation.noConfusion, toTables_of_books review]
      exact approvable.found
    cases ends with
    | blocked => exact resolution_covered hsettled hcase rfl
    | retried => exact resolution_covered hsettled hcase rfl

/-- Every call between holders without a colon keeps every holding covered. -/
theorem CallEnds.covered {call : Call} {outcome : Except Failure Reply} {books : Books}
    (h : CallEnds platform plane call outcome books) (hsound : plane.toTables.Sound) (hplain : call.PlainHolders)
    (hcovered : plane.toTables.Covered) : books.toTables.Covered := by
  cases h with
  | refused => exact hcovered
  | registered => exact covered_of_same hcovered rfl rfl hcovered.payloads
  | created => exact covered_of_same hcovered rfl rfl hcovered.payloads
  | activated => exact covered_of_same hcovered rfl rfl hcovered.payloads
  | paused => exact covered_of_same hcovered rfl rfl hcovered.payloads
  | @credential credential fresh =>
    refine ⟨?_, hcovered.payloads⟩
    intro subject productId hsubject hpositive
    obtain ⟨credentialId, hcovers⟩ := hcovered.holdings subject productId hsubject hpositive
    refine ⟨credentialId, hcovers.of_credentials fun id stored hstored => ?_⟩
    change (plane.credentials.set credential.id credential).get id = some stored
    rw [get_set_of_ne]
    · exact hstored
    · rintro rfl
      rw [fresh] at hstored
      cases hstored
  | revoked => exact covered_of_same hcovered rfl rfl hcovered.payloads
  | evidence => exact covered_of_same hcovered rfl rfl hcovered.payloads
  | credited => exact covered_of_same hcovered rfl rfl hcovered.payloads
  | settled ends => exact ends.covered hsound hplain hcovered
  | proposed proposable => exact resolution_covered hcovered proposable.found rfl
  | approved ends => exact ends.covered hsound hcovered

end Calls

theorem start_covered : ControlPlane.start.toTables.Covered where
  holdings := by
    intro _ _ _ hpositive
    exact absurd hpositive (Int.lt_irrefl 0)
  payloads := fun _ _ => nofun

/-- After every run between holders without a colon, every positive holding is
within the limit of a registered credential of its holder. -/
theorem run_covered {actions : List Action} (hplain : ∀ action ∈ actions, action.call.PlainHolders) :
    (run platform actions).toTables.Covered := by
  have hinvariant : (run platform actions).toTables.Sound ∧ (run platform actions).toTables.Covered := by
    refine @runs.run_invariant_of_admissible _ _ _
      (fun plane : ControlPlane => plane.toTables.Sound ∧ plane.toTables.Covered)
      (fun _ action => action.call.PlainHolders) ?_ _ _ ⟨start_sound, start_covered⟩ ?_
    · rintro state action ⟨hsound, hcovered⟩ hplainCall
      exact ⟨step_sound hsound, (step_ends hsound).covered hsound hplainCall hcovered⟩
    · intro before action after hactions
      exact hplain action (by simp [hactions])
  exact hinvariant.2

end rwa.control_plane
