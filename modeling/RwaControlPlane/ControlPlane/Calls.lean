import RwaControlPlane.ControlPlane.Resolutions

open attempt js_map js_value

namespace rwa.control_plane

variable {platform : Platform} {plane final : ControlPlane}

/-- The product that a call creates. -/
def CreateProduct.product (command : CreateProduct) (time : String) : Product where
  id := command.id
  name := command.name
  jurisdiction := command.jurisdiction
  issuerId := command.issuerId
  roleAssignments := command.roleAssignments
  rules := command.rules
  ruleVersion := 1
  status := .draft
  createdAt := time

/-- How a call can end: what it replies, and the maps, credits and time it
leaves. -/
inductive CallEnds (platform : Platform) (plane : ControlPlane) : Call → Except Failure Reply → Books → Prop
  | refused {call : Call} {failure : Failure} (configuration : (∀ command, call ≠ .settle command) ∧
      ∀ caseId checkerId, call ≠ .approveExceptionResolution caseId checkerId) :
      CallEnds platform plane call (.error failure) plane.books
  | registered {institution : Institution} (fresh : plane.institutions.get institution.id = none) :
      CallEnds platform plane (.registerInstitution institution) (.ok .done)
        (plane.books.withTables { plane.toTables with
          institutions := plane.institutions.set institution.id institution })
  | created {command : CreateProduct} (fresh : plane.products.get command.id = none) :
      CallEnds platform plane (.createProduct command) (.ok (.created (command.product (platform.isoText plane.clock))))
        (plane.books.withTables { plane.toTables with
          products := plane.products.set command.id (command.product (platform.isoText plane.clock)) })
  | activated {productId : String} {found : Product} (found_ : plane.products.get productId = some found) :
      CallEnds platform plane (.activateProduct productId) (.ok .done)
        (plane.books.withTables { plane.toTables with
          products := plane.products.set found.id { found with status := .active } })
  | paused {productId reason : String} {found : Product} (found_ : plane.products.get productId = some found) :
      CallEnds platform plane (.pauseProduct productId reason) (.ok .done)
        (plane.books.withTables { plane.toTables with
          products := plane.products.set found.id { found with status := .paused } })
  | credential {credential : Credential} (fresh : plane.credentials.get credential.id = none) :
      CallEnds platform plane (.registerCredential credential) (.ok .done)
        (plane.books.withTables { plane.toTables with
          credentials := plane.credentials.set credential.id credential })
  | revoked {credentialId reason : String} :
      CallEnds platform plane (.revokeCredential credentialId reason) (.ok .done)
        (plane.books.withTables { plane.toTables with
          credentialRestrictions := plane.credentialRestrictions.set credentialId
            ⟨.restrictedExit, reason, platform.isoText plane.clock⟩ })
  | evidence {envelope : Evidence} (fresh : plane.evidence.get envelope.id = none)
      (price : envelope.dataType = "nav" → ∃ price, envelope.payload.navPerUnit.bind js_text.bigInt = some price ∧
        0 < price) :
      CallEnds platform plane (.submitEvidence envelope) (.ok .done)
        (plane.books.withTables { plane.toTables with
          evidence := plane.evidence.set envelope.id { envelope with status := .active } })
  | credited {accountId currency amount : String} {credited : Int} (parsed : js_text.bigInt amount = some credited)
      (positive : 0 ≤ credited) :
      CallEnds platform plane (.creditSandboxCash accountId currency amount) (.ok .done)
        ⟨plane.toTables.addCash (balanceKey accountId currency) credited,
          plane.credits ++ [(accountId, currency, amount)], plane.clock⟩
  | settled {command : Command} {outcome : Except Failure Receipt} {final : ControlPlane}
      (ends : command.Outcome platform plane outcome final) :
      CallEnds platform plane (.settle command) (outcome.map Reply.receipt) final.books
  | proposed {caseId makerId : String} {decision : Decision} {replacementTransactionId : Option String}
      {exceptionCase : ExceptionCase} {original : Transaction}
      (proposable : Proposable plane caseId makerId decision replacementTransactionId exceptionCase original)
      (lifecycle : List Transition) (time : String) :
      CallEnds platform plane (.proposeExceptionResolution caseId makerId decision replacementTransactionId)
        (.ok (.proposed ⟨caseId, decision, replacementTransactionId, makerId⟩))
        (plane.books.withTables ((plane.toTables.setTransaction (original.inState .pendingApproval lifecycle)).setCase
          (exceptionCase.proposed ⟨decision, replacementTransactionId, makerId, time⟩)))
  | approved {caseId checkerId : String} {outcome : Except Failure Resolved} {books : Books}
      (ends : ApprovalEnds platform plane caseId checkerId outcome books) :
      CallEnds platform plane (.approveExceptionResolution caseId checkerId) (outcome.map Reply.resolved) books

section Configuration

variable {outcome : Except Failure Unit}

private theorem registerInstitution_cases {institution : Institution}
    (h : registerInstitution platform institution plane = (outcome, final)) :
    ((∃ failure, outcome = .error failure) ∧ final.books = plane.books) ∨
      plane.institutions.get institution.id = none ∧ outcome = .ok () ∧
        final.books = plane.books.withTables { plane.toTables with
          institutions := plane.institutions.set institution.id institution } := by
  unfold registerInstitution at h
  rw [read_bind] at h
  rcases ensure_cases h with ⟨_, rfl, rfl⟩ | ⟨hknown, h⟩
  · exact Or.inl ⟨⟨_, rfl⟩, rfl⟩
  rcases ensure_cases h with ⟨_, rfl, rfl⟩ | ⟨_, h⟩
  · exact Or.inl ⟨⟨_, rfl⟩, rfl⟩
  obtain ⟨rfl, rfl⟩ := Prod.mk.inj h
  exact Or.inr ⟨has_eq_false_iff.mp hknown, rfl, books_log rfl⟩

private theorem createProduct_cases {command : CreateProduct} {created : Except Failure Product}
    (h : createProduct platform command plane = (created, final)) :
    ((∃ failure, created = .error failure) ∧ final.books = plane.books) ∨
      plane.products.get command.id = none ∧ created = .ok (command.product (platform.isoText plane.clock)) ∧
        final.books = plane.books.withTables { plane.toTables with
          products := plane.products.set command.id (command.product (platform.isoText plane.clock)) } := by
  unfold createProduct at h
  rw [read_bind] at h
  rcases ensure_cases h with ⟨_, rfl, rfl⟩ | ⟨hknown, h⟩
  · exact Or.inl ⟨⟨_, rfl⟩, rfl⟩
  rcases ensure_cases h with ⟨_, rfl, rfl⟩ | ⟨_, h⟩
  · exact Or.inl ⟨⟨_, rfl⟩, rfl⟩
  rw [hasRole, read_bind] at h
  rcases ensure_cases h with ⟨_, rfl, rfl⟩ | ⟨_, h⟩
  · exact Or.inl ⟨⟨_, rfl⟩, rfl⟩
  rcases ensure_cases h with ⟨_, rfl, rfl⟩ | ⟨_, h⟩
  · exact Or.inl ⟨⟨_, rfl⟩, rfl⟩
  rcases ensure_cases h with ⟨_, rfl, rfl⟩ | ⟨_, h⟩
  · exact Or.inl ⟨⟨_, rfl⟩, rfl⟩
  obtain ⟨rfl, rfl⟩ := Prod.mk.inj h
  exact Or.inr ⟨has_eq_false_iff.mp hknown, rfl, books_log rfl⟩

private theorem readsOnly_assertRoles {found : Product} {roles : List String} :
    ReadsOnly (assertRoles found roles) := by
  induction roles with
  | nil => exact readsOnly_pure
  | cons role roles ih =>
    exact ReadsOnly.bind readsOnly_require fun _ => ReadsOnly.bind readsOnly_ensure fun _ =>
      ReadsOnly.bind readsOnly_read fun _ => ReadsOnly.bind readsOnly_ensure fun _ => ih

private theorem activateProduct_cases {productId : String}
    (h : activateProduct platform productId plane = (outcome, final)) :
    ((∃ failure, outcome = .error failure) ∧ final.books = plane.books) ∨
      ∃ found, plane.products.get productId = some found ∧ outcome = .ok () ∧
        final.books = plane.books.withTables { plane.toTables with
          products := plane.products.set found.id { found with status := .active } } := by
  unfold activateProduct at h
  rcases readsOnly_product.bind_cases h with ⟨hfails, rfl⟩ | ⟨found, hfound, h⟩
  · exact Or.inl ⟨hfails, rfl⟩
  rcases readsOnly_ensure.bind_cases h with ⟨hfails, rfl⟩ | ⟨_, _, h⟩
  · exact Or.inl ⟨hfails, rfl⟩
  rcases readsOnly_assertRoles.bind_cases h with ⟨hfails, rfl⟩ | ⟨_, _, h⟩
  · exact Or.inl ⟨hfails, rfl⟩
  obtain ⟨rfl, rfl⟩ := Prod.mk.inj h
  exact Or.inr ⟨found, (product_eq_ok_iff.mp hfound).1, rfl, books_log rfl⟩

private theorem pauseProduct_cases {productId reason : String}
    (h : pauseProduct platform productId reason plane = (outcome, final)) :
    ((∃ failure, outcome = .error failure) ∧ final.books = plane.books) ∨
      ∃ found, plane.products.get productId = some found ∧ outcome = .ok () ∧
        final.books = plane.books.withTables { plane.toTables with
          products := plane.products.set found.id { found with status := .paused } } := by
  unfold pauseProduct at h
  rcases readsOnly_product.bind_cases h with ⟨hfails, rfl⟩ | ⟨found, hfound, h⟩
  · exact Or.inl ⟨hfails, rfl⟩
  rcases readsOnly_ensure.bind_cases h with ⟨hfails, rfl⟩ | ⟨_, _, h⟩
  · exact Or.inl ⟨hfails, rfl⟩
  obtain ⟨rfl, rfl⟩ := Prod.mk.inj h
  exact Or.inr ⟨found, (product_eq_ok_iff.mp hfound).1, rfl, books_log rfl⟩

private theorem registerCredential_cases {credential : Credential}
    (h : registerCredential platform credential plane = (outcome, final)) :
    ((∃ failure, outcome = .error failure) ∧ final.books = plane.books) ∨
      plane.credentials.get credential.id = none ∧ outcome = .ok () ∧
        final.books = plane.books.withTables { plane.toTables with
          credentials := plane.credentials.set credential.id credential } := by
  unfold registerCredential at h
  rcases readsOnly_product.bind_cases h with ⟨hfails, rfl⟩ | ⟨_, _, h⟩
  · exact Or.inl ⟨hfails, rfl⟩
  rcases readsOnly_ensure.bind_cases h with ⟨hfails, rfl⟩ | ⟨_, _, h⟩
  · exact Or.inl ⟨hfails, rfl⟩
  rcases readsOnly_verifyStatement.bind_cases h with ⟨hfails, rfl⟩ | ⟨_, _, h⟩
  · exact Or.inl ⟨hfails, rfl⟩
  rcases readsOnly_ensure.bind_cases h with ⟨hfails, rfl⟩ | ⟨_, _, h⟩
  · exact Or.inl ⟨hfails, rfl⟩
  rw [read_bind] at h
  rcases ensure_cases h with ⟨_, rfl, rfl⟩ | ⟨hknown, h⟩
  · exact Or.inl ⟨⟨_, rfl⟩, rfl⟩
  rcases readsOnly_ensure.bind_cases h with ⟨hfails, rfl⟩ | ⟨_, _, h⟩
  · exact Or.inl ⟨hfails, rfl⟩
  rcases readsOnly_toNonNegativeInteger.bind_cases h with ⟨hfails, rfl⟩ | ⟨_, _, h⟩
  · exact Or.inl ⟨hfails, rfl⟩
  rcases readsOnly_ensure.bind_cases h with ⟨hfails, rfl⟩ | ⟨_, _, h⟩
  · exact Or.inl ⟨hfails, rfl⟩
  obtain ⟨rfl, rfl⟩ := Prod.mk.inj h
  exact Or.inr ⟨has_eq_false_iff.mp hknown, rfl, books_log rfl⟩

private theorem revokeCredential_cases {credentialId reason : String}
    (h : revokeCredential platform credentialId reason plane = (outcome, final)) :
    ((∃ failure, outcome = .error failure) ∧ final.books = plane.books) ∨
      outcome = .ok () ∧ final.books = plane.books.withTables { plane.toTables with
        credentialRestrictions := plane.credentialRestrictions.set credentialId
          ⟨.restrictedExit, reason, platform.isoText plane.clock⟩ } := by
  unfold revokeCredential at h
  rw [read_bind] at h
  rcases readsOnly_ensure.bind_cases h with ⟨hfails, rfl⟩ | ⟨_, _, h⟩
  · exact Or.inl ⟨hfails, rfl⟩
  rw [read_bind] at h
  rcases readsOnly_ensure.bind_cases h with ⟨hfails, rfl⟩ | ⟨_, _, h⟩
  · exact Or.inl ⟨hfails, rfl⟩
  obtain ⟨rfl, rfl⟩ := Prod.mk.inj h
  exact Or.inr ⟨rfl, books_log rfl⟩

private theorem readsOnly_assertNav {found : Product} {payload : EvidencePayload} :
    ReadsOnly (assertNav found payload) :=
  ReadsOnly.bind readsOnly_ensure fun _ =>
    ReadsOnly.bind (ReadsOnly.bind readsOnly_require fun _ => readsOnly_toNonNegativeInteger) fun _ => readsOnly_ensure

private theorem assertNav_ok {found : Product} {payload : EvidencePayload} {done : Unit}
    (h : assertNav found payload plane = (.ok done, final)) :
    ∃ price, payload.navPerUnit.bind js_text.bigInt = some price ∧ 0 < price := by
  unfold assertNav at h
  obtain ⟨_, _, h⟩ := readsOnly_ensure.bind_eq_ok_iff.mp h
  obtain ⟨price, reached, hprice, hpositive⟩ := bind_eq_ok_iff.mp h
  obtain ⟨text, htext, hparsed⟩ := readsOnly_require.bind_eq_ok_iff.mp hprice
  rw [(require_eq_ok_iff.mp htext).1, Option.bind_some]
  exact ⟨price, (toNonNegativeInteger_eq_ok_iff.mp hparsed).1, (ensure_eq_ok_iff.mp hpositive).1⟩

private theorem submitEvidence_cases {envelope : Evidence}
    (h : submitEvidence platform envelope plane = (outcome, final)) :
    ((∃ failure, outcome = .error failure) ∧ final.books = plane.books) ∨
      plane.evidence.get envelope.id = none ∧
        (envelope.dataType = "nav" → ∃ price, envelope.payload.navPerUnit.bind js_text.bigInt = some price ∧
          0 < price) ∧
        outcome = .ok () ∧ final.books = plane.books.withTables { plane.toTables with
          evidence := plane.evidence.set envelope.id { envelope with status := .active } } := by
  unfold submitEvidence at h
  rcases readsOnly_product.bind_cases h with ⟨hfails, rfl⟩ | ⟨found, _, h⟩
  · exact Or.inl ⟨hfails, rfl⟩
  rcases readsOnly_require.bind_cases h with ⟨hfails, rfl⟩ | ⟨_, _, h⟩
  · exact Or.inl ⟨hfails, rfl⟩
  rcases readsOnly_ensure.bind_cases h with ⟨hfails, rfl⟩ | ⟨_, _, h⟩
  · exact Or.inl ⟨hfails, rfl⟩
  rcases readsOnly_verifyStatement.bind_cases h with ⟨hfails, rfl⟩ | ⟨_, _, h⟩
  · exact Or.inl ⟨hfails, rfl⟩
  rcases readsOnly_ensure.bind_cases h with ⟨hfails, rfl⟩ | ⟨_, _, h⟩
  · exact Or.inl ⟨hfails, rfl⟩
  rcases readsOnly_ensure.bind_cases h with ⟨hfails, rfl⟩ | ⟨_, _, h⟩
  · exact Or.inl ⟨hfails, rfl⟩
  dsimp only at h
  have hprice : ((∃ failure, outcome = .error failure) ∧ final = plane) ∨
      (envelope.dataType = "nav" → ∃ price, envelope.payload.navPerUnit.bind js_text.bigInt = some price ∧ 0 < price) ∧
        (read (·.evidence.has envelope.id) >>= fun known => do
          ensure (known = false) ⟨"DUPLICATE_EVIDENCE", "evidence already exists"⟩
          modify fun plane =>
            { plane with evidence := plane.evidence.set envelope.id { envelope with status := .active } }
          record platform (.evidenceAccepted envelope.id envelope.productId envelope.dataType)) plane =
            (outcome, final) := by
    by_cases hnav : envelope.dataType = "nav"
    · rw [if_pos hnav] at h
      rcases readsOnly_assertNav.bind_cases h with hfails | ⟨_, hchecked, h⟩
      · exact Or.inl hfails
      · exact Or.inr ⟨fun _ => assertNav_ok hchecked, h⟩
    · rw [if_neg hnav] at h
      exact Or.inr ⟨fun heq => absurd heq hnav, h⟩
  rcases hprice with ⟨hfails, rfl⟩ | ⟨hprice, h⟩
  · exact Or.inl ⟨hfails, rfl⟩
  rw [read_bind] at h
  rcases ensure_cases h with ⟨_, rfl, rfl⟩ | ⟨hknown, h⟩
  · exact Or.inl ⟨⟨_, rfl⟩, rfl⟩
  obtain ⟨rfl, rfl⟩ := Prod.mk.inj h
  exact Or.inr ⟨has_eq_false_iff.mp hknown, hprice, rfl, books_log rfl⟩

private theorem creditSandboxCash_cases {accountId currency amount : String}
    (h : creditSandboxCash platform accountId currency amount plane = (outcome, final)) :
    ((∃ failure, outcome = .error failure) ∧ final.books = plane.books) ∨
      ∃ credited, js_text.bigInt amount = some credited ∧ 0 ≤ credited ∧ outcome = .ok () ∧
        final.books = ⟨plane.toTables.addCash (balanceKey accountId currency) credited,
          plane.credits ++ [(accountId, currency, amount)], plane.clock⟩ := by
  unfold creditSandboxCash at h
  rcases readsOnly_toNonNegativeInteger.bind_cases h with ⟨hfails, rfl⟩ | ⟨credited, hcredited, h⟩
  · exact Or.inl ⟨hfails, rfl⟩
  obtain ⟨hparsed, hpositive, _⟩ := toNonNegativeInteger_eq_ok_iff.mp hcredited
  rw [creditCash_bind, record_run] at h
  obtain ⟨rfl, rfl⟩ := Prod.mk.inj h
  exact Or.inr ⟨credited, hparsed, hpositive, rfl, by simp [ControlPlane.books, Event.credit?]⟩

end Configuration

/-- Every call ends in one of the known ways. -/
theorem Call.run_ends (hsound : plane.toTables.Sound) {call : Call} {outcome : Except Failure Reply}
    (h : call.run platform plane = (outcome, final)) : CallEnds platform plane call outcome final.books := by
  cases call with
  | registerInstitution institution =>
    rw [Call.run] at h
    obtain ⟨_, hrun, rfl⟩ := bind_pure_cases h
    rcases registerInstitution_cases hrun with ⟨⟨failure, rfl⟩, hbooks⟩ | ⟨hfresh, rfl, hbooks⟩
    · rw [hbooks]
      exact .refused ⟨fun _ => Call.noConfusion, fun _ _ => Call.noConfusion⟩
    · rw [hbooks]
      exact .registered hfresh
  | createProduct command =>
    rw [Call.run] at h
    obtain ⟨_, hrun, rfl⟩ := bind_pure_cases h
    rcases createProduct_cases hrun with ⟨⟨failure, rfl⟩, hbooks⟩ | ⟨hfresh, rfl, hbooks⟩
    · rw [hbooks]
      exact .refused ⟨fun _ => Call.noConfusion, fun _ _ => Call.noConfusion⟩
    · rw [hbooks]
      exact .created hfresh
  | activateProduct productId =>
    rw [Call.run] at h
    obtain ⟨_, hrun, rfl⟩ := bind_pure_cases h
    rcases activateProduct_cases hrun with ⟨⟨failure, rfl⟩, hbooks⟩ | ⟨found, hfound, rfl, hbooks⟩
    · rw [hbooks]
      exact .refused ⟨fun _ => Call.noConfusion, fun _ _ => Call.noConfusion⟩
    · rw [hbooks]
      exact .activated hfound
  | pauseProduct productId reason =>
    rw [Call.run] at h
    obtain ⟨_, hrun, rfl⟩ := bind_pure_cases h
    rcases pauseProduct_cases hrun with ⟨⟨failure, rfl⟩, hbooks⟩ | ⟨found, hfound, rfl, hbooks⟩
    · rw [hbooks]
      exact .refused ⟨fun _ => Call.noConfusion, fun _ _ => Call.noConfusion⟩
    · rw [hbooks]
      exact .paused hfound
  | registerCredential credential =>
    rw [Call.run] at h
    obtain ⟨_, hrun, rfl⟩ := bind_pure_cases h
    rcases registerCredential_cases hrun with ⟨⟨failure, rfl⟩, hbooks⟩ | ⟨hfresh, rfl, hbooks⟩
    · rw [hbooks]
      exact .refused ⟨fun _ => Call.noConfusion, fun _ _ => Call.noConfusion⟩
    · rw [hbooks]
      exact .credential hfresh
  | revokeCredential credentialId reason =>
    rw [Call.run] at h
    obtain ⟨_, hrun, rfl⟩ := bind_pure_cases h
    rcases revokeCredential_cases hrun with ⟨⟨failure, rfl⟩, hbooks⟩ | ⟨rfl, hbooks⟩
    · rw [hbooks]
      exact .refused ⟨fun _ => Call.noConfusion, fun _ _ => Call.noConfusion⟩
    · rw [hbooks]
      exact .revoked
  | submitEvidence envelope =>
    rw [Call.run] at h
    obtain ⟨_, hrun, rfl⟩ := bind_pure_cases h
    rcases submitEvidence_cases hrun with ⟨⟨failure, rfl⟩, hbooks⟩ | ⟨hfresh, hprice, rfl, hbooks⟩
    · rw [hbooks]
      exact .refused ⟨fun _ => Call.noConfusion, fun _ _ => Call.noConfusion⟩
    · rw [hbooks]
      exact .evidence hfresh hprice
  | creditSandboxCash accountId currency amount =>
    rw [Call.run] at h
    obtain ⟨_, hrun, rfl⟩ := bind_pure_cases h
    rcases creditSandboxCash_cases hrun with ⟨⟨failure, rfl⟩, hbooks⟩ | ⟨credited, hparsed, hpositive, rfl, hbooks⟩
    · rw [hbooks]
      exact .refused ⟨fun _ => Call.noConfusion, fun _ _ => Call.noConfusion⟩
    · rw [hbooks]
      exact .credited hparsed hpositive
  | settle command =>
    rw [Call.run] at h
    obtain ⟨inner, hrun, rfl⟩ := bind_pure_cases h
    exact .settled (Command.run_outcome hsound hrun)
  | proposeExceptionResolution caseId makerId decision replacementTransactionId =>
    rw [Call.run] at h
    obtain ⟨_, hrun, rfl⟩ := bind_pure_cases h
    rcases proposeExceptionResolution_cases hsound hrun with ⟨⟨failure, rfl⟩, hbooks⟩ |
      ⟨exceptionCase, original, lifecycle, time, hproposable, rfl, hbooks⟩
    · rw [hbooks]
      exact .refused ⟨fun _ => Call.noConfusion, fun _ _ => Call.noConfusion⟩
    · rw [hbooks]
      exact .proposed hproposable lifecycle time
  | approveExceptionResolution caseId checkerId =>
    rw [Call.run] at h
    obtain ⟨inner, hrun, rfl⟩ := bind_pure_cases h
    exact .approved (approveExceptionResolution_cases hsound hrun)

end rwa.control_plane
