import RwaControlPlane.Durable.Soundness

open checked keyed_rows
open rwa.gate (ProductStatus TransactionType)
open rwa.storage (TransactionIntent)
open rwa.control_plane (Platform Decision)

namespace rwa.durable

variable {service : DurableWorkflowService} {db next : Database} {now : Int}

/-- How a call ends that does not fail. -/
inductive CallEnds (service : DurableWorkflowService) (db : Database) (now : Int) : Call → Reply → Database → Prop
  | bootstrapped {platform : Platform} {calls : List control_plane.Action} {next : Database}
      (loaded : bootstrapFromControlPlane service (control_plane.run platform calls) db = .ok ((), next)) :
      CallEnds service db now (.bootstrapFromControlPlane platform calls) .done next
  | statusSet {productId actorRef : String} {status : ProductStatus} :
      CallEnds service db now (.setProductStatus productId status actorRef) (.product productId status)
        { db with products := db.products.map fun row => if row.id = productId then { row with status } else row }
  | restricted {credentialId actorRef reason : String} :
      CallEnds service db now (.restrictCredential credentialId actorRef reason)
        (.credential credentialId .restrictedExit)
        { db with
          credentials := db.credentials.map fun row =>
            if row.id = credentialId then { row with status := .restrictedExit } else row }
  | settled {operation : Operation} {request : Request} {receipt : Receipt} {next : Database}
      (ends : SettlementEnds service db operation.type request
        (operation = .simulateRegisterFailure) now receipt next) :
      CallEnds service db now (.settle operation request) (.receipt receipt) next
  | proposed {caseId makerId : String} {decision : Decision} {replacementTransactionId : Option String}
      {row : ExceptionCase} {record : ApprovalRecord} {original : TransactionIntent} {proposed : Proposed}
      (proposable : Proposable db caseId makerId decision replacementTransactionId row record original) :
      CallEnds service db now (.proposeExceptionResolution caseId makerId decision replacementTransactionId)
        (.proposed proposed) (db.proposed row record original)
  | approved {caseId checkerId : String} {decision : ApprovalDecision} {decided : Decided} {next : Database}
      (ends : ApprovalEnds service db caseId checkerId decision now decided next) :
      CallEnds service db now (.approveExceptionResolution caseId checkerId decision) (.decided decided) next

/-- A committed transaction has failed and left everything as it was, or has
succeeded. -/
private theorem commit_cases {α : Type} {action : Database → Except Failure (α × Database)} {reply : α → Reply} :
    (∃ failure, action db = .error failure ∧
      commit db (fun db => (action db).map fun result => (reply result.1, result.2)) = (.error failure, db)) ∨
    ∃ result next, action db = .ok (result, next) ∧
      commit db (fun db => (action db).map fun result => (reply result.1, result.2)) = (.ok (reply result), next) := by
  cases haction : action db with
  | error failure => exact Or.inl ⟨failure, rfl, by simp [commit, haction, Except.map]⟩
  | ok outcome => exact Or.inr ⟨outcome.1, outcome.2, rfl, by simp [commit, haction, Except.map]⟩

/-- A call fails and changes nothing, or ends in one of the known ways. -/
theorem respond_cases (hids : (db.transactions.intents.map (·.id)).Nodup) (action : Action) :
    (∃ failure, respond service db action = (.error failure, db)) ∨
      ∃ reply next, respond service db action = (.ok reply, next) ∧
        CallEnds service db action.now action.call reply next := by
  obtain ⟨now, call⟩ := action
  cases call with
  | bootstrapFromControlPlane platform calls =>
    obtain ⟨failure, -, h⟩ | ⟨result, next, hok, h⟩ := @commit_cases db Unit
      (bootstrapFromControlPlane service (control_plane.run platform calls)) fun _ => .done
    · exact Or.inl ⟨failure, h⟩
    · exact Or.inr ⟨_, next, h, .bootstrapped hok⟩
  | setProductStatus productId status actorRef =>
    obtain ⟨failure, -, h⟩ | ⟨result, next, hok, h⟩ := @commit_cases db _
      (setProductStatus productId status actorRef) fun result => .product result.1 result.2
    · exact Or.inl ⟨failure, h⟩
    · simp only [setProductStatus, bind_eq_ok_iff, throwIf_eq_ok_iff, require_eq_ok_iff, exists_unit, pure_eq_ok_iff,
        Prod.mk.injEq] at hok
      obtain ⟨-, -, _, -, -, rfl, rfl⟩ := hok
      exact Or.inr ⟨_, _, h, .statusSet⟩
  | restrictCredential credentialId actorRef reason =>
    obtain ⟨failure, -, h⟩ | ⟨result, next, hok, h⟩ := @commit_cases db _
      (restrictCredential credentialId actorRef reason) fun result => .credential result.1 result.2
    · exact Or.inl ⟨failure, h⟩
    · simp only [restrictCredential, bind_eq_ok_iff, throwIf_eq_ok_iff, exists_unit, pure_eq_ok_iff, Prod.mk.injEq]
        at hok
      obtain ⟨-, -, -, rfl, rfl⟩ := hok
      exact Or.inr ⟨_, _, h, .restricted⟩
  | settle operation request =>
    obtain ⟨failure, -, h⟩ | ⟨result, next, hok, h⟩ := @commit_cases db _
      (settle service operation request now) .receipt
    · exact Or.inl ⟨failure, h⟩
    · exact Or.inr ⟨_, next, h, .settled (settleInTransaction_ok hok)⟩
  | proposeExceptionResolution caseId makerId decision replacementTransactionId =>
    obtain ⟨failure, -, h⟩ | ⟨result, next, hok, h⟩ := @commit_cases db _
      (proposeExceptionResolution caseId makerId decision replacementTransactionId) .proposed
    · exact Or.inl ⟨failure, h⟩
    · obtain ⟨row, record, original, hproposable, rfl⟩ := proposeExceptionResolution_ok hok
      exact Or.inr ⟨_, _, h, .proposed hproposable⟩
  | approveExceptionResolution caseId checkerId decision =>
    obtain ⟨failure, -, h⟩ | ⟨result, next, hok, h⟩ := @commit_cases db _
      (approveExceptionResolution service caseId checkerId decision now) .decided
    · exact Or.inl ⟨failure, h⟩
    · exact Or.inr ⟨_, next, h, .approved (approveExceptionResolution_ok hids hok)⟩

/-- The ids that name accounts have no colon, in a plane that a call loads. -/
def Call.PlainIds : Call → Prop
  | .bootstrapFromControlPlane platform calls => PlainPlane (control_plane.run platform calls)
  | _ => True

instance : DecidablePred Call.PlainIds
  | .bootstrapFromControlPlane platform calls =>
    inferInstanceAs (Decidable (PlainPlane (control_plane.run platform calls)))
  | .setProductStatus _ _ _ | .restrictCredential _ _ _ | .settle _ _ | .proposeExceptionResolution _ _ _ _
  | .approveExceptionResolution _ _ _ => inferInstanceAs (Decidable True)

theorem CallEnds.sound {call : Call} {reply : Reply} (h : CallEnds service db now call reply next)
    (hplain : call.PlainIds) (hsound : db.Sound) : next.Sound := by
  cases h with
  | bootstrapped loaded => exact bootstrap_sound hplain (control_plane.run_sound _) hsound loaded
  | statusSet =>
    refine ⟨hsound.intents, ?_, hsound.prices, hsound.subjects, hsound.ledger, hsound.register, hsound.covered,
      hsound.mirrored, hsound.units⟩
    intro product hproduct
    obtain ⟨row, hrow, rfl⟩ := List.mem_map.mp hproduct
    split <;> exact hsound.products row hrow
  | restricted =>
    refine ⟨hsound.intents, hsound.products, hsound.prices, ?_, hsound.ledger, hsound.register, hsound.covered,
      hsound.mirrored, hsound.units⟩
    intro credential hcredential
    obtain ⟨row, hrow, rfl⟩ := List.mem_map.mp hcredential
    split <;> exact hsound.subjects row hrow
  | settled ends => exact ends.sound hsound
  | proposed => exact hsound.record.updateCase.moved
  | approved ends => exact ends.sound hsound

theorem step_sound {action : Action} (hplain : action.call.PlainIds) (hsound : db.Sound) :
    (step service db action).Sound := by
  unfold step
  obtain ⟨failure, h⟩ | ⟨reply, next, h, hends⟩ := @respond_cases service db hsound.intents action
  · rw [h]
    exact hsound
  · rw [h]
    exact hends.sound hplain hsound

/-- The tables are sound after every run over ids without a colon. -/
theorem run_sound {actions : List Action} (hplain : ∀ action ∈ actions, action.call.PlainIds) :
    (run service actions).Sound := by
  refine @runs.run_invariant_of_admissible _ _ _ Database.Sound (fun _ action => action.call.PlainIds)
    (fun _ _ hsound hplain => step_sound hplain hsound) _ _ empty_sound ?_
  rintro before action after rfl
  exact hplain action (by simp)

end rwa.durable
