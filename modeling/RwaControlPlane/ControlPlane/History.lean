import RwaControlPlane.ControlPlane.Conservation
import RwaControlPlane.Library.JsCanonical

open attempt js_map js_value

namespace rwa.control_plane

variable {platform : Platform} {plane final : ControlPlane}

/-- The settlement command that a call runs, and the state in which it runs it: a
settlement call runs its own, and the approval of a retry that of the retry. -/
def Call.settlement (platform : Platform) (plane : ControlPlane) : Call → Option (Command × ControlPlane)
  | .settle command => some (command, plane)
  | .approveExceptionResolution caseId checkerId => do
    let exceptionCase ← plane.exceptionCases.get caseId
    let proposal ← exceptionCase.proposal
    let original ← plane.transactions.get exceptionCase.transactionId
    if exceptionCase.status = .pendingApproval ∧ checkerId ≠ "" ∧ checkerId ≠ proposal.makerId ∧
        proposal.decision ≠ .cancel then
      some (exceptionCase.retry proposal, (pushLifecycle platform original .reviewApproved plane).2)
    else none
  | _ => none

theorem settlement_approve_iff {caseId checkerId : String} {command : Command} {state : ControlPlane} :
    (Call.approveExceptionResolution caseId checkerId).settlement platform plane = some (command, state) ↔
      ∃ exceptionCase proposal original, Approvable plane caseId checkerId exceptionCase proposal original ∧
        proposal.decision ≠ .cancel ∧ command = exceptionCase.retry proposal ∧
        state = (pushLifecycle platform original .reviewApproved plane).2 := by
  simp only [Call.settlement, bind, Option.bind_eq_some_iff, Option.ite_none_right_eq_some, Option.some.injEq,
    Prod.mk.injEq]
  constructor
  · rintro ⟨exceptionCase, hfound, proposal, hproposal, original, horiginal, ⟨hpending, hchecker, hdifferent, hretry⟩,
      rfl, rfl⟩
    exact ⟨exceptionCase, proposal, original, ⟨hfound, horiginal, hpending, hproposal, hchecker, hdifferent⟩, hretry,
      rfl, rfl⟩
  · rintro ⟨exceptionCase, proposal, original, ⟨hfound, horiginal, hpending, hproposal, hchecker, hdifferent⟩, hretry,
      rfl, rfl⟩
    exact ⟨exceptionCase, hfound, proposal, hproposal, original, horiginal, ⟨hpending, hchecker, hdifferent, hretry⟩,
      rfl, rfl⟩

/-- A settlement command that was executed, and its receipt. -/
structure Execution where
  command : Command
  receipt : Receipt

/-- What an action executes: the settlement command that it runs under a key that
was not used before, if that succeeds. -/
def executed (platform : Platform) (plane : ControlPlane) (action : Action) : Option Execution :=
  match action.call.settlement platform (plane.atTime action.now) with
  | none => none
  | some (command, state) =>
    match (command.run platform state).1 with
    | .error _ => none
    | .ok receipt => if plane.idempotency.get command.idempotencyKey = none then some ⟨command, receipt⟩ else none

/-- A control plane, and what was executed on it so far. -/
structure Traced where
  plane : ControlPlane
  executions : List Execution

def Traced.step (platform : Platform) (traced : Traced) (action : Action) : Traced where
  plane := control_plane.step platform traced.plane action
  executions := traced.executions ++ (executed platform traced.plane action).toList

/-- The state after some actions, and what they executed. -/
def trace (platform : Platform) (actions : List Action) : Traced :=
  runs.run (Traced.step platform) ⟨ControlPlane.start, []⟩ actions

theorem trace_plane {actions : List Action} : (trace platform actions).plane = run platform actions :=
  @runs.run_view _ _ (Traced.step platform) _ _ Traced.plane (control_plane.step platform) (fun _ _ => rfl) actions

section Step

/-- The state in which a call runs its settlement command differs from the state
before the call in the log and in one lifecycle. -/
theorem settlement_state (hsound : plane.toTables.Sound) {call : Call} {command : Command} {state : ControlPlane}
    (h : call.settlement platform plane = some (command, state)) :
    state.toTables.Sound ∧ state.idempotency = plane.idempotency ∧ state.clock = plane.clock ∧
      state.products = plane.products ∧ state.assetBalances = plane.assetBalances := by
  cases call with
  | settle =>
    obtain ⟨rfl, rfl⟩ := Prod.mk.inj (Option.some.inj h)
    exact ⟨hsound, rfl, rfl, rfl, rfl⟩
  | approveExceptionResolution caseId checkerId =>
    obtain ⟨exceptionCase, proposal, original, happrovable, _, rfl, rfl⟩ := settlement_approve_iff.mp h
    have hid := hsound.transactions _ _ happrovable.stored
    rw [pushLifecycle_run (by simpa [hid] using happrovable.stored) rfl]
    exact ⟨setTransaction_sound hsound happrovable.stored, rfl, rfl, rfl, rfl⟩
  | _ => cases h

/-- The idempotency map after an action is that after the settlement command which
it runs. -/
theorem step_idempotency (hsound : plane.toTables.Sound) {action : Action} :
    (step platform plane action).idempotency =
      match action.call.settlement platform (plane.atTime action.now) with
      | none => plane.idempotency
      | some (command, state) => (command.run platform state).2.idempotency := by
  obtain ⟨time, call⟩ := action
  have hends := @step_ends platform plane hsound ⟨time, call⟩
  cases call with
  | settle command =>
    obtain ⟨outcome, hrun, _⟩ := bind_pure_cases (@rfl _ (respond platform plane ⟨time, .settle command⟩))
    exact congrArg (fun result => result.2.idempotency) hrun.symm
  | approveExceptionResolution caseId checkerId =>
    change (step platform plane ⟨time, .approveExceptionResolution caseId checkerId⟩).books.idempotency = _
    generalize (step platform plane ⟨time, .approveExceptionResolution caseId checkerId⟩).books = books at hends ⊢
    generalize (respond platform plane ⟨time, .approveExceptionResolution caseId checkerId⟩).1 = outcome at hends
    cases hends with
    | refused configuration => exact absurd rfl (configuration.2 _ _)
    | approved ends =>
      cases hsettlement : (Call.approveExceptionResolution caseId checkerId).settlement platform
        (plane.atTime time) with
      | none =>
        cases ends with
        | refused => rfl
        | cancelled => rfl
        | retry approvable retry start =>
          rw [settlement_approve_iff.mpr ⟨_, _, _, approvable, retry, rfl, start⟩] at hsettlement
          cases hsettlement
      | some settlement =>
        obtain ⟨command, state⟩ := settlement
        obtain ⟨exceptionCase, proposal, original, happrovable, hretry, rfl, rfl⟩ :=
          settlement_approve_iff.mp hsettlement
        cases ends with
        | refused refused => exact absurd happrovable (refused _ _ _)
        | cancelled approvable cancel =>
          obtain ⟨rfl, rfl, rfl⟩ := happrovable.unique approvable
          exact absurd cancel hretry
        | retry approvable _ start _ ran _ ends =>
          obtain ⟨rfl, rfl, rfl⟩ := happrovable.unique approvable
          subst start
          simp only [ran]
          cases ends <;> rfl
  | _ =>
    change (step platform plane _).books.idempotency = _
    generalize (step platform plane _).books = books at hends ⊢
    generalize (respond platform plane _).1 = outcome at hends
    cases hends <;> rfl

/-- What a settlement command does to the idempotency map: it records a new key
with its own fingerprint and receipt, or nothing. -/
theorem Command.Outcome.idempotency {command : Command} {outcome : Except Failure Receipt}
    (h : command.Outcome platform plane outcome final) :
    (final.idempotency = plane.idempotency ∧
        ((∃ failure, outcome = .error failure) ∨ plane.idempotency.get command.idempotencyKey ≠ none)) ∨
      ∃ fingerprint receipt, outcome = .ok receipt ∧ plane.idempotency.get command.idempotencyKey = none ∧
        sha256Canonical platform command.request = .ok fingerprint ∧
        final.idempotency = plane.idempotency.set command.idempotencyKey ⟨fingerprint, receipt⟩ := by
  cases h with
  | refused _ _ kept =>
    rw [show final.toTables = plane.toTables from congrArg Books.toTables kept]
    exact Or.inl ⟨rfl, Or.inl ⟨_, rfl⟩⟩
  | replayed _ found =>
    exact Or.inl ⟨rfl, Or.inr (by simp [found])⟩
  | conflict => exact Or.inl ⟨rfl, Or.inl ⟨_, rfl⟩⟩
  | broken settles _ moved =>
    rw [toTables_of_books moved, ← (settles.moved_records _).idempotency]
    exact Or.inl ⟨rfl, Or.inl ⟨_, rfl⟩⟩
  | executed settles _ hash _ stored =>
    refine Or.inr ⟨_, _, rfl, settles.fresh, hash, ?_⟩
    rw [toTables_of_books stored, setIdempotency_idempotency, openCase_idempotency, setTransaction_idempotency,
      ← (settles.moved_records _).idempotency]

/-- An action records nothing and executes nothing, or records the key, the
fingerprint and the receipt of the command that it executes. -/
theorem step_executed (hsound : plane.toTables.Sound) {action : Action} :
    ((step platform plane action).idempotency = plane.idempotency ∧ executed platform plane action = none) ∨
      ∃ execution fingerprint, executed platform plane action = some execution ∧
        plane.idempotency.get execution.command.idempotencyKey = none ∧
        sha256Canonical platform execution.command.request = .ok fingerprint ∧
        (step platform plane action).idempotency =
          plane.idempotency.set execution.command.idempotencyKey ⟨fingerprint, execution.receipt⟩ := by
  rw [step_idempotency hsound, executed]
  cases hsettlement : action.call.settlement platform (plane.atTime action.now) with
  | none => exact Or.inl ⟨rfl, rfl⟩
  | some settlement =>
    obtain ⟨command, state⟩ := settlement
    obtain ⟨hstate, hidempotency, _⟩ := @settlement_state platform (plane.atTime action.now) hsound _ _ _ hsettlement
    change state.idempotency = plane.idempotency at hidempotency
    cases hrun : command.run platform state with
    | mk outcome settled =>
      simp only [hrun]
      rcases (Command.run_outcome hstate hrun).idempotency with ⟨hkept, hfails | hknown⟩ |
        ⟨fingerprint, receipt, rfl, hfresh, hhash, hset⟩
      · obtain ⟨failure, rfl⟩ := hfails
        exact Or.inl ⟨hkept.trans hidempotency, rfl⟩
      · refine Or.inl ⟨hkept.trans hidempotency, ?_⟩
        rw [hidempotency] at hknown
        cases outcome with
        | error failure => rfl
        | ok receipt => exact if_neg hknown
      · right
        rw [hidempotency] at hfresh hset
        exact ⟨⟨command, receipt⟩, fingerprint, if_pos hfresh, hfresh, hhash, hset⟩

end Step

/-- The idempotency map holds exactly what was executed, and no key was executed
twice. -/
structure Traced.Recorded (platform : Platform) (traced : Traced) : Prop where
  sound : traced.plane.toTables.Sound
  executed : ∀ key record, traced.plane.idempotency.get key = some record ↔
    ∃ execution ∈ traced.executions, execution.command.idempotencyKey = key ∧
      sha256Canonical platform execution.command.request = .ok record.fingerprint ∧ record.result = execution.receipt
  once : (traced.executions.map (·.command.idempotencyKey)).Nodup

/-- Every run records exactly what it executed. -/
theorem trace_recorded (actions : List Action) : (trace platform actions).Recorded platform := by
  apply runs.run_invariant
  · exact ⟨start_sound, by simp [ControlPlane.start], List.nodup_nil⟩
  · rintro traced action ⟨hsound, hexecuted, honce⟩
    rcases @step_executed platform traced.plane hsound action with ⟨hkept, hnone⟩ |
      ⟨execution, fingerprint, hsome, hfresh, hhash, hset⟩
    · refine ⟨step_sound hsound, ?_, ?_⟩
      · simpa only [Traced.step, hkept, hnone, Option.toList_none, List.append_nil] using hexecuted
      · simpa only [Traced.step, hnone, Option.toList_none, List.append_nil] using honce
    · have hunused : ∀ earlier ∈ traced.executions,
          earlier.command.idempotencyKey ≠ execution.command.idempotencyKey := by
        intro earlier hearlier hkey
        obtain ⟨record, hrecord⟩ : ∃ record, sha256Canonical platform earlier.command.request = .ok record :=
          Command.request_hash
        have hget := (hexecuted _ ⟨record, earlier.receipt⟩).mpr ⟨earlier, hearlier, hkey, hrecord, rfl⟩
        rw [hfresh] at hget
        cases hget
      refine ⟨step_sound hsound, ?_, ?_⟩
      · intro key record
        simp only [Traced.step, hset, hsome, Option.toList_some, get_set, List.mem_append, List.mem_singleton]
        by_cases hkey : key = execution.command.idempotencyKey
        · rw [if_pos hkey]
          constructor
          · intro hrecord
            obtain rfl := Option.some.inj hrecord
            exact ⟨execution, Or.inr rfl, hkey.symm, hhash, rfl⟩
          · rintro ⟨other, hother | rfl, hotherKey, hotherHash, hresult⟩
            · exact absurd (hotherKey.trans hkey) (hunused other hother)
            · obtain ⟨fingerprint', result⟩ := record
              rw [hhash] at hotherHash
              obtain rfl := Except.ok.inj hotherHash
              exact congrArg _ (congrArg _ hresult.symm)
        · rw [if_neg hkey, hexecuted]
          constructor
          · rintro ⟨other, hother, hrest⟩
            exact ⟨other, Or.inl hother, hrest⟩
          · rintro ⟨other, hother | rfl, hotherKey, hrest⟩
            · exact ⟨other, hother, hotherKey, hrest⟩
            · exact absurd hotherKey.symm hkey
      · simp only [Traced.step, hsome, Option.toList_some, List.map_append, List.map_cons, List.map_nil]
        rw [List.nodup_append]
        refine ⟨honce, List.nodup_singleton _, ?_⟩
        intro key hkey other hother
        obtain ⟨earlier, hearlier, rfl⟩ := List.mem_map.mp hkey
        obtain rfl := List.mem_singleton.mp hother
        exact hunused earlier hearlier

end rwa.control_plane
