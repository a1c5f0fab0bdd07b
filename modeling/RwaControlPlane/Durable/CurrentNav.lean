import RwaControlPlane.ControlPlane.Soundness
import RwaControlPlane.Durable.Conservation
import RwaControlPlane.Library.Latest

open checked latest js_map
open rwa.gate (TransactionType)

namespace rwa.control_plane

variable {platform : Platform} {plane final : ControlPlane}

/-- The NAVs of a product that are in effect. -/
def ControlPlane.effectiveNavs (platform : Platform) (plane : ControlPlane) (productId : String) :
    List StoredEvidence :=
  plane.evidence.values.filter fun item => item.productId = productId && item.dataType = "nav" &&
    item.status = .active && dateUntil platform item.effectiveAt plane.clock

/-- When an envelope comes into effect. -/
def effectiveTime (platform : Platform) (item : StoredEvidence) : Int := (platform.dateTime item.effectiveAt).getD 0

/-- The envelope that prices a settlement is the latest one in effect. -/
theorem ControlPlane.PricedBy.latest {product : Product} {nav : StoredEvidence} {price : Int}
    (h : plane.PricedBy platform product nav price) :
    IsLatest (effectiveTime platform) (plane.effectiveNavs platform product.id) nav :=
  isLatest_head (fun _ _ => Iff.rfl) h.newest

/-- The terms of a call that settles are priced by the latest NAV in effect. -/
theorem Command.Settles.priced {command : Command} {passed : Passed} (h : command.Settles platform plane passed) :
    (∃ price, plane.PricedBy platform passed.product passed.nav price) ∧
      ∀ policy, (passed.data policy).policy = policy := by
  cases command with
  | subscribe command =>
    obtain ⟨plan, hchecked, rfl⟩ := settles_subscribe h
    obtain ⟨price, hpriced, -⟩ := hchecked.priced
    exact ⟨⟨price, hpriced⟩, fun _ => rfl⟩
  | transfer command =>
    obtain ⟨plan, hchecked, rfl⟩ := settles_transfer h
    exact ⟨hchecked.priced, fun _ => rfl⟩
  | redeem command =>
    obtain ⟨plan, hchecked, rfl⟩ := settles_redeem h
    obtain ⟨price, hpriced, -⟩ := hchecked.priced
    exact ⟨⟨price, hpriced⟩, fun _ => rfl⟩
  | simulateRegisterFailure command =>
    obtain ⟨plan, hchecked, rfl⟩ := settles_failure h
    exact ⟨hchecked.priced, fun _ => rfl⟩

/-- A call that succeeds is a replay, or the latest NAV in effect, which has not
expired, is that of the transaction it stores. -/
theorem Command.Outcome.latestNav {command : Command} {receipt : Receipt} (hsound : plane.toTables.Sound)
    (h : command.Outcome platform plane (.ok receipt) final) :
    (∃ previous, plane.idempotency.get command.idempotencyKey = some previous) ∨
      ∃ nav transaction, IsLatest (effectiveTime platform) (plane.effectiveNavs platform command.productId) nav ∧
        dateAfter platform nav.expiresAt plane.clock = true ∧
        final.transactions.get command.id = some transaction ∧ transaction.policy.navEvidenceId = nav.id := by
  cases h with
  | replayed _ found => exact Or.inl ⟨_, found⟩
  | @executed passed policy settledAt lifecycle commitment fingerprint receipt _ settles _ _ nav stored =>
    obtain ⟨⟨price, hpriced⟩, hpolicy⟩ := settles.priced
    have hproduct : passed.product.id = command.productId := hsound.products _ _ settles.product
    refine Or.inr ⟨passed.nav, (passed.data policy).transaction passed.state settledAt lifecycle commitment,
      hproduct ▸ hpriced.latest, hpriced.unexpired, ?_, ?_⟩
    · rw [toTables_of_books stored]
      change (Tables.openCase _ _).transactions.get command.id = _
      rw [openCase_transactions, setTransaction_transactions]
      have hid : ((passed.data policy).transaction passed.state settledAt lifecycle commitment).id = command.id :=
        settles.fresh_id.2 policy
      rw [hid, get_set_self]
    · change (passed.data policy).policy.navEvidenceId = _
      rw [hpolicy, nav]

end rwa.control_plane

namespace rwa.durable

variable {service : DurableWorkflowService} {db next : Database} {productId : String} {now : Int}

/-- The active NAVs of a product that are in effect. -/
def Database.effectiveNavs (db : Database) (productId : String) (now : Int) : List Evidence :=
  db.evidence.filter fun row => row.productId = productId && row.dataType = "nav" && row.status = .active &&
    row.effectiveAt ≤ now

/-- Some NAV that no other in effect is later than has not expired. -/
def Database.LatestUnexpired (db : Database) (productId : String) (now : Int) : Prop :=
  ∃ top, IsLatest Evidence.effectiveAt (db.effectiveNavs productId now) top ∧ now < top.expiresAt

private theorem currentNav_eq : db.currentNav productId now =
    (((db.effectiveNavs productId now).filter fun row => now < row.expiresAt).insertionSort newerEvidence).head? := by
  rw [Database.currentNav, Database.effectiveNavs, List.filter_filter]
  congr 2
  refine List.filter_congr fun row _ => ?_
  rw [Bool.and_comm]

/-- The NAV that the query answers is the latest in effect exactly when a latest one
has not expired. -/
theorem currentNav_latest_iff {nav : Evidence} (h : db.currentNav productId now = some nav) :
    IsLatest Evidence.effectiveAt (db.effectiveNavs productId now) nav ↔ db.LatestUnexpired productId now := by
  rw [currentNav_eq] at h
  have hlatest : IsLatest Evidence.effectiveAt
      ((db.effectiveNavs productId now).filter fun row => now < row.expiresAt) nav :=
        isLatest_head (fun _ _ => Iff.rfl) h
  rw [isLatest_iff_of_filter hlatest, Database.LatestUnexpired]
  simp only [decide_eq_true_eq]

/-- The query finds a NAV exactly when one in effect has not expired. -/
theorem currentNav_eq_none_iff :
    db.currentNav productId now = none ↔ ∀ row ∈ db.effectiveNavs productId now, row.expiresAt ≤ now := by
  rw [currentNav_eq, head_insertionSort_eq_none_iff, List.filter_eq_nil_iff]
  simp only [decide_eq_true_eq, not_lt]

/-- When a superseded NAV prices no settlement. In memory it never does: a call that
succeeds is a replay, or the NAV of its transaction is the latest in effect and has not
expired. In the database, the NAV of a settlement is the latest in effect exactly when a
latest NAV in effect has not expired, and the query never answers an older one exactly
when that holds or all NAVs in effect have expired. -/
theorem latest_nav_iff {platform : control_plane.Platform} {calls : List control_plane.Action} :
    (∀ time (command : control_plane.Command) receipt final,
      let plane := (control_plane.run platform calls).atTime time
      command.run platform plane = (.ok receipt, final) →
        (∃ previous, plane.idempotency.get command.idempotencyKey = some previous) ∨
          ∃ nav transaction,
            IsLatest (control_plane.effectiveTime platform) (plane.effectiveNavs platform command.productId) nav ∧
            control_plane.dateAfter platform nav.expiresAt plane.clock = true ∧
            final.transactions.get command.id = some transaction ∧ transaction.policy.navEvidenceId = nav.id) ∧
    (∀ db type request registerFailure now receipt next, db.replay service request = none →
      settleInTransaction service type request registerFailure now db = .ok (receipt, next) →
        ∃ product nav plan, Checked service db type request now product nav plan ∧ receipt.navEvidenceId = nav.id ∧
          (IsLatest Evidence.effectiveAt (db.effectiveNavs product.id now) nav ↔ db.LatestUnexpired product.id now)) ∧
    ∀ (db : Database) productId now,
      (∀ nav, db.currentNav productId now = some nav →
          IsLatest Evidence.effectiveAt (db.effectiveNavs productId now) nav) ↔
        (∀ row ∈ db.effectiveNavs productId now, row.expiresAt ≤ now) ∨ db.LatestUnexpired productId now := by
  refine ⟨?_, ?_, ?_⟩
  · intro time command receipt final plane hrun
    have hsound : plane.toTables.Sound := control_plane.run_sound calls
    exact (control_plane.Command.run_outcome hsound hrun).latestNav hsound
  · intro db type request registerFailure now receipt next hunused hrun
    cases settleInTransaction_ok hrun with
    | replayed used =>
      rw [hunused] at used
      cases used
    | failed _ _ checked => exact ⟨_, _, _, checked, rfl, currentNav_latest_iff checked.current⟩
    | posted _ _ checked => exact ⟨_, _, _, checked, rfl, currentNav_latest_iff checked.current⟩
  · intro db productId now
    cases hcurrent : db.currentNav productId now with
    | none => exact iff_of_true nofun (Or.inl (currentNav_eq_none_iff.mp hcurrent))
    | some nav =>
      have hsome : ¬∀ row ∈ db.effectiveNavs productId now, row.expiresAt ≤ now := by
        rw [← currentNav_eq_none_iff, hcurrent]
        exact nofun
      rw [or_iff_right hsome, ← currentNav_latest_iff hcurrent]
      exact ⟨fun h => h nav rfl, fun h _ heq => Option.some.inj heq ▸ h⟩

section Sample

open rwa.control_plane (samplePlatform sampleSetup)

/-- A plane whose second NAV supersedes the first and expires before it. -/
def supersededActions : List Action :=
  [⟨1, .bootstrapFromControlPlane samplePlatform (sampleSetup ++
    [⟨2, .submitEvidence ⟨"nav-2", "fund", "nav", "operator", "T1", "2", "5", "1", ⟨some "20", some "HKD", []⟩,
      "signature", none, []⟩⟩])⟩]

/-- The service settles at the superseded NAV once the one that superseded it has
expired. -/
theorem superseded_nav_settles :
    let db := run sampleService supersededActions
    (∃ receipt, (respond sampleService db
      ⟨6, .settle .subscribe (sampleSubscription "subscribe-1" "key-1" "5" "50")⟩).1 =
        .ok (.receipt receipt) ∧ receipt.navEvidenceId = "nav-1") ∧
      (db.effectiveNavs "fund" 6).map (fun row => (row.id, row.effectiveAt, row.expiresAt)) =
        [("nav-1", 0, 1000), ("nav-2", 2, 5)] :=
  ⟨⟨⟨"subscribe-1", "fund", .subscribe, .settled, some "6", "nav-1", 1, .standard,
    [.requested, .policyChecked, .cashReserved, .registerPending, .settled], "SANDBOX_NO_ZK_PROOF", none, none⟩,
    by decide +kernel, rfl⟩, by decide +kernel⟩

end Sample

end rwa.durable
