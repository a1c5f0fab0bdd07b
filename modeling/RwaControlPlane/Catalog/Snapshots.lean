import RwaControlPlane.Catalog.ActivationSafety

open checked keyed_rows js_value
open rwa.gate (ProductStatus)

namespace rwa.catalog

variable {service : ProductCatalogService} {db next : Database} {productId : String}

/-- Every version of a configuration up to the current one has exactly one
snapshot, and the current configuration is the snapshot of its version. -/
def Database.SnapshotsComplete (db : Database) : Prop :=
  ∀ configuration ∈ db.configurations,
    (∀ version, 1 ≤ version → version ≤ configuration.configurationVersion →
      (db.snapshots.filter fun row =>
        row.productId = configuration.productId && row.configurationVersion = version).length = 1) ∧
    ∃ row ∈ db.snapshots, row.productId = configuration.productId ∧
      row.configurationVersion = configuration.configurationVersion ∧
      db.snapshotOf configuration.tenantId configuration.productId = some row.snapshot

/-- A call changes a product without a new version and a snapshot: it pauses or
resumes one, or revokes a key whose evidence satisfies a requirement. -/
def ChangesUnrecorded (service : ProductCatalogService) (db : Database) (action : Action) : Prop :=
  Accepted service db action ∧
    match action.call with
    | .setProductStatus _ _ _ => True
    | .revokeInstitutionSigningKey _ (some institutionId) (some keyId) _ =>
      ∃ row ∈ db.requirements, db.signedWith institutionId keyId row = true
    | _ => False

namespace ProductView

variable {view : ProductView} {configuration : ProductConfiguration}

/-- Snapshots are of distinct versions up to the current one, and a suspended
configuration has none of its version. -/
structure Bounded (view : ProductView) : Prop where
  versions : (view.snapshots.map (·.configurationVersion)).Nodup
  bounded : ∀ configuration, view.configuration = some configuration → ∀ row ∈ view.snapshots,
    row.configurationVersion ≤ configuration.configurationVersion ∧
    (configuration.configurationStatus = .suspended → row.configurationVersion < configuration.configurationVersion)

/-- All versions of a configuration have a snapshot, and the current
configuration is the snapshot of its version. -/
def Complete (view : ProductView) : Prop :=
  ∀ configuration, view.configuration = some configuration →
    (∀ version, 1 ≤ version → version ≤ configuration.configurationVersion →
      ∃ row ∈ view.snapshots, row.configurationVersion = version) ∧
    ∃ row ∈ view.snapshots, row.configurationVersion = configuration.configurationVersion ∧
      view.snapshotValue configuration.tenantId = some row.snapshot

theorem snapshotValue_eq {product : Product} (hproduct : view.product = some product)
    (hconfiguration : view.configuration = some configuration) :
    view.snapshotValue configuration.tenantId = some
      { product, templateId := configuration.templateId, configurationStatus := configuration.configurationStatus
        configurationVersion := configuration.configurationVersion
        roles := (view.roles.map fun row => (row.role, row.institutionId)).insertionSort
          fun first second => keyLe first.1 second.1
        requirements := (view.requirements.map fun row =>
            ⟨row.requirementCode, row.responsibleRole, row.mandatory, row.status, row.evidenceId⟩).insertionSort
          fun first second => keyLe first.code second.code } := by
  simp [snapshotValue, hproduct, hconfiguration]

/-- A snapshot that is taken of a version without one completes the versions. -/
theorem recorded_complete {product : Product} {tenantId actorRef eventType : String}
    (hproduct : view.product = some product) (hconfiguration : view.configuration = some configuration)
    (htenant : configuration.tenantId = tenantId)
    (hbefore : ∀ row ∈ view.snapshots, row.configurationVersion < configuration.configurationVersion)
    (hcomplete : ∀ version, 1 ≤ version → version < configuration.configurationVersion →
      ∃ row ∈ view.snapshots, row.configurationVersion = version) :
    (view.recorded tenantId productId actorRef eventType).Complete := by
  subst htenant
  have hvalue := snapshotValue_eq hproduct hconfiguration
  have hfresh : configuration.configurationVersion ∉ view.snapshots.map (·.configurationVersion) := by
    intro hmem
    obtain ⟨row, hrow, hversion⟩ := List.mem_map.mp hmem
    have hlt := hbefore row hrow
    omega
  intro other hother
  rw [recorded_configuration, hconfiguration] at hother
  obtain rfl := Option.some.inj hother
  have hsame :
    (view.recorded configuration.tenantId productId actorRef eventType).snapshotValue configuration.tenantId =
      view.snapshotValue configuration.tenantId := by
    obtain ⟨snapshots, h⟩ := recorded_eq view configuration.tenantId productId actorRef eventType
    rw [h]
    rfl
  rw [hsame]
  simp only [recorded, hvalue, if_neg hfresh]
  refine ⟨fun version hfirst hlast => ?_, _, List.mem_append_right _ List.mem_cons_self, rfl, rfl⟩
  rcases Nat.lt_or_eq_of_le hlast with hlt | rfl
  · obtain ⟨row, hrow, hversion⟩ := hcomplete version hfirst hlt
    exact ⟨row, List.mem_append_left _ hrow, hversion⟩
  · exact ⟨_, List.mem_append_right _ List.mem_cons_self, rfl⟩

theorem recorded_bounded {tenantId actorRef eventType : String} (h : view.Bounded)
    (hstatus : ∀ configuration, view.configuration = some configuration →
      configuration.configurationStatus ≠ .suspended) :
    (view.recorded tenantId productId actorRef eventType).Bounded := by
  unfold recorded
  split
  · exact h
  · rename_i snapshot hsnapshot
    split
    · exact h
    · rename_i hfresh
      refine ⟨nodup_concat h.versions hfresh, fun configuration hconfiguration row hrow => ?_⟩
      have hunsuspended := hstatus configuration hconfiguration
      rcases List.mem_append.mp hrow with hold | hnew
      · exact h.bounded configuration hconfiguration row hold
      · obtain rfl := List.mem_singleton.mp hnew
        have hversion : snapshot.configurationVersion = configuration.configurationVersion := by
          simp only [snapshotValue, Option.bind_eq_bind, Option.bind_eq_some_iff] at hsnapshot
          obtain ⟨product, -, configuration', hconfiguration', hsnapshot⟩ := hsnapshot
          obtain rfl := Option.some.inj (hconfiguration.symm.trans hconfiguration')
          split at hsnapshot
          · obtain rfl := Option.some.inj hsnapshot
            rfl
          · cases hsnapshot
        exact ⟨hversion.le, fun hsuspended => absurd hsuspended hunsuspended⟩

/-- With the next version all snapshots are of earlier ones. -/
theorem Bounded.earlier (h : view.Bounded) (hconfiguration : view.configuration = some configuration)
    (status : ConfigurationStatus) :
    ∀ row ∈ view.snapshots, row.configurationVersion < (configuration.next status).configurationVersion :=
  fun row hrow => Nat.lt_succ_of_le (h.bounded configuration hconfiguration row hrow).1

section Advance

variable {changed : ProductView} {status : ConfigurationStatus} {tenantId actorRef eventType : String}

theorem Bounded.advance (h : view.Bounded) (hconfiguration : view.configuration = some configuration)
    (hsnapshots : changed.snapshots = view.snapshots) (hnext : changed.configuration = some (configuration.next status))
    (hstatus : status ≠ .suspended) : (changed.recorded tenantId productId actorRef eventType).Bounded := by
  refine recorded_bounded ⟨hsnapshots ▸ h.versions, fun other hother row hrow => ?_⟩ fun other hother => ?_
  · obtain rfl := Option.some.inj (hnext.symm.trans hother)
    have hlt := h.earlier hconfiguration status row (hsnapshots ▸ hrow)
    exact ⟨hlt.le, fun _ => hlt⟩
  · obtain rfl := Option.some.inj (hnext.symm.trans hother)
    exact hstatus

theorem Complete.advance (h : view.Complete) (hbounded : view.Bounded)
    (hconfiguration : view.configuration = some configuration) {product : Product}
    (hproduct : changed.product = some product) (hsnapshots : changed.snapshots = view.snapshots)
    (hnext : changed.configuration = some (configuration.next status)) (htenant : configuration.tenantId = tenantId) :
    (changed.recorded tenantId productId actorRef eventType).Complete := by
  refine recorded_complete hproduct hnext htenant ?_ fun version hfirst hlast => ?_
  · rw [hsnapshots]
    exact hbounded.earlier hconfiguration status
  · rw [hsnapshots]
    exact (h configuration hconfiguration).1 version hfirst (Nat.le_of_lt_succ hlast)

end Advance

/-- A revocation leaves the snapshots bounded: a suspension counts the version
up. -/
theorem Bounded.invalidated (h : view.Bounded) {signed : EvidenceRequirement → Bool} :
    (view.invalidated signed).Bounded := by
  refine ⟨h.versions, fun changed hchanged row hrow => ?_⟩
  obtain ⟨configuration, hconfiguration, rfl⟩ := Option.map_eq_some_iff.mp hchanged
  have hle := h.bounded configuration hconfiguration row hrow
  split
  · exact ⟨Nat.le_succ_of_le hle.1, fun _ => Nat.lt_succ_of_le hle.1⟩
  · exact hle

end ProductView

theorem lawful_draft {status : ConfigurationStatus} (h : Lawful .draft status) : status ≠ .suspended := by
  rintro rfl
  rcases h with ⟨-, h | h | h⟩ | ⟨h | h, -⟩ <;> cases h

/-- Every call keeps snapshots bounded. -/
theorem CallEnds.bounded {now clock : Int} {call : Call} (h : CallEnds db now clock call next)
    (hconsistent : db.Consistent)
    (hbounded : ∀ productId, (db.view productId).Bounded) : ∀ productId, (next.view productId).Bounded := by
  intro productId
  obtain hsame | htouches := h.touches hconsistent productId
  · rw [hsame]
    exact hbounded productId
  cases htouches with
  | revoked _ hview =>
    rw [hview]
    exact (hbounded productId).invalidated
  | @created tenantId actorRef input product hown _ creates =>
    rw [hown, creates.own (creates.absent hconsistent)]
    refine ProductView.recorded_bounded ⟨List.nodup_nil, fun _ _ _ hrow => absurd hrow List.not_mem_nil⟩ ?_
    rintro _ ⟨⟩
    exact fun h => nomatch h
  | assigned assigns =>
    obtain ⟨status, hstatus, hview⟩ := assigns.own
    rw [hview]
    refine (hbounded productId).advance assigns.joined.foundConfiguration rfl
      (congrArg (Option.map fun row => ProductConfiguration.next row status) assigns.joined.foundConfiguration) ?_
    rcases roleStatus_cases with hrole | hrole <;> rw [hstatus, hrole] <;> decide
  | attached attaches =>
    have hlawful := (hconsistent.configured attaches.joined).lawful
    rw [attaches.draft] at hlawful
    rw [attaches.own]
    exact (hbounded productId).advance attaches.joined.foundConfiguration rfl
      (congrArg (Option.map fun row => ProductConfiguration.next row row.configurationStatus)
        attaches.joined.foundConfiguration) (lawful_draft hlawful)
  | proposed proposes =>
    rw [proposes.own]
    exact (hbounded productId).advance proposes.joined.foundConfiguration rfl
      (congrArg (Option.map fun row => ProductConfiguration.next row .activationPending)
        proposes.joined.foundConfiguration) (by decide)
  | @decided _ _ _ review _ _ _ _ decides =>
    obtain ⟨_, hview⟩ := decides.own
    rw [hview]
    cases hdecision : review.decision with
    | approve =>
      exact (hbounded productId).advance decides.joined.foundConfiguration rfl
        (congrArg (Option.map fun row => ProductConfiguration.next row .active) decides.joined.foundConfiguration)
        (by decide)
    | reject =>
      exact (hbounded productId).advance decides.joined.foundConfiguration rfl
        (congrArg (Option.map fun row => ProductConfiguration.next row .readyForEvidence)
          decides.joined.foundConfiguration) (by decide)
  | statusSet sets =>
    rw [sets.own]
    exact ⟨(hbounded productId).versions, (hbounded productId).bounded⟩

/-- Completeness by product, in a catalog that fits together. -/
theorem snapshotsComplete_iff (hconsistent : db.Consistent) (hbounded : ∀ productId, (db.view productId).Bounded) :
    db.SnapshotsComplete ↔ ∀ productId, (db.view productId).Complete := by
  have hone : ∀ productId version, (db.snapshots.filter fun row =>
      row.productId = productId && row.configurationVersion = version).length = 1 ↔
      ∃ row ∈ (db.view productId).snapshots, row.configurationVersion = version := by
    intro productId version
    have hsplit : (db.snapshots.filter fun row => row.productId = productId && row.configurationVersion = version) =
        (db.view productId).snapshots.filter fun row => row.configurationVersion = version := by
      rw [Database.view, List.filter_filter]
      exact List.filter_congr fun row _ => Bool.and_comm _ _
    rw [hsplit]
    constructor
    · intro hlength
      obtain ⟨row, hrow⟩ := List.length_eq_one_iff.mp hlength
      have hmem : row ∈ (db.view productId).snapshots.filter fun row => row.configurationVersion = version :=
        hrow ▸ List.mem_cons_self
      exact ⟨row, (List.mem_filter.mp hmem).1, of_decide_eq_true (List.mem_filter.mp hmem).2⟩
    · rintro ⟨row, hrow, rfl⟩
      rw [filter_key_of_mem (hbounded productId).versions hrow]
      rfl
  constructor
  · intro hcomplete productId configuration hconfiguration
    have howner : configuration.productId = productId := by simpa using List.find?_some hconfiguration
    obtain ⟨hversions, row, hrow, hproduct, hversion, hvalue⟩ :=
      hcomplete configuration (List.mem_of_find?_eq_some hconfiguration)
    rw [howner] at hversions hproduct hvalue
    refine ⟨fun version hfirst hlast => (hone productId version).mp (hversions version hfirst hlast), row, ?_, hversion,
      hvalue⟩
    exact List.mem_filter.mpr ⟨hrow, decide_eq_true hproduct⟩
  · intro hcomplete configuration hmem
    obtain ⟨hversions, row, hrow, hversion, hvalue⟩ :=
      hcomplete configuration.productId configuration (hconsistent.findConfiguration hmem)
    refine ⟨fun version hfirst hlast => (hone _ version).mpr (hversions version hfirst hlast), row,
      (List.mem_filter.mp hrow).1, of_decide_eq_true (List.mem_filter.mp hrow).2, hversion, hvalue⟩

/-- The requirements of a product that a key has satisfied. -/
theorem signed_of_mem (hconsistent : db.Consistent) {institutionId keyId : String} {row : EvidenceRequirement}
    (hrow : row ∈ db.requirements) (hsigned : db.signedWith institutionId keyId row = true) :
    ∃ product configuration template, Configured db row.productId product configuration template ∧
      row ∈ db.requirementsOf row.productId ∧ row.status = .satisfied ∧ ∃ id, row.evidenceId = some id := by
  have hmem : row ∈ db.requirementsOf row.productId := List.mem_filter.mpr ⟨hrow, decide_eq_true rfl⟩
  rcases hconsistent.products row.productId with habsent | ⟨product, configuration, template, hconfigured⟩
  · have hnone : db.requirementsOf row.productId = [] := congrArg ProductView.requirements habsent
    rw [hnone] at hmem
    cases hmem
  · refine ⟨product, configuration, template, hconfigured, hmem, ?_⟩
    rcases hconfigured.evidenced row hmem with ⟨evidence, key, hsatisfied⟩ | ⟨-, hnone⟩
    · exact ⟨hsatisfied.satisfied, evidence.id, hsatisfied.evidenceId⟩
    · simp [Database.signedWith, hnone] at hsigned

/-- The current snapshot of a product with complete snapshots is unique. -/
theorem ProductView.Bounded.current {view : ProductView} (h : view.Bounded) {first second : ConfigurationSnapshot}
    (hfirst : first ∈ view.snapshots) (hsecond : second ∈ view.snapshots)
    (hversion : first.configurationVersion = second.configurationVersion) : first = second :=
  List.inj_on_of_nodup_map h.versions hfirst hsecond hversion

/-- Pausing or resuming a product leaves its configuration without a snapshot. -/
theorem SetsStatus.incomplete {actorRef : String} {status : ProductStatus} {product : Product}
    (h : SetsStatus db next productId status actorRef product) (hconsistent : db.Consistent)
    (hbounded : (db.view productId).Bounded) (hcomplete : (db.view productId).Complete) :
    ¬(next.view productId).Complete := by
  intro hafter
  obtain ⟨configuration, template, hconfigured⟩ := hconsistent.of_product h.foundProduct
  have hfound := hconfigured.joined.foundConfiguration
  rw [h.own] at hafter
  obtain ⟨-, before, hbefore, hversion, hvalue⟩ := hcomplete configuration hfound
  obtain ⟨-, after, hmem, hversion', hvalue'⟩ := hafter configuration hfound
  obtain rfl := hbounded.current hbefore hmem (hversion.trans hversion'.symm)
  have hwas := @ProductView.snapshotValue_eq (db.view productId) _ _ h.foundProduct hfound
  have hset : ((db.view productId).withStatus status).product = some { product with status } :=
    congrArg (Option.map fun row : Product => ({ row with status } : Product)) h.foundProduct
  have hnow := @ProductView.snapshotValue_eq ((db.view productId).withStatus status) _ _ hset hfound
  have hsame := Option.some.inj (hwas.symm.trans (hvalue.trans (hvalue'.symm.trans hnow)))
  have hstatus : product.status = status := congrArg (fun snapshot : Snapshot => snapshot.product.status) hsame
  rcases h.turns with ⟨hold, hnew⟩ | ⟨hold, hnew⟩ <;> rw [hold, hnew] at hstatus <;> cases hstatus

/-- The revocation of a key that has satisfied a requirement leaves the
configuration without a snapshot. -/
theorem KeyRevoked.incomplete {institutionId keyId : String} {now : Int}
    (h : KeyRevoked db next institutionId keyId now) (hconsistent : db.Consistent)
    (hbounded : ∀ productId, (db.view productId).Bounded) (hcomplete : ∀ productId, (db.view productId).Complete)
    {row : EvidenceRequirement} (hrow : row ∈ db.requirements)
    (hsigned : db.signedWith institutionId keyId row = true) :
    ∃ productId, ¬(next.view productId).Complete := by
  obtain ⟨product, configuration, template, hconfigured, hmem, hsatisfied, id, hid⟩ :=
    signed_of_mem hconsistent hrow hsigned
  refine ⟨row.productId, fun hafter => ?_⟩
  have hfound := hconfigured.joined.foundConfiguration
  rw [h.view hconsistent] at hafter
  have hchanged : ((db.view row.productId).invalidated (db.signedWith institutionId keyId)).configuration = some
      (if configuration.configurationStatus = .active ∧
        ((db.view row.productId).missed (db.signedWith institutionId keyId)).missesMandatory = true
        then configuration.next .suspended else configuration) :=
    congrArg (Option.map _) hfound
  obtain ⟨-, before, hbefore, hversion, hvalue⟩ := hcomplete row.productId configuration hfound
  obtain ⟨-, after, hlast, hversion', hvalue'⟩ := hafter _ hchanged
  by_cases hsuspended : configuration.configurationStatus = .active ∧
      ((db.view row.productId).missed (db.signedWith institutionId keyId)).missesMandatory = true
  · rw [if_pos hsuspended] at hversion'
    have hlt := (hbounded row.productId).earlier hfound .suspended after hlast
    omega
  · rw [if_neg hsuspended] at hversion' hvalue' hchanged
    obtain rfl := (hbounded row.productId).current hbefore hlast (hversion.trans hversion'.symm)
    obtain ⟨paused, hpaused⟩ : ∃ paused,
        ((db.view row.productId).invalidated (db.signedWith institutionId keyId)).product = some paused :=
      ⟨_, congrArg (Option.map _) hconfigured.joined.foundProduct⟩
    have hwas := @ProductView.snapshotValue_eq (db.view row.productId) _ _ hconfigured.joined.foundProduct hfound
    have hnow := ProductView.snapshotValue_eq hpaused hchanged
    have hsame := Option.some.inj (hwas.symm.trans (hvalue.trans (hvalue'.symm.trans hnow)))
    have hrequirements := congrArg Snapshot.requirements hsame
    -- the requirement that the key has satisfied stands in the snapshot and no longer in the table
    have hold : (⟨row.requirementCode, row.responsibleRole, row.mandatory, row.status, row.evidenceId⟩ :
        SnapshotRequirement) ∈ ((db.view row.productId).requirements.map fun row =>
          (⟨row.requirementCode, row.responsibleRole, row.mandatory, row.status, row.evidenceId⟩ :
            SnapshotRequirement)).insertionSort fun first second => keyLe first.code second.code :=
      (List.mem_insertionSort _).mpr (List.mem_map.mpr ⟨row, hmem, rfl⟩)
    rw [show ((db.view row.productId).requirements.map fun row =>
        (⟨row.requirementCode, row.responsibleRole, row.mandatory, row.status, row.evidenceId⟩ :
          SnapshotRequirement)).insertionSort (fun first second => keyLe first.code second.code) = _ from hrequirements,
      List.mem_insertionSort] at hold
    obtain ⟨other, hother, heq⟩ := List.mem_map.mp hold
    obtain ⟨given, hgiven, rfl⟩ := List.mem_map.mp hother
    simp only [SnapshotRequirement.mk.injEq] at heq
    cases hgivenSigned : db.signedWith institutionId keyId given with
    | true =>
      simp only [hgivenSigned, if_true] at heq
      rw [hsatisfied] at heq
      exact absurd heq.2.2.2.1 (by decide)
    | false =>
      simp only [hgivenSigned, Bool.false_eq_true, if_false] at heq
      have hcode := List.inj_on_of_nodup_map hconfigured.codes hgiven hmem heq.1
      rw [hcode, hsigned] at hgivenSigned
      cases hgivenSigned

/-- A configuration with a snapshot of its version is not suspended. -/
theorem ProductView.Complete.unsuspended {view : ProductView} {configuration : ProductConfiguration}
    (h : view.Complete) (hbounded : view.Bounded) (hconfiguration : view.configuration = some configuration) :
    configuration.configurationStatus ≠ .suspended := by
  intro hsuspended
  obtain ⟨-, row, hrow, hversion, -⟩ := h configuration hconfiguration
  have hlt := (hbounded.bounded configuration hconfiguration row hrow).2 hsuspended
  omega

/-- The revocation of a key that has satisfied no requirement changes no product
with complete snapshots. -/
theorem KeyRevoked.view_of_unsigned {institutionId keyId : String} {now : Int}
    (h : KeyRevoked db next institutionId keyId now) (hconsistent : db.Consistent)
    (hbounded : (db.view productId).Bounded) (hcomplete : (db.view productId).Complete)
    (hunsigned : ∀ row ∈ db.requirements, db.signedWith institutionId keyId row = false) :
    next.view productId = db.view productId := by
  rw [h.view hconsistent]
  have hmissed : (db.view productId).missed (db.signedWith institutionId keyId) = db.view productId := by
    refine congrArg (fun requirements => { db.view productId with requirements }) ?_
    refine (List.map_congr_left fun row hrow => ?_).trans (List.map_id' _)
    rw [if_neg]
    rw [hunsigned row (List.mem_filter.mp hrow).1]
    exact Bool.false_ne_true
  unfold ProductView.invalidated
  rw [hmissed]
  have hsuspended : (db.view productId).suspended = db.view productId := by
    refine congrArg (fun configuration => { db.view productId with configuration }) ?_
    refine (Option.map_congr fun configuration hconfiguration => ?_).trans Option.map_id'
    refine if_neg fun hmisses => ?_
    rcases hconsistent.products productId with habsent | ⟨product, found, template, hconfigured⟩
    · rw [habsent] at hconfiguration
      cases hconfiguration
    · obtain rfl := Option.some.inj (hconfiguration.symm.trans hconfigured.joined.foundConfiguration)
      obtain ⟨row, hrow, hstatus⟩ := List.any_eq_true.mp hmisses.2
      have hsatisfied := hconfigured.complete hmisses.1 row hrow
      simp [hsatisfied] at hstatus
  rw [hsuspended]
  refine congrArg (fun product => { db.view productId with product }) ?_
  refine (Option.map_congr fun product _ => ?_).trans Option.map_id'
  refine if_neg fun hpauses => ?_
  obtain ⟨configuration, hconfiguration, hstatus⟩ := Option.map_eq_some_iff.mp hpauses.2
  exact hcomplete.unsuspended hbounded hconfiguration hstatus

/-- A call keeps snapshots complete, unless it changes a product without one. -/
theorem CallEnds.complete {now clock : Int} {call : Call} (h : CallEnds db now clock call next)
    (hconsistent : db.Consistent)
    (hbounded : ∀ productId, (db.view productId).Bounded) (hcomplete : ∀ productId, (db.view productId).Complete)
    (haccepted : Accepted service db ⟨now, clock, call⟩)
    (hrecorded : ¬ChangesUnrecorded service db ⟨now, clock, call⟩) :
    ∀ productId, (next.view productId).Complete := by
  intro productId
  obtain hsame | htouches := h.touches hconsistent productId
  · rw [hsame]
    exact hcomplete productId
  cases htouches with
  | @revoked _ institutionId keyId _ revoked =>
    rw [revoked.view_of_unsigned hconsistent (hbounded productId) (hcomplete productId) fun row hrow => ?_]
    · exact hcomplete productId
    · rw [Bool.eq_false_iff]
      exact fun hsigned => hrecorded ⟨haccepted, row, hrow, hsigned⟩
  | @created tenantId actorRef input product hown _ creates =>
    rw [hown, creates.own (creates.absent hconsistent)]
    refine ProductView.recorded_complete rfl rfl rfl (fun _ hrow => absurd hrow List.not_mem_nil)
      fun version hfirst hlast => ?_
    have hlt : version < 1 := hlast
    omega
  | assigned assigns =>
    obtain ⟨status, -, hview⟩ := assigns.own
    rw [hview]
    exact (hcomplete productId).advance (hbounded productId) assigns.joined.foundConfiguration
      assigns.joined.foundProduct rfl
      (congrArg (Option.map fun row => ProductConfiguration.next row status) assigns.joined.foundConfiguration)
      assigns.joined.tenant
  | attached attaches =>
    rw [attaches.own]
    exact (hcomplete productId).advance (hbounded productId) attaches.joined.foundConfiguration
      attaches.joined.foundProduct rfl
      (congrArg (Option.map fun row => ProductConfiguration.next row row.configurationStatus)
        attaches.joined.foundConfiguration) attaches.joined.tenant
  | proposed proposes =>
    rw [proposes.own]
    exact (hcomplete productId).advance (hbounded productId) proposes.joined.foundConfiguration
      proposes.joined.foundProduct rfl
      (congrArg (Option.map fun row => ProductConfiguration.next row .activationPending)
        proposes.joined.foundConfiguration) proposes.joined.tenant
  | @decided _ _ _ review _ product _ _ decides =>
    obtain ⟨_, hview⟩ := decides.own
    rw [hview]
    cases hdecision : review.decision with
    | approve =>
      have hactivated : ((db.view productId).activated).product = some { product with status := .active } :=
        (congrArg (Option.map fun row : Product =>
            if row.status = .draft then ({ row with status := .active } : Product) else row)
          decides.joined.foundProduct).trans (congrArg some (if_pos decides.draft))
      exact (hcomplete productId).advance (hbounded productId) decides.joined.foundConfiguration hactivated rfl
        (congrArg (Option.map fun row => ProductConfiguration.next row .active) decides.joined.foundConfiguration)
        decides.joined.tenant
    | reject =>
      exact (hcomplete productId).advance (hbounded productId) decides.joined.foundConfiguration
        decides.joined.foundProduct rfl
        (congrArg (Option.map fun row => ProductConfiguration.next row .readyForEvidence)
          decides.joined.foundConfiguration) decides.joined.tenant
  | statusSet sets => exact absurd ⟨haccepted, trivial⟩ hrecorded

/-- Snapshots stay bounded over every run. -/
theorem run_bounded (actions : List Action) : ∀ productId, ((run service actions).view productId).Bounded := by
  have h : (run service actions).Consistent ∧ ∀ productId, ((run service actions).view productId).Bounded := by
    refine @runs.run_invariant _ _ (step service) Database.migrated
      (fun db => db.Consistent ∧ ∀ productId, (db.view productId).Bounded)
      ⟨migrated_consistent, fun _ => ⟨List.nodup_nil, fun _ _ _ hrow => absurd hrow List.not_mem_nil⟩⟩ ?_ actions
    rintro db action ⟨hconsistent, hbounded⟩
    refine ⟨step_consistent action hconsistent, ?_⟩
    obtain ⟨-, hsame⟩ | ⟨-, hends⟩ := @step_cases service db action
    · rwa [hsame]
    · exact hends.bounded hconsistent hbounded
  exact h.2

theorem ProductView.mem_recorded {view : ProductView} {tenantId actorRef eventType : String}
    {row : ConfigurationSnapshot}
    (h : row ∈ view.snapshots) : row ∈ (view.recorded tenantId productId actorRef eventType).snapshots := by
  unfold ProductView.recorded
  split
  · exact h
  · split
    · exact h
    · exact List.mem_append_left _ h

/-- No call removes a snapshot. -/
theorem CallEnds.snapshots {now clock : Int} {call : Call} (h : CallEnds db now clock call next)
    (hconsistent : db.Consistent) {row : ConfigurationSnapshot} (hrow : row ∈ (db.view productId).snapshots) :
    row ∈ (next.view productId).snapshots := by
  obtain hsame | htouches := h.touches hconsistent productId
  · rwa [hsame]
  cases htouches with
  | revoked _ hview => rwa [hview]
  | created _ habsent =>
    rw [habsent] at hrow
    cases hrow
  | assigned assigns =>
    obtain ⟨status, -, hview⟩ := assigns.own
    rw [hview]
    exact ProductView.mem_recorded hrow
  | attached attaches =>
    rw [attaches.own]
    exact ProductView.mem_recorded hrow
  | proposed proposes =>
    rw [proposes.own]
    exact ProductView.mem_recorded hrow
  | @decided _ _ _ review _ _ _ _ decides =>
    obtain ⟨_, hview⟩ := decides.own
    rw [hview]
    cases review.decision <;> exact ProductView.mem_recorded hrow
  | statusSet sets => rwa [sets.own]

/-- The snapshots of a state of a run are there at its end. -/
theorem run_snapshots (before after : List Action) {row : ConfigurationSnapshot}
    (hrow : row ∈ (run service before).snapshots) : row ∈ (run service (before ++ after)).snapshots := by
  induction after using List.reverseRecOn with
  | nil => rwa [List.append_nil]
  | append_singleton after action ih =>
    rw [← List.append_assoc]
    change row ∈ (runs.run (step service) Database.migrated (before ++ after ++ [action])).snapshots
    rw [runs.run_concat]
    obtain ⟨-, hsame⟩ | ⟨-, hends⟩ := @step_cases service (run service (before ++ after)) action
    · exact hsame.symm ▸ ih
    · have hview : row ∈ ((run service (before ++ after)).view row.productId).snapshots :=
        List.mem_filter.mpr ⟨ih, decide_eq_true rfl⟩
      exact (List.mem_filter.mp (hends.snapshots (run_consistent _) hview)).1

/-- Only calls that change a product without a snapshot make snapshots
incomplete. -/
theorem step_complete_iff (action : Action) (hconsistent : db.Consistent)
    (hbounded : ∀ productId, (db.view productId).Bounded) (hcomplete : ∀ productId, (db.view productId).Complete) :
    (∀ productId, ((step service db action).view productId).Complete) ↔ ¬ChangesUnrecorded service db action := by
  obtain ⟨hrefused, hsame⟩ | ⟨haccepted, hends⟩ := @step_cases service db action
  · rw [hsame]
    exact ⟨fun _ hchanges => hrefused hchanges.1, fun _ => hcomplete⟩
  · refine ⟨?_, hends.complete hconsistent hbounded hcomplete haccepted⟩
    rintro hafter ⟨-, hchanges⟩
    obtain ⟨now, clock, call⟩ := action
    generalize step service db ⟨now, clock, call⟩ = next at hends hafter
    cases hends with
    | revoked revoked =>
      obtain ⟨row, hrow, hsigned⟩ := hchanges
      obtain ⟨productId, hincomplete⟩ := revoked.incomplete hconsistent hbounded hcomplete hrow hsigned
      exact hincomplete (hafter productId)
    | statusSet sets => exact sets.incomplete hconsistent (hbounded _) (hcomplete _) (hafter _)
    | onboarded honboards =>
      cases call <;> first | exact hchanges | exact honboards
    | created | assigned | attached | proposed | decided => exact hchanges

/-- The snapshot of each version of a configuration in a run is the configuration
as it was in every state of the run at that version. -/
def SnapshotsFaithful (service : ProductCatalogService) (actions : List Action) : Prop :=
  ∀ before, before <+: actions → ∀ configuration ∈ (run service before).configurations,
    ∃ row ∈ (run service actions).snapshots, row.productId = configuration.productId ∧
      row.configurationVersion = configuration.configurationVersion ∧
      (run service before).snapshotOf configuration.tenantId configuration.productId = some row.snapshot

/-- In every state of a run each version of a configuration has exactly one
snapshot, which is the configuration as it was at that version, exactly if no
call of the run pauses or resumes a product or revokes a key whose evidence
satisfies a requirement. -/
theorem snapshots_complete_iff (actions : List Action) :
    ((∀ before, before <+: actions → (run service before).SnapshotsComplete) ∧ SnapshotsFaithful service actions) ↔
      ∀ before action after, actions = before ++ action :: after →
        ¬ChangesUnrecorded service (run service before) action := by
  have hruns : (∀ before, before <+: actions → (run service before).SnapshotsComplete) ↔
      ∀ before action after, actions = before ++ action :: after →
        ¬ChangesUnrecorded service (run service before) action := by
    refine @runs.run_invariant_iff _ _ (step service) Database.migrated Database.SnapshotsComplete
      (fun db => db.Consistent ∧ ∀ productId, (db.view productId).Bounded)
      (fun db action => ¬ChangesUnrecorded service db action) (fun _ hmem => absurd hmem List.not_mem_nil)
      (fun actions => ⟨run_consistent actions, run_bounded actions⟩) ?_ actions
    rintro db action ⟨hconsistent, hbounded⟩ hcomplete
    have hnext : ∀ productId, ((step service db action).view productId).Bounded := by
      obtain ⟨-, hsame⟩ | ⟨-, hends⟩ := @step_cases service db action
      · rwa [hsame]
      · exact hends.bounded hconsistent hbounded
    rw [snapshotsComplete_iff (step_consistent action hconsistent) hnext]
    exact step_complete_iff action hconsistent hbounded ((snapshotsComplete_iff hconsistent hbounded).mp hcomplete)
  rw [← hruns]
  refine ⟨fun h => h.1, fun hcomplete => ⟨hcomplete, ?_⟩⟩
  rintro before ⟨after, rfl⟩ configuration hmem
  obtain ⟨-, row, hrow, hproduct, hversion, hvalue⟩ := hcomplete before (List.prefix_append _ _) configuration hmem
  exact ⟨row, run_snapshots before after hrow, hproduct, hversion, hvalue⟩

section Sample

/-- An activated product that is paused. -/
def samplePause : List Action :=
  sampleConfiguration ++ sampleSubmission ++
  [sampleProposal, sampleDecision, ⟨600, 600, .setProductStatus "credit-one" .paused "operator"⟩]

/-- The snapshot of the current version of a paused product is of the product as
it was before. -/
theorem pause_has_no_snapshot : ¬(run sampleService samplePause).SnapshotsComplete := by
  intro hcomplete
  have hmem : ∃ configuration ∈ (run sampleService samplePause).configurations,
      ((run sampleService samplePause).snapshotOf configuration.tenantId configuration.productId).map
        (·.product.status) = some .paused ∧
      ∀ row ∈ (run sampleService samplePause).snapshots,
        row.configurationVersion = configuration.configurationVersion → row.snapshot.product.status = .active := by
    decide +kernel
  obtain ⟨configuration, hconfiguration, hpaused, hactive⟩ := hmem
  obtain ⟨-, row, hrow, -, hversion, hvalue⟩ := hcomplete configuration hconfiguration
  rw [hvalue, Option.map_some, hactive row hrow hversion] at hpaused
  cases hpaused

end Sample

end rwa.catalog
