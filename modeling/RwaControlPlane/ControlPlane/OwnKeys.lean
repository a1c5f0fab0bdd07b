import RwaControlPlane.ControlPlane.Soundness

open attempt js_map js_value

namespace rwa.control_plane

variable {platform : Platform} {plane final : ControlPlane}

/-- The values of a map stand under their own ids. -/
def UnderOwnId {ν : Type} (map : JsMap String ν) (idOf : ν → String) : Prop :=
  ∀ key value, map.get key = some value → idOf value = key

/-- Institutions, credentials and evidence stand under their own ids, and a cash balance
under a key that has a colon. -/
structure Tables.OwnKeys (tables : Tables) : Prop where
  institutions : UnderOwnId tables.institutions Institution.id
  credentials : UnderOwnId tables.credentials Credential.id
  evidence : UnderOwnId tables.evidence fun envelope => envelope.id
  cash : ∀ key amount, tables.cashBalances.get key = some amount → ':' ∈ key.toList

section Maps

variable {ν : Type} {map : JsMap String ν} {idOf : ν → String}

theorem UnderOwnId.set (h : UnderOwnId map idOf) {value : ν} : UnderOwnId (map.set (idOf value) value) idOf := by
  intro key stored hget
  rw [get_set] at hget
  by_cases hkey : key = idOf value
  · rw [if_pos hkey] at hget
    obtain rfl := Option.some.inj hget
    exact hkey.symm
  · rw [if_neg hkey] at hget
    exact h key stored hget

/-- The values of such a map have ids of their own. -/
theorem UnderOwnId.nodup (h : UnderOwnId map idOf) : (map.values.map idOf).Nodup := by
  have hkeys : map.values.map idOf = map.entries.map Prod.fst := by
    rw [JsMap.values, List.map_map]
    refine List.map_congr_left fun entry hentry => ?_
    exact h entry.1 entry.2 (mem_entries.mp hentry)
  rw [hkeys]
  exact map.nodup

end Maps

section Moves

variable {tables moved : Tables}

theorem balanceKey_colon {accountId asset : String} : ':' ∈ (balanceKey accountId asset).toList := by
  have hkey : balanceKey accountId asset = accountId ++ ":" ++ asset := rfl
  simp [hkey]

theorem Tables.OwnKeys.addCash (h : tables.OwnKeys) {accountId asset : String} {delta : Int} :
    (tables.addCash (balanceKey accountId asset) delta).OwnKeys := by
  refine ⟨h.institutions, h.credentials, h.evidence, fun key amount hget => ?_⟩
  rw [addCash_cashBalances, add, get_set] at hget
  by_cases hkey : key = balanceKey accountId asset
  · rw [hkey]
    exact balanceKey_colon
  · rw [if_neg hkey] at hget
    exact h.cash key amount hget

/-- Other maps do not matter. -/
theorem Tables.OwnKeys.of_same (h : tables.OwnKeys) (hinstitutions : moved.institutions = tables.institutions)
    (hcredentials : moved.credentials = tables.credentials) (hevidence : moved.evidence = tables.evidence)
    (hcash : moved.cashBalances = tables.cashBalances) : moved.OwnKeys :=
  ⟨hinstitutions ▸ h.institutions, hcredentials ▸ h.credentials, hevidence ▸ h.evidence, hcash ▸ h.cash⟩

variable {command : Command} {passed : Passed}

theorem Tables.OwnKeys.addAssetBalance (h : tables.OwnKeys) {key : String} {delta : Int} :
    (tables.addAssetBalance key delta).OwnKeys := h.of_same rfl rfl rfl rfl

theorem Tables.OwnKeys.addLegalRegister (h : tables.OwnKeys) {key : String} {delta : Int} :
    (tables.addLegalRegister key delta).OwnKeys := h.of_same rfl rfl rfl rfl

theorem Tables.OwnKeys.setCashSettlement (h : tables.OwnKeys) {settlement : CashSettlement} :
    (tables.setCashSettlement settlement).OwnKeys := h.of_same rfl rfl rfl rfl

theorem Command.Settles.moved_ownKeys (h : command.Settles platform plane passed) (htables : tables.OwnKeys) :
    (passed.moved tables).OwnKeys := by
  cases command with
  | subscribe command =>
    obtain ⟨plan, -, rfl⟩ := settles_subscribe h
    exact htables.addCash.addCash.setCashSettlement.addAssetBalance.addLegalRegister
  | transfer command =>
    obtain ⟨plan, -, rfl⟩ := settles_transfer h
    exact htables.addCash.addCash.addCash.setCashSettlement
      |>.addAssetBalance.addAssetBalance.addLegalRegister.addLegalRegister
  | redeem command =>
    obtain ⟨plan, -, rfl⟩ := settles_redeem h
    exact htables.addAssetBalance.addLegalRegister.addCash.addCash.setCashSettlement
  | simulateRegisterFailure command =>
    obtain ⟨plan, -, rfl⟩ := settles_failure h
    exact htables.setCashSettlement

theorem Command.Outcome.ownKeys {outcome : Except Failure Receipt} (h : command.Outcome platform plane outcome final)
    (htables : plane.toTables.OwnKeys) : final.toTables.OwnKeys := by
  cases h with
  | refused _ _ kept => rwa [show final.toTables = plane.toTables from congrArg Books.toTables kept]
  | replayed => exact htables
  | conflict => exact htables
  | broken settles _ moved =>
    rw [toTables_of_books moved]
    exact settles.moved_ownKeys htables
  | @executed passed policy settledAt lifecycle commitment fingerprint receipt _ settles _ _ _ stored =>
    rw [toTables_of_books stored]
    have hmoved := settles.moved_ownKeys htables
    cases hopened : passed.opened with
    | none => exact hmoved.of_same rfl rfl rfl rfl
    | some exceptionCase => exact hmoved.of_same rfl rfl rfl rfl

theorem ApprovalEnds.ownKeys {caseId checkerId : String} {outcome : Except Failure Resolved} {books : Books}
    (h : ApprovalEnds platform plane caseId checkerId outcome books) (htables : plane.toTables.OwnKeys) :
    books.toTables.OwnKeys := by
  cases h with
  | refused => exact htables
  | cancelled => exact htables.of_same rfl rfl rfl rfl
  | @retry exceptionCase proposal original reviewed settled lifecycle transferred _ _ _ _ _ review _ transfer ends =>
    have hreviewed : reviewed.toTables.OwnKeys := by
      rw [toTables_of_books review]
      exact htables.of_same rfl rfl rfl rfl
    have hsettled := transfer.ownKeys hreviewed
    cases ends with
    | blocked => exact hsettled.of_same rfl rfl rfl rfl
    | retried => exact hsettled.of_same rfl rfl rfl rfl

end Moves

/-- Every call keeps the maps under their keys. -/
theorem CallEnds.ownKeys {call : Call} {outcome : Except Failure Reply} {books : Books}
    (h : CallEnds platform plane call outcome books) (htables : plane.toTables.OwnKeys) : books.toTables.OwnKeys := by
  cases h with
  | refused => exact htables
  | registered => exact ⟨htables.institutions.set, htables.credentials, htables.evidence, htables.cash⟩
  | created => exact htables.of_same rfl rfl rfl rfl
  | activated => exact htables.of_same rfl rfl rfl rfl
  | paused => exact htables.of_same rfl rfl rfl rfl
  | credential => exact ⟨htables.institutions, htables.credentials.set, htables.evidence, htables.cash⟩
  | revoked => exact htables.of_same rfl rfl rfl rfl
  | @evidence envelope =>
    exact ⟨htables.institutions, htables.credentials,
      @UnderOwnId.set _ _ _ htables.evidence { envelope with status := .active }, htables.cash⟩
  | credited => exact htables.addCash
  | settled ends => exact ends.ownKeys htables
  | proposed => exact htables.of_same rfl rfl rfl rfl
  | approved ends => exact ends.ownKeys htables

/-- The maps are under their keys after every run. -/
theorem run_ownKeys (actions : List Action) : (run platform actions).toTables.OwnKeys := by
  have hrun : (run platform actions).toTables.Sound ∧ (run platform actions).toTables.OwnKeys := by
    refine @runs.run_invariant _ _ (step platform) ControlPlane.start
      (fun plane => plane.toTables.Sound ∧ plane.toTables.OwnKeys)
      ⟨start_sound, fun _ _ => nofun, fun _ _ => nofun, fun _ _ => nofun, fun _ _ => nofun⟩ ?_ actions
    intro plane action h
    exact ⟨step_sound h.1, @CallEnds.ownKeys _ (plane.atTime action.now) _ _ _ (step_ends h.1) h.2⟩
  exact hrun.2

end rwa.control_plane
