import RwaControlPlane.Gate.Store
import RwaControlPlane.Library.JsValue
import RwaControlPlane.Library.Runs

open checked js_value
open rwa.gate (uniqueViolation)

namespace rwa.migrations

/-- `/^\d+_.+\.sql$/` -/
def isMigration (name : String) : Bool :=
  match name.toList.dropWhile Char.isDigit with
  | '_' :: rest =>
    let stem := rest.take (rest.length - 4)
    (name.toList.head?.any Char.isDigit) && rest.drop stem.length == ".sql".toList && !stem.isEmpty &&
      stem.all fun char => !([10, 13, 0x2028, 0x2029].contains char.toNat)
  | _ => false

structure MigrationFile where
  filename : String
  sql : String
  checksum : String
deriving DecidableEq

/-- `rwa.schema_migrations` -/
structure AppliedMigration where
  filename : String
  checksum : String
deriving DecidableEq

/-- `migrationFiles`, on the names and the contents of a directory. -/
def migrationFiles (sha256 : String → String) (directory : List (String × String)) : List MigrationFile :=
  ((directory.filter fun entry => isMigration entry.1).insertionSort fun first second => keyLe first.1 second.1).map
    fun entry => ⟨entry.1, entry.2, sha256 entry.2⟩

def MigrationFile.row (file : MigrationFile) : AppliedMigration := ⟨file.filename, file.checksum⟩

/-- The table of migrations, when there is one, and everything else in the database. -/
structure Database (σ : Type) where
  schemaMigrations : Option (List AppliedMigration)
  contents : σ

/-- What a migrator takes from its platform: the hash, and the statements of a script.
Each statement sees the contents that are committed when it starts and the changes `δ` of
its own transaction, and adds to these changes. A commit makes new contents of them. -/
structure Platform (σ δ : Type) where
  sha256 : String → String
  statements : String → List String
  unchanged : δ
  execute : σ → δ → String → Except Failure δ
  commit : σ → δ → σ

variable {σ δ : Type} (platform : Platform σ δ)

def migrationDrift (message : String) : Failure := ⟨"DATABASE_MIGRATION_DRIFT", message⟩

/-- `verifyMigrations`. The filename is the key of the table. -/
def verifyMigrations (db : Database σ) (directory : List (String × String)) :
    Except Failure (Nat × Option String) := do
  let rows ← require db.schemaMigrations
    ⟨"DATABASE_MIGRATION_REQUIRED", "database schema is not initialized by the approved migrator"⟩
  let expected := migrationFiles platform.sha256 directory
  expected.forM fun file =>
    throwIf ((rows.find? (·.filename = file.filename)).map (·.checksum) ≠ some file.checksum)
      (migrationDrift ("database migration is missing or has drifted: " ++ file.filename))
  throwIf (∃ row ∈ rows, row.filename ∉ expected.map (·.filename))
    (migrationDrift "database contains an unknown migration version")
  pure (expected.length, expected.getLast?.map (·.filename))

/-- Record a migration and commit its changes. The filename is the key of the table. -/
def commitMigration (db : Database σ) (file : MigrationFile) (changes : δ) : Except Failure (Database σ) := do
  let rows := db.schemaMigrations.getD []
  throwIf (file.filename ∈ rows.map (·.filename)) uniqueViolation
  pure ⟨some (rows ++ [file.row]), platform.commit db.contents changes⟩

/-- Where the loop of `runMigrations` is: before the query for the next file, or in the
transaction of that file, which has statements left and some changes. -/
inductive Progress (δ : Type)
  | checking
  | executing (statements : List String) (changes : δ)
  | finished
  | failed (failure : Failure)
deriving DecidableEq

/-- A run of `runMigrations`: its files, how many of them it has passed, and those that
it has applied. -/
structure Migrator (δ : Type) where
  files : List MigrationFile
  passed : Nat
  applied : List String
  progress : Progress δ
deriving DecidableEq

namespace Migrator

def fail (migrator : Migrator δ) (failure : Failure) : Migrator δ := { migrator with progress := .failed failure }

/-- The query for the next file. If there is no row for it, its transaction begins. -/
def check (rows : List AppliedMigration) (migrator : Migrator δ) : Migrator δ :=
  match migrator.progress with
  | .checking =>
    match migrator.files[migrator.passed]? with
    | none => { migrator with progress := .finished }
    | some file =>
      match rows.find? (·.filename = file.filename) with
      | none => { migrator with progress := .executing (platform.statements file.sql) platform.unchanged }
      | some row =>
        if row.checksum ≠ file.checksum then
          migrator.fail ⟨"", "applied migration checksum mismatch: " ++ file.filename⟩
        else { migrator with passed := migrator.passed + 1 }
  | _ => migrator

/-- The next statement of the transaction, on the committed contents. -/
def execute (contents : σ) (migrator : Migrator δ) : Migrator δ :=
  match migrator.progress with
  | .executing (statement :: rest) changes =>
    match platform.execute contents changes statement with
    | .ok changes => { migrator with progress := .executing rest changes }
    | .error failure => migrator.fail failure
  | _ => migrator

/-- A migrator that is at work fails or is stopped. -/
def stop (migrator : Migrator δ) (failure : Failure) : Migrator δ :=
  match migrator.progress with
  | .checking | .executing _ _ => migrator.fail failure
  | .finished | .failed _ => migrator

end Migrator

/-- What a migrator hears of its commit. -/
inductive Ending
  | committed
  | committedUnheard (failure : Failure)
deriving DecidableEq

/-- A migrator starts with the files of its directory, and takes one step after another.
It can fail or be stopped between any two of them, which rolls its transaction back. -/
inductive Action
  | start (directory : List (String × String))
  | check (index : Nat)
  | execute (index : Nat)
  | commit (index : Nat) (ending : Ending)
  | stop (index : Nat) (failure : Failure)
deriving DecidableEq

structure State (σ δ : Type) where
  db : Database σ
  migrators : List (Migrator δ)

/-- The end of a transaction whose statements have all been executed. -/
def commitNext (db : Database σ) (migrator : Migrator δ) (ending : Ending) : Database σ × Migrator δ :=
  match migrator.progress, migrator.files[migrator.passed]? with
  | .executing [] changes, some file =>
    match commitMigration platform db file changes, ending with
    | .error failure, _ => (db, migrator.fail failure)
    | .ok next, .committedUnheard failure => (next, migrator.fail failure)
    | .ok next, .committed =>
      (next,
        { migrator with
          passed := migrator.passed + 1, applied := migrator.applied ++ [file.filename], progress := .checking })
  | _, _ => (db, migrator)

def step (state : State σ δ) : Action → State σ δ
  | .start directory =>
    { db := { state.db with schemaMigrations := some (state.db.schemaMigrations.getD []) }
      migrators := state.migrators ++ [⟨migrationFiles platform.sha256 directory, 0, [], .checking⟩] }
  | .check index =>
    match state.migrators[index]?, state.db.schemaMigrations with
    | some migrator, some rows =>
      { state with migrators := state.migrators.set index (migrator.check platform rows) }
    | _, _ => state
  | .execute index =>
    match state.migrators[index]? with
    | some migrator =>
      { state with migrators := state.migrators.set index (migrator.execute platform state.db.contents) }
    | none => state
  | .commit index ending =>
    match state.migrators[index]? with
    | some migrator =>
      let (db, next) := commitNext platform state.db migrator ending
      ⟨db, state.migrators.set index next⟩
    | none => state
  | .stop index failure =>
    match state.migrators[index]? with
    | some migrator => { state with migrators := state.migrators.set index (migrator.stop failure) }
    | none => state

/-- The state after some actions, from a database without the table on. -/
def run (contents : σ) (actions : List Action) : State σ δ :=
  runs.run (step platform) ⟨⟨none, contents⟩, []⟩ actions

variable {platform} {db next : Database σ} {file : MigrationFile} {initial contents : σ} {changes : δ}
  {ran : List MigrationFile}

/-- What a script makes of contents that nobody else changes while it runs. -/
def executeScript (platform : Platform σ δ) (contents : σ) (file : MigrationFile) : Except Failure σ := do
  let changes ← (platform.statements file.sql).foldlM (platform.execute contents) platform.unchanged
  pure (platform.commit contents changes)

/-- Running the scripts of some migrations one after another. -/
def executeAll (platform : Platform σ δ) (initial : σ) (ran : List MigrationFile) : Except Failure σ :=
  ran.foldlM (executeScript platform) initial

theorem executeAll_concat (h : executeAll platform initial ran = .ok contents) :
    executeAll platform initial (ran ++ [file]) = executeScript platform contents file := by
  rw [executeAll, List.foldlM_append, ← executeAll, h]
  change executeScript platform contents file >>= pure = _
  exact bind_pure _

/-- The table names the migrations of `ran` in their order, each of them once, with the
hash of its script. -/
structure Database.Logged (platform : Platform σ δ) (db : Database σ) (ran : List MigrationFile) : Prop where
  rows : db.schemaMigrations.getD [] = ran.map MigrationFile.row
  names : (ran.map (·.filename)).Nodup
  checksums : ∀ file ∈ ran, file.checksum = platform.sha256 file.sql

theorem commitMigration_ok (h : commitMigration platform db file changes = .ok next) :
    file.filename ∉ (db.schemaMigrations.getD []).map (·.filename) ∧
      next = ⟨some (db.schemaMigrations.getD [] ++ [file.row]), platform.commit db.contents changes⟩ := by
  simp only [commitMigration, bind_eq_ok_iff, throwIf_eq_ok_iff, exists_unit, pure_eq_ok_iff] at h
  exact ⟨h.1, h.2.symm⟩

theorem Database.Logged.commit (h : db.Logged platform ran) (hfile : file.checksum = platform.sha256 file.sql)
    (hcommit : commitMigration platform db file changes = .ok next) : next.Logged platform (ran ++ [file]) := by
  obtain ⟨hfresh, rfl⟩ := commitMigration_ok hcommit
  rw [h.rows] at hfresh
  refine ⟨?_, ?_, ?_⟩
  · rw [Option.getD_some, h.rows, List.map_append]
    rfl
  · rw [List.map_append]
    refine List.Nodup.append h.names (List.nodup_singleton _) ?_
    rw [List.map_singleton, List.disjoint_singleton]
    rw [List.map_map] at hfresh
    exact hfresh
  · exact List.forall_mem_append.mpr ⟨h.checksums, List.forall_mem_singleton.mpr hfile⟩

private theorem forM_eq_ok_iff {α : Type} {items : List α} {action : α → Except Failure Unit} :
    items.forM action = .ok () ↔ ∀ item ∈ items, action item = .ok () := by
  induction items with
  | nil => simp [pure, Except.pure]
  | cons item rest ih =>
    change action item >>= (fun _ => rest.forM action) = .ok () ↔ _
    rw [bind_eq_ok_iff, exists_unit, ih, List.forall_mem_cons]

/-- What `verifyMigrations` accepts: the table names the files of the directory, with the
hashes of their texts, and no others. -/
theorem verifyMigrations_iff {directory : List (String × String)} :
    (∃ result, verifyMigrations platform db directory = .ok result) ↔
      ∃ rows, db.schemaMigrations = some rows ∧
        (∀ file ∈ migrationFiles platform.sha256 directory,
          (rows.find? (·.filename = file.filename)).map (·.checksum) = some file.checksum) ∧
        ∀ row ∈ rows, row.filename ∈ (migrationFiles platform.sha256 directory).map (·.filename) := by
  simp only [verifyMigrations, bind_eq_ok_iff, require_eq_ok_iff, exists_unit, forM_eq_ok_iff, throwIf_eq_ok_iff,
    pure_eq_ok_iff, not_not, ne_eq, not_exists, not_and]
  constructor
  · rintro ⟨_, rows, hrows, hfiles, hknown, -⟩
    exact ⟨rows, hrows, hfiles, hknown⟩
  · rintro ⟨rows, hrows, hfiles, hknown⟩
    exact ⟨_, rows, hrows, hfiles, hknown, rfl⟩

theorem find?_rows (hnames : (ran.map (·.filename)).Nodup) (hfile : file ∈ ran) :
    (ran.map MigrationFile.row).find? (·.filename = file.filename) = some file.row := by
  rw [List.find?_map, Option.map_eq_some_iff]
  refine ⟨file, ?_, rfl⟩
  cases hfound : ran.find? ((fun row : AppliedMigration => decide (row.filename = file.filename)) ∘
      MigrationFile.row) with
  | none => exact absurd (decide_eq_true rfl) (List.find?_eq_none.mp hfound file hfile)
  | some found =>
    have hname := List.find?_some hfound
    rw [Function.comp_apply, decide_eq_true_eq] at hname
    rw [List.inj_on_of_nodup_map hnames (List.mem_of_find?_eq_some hfound) hfile hname]

section Interleavings

variable {actions : List Action} {action : Action} {state : State σ δ} {migrator changed : Migrator δ}

/-- What a migrator can do without a commit: begin the transaction of its next file, pass
a file that is recorded, finish, execute a statement, or fail. -/
inductive Migrator.Moves (platform : Platform σ δ) (db : Database σ) (migrator : Migrator δ) : Migrator δ → Prop
  | kept : Moves platform db migrator migrator
  | began {file : MigrationFile} (upcoming : migrator.files[migrator.passed]? = some file) :
      Moves platform db migrator
        { migrator with progress := .executing (platform.statements file.sql) platform.unchanged }
  | skipped {file : MigrationFile} (checking : migrator.progress = .checking)
      (upcoming : migrator.files[migrator.passed]? = some file)
      (recorded : file.filename ∈ (db.schemaMigrations.getD []).map (·.filename)) :
      Moves platform db migrator { migrator with passed := migrator.passed + 1 }
  | finished (all : migrator.files.length ≤ migrator.passed) :
      Moves platform db migrator { migrator with progress := .finished }
  | executed {statement : String} {rest : List String} {before changes : δ}
      (executing : migrator.progress = .executing (statement :: rest) before)
      (executes : platform.execute db.contents before statement = .ok changes) :
      Moves platform db migrator { migrator with progress := .executing rest changes }
  | failed (failure : Failure) : Moves platform db migrator (migrator.fail failure)

theorem Migrator.Moves.files_eq (h : migrator.Moves platform db changed) : changed.files = migrator.files := by
  cases h <;> rfl

theorem Migrator.Moves.applied_eq (h : migrator.Moves platform db changed) : changed.applied = migrator.applied := by
  cases h <;> rfl

/-- What a step can do: a migrator starts, moves, or commits the file that it has
executed. -/
inductive Moves (platform : Platform σ δ) (state : State σ δ) (action : Action) : State σ δ → Prop
  | idle : Moves platform state action state
  | started {directory : List (String × String)} (starts : action = .start directory) :
      Moves platform state action
        { db := { state.db with schemaMigrations := some (state.db.schemaMigrations.getD []) }
          migrators := state.migrators ++ [⟨migrationFiles platform.sha256 directory, 0, [], .checking⟩] }
  | moved {index : Nat} {migrator changed : Migrator δ} (found : state.migrators[index]? = some migrator)
      (moves : migrator.Moves platform state.db changed) :
      Moves platform state action { state with migrators := state.migrators.set index changed }
  | committed {index : Nat} {migrator changed : Migrator δ} {file : MigrationFile} {changes : δ} {db : Database σ}
      (found : state.migrators[index]? = some migrator) (executed : migrator.progress = .executing [] changes)
      (upcoming : migrator.files[migrator.passed]? = some file)
      (commits : commitMigration platform state.db file changes = .ok db) (files : changed.files = migrator.files)
      (heard : (∃ failure, changed = migrator.fail failure) ∨
        changed.passed = migrator.passed + 1 ∧ changed.applied = migrator.applied ++ [file.filename] ∧
          changed.progress = .checking) :
      Moves platform state action ⟨db, state.migrators.set index changed⟩

theorem check_moves {rows : List AppliedMigration} (hrows : db.schemaMigrations = some rows) :
    migrator.Moves platform db (migrator.check platform rows) := by
  unfold Migrator.check
  split
  · next hchecking =>
    split
    · next hnone => exact .finished (List.getElem?_eq_none_iff.mp hnone)
    · next file hfile =>
      split
      · exact .began hfile
      · next row hrow =>
        split
        · exact .failed _
        · refine .skipped hchecking hfile ?_
          rw [hrows, Option.getD_some]
          exact List.mem_map.mpr ⟨row, List.mem_of_find?_eq_some hrow, by simpa using List.find?_some hrow⟩
  · exact .kept

theorem execute_moves : migrator.Moves platform db (migrator.execute platform db.contents) := by
  unfold Migrator.execute
  split
  · next hexecuting =>
    split
    · next hexecutes => exact .executed hexecuting hexecutes
    · exact .failed _
  · exact .kept

theorem stop_moves {failure : Failure} : migrator.Moves platform db (migrator.stop failure) := by
  unfold Migrator.stop
  split
  · exact .failed failure
  · exact .failed failure
  · exact .kept
  · exact .kept

theorem commitNext_moves {index : Nat} {ending : Ending} (hfound : state.migrators[index]? = some migrator) :
    Moves platform state action ⟨(commitNext platform state.db migrator ending).1,
      state.migrators.set index (commitNext platform state.db migrator ending).2⟩ := by
  unfold commitNext
  split
  · next hexecuted hupcoming =>
    split
    · exact .moved hfound (.failed _)
    · next hcommits => exact .committed hfound hexecuted hupcoming hcommits rfl (Or.inl ⟨_, rfl⟩)
    · next hcommits => exact .committed hfound hexecuted hupcoming hcommits rfl (Or.inr ⟨rfl, rfl, rfl⟩)
  · exact .moved hfound .kept

theorem step_moves (action : Action) : Moves platform state action (step platform state action) := by
  cases action with
  | start directory => exact .started rfl
  | check index =>
    rw [step]
    split
    · next hfound hrows => exact .moved hfound (check_moves hrows)
    · exact .idle
  | execute index =>
    rw [step]
    split
    · next hfound => exact .moved hfound execute_moves
    · exact .idle
  | commit index ending =>
    rw [step]
    split
    · next hfound => exact commitNext_moves hfound
    · exact .idle
  | stop index failure =>
    rw [step]
    split
    · next hfound => exact .moved hfound stop_moves
    · exact .idle

private theorem split_at {migrators : List (Migrator δ)} {index : Nat}
    (h : migrators[index]? = some migrator) :
    ∃ before after, migrators = before ++ migrator :: after ∧
      ∀ changed, migrators.set index changed = before ++ changed :: after := by
  obtain ⟨hindex, hmigrator⟩ := List.getElem?_eq_some_iff.mp h
  refine ⟨migrators.take index, migrators.drop (index + 1), ?_, fun changed => ?_⟩
  · rw [← hmigrator, List.cons_getElem_drop_succ, List.take_append_drop]
  · rw [List.set_eq_take_append_cons_drop, if_pos hindex]

private theorem forall_mem_set {migrators : List (Migrator δ)} {index : Nat} {property : Migrator δ → Prop}
    (hold : ∀ other ∈ migrators, property other) (hnew : property changed) :
    ∀ other ∈ migrators.set index changed, property other := by
  intro other hother
  rcases List.mem_or_eq_of_mem_set hother with hkept | rfl
  · exact hold other hkept
  · exact hnew

/-- The table is a log of the migrations that were committed. The migrators report what
they have applied, and no two of them the same. -/
structure State.Sound (platform : Platform σ δ) (state : State σ δ) (ran : List MigrationFile) : Prop where
  log : state.db.Logged platform ran
  origin : ∀ file ∈ ran, ∃ migrator ∈ state.migrators, file ∈ migrator.files
  files : ∀ migrator ∈ state.migrators, ∀ file ∈ migrator.files, file.checksum = platform.sha256 file.sql
  reported : (state.migrators.flatMap (·.applied)).Nodup
  applied : ∀ filename ∈ state.migrators.flatMap (·.applied), filename ∈ ran.map (·.filename)

theorem migrationFiles_checksum {directory : List (String × String)} :
    ∀ file ∈ migrationFiles platform.sha256 directory, file.checksum = platform.sha256 file.sql := by
  intro file hfile
  obtain ⟨entry, -, rfl⟩ := List.mem_map.mp hfile
  rfl

/-- A migrator that moves keeps its files. -/
private theorem State.Sound.origin_set (h : state.Sound platform ran) {index : Nat}
    (hfound : state.migrators[index]? = some migrator) (hfiles : changed.files = migrator.files) :
    ∀ file ∈ ran, ∃ other ∈ state.migrators.set index changed, file ∈ other.files := by
  obtain ⟨before, after, hsplit, hset⟩ := split_at hfound
  intro file hfile
  obtain ⟨other, hother, hlisted⟩ := h.origin file hfile
  rw [hsplit, List.mem_append, List.mem_cons] at hother
  rw [hset]
  rcases hother with hbefore | rfl | hafter
  · exact ⟨other, List.mem_append_left _ hbefore, hlisted⟩
  · exact ⟨changed, List.mem_append_right _ List.mem_cons_self, hfiles ▸ hlisted⟩
  · exact ⟨other, List.mem_append_right _ (List.mem_cons_of_mem _ hafter), hlisted⟩

theorem State.Sound.of_moves {next : State σ δ} (h : state.Sound platform ran)
    (hmoves : Moves platform state action next) :
    ∃ more, next.Sound platform (ran ++ more) := by
  cases hmoves with
  | idle => exact ⟨[], by rwa [List.append_nil]⟩
  | started =>
    refine ⟨[], ?_⟩
    rw [List.append_nil]
    refine ⟨⟨h.log.rows, h.log.names, h.log.checksums⟩, fun file hfile => ?_, ?_, ?_, ?_⟩
    · obtain ⟨migrator, hmigrator, hlisted⟩ := h.origin file hfile
      exact ⟨migrator, List.mem_append_left _ hmigrator, hlisted⟩
    · exact List.forall_mem_append.mpr ⟨h.files, List.forall_mem_singleton.mpr migrationFiles_checksum⟩
    · simpa using h.reported
    · simpa using h.applied
  | @moved index migrator changed found moves =>
    refine ⟨[], ?_⟩
    rw [List.append_nil]
    obtain ⟨before, after, hsplit, hset⟩ := split_at found
    have happlied : (state.migrators.set index changed).flatMap (·.applied) = state.migrators.flatMap (·.applied) := by
      rw [hset, hsplit, List.flatMap_append, List.flatMap_append, List.flatMap_cons, List.flatMap_cons,
        moves.applied_eq]
    refine ⟨h.log, h.origin_set found moves.files_eq, forall_mem_set h.files ?_, ?_, ?_⟩
    · rw [moves.files_eq]
      exact h.files migrator (List.mem_of_getElem? found)
    · rw [happlied]
      exact h.reported
    · rw [happlied]
      exact h.applied
  | @committed index migrator changed file changes db found executed upcoming commits files heard =>
    obtain ⟨before, after, hsplit, hset⟩ := split_at found
    have hfiles := h.files migrator (List.mem_of_getElem? found)
    have hfresh := (commitMigration_ok commits).1
    rw [h.log.rows, List.map_map] at hfresh
    have hlog := h.log.commit (hfiles file (List.mem_of_getElem? upcoming)) commits
    have hperm : (state.migrators.set index changed).flatMap (·.applied) = state.migrators.flatMap (·.applied) ∨
        ((state.migrators.set index changed).flatMap (·.applied)).Perm
          (file.filename :: state.migrators.flatMap (·.applied)) := by
      rw [hset, hsplit, List.flatMap_append, List.flatMap_append, List.flatMap_cons, List.flatMap_cons]
      rcases heard with ⟨failure, rfl⟩ | ⟨-, happlied, -⟩
      · left
        rfl
      · right
        rw [happlied, List.append_assoc, List.singleton_append, ← List.append_assoc, ← List.append_assoc]
        exact List.perm_middle
    have hnew : file.filename ∉ state.migrators.flatMap (·.applied) := fun hmem => hfresh (h.applied _ hmem)
    have hsubset : ∀ filename ∈ state.migrators.flatMap (·.applied), filename ∈ (ran ++ [file]).map (·.filename) := by
      intro filename hmem
      rw [List.map_append]
      exact List.mem_append_left _ (h.applied filename hmem)
    refine ⟨[file], hlog, List.forall_mem_append.mpr ⟨h.origin_set found files, List.forall_mem_singleton.mpr ?_⟩,
      forall_mem_set h.files ?_, ?_, ?_⟩
    · refine ⟨changed, ?_, files ▸ List.mem_of_getElem? upcoming⟩
      rw [hset]
      exact List.mem_append_right _ List.mem_cons_self
    · rw [files]
      exact hfiles
    · rcases hperm with hsame | hperm
      · rw [hsame]
        exact h.reported
      · exact hperm.nodup_iff.mpr (List.nodup_cons.mpr ⟨hnew, h.reported⟩)
    · rcases hperm with hsame | hperm
      · rw [hsame]
        exact hsubset
      · intro filename hmem
        rcases List.mem_cons.mp (hperm.mem_iff.mp hmem) with rfl | hold
        · rw [List.map_append]
          exact List.mem_append_right _ (List.mem_singleton_self _)
        · exact hsubset filename hold

/-- The transaction that a migrator is in has executed the first statements of its file
on the contents that are committed now. -/
def Migrator.Current (platform : Platform σ δ) (contents : σ) (migrator : Migrator δ) : Prop :=
  ∀ rest changes, migrator.progress = .executing rest changes →
    ∃ file done, migrator.files[migrator.passed]? = some file ∧ platform.statements file.sql = done ++ rest ∧
      done.foldlM (platform.execute contents) platform.unchanged = .ok changes

/-- The migrators of releases whose files are those that `files` starts with have applied
the first files of it, in their order. Only the next file can still be committed, and
nothing was committed since its transactions began. -/
structure State.InOrder (platform : Platform σ δ) (initial : σ) (files : List MigrationFile) (state : State σ δ)
    (count : Nat) : Prop where
  count_le : count ≤ files.length
  log : state.db.Logged platform (files.take count)
  contents : executeAll platform initial (files.take count) = .ok state.db.contents
  releases : ∀ migrator ∈ state.migrators, migrator.files <+: files
  passed : ∀ migrator ∈ state.migrators, migrator.passed ≤ count
  current : ∀ migrator ∈ state.migrators, migrator.passed = count → migrator.Current platform state.db.contents
  finished : ∀ migrator ∈ state.migrators, migrator.progress = .finished → migrator.files.length ≤ migrator.passed
  opened : state.migrators ≠ [] → state.db.schemaMigrations.isSome = true

variable {files : List MigrationFile} {count : Nat}

/-- A file is recorded exactly when it is one of the first ones. -/
theorem recorded_iff (hnames : (files.map (·.filename)).Nodup) {position : Nat} (hfile : files[position]? = some file) :
    file.filename ∈ (files.take count).map (·.filename) ↔ position < count := by
  obtain ⟨hposition, -⟩ := List.getElem?_eq_some_iff.mp hfile
  constructor
  · intro hmem
    obtain ⟨other, hother, hname⟩ := List.mem_map.mp hmem
    have hequal : other = file :=
      List.inj_on_of_nodup_map hnames (List.mem_of_mem_take hother) (List.mem_of_getElem? hfile) hname
    subst hequal
    obtain ⟨index, hindex⟩ := List.mem_iff_getElem?.mp hother
    have hlt : index < count := by
      by_contra hge
      rw [List.getElem?_take_eq_none (by omega)] at hindex
      cases hindex
    rw [List.getElem?_take_of_lt hlt] at hindex
    rw [(List.getElem?_inj hposition hnames.of_map).mp (hfile.trans hindex.symm)]
    exact hlt
  · intro hlt
    refine List.mem_map_of_mem (@List.mem_of_getElem? _ _ position _ ?_)
    rw [List.getElem?_take_of_lt hlt]
    exact hfile

theorem getElem?_of_starts {some_files : List MigrationFile} (h : some_files <+: files) {position : Nat}
    (hfile : some_files[position]? = some file) : files[position]? = some file := by
  obtain ⟨rest, rfl⟩ := h
  rw [List.getElem?_append_left (List.getElem?_eq_some_iff.mp hfile).1]
  exact hfile

/-- A migrator that moves stays in the transaction of the next file, or enters it. -/
theorem Migrator.Moves.current (h : migrator.Moves platform db changed)
    (hcurrent : migrator.passed = count → migrator.Current platform db.contents) :
    changed.passed = count → changed.Current platform db.contents := by
  intro hcount rest changes hexecuting
  cases h with
  | kept => exact hcurrent hcount rest changes hexecuting
  | @began file upcoming =>
    obtain ⟨rfl, rfl⟩ := Progress.executing.inj hexecuting
    exact ⟨file, [], upcoming, rfl, rfl⟩
  | skipped checking =>
    change migrator.progress = _ at hexecuting
    rw [checking] at hexecuting
    cases hexecuting
  | finished => cases hexecuting
  | @executed statement _ before _ executing executes =>
    obtain ⟨rfl, rfl⟩ := Progress.executing.inj hexecuting
    obtain ⟨file, done, hfile, hstatements, hdone⟩ := hcurrent hcount _ _ executing
    refine ⟨file, done ++ [statement], hfile, by rw [hstatements, List.append_assoc]; rfl, ?_⟩
    rw [List.foldlM_append, hdone]
    change platform.execute db.contents before statement >>= pure = _
    rw [bind_pure, executes]
  | failed => cases hexecuting

/-- A migrator passes only files that are recorded. -/
theorem Migrator.Moves.passed_le (hnames : (files.map (·.filename)).Nodup)
    (h : migrator.Moves platform db changed) (hlog : db.Logged platform (files.take count))
    (hreleases : migrator.files <+: files) (hle : migrator.passed ≤ count) : changed.passed ≤ count := by
  cases h with
  | skipped _ upcoming recorded =>
    rw [hlog.rows, List.map_map] at recorded
    exact (recorded_iff hnames (getElem?_of_starts hreleases upcoming)).mp recorded
  | _ => exact hle

theorem Migrator.Moves.finished_all (h : migrator.Moves platform db changed)
    (hall : migrator.progress = .finished → migrator.files.length ≤ migrator.passed) :
    changed.progress = .finished → changed.files.length ≤ changed.passed := by
  intro hfinished
  cases h with
  | kept => exact hall hfinished
  | began => cases hfinished
  | skipped checking =>
    change migrator.progress = _ at hfinished
    rw [checking] at hfinished
    cases hfinished
  | finished all => exact all
  | executed => cases hfinished
  | failed => cases hfinished

/-- The file that a migrator commits is the next one, and its script has run on what the
files before it have made. -/
theorem State.InOrder.committed (hnames : (files.map (·.filename)).Nodup)
    (h : state.InOrder platform initial files count)
    (hmigrator : migrator ∈ state.migrators) (hexecuted : migrator.progress = .executing [] changes)
    (hupcoming : migrator.files[migrator.passed]? = some file)
    (hcommits : commitMigration platform state.db file changes = .ok db) :
    migrator.passed = count ∧ files[count]? = some file ∧
      executeScript platform state.db.contents file = .ok db.contents := by
  have hfile := getElem?_of_starts (h.releases migrator hmigrator) hupcoming
  obtain ⟨hfresh, rfl⟩ := commitMigration_ok hcommits
  rw [h.log.rows, List.map_map] at hfresh
  have hle := h.passed migrator hmigrator
  have hcount : migrator.passed = count := by
    by_contra hne
    exact hfresh ((recorded_iff hnames hfile).mpr (by omega))
  obtain ⟨same, done, hsame, hstatements, hdone⟩ := h.current migrator hmigrator hcount [] changes hexecuted
  obtain rfl := Option.some.inj (hupcoming.symm.trans hsame)
  rw [List.append_nil] at hstatements
  refine ⟨hcount, hcount ▸ hfile, ?_⟩
  rw [executeScript, hstatements, hdone]
  rfl

theorem State.InOrder.of_moves {next : State σ δ} (hnames : (files.map (·.filename)).Nodup)
    (h : state.InOrder platform initial files count) (hmoves : Moves platform state action next)
    (hchecksums : ∀ file ∈ files, file.checksum = platform.sha256 file.sql)
    (hreleases : ∀ directory, action = .start directory → migrationFiles platform.sha256 directory <+: files) :
    ∃ later, count ≤ later ∧ next.InOrder platform initial files later := by
  cases hmoves with
  | idle => exact ⟨count, Nat.le_refl _, h⟩
  | @started directory starts =>
    refine ⟨count, Nat.le_refl _, h.count_le, ⟨h.log.rows, h.log.names, h.log.checksums⟩, h.contents, ?_, ?_, ?_, ?_,
      fun _ => rfl⟩
    · exact List.forall_mem_append.mpr ⟨h.releases, List.forall_mem_singleton.mpr (hreleases directory starts)⟩
    · exact List.forall_mem_append.mpr ⟨h.passed, List.forall_mem_singleton.mpr (Nat.zero_le _)⟩
    · refine List.forall_mem_append.mpr ⟨h.current, List.forall_mem_singleton.mpr ?_⟩
      intro _ rest changes hexecuting
      cases hexecuting
    · refine List.forall_mem_append.mpr ⟨h.finished, List.forall_mem_singleton.mpr ?_⟩
      intro hfinished
      cases hfinished
  | @moved index migrator changed found moves =>
    have hmigrator := List.mem_of_getElem? found
    refine ⟨count, Nat.le_refl _, h.count_le, h.log, h.contents, forall_mem_set h.releases ?_,
      forall_mem_set h.passed ?_, forall_mem_set h.current ?_, forall_mem_set h.finished ?_,
      fun _ => h.opened (List.ne_nil_of_mem hmigrator)⟩
    · rw [moves.files_eq]
      exact h.releases migrator hmigrator
    · exact moves.passed_le hnames h.log (h.releases migrator hmigrator) (h.passed migrator hmigrator)
    · exact moves.current (h.current migrator hmigrator)
    · exact moves.finished_all (h.finished migrator hmigrator)
  | @committed index migrator changed file changes db found executed upcoming commits samefiles heard =>
    have hmigrator := List.mem_of_getElem? found
    obtain ⟨hcount, hfile, hscript⟩ := h.committed hnames hmigrator executed upcoming commits
    obtain ⟨hlength, -⟩ := List.getElem?_eq_some_iff.mp hfile
    have hlog := h.log.commit (hchecksums file (List.mem_of_getElem? hfile)) commits
    have htake : files.take (count + 1) = files.take count ++ [file] := by
      rw [List.take_add_one, hfile]
      rfl
    have hidle : changed.progress ≠ .finished ∧ ∀ rest changes, changed.progress ≠ .executing rest changes := by
      rcases heard with ⟨failure, rfl⟩ | ⟨-, -, hchecking⟩
      · simp [Migrator.fail]
      · simp [hchecking]
    refine ⟨count + 1, Nat.le_succ _, hlength, ?_, ?_, forall_mem_set h.releases ?_,
      forall_mem_set (fun other hother => (h.passed other hother).trans (Nat.le_succ _)) ?_,
      forall_mem_set (fun other hother hahead => ?_) ?_, forall_mem_set h.finished ?_, fun _ => ?_⟩
    · rw [htake]
      exact hlog
    · rw [htake, executeAll_concat h.contents]
      exact hscript
    · rw [samefiles]
      exact h.releases migrator hmigrator
    · rcases heard with ⟨failure, rfl⟩ | ⟨hpassed, -, -⟩
      · exact hcount.le.trans (Nat.le_succ _)
      · omega
    · exact absurd (h.passed other hother) (by omega)
    · exact fun _ rest changes hexecuting => absurd hexecuting (hidle.2 rest changes)
    · exact fun hfinished => absurd hfinished hidle.1
    · rw [(commitMigration_ok commits).2, Option.isSome_some]

/-- Nothing but the first files is accepted, and they are once the table is there. -/
theorem State.InOrder.verified_iff (hnames : (files.map (·.filename)).Nodup)
    (h : state.InOrder platform initial files count) {directory : List (String × String)}
    (hstarts : migrationFiles platform.sha256 directory <+: files) :
    (∃ result, verifyMigrations platform state.db directory = .ok result) ↔
      state.db.schemaMigrations.isSome = true ∧ migrationFiles platform.sha256 directory = files.take count := by
  rw [verifyMigrations_iff]
  constructor
  · rintro ⟨rows, hrows, hfiles, hknown⟩
    have hlog := h.log.rows
    rw [hrows, Option.getD_some] at hlog
    subst hlog
    refine ⟨by rw [hrows, Option.isSome_some], ?_⟩
    have htake := List.prefix_iff_eq_take.mp hstarts
    have hlow : ¬count < (migrationFiles platform.sha256 directory).length := by
      intro hlt
      obtain ⟨row, hrow, -⟩ := Option.map_eq_some_iff.mp (hfiles _ (List.getElem_mem hlt))
      have hname := List.find?_some hrow
      rw [decide_eq_true_eq] at hname
      have hrecorded := List.mem_map_of_mem (f := (·.filename)) (List.mem_of_find?_eq_some hrow)
      rw [hname, List.map_map] at hrecorded
      have hposition := getElem?_of_starts hstarts (List.getElem?_eq_getElem hlt)
      exact absurd ((recorded_iff hnames hposition).mp hrecorded) (Nat.lt_irrefl _)
    have hhigh : ¬(migrationFiles platform.sha256 directory).length < count := by
      intro hlt
      have hposition := List.getElem?_eq_getElem (hlt.trans_le h.count_le)
      have hrecorded := (recorded_iff hnames hposition).mpr hlt
      obtain ⟨file, hfile, hname⟩ := List.mem_map.mp hrecorded
      have hlisted := hknown file.row (List.mem_map_of_mem hfile)
      rw [htake] at hlisted
      change file.filename ∈ _ at hlisted
      rw [hname] at hlisted
      exact absurd ((recorded_iff hnames hposition).mp hlisted) (Nat.lt_irrefl _)
    rw [htake, Nat.le_antisymm (not_lt.mp hlow) (not_lt.mp hhigh)]
  · rintro ⟨hsome, htake⟩
    obtain ⟨rows, hrows⟩ := Option.isSome_iff_exists.mp hsome
    have hlog := h.log.rows
    rw [hrows, Option.getD_some] at hlog
    subst hlog
    refine ⟨_, hrows, fun file hfile => ?_, fun row hrow => ?_⟩
    · rw [htake] at hfile
      rw [find?_rows h.log.names hfile]
      rfl
    · obtain ⟨file, hfile, rfl⟩ := List.mem_map.mp hrow
      rw [htake]
      exact List.mem_map_of_mem hfile

theorem migrationFiles_names {sha256 : String → String} {directory : List (String × String)}
    (h : (directory.map Prod.fst).Nodup) : ((migrationFiles sha256 directory).map (·.filename)).Nodup := by
  rw [migrationFiles, List.map_map]
  have hperm := List.perm_insertionSort (fun first second : String × String => keyLe first.1 second.1)
    (directory.filter fun entry => isMigration entry.1)
  exact (hperm.map Prod.fst).nodup_iff.mpr (h.sublist (List.filter_sublist.map Prod.fst))

theorem run_sound (actions : List Action) (h : state.Sound platform ran) :
    ∃ more, (runs.run (step platform) state actions).Sound platform (ran ++ more) := by
  induction actions generalizing state ran with
  | nil => exact ⟨[], by rwa [List.append_nil]⟩
  | cons action rest ih =>
    obtain ⟨first, hfirst⟩ := h.of_moves (step_moves action)
    obtain ⟨later, hlater⟩ := ih hfirst
    exact ⟨first ++ later, by rwa [← List.append_assoc]⟩

theorem run_inOrder (hnames : (files.map (·.filename)).Nodup)
    (hchecksums : ∀ file ∈ files, file.checksum = platform.sha256 file.sql)
    (hreleases : ∀ directory, .start directory ∈ actions → migrationFiles platform.sha256 directory <+: files)
    (h : state.InOrder platform initial files count) :
    ∃ later, (runs.run (step platform) state actions).InOrder platform initial files later := by
  induction actions generalizing state count with
  | nil => exact ⟨count, h⟩
  | cons action rest ih =>
    obtain ⟨next, -, hnext⟩ := h.of_moves hnames (step_moves action) hchecksums
      fun directory hstart => hreleases directory (hstart ▸ List.mem_cons_self)
    exact ih (fun directory hstart => hreleases directory (List.mem_cons_of_mem action hstart)) hnext

theorem State.InOrder.start : State.InOrder platform initial files ⟨⟨none, initial⟩, []⟩ 0 :=
  ⟨Nat.zero_le _, ⟨rfl, List.nodup_nil, List.forall_mem_nil _⟩, rfl, List.forall_mem_nil _, List.forall_mem_nil _,
    List.forall_mem_nil _, List.forall_mem_nil _, fun h => absurd rfl h⟩

theorem State.Sound.start : State.Sound platform ⟨⟨none, initial⟩, []⟩ [] :=
  ⟨⟨rfl, List.nodup_nil, List.forall_mem_nil _⟩, List.forall_mem_nil _, List.forall_mem_nil _, List.nodup_nil,
    List.forall_mem_nil _⟩

/-- Files of one release that are told apart by their names are the same when their names
are. -/
private theorem eq_of_names {first second : List MigrationFile}
    (h : ∀ file ∈ first, ∀ other ∈ second, file.filename = other.filename → file = other)
    (hnames : first.map (·.filename) = second.map (·.filename)) : first = second := by
  induction first generalizing second with
  | nil => simpa using hnames.symm
  | cons file rest ih =>
    cases second with
    | nil => simp at hnames
    | cons other others =>
      rw [List.map_cons, List.map_cons, List.cons.injEq] at hnames
      rw [h file List.mem_cons_self other List.mem_cons_self hnames.1,
        ih (fun early hearly late hlate => h early (List.mem_cons_of_mem _ hearly) late (List.mem_cons_of_mem _ hlate))
          hnames.2]

/-- What was committed is what the first files are. -/
theorem State.InOrder.ran_eq (hnames : (files.map (·.filename)).Nodup) (h : state.InOrder platform initial files count)
    (hsound : state.Sound platform ran) : ran = files.take count := by
  have hrows := hsound.log.rows.symm.trans h.log.rows
  refine eq_of_names (fun file hfile other hother hname => ?_) ?_
  · obtain ⟨migrator, hmigrator, hlisted⟩ := hsound.origin file hfile
    exact List.inj_on_of_nodup_map hnames ((h.releases migrator hmigrator).subset hlisted) (List.mem_of_mem_take hother)
      hname
  · have hfilenames := congrArg (List.map AppliedMigration.filename) hrows
    rwa [List.map_map, List.map_map] at hfilenames

end Interleavings

/-- In every interleaving of the statements of any migrators, of whatever releases, that
fail or are stopped anywhere: the table names each migration once, with the hash of the
script that was committed; no migration is reported by two migrators; and what was
recorded stays. When the releases have only files that a latest one starts with, no two
migrations overlap: the database is what the recorded scripts make of it, run one after
another on what was committed before. -/
theorem migrations_run_once (initial : σ) (actions : List Action) :
    ∃ ran, (run platform initial actions).Sound platform ran ∧
      (∀ more, ∃ later, (run platform initial (actions ++ more)).Sound platform (ran ++ later)) ∧
      ∀ latest, (latest.map Prod.fst).Nodup →
        (∀ directory, .start directory ∈ actions →
          migrationFiles platform.sha256 directory <+: migrationFiles platform.sha256 latest) →
        executeAll platform initial ran = .ok (run platform initial actions).db.contents := by
  obtain ⟨ran, hran⟩ := @run_sound _ _ platform [] _ actions (@State.Sound.start _ _ platform initial)
  rw [List.nil_append] at hran
  refine ⟨ran, hran, fun more => ?_, fun latest hnames hreleases => ?_⟩
  · rw [run, runs.run_append]
    exact run_sound more hran
  · obtain ⟨count, hrun⟩ := run_inOrder (migrationFiles_names hnames) migrationFiles_checksum hreleases
      (@State.InOrder.start _ _ platform initial _)
    rw [hrun.ran_eq (migrationFiles_names hnames) hran]
    exact hrun.contents

/-- When the releases that run have only files that the latest one starts with, its files
are applied in their order, without a gap. `verifyMigrations` of a release passes exactly
when its files are the ones that are applied, and once a migrator of the latest release
has finished, the database is what all its files make of it, and stays verified. -/
theorem migrations_in_order {initial : σ} {actions : List Action} {latest : List (String × String)}
    (hnames : (latest.map Prod.fst).Nodup)
    (hreleases : ∀ directory, .start directory ∈ actions →
      migrationFiles platform.sha256 directory <+: migrationFiles platform.sha256 latest) :
    ∃ count, (run platform initial actions).InOrder platform initial (migrationFiles platform.sha256 latest) count ∧
      (∀ directory, migrationFiles platform.sha256 directory <+: migrationFiles platform.sha256 latest →
        ((∃ result, verifyMigrations platform (run platform initial actions).db directory = .ok result) ↔
          (run platform initial actions).db.schemaMigrations.isSome = true ∧
            migrationFiles platform.sha256 directory = (migrationFiles platform.sha256 latest).take count)) ∧
      ((∃ migrator ∈ (run platform initial actions).migrators,
          migrator.files = migrationFiles platform.sha256 latest ∧ migrator.progress = .finished) →
        executeAll platform initial (migrationFiles platform.sha256 latest) =
          .ok (run platform initial actions).db.contents ∧
        ∃ result, verifyMigrations platform (run platform initial actions).db latest = .ok result) := by
  have hfiles := @migrationFiles_names platform.sha256 latest hnames
  obtain ⟨count, hrun⟩ := run_inOrder hfiles migrationFiles_checksum hreleases
    (@State.InOrder.start _ _ platform initial _)
  refine ⟨count, hrun, fun directory hstarts => hrun.verified_iff hfiles hstarts, ?_⟩
  rintro ⟨migrator, hmigrator, hlatest, hfinished⟩
  have hpassed := hrun.finished migrator hmigrator hfinished
  have hle := hrun.passed migrator hmigrator
  rw [hlatest] at hpassed
  have hall : (migrationFiles platform.sha256 latest).take count = migrationFiles platform.sha256 latest :=
    List.take_of_length_le (hpassed.trans hle)
  have hcontents := hrun.contents
  rw [hall] at hcontents
  refine ⟨hcontents, (hrun.verified_iff hfiles List.prefix_rfl).mpr ⟨?_, hall.symm⟩⟩
  exact hrun.opened (List.ne_nil_of_mem hmigrator)

section Sample

/-- The statements of a script end with semicolons, and each of them names a table that
it adds. -/
private def samplePlatform : Platform (List String) (List String) where
  sha256 := id
  statements := fun sql => ((sql.toList.splitOn ';').map String.ofList).filter (· ≠ "")
  unchanged := []
  execute := fun tables changes statement =>
    if statement ∈ tables ++ changes then .error ⟨"42P07", "relation already exists"⟩ else .ok (changes ++ [statement])
  commit := fun tables changes => tables ++ changes

private def sampleRelease : List (String × String) :=
  [("002_callbacks.sql", "callbacks;"), ("README.md", "text"), ("001_core.sql", "accounts;core;")]

/-- Two migrators of the latest release and one of the release before it. The first two
execute the first file at once, and the second one loses the race. -/
private def sampleActions : List Action :=
  [.start sampleRelease, .start sampleRelease, .start [("001_core.sql", "accounts;core;")], .check 0, .check 1,
    .execute 0, .execute 1, .execute 1, .execute 0, .commit 0 .committed, .commit 1 .committed, .check 0, .check 2,
    .execute 0, .commit 0 .committed, .check 0, .check 2]

theorem migrations_in_order_sample :
    (run samplePlatform [] sampleActions).db.contents = ["accounts", "core", "callbacks"] ∧
      ∃ result,
        verifyMigrations samplePlatform (run samplePlatform [] sampleActions).db sampleRelease = .ok result := by
  have hfinished : ∃ migrator ∈ (run samplePlatform [] sampleActions).migrators,
      migrator.files = migrationFiles samplePlatform.sha256 sampleRelease ∧ migrator.progress = .finished := by
    decide +kernel
  have hstarts : ∀ directory, .start directory ∈ sampleActions →
      migrationFiles samplePlatform.sha256 directory <+: migrationFiles samplePlatform.sha256 sampleRelease := by
    intro directory hstart
    have hmem : directory ∈ [sampleRelease, sampleRelease, [("001_core.sql", "accounts;core;")]] := by
      simpa [sampleActions] using hstart
    have hall : ∀ directory ∈ [sampleRelease, sampleRelease, [("001_core.sql", "accounts;core;")]],
        migrationFiles samplePlatform.sha256 directory <+: migrationFiles samplePlatform.sha256 sampleRelease := by
      decide +kernel
    exact hall directory hmem
  obtain ⟨count, -, -, hlatest⟩ := @migrations_in_order _ _ samplePlatform [] sampleActions sampleRelease
    (by decide +kernel) hstarts
  obtain ⟨hcontents, hverified⟩ := hlatest hfinished
  exact ⟨(Except.ok.inj hcontents).symm, hverified⟩

end Sample

end rwa.migrations
