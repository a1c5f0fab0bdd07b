import Mathlib
import RwaControlPlane.Failure
import RwaControlPlane.Library.Checked
import RwaControlPlane.Library.JsObject
import RwaControlPlane.Library.JsonReading
import RwaControlPlane.Library.Runs

open checked js_value

namespace rwa.runtime_config

/-- `/^[0-9a-f]{64}$/` -/
def isKeyHex (text : String) : Bool :=
  text.toList.length = 64 && text.toList.all fun char => ('0' ≤ char && char ≤ '9') || ('a' ≤ char && char ≤ 'f')

/-- A key of 32 bytes, by its text. -/
structure Key where
  keyHex : String
  valid : isKeyHex keyHex = true
deriving DecidableEq

structure Config where
  envelopeCipherMode : String
  encryptionKeyHex : Option String
  allowLocalDevelopmentKey : Bool
  encryptionKeyId : String

/-- The text of a key file. -/
def keyFileText (keyId : String) (key : Key) : String :=
  String.ofList (jsonText (fun _ => "") (.object [("keyId", .string keyId), ("keyHex", .string key.keyHex)])) ++ "\n"

/-- What `JSON.parse` throws. -/
def syntaxError : Failure := ⟨"", "Unexpected token in JSON"⟩

/-- What reading a property of `null` throws. -/
def typeError : Failure := ⟨"", "Cannot read properties of null"⟩

def invalidKeyFile (message : String) : Failure := ⟨"INVALID_LOCAL_KEY_FILE", message⟩

section Files

variable (readNumber : String → Option Rat)

/-- The key of a file, read by a process with a key id. -/
def savedKey (keyId message text : String) : Except Failure Key := do
  let saved ← require (jsonParse readNumber text) syntaxError
  let savedId ← require (property saved "keyId") typeError
  throwIf (strictEquals savedId (.string keyId) = false) (invalidKeyFile message)
  let keyHex ← require ((property saved "keyHex").bind asText) (invalidKeyFile message)
  if valid : isKeyHex keyHex = true then pure ⟨keyHex, valid⟩ else .error (invalidKeyFile message)

/-- Where a call of `resolveEncryptionKey` stands. The key that it has drawn is held
while it is written. -/
inductive Phase
  | idle
  | creating
  | writing (key : Key)
  | rereading
  | returned (key : Key)
  | configured (keyHex : String)
  | failed (failure : Failure)
  | killed
deriving DecidableEq

def Phase.ofResult : Except Failure Key → Phase
  | .ok key => .returned key
  | .error failure => .failed failure

/-- The key file and the processes that share it. -/
structure State where
  file : Option String
  phase : Nat → Phase

def State.start : State where
  file := none
  phase := fun _ => .idle

def State.enter (state : State) (process : Nat) (phase : Phase) : State :=
  { state with phase := Function.update state.phase process phase }

/-- One step of a process. A file is created empty, and its text is written later. -/
inductive Action
  | read (process : Nat)
  | create (process : Nat) (key : Key)
  | write (process : Nat)
  | reread (process : Nat)
  | kill (process : Nat)

variable (config : Nat → Config)

def savedMessage : String := "local development key file is invalid or has a different key id"

def concurrentMessage : String := "local development key file is invalid after concurrent creation"

/-- `resolveEncryptionKey` up to its first read of the file. -/
def firstRead (config : Config) (file : Option String) : Phase :=
  if config.envelopeCipherMode ≠ "local" then
    .failed ⟨"LOCAL_KEY_MODE_REQUIRED", "raw encryption key resolution is limited to local envelope mode"⟩
  else
    match config.encryptionKeyHex.filter (· ≠ "") with
    | some keyHex => .configured keyHex
    | none =>
      if config.allowLocalDevelopmentKey = false then
        .failed ⟨"ENCRYPTION_KEY_REQUIRED", "encryption key is unavailable"⟩
      else
        match file with
        | none => .creating
        | some text => Phase.ofResult (savedKey readNumber config.encryptionKeyId savedMessage text)

def step (state : State) : Action → State
  | .read process =>
    match state.phase process with
    | .idle => state.enter process (firstRead readNumber (config process) state.file)
    | _ => state
  | .create process key =>
    match state.phase process with
    | .creating =>
      match state.file with
      | none => { state with file := some "" }.enter process (.writing key)
      | some _ => state.enter process .rereading
    | _ => state
  | .write process =>
    match state.phase process with
    | .writing key =>
      { state with file := some (keyFileText (config process).encryptionKeyId key) }.enter process (.returned key)
    | _ => state
  | .reread process =>
    match state.phase process, state.file with
    | .rereading, some text =>
      state.enter process
        (Phase.ofResult (savedKey readNumber (config process).encryptionKeyId concurrentMessage text))
    | _, _ => state
  | .kill process =>
    match state.phase process with
    | .returned _ => state
    | _ => state.enter process .killed

/-- The state after a run of steps, before which there is no file. -/
def run (actions : List Action) : State :=
  runs.run (step readNumber config) State.start actions

end Files

variable {readNumber : String → Option Rat} {keyId message : String} {key : Key}

private theorem parse_keyFileText : jsonParse readNumber (keyFileText keyId key) =
    some (.object [("keyId", .string keyId), ("keyHex", .string key.keyHex)]) := by
  have hjson : IsJson ∅ (.object [("keyId", .string keyId), ("keyHex", .string key.keyHex)]) := by
    refine .object (by simp) fun member hmember => ?_
    obtain rfl | hmember := List.mem_cons.mp hmember
    · exact .string
    · obtain rfl := List.mem_singleton.mp hmember
      exact .string
  have hnewline : "\n" = String.ofList ['\n'] := by decide
  rw [keyFileText, hnewline, ← String.ofList_append]
  refine parse_jsonText hjson fun char hchar => ?_
  rw [List.mem_singleton.mp hchar]
  decide

private theorem strictEquals_string {value : JsValue} {text : String}
    (h : strictEquals value (.string text) = true) : value = .string text := by
  cases value with
  | string other => exact congrArg JsValue.string (of_decide_eq_true h)
  | _ => cases h

theorem savedKey_eq_ok_iff {text : String} : savedKey readNumber keyId message text = .ok key ↔
    ∃ saved, jsonParse readNumber text = some saved ∧ property saved "keyId" = some (.string keyId) ∧
      (property saved "keyHex").bind asText = some key.keyHex := by
  constructor
  · intro h
    simp only [savedKey, bind_eq_ok_iff, exists_unit, throwIf_eq_ok_iff, require_eq_ok_iff, Bool.not_eq_false] at h
    obtain ⟨saved, hparsed, savedId, hid, hsame, keyHex, hhex, hkey⟩ := h
    split at hkey
    · cases hkey
      refine ⟨saved, hparsed, ?_, hhex⟩
      rw [hid, strictEquals_string hsame]
    · cases hkey
  · rintro ⟨saved, hparsed, hid, hhex⟩
    have hsame : ¬strictEquals (.string keyId) (.string keyId) = false := by simp [strictEquals]
    simp only [savedKey, bind_eq_ok_iff, exists_unit, throwIf_eq_ok_iff, require_eq_ok_iff]
    exact ⟨saved, hparsed, _, hid, hsame, key.keyHex, hhex, dif_pos key.valid⟩

/-- A key that was written is read back by every process with the key id. -/
theorem savedKey_keyFileText : savedKey readNumber keyId message (keyFileText keyId key) = .ok key :=
  savedKey_eq_ok_iff.mpr ⟨_, parse_keyFileText, rfl, rfl⟩

/-- An empty file holds no key. -/
theorem savedKey_empty : savedKey readNumber keyId message "" = .error syntaxError := rfl

/-- What is read of a file depends on its text alone. -/
theorem savedKey_inj {keyId' message' text : String} {key' : Key}
    (h : savedKey readNumber keyId message text = .ok key) (h' : savedKey readNumber keyId' message' text = .ok key') :
    key = key' ∧ keyId = keyId' := by
  obtain ⟨saved, hparsed, hid, hhex⟩ := savedKey_eq_ok_iff.mp h
  obtain ⟨saved', hparsed', hid', hhex'⟩ := savedKey_eq_ok_iff.mp h'
  obtain rfl := Option.some.inj (hparsed.symm.trans hparsed')
  obtain rfl := JsValue.string.inj (Option.some.inj (hid.symm.trans hid'))
  obtain ⟨keyHex, valid⟩ := key
  obtain ⟨keyHex', valid'⟩ := key'
  obtain rfl := Option.some.inj (hhex.symm.trans hhex')
  exact ⟨rfl, rfl⟩

variable {config : Nat → Config} {state : State} {action : Action}

/-- The process that writes is the one that has created the file, and a key that was
returned is the one that the file holds. -/
structure Sound (readNumber : String → Option Rat) (config : Nat → Config) (state : State) : Prop where
  writing : ∀ process key, state.phase process = .writing key →
    state.file = some "" ∧ ∀ other key', state.phase other = .writing key' → other = process
  returned : ∀ process key, state.phase process = .returned key →
    ∃ text message, state.file = some text ∧
      savedKey readNumber (config process).encryptionKeyId message text = .ok key

private theorem phase_enter {process other : Nat} {phase : Phase} : (state.enter process phase).phase other =
    if other = process then phase else state.phase other := by
  unfold State.enter
  exact Function.update_apply state.phase process phase other

/-- A process may go on to any phase in which it neither writes nor returns a key that
the file does not hold. -/
private theorem sound_enter {process : Nat} {phase : Phase} (hsound : Sound readNumber config state)
    (hwriting : ∀ key, phase ≠ .writing key)
    (hreturned : ∀ key, phase = .returned key →
      ∃ text message, state.file = some text ∧
        savedKey readNumber (config process).encryptionKeyId message text = .ok key) :
    Sound readNumber config (state.enter process phase) := by
  constructor
  · intro writer key hwriter
    rw [phase_enter] at hwriter
    split at hwriter
    · exact absurd hwriter (hwriting key)
    · obtain ⟨hfile, honly⟩ := hsound.writing writer key hwriter
      refine ⟨hfile, fun other key' hother => ?_⟩
      rw [phase_enter] at hother
      split at hother
      · exact absurd hother (hwriting key')
      · exact honly other key' hother
  · intro returner key hreturner
    rw [phase_enter] at hreturner
    split at hreturner
    · next heq => exact heq ▸ hreturned key hreturner
    · exact hsound.returned returner key hreturner

private theorem ofResult_eq_returned {result : Except Failure Key} {key : Key}
    (h : Phase.ofResult result = .returned key) : result = .ok key := by
  cases result with
  | ok found => exact congrArg Except.ok (Phase.returned.inj h)
  | error failure => cases h

private theorem ofResult_ne_writing {result : Except Failure Key} {key : Key} :
    Phase.ofResult result ≠ .writing key := by
  cases result with
  | ok found => exact Phase.noConfusion
  | error failure => exact Phase.noConfusion

private theorem firstRead_facts {settings : Config} {file : Option String} {key : Key} :
    firstRead readNumber settings file ≠ .writing key ∧
      (firstRead readNumber settings file = .returned key →
        ∃ text message, file = some text ∧ savedKey readNumber settings.encryptionKeyId message text = .ok key) := by
  unfold firstRead
  split
  · exact ⟨Phase.noConfusion, fun h => Phase.noConfusion h⟩
  · split
    · exact ⟨Phase.noConfusion, fun h => Phase.noConfusion h⟩
    · split
      · exact ⟨Phase.noConfusion, fun h => Phase.noConfusion h⟩
      · split
        · exact ⟨Phase.noConfusion, fun h => Phase.noConfusion h⟩
        · next text => exact ⟨ofResult_ne_writing, fun h => ⟨text, _, rfl, ofResult_eq_returned h⟩⟩

/-- The file was not there, so nobody else writes it and nobody has read it. -/
private theorem sound_create {process : Nat} (hsound : Sound readNumber config state) (hfile : state.file = none) :
    Sound readNumber config ({ state with file := some "" }.enter process (.writing key)) := by
  constructor
  · intro writer key' hwriter
    refine ⟨rfl, fun other key'' hother => ?_⟩
    rw [phase_enter] at hwriter hother
    split at hother
    · next hprocess =>
      split at hwriter
      · next hwriterProcess => exact hprocess.trans hwriterProcess.symm
      · exact absurd ((hsound.writing writer key' hwriter).1.symm.trans hfile) (Option.some_ne_none _)
    · exact absurd ((hsound.writing other key'' hother).1.symm.trans hfile) (Option.some_ne_none _)
  · intro returner key' hreturner
    rw [phase_enter] at hreturner
    split at hreturner
    · cases hreturner
    · obtain ⟨text, message, htext, -⟩ := hsound.returned returner key' hreturner
      exact absurd (htext.symm.trans hfile) (Option.some_ne_none _)

/-- The file was empty, so nobody has read a key from it. -/
private theorem sound_write {process : Nat} (hsound : Sound readNumber config state)
    (hkey : state.phase process = .writing key) :
    Sound readNumber config
      ({ state with file := some (keyFileText (config process).encryptionKeyId key) }.enter process
        (.returned key)) := by
  obtain ⟨hempty, honly⟩ := hsound.writing process key hkey
  constructor
  · intro writer key' hwriter
    rw [phase_enter] at hwriter
    split at hwriter
    · cases hwriter
    · next hother => exact absurd (honly writer key' hwriter) hother
  · intro returner key' hreturner
    rw [phase_enter] at hreturner
    split at hreturner
    · next heq =>
      obtain rfl := Phase.returned.inj hreturner
      exact ⟨_, "", rfl, heq ▸ savedKey_keyFileText⟩
    · obtain ⟨text, message, htext, hread⟩ := hsound.returned returner key' hreturner
      obtain rfl := Option.some.inj (htext.symm.trans hempty)
      rw [savedKey_empty] at hread
      cases hread

private theorem firstRead_local {settings : Config} {text : String} (hmode : settings.envelopeCipherMode = "local")
    (hconfigured : settings.encryptionKeyHex = none) (hallowed : settings.allowLocalDevelopmentKey = true) :
    firstRead readNumber settings (some text) =
      Phase.ofResult (savedKey readNumber settings.encryptionKeyId savedMessage text) := by
  unfold firstRead
  rw [if_neg (not_not.mpr hmode), hconfigured, hallowed]
  rfl

theorem sound_step (hsound : Sound readNumber config state) :
    Sound readNumber config (step readNumber config state action) := by
  cases action with
  | read process =>
    rw [step]
    split
    · exact sound_enter hsound (fun key => firstRead_facts.1) fun key => firstRead_facts.2
    · exact hsound
  | create process key =>
    rw [step]
    split
    · split
      · next hfile =>
        exact sound_create hsound hfile
      · exact sound_enter hsound (fun key => Phase.noConfusion) fun key h => Phase.noConfusion h
    · exact hsound
  | write process =>
    rw [step]
    split
    · next key hkey => exact sound_write hsound hkey
    · exact hsound
  | reread process =>
    rw [step]
    split
    · next text _ hfile =>
      exact sound_enter hsound (fun key => ofResult_ne_writing) fun key h =>
        ⟨text, _, hfile, ofResult_eq_returned h⟩
    · exact hsound
  | kill process =>
    rw [step]
    split
    · exact hsound
    · exact sound_enter hsound (fun key => Phase.noConfusion) fun key h => Phase.noConfusion h

theorem sound_run (readNumber : String → Option Rat) (config : Nat → Config) (actions : List Action) :
    Sound readNumber config (run readNumber config actions) :=
  runs.run_invariant ⟨fun _ _ h => Phase.noConfusion h, fun _ _ h => Phase.noConfusion h⟩
    (fun _ _ hsound => sound_step hsound) actions

/-- A process that has returned a key is done. -/
private theorem returned_step {process : Nat} (hreturned : state.phase process = .returned key) :
    (step readNumber config state action).phase process = .returned key := by
  have hother : ∀ {other : Nat} {phase : Phase}, (∀ key', state.phase other ≠ .returned key') →
      (state.enter other phase).phase process = .returned key := by
    intro other phase hne
    have hdistinct : process ≠ other := by
      rintro rfl
      exact hne key hreturned
    rw [phase_enter, if_neg hdistinct]
    exact hreturned
  cases action with
  | read other =>
    rw [step]
    split
    · next hphase => exact hother fun key' h => Phase.noConfusion (hphase.symm.trans h)
    · exact hreturned
  | create other key' =>
    rw [step]
    split
    · next hphase =>
      split
      · exact hother fun key' h => Phase.noConfusion (hphase.symm.trans h)
      · exact hother fun key' h => Phase.noConfusion (hphase.symm.trans h)
    · exact hreturned
  | write other =>
    rw [step]
    split
    · next hphase => exact hother fun key' h => Phase.noConfusion (hphase.symm.trans h)
    · exact hreturned
  | reread other =>
    rw [step]
    split
    · next hphase _ => exact hother fun key' h => Phase.noConfusion (hphase.symm.trans h)
    · exact hreturned
  | kill other =>
    rw [step]
    split
    · exact hreturned
    · next hphase => exact hother hphase

/-- A file with a key is never written again. -/
private theorem file_step {text : String} (hsound : Sound readNumber config state) (hfile : state.file = some text)
    (hread : savedKey readNumber keyId message text = .ok key) :
    (step readNumber config state action).file = some text := by
  cases action with
  | read process =>
    rw [step]
    split <;> exact hfile
  | create process key' =>
    rw [step]
    split
    · rw [hfile]
      exact hfile
    · exact hfile
  | write process =>
    rw [step]
    split
    · next key' hkey =>
      obtain rfl := Option.some.inj (hfile.symm.trans (hsound.writing process key' hkey).1)
      rw [savedKey_empty] at hread
      cases hread
    · exact hfile
  | reread process =>
    rw [step]
    split <;> exact hfile
  | kill process =>
    rw [step]
    split <;> exact hfile

/-- Once the file is empty and its writer is gone, it stays empty. -/
private theorem abandoned_step (hfile : state.file = some "")
    (hwriting : ∀ process key, state.phase process ≠ .writing key) :
    (step readNumber config state action).file = some "" ∧
      ∀ process key, (step readNumber config state action).phase process ≠ .writing key := by
  have henter : ∀ {other : Nat} {phase : Phase}, (∀ key, phase ≠ .writing key) →
      (state.enter other phase).file = some "" ∧
        ∀ process key, (state.enter other phase).phase process ≠ .writing key := by
    intro other phase hphase
    refine ⟨hfile, fun process key => ?_⟩
    rw [phase_enter]
    split
    · exact hphase key
    · exact hwriting process key
  cases action with
  | read process =>
    rw [step]
    split
    · exact henter fun key => firstRead_facts.1
    · exact ⟨hfile, hwriting⟩
  | create process key =>
    rw [step]
    split
    · rw [hfile]
      exact henter fun key => Phase.noConfusion
    · exact ⟨hfile, hwriting⟩
  | write process =>
    rw [step]
    split
    · next key hkey => exact absurd hkey (hwriting process key)
    · exact ⟨hfile, hwriting⟩
  | reread process =>
    rw [step]
    split
    · exact henter fun key => ofResult_ne_writing
    · exact ⟨hfile, hwriting⟩
  | kill process =>
    rw [step]
    split
    · exact ⟨hfile, hwriting⟩
    · exact henter fun key => Phase.noConfusion

/-- Processes that resolve the local key at the same time, under any interleaving and
with any of them killed, agree: those that return a key return the same one under the
same key id. It stays in the file, and every process with the key id that starts later
returns it too. -/
theorem local_keys_agree (readNumber : String → Option Rat) (config : Nat → Config) (actions : List Action) :
    (∀ first second key key', (run readNumber config actions).phase first = .returned key →
      (run readNumber config actions).phase second = .returned key' →
        key = key' ∧ (config first).encryptionKeyId = (config second).encryptionKeyId) ∧
    ∀ process key, (run readNumber config actions).phase process = .returned key → ∀ later,
      (run readNumber config (actions ++ later)).phase process = .returned key ∧
      (run readNumber config (actions ++ later)).file = (run readNumber config actions).file ∧
      ∀ other, (run readNumber config (actions ++ later)).phase other = .idle →
        (config other).envelopeCipherMode = "local" → (config other).encryptionKeyHex = none →
        (config other).allowLocalDevelopmentKey = true →
        (config other).encryptionKeyId = (config process).encryptionKeyId →
          (run readNumber config (actions ++ later ++ [.read other])).phase other = .returned key := by
  have hsound := sound_run readNumber config actions
  constructor
  · intro first second key key' hfirst hsecond
    obtain ⟨text, message, htext, hread⟩ := hsound.returned first key hfirst
    obtain ⟨text', message', htext', hread'⟩ := hsound.returned second key' hsecond
    obtain rfl := Option.some.inj (htext.symm.trans htext')
    exact savedKey_inj hread hread'
  · intro process key hreturned later
    obtain ⟨text, message, htext, hread⟩ := hsound.returned process key hreturned
    have hlater : Sound readNumber config (run readNumber config (actions ++ later)) ∧
        (run readNumber config (actions ++ later)).phase process = .returned key ∧
        (run readNumber config (actions ++ later)).file = some text := by
      unfold run
      rw [runs.run_append]
      exact @runs.run_invariant _ _ _ _
        (fun state : State =>
          Sound readNumber config state ∧ state.phase process = .returned key ∧ state.file = some text)
        ⟨hsound, hreturned, htext⟩
        (fun _ _ h => ⟨sound_step h.1, returned_step h.2.1, file_step h.1 h.2.2 hread⟩) later
    obtain ⟨-, hkept, hfile⟩ := hlater
    refine ⟨hkept, hfile.trans htext.symm, fun other hidle hmode hconfigured hallowed hid => ?_⟩
    have hagain : savedKey readNumber (config other).encryptionKeyId savedMessage text = .ok key := by
      rw [hid]
      exact savedKey_eq_ok_iff.mpr (savedKey_eq_ok_iff.mp hread)
    rw [run.eq_def, runs.run_concat, step, ← run.eq_def, hidle]
    dsimp only
    rw [phase_enter, if_pos rfl, hfile, firstRead_local hmode hconfigured hallowed, hagain]
    rfl

/-- If the process that has created the file is killed before it writes the key, no
process returns a key from then on. -/
theorem abandoned_file_blocks {readNumber : String → Option Rat} {config : Nat → Config} {actions : List Action}
    (hfile : (run readNumber config actions).file = some "")
    (hwriting : ∀ process key, (run readNumber config actions).phase process ≠ .writing key) (later : List Action)
    (process : Nat) (key : Key) : (run readNumber config (actions ++ later)).phase process ≠ .returned key := by
  have hlater : (run readNumber config (actions ++ later)).file = some "" := by
    unfold run
    rw [runs.run_append]
    exact (@runs.run_invariant _ _ _ _
      (fun state : State => state.file = some "" ∧ ∀ process key, state.phase process ≠ .writing key) ⟨hfile, hwriting⟩
      (fun _ _ h => abandoned_step h.1 h.2) later).1
  intro hreturned
  have hsound := sound_run readNumber config (actions ++ later)
  obtain ⟨text, message, htext, hread⟩ := hsound.returned process key hreturned
  obtain rfl := Option.some.inj (hlater.symm.trans htext)
  rw [savedKey_empty] at hread
  cases hread

section Sample

private def zeroKeyHex : String := String.ofList (List.replicate 64 '0')

private theorem zeroKeyHex_valid : isKeyHex zeroKeyHex = true := by decide +kernel

private def zeroKey : Key := ⟨zeroKeyHex, zeroKeyHex_valid⟩

private def localConfig : Config where
  envelopeCipherMode := "local"
  encryptionKeyHex := none
  allowLocalDevelopmentKey := true
  encryptionKeyId := "local-dev"

/-- The process that has created the file is killed. -/
private def killedActions : List Action := [.read 0, .create 0 zeroKey, .kill 0]

/-- The next process that starts returns no key. -/
theorem abandoned_file_blocks_sample :
    (run (fun _ => none) (fun _ => localConfig) (killedActions ++ [.read 1])).phase 1 ≠ .returned zeroKey := by
  have hphase : (run (fun _ => none) (fun _ => localConfig) killedActions).phase =
      Function.update (Function.update (Function.update (fun _ => .idle) 0 .creating) 0 (.writing zeroKey)) 0
        .killed := rfl
  refine abandoned_file_blocks rfl (fun process key => ?_) [.read 1] 1 zeroKey
  rw [hphase]
  simp only [Function.update_apply]
  split
  · exact Phase.noConfusion
  · exact Phase.noConfusion

end Sample

end rwa.runtime_config
