import Mathlib
import RwaControlPlane.Failure
import RwaControlPlane.Library.Checked
import RwaControlPlane.Library.JsObject
import RwaControlPlane.Library.JsonReading
import RwaControlPlane.Library.Runs

open js_value

namespace rwa.snarkjs

def maxVerifierOutputBytes : Nat := 64 * 1024

/-- What the parent process hears, in any order. A child that was killed by a signal has
no exit code. -/
inductive Event
  | timeout
  | stdout (chunk : String)
  | stderr (chunk : String)
  | childError
  | stdinError
  | close (code : Option Int)
deriving DecidableEq

/-- What becomes of the promise. A handler that throws neither settles it nor leaves it
pending: nothing catches the error, which ends the process. -/
inductive Outcome
  | pending
  | resolved (verified : Bool)
  | rejected (failure : Failure)
  | thrown (failure : Failure)
deriving DecidableEq

structure State where
  stdout : String
  stderr : String
  killed : Bool
  outcome : Outcome

def State.start : State := ⟨"", "", false, .pending⟩

/-- `finish` -/
def State.finish (state : State) (outcome : Outcome) : State :=
  match state.outcome with
  | .pending => { state with outcome }
  | _ => state

def processFailure (message : String) : Failure := ⟨"SNARKJS_VERIFIER_PROCESS_FAILURE", message⟩

def outputLimit : Failure := ⟨"SNARKJS_VERIFIER_OUTPUT_LIMIT", "isolated verifier exceeded its output limit"⟩

/-- What a closed process has answered. -/
def answer (readNumber : String → Option Rat) (numberText : Rat → String) (stdout stderr : String)
    (code : Option Int) : Outcome :=
  match jsonParse readNumber stdout with
  | none =>
    .rejected
      ⟨"SNARKJS_VERIFIER_INVALID_RESPONSE",
        "isolated verifier returned an invalid response" ++
          if stderr = "" then "" else ": " ++ String.ofList (stderr.toList.take 200)⟩
  | some response =>
    match property response "error" with
    | none => .thrown ⟨"", "Cannot read properties of null (reading 'error')"⟩
    | some error =>
      if code ≠ some 0 ∨ isTruthy error = true then
        .rejected (processFailure
          (if strictEquals error .undefined ∨ strictEquals error .null then "isolated verifier failed"
            else stringOf numberText invalidDate error))
      else .resolved (strictEquals ((property response "verified").getD .undefined) (.bool true))

/-- The limit on what a stream has written, which kills the child and rejects. -/
def State.bounded (state : State) (text : String) : State :=
  if maxVerifierOutputBytes < text.utf8ByteSize then
    { state with killed := true }.finish (.rejected outputLimit)
  else state

variable (readNumber : String → Option Rat) (numberText : Rat → String)

def step (state : State) : Event → State
  | .timeout =>
    { state with killed := true }.finish
      (.rejected ⟨"SNARKJS_VERIFIER_TIMEOUT", "isolated Groth16 verifier timed out"⟩)
  | .stdout chunk => { state with stdout := state.stdout ++ chunk }.bounded (state.stdout ++ chunk)
  | .stderr chunk => { state with stderr := state.stderr ++ chunk }.bounded (state.stderr ++ chunk)
  | .childError => state.finish (.rejected (processFailure "failed to start isolated Groth16 verifier"))
  | .stdinError => state.finish (.rejected (processFailure "failed to send the isolated verification request"))
  | .close code => state.finish (answer readNumber numberText state.stdout state.stderr code)

/-- The state after the events. -/
def run (events : List Event) : State :=
  runs.run (step readNumber numberText) State.start events

/-- What an event adds to the output of the child. -/
def Event.stdoutChunk : Event → String
  | .stdout chunk => chunk
  | _ => ""

def Event.stderrChunk : Event → String
  | .stderr chunk => chunk
  | _ => ""

/-- What the child has written. -/
def stdoutOf (events : List Event) : String := (events.map Event.stdoutChunk).foldl (· ++ ·) ""

def stderrOf (events : List Event) : String := (events.map Event.stderrChunk).foldl (· ++ ·) ""

def Event.IsOutput : Event → Prop
  | .stdout _ | .stderr _ => True
  | _ => False

/-- The child has done nothing but write, and not too much. -/
structure Quiet (events : List Event) : Prop where
  outputs : ∀ event ∈ events, event.IsOutput
  stdout : (stdoutOf events).utf8ByteSize ≤ maxVerifierOutputBytes
  stderr : (stderrOf events).utf8ByteSize ≤ maxVerifierOutputBytes

variable {readNumber : String → Option Rat} {numberText : Rat → String} {state : State} {events : List Event}
  {event : Event}

theorem stdoutOf_concat : stdoutOf (events ++ [event]) = stdoutOf events ++ event.stdoutChunk := by
  rw [stdoutOf, List.map_append, List.foldl_append]
  rfl

theorem stderrOf_concat : stderrOf (events ++ [event]) = stderrOf events ++ event.stderrChunk := by
  rw [stderrOf, List.map_append, List.foldl_append]
  rfl

private theorem quiet_concat : Quiet (events ++ [event]) ↔ Quiet events ∧ event.IsOutput ∧
    (stdoutOf events ++ event.stdoutChunk).utf8ByteSize ≤ maxVerifierOutputBytes ∧
    (stderrOf events ++ event.stderrChunk).utf8ByteSize ≤ maxVerifierOutputBytes := by
  constructor
  · rintro ⟨houtputs, hstdout, hstderr⟩
    rw [stdoutOf_concat] at hstdout
    rw [stderrOf_concat] at hstderr
    have hsmall := hstdout
    have hsmallErr := hstderr
    rw [String.utf8ByteSize_append] at hsmall hsmallErr
    refine ⟨⟨fun other hother => houtputs other (List.mem_append_left _ hother), by omega, by omega⟩,
      houtputs event (by simp), hstdout, hstderr⟩
  · rintro ⟨hquiet, houtput, hstdout, hstderr⟩
    refine ⟨fun other hother => ?_, by rwa [stdoutOf_concat], by rwa [stderrOf_concat]⟩
    obtain hold | hnew := List.mem_append.mp hother
    · exact hquiet.outputs other hold
    · rw [List.mem_singleton.mp hnew]
      exact houtput

private theorem finish_outputs {outcome : Outcome} :
    (state.finish outcome).stdout = state.stdout ∧ (state.finish outcome).stderr = state.stderr := by
  unfold State.finish
  split
  · exact ⟨rfl, rfl⟩
  · exact ⟨rfl, rfl⟩

private theorem bounded_outputs {text : String} :
    (state.bounded text).stdout = state.stdout ∧ (state.bounded text).stderr = state.stderr := by
  unfold State.bounded
  split
  · exact finish_outputs
  · exact ⟨rfl, rfl⟩

private theorem outputs_step : (step readNumber numberText state event).stdout = state.stdout ++ event.stdoutChunk ∧
    (step readNumber numberText state event).stderr = state.stderr ++ event.stderrChunk := by
  cases event with
  | timeout => simpa [step, Event.stdoutChunk, Event.stderrChunk] using finish_outputs
  | stdout chunk => simpa [step, Event.stdoutChunk, Event.stderrChunk] using bounded_outputs
  | stderr chunk => simpa [step, Event.stdoutChunk, Event.stderrChunk] using bounded_outputs
  | childError => simpa [step, Event.stdoutChunk, Event.stderrChunk] using finish_outputs
  | stdinError => simpa [step, Event.stdoutChunk, Event.stderrChunk] using finish_outputs
  | close code => simpa [step, Event.stdoutChunk, Event.stderrChunk] using finish_outputs

/-- The parent holds what the child has written. -/
theorem outputs_run : (run readNumber numberText events).stdout = stdoutOf events ∧
    (run readNumber numberText events).stderr = stderrOf events := by
  induction events using List.reverseRecOn with
  | nil => exact ⟨rfl, rfl⟩
  | append_singleton events event ih =>
    obtain ⟨hstdout, hstderr⟩ := @outputs_step readNumber numberText (run readNumber numberText events) event
    rw [run, runs.run_concat, stdoutOf_concat, stderrOf_concat, ← ih.1, ← ih.2]
    exact ⟨hstdout, hstderr⟩

private theorem finish_settled {outcome : Outcome} (h : state.outcome ≠ .pending) :
    (state.finish outcome).outcome = state.outcome := by
  unfold State.finish
  split
  · next hpending => exact absurd hpending h
  · rfl

/-- A promise is settled once. -/
theorem settled_step (h : state.outcome ≠ .pending) :
    (step readNumber numberText state event).outcome = state.outcome := by
  have hbounded : ∀ {other : State} {text : String}, other.outcome = state.outcome →
      (other.bounded text).outcome = state.outcome := by
    intro other text hsame
    unfold State.bounded
    split
    · exact (@finish_settled { other with killed := true } _ (hsame ▸ h)).trans hsame
    · exact hsame
  cases event with
  | timeout => exact @finish_settled { state with killed := true } _ h
  | stdout chunk => exact hbounded rfl
  | stderr chunk => exact hbounded rfl
  | childError => exact finish_settled h
  | stdinError => exact finish_settled h
  | close code => exact finish_settled h

private theorem finish_pending {outcome : Outcome} (h : state.outcome = .pending) :
    (state.finish outcome).outcome = outcome := by
  unfold State.finish
  rw [h]

private theorem bounded_pending {text : String} (h : state.outcome = .pending) :
    (state.bounded text).outcome =
      if maxVerifierOutputBytes < text.utf8ByteSize then .rejected outputLimit else .pending := by
  unfold State.bounded
  split
  · exact @finish_pending { state with killed := true } _ h
  · exact h

private theorem answer_ne_pending {stdout stderr : String} {code : Option Int} :
    answer readNumber numberText stdout stderr code ≠ .pending := by
  unfold answer
  split
  · exact Outcome.noConfusion
  · split
    · exact Outcome.noConfusion
    · split
      · exact Outcome.noConfusion
      · exact Outcome.noConfusion

private theorem pending_bounded {text : String} (h : state.outcome = .pending) :
    (state.bounded text).outcome = .pending ↔ text.utf8ByteSize ≤ maxVerifierOutputBytes := by
  rw [bounded_pending h]
  split
  · next hlarge => exact ⟨Outcome.noConfusion, fun hsmall => absurd hlarge (Nat.not_lt.mpr hsmall)⟩
  · next hsmall => exact ⟨fun _ => Nat.not_lt.mp hsmall, fun _ => rfl⟩

private theorem pending_step (h : state.outcome = .pending)
    (hstdout : state.stdout.utf8ByteSize ≤ maxVerifierOutputBytes)
    (hstderr : state.stderr.utf8ByteSize ≤ maxVerifierOutputBytes) :
    (step readNumber numberText state event).outcome = .pending ↔ event.IsOutput ∧
      (state.stdout ++ event.stdoutChunk).utf8ByteSize ≤ maxVerifierOutputBytes ∧
      (state.stderr ++ event.stderrChunk).utf8ByteSize ≤ maxVerifierOutputBytes := by
  have hsettles : ∀ {outcome : Outcome} {other : State}, other.outcome = .pending → outcome ≠ .pending →
      (other.finish outcome).outcome ≠ .pending := by
    intro outcome other hother hne
    rw [finish_pending hother]
    exact hne
  cases event with
  | timeout => exact iff_of_false (@hsettles _ { state with killed := true } h Outcome.noConfusion) fun hall => hall.1
  | stdout chunk =>
    have hsame : (state.stderr ++ "").utf8ByteSize ≤ maxVerifierOutputBytes := by
      rw [String.append_empty]
      exact hstderr
    exact (@pending_bounded { state with stdout := state.stdout ++ chunk } _ h).trans
      ⟨fun hsmall => ⟨trivial, hsmall, hsame⟩, fun hall => hall.2.1⟩
  | stderr chunk =>
    have hsame : (state.stdout ++ "").utf8ByteSize ≤ maxVerifierOutputBytes := by
      rw [String.append_empty]
      exact hstdout
    exact (@pending_bounded { state with stderr := state.stderr ++ chunk } _ h).trans
      ⟨fun hsmall => ⟨trivial, hsame, hsmall⟩, fun hall => hall.2.2⟩
  | childError => exact iff_of_false (hsettles h Outcome.noConfusion) fun hall => hall.1
  | stdinError => exact iff_of_false (hsettles h Outcome.noConfusion) fun hall => hall.1
  | close code => exact iff_of_false (hsettles h answer_ne_pending) fun hall => hall.1

/-- The promise is pending exactly while the child writes within the limits. -/
theorem pending_iff : (run readNumber numberText events).outcome = .pending ↔ Quiet events := by
  induction events using List.reverseRecOn with
  | nil => exact ⟨fun _ => ⟨fun _ h => absurd h List.not_mem_nil, Nat.zero_le _, Nat.zero_le _⟩, fun _ => rfl⟩
  | append_singleton events event ih =>
    obtain ⟨hstdout, hstderr⟩ := @outputs_run readNumber numberText events
    rw [run, runs.run_concat, ← run, quiet_concat, ← ih]
    by_cases hpending : (run readNumber numberText events).outcome = .pending
    · have hquiet := ih.mp hpending
      rw [pending_step hpending (hstdout ▸ hquiet.stdout) (hstderr ▸ hquiet.stderr), hstdout, hstderr]
      exact (and_iff_right hpending).symm
    · rw [settled_step hpending]
      exact ⟨fun h => absurd h hpending, fun h => h.1⟩

/-- A child that was not stopped has answered, in what it has written before it closed. -/
def Answered (readNumber : String → Option Rat) (events : List Event) (verified : Bool) : Prop :=
  ∃ before after response error, events = before ++ .close (some 0) :: after ∧ Quiet before ∧
    jsonParse readNumber (stdoutOf before) = some response ∧ property response "error" = some error ∧
    isTruthy error = false ∧ verified = strictEquals ((property response "verified").getD .undefined) (.bool true)

private theorem answer_resolved {stdout stderr : String} {code : Option Int} {verified : Bool} :
    answer readNumber numberText stdout stderr code = .resolved verified ↔
      ∃ response error, code = some 0 ∧ jsonParse readNumber stdout = some response ∧
        property response "error" = some error ∧ isTruthy error = false ∧
        verified = strictEquals ((property response "verified").getD .undefined) (.bool true) := by
  unfold answer
  cases hparsed : jsonParse readNumber stdout with
  | none =>
    refine ⟨Outcome.noConfusion, ?_⟩
    rintro ⟨response, error, -, hfound, -⟩
    cases hfound
  | some response =>
    cases herror : property response "error" with
    | none =>
      simp only [herror]
      refine ⟨Outcome.noConfusion, ?_⟩
      rintro ⟨other, error, -, hfound, hproperty, -⟩
      cases hfound
      rw [herror] at hproperty
      cases hproperty
    | some error =>
      simp only [herror]
      by_cases hrejects : code ≠ some 0 ∨ isTruthy error = true
      · rw [if_pos hrejects]
        refine ⟨Outcome.noConfusion, ?_⟩
        rintro ⟨other, error', hcode, hfound, hproperty, hfalsy, -⟩
        cases hfound
        obtain rfl := Option.some.inj (herror.symm.trans hproperty)
        obtain hfailed | htruthy := hrejects
        · exact absurd hcode hfailed
        · rw [hfalsy] at htruthy
          cases htruthy
      · rw [if_neg hrejects]
        rw [not_or, not_not, Bool.not_eq_true] at hrejects
        constructor
        · intro h
          exact ⟨response, error, hrejects.1, rfl, herror, hrejects.2, (Outcome.resolved.inj h).symm⟩
        · rintro ⟨other, error', -, hfound, -, -, rfl⟩
          cases hfound
          rfl

/-- An event that settles a pending promise with a verdict is a close after an answer. -/
private theorem resolved_step {verified : Bool} (h : state.outcome = .pending) :
    (step readNumber numberText state event).outcome = .resolved verified ↔
      ∃ code, event = .close code ∧
        answer readNumber numberText state.stdout state.stderr code = .resolved verified := by
  have hbounded : ∀ {other : State} {text : String}, other.outcome = .pending →
      (other.bounded text).outcome ≠ .resolved verified := by
    intro other text hother
    rw [bounded_pending hother]
    split
    · exact Outcome.noConfusion
    · exact Outcome.noConfusion
  have hrejected : ∀ {other : State} {failure : Failure}, other.outcome = .pending →
      (other.finish (.rejected failure)).outcome ≠ .resolved verified := by
    intro other failure hother
    rw [finish_pending hother]
    exact Outcome.noConfusion
  cases event with
  | timeout => exact iff_of_false (@hrejected { state with killed := true } _ h) (by simp)
  | stdout chunk => exact iff_of_false (@hbounded { state with stdout := state.stdout ++ chunk } _ h) (by simp)
  | stderr chunk => exact iff_of_false (@hbounded { state with stderr := state.stderr ++ chunk } _ h) (by simp)
  | childError => exact iff_of_false (hrejected h) (by simp)
  | stdinError => exact iff_of_false (hrejected h) (by simp)
  | close code =>
    rw [step, finish_pending h]
    constructor
    · intro hanswer
      exact ⟨code, rfl, hanswer⟩
    · rintro ⟨other, hsame, hanswer⟩
      cases hsame
      exact hanswer

private theorem resolved_iff {verified : Bool} :
    (run readNumber numberText events).outcome = .resolved verified ↔ Answered readNumber events verified := by
  induction events using List.reverseRecOn with
  | nil =>
    refine ⟨Outcome.noConfusion, ?_⟩
    rintro ⟨before, after, response, error, hevents, -⟩
    simp at hevents
  | append_singleton events event ih =>
    obtain ⟨hstdout, hstderr⟩ := @outputs_run readNumber numberText events
    have hpast : Answered readNumber events verified → Answered readNumber (events ++ [event]) verified := by
      rintro ⟨before, after, response, error, rfl, hanswered⟩
      exact ⟨before, after ++ [event], response, error, by simp, hanswered⟩
    rw [run, runs.run_concat, ← run]
    by_cases hpending : (run readNumber numberText events).outcome = .pending
    · rw [resolved_step hpending, hstdout, hstderr]
      constructor
      · rintro ⟨code, rfl, hanswer⟩
        obtain ⟨response, error, rfl, hanswered⟩ := answer_resolved.mp hanswer
        exact ⟨events, [], response, error, rfl, pending_iff.mp hpending, hanswered⟩
      · rintro ⟨before, after, response, error, hevents, hquiet, hanswered⟩
        obtain ⟨rfl, hlast⟩ | ⟨rest, rfl⟩ := runs.split_concat hevents
        · exact ⟨some 0, hlast.symm, answer_resolved.mpr ⟨response, error, rfl, hanswered⟩⟩
        · have hresolved := ih.mpr ⟨before, rest, response, error, rfl, hquiet, hanswered⟩
          rw [hpending] at hresolved
          cases hresolved
    · rw [settled_step hpending, ih]
      refine ⟨hpast, ?_⟩
      rintro ⟨before, after, response, error, hevents, hquiet, hanswered⟩
      obtain ⟨rfl, -⟩ | ⟨rest, rfl⟩ := runs.split_concat hevents
      · exact absurd (pending_iff.mpr hquiet) hpending
      · exact ⟨before, rest, response, error, rfl, hquiet, hanswered⟩

/-- What the child writes once the proof was checked. -/
def verdictText (verified : Bool) : String :=
  String.ofList (jsonText (fun _ => "") (.object [("verified", .bool verified)]))

private theorem parse_verdictText {verified : Bool} :
    jsonParse readNumber (verdictText verified) = some (.object [("verified", .bool verified)]) := by
  have hjson : IsJson ∅ (.object [("verified", .bool verified)]) := by
    refine .object (by simp) fun member hmember => ?_
    obtain rfl := List.mem_singleton.mp hmember
    exact .bool
  rw [verdictText, ← List.append_nil (jsonText _ _)]
  exact parse_jsonText hjson fun char hchar => absurd hchar List.not_mem_nil

/-- The first event that settles the promise of a verification decides it. It resolves
to a verdict exactly if the child wrote the verdict within the limits and then closed
without an error, before any timeout, failure or excess of output. The verdict of the
child is understood however its text is cut into chunks. -/
theorem verification_settles_once (readNumber : String → Option Rat) (numberText : Rat → String)
    (events : List Event) :
    (∀ verified,
      (run readNumber numberText events).outcome = .resolved verified ↔ Answered readNumber events verified) ∧
    ((run readNumber numberText events).outcome = .pending ↔ Quiet events) ∧
    (∀ later, (run readNumber numberText events).outcome ≠ .pending →
      (run readNumber numberText (events ++ later)).outcome = (run readNumber numberText events).outcome) ∧
    ∀ verified, Quiet events → stdoutOf events = verdictText verified →
      (run readNumber numberText (events ++ [.close (some 0)])).outcome = .resolved verified := by
  refine ⟨fun verified => resolved_iff, pending_iff, fun later hsettled => ?_, fun verified hquiet htext => ?_⟩
  · rw [run, runs.run_append, ← run]
    have hkept : ∀ {state : State}, state.outcome = (run readNumber numberText events).outcome → ∀ event,
        (step readNumber numberText state event).outcome = (run readNumber numberText events).outcome := by
      intro state hsame event
      rw [settled_step (hsame ▸ hsettled), hsame]
    exact @runs.run_invariant _ _ _ _
      (fun state : State => state.outcome = (run readNumber numberText events).outcome) rfl
      (fun _ event hsame => hkept hsame event) later
  · refine resolved_iff.mpr ⟨events, [], _, .undefined, rfl, hquiet, htext ▸ parse_verdictText, rfl, rfl, ?_⟩
    cases verified <;> rfl

end rwa.snarkjs
