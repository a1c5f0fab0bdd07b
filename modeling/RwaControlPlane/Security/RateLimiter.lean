import Mathlib.Algebra.Order.Group.Int
import Mathlib.Data.Finset.Dedup
import Mathlib.Data.Finset.Order
import RwaControlPlane.Library.FixedWindow
import RwaControlPlane.Library.JsMap
import RwaControlPlane.Library.Runs

open fixed_window js_map

namespace rwa.security

/-- Times are milliseconds. -/
structure Window where
  startedAt : Int
  count : Nat
deriving DecidableEq

/-- The error of a call that is not admitted. -/
structure RateLimited where
  message : String
  retryAfterSeconds : Option Int
deriving DecidableEq

/-- A limiter, with what its constructor checks. -/
structure FixedWindowRateLimiter where
  limit : Nat
  windowMs : Int
  maxKeys : Nat
  positive : 1 ≤ limit
  oneSecond : 1000 ≤ windowMs

variable {κ : Type} [DecidableEq κ] (limiter : FixedWindowRateLimiter)

def Window.Expired (current : Int) (window : Window) : Prop := limiter.windowMs ≤ current - window.startedAt

instance (current : Int) (window : Window) : Decidable (window.Expired limiter current) :=
  inferInstanceAs (Decidable (_ ≤ _))

/-- `#evictExpired` -/
def evictExpired (current : Int) (windows : JsMap κ Window) : JsMap κ Window where
  entries := windows.entries.filter fun entry => ¬entry.2.Expired limiter current
  nodup := windows.nodup.sublist (List.filter_sublist.map Prod.fst)

/-- Count a call in the window of its key. A call beyond the limit is counted too. -/
def count (current : Int) (key : κ) (window : Window) (windows : JsMap κ Window) :
    Except RateLimited Unit × JsMap κ Window :=
  let counted := { window with count := window.count + 1 }
  let verdict :=
    if limiter.limit < counted.count then
      .error
        { message := "request rate limit exceeded; retry later"
          retryAfterSeconds := some (max 1 (-((current - (window.startedAt + limiter.windowMs)) / 1000))) }
    else .ok ()
  (verdict, windows.set key counted)

/-- `consume`, at a reading of the clock. The windows stay as they have become when the
call is not admitted. -/
def consume (current : Int) (key : κ) (windows : JsMap κ Window) : Except RateLimited Unit × JsMap κ Window :=
  match windows.get key with
  | some window =>
    if window.Expired limiter current then count limiter current key ⟨current, 0⟩ windows
    else count limiter current key window windows
  | none =>
    let kept := if limiter.maxKeys ≤ windows.entries.length then evictExpired limiter current windows else windows
    if limiter.maxKeys ≤ kept.entries.length then
      (.error { message := "too many concurrent clients; retry shortly", retryAfterSeconds := none }, kept)
    else count limiter current key ⟨current, 0⟩ kept

/-- A call of `consume`, and the time that the clock reads. -/
structure Call (κ : Type) where
  now : Int
  key : κ

/-- The windows, and the admissions so far. -/
structure LimiterState (κ : Type) where
  windows : JsMap κ Window
  log : List (Admission κ Int)

def LimiterState.initial : LimiterState κ := ⟨empty, []⟩

/-- What a call answers, and the windows after it. -/
def respond (state : LimiterState κ) (call : Call κ) : Except RateLimited Unit × JsMap κ Window :=
  consume limiter call.now call.key state.windows

/-- A call that is admitted is logged with the window that counts it. -/
def step (state : LimiterState κ) (call : Call κ) : LimiterState κ :=
  match respond limiter state call with
  | (.ok _, windows) =>
    { windows
      log := state.log ++
        [⟨call.key, call.now, ((windows.get call.key).map Window.startedAt).getD call.now⟩] }
  | (.error _, windows) => { state with windows }

def run (calls : List (Call κ)) : LimiterState κ := runs.run (step limiter) LimiterState.initial calls

/-- The calls of a key that are still admitted at a time. A new key needs room. -/
def remaining (current : Int) (key : κ) (windows : JsMap κ Window) : Nat :=
  match windows.get key with
  | some window => if window.Expired limiter current then limiter.limit else limiter.limit - window.count
  | none => if limiter.maxKeys ≤ (evictExpired limiter current windows).entries.length then 0 else limiter.limit

variable {limiter} {windows : JsMap κ Window} {current : Int} {key other : κ} {window : Window}

section Windows

theorem get_evictExpired : (evictExpired limiter current windows).get key = some window ↔
    windows.get key = some window ∧ ¬window.Expired limiter current := by
  rw [← mem_entries, ← mem_entries, evictExpired, List.mem_filter, decide_eq_true_iff]

/-- A key that is tracked keeps its place. -/
private theorem countP_assign {entries : List (κ × Window)} {value : Window} {selected : κ × Window → Bool}
    (h : js_map.lookup key entries = some window) (hsame : selected (key, value) = selected (key, window)) :
    (assign key value entries).countP selected = entries.countP selected := by
  induction entries with
  | nil => cases h
  | cons entry rest ih =>
    obtain ⟨first, held⟩ := entry
    by_cases hkey : first = key
    · subst hkey
      rw [js_map.lookup, if_pos rfl] at h
      obtain rfl := Option.some.inj h
      rw [assign, if_pos rfl, List.countP_cons, List.countP_cons, hsame]
    · rw [js_map.lookup, if_neg hkey] at h
      rw [assign, if_neg hkey, List.countP_cons, List.countP_cons, ih h]

private theorem length_set_of_get {value : Window} (h : windows.get key = some window) :
    (windows.set key value).entries.length = windows.entries.length := by
  have hcount := @countP_assign _ _ _ _ _ value (fun _ => true) h rfl
  rw [List.countP_true] at hcount
  exact hcount

private theorem length_assign_le {entries : List (κ × Window)} {value : Window} :
    (assign key value entries).length ≤ entries.length + 1 := by
  induction entries with
  | nil => simp [assign]
  | cons entry rest ih =>
    rw [assign]
    split
    · simp
    · simpa using ih

/-- As many windows are in use after a call was counted. -/
private theorem length_evictExpired_set {value : Window} (h : windows.get key = some window)
    (hstarted : value.startedAt = window.startedAt) :
    (evictExpired limiter current (windows.set key value)).entries.length =
      (evictExpired limiter current windows).entries.length := by
  have hsame : value.Expired limiter current ↔ window.Expired limiter current := by
    rw [Window.Expired, Window.Expired, hstarted]
  simp only [evictExpired, ← List.countP_eq_length_filter]
  exact countP_assign h (by simp [hsame])

omit [DecidableEq κ] in
/-- At capacity nothing is evicted, or there is room. -/
private theorem evictExpired_of_full (hbound : windows.entries.length ≤ limiter.maxKeys)
    (hfull : limiter.maxKeys ≤ (evictExpired limiter current windows).entries.length) :
    evictExpired limiter current windows = windows := by
  refine JsMap.ext (List.filter_sublist.eq_of_length_le ?_)
  exact le_trans hbound hfull

end Windows

section Calls

variable {state : LimiterState κ} {call : Call κ}

/-- The window that counts a call, and the windows that it is one of. -/
structure Counts (limiter : FixedWindowRateLimiter) (state : LimiterState κ) (call : Call κ) (kept : JsMap κ Window)
    (window : Window) : Prop where
  source : kept = state.windows ∨
    state.windows.get call.key = none ∧ kept = evictExpired limiter call.now state.windows
  room : state.windows.get call.key = none → kept.entries.length < limiter.maxKeys
  opened : (state.windows.get call.key = some window ∧ ¬window.Expired limiter call.now ∧ kept = state.windows) ∨
    (window = ⟨call.now, 0⟩ ∧ ∀ held, state.windows.get call.key = some held → held.Expired limiter call.now)

/-- A call finds no room, or is counted. -/
theorem respond_cases (hbound : state.windows.entries.length ≤ limiter.maxKeys) :
    (state.windows.get call.key = none ∧
      limiter.maxKeys ≤ (evictExpired limiter call.now state.windows).entries.length ∧
      ∃ failure, respond limiter state call = (.error failure, state.windows)) ∨
      ∃ kept window, Counts limiter state call kept window ∧
        respond limiter state call = count limiter call.now call.key window kept := by
  unfold respond consume
  cases hheld : state.windows.get call.key with
  | some window =>
    dsimp only
    split
    · next hexpired =>
      refine Or.inr ⟨_, _, ⟨Or.inl rfl, fun hnone => ?_, Or.inr ⟨rfl, fun held hsome => ?_⟩⟩, rfl⟩
      · rw [hheld] at hnone
        cases hnone
      · obtain rfl := Option.some.inj (hheld.symm.trans hsome)
        exact hexpired
    · next hcurrent =>
      refine Or.inr ⟨_, window, ⟨Or.inl rfl, fun hnone => ?_, Or.inl ⟨hheld, hcurrent, rfl⟩⟩, rfl⟩
      rw [hheld] at hnone
      cases hnone
  | none =>
    have hfresh : ∀ held, state.windows.get call.key = some held → held.Expired limiter call.now := by
      intro held hsome
      rw [hheld] at hsome
      cases hsome
    dsimp only
    by_cases hcapacity : limiter.maxKeys ≤ state.windows.entries.length
    · rw [if_pos hcapacity]
      split
      · next hfull =>
        exact Or.inl ⟨rfl, hfull, _, congrArg _ (evictExpired_of_full hbound hfull)⟩
      · next hroom =>
        exact Or.inr ⟨_, _, ⟨Or.inr ⟨hheld, rfl⟩, fun _ => not_le.mp hroom, Or.inr ⟨rfl, hfresh⟩⟩, rfl⟩
    · rw [if_neg hcapacity, if_neg hcapacity]
      exact Or.inr ⟨_, _, ⟨Or.inl rfl, fun _ => not_le.mp hcapacity, Or.inr ⟨rfl, hfresh⟩⟩, rfl⟩

theorem Counts.get_kept {kept : JsMap κ Window} {held : Window} (h : Counts limiter state call kept window)
    (hget : kept.get key = some held) : state.windows.get key = some held := by
  obtain rfl | ⟨-, rfl⟩ := h.source
  · exact hget
  · exact (get_evictExpired.mp hget).1

/-- Only windows that have ended are dropped. -/
theorem Counts.dropped {kept : JsMap κ Window} {held : Window} (h : Counts limiter state call kept window)
    (hget : state.windows.get key = some held) (hkept : kept.get key = none) : held.Expired limiter call.now := by
  obtain rfl | ⟨-, rfl⟩ := h.source
  · rw [hget] at hkept
    cases hkept
  · by_contra hcurrent
    rw [get_evictExpired.mpr ⟨hget, hcurrent⟩] at hkept
    cases hkept

theorem Counts.length_le {kept : JsMap κ Window} {value : Window} (h : Counts limiter state call kept window)
    (hbound : state.windows.entries.length ≤ limiter.maxKeys) :
    (kept.set call.key value).entries.length ≤ limiter.maxKeys := by
  cases hget : state.windows.get call.key with
  | none => exact length_assign_le.trans (h.room hget)
  | some held =>
    obtain rfl | ⟨hnone, -⟩ := h.source
    · rw [length_set_of_get hget]
      exact hbound
    · rw [hget] at hnone
      cases hnone

/-- What a counted call does: its window counts one more, and it is admitted while
there is room in the window. -/
private theorem step_of_counts {kept : JsMap κ Window}
    (h : respond limiter state call = count limiter call.now call.key window kept) :
    step limiter state call =
      { windows := kept.set call.key { window with count := window.count + 1 }
        log :=
          if window.count + 1 ≤ limiter.limit then state.log ++ [⟨call.key, call.now, window.startedAt⟩]
          else state.log } := by
  by_cases hroom : window.count + 1 ≤ limiter.limit
  · simp [step, h, count, hroom, not_lt.mpr hroom]
  · simp [step, h, count, hroom, not_le.mp hroom]

end Calls

section Bounds

/-- What holds of the windows and the admissions at a reading of the clock. -/
structure Bounded (limiter : FixedWindowRateLimiter) (current : Int) (state : LimiterState κ) : Prop where
  keys : state.windows.entries.length ≤ limiter.maxKeys
  windowed : Windowed limiter.windowMs state.log
  limited : ∀ key startedAt, inWindow state.log key startedAt ≤ limiter.limit
  started : ∀ key window, state.windows.get key = some window → window.startedAt ≤ current
  counted : ∀ key window, state.windows.get key = some window →
    inWindow state.log key window.startedAt ≤ window.count
  tracked : ∀ admission ∈ state.log, ∀ window, state.windows.get admission.key = some window →
    admission.startedAt = window.startedAt ∨ admission.startedAt + limiter.windowMs ≤ window.startedAt
  untracked : ∀ admission ∈ state.log, state.windows.get admission.key = none →
    admission.startedAt + limiter.windowMs ≤ current

variable {state : LimiterState κ} {call : Call κ} {kept : JsMap κ Window}

theorem bounded_initial : Bounded limiter current (LimiterState.initial : LimiterState κ) where
  keys := Nat.zero_le _
  windowed := ⟨nofun, nofun⟩
  limited _ _ := Nat.zero_le _
  started := nofun
  counted := nofun
  tracked := nofun
  untracked := nofun

theorem Bounded.later {now : Int} (h : Bounded limiter current state) (hlater : current ≤ now) :
    Bounded limiter now state :=
  { h with
    started := fun key window hget => (h.started key window hget).trans hlater
    untracked := fun admission hmem hget => (h.untracked admission hmem hget).trans hlater }

/-- The window of a call, against the admissions of its key so far. -/
private structure Opens (limiter : FixedWindowRateLimiter) (state : LimiterState κ) (call : Call κ)
    (window : Window) : Prop where
  started : window.startedAt ≤ call.now
  current : call.now < window.startedAt + limiter.windowMs
  counted : inWindow state.log call.key window.startedAt ≤ window.count
  apart : ∀ admission ∈ state.log, admission.key = call.key →
    admission.startedAt = window.startedAt ∨ admission.startedAt + limiter.windowMs ≤ window.startedAt

private theorem Bounded.opens (h : Bounded limiter call.now state) (hcounts : Counts limiter state call kept window) :
    Opens limiter state call window := by
  have hwidth := limiter.oneSecond
  obtain ⟨hget, hcurrent, -⟩ | ⟨rfl, hexpired⟩ := hcounts.opened
  · unfold Window.Expired at hcurrent
    exact
      { started := h.started _ _ hget
        current := by omega
        counted := h.counted _ _ hget
        apart := fun admission hmem hkey => h.tracked admission hmem window (hkey ▸ hget) }
  · -- every window of the key has ended
    have hended : ∀ admission ∈ state.log, admission.key = call.key →
        admission.startedAt + limiter.windowMs ≤ call.now := by
      intro admission hmem hkey
      cases hget : state.windows.get call.key with
      | none => exact h.untracked admission hmem (hkey ▸ hget)
      | some held =>
        have hheld := hexpired held hget
        have hbefore := h.tracked admission hmem held (hkey ▸ hget)
        unfold Window.Expired at hheld
        omega
    have hnone : inWindow state.log call.key call.now = 0 := by
      rw [inWindow, List.countP_eq_zero]
      intro admission hmem hsame
      have := hended admission hmem (of_decide_eq_true hsame).1
      have := (of_decide_eq_true hsame).2
      omega
    exact
      { started := le_refl _
        current := by dsimp only; omega
        counted := hnone.le
        apart := fun admission hmem hkey => Or.inr (hended admission hmem hkey) }

/-- An admission that is logged in a window with room keeps the bounds of the log. -/
private theorem Bounded.log_admission (h : Bounded limiter call.now state) (hopens : Opens limiter state call window)
    (hroom : window.count + 1 ≤ limiter.limit) :
    Windowed limiter.windowMs (state.log ++ [⟨call.key, call.now, window.startedAt⟩]) ∧
      ∀ key startedAt, inWindow (state.log ++ [⟨call.key, call.now, window.startedAt⟩]) key startedAt ≤
        limiter.limit := by
  refine ⟨⟨?_, ?_⟩, ?_⟩
  · intro admission hmem
    obtain hold | rfl := List.mem_append.mp hmem |>.imp id List.mem_singleton.mp
    · exact h.windowed.within admission hold
    · exact ⟨hopens.started, hopens.current⟩
  · intro first hfirst second hsecond hkey
    obtain hold | rfl := List.mem_append.mp hfirst |>.imp id List.mem_singleton.mp
    · obtain hold' | rfl := List.mem_append.mp hsecond |>.imp id List.mem_singleton.mp
      · exact h.windowed.apart first hold second hold' hkey
      · exact (hopens.apart first hold hkey).imp id Or.inl
    · obtain hold' | rfl := List.mem_append.mp hsecond |>.imp id List.mem_singleton.mp
      · exact (hopens.apart second hold' hkey.symm).imp Eq.symm Or.inr
      · exact Or.inl rfl
  · intro key startedAt
    rw [inWindow, List.countP_append, List.countP_singleton]
    split
    · next hsame =>
      obtain ⟨rfl, rfl⟩ := of_decide_eq_true hsame
      exact (Nat.add_le_add_right hopens.counted 1).trans hroom
    · exact h.limited key startedAt

/-- The bounds of a log that has at most one admission more, with the windows of the
state after the call. -/
private theorem Bounded.counts (h : Bounded limiter call.now state) (hcounts : Counts limiter state call kept window) :
    Bounded limiter call.now
      { windows := kept.set call.key { window with count := window.count + 1 }
        log :=
          if window.count + 1 ≤ limiter.limit then state.log ++ [⟨call.key, call.now, window.startedAt⟩]
          else state.log } := by
  have hopens := h.opens hcounts
  have hmember : ∀ admission ∈
      (if window.count + 1 ≤ limiter.limit then state.log ++ [⟨call.key, call.now, window.startedAt⟩] else state.log),
      admission ∈ state.log ∨ admission = ⟨call.key, call.now, window.startedAt⟩ := by
    intro admission hmem
    split at hmem
    · exact List.mem_append.mp hmem |>.imp id List.mem_singleton.mp
    · exact Or.inl hmem
  constructor
  case keys => exact hcounts.length_le h.keys
  case windowed =>
    dsimp only
    split
    · next hroom => exact (h.log_admission hopens hroom).1
    · exact h.windowed
  case limited =>
    dsimp only
    split
    · next hroom => exact (h.log_admission hopens hroom).2
    · exact h.limited
  case started =>
    intro key held hget
    rw [get_set] at hget
    split at hget
    · obtain rfl := Option.some.inj hget
      exact hopens.started
    · exact h.started key held (hcounts.get_kept hget)
  case counted =>
    intro key held hget
    rw [get_set] at hget
    split at hget
    · next hkey =>
      subst hkey
      obtain rfl := Option.some.inj hget
      dsimp only
      split
      · rw [inWindow, List.countP_append]
        exact Nat.add_le_add hopens.counted List.countP_le_length
      · exact hopens.counted.trans (Nat.le_succ _)
    · next hkey =>
      have hold := h.counted key held (hcounts.get_kept hget)
      dsimp only
      split
      · rw [inWindow, List.countP_append, List.countP_singleton, if_neg (by simp [Ne.symm hkey])]
        exact hold
      · exact hold
  case tracked =>
    intro admission hmem held hget
    rw [get_set] at hget
    obtain hold | rfl := hmember admission hmem
    · split at hget
      · next hkey =>
        obtain rfl := Option.some.inj hget
        exact hopens.apart admission hold hkey
      · exact h.tracked admission hold held (hcounts.get_kept hget)
    · rw [if_pos rfl] at hget
      obtain rfl := Option.some.inj hget
      exact Or.inl rfl
  case untracked =>
    intro admission hmem hget
    rw [get_set] at hget
    obtain hold | rfl := hmember admission hmem
    · split at hget
      · cases hget
      · cases hstate : state.windows.get admission.key with
        | none => exact h.untracked admission hold hstate
        | some held =>
          have hended := hcounts.dropped hstate hget
          have hbefore := h.tracked admission hold held hstate
          have hwidth := limiter.oneSecond
          unfold Window.Expired at hended
          omega
    · rw [if_pos rfl] at hget
      cases hget

theorem Bounded.step (h : Bounded limiter call.now state) :
    Bounded limiter call.now (step limiter state call) := by
  obtain ⟨-, -, failure, hrespond⟩ | ⟨kept, window, hcounts, hrespond⟩ :=
    @respond_cases _ _ limiter state call h.keys
  · rw [security.step, hrespond]
    exact h
  · rw [step_of_counts hrespond]
    exact h.counts hcounts

/-- The bounds hold after every run of calls at readings of the clock that do not
decrease. -/
theorem run_bounded {calls : List (Call κ)} (hclock : (calls.map Call.now).Pairwise (· ≤ ·))
    (hcurrent : ∀ call ∈ calls, call.now ≤ current) : Bounded limiter current (run limiter calls) := by
  induction calls using List.reverseRecOn generalizing current with
  | nil => exact bounded_initial
  | append_singleton calls call ih =>
    rw [List.map_append, List.pairwise_append] at hclock
    obtain ⟨hbefore, -, hlast⟩ := hclock
    have hcall : Bounded limiter call.now (run limiter calls) := by
      refine ih hbefore fun earlier hmem => ?_
      exact hlast _ (List.mem_map_of_mem hmem) _ (List.mem_singleton_self _)
    rw [run, runs.run_concat]
    exact hcall.step.later (hcurrent call (by simp))

end Bounds

section Allowance

variable {state : LimiterState κ} {call : Call κ} {kept : JsMap κ Window}

/-- A window that has not ended stays through every call. -/
theorem step_window (h : Bounded limiter call.now state) (hget : state.windows.get key = some window)
    (hcurrent : ¬window.Expired limiter call.now) :
    ∃ later, (step limiter state call).windows.get key = some later ∧ later.startedAt = window.startedAt ∧
      window.count ≤ later.count := by
  obtain ⟨-, -, failure, hrespond⟩ | ⟨kept, opened, hcounts, hrespond⟩ :=
    @respond_cases _ _ limiter state call h.keys
  · rw [step, hrespond]
    exact ⟨window, hget, rfl, le_refl _⟩
  · rw [step_of_counts hrespond]
    dsimp only
    rw [get_set]
    split
    · next hkey =>
      subst hkey
      obtain ⟨hheld, -⟩ | ⟨-, hexpired⟩ := hcounts.opened
      · obtain rfl := Option.some.inj (hget.symm.trans hheld)
        exact ⟨_, rfl, rfl, Nat.le_succ _⟩
      · exact absurd (hexpired window hget) hcurrent
    · cases hkept : kept.get key with
      | none => exact absurd (hcounts.dropped hget hkept) hcurrent
      | some later =>
        obtain rfl := Option.some.inj (hget.symm.trans (hcounts.get_kept hkept))
        exact ⟨window, rfl, rfl, le_refl _⟩

/-- A call that is not admitted finds no room for its key, or its key has used up a
window that has not ended. -/
theorem rejected_cases {failure : RateLimited} (h : Bounded limiter call.now state)
    (hrejected : (respond limiter state call).1 = .error failure) :
    (respond limiter state call).2 = state.windows ∨
      ∃ window value, state.windows.get call.key = some window ∧ value.startedAt = window.startedAt ∧
        (respond limiter state call).2 = state.windows.set call.key value := by
  obtain ⟨-, -, found, hrespond⟩ | ⟨kept, window, hcounts, hrespond⟩ :=
    @respond_cases _ _ limiter state call h.keys
  · rw [hrespond]
    exact Or.inl rfl
  · rw [hrespond] at hrejected ⊢
    obtain ⟨hget, -, rfl⟩ | ⟨rfl, -⟩ := hcounts.opened
    · exact Or.inr ⟨window, { window with count := window.count + 1 }, hget, rfl, rfl⟩
    · -- the first call of a window is always admitted
      have hadmits : ¬limiter.limit < 0 + 1 := by
        have := limiter.positive
        omega
      rw [count, if_neg hadmits] at hrejected
      cases hrejected

theorem step_windows : (step limiter state call).windows = (respond limiter state call).2 := by
  unfold step
  split
  · next hrespond => rw [hrespond]
  · next hrespond => rw [hrespond]

/-- A call that is not admitted leaves what the other keys may still use, at any time. -/
theorem rejected_remaining {failure : RateLimited} {time : Int} (h : Bounded limiter call.now state)
    (hrejected : (respond limiter state call).1 = .error failure) (hother : other ≠ call.key) :
    remaining limiter time other (step limiter state call).windows = remaining limiter time other state.windows := by
  rw [step_windows]
  obtain hsame | ⟨window, value, hget, hstarted, hset⟩ := rejected_cases h hrejected
  · rw [hsame]
  · rw [hset, remaining, remaining, get_set_of_ne hother, length_evictExpired_set hget hstarted]

/-- The next call of a key is admitted while something remains. -/
theorem admitted_iff :
    (respond limiter state call).1 = .ok () ↔ 0 < remaining limiter call.now call.key state.windows := by
  have hpositive := limiter.positive
  have hfirst : ¬limiter.limit < 0 + 1 := by omega
  unfold respond consume remaining
  cases hget : state.windows.get call.key with
  | some window =>
    dsimp only
    split
    · simp only [count, if_neg hfirst]
      exact iff_of_true trivial hpositive
    · by_cases hroom : limiter.limit < window.count + 1
      · simp only [count, if_pos hroom]
        exact iff_of_false nofun (by omega)
      · simp only [count, if_neg hroom]
        exact iff_of_true trivial (by omega)
  | none =>
    dsimp only
    by_cases hcapacity : limiter.maxKeys ≤ state.windows.entries.length
    · rw [if_pos hcapacity]
      split
      · exact iff_of_false nofun (by simp)
      · simp only [count, if_neg hfirst]
        exact iff_of_true trivial hpositive
    · have hroom : ¬limiter.maxKeys ≤ (evictExpired limiter call.now state.windows).entries.length :=
        fun hfull => hcapacity (hfull.trans (List.length_filter_le _ _))
      rw [if_neg hcapacity, if_neg hcapacity, if_neg hroom]
      simp only [count, if_neg hfirst]
      exact iff_of_true trivial hpositive

theorem remaining_le {time : Int} : remaining limiter time key windows ≤ limiter.limit := by
  unfold remaining
  split
  · split
    · exact le_refl _
    · exact Nat.sub_le _ _
  · split
    · exact Nat.zero_le _
    · exact le_refl _

/-- With no room for a new key at some later time, no window has ended by then. -/
private theorem current_of_full {time : Int} (h : Bounded limiter call.now state)
    (hfull : limiter.maxKeys ≤ (evictExpired limiter time state.windows).entries.length)
    (hget : state.windows.get key = some window) : ¬window.Expired limiter time := by
  rw [← evictExpired_of_full h.keys hfull] at hget
  exact (get_evictExpired.mp hget).2

private theorem current_of_later {time : Int} (htime : current ≤ time) (h : ¬window.Expired limiter time) :
    ¬window.Expired limiter current := by
  unfold Window.Expired at h ⊢
  omega

/-- With no room for a new key at some later time, a call leaves no room either. -/
private theorem full_of_counts {time : Int} (h : Bounded limiter call.now state)
    (hcounts : Counts limiter state call kept window) (htime : call.now ≤ time)
    (hfull : limiter.maxKeys ≤ (evictExpired limiter time state.windows).entries.length) :
    limiter.maxKeys ≤
      (evictExpired limiter time
        (kept.set call.key { window with count := window.count + 1 })).entries.length := by
  cases hget : state.windows.get call.key with
  | none =>
    have hroom := hcounts.room hget
    have hmany : limiter.maxKeys ≤ state.windows.entries.length := hfull.trans (List.length_filter_le _ _)
    obtain rfl | ⟨-, rfl⟩ := hcounts.source
    · omega
    · have hsame : (evictExpired limiter call.now state.windows).entries = state.windows.entries := by
        refine List.filter_eq_self.mpr fun entry hmem => decide_eq_true ?_
        exact current_of_later htime (current_of_full h hfull (mem_entries.mp hmem))
      rw [hsame] at hroom
      omega
  | some held =>
    obtain ⟨hheld, -, rfl⟩ | ⟨-, hexpired⟩ := hcounts.opened
    · refine hfull.trans_eq (Eq.symm (length_evictExpired_set hheld ?_))
      rfl
    · exact absurd (hexpired held hget) (current_of_later htime (current_of_full h hfull hget))

/-- No call lets another key use more than before, now or later. -/
theorem step_remaining_le {time : Int} (h : Bounded limiter call.now state) (hother : other ≠ call.key)
    (htime : call.now ≤ time) :
    remaining limiter time other (step limiter state call).windows ≤ remaining limiter time other state.windows := by
  obtain ⟨-, -, failure, hrespond⟩ | ⟨kept, window, hcounts, hrespond⟩ :=
    @respond_cases _ _ limiter state call h.keys
  · rw [step, hrespond]
  · rw [step_of_counts hrespond]
    cases hget : state.windows.get other with
    | some held =>
      by_cases hexpired : held.Expired limiter time
      · refine remaining_le.trans ?_
        simp [remaining, hget, hexpired]
      · have hkept : kept.get other = some held := by
          cases hkept : kept.get other with
          | none => exact absurd (hcounts.dropped hget hkept) (current_of_later htime hexpired)
          | some later => rw [← hcounts.get_kept hkept, hget]
        rw [remaining, remaining, get_set_of_ne hother, hkept, hget]
    | none =>
      by_cases hfull : limiter.maxKeys ≤ (evictExpired limiter time state.windows).entries.length
      · have hkept : kept.get other = none := by
          cases hkept : kept.get other with
          | none => rfl
          | some later =>
            rw [hcounts.get_kept hkept] at hget
            cases hget
        rw [remaining, get_set_of_ne hother, hkept]
        dsimp only
        rw [if_pos (full_of_counts h hcounts htime hfull)]
        exact Nat.zero_le _
      · refine remaining_le.trans ?_
        simp [remaining, hget, hfull]

end Allowance

/-- What the limiter guarantees, for calls at readings of the clock that do not
decrease: an interval of the width of a window admits at most twice the limit for a
key and a window at most the limit; no more keys are tracked than allowed; a window
that has not ended stays, so that no call lets another key use more; and a call that
is not admitted leaves what the other keys may still use. -/
theorem rate_limiter_bounds (limiter : FixedWindowRateLimiter) (calls : List (Call κ))
    (hclock : (calls.map Call.now).Pairwise (· ≤ ·)) :
    (∀ key start, inInterval (run limiter calls).log key start (start + limiter.windowMs) ≤ 2 * limiter.limit) ∧
      (∀ key startedAt, inWindow (run limiter calls).log key startedAt ≤ limiter.limit) ∧
      Windowed limiter.windowMs (run limiter calls).log ∧
      (run limiter calls).windows.entries.length ≤ limiter.maxKeys ∧
      ∀ before call after, calls = before ++ call :: after →
        (∀ key window, (run limiter before).windows.get key = some window → ¬window.Expired limiter call.now →
          ∃ later, (run limiter (before ++ [call])).windows.get key = some later ∧
            later.startedAt = window.startedAt ∧ window.count ≤ later.count) ∧
        ((respond limiter (run limiter before) call).1 = .ok () ↔
          0 < remaining limiter call.now call.key (run limiter before).windows) ∧
        ∀ other, other ≠ call.key → ∀ time,
          (call.now ≤ time →
            remaining limiter time other (run limiter (before ++ [call])).windows ≤
              remaining limiter time other (run limiter before).windows) ∧
          ∀ failure, (respond limiter (run limiter before) call).1 = .error failure →
            remaining limiter time other (run limiter (before ++ [call])).windows =
              remaining limiter time other (run limiter before).windows := by
  obtain ⟨latest, hlatest⟩ : ∃ latest, ∀ call ∈ calls, call.now ≤ latest := by
    obtain ⟨latest, hlatest⟩ := (calls.map Call.now).toFinset.exists_le
    exact ⟨latest, fun call hmem => hlatest _ (List.mem_toFinset.mpr (List.mem_map_of_mem hmem))⟩
  have hbounded := @run_bounded _ _ limiter _ _ hclock hlatest
  refine ⟨fun key start => inInterval_le hbounded.windowed hbounded.limited, hbounded.limited, hbounded.windowed,
    hbounded.keys, ?_⟩
  rintro before call after rfl
  rw [List.map_append, List.map_cons, List.pairwise_append] at hclock
  obtain ⟨hearlier, -, hlast⟩ := hclock
  have hstate : Bounded limiter call.now (run limiter before) := by
    refine run_bounded hearlier fun earlier hmem => ?_
    exact hlast _ (List.mem_map_of_mem hmem) _ List.mem_cons_self
  have hstep : run limiter (before ++ [call]) = step limiter (run limiter before) call := by
    rw [run, runs.run_concat, run]
  rw [hstep]
  refine ⟨fun key window => step_window hstate, admitted_iff, fun other hother time => ⟨?_, ?_⟩⟩
  · exact step_remaining_le hstate hother
  · exact fun failure hrejected => rejected_remaining hstate hrejected hother

/-- Two calls per second for two keys: a third call and a third key are not admitted,
and the windows start anew after they have ended. -/
theorem rate_limiter_bounds_sample :
    let limiter : FixedWindowRateLimiter := ⟨2, 1000, 2, by decide, by decide⟩
    let calls : List (Call Nat) := [⟨0, 1⟩, ⟨100, 1⟩, ⟨200, 1⟩, ⟨300, 2⟩, ⟨400, 3⟩, ⟨1000, 1⟩, ⟨1300, 3⟩]
    ((run limiter calls).log.map Admission.time = [0, 100, 300, 1000, 1300] ∧
        (run limiter calls).windows.entries.map Prod.fst = [1, 3]) ∧
      (∀ key start, inInterval (run limiter calls).log key start (start + limiter.windowMs) ≤ 2 * limiter.limit) := by
  intro limiter calls
  exact ⟨by decide, (rate_limiter_bounds limiter calls (by decide)).1⟩

end rwa.security
