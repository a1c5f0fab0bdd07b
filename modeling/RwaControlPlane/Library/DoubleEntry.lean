import Mathlib.Algebra.BigOperators.Group.List.Basic
import Mathlib.Data.List.Nodup
import Mathlib.Algebra.Ring.Int.Defs

namespace double_entry

variable {κ : Type*} [DecidableEq κ]

/-- What is posted to an account, all in all. -/
def balance (postings : List (κ × Int)) (account : κ) : Int :=
  ((postings.filter fun posting => posting.1 = account).map Prod.snd).sum

/-- What is posted, all in all. -/
def total (postings : List (κ × Int)) : Int := (postings.map Prod.snd).sum

variable {postings more : List (κ × Int)} {account : κ} {accounts : List κ}

@[simp] theorem balance_nil : balance ([] : List (κ × Int)) account = 0 := rfl

theorem balance_cons {posting : κ × Int} :
    balance (posting :: postings) account = (if posting.1 = account then posting.2 else 0) +
      balance postings account := by
  unfold balance
  by_cases h : posting.1 = account
  · simp [h]
  · simp [h]

theorem balance_append : balance (postings ++ more) account = balance postings account + balance more account := by
  simp [balance]

/-- Nothing is posted to an account that no posting names. -/
theorem balance_of_not_mem (h : account ∉ postings.map Prod.fst) : balance postings account = 0 := by
  have hnone : postings.filter (fun posting => posting.1 = account) = [] := by
    rw [List.filter_eq_nil_iff]
    intro posting hposting hsame
    exact h (List.mem_map.mpr ⟨posting, hposting, by simpa using hsame⟩)
  rw [balance, hnone]
  rfl

/-- An account that one posting names gets the amount of that posting. -/
theorem balance_of_mem (hnodup : (postings.map Prod.fst).Nodup) {posting : κ × Int} (h : posting ∈ postings) :
    balance postings posting.1 = posting.2 := by
  induction postings with
  | nil => cases h
  | cons first rest ih =>
    rw [List.map_cons, List.nodup_cons] at hnodup
    rw [balance_cons]
    obtain rfl | hrest := List.mem_cons.mp h
    · rw [if_pos rfl, balance_of_not_mem hnodup.1, add_zero]
    · have hne : first.1 ≠ posting.1 := fun heq => hnodup.1 (heq ▸ List.mem_map_of_mem hrest)
      rw [if_neg hne, zero_add, ih hnodup.2 hrest]

private theorem sum_posting {posting : κ × Int} (hnodup : accounts.Nodup) (h : posting.1 ∈ accounts) :
    (accounts.map fun account => if posting.1 = account then posting.2 else 0).sum = posting.2 := by
  induction accounts with
  | nil => cases h
  | cons first rest ih =>
    rw [List.nodup_cons] at hnodup
    rw [List.map_cons, List.sum_cons]
    by_cases hfirst : posting.1 = first
    · have hzero : (rest.map fun account => if posting.1 = account then posting.2 else 0).sum = 0 := by
        refine List.sum_eq_zero fun amount hamount => ?_
        obtain ⟨other, hother, rfl⟩ := List.mem_map.mp hamount
        have hne : posting.1 ≠ other := fun heq => hnodup.1 (hfirst ▸ heq.symm ▸ hother)
        exact if_neg hne
      rw [if_pos hfirst, hzero, add_zero]
    · rw [if_neg hfirst, zero_add, ih hnodup.2 ((List.mem_cons.mp h).resolve_left hfirst)]

/-- The balances of all accounts add up to all that is posted. -/
theorem sum_balance (hnodup : accounts.Nodup) (h : ∀ posting ∈ postings, posting.1 ∈ accounts) :
    (accounts.map (balance postings)).sum = total postings := by
  induction postings with
  | nil =>
    refine List.sum_eq_zero fun amount hamount => ?_
    obtain ⟨account, -, rfl⟩ := List.mem_map.mp hamount
    exact balance_nil
  | cons posting rest ih =>
    have hrest := ih fun other hother => h other (List.mem_cons_of_mem posting hother)
    have hsplit : accounts.map (balance (posting :: rest)) =
        accounts.map fun account => (if posting.1 = account then posting.2 else 0) + balance rest account :=
      List.map_congr_left fun account _ => balance_cons
    rw [hsplit, List.sum_map_add, sum_posting hnodup (h posting List.mem_cons_self), hrest]
    simp [total]

/-- No account is overdrawn by postings each of which its account covers. -/
theorem nonneg_of_covered (hnodup : (more.map Prod.fst).Nodup) (hbalance : 0 ≤ balance postings account)
    (hcovered : ∀ posting ∈ more, posting.1 = account → posting.2 < 0 → 0 ≤ balance postings account + posting.2) :
    0 ≤ balance (postings ++ more) account := by
  rw [balance_append]
  by_cases hnamed : account ∈ more.map Prod.fst
  · obtain ⟨posting, hposting, rfl⟩ := List.mem_map.mp hnamed
    rw [balance_of_mem hnodup hposting]
    by_cases hsign : posting.2 < 0
    · exact hcovered posting hposting rfl hsign
    · omega
  · rw [balance_of_not_mem hnamed]
    omega

end double_entry
