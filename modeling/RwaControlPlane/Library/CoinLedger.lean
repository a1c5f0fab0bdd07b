import Mathlib.Algebra.Order.BigOperators.Group.List
import Mathlib.Algebra.Order.Monoid.NatCast
import Mathlib.Data.List.Nodup
import Mathlib.Data.List.Perm.Subperm
import Mathlib.Tactic.Linarith

namespace coin_ledger

variable {κ : Type*}

/-- A coin: its key and its amount. -/
abbrev Coin (κ : Type*) := κ × Nat

def total (coins : List (Coin κ)) : Nat := (coins.map Prod.snd).sum

/-- What one transfer consumes, creates and pays. -/
structure Transfer (κ : Type*) where
  inputs : List (Coin κ)
  outputs : List (Coin κ)
  fee : Nat

def Transfer.Balanced (transfer : Transfer κ) : Prop :=
  total transfer.inputs = total transfer.outputs + transfer.fee

def consumed (transfers : List (Transfer κ)) : List (Coin κ) := transfers.flatMap Transfer.inputs

def created (transfers : List (Transfer κ)) : List (Coin κ) := transfers.flatMap Transfer.outputs

def fees (transfers : List (Transfer κ)) : Nat := (transfers.map Transfer.fee).sum

/-- The coins whose key no transfer has consumed. -/
def unspent [DecidableEq κ] (initial : List (Coin κ)) (transfers : List (Transfer κ)) : List (Coin κ) :=
  (initial ++ created transfers).filter fun coin => coin.1 ∉ (consumed transfers).map Prod.fst

theorem total_append {first second : List (Coin κ)} : total (first ++ second) = total first + total second := by
  simp [total]

/-- Balanced transfers consume what they create and pay. -/
theorem total_consumed {transfers : List (Transfer κ)} (hbalanced : ∀ transfer ∈ transfers, transfer.Balanced) :
    total (consumed transfers) = total (created transfers) + fees transfers := by
  induction transfers with
  | nil => rfl
  | cons transfer transfers ih =>
    have hhead := hbalanced transfer List.mem_cons_self
    have htail := ih fun other hother => hbalanced other (List.mem_cons_of_mem transfer hother)
    unfold Transfer.Balanced at hhead
    simp only [consumed, created, fees, List.flatMap_cons, List.map_cons, List.sum_cons, total_append] at htail ⊢
    omega

/-- Coins without repetition that are all in a list amount to no more than it. -/
theorem total_le_of_subset {coins more : List (Coin κ)} (hnodup : coins.Nodup) (hsubset : coins ⊆ more) :
    total coins ≤ total more := by
  obtain ⟨kept, hperm, hsublist⟩ := List.subperm_of_subset hnodup hsubset
  have hkept : total kept = total coins := (hperm.map Prod.snd).sum_eq
  rw [← hkept]
  exact (hsublist.map Prod.snd).sum_le_sum fun _ _ => Nat.zero_le _

/-- No inflation: when every transfer is balanced, every consumed coin is one of
the initial or created coins and no key is consumed twice, the unspent coins and
the fees together never exceed the initial coins. -/
theorem total_unspent_add_fees_le [DecidableEq κ] {initial : List (Coin κ)} {transfers : List (Transfer κ)}
    (hbalanced : ∀ transfer ∈ transfers, transfer.Balanced)
    (horigin : ∀ coin ∈ consumed transfers, coin ∈ initial ++ created transfers)
    (honce : ((consumed transfers).map Prod.fst).Nodup) :
    total (unspent initial transfers) + fees transfers ≤ total initial := by
  have hconsumed : total (consumed transfers) ≤
      total ((initial ++ created transfers).filter fun coin => coin.1 ∈ (consumed transfers).map Prod.fst) := by
    apply total_le_of_subset (List.Nodup.of_map Prod.fst honce)
    intro coin hcoin
    rw [List.mem_filter]
    exact ⟨horigin coin hcoin, by simpa using ⟨coin.2, hcoin⟩⟩
  have hsplit : total ((initial ++ created transfers).filter fun coin => coin.1 ∈ (consumed transfers).map Prod.fst) +
      total (unspent initial transfers) = total (initial ++ created transfers) := by
    rw [← total_append, unspent]
    have hperm := List.filter_append_perm (fun coin : Coin κ => coin.1 ∈ (consumed transfers).map Prod.fst)
      (initial ++ created transfers)
    simp only [← decide_not] at hperm
    exact (hperm.map Prod.snd).sum_eq
  have htotal := total_consumed hbalanced
  rw [total_append] at hsplit
  omega

end coin_ledger
