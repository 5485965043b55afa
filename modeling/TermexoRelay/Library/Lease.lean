import Mathlib.Algebra.Order.Group.Defs
import Mathlib.Algebra.Order.Group.Unbundled.Basic
import Mathlib.Data.List.Chain

/-!
# Leases with a sliding deadline

A lease that is used before its deadline runs on for a whole lifetime, but the deadline is only
written when it would move by at least a threshold. A lease that has run out stays gone. Whatever
the times of use are, the deadline stays within a threshold of the last use plus the lifetime.
-/

namespace Lease

variable {α : Type*} [AddCommGroup α] [LinearOrder α]

def renew (lifetime threshold deadline now : α) : α :=
  if threshold ≤ now + lifetime - deadline then now + lifetime else deadline

/-- Use the lease: it is gone when its deadline has come, and renewed before. -/
def use (lifetime threshold : α) (lease : Option α) (now : α) : Option α :=
  lease.bind fun deadline =>
    if deadline ≤ now then none else some (renew lifetime threshold deadline now)

/-- The lease after each use, with the time of the use. -/
def history (lifetime threshold : α) : Option α → List α → List (α × Option α)
  | _, [] => []
  | lease, now :: times =>
      (now, use lifetime threshold lease now) ::
        history lifetime threshold (use lifetime threshold lease now) times

/-- The deadline is at most a lifetime after the last use, and less than a threshold earlier. -/
structure Within (lifetime threshold used deadline : α) : Prop where
  lower : used + lifetime - threshold < deadline
  upper : deadline ≤ used + lifetime

variable {lifetime threshold used deadline now : α} {lease : Option α} {times : List α}

theorem use_eq_none (h : ∀ deadline ∈ lease, Within lifetime threshold used deadline)
    (hfar : used + lifetime ≤ now) : use lifetime threshold lease now = none := by
  cases lease with
  | none => rfl
  | some deadline => rw [use, Option.bind_some, if_pos ((h deadline rfl).upper.trans hfar)]

theorem history_none (times : List α) :
    ∀ entry ∈ history lifetime threshold none times, entry.2 = none := by
  induction times with
  | nil => exact fun entry hentry => absurd hentry List.not_mem_nil
  | cons now times ih =>
      intro entry hentry
      rcases List.mem_cons.mp hentry with rfl | hentry
      · rfl
      · exact ih entry hentry

theorem history_stays_none (lifetime threshold : α) (lease : Option α) (times : List α) :
    (history lifetime threshold lease times).Pairwise fun earlier later =>
      earlier.2 = none → later.2 = none := by
  induction times generalizing lease with
  | nil => exact List.Pairwise.nil
  | cons now times ih =>
      refine List.Pairwise.cons (fun later hlater hnone => ?_) (ih _)
      have hgone : use lifetime threshold lease now = none := hnone
      rw [hgone] at hlater
      exact history_none times later hlater

variable [IsOrderedAddMonoid α]

theorem within_fresh (h : 0 < threshold) :
    Within lifetime threshold used (used + lifetime) :=
  ⟨sub_lt_self _ h, le_rfl⟩

theorem within_renew (hthreshold : 0 < threshold) (h : deadline ≤ now + lifetime) :
    Within lifetime threshold now (renew lifetime threshold deadline now) := by
  unfold renew
  split
  · exact within_fresh hthreshold
  · next hclose =>
      rw [not_le] at hclose
      exact ⟨sub_lt_comm.mp hclose, h⟩

theorem Within.later (h : Within lifetime threshold used deadline) (hle : used ≤ now) :
    deadline ≤ now + lifetime :=
  h.upper.trans (add_le_add_left hle lifetime)

theorem use_isSome (h : ∀ deadline ∈ lease, Within lifetime threshold used deadline)
    (hlease : lease.isSome = true) (hclose : now - used ≤ lifetime - threshold) :
    (use lifetime threshold lease now).isSome = true := by
  obtain ⟨deadline, rfl⟩ := Option.isSome_iff_exists.mp hlease
  have hlt : now < deadline := by
    calc now = now - used + used := (sub_add_cancel now used).symm
      _ ≤ lifetime - threshold + used := add_le_add_left hclose used
      _ = used + lifetime - threshold := by rw [add_comm, add_sub_assoc]
      _ < deadline := (h deadline rfl).lower
  rw [use, Option.bind_some, if_neg (not_le.mpr hlt), Option.isSome_some]

theorem within_use (hthreshold : 0 < threshold)
    (h : ∀ deadline ∈ lease, Within lifetime threshold used deadline) (hle : used ≤ now) :
    ∀ deadline ∈ use lifetime threshold lease now, Within lifetime threshold now deadline := by
  intro deadline hdeadline
  obtain ⟨old, hold, hused⟩ := Option.bind_eq_some_iff.mp hdeadline
  split at hused
  · cases hused
  · cases hused
    exact within_renew hthreshold ((h old hold).later hle)

theorem history_within (hthreshold : 0 < threshold)
    (h : ∀ deadline ∈ lease, Within lifetime threshold used deadline)
    (htimes : (used :: times).IsChain (· ≤ ·)) :
    ∀ entry ∈ history lifetime threshold lease times, ∀ deadline ∈ entry.2,
      Within lifetime threshold entry.1 deadline := by
  induction times generalizing lease used with
  | nil => exact fun entry hentry => absurd hentry List.not_mem_nil
  | cons now times ih =>
      rw [List.isChain_cons_cons] at htimes
      have hnext := within_use hthreshold h htimes.1
      intro entry hentry
      rcases List.mem_cons.mp hentry with rfl | hentry
      · exact hnext
      · exact ih hnext htimes.2 entry hentry

theorem history_isSome (hthreshold : 0 < threshold)
    (h : ∀ deadline ∈ lease, Within lifetime threshold used deadline)
    (hlease : lease.isSome = true) (htimes : (used :: times).IsChain (· ≤ ·))
    (hclose : (used :: times).IsChain fun earlier later => later - earlier ≤ lifetime - threshold) :
    ∀ entry ∈ history lifetime threshold lease times, entry.2.isSome = true := by
  induction times generalizing lease used with
  | nil => exact fun entry hentry => absurd hentry List.not_mem_nil
  | cons now times ih =>
      rw [List.isChain_cons_cons] at htimes hclose
      have hkept := use_isSome h hlease hclose.1
      intro entry hentry
      rcases List.mem_cons.mp hentry with rfl | hentry
      · exact hkept
      · exact ih (within_use hthreshold h htimes.1) hkept htimes.2 hclose.2 entry hentry

theorem history_none_of_far (hthreshold : 0 < threshold)
    (h : ∀ deadline ∈ lease, Within lifetime threshold used deadline)
    (htimes : (used :: times).IsChain (· ≤ ·)) :
    ((used, lease) :: history lifetime threshold lease times).IsChain fun earlier later =>
      earlier.1 + lifetime ≤ later.1 → later.2 = none := by
  induction times generalizing lease used with
  | nil => exact List.isChain_singleton _
  | cons now times ih =>
      rw [List.isChain_cons_cons] at htimes
      rw [history, List.isChain_cons_cons]
      exact ⟨use_eq_none h, ih (within_use hthreshold h htimes.1) htimes.2⟩

end Lease
