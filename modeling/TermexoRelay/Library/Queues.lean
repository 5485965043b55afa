import TermexoRelay.Library.Run

/-!
# Bounded queues, and machines joined by a socket

A queue remembers what has been taken from it, so everything that ever entered it is at hand in
order: first what was taken, then what is still queued. Two machines joined by a socket each receive
what the other one has sent, in order, and possibly never the rest of it.
-/

namespace Transition

/-! ## Queues -/

/-- A bounded queue, oldest first, with what has been taken from it. -/
structure Fifo (α : Type*) (capacity : Nat) where
  taken : List α
  queued : List α
  bounded : queued.length ≤ capacity
deriving DecidableEq

namespace Fifo

variable {α : Type*} {capacity : Nat} {q q' : Fifo α capacity} {a : α}

def empty : Fifo α capacity := ⟨[], [], Nat.zero_le capacity⟩

/-- Everything that was ever put into the queue. -/
def entered (q : Fifo α capacity) : List α := q.taken ++ q.queued

/-- Put an item in; `none` while there is no room. -/
def put (q : Fifo α capacity) (a : α) : Option (Fifo α capacity) :=
  if h : q.queued.length < capacity then
    some ⟨q.taken, q.queued ++ [a], by rw [List.length_append]; exact h⟩
  else none

def offer (q : Fifo α capacity) (a : α) : Fifo α capacity := (q.put a).getD q

def take : Fifo α capacity → Option (α × Fifo α capacity)
  | ⟨_, [], _⟩ => none
  | ⟨taken, a :: rest, h⟩ => some (a, ⟨taken ++ [a], rest, Nat.le_of_succ_le h⟩)

@[simp] theorem taken_empty : (empty : Fifo α capacity).taken = [] := rfl

@[simp] theorem queued_empty : (empty : Fifo α capacity).queued = [] := rfl

@[simp] theorem entered_empty : (empty : Fifo α capacity).entered = [] := rfl

theorem prefix_entered (q : Fifo α capacity) : q.taken <+: q.entered :=
  List.prefix_append q.taken q.queued

theorem put_eq_some (h : q.put a = some q') :
    q'.taken = q.taken ∧ q'.queued = q.queued ++ [a] := by
  unfold put at h
  split at h
  · cases h
    exact ⟨rfl, rfl⟩
  · cases h

theorem put_eq_none (h : q.put a = none) : q.queued.length = capacity := by
  unfold put at h
  split at h
  · cases h
  · next hfull =>
      have hbounded := q.bounded
      omega

theorem entered_put (h : q.put a = some q') : q'.entered = q.entered ++ [a] := by
  have hput := put_eq_some h
  rw [entered, entered, hput.1, hput.2, List.append_assoc]

theorem offer_cases (q : Fifo α capacity) (a : α) :
    (q.queued.length < capacity ∧ (q.offer a).taken = q.taken ∧
      (q.offer a).queued = q.queued ++ [a]) ∨
    (q.queued.length = capacity ∧ q.offer a = q) := by
  unfold offer put
  split
  · next hroom => exact .inl ⟨hroom, rfl, rfl⟩
  · next hfull =>
      have hbounded := q.bounded
      exact .inr ⟨by omega, rfl⟩

@[simp] theorem taken_offer : (q.offer a).taken = q.taken := by
  obtain ⟨-, htaken, -⟩ | ⟨-, hsame⟩ := q.offer_cases a
  · exact htaken
  · rw [hsame]

theorem length_offer_le : (q.offer a).queued.length ≤ q.queued.length + 1 := by
  obtain ⟨-, -, hqueued⟩ | ⟨-, hsame⟩ := q.offer_cases a
  · simp [hqueued]
  · simp [hsame]

theorem take_eq_some (h : q.take = some (a, q')) :
    q.queued = a :: q'.queued ∧ q'.taken = q.taken ++ [a] := by
  unfold take at h
  split at h
  · cases h
  · cases h
    exact ⟨rfl, rfl⟩

theorem take_eq_none (h : q.take = none) : q.queued = [] := by
  unfold take at h
  split at h
  · rfl
  · cases h

theorem entered_take (h : q.take = some (a, q')) : q'.entered = q.entered := by
  have htake := take_eq_some h
  rw [entered, entered, htake.1, htake.2, List.append_assoc, List.singleton_append]

end Fifo

/-! ## Sockets -/

/-- A machine at one end of a socket: what it has sent only grows, and it receives one message
after the other. -/
structure Party (σ ℓ μ : Type*) where
  step : σ → ℓ → Option σ
  /-- What a label takes off the socket. -/
  receives : ℓ → Option μ
  sent : σ → List μ
  received : σ → List μ
  sent_step : ∀ s l s', step s l = some s' → sent s <+: sent s'
  received_step : ∀ s l s', step s l = some s' → received s' = received s ++ (receives l).toList

inductive PairLabel (ℓ κ : Type*) where
  | left (label : ℓ)
  | right (label : κ)
deriving DecidableEq

theorem append_next {μ : Type*} {xs ys : List μ} {next : Option μ} (h : xs <+: ys)
    (hnext : ∀ m ∈ next, ys[xs.length]? = some m) : xs ++ next.toList <+: ys := by
  cases next with
  | none => simpa using h
  | some m =>
      obtain ⟨rest, rfl⟩ := h
      have hm := hnext m rfl
      rw [List.getElem?_append_right (Nat.le_refl _), Nat.sub_self] at hm
      cases rest with
      | nil => cases hm
      | cons m' rest =>
          cases hm
          exact ⟨rest, by simp⟩

section Pair

variable {σ τ ℓ κ μ : Type*} [DecidableEq μ] (A : Party σ ℓ μ) (B : Party τ κ μ)

/-- Two machines joined by a socket: what one of them receives is what the other one has sent,
message after message. -/
def pairStep (p : σ × τ) : PairLabel ℓ κ → Option (σ × τ)
  | .left label =>
      if ∀ m ∈ A.receives label, (B.sent p.2)[(A.received p.1).length]? = some m then
        (A.step p.1 label).map fun s => (s, p.2)
      else none
  | .right label =>
      if ∀ m ∈ B.receives label, (A.sent p.1)[(B.received p.2).length]? = some m then
        (B.step p.2 label).map fun t => (p.1, t)
      else none

variable {A B}

theorem pairStep_left {p p' : σ × τ} {label : ℓ} (h : pairStep A B p (.left label) = some p') :
    (∀ m ∈ A.receives label, (B.sent p.2)[(A.received p.1).length]? = some m) ∧
      A.step p.1 label = some p'.1 ∧ p'.2 = p.2 := by
  simp only [pairStep] at h
  split at h
  · next hnext =>
      obtain ⟨s, hs, rfl⟩ := Option.map_eq_some_iff.mp h
      exact ⟨hnext, hs, rfl⟩
  · cases h

theorem pairStep_right {p p' : σ × τ} {label : κ} (h : pairStep A B p (.right label) = some p') :
    (∀ m ∈ B.receives label, (A.sent p.1)[(B.received p.2).length]? = some m) ∧
      B.step p.2 label = some p'.2 ∧ p'.1 = p.1 := by
  simp only [pairStep] at h
  split at h
  · next hnext =>
      obtain ⟨t, ht, rfl⟩ := Option.map_eq_some_iff.mp h
      exact ⟨hnext, ht, rfl⟩
  · cases h

/-- What holds of one end in every run of its own holds of it in every run of the pair. -/
theorem Reachable.left {a : σ} {b : τ} {p : σ × τ} (hr : Reachable (pairStep A B) (a, b) p) :
    Reachable A.step a p.1 := by
  refine hr.invariant (P := fun p => Reachable A.step a p.1) (Reachable.refl a) ?_
  intro p label p' hp hstep
  cases label with
  | left label => exact hp.tail (pairStep_left hstep).2.1
  | right label => exact (pairStep_right hstep).2.2 ▸ hp

theorem Reachable.right {a : σ} {b : τ} {p : σ × τ} (hr : Reachable (pairStep A B) (a, b) p) :
    Reachable B.step b p.2 := by
  refine hr.invariant (P := fun p => Reachable B.step b p.2) (Reachable.refl b) ?_
  intro p label p' hp hstep
  cases label with
  | left label => exact (pairStep_left hstep).2.2 ▸ hp
  | right label => exact hp.tail (pairStep_right hstep).2.1

/-- Neither end ever receives anything but what the other one has sent, in order. -/
theorem received_prefix_sent {a : σ} {b : τ} {p : σ × τ}
    (ha : A.received a <+: B.sent b) (hb : B.received b <+: A.sent a)
    (hr : Reachable (pairStep A B) (a, b) p) :
    A.received p.1 <+: B.sent p.2 ∧ B.received p.2 <+: A.sent p.1 := by
  refine hr.invariant (P := fun p => A.received p.1 <+: B.sent p.2 ∧ B.received p.2 <+: A.sent p.1)
    ⟨ha, hb⟩ ?_
  intro p label p' hp hstep
  cases label with
  | left label =>
      obtain ⟨hnext, hs, hsame⟩ := pairStep_left hstep
      rw [hsame, A.received_step _ _ _ hs]
      exact ⟨append_next hp.1 hnext, hp.2.trans (A.sent_step _ _ _ hs)⟩
  | right label =>
      obtain ⟨hnext, ht, hsame⟩ := pairStep_right hstep
      rw [hsame, B.received_step _ _ _ ht]
      exact ⟨hp.1.trans (B.sent_step _ _ _ ht), append_next hp.2 hnext⟩

end Pair

end Transition
