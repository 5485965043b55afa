import TermexoRelay.Library.Interleaving
import TermexoRelay.Tunnel.Handle
import TermexoRelay.Upstream.Forward

/-!
# Opening streams in a tunnel

The yamux connection of a tunnel belongs to one driver task. Whoever needs a stream queues a request
with its own answer channel and waits, for ten seconds at most; the driver takes the requests off
the channel, opens streams as far as the connection lets it and answers the requests in the order in
which they were queued. Callers come, time out and go away while it does.
-/

namespace TermexoRelay

open Transition

/-- What a request for a stream finds in its answer channel. -/
inductive StreamReply where
  /-- The streams of a connection are counted in the order in which it opened them. -/
  | stream (number : Nat)
  /-- `ConnectionError::Closed`. -/
  | refused
  /-- The request was dropped unanswered. -/
  | dropped
deriving DecidableEq, Repr

/-- Where the driver is in its `poll_fn`. -/
inductive Driver where
  | parked
  | draining
  | opening (progressed : Bool)
  | inbound (progressed : Bool)
  | ended
deriving DecidableEq, Repr

/-- What the connection answers to one poll. -/
inductive Polled where
  | ready
  | failed
  | pending
deriving DecidableEq, Repr

/-- The request channel of a tunnel, what its driver holds, and the answers given so far, oldest
first. A request is known by the number of its caller. -/
structure Multiplexer where
  requests : List Nat
  pending : List Nat
  replies : List (Nat × StreamReply)
  opened : Nat
  driver : Driver
  released : Bool
deriving DecidableEq, Repr

inductive DriverEvent where
  /-- The driver takes its next turn; the result is of the connection, where the turn polls it. -/
  | turn (polled : Polled)
  /-- `driver.abort()`, which takes effect between two polls. -/
  | abort
  | release
deriving DecidableEq, Repr

namespace Multiplexer

def new : Multiplexer := ⟨[], [], [], 0, .parked, false⟩

/-- The requests in the order in which they were queued, the answered ones first. -/
def log (m : Multiplexer) : List Nat := m.replies.map Prod.fst ++ m.pending ++ m.requests

/-- The driver is gone, with the requests it held and the receiving end of the channel. -/
def finish (m : Multiplexer) : Multiplexer :=
  { m with
    requests := []
    pending := []
    replies := m.replies ++ (m.pending ++ m.requests).map fun request => (request, .dropped)
    driver := .ended }

/-- One failure ends the connection, so every queued request fails with it. -/
def fail (m : Multiplexer) : Multiplexer :=
  finish
    { m with
      pending := []
      replies := m.replies ++ m.pending.map fun request => (request, .refused) }

/-- `drive_multiplexer`, one turn of its loops at a time. -/
def turn (m : Multiplexer) (polled : Polled) : Option Multiplexer :=
  match m.driver with
  | .parked => some { m with driver := .draining }
  | .draining =>
      match m.requests with
      | request :: requests => some { m with requests, pending := m.pending ++ [request] }
      | [] => some (if m.released then m.finish else { m with driver := .opening false })
  | .opening progressed =>
      match m.pending, polled with
      | [], _ => some { m with driver := .inbound progressed }
      | request :: pending, .ready => some
          { m with
            pending
            replies := m.replies ++ [(request, .stream m.opened)]
            opened := m.opened + 1
            driver := .opening true }
      | _ :: _, .failed => some m.fail
      | _ :: _, .pending => some { m with driver := .inbound progressed }
  | .inbound progressed =>
      match polled with
      | .ready => some { m with driver := .draining }
      | .failed => some m.finish
      | .pending => some { m with driver := if progressed then .draining else .parked }
  | .ended => none

def driverStep (m : Multiplexer) : DriverEvent → Option Multiplexer
  | .turn polled => m.turn polled
  | .abort => if m.driver = .parked then some m.finish else none
  | .release => some { m with released := true }

end Multiplexer

/-- `open_stream`, from its call to its result. -/
inductive Opening where
  /-- Waiting for room in the request channel. -/
  | sending
  | awaiting
  | writing (stream : Nat)
  | finished (result : Except TunnelError Nat)
  /-- Its caller went away. -/
  | abandoned
deriving DecidableEq, Repr

/-- What decides an action of `open_stream` besides the multiplexer. -/
structure OpeningChoice where
  abandons : Bool := false
  timedOut : Bool := false
  /-- The error of writing the preface. -/
  writeError : Option String := none

namespace Opening

def settled : Opening → Bool
  | .finished _ => true
  | .abandoned => true
  | _ => false

def stream : Opening → Option Nat
  | .writing stream => some stream
  | .finished (.ok stream) => some stream
  | _ => none

def step (index : Nat) (m : Multiplexer) (opening : Opening) (choice : OpeningChoice) :
    Option (Multiplexer × Opening) :=
  if opening.settled then none
  else if choice.abandons then some (m, .abandoned)
  else
    match opening with
    | .sending =>
        if m.driver = .ended then some (m, .finished (.error .closed))
        else if m.requests.length < COMMAND_CAPACITY then
          some ({ m with requests := m.requests ++ [index] }, .awaiting)
        else none
    | .awaiting =>
        match m.replies.lookup index with
        | some (.stream stream) => some (m, .writing stream)
        | some _ => some (m, .finished (.error .closed))
        | none => if choice.timedOut then some (m, .finished (.error .openTimeout)) else none
    | .writing stream =>
        match choice.writeError with
        | some error => some (m, .finished (.error (.preface error)))
        | none => some (m, .finished (.ok stream))
    | _ => none

end Opening

abbrev Openings := Pool Multiplexer Opening
abbrev OpeningLabel := PoolLabel Opening OpeningChoice DriverEvent

namespace Openings

/-- A caller holds a handle while it is busy, and one to start with. -/
def step (s : Openings) (label : OpeningLabel) : Option Openings :=
  match label with
  | .environment .release =>
      if s.tasks.all Opening.settled then
        poolStep (fun m opening => !m.released && decide (opening = .sending)) Opening.step
          Multiplexer.driverStep s (.environment .release)
      else none
  | label =>
      poolStep (fun m opening => !m.released && decide (opening = .sending)) Opening.step
        Multiplexer.driverStep s label

def init : Openings := ⟨.new, []⟩

def streamAt (s : Openings) (index : Nat) : Option Nat := s.tasks[index]?.bind Opening.stream

end Openings

namespace Multiplexer

/-- Of two answers with a stream the older one has the stream that was opened first. -/
def Earlier (answer later : Nat × StreamReply) : Prop :=
  ∀ stream stream', answer.2 = .stream stream → later.2 = .stream stream' → stream < stream'

/-- The answers of a tunnel: their streams are in the order in which they were opened, and a driver
that ended left no request behind. -/
structure Answers (m : Multiplexer) : Prop where
  increasing : m.replies.Pairwise Earlier
  below : ∀ index stream, (index, .stream stream) ∈ m.replies → stream < m.opened
  ended : m.driver = .ended → m.pending = [] ∧ m.requests = []

section Turns

variable {m m' : Multiplexer}

theorem log_finish (m : Multiplexer) : m.finish.log = m.log := by
  simp [log, finish, Function.comp_def]

theorem log_fail (m : Multiplexer) : m.fail.log = m.log := by
  simp [log, fail, finish, Function.comp_def]

theorem increasing_append {replies : List (Nat × StreamReply)} {requests : List Nat}
    {reply : StreamReply} (h : replies.Pairwise Earlier)
    (hreply : ∀ stream, reply ≠ .stream stream) :
    (replies ++ requests.map fun request => (request, reply)).Pairwise Earlier := by
  have hnone : ∀ answer : Nat × StreamReply,
      answer ∈ requests.map (fun request => (request, reply)) →
      ∀ stream, answer.2 ≠ .stream stream := by
    intro answer hanswer stream
    obtain ⟨request, -, rfl⟩ := List.mem_map.mp hanswer
    exact hreply stream
  refine List.pairwise_append.mpr ⟨h, ?_, fun answer _ later hlater stream stream' _ hstream' => ?_⟩
  · refine List.pairwise_of_forall_mem_list fun answer hanswer later _ stream _ hstream => ?_
    exact absurd hstream (hnone answer hanswer stream)
  · exact absurd hstream' (hnone later hlater stream')

theorem mem_append_answers {replies : List (Nat × StreamReply)} {requests : List Nat}
    {reply : StreamReply} {index stream : Nat} (hreply : ∀ stream, reply ≠ .stream stream)
    (h : (index, .stream stream) ∈ replies ++ requests.map fun request => (request, reply)) :
    (index, .stream stream) ∈ replies := by
  rcases List.mem_append.mp h with h | h
  · exact h
  · obtain ⟨request, -, heq⟩ := List.mem_map.mp h
    exact absurd (Prod.mk.inj heq).2 (hreply stream)

theorem Answers.finish (h : m.Answers) : m.finish.Answers where
  increasing := increasing_append h.increasing (by simp)
  below := fun index stream hmem => h.below index stream (mem_append_answers (by simp) hmem)
  ended := fun _ => ⟨rfl, rfl⟩

theorem Answers.fail (h : m.Answers) : m.fail.Answers := by
  refine Answers.finish ⟨increasing_append h.increasing (by simp), fun index stream hmem => ?_,
    fun hended => ⟨rfl, (h.ended hended).2⟩⟩
  exact h.below index stream (mem_append_answers (by simp) hmem)

/-- What the driver does to the requests and to the answers given before. -/
structure Served (m m' : Multiplexer) : Prop where
  log : m'.log = m.log
  replies : m.replies <+: m'.replies
  answers : m'.Answers

theorem served_finish (h : m.Answers) : Served m m.finish :=
  ⟨log_finish m, List.prefix_append _ _, h.finish⟩

theorem served_opened (h : m.Answers) {request : Nat} {pending : List Nat}
    (hpending : m.pending = request :: pending) {driver : Driver} (hdriver : driver ≠ .ended) :
    Served m { m with
      pending
      replies := m.replies ++ [(request, .stream m.opened)]
      opened := m.opened + 1
      driver } := by
  refine ⟨by simp [log, hpending], List.prefix_append _ _, ⟨?_, ?_, fun hended => ?_⟩⟩
  · refine List.pairwise_append.mpr ⟨h.increasing, List.pairwise_singleton _ _, ?_⟩
    intro answer hanswer later hlater stream stream' hstream hstream'
    rw [List.mem_singleton.mp hlater, StreamReply.stream.injEq] at hstream'
    rw [← hstream']
    exact h.below answer.1 stream (hstream ▸ hanswer)
  · intro index stream hmem
    rcases List.mem_append.mp hmem with hmem | hmem
    · exact Nat.lt_succ_of_lt (h.below index stream hmem)
    · obtain ⟨-, heq⟩ := Prod.mk.inj (List.mem_singleton.mp hmem)
      rw [StreamReply.stream.inj heq]
      exact Nat.lt_succ_self _
  · exact absurd hended hdriver

theorem served_moved (h : m.Answers) {driver : Driver} (hdriver : driver ≠ .ended) :
    Served m { m with driver } :=
  ⟨rfl, List.prefix_rfl, ⟨h.increasing, h.below, fun hended => absurd hended hdriver⟩⟩

theorem served_turn {polled : Polled} (h : m.Answers) (hturn : m.turn polled = some m') :
    Served m m' := by
  simp only [turn] at hturn
  split at hturn
  · cases hturn
    exact served_moved h (by simp)
  · next hdriver =>
      split at hturn
      · next hrequests =>
          cases hturn
          refine ⟨by simp [log, hrequests], List.prefix_rfl, h.increasing, h.below,
            fun hended => ?_⟩
          rw [show m.driver = .ended from hended] at hdriver
          cases hdriver
      · cases hturn
        split
        · exact served_finish h
        · exact served_moved h (by simp)
  · split at hturn
    · cases hturn
      exact served_moved h (by simp)
    · next hpending =>
        cases hturn
        exact served_opened h hpending (by simp)
    · cases hturn
      exact ⟨log_fail m, by simp [fail, finish, List.append_assoc], h.fail⟩
    · cases hturn
      exact served_moved h (by simp)
  · split at hturn <;> cases hturn
    · exact served_moved h (by simp)
    · exact served_finish h
    · exact served_moved h (by split <;> simp)
  · cases hturn

theorem released_turn {polled : Polled} (hturn : m.turn polled = some m') :
    m'.released = m.released := by
  simp only [turn] at hturn
  repeat' split at hturn
  all_goals cases hturn
  all_goals rfl

theorem served_driverStep {event : DriverEvent} (h : m.Answers)
    (hstep : m.driverStep event = some m') : Served m m' := by
  cases event with
  | turn polled => exact served_turn h hstep
  | abort =>
      simp only [driverStep] at hstep
      split at hstep
      · cases hstep
        exact served_finish h
      · cases hstep
  | release =>
      cases hstep
      exact ⟨rfl, List.prefix_rfl, h.increasing, h.below, h.ended⟩

theorem mem_of_lookup {replies : List (Nat × StreamReply)} {index : Nat} {reply : StreamReply}
    (h : replies.lookup index = some reply) : (index, reply) ∈ replies := by
  obtain ⟨before, after, rfl, -⟩ := List.lookup_eq_some_iff.mp h
  exact List.mem_append_right _ List.mem_cons_self

theorem getElem?_log {place request : Nat} {reply : StreamReply}
    (h : m.replies[place]? = some (request, reply)) : m.log[place]? = some request := by
  have hlt : place < m.replies.length := (List.getElem?_eq_some_iff.mp h).1
  rw [log, List.append_assoc, List.getElem?_append_left (by simpa using hlt), List.getElem?_map, h]
  rfl

theorem Answers.lt_of_lt (h : m.Answers) {place later index other stream stream' : Nat}
    (hplace : m.replies[place]? = some (index, .stream stream))
    (hlater : m.replies[later]? = some (other, .stream stream')) (hlt : place < later) :
    stream < stream' := by
  obtain ⟨hp, hget⟩ := List.getElem?_eq_some_iff.mp hplace
  obtain ⟨hq, hget'⟩ := List.getElem?_eq_some_iff.mp hlater
  have hearlier := List.pairwise_iff_getElem.mp h.increasing place later hp hq hlt
  exact hearlier stream stream' (by rw [hget]) (by rw [hget'])

end Turns

end Multiplexer

namespace Openings

section Runs

variable {s s' : Openings} {label : OpeningLabel}

theorem step_eq_some (h : step s label = some s') :
    poolStep (fun m opening => !m.released && decide (opening = .sending)) Opening.step
      Multiplexer.driverStep s label = some s' := by
  unfold step at h
  split at h
  · split at h
    · exact h
    · cases h
  · exact h

/-- What holds of a tunnel and its callers: every request is in one place, and whoever holds a
stream was answered with it. -/
structure Inv (s : Openings) : Prop where
  answers : s.shared.Answers
  nodup : s.shared.log.Nodup
  queued : ∀ index ∈ s.shared.log, ∃ opening, s.tasks[index]? = some opening ∧ opening ≠ .sending
  awaiting : ∀ index, s.tasks[index]? = some .awaiting → index ∈ s.shared.log
  given : ∀ index stream, s.streamAt index = some stream →
    (index, .stream stream) ∈ s.shared.replies

theorem inv_init : Inv init := by
  refine ⟨⟨List.Pairwise.nil, fun _ _ h => ?_, fun _ => ⟨rfl, rfl⟩⟩, List.nodup_nil, fun _ h => ?_,
    fun _ h => ?_, fun _ _ h => ?_⟩
  · cases h
  · cases h
  · cases h
  · cases h

theorem opening_step {index : Nat} {m m' : Multiplexer} {opening opening' : Opening}
    {choice : OpeningChoice} (h : opening.step index m choice = some (m', opening')) :
    opening' ≠ .sending ∧
    ((opening = .sending ∧ opening' = .awaiting ∧ m.driver ≠ .ended ∧
        m' = { m with requests := m.requests ++ [index] }) ∨
      (m' = m ∧ opening' ≠ .awaiting ∧ ∀ stream, opening'.stream = some stream →
        opening.stream = some stream ∨ (index, .stream stream) ∈ m.replies)) := by
  unfold Opening.step at h
  split at h
  · cases h
  split at h
  · cases h
    exact ⟨by simp, .inr ⟨rfl, by simp, by simp [Opening.stream]⟩⟩
  cases opening with
  | sending =>
      simp only at h
      split at h
      · cases h
        exact ⟨by simp, .inr ⟨rfl, by simp, by simp [Opening.stream]⟩⟩
      · next hrunning =>
          split at h
          · cases h
            exact ⟨by simp, .inl ⟨rfl, rfl, hrunning, rfl⟩⟩
          · cases h
  | awaiting =>
      simp only at h
      split at h
      · next stream hreply =>
          cases h
          refine ⟨by simp, .inr ⟨rfl, by simp, fun stream' hstream => .inr ?_⟩⟩
          rw [Opening.stream, Option.some.injEq] at hstream
          exact hstream ▸ Multiplexer.mem_of_lookup hreply
      · cases h
        exact ⟨by simp, .inr ⟨rfl, by simp, by simp [Opening.stream]⟩⟩
      · split at h
        · cases h
          exact ⟨by simp, .inr ⟨rfl, by simp, by simp [Opening.stream]⟩⟩
        · cases h
  | writing stream =>
      simp only at h
      split at h
      · cases h
        exact ⟨by simp, .inr ⟨rfl, by simp, by simp [Opening.stream]⟩⟩
      · cases h
        exact ⟨by simp, .inr ⟨rfl, by simp, fun stream' hstream => .inl hstream⟩⟩
  | finished result => cases h
  | abandoned => cases h

theorem inv_step (hs : Inv s) (h : step s label = some s') : Inv s' := by
  have hpool := step_eq_some h
  cases label with
  | spawn opening =>
      obtain ⟨hstarts, rfl⟩ := poolStep_spawn hpool
      have hsending : opening = .sending := of_decide_eq_true (Bool.and_eq_true_iff.mp hstarts).2
      subst hsending
      refine ⟨hs.answers, hs.nodup, fun index hindex => ?_, fun index hawaiting => ?_,
        fun index stream hstream => ?_⟩
      · obtain ⟨opening, hopening, hqueued⟩ := hs.queued index hindex
        exact ⟨opening, getElem?_append_of_some hopening, hqueued⟩
      · rcases getElem?_append_cases hawaiting with hawaiting | hnew
        · exact hs.awaiting index hawaiting
        · cases hnew
      · obtain ⟨opening, hopening, hholds⟩ := Option.bind_eq_some_iff.mp hstream
        rcases getElem?_append_cases hopening with hopening | rfl
        · exact hs.given index stream (Option.bind_eq_some_iff.mpr ⟨opening, hopening, hholds⟩)
        · cases hholds
  | environment event =>
      obtain ⟨m, hevent, rfl⟩ := poolStep_environment hpool
      have hserved := Multiplexer.served_driverStep hs.answers hevent
      refine ⟨hserved.answers, hserved.log ▸ hs.nodup, fun index hindex => ?_,
        fun index hawaiting => ?_, fun index stream hstream => ?_⟩
      · exact hs.queued index (hserved.log ▸ hindex)
      · rw [hserved.log]
        exact hs.awaiting index hawaiting
      · exact hserved.replies.subset (hs.given index stream hstream)
  | advance moved choice =>
      obtain ⟨opening, m, opening', hopening, hmoves, rfl⟩ := poolStep_advance hpool
      obtain ⟨hqueued, hcases⟩ := opening_step hmoves
      have hset : ∀ {index : Nat} {other : Opening}, index ≠ moved →
          s.tasks[index]? = some other → (s.tasks.set moved opening')[index]? = some other := by
        intro index other hne hother
        rw [List.getElem?_set_ne (Ne.symm hne)]
        exact hother
      have hself : (s.tasks.set moved opening')[moved]? = some opening' :=
        List.getElem?_set_self (List.getElem?_eq_some_iff.mp hopening).1
      rcases hcases with ⟨rfl, rfl, hrunning, rfl⟩ | ⟨rfl, hanswered, hgiven⟩
      · have hlog : Multiplexer.log { s.shared with requests := s.shared.requests ++ [moved] } =
            s.shared.log ++ [moved] := by
          simp [Multiplexer.log]
        have hnew : moved ∉ s.shared.log := by
          intro hmem
          obtain ⟨opening, hother, hnot⟩ := hs.queued moved hmem
          rw [hopening, Option.some.injEq] at hother
          exact hnot hother.symm
        refine ⟨⟨hs.answers.increasing, hs.answers.below, fun hended => absurd hended hrunning⟩,
          ?_, fun index hindex => ?_, fun index hawaiting => ?_, fun index stream hstream => ?_⟩
        · rw [hlog]
          exact List.nodup_append.mpr ⟨hs.nodup, List.nodup_singleton _, fun a ha b hb heq =>
            hnew (List.mem_singleton.mp hb ▸ heq ▸ ha)⟩
        · rw [hlog] at hindex
          rcases List.mem_append.mp hindex with hindex | hindex
          · obtain ⟨other, hother, hnot⟩ := hs.queued index hindex
            exact ⟨other, hset (fun heq => hnew (heq ▸ hindex)) hother, hnot⟩
          · rw [List.mem_singleton.mp hindex]
            exact ⟨.awaiting, hself, by simp⟩
        · rw [hlog]
          rcases getElem?_set_cases hawaiting with ⟨rfl, -⟩ | ⟨-, hawaiting⟩
          · exact List.mem_append_right _ (List.mem_singleton_self _)
          · exact List.mem_append_left _ (hs.awaiting index hawaiting)
        · obtain ⟨other, hother, hholds⟩ := Option.bind_eq_some_iff.mp hstream
          rcases getElem?_set_cases hother with ⟨-, rfl⟩ | ⟨-, hother⟩
          · cases hholds
          · exact hs.given index stream (Option.bind_eq_some_iff.mpr ⟨other, hother, hholds⟩)
      · refine ⟨hs.answers, hs.nodup, fun index hindex => ?_, fun index hawaiting => ?_,
          fun index stream hstream => ?_⟩
        · by_cases hne : index = moved
          · exact ⟨opening', hne ▸ hself, hqueued⟩
          · obtain ⟨other, hother, hnot⟩ := hs.queued index hindex
            exact ⟨other, hset hne hother, hnot⟩
        · rcases getElem?_set_cases hawaiting with ⟨-, heq⟩ | ⟨-, hawaiting⟩
          · exact absurd heq.symm hanswered
          · exact hs.awaiting index hawaiting
        · obtain ⟨other, hother, hholds⟩ := Option.bind_eq_some_iff.mp hstream
          rcases getElem?_set_cases hother with ⟨rfl, rfl⟩ | ⟨-, hother⟩
          · rcases hgiven stream hholds with hheld | hreply
            · exact hs.given index stream (Option.bind_eq_some_iff.mpr ⟨opening, hopening, hheld⟩)
            · exact hreply
          · exact hs.given index stream (Option.bind_eq_some_iff.mpr ⟨other, hother, hholds⟩)

theorem log_step (hs : Inv s) (h : step s label = some s') :
    s.shared.log <+: s'.shared.log := by
  have hpool := step_eq_some h
  cases label with
  | spawn opening =>
      obtain ⟨-, rfl⟩ := poolStep_spawn hpool
      exact List.prefix_rfl
  | environment event =>
      obtain ⟨m, hevent, rfl⟩ := poolStep_environment hpool
      rw [(Multiplexer.served_driverStep hs.answers hevent).log]
  | advance moved choice =>
      obtain ⟨opening, m, opening', hopening, hmoves, rfl⟩ := poolStep_advance hpool
      rcases (opening_step hmoves).2 with ⟨-, -, -, rfl⟩ | ⟨rfl, -⟩
      · simp [Multiplexer.log]
      · exact List.prefix_rfl

def Released (s : Openings) : Prop :=
  s.shared.released = true → ∀ opening ∈ s.tasks, opening.settled = true

theorem released_step (hs : Released s) (h : step s label = some s') : Released s' := by
  have hpool := step_eq_some h
  cases label with
  | spawn opening =>
      obtain ⟨hstarts, rfl⟩ := poolStep_spawn hpool
      intro hreleased
      simp [show s.shared.released = true from hreleased] at hstarts
  | environment event =>
      obtain ⟨m, hevent, rfl⟩ := poolStep_environment hpool
      cases event with
      | release =>
          simp only [step] at h
          split at h
          · next hsettled => exact fun _ => List.all_eq_true.mp hsettled
          · cases h
      | turn polled =>
          intro hreleased
          exact hs (Multiplexer.released_turn hevent ▸ hreleased)
      | abort =>
          intro hreleased
          simp only [Multiplexer.driverStep] at hevent
          split at hevent
          · cases hevent
            exact hs hreleased
          · cases hevent
  | advance moved choice =>
      obtain ⟨opening, m, opening', hopening, hmoves, rfl⟩ := poolStep_advance hpool
      intro hreleased
      have hsame : m.released = s.shared.released := by
        rcases (opening_step hmoves).2 with ⟨-, -, -, rfl⟩ | ⟨rfl, -⟩ <;> rfl
      have hsettled := hs (hsame ▸ hreleased) opening (List.mem_of_getElem? hopening)
      unfold Opening.step at hmoves
      rw [if_pos hsettled] at hmoves
      cases hmoves

/-- How far the driver is from having answered everything. -/
def rank (m : Multiplexer) : Nat :=
  4 * (2 * m.requests.length + m.pending.length) + match m.driver with
    | .parked => 2
    | .draining => 1
    | .opening _ => if m.pending = [] then 3 else 0
    | .inbound _ => 2
    | .ended => 0

/-- Where the connection is ready, the driver goes on, answers with streams only, and is nearer to
having answered everything. -/
theorem ready_turn {m : Multiplexer} (hrunning : m.driver ≠ .ended) (hopen : m.released = false) :
    ∃ m', m.turn .ready = some m' ∧ m'.driver ≠ .ended ∧
      (∃ new, m'.replies = m.replies ++ new ∧ ∀ answer ∈ new, ∃ stream, answer.2 = .stream stream) ∧
      (m.pending ++ m.requests ≠ [] → rank m' < rank m) := by
  obtain ⟨requests, pending, replies, opened, driver, released⟩ := m
  simp only at hrunning hopen
  subst hopen
  cases driver with
  | ended => exact absurd rfl hrunning
  | parked =>
      refine ⟨_, rfl, by simp, ⟨[], by simp⟩, fun _ => ?_⟩
      simp [rank]
  | inbound progressed =>
      refine ⟨_, rfl, by simp, ⟨[], by simp⟩, fun _ => ?_⟩
      simp [rank]
  | draining =>
      cases requests with
      | nil =>
          refine ⟨_, rfl, by simp, ⟨[], by simp⟩, fun hwork => ?_⟩
          have hpending : pending ≠ [] := by simpa using hwork
          simp [rank, hpending]
      | cons request requests =>
          refine ⟨_, rfl, by simp, ⟨[], by simp⟩, fun _ => ?_⟩
          simp only [rank, List.length_cons, List.length_append, List.length_nil]
          omega
  | opening progressed =>
      cases pending with
      | nil =>
          refine ⟨_, rfl, by simp, ⟨[], by simp⟩, fun _ => ?_⟩
          simp [rank]
      | cons request pending =>
          refine ⟨_, rfl, by simp, ⟨[(request, .stream opened)], by simp⟩, fun _ => ?_⟩
          simp only [rank, List.length_cons, reduceCtorEq, if_false]
          split <;> omega

/-- The driver alone answers everything that is queued, while the connection is ready. -/
theorem all_served (hs : Inv s) (hrunning : s.shared.driver ≠ .ended)
    (hopen : s.shared.released = false) :
    ∃ turns s' new, run step s (List.replicate turns (.environment (.turn .ready))) = some s' ∧
      s'.shared.log = s'.shared.replies.map Prod.fst ∧ s'.shared.log = s.shared.log ∧
      s'.shared.replies = s.shared.replies ++ new ∧
      ∀ answer ∈ new, ∃ stream, answer.2 = .stream stream := by
  -- By how far the driver is from having answered everything.
  induction hrank : rank s.shared using Nat.strong_induction_on generalizing s with
  | _ n ih =>
      by_cases hwork : s.shared.pending ++ s.shared.requests = []
      · refine ⟨0, s, [], rfl, ?_, rfl, by simp, by simp⟩
        obtain ⟨hpending, hrequests⟩ := List.append_eq_nil_iff.mp hwork
        simp [Multiplexer.log, hpending, hrequests]
      · obtain ⟨m, hturn, hrunning', ⟨first, hfirst, hstreams⟩, hless⟩ := ready_turn hrunning hopen
        have hstep : step s (.environment (.turn .ready)) = some { s with shared := m } := by
          simp [step, poolStep, Multiplexer.driverStep, hturn]
        have hserved := Multiplexer.served_turn hs.answers hturn
        obtain ⟨turns, s', rest, hrun, hdone, hlog, hreplies, hrest⟩ :=
          ih (rank m) (hrank ▸ hless hwork) (s := { s with shared := m }) (inv_step hs hstep)
            hrunning' ((Multiplexer.released_turn hturn).trans hopen) rfl
        refine ⟨turns + 1, s', first ++ rest, ?_, hdone, hlog.trans hserved.log, ?_, ?_⟩
        · rw [List.replicate_succ]
          exact run_cons_eq_some.mpr ⟨_, hstep, hrun⟩
        · rw [hreplies]
          show m.replies ++ rest = _
          rw [hfirst, List.append_assoc]
        · intro answer hanswer
          rcases List.mem_append.mp hanswer with hanswer | hanswer
          · exact hstreams answer hanswer
          · exact hrest answer hanswer

end Runs

section Reached

variable {labels : List OpeningLabel} {s : Openings}

theorem inv_of_run (hrun : run step init labels = some s) : Inv s :=
  run_invariant (fun _ _ _ hs _ hstep => inv_step hs hstep) inv_init (meets_true init labels) hrun

theorem released_of_run (hrun : run step init labels = some s) : Released s := by
  refine run_invariant (fun _ _ _ hs _ hstep => released_step hs hstep) ?_ (meets_true init labels)
    hrun
  intro hreleased
  cases hreleased

end Reached

/-- In every run a stream belongs to one caller, whoever gave up in between, and of two callers the
one whose request was queued first has the stream that was opened first. -/
theorem streams_in_order (labels labels' : List OpeningLabel) (s s' : Openings)
    (hrun : run step init labels = some s) (hrun' : run step s labels' = some s')
    (index other stream stream' : Nat) (hstream : s'.streamAt index = some stream)
    (hstream' : s'.streamAt other = some stream') :
    (stream = stream' → index = other) ∧
      (index ∈ s.shared.log → other ∉ s.shared.log → stream < stream') := by
  have hs : Inv s := inv_of_run hrun
  have hs' : Inv s' :=
    run_invariant (fun _ _ _ hs _ hstep => inv_step hs hstep) hs (meets_true s labels') hrun'
  have hlog : s.shared.log <+: s'.shared.log := by
    have hboth : Inv s' ∧ s.shared.log <+: s'.shared.log :=
      run_invariant (P := fun t => Inv t ∧ s.shared.log <+: t.shared.log)
        (fun _ _ _ h _ hstep => ⟨inv_step h.1 hstep, h.2.trans (log_step h.1 hstep)⟩)
        ⟨hs, List.prefix_rfl⟩ (meets_true s labels') hrun'
    exact hboth.2
  obtain ⟨place, hplace⟩ := List.mem_iff_getElem?.mp (hs'.given index stream hstream)
  obtain ⟨place', hplace'⟩ := List.mem_iff_getElem?.mp (hs'.given other stream' hstream')
  have hat := Multiplexer.getElem?_log hplace
  have hat' := Multiplexer.getElem?_log hplace'
  constructor
  · rintro rfl
    rcases lt_trichotomy place place' with hlt | rfl | hgt
    · exact absurd (hs'.answers.lt_of_lt hplace hplace' hlt) (Nat.lt_irrefl _)
    · exact Option.some.inj (hat.symm.trans hat')
    · exact absurd (hs'.answers.lt_of_lt hplace' hplace hgt) (Nat.lt_irrefl _)
  · intro hindex hother
    refine hs'.answers.lt_of_lt hplace hplace' ?_
    obtain ⟨new, hnew⟩ := hlog
    obtain ⟨before, hbefore⟩ := List.mem_iff_getElem?.mp hindex
    have hqueued : before < s.shared.log.length := (List.getElem?_eq_some_iff.mp hbefore).1
    have hsame : place = before := by
      refine (List.getElem?_inj (List.getElem?_eq_some_iff.mp hat).1 hs'.nodup).mp ?_
      rw [hat, ← hnew, List.getElem?_append_left hqueued, hbefore]
    have hlate : s.shared.log.length ≤ place' := by
      by_contra hlt
      rw [← hnew, List.getElem?_append_left (Nat.lt_of_not_le hlt)] at hat'
      exact hother (List.mem_of_getElem? hat')
    omega

def queueTwo : List OpeningLabel :=
  [.spawn .sending, .spawn .sending, .advance 0 {}, .environment (.turn .ready),
    .environment (.turn .ready), .advance 1 {}, .advance 0 { timedOut := true }, .spawn .sending]

def serveAll : List OpeningLabel :=
  [.environment (.turn .ready), .environment (.turn .ready), .advance 2 {}] ++
  List.replicate 8 (.environment (.turn .ready)) ++ [.advance 1 {}, .advance 2 {}]

theorem streams_in_order_serveAll :
    ∃ s s', run step init queueTwo = some s ∧ run step s serveAll = some s' ∧
      s'.streamAt 1 = some 1 ∧ s'.streamAt 2 = some 2 ∧ 1 < 2 := by
  obtain ⟨s, hrun, hfirst, hsecond, hrest⟩ := exists_run step init queueTwo
    (fun s => 1 ∈ s.shared.log ∧ 2 ∉ s.shared.log ∧
      (run step s serveAll).any (fun s' =>
        decide (s'.streamAt 1 = some 1 ∧ s'.streamAt 2 = some 2)) = true) (by decide)
  obtain ⟨s', hrun', hs'⟩ := (Option.any_eq_true _ _).mp hrest
  obtain ⟨hstream, hstream'⟩ := of_decide_eq_true hs'
  exact ⟨s, s', hrun, hrun', hstream, hstream',
    (streams_in_order queueTwo serveAll s s' hrun hrun' 1 2 1 2 hstream hstream').2 hfirst hsecond⟩

/-- In every run a caller that waits has its answer already, or the driver still runs and, left
alone with a connection that is ready, comes to give it a stream: none waits on a driver that is
gone. -/
theorem awaiting_answered (labels : List OpeningLabel) (s : Openings)
    (hrun : run step init labels = some s) (index : Nat)
    (hawaiting : s.tasks[index]? = some .awaiting) :
    (s.shared.replies.lookup index).isSome = true ∨
      (s.shared.driver ≠ .ended ∧
        ∃ turns s' stream,
          run step s (List.replicate turns (.environment (.turn .ready))) = some s' ∧
          s'.shared.replies.lookup index = some (.stream stream)) := by
  have hs : Inv s := inv_of_run hrun
  cases hreply : s.shared.replies.lookup index with
  | some reply => exact .inl rfl
  | none =>
      have hqueued : index ∈ s.shared.log := hs.awaiting index hawaiting
      have hunanswered : index ∉ s.shared.replies.map Prod.fst := by
        intro hmem
        obtain ⟨answer, hanswer, hfst⟩ := List.mem_map.mp hmem
        have hother := List.lookup_eq_none_iff.mp hreply answer hanswer
        simp [hfst] at hother
      have hrunning : s.shared.driver ≠ .ended := by
        intro hended
        obtain ⟨hpending, hrequests⟩ := hs.answers.ended hended
        rw [Multiplexer.log, hpending, hrequests, List.append_nil, List.append_nil] at hqueued
        exact hunanswered hqueued
      have hopen : s.shared.released = false := by
        rw [Bool.eq_false_iff]
        intro hreleased
        have hsettled := released_of_run hrun hreleased _ (List.mem_of_getElem? hawaiting)
        cases hsettled
      obtain ⟨turns, s', new, hturns, hdone, hlog, hreplies, hstreams⟩ :=
        all_served hs hrunning hopen
      rw [← hlog, hdone, hreplies, List.map_append, List.mem_append] at hqueued
      obtain ⟨answer, hanswer, hfst⟩ := List.mem_map.mp (hqueued.resolve_left hunanswered)
      have hfound : (new.lookup index).isSome = true :=
        List.lookup_isSome_iff.mpr ⟨answer, hanswer, by simp [hfst]⟩
      obtain ⟨reply, hlookup⟩ := Option.isSome_iff_exists.mp hfound
      obtain ⟨stream, hstream⟩ := hstreams _ (Multiplexer.mem_of_lookup hlookup)
      refine .inr ⟨hrunning, turns, s', stream, hturns, ?_⟩
      rw [hreplies, List.lookup_append, hreply, Option.none_or, hlookup]
      exact congrArg some hstream

/-- The second of them waits while the first has given up. -/
theorem awaiting_answered_queueTwo :
    ∃ s turns s' stream, run step init queueTwo = some s ∧
      run step s (List.replicate turns (.environment (.turn .ready))) = some s' ∧
      s'.shared.replies.lookup 1 = some (.stream stream) := by
  obtain ⟨s, hrun, hawaiting, hunanswered⟩ := exists_run step init queueTwo
    (fun s => s.tasks[1]? = some .awaiting ∧ s.shared.replies.lookup 1 = none) (by decide)
  rcases awaiting_answered queueTwo s hrun 1 hawaiting with
    hanswered | ⟨-, turns, s', stream, hturns, hstream⟩
  · rw [hunanswered] at hanswered
    cases hanswered
  · exact ⟨s, turns, s', stream, hrun, hturns, hstream⟩

end Openings

end TermexoRelay
