import TermexoRelay.Tunnel.Tasks

/-!
# How a tunnel ends

Whichever of the three tasks of a tunnel ends first, the session comes to take the tunnel off the
registry without any help: the peer may be gone, the queues full and nobody else awake. Every step
the tasks take by themselves makes less of what they can still do.
-/

namespace TermexoRelay

open Transition

def TunnelReader.rank : TunnelReader → Nat
  | delivering _ => 12
  | reading => 10
  | stopped _ => 8
  | closed _ => 5
  | joining _ => 4
  | leaving _ => 2
  | left _ => 0

def TunnelWriter.rank : TunnelWriter → Nat
  | sending => 4
  | sendingClose => 4
  | selecting => 3
  | closing => 2
  | ended => 0

def DriverTask.rank : DriverTask → Nat
  | running => 2
  | aborted => 1
  | ended => 0

namespace TunnelTasks

variable {s s' : TunnelTasks} {label : TaskLabel}

/-- One of the three tasks has ended, or is about to. -/
def ending (s : TunnelTasks) : Bool :=
  !s.reader.serves || !s.writer.loops || decide (s.driver ≠ .running)

/-- What the tasks do by themselves, once a socket operation they wait for has returned: whatever
comes from the peer, from other tasks, from the timer or from the streams is not of it. A driver
that has not ended reads what is queued for it. -/
def owns (s : TunnelTasks) : TaskLabel → Bool
  | .reader => true
  | .takeData => true
  | .takeCommand => true
  | .socketReturns _ => true
  | .driverReads => true
  | .driverEnds => decide (s.driver = .aborted)
  | _ => false

def remaining (s : TunnelTasks) : Nat :=
  s.reader.rank + s.writer.rank + s.driver.rank + s.inbound.queued.length +
    2 * (s.data.queued.length + s.outgoing.queued.length)

theorem remaining_le (s : TunnelTasks) :
    s.remaining ≤ 3 * FRAME_QUEUE_CAPACITY + 2 * COMMAND_CAPACITY + 18 := by
  have hreader : s.reader.rank ≤ 12 := by cases s.reader <;> simp [TunnelReader.rank]
  have hwriter : s.writer.rank ≤ 4 := by cases s.writer <;> decide
  have hdriver : s.driver.rank ≤ 2 := by cases s.driver <;> decide
  have hinbound := s.inbound.bounded
  have hdata := s.data.bounded
  have houtgoing := s.outgoing.bounded
  unfold remaining
  omega

theorem remaining_step (howns : s.owns label = true) (h : s.step label = some s') :
    s'.remaining < s.remaining := by
  cases step_eq_some h with
  | received => cases howns
  | failed => cases howns
  | ticked => cases howns
  | driverWrote => cases howns
  | queued => cases howns
  | noticed hreader =>
      simp only [remaining, hreader, TunnelReader.rank]
      omega
  | delivered hreader hput =>
      have hqueued := congrArg List.length (Fifo.put_eq_some hput).2
      rw [List.length_append, List.length_singleton] at hqueued
      simp only [remaining, hreader, TunnelReader.rank, hqueued]
      omega
  | undelivered hreader =>
      simp only [remaining, hreader, TunnelReader.rank]
      omega
  | closed hreader =>
      have hqueued := s.length_queue_le (.close .goingAway REASON_CLOSING)
      simp only [remaining, hreader, TunnelReader.rank, writer_queue, driver_queue, inbound_queue,
        data_queue]
      omega
  | aborted hreader =>
      have hdriver : s.driver.abort.rank ≤ s.driver.rank := by cases s.driver <;> decide
      simp only [remaining, hreader, TunnelReader.rank]
      omega
  | joined hreader =>
      simp only [remaining, hreader, TunnelReader.rank]
      omega
  | left hreader =>
      simp only [remaining, hreader, TunnelReader.rank]
      omega
  | tookData hwriter htake =>
      simp only [remaining, hwriter, TunnelWriter.rank, (Fifo.take_eq_some htake).1,
        List.length_cons]
      omega
  | drained hwriter =>
      simp only [remaining, hwriter, TunnelWriter.rank]
      omega
  | tookControl hwriter htake =>
      simp only [remaining, hwriter, TunnelWriter.rank, (Fifo.take_eq_some htake).1,
        List.length_cons]
      omega
  | tookClose hwriter htake =>
      simp only [remaining, hwriter, TunnelWriter.rank, (Fifo.take_eq_some htake).1,
        List.length_cons]
      omega
  | wentOn hwriter =>
      simp only [remaining, hwriter, TunnelWriter.rank]
      omega
  | gaveUp hwriter =>
      have hrank : s.writer.rank = 4 := by
        obtain hwriter | hwriter := hwriter
        · rw [hwriter]; rfl
        · rw [hwriter]; rfl
      have hclosing : TunnelWriter.closing.rank = 2 := rfl
      simp only [remaining, hrank, hclosing]
      omega
  | signalled hwriter =>
      simp only [remaining, hwriter, TunnelWriter.rank]
      omega
  | driverRead htake =>
      simp only [remaining, (Fifo.take_eq_some htake).1, List.length_cons]
      omega
  | driverEnded =>
      have hdriver : s.driver = .aborted := of_decide_eq_true howns
      simp only [remaining, hdriver, DriverTask.rank]
      omega

theorem ending_of (hending : s.ending = true)
    (hreader : s'.reader.serves = true → s.reader.serves = true)
    (hwriter : s'.writer.loops = true → s.writer.loops = true)
    (hdriver : s'.driver = .running → s.driver = .running) : s'.ending = true := by
  simp only [ending, Bool.or_eq_true, Bool.not_eq_true', decide_eq_true_eq] at hending ⊢
  grind

theorem ending_step (hending : s.ending = true) (h : s.step label = some s') :
    s'.ending = true := by
  cases step_eq_some h with
  | received hreader =>
      exact ending_of hending (fun _ => by rw [hreader]; rfl) (by simp) (by simp)
  | failed => exact ending_of hending (fun h => by cases h) id id
  | noticed => exact ending_of hending (fun h => by cases h) id id
  | delivered hreader => exact ending_of hending (fun _ => by rw [hreader]; rfl) id id
  | undelivered => exact ending_of hending (fun h => by cases h) id id
  | closed => exact ending_of hending (fun h => by cases h) (by simp) (by simp)
  | aborted =>
      have hdriver : s.driver.abort = .running → s.driver = .running := by
        cases s.driver <;> simp [DriverTask.abort]
      exact ending_of hending (fun h => by cases h) id hdriver
  | joined => exact ending_of hending (fun h => by cases h) id id
  | left => exact ending_of hending (fun h => by cases h) id id
  | tookData hwriter => exact ending_of hending id (fun _ => by rw [hwriter]; rfl) id
  | drained => exact ending_of hending id (fun h => by cases h) id
  | tookControl hwriter => exact ending_of hending id (fun _ => by rw [hwriter]; rfl) id
  | tookClose => exact ending_of hending id (fun h => by cases h) id
  | ticked hwriter => exact ending_of hending id (fun _ => by rw [hwriter]; rfl) id
  | wentOn hwriter => exact ending_of hending id (fun _ => by rw [hwriter]; rfl) id
  | gaveUp => exact ending_of hending id (fun h => by cases h) id
  | signalled => exact ending_of hending id (fun h => by cases h) id
  | driverEnded => exact ending_of hending id id (fun h => by cases h)
  | queued => exact ending_of hending (by simp) (by simp) (by simp)
  | _ => exact ending_of hending id id id

/-- Something of the tasks can go on by itself, without the socket. -/
def GoesOn (s : TunnelTasks) : Prop :=
  ∃ label, (∀ ok, label ≠ .socketReturns ok) ∧ s.owns label = true ∧ (s.step label).isSome = true

theorem goesOn_reader (h : s.readerTurn.isSome = true) : s.GoesOn :=
  ⟨.reader, by simp, rfl, h⟩

theorem goesOn_selecting (hwriter : s.writer = .selecting) (hdriver : s.driver ≠ .running) :
    s.GoesOn := by
  cases hd : s.driver with
  | running => exact absurd hd hdriver
  | aborted =>
      refine ⟨.driverEnds, by simp, ?_, ?_⟩
      · simp [owns, hd]
      · simp [step, hd]
  | ended =>
      refine ⟨.takeData, by simp, rfl, ?_⟩
      cases htake : s.data.take with
      | none => simp [step, takeData, hwriter, htake, hd]
      | some next => simp [step, takeData, hwriter, htake]

theorem goesOn_delivering {bytes : Bytes} (hreader : s.reader = .delivering bytes) : s.GoesOn := by
  by_cases hdriver : s.driver = .ended
  · exact goesOn_reader (by simp [readerTurn, hreader, hdriver])
  cases hput : s.inbound.put bytes with
  | some inbound => exact goesOn_reader (by simp [readerTurn, hreader, hdriver, hput])
  | none =>
      cases htake : s.inbound.take with
      | some next => exact ⟨.driverReads, by simp, rfl, by simp [step, hdriver, htake]⟩
      | none =>
          have hfull := Fifo.put_eq_none hput
          rw [Fifo.take_eq_none htake] at hfull
          cases hfull

/-- While a session ends it can always go on by itself, unless the writer waits for the socket. -/
theorem goesOn_of_ending (hs : s.Inv) (hending : s.ending = true)
    (hsocket : s.writer.onSocket = false) (hleft : ∀ cause, s.reader ≠ .left cause) :
    s.GoesOn := by
  have hwriter : s.writer = .selecting ∨ s.writer = .ended := by
    cases hw : s.writer with
    | selecting => exact .inl rfl
    | ended => exact .inr rfl
    | _ => simp [hw, TunnelWriter.onSocket] at hsocket
  cases hreader : s.reader with
  | stopped cause => exact goesOn_reader (by simp [readerTurn, hreader])
  | closed cause => exact goesOn_reader (by simp [readerTurn, hreader])
  | leaving cause => exact goesOn_reader (by simp [readerTurn, hreader])
  | left cause => exact absurd hreader (hleft cause)
  | delivering bytes => exact goesOn_delivering hreader
  | joining cause =>
      obtain hselecting | hended := hwriter
      · exact goesOn_selecting hselecting (hs.aborted (by rw [hreader]; rfl))
      · exact goesOn_reader (by simp [readerTurn, hreader, hended])
  | reading =>
      obtain hselecting | hended := hwriter
      · have hdriver : s.driver ≠ .running := by
          simpa [ending, hreader, hselecting, TunnelReader.serves, TunnelWriter.loops] using hending
        exact goesOn_selecting hselecting hdriver
      · have hshutdown := hs.signalled.mpr hended
        exact goesOn_reader (by simp [readerTurn, hreader, hshutdown])

theorem socketReturns_of_onSocket (ok : Bool) (h : s.writer.onSocket = true) :
    (s.step (.socketReturns ok)).isSome = true := by
  cases hwriter : s.writer with
  | selecting => simp [hwriter, TunnelWriter.onSocket] at h
  | ended => simp [hwriter, TunnelWriter.onSocket] at h
  | _ => simp [step, socketReturns, hwriter]

theorem sent_of_ended {after : List TaskLabel} (hwriter : s.writer = .ended)
    (hrun : run step s after = some s') : s'.sent = s.sent := by
  have hstep : ∀ (t : TunnelTasks) (l : TaskLabel) (t' : TunnelTasks),
      (t.writer = .ended ∧ t.sent = s.sent) → True → t.step l = some t' →
        t'.writer = .ended ∧ t'.sent = s.sent := by
    intro t l t' ht _ h
    cases step_eq_some h with
    | received => simpa using ht
    | closed => simpa using ht
    | queued => simpa using ht
    | signalled => exact ⟨rfl, ht.2⟩
    | tookData hselecting => simp [ht.1] at hselecting
    | drained hselecting => simp [ht.1] at hselecting
    | tookControl hselecting => simp [ht.1] at hselecting
    | tookClose hselecting => simp [ht.1] at hselecting
    | ticked hselecting => simp [ht.1] at hselecting
    | wentOn hsending => simp [ht.1] at hsending
    | gaveUp hsending => simp [ht.1] at hsending
    | _ => exact ht
  exact (run_invariant hstep ⟨hwriter, rfl⟩ (meets_true s after) hrun).2

/-- Once one of the tasks has ended, the session comes to its end by itself: however it goes on, it
takes a bounded number of steps, and it stops nowhere but with the tunnel off the registry, its
writer ended and its driver told to end. All it ever waits for is an operation of the writer on the
socket. -/
theorem teardown (welcome hello : ControlFrame) (before : List TaskLabel) (s : TunnelTasks)
    (hrun : run step (start welcome hello) before = some s) (hending : s.ending = true) :
    ∀ after s', run step s after = some s' →
      s'.ending = true ∧
      (Meets step (fun s label => s.owns label = true) s after →
        after.length ≤ 3 * FRAME_QUEUE_CAPACITY + 2 * COMMAND_CAPACITY + 18) ∧
      ((∀ label, s'.owns label = true → s'.step label = none) →
        ∃ cause, s'.reader = .left cause) ∧
      ((∀ label, (∀ ok, label ≠ .socketReturns ok) → s'.owns label = true →
          s'.step label = none) →
        (∃ cause, s'.reader = .left cause) ∨ s'.writer.onSocket = true) ∧
      ∀ cause, s'.reader = .left cause → s'.writer = .ended ∧ s'.driver ≠ .running ∧
        ∀ later s'', run step s' later = some s'' → s''.sent = s'.sent := by
  intro after s' hafter
  have hs' : s'.Inv := inv_of_reachable ⟨before ++ after, by rw [run_append, hrun]; exact hafter⟩
  have hending' : s'.ending = true :=
    run_invariant (P := fun s => s.ending = true) (fun _ _ _ ht _ h => ending_step ht h) hending
      (meets_true s after) hafter
  have hstops : (∀ label, (∀ ok, label ≠ .socketReturns ok) → s'.owns label = true →
      s'.step label = none) → (∃ cause, s'.reader = .left cause) ∨ s'.writer.onSocket = true := by
    intro hnone
    by_cases hleft : ∃ cause, s'.reader = .left cause
    · exact .inl hleft
    by_cases hsocket : s'.writer.onSocket = true
    · exact .inr hsocket
    obtain ⟨label, hlabel, howns, hstep⟩ := goesOn_of_ending hs' hending'
      (by simpa using hsocket) (not_exists.mp hleft)
    rw [hnone label hlabel howns] at hstep
    cases hstep
  refine ⟨hending', ?_, ?_, hstops, ?_⟩
  · intro howns
    have hlength : after.length + s'.remaining ≤ s.remaining :=
      length_add_measure_le (fun _ _ _ => remaining_step) howns hafter
    have hbound := s.remaining_le
    omega
  · intro hnone
    obtain hleft | hsocket := hstops fun label _ => hnone label
    · exact hleft
    · have hreturns := socketReturns_of_onSocket true hsocket
      rw [hnone (.socketReturns true) rfl] at hreturns
      cases hreturns
  · intro cause hleft
    have hwriter := hs'.joined (by rw [hleft]; rfl)
    exact ⟨hwriter, hs'.aborted (by rw [hleft]; rfl), fun later s'' => sent_of_ended hwriter⟩

/-- The multiplexer of a tunnel ends, and the rest of the tunnel after it. -/
theorem teardown_driverEnds :
    ∃ s, run step deskTunnel [.driverEnds, .takeData, .socketReturns true, .reader, .reader,
        .reader, .reader, .reader] = some s ∧ s.reader = .left .closedByRelay ∧
      s.writer = .ended := by
  obtain ⟨s, hrun, hleft⟩ := exists_run step { deskTunnel with driver := .ended }
    [.takeData, .socketReturns true, .reader, .reader, .reader, .reader, .reader]
    (fun s => s.reader = .left .closedByRelay) (by decide)
  have hend := teardown _ _ [.driverEnds] { deskTunnel with driver := .ended } rfl rfl _ s hrun
  exact ⟨s, hrun, hleft, (hend.2.2.2.2 _ hleft).1⟩

end TunnelTasks

end TermexoRelay
