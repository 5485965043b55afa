import TermexoRelay.Library.Run
import TermexoRelay.Proxy.Target

/-!
# Carrying a stream from relay to relay

A relay's proxy opens a stream on the tunnel its routing table names. Where that tunnel leads to
another relay, the stream is carried on: the preface gains the relay's own id and a stream is
opened on the next tunnel. Nothing is assumed about the tables, which may change between any two
steps; the two guards of `extend` alone bound the way of a stream.
-/

namespace TermexoRelay

open Transition

inductive TunnelError where
  | closed
  | offline
  | invalidTarget
  | openTimeout
  | preface (error : String)
deriving DecidableEq, Repr

def TunnelError.message : TunnelError → String
  | closed => "设备隧道已断开。"
  | offline => "设备当前不在线。"
  | invalidTarget => "请求的目标不是一台已知设备。"
  | openTimeout => "设备在超时前没有接受新的连接。"
  | preface error => "写入流前导失败：" ++ error

/-- Why a stream the upstream opened could not be carried any further. -/
inductive StreamRejection where
  | preface (error : String)
  | loop
  | budget (hops : Nat)
  | unknown (target : String)
  | opening (error : TunnelError)
deriving DecidableEq, Repr

def StreamRejection.message : StreamRejection → String
  | preface error => error
  | loop => "流前导已经过本中继，说明中继链成环。"
  | budget hops => "流前导已经过 " ++ toString hops ++ " 台中继，再转发一跳会超过上限。"
  | unknown target => "目标设备 " ++ target ++ " 不在本中继的路由表中。"
  | opening error => error.message

/-- The preface for the next hop: the same target, with this relay recorded on the path. -/
def extend (maxHops : Nat) (preface : StreamPreface) (relayId : String) :
    Except StreamRejection StreamPreface :=
  if relayId ∈ preface.hops then .error .loop
  else if maxHops ≤ preface.hops.length then .error (.budget preface.hops.length)
  else .ok { preface with hops := preface.hops ++ [relayId] }

/-- `carry` up to the copying: the tunnel it opened a stream on, and the preface it sent there.
`read` is what `read_preface` returned, `opened` what `open_stream` returns on a tunnel. -/
def carry (maxHops : Nat) (relayId : String) (registry : RegistryState)
    (read : Except String StreamPreface) (opened : TunnelHandle → Except TunnelError Unit) :
    Except StreamRejection (TunnelHandle × StreamPreface) := do
  let preface ← read.mapError .preface
  let forwarded ← extend maxHops preface relayId
  let route ← match registry.route forwarded.target with
    | some route => Except.ok route
    | none => Except.error (.unknown forwarded.target)
  (opened route.link).mapError .opening
  return (route.link, forwarded)

/-- Relays, named by their ids, with their routing tables and the far ends of their tunnels: a
relay, or `none` for a device that serves the stream itself. -/
structure Network where
  registry : String → RegistryState
  peer : String → TunnelHandle → Option String

inductive Position where
  /-- At a relay that has not carried it yet, with the preface as it was sent. -/
  | arriving (relayId : String) (preface : StreamPreface)
  | delivered (relayId : String) (preface : StreamPreface)
  | rejected (relayId : String) (rejection : StreamRejection)
deriving DecidableEq, Repr

/-- A stream with the relays that have carried it so far. -/
structure Stream where
  carriedBy : List String
  position : Position
deriving DecidableEq, Repr

def Position.preface : Position → Option StreamPreface
  | arriving _ preface => some preface
  | delivered _ preface => some preface
  | rejected _ _ => none

def Position.ended : Position → Bool
  | arriving _ _ => false
  | delivered _ _ => true
  | rejected _ _ => true

/-- What one carrying finds: the network at that moment, and the outcomes of reading the preface
and of opening the next stream. -/
structure CarryChoice where
  network : Network
  read : Except String Unit
  opened : TunnelHandle → Except TunnelError Unit

namespace Stream

/-- The far end of a tunnel receives the preface. -/
def arrive (network : Network) (relayId : String) (handle : TunnelHandle)
    (preface : StreamPreface) : Position :=
  match network.peer relayId handle with
  | some peer => .arriving peer preface
  | none => .delivered relayId preface

/-- The proxy of `relayId` opens a stream for a device. -/
def openedBy (version : Nat) (network : Network) (relayId deviceId : String) : Option Stream :=
  ((network.registry relayId).route deviceId).map fun route =>
    ⟨[], arrive network relayId route.link (streamPreface version route deviceId relayId)⟩

/-- The relay the stream has reached serves it. -/
def step (maxHops : Nat) (stream : Stream) (choice : CarryChoice) : Option Stream :=
  match stream.position with
  | .arriving relayId preface =>
      match carry maxHops relayId (choice.network.registry relayId)
          (choice.read.map fun _ => preface) choice.opened with
      | .ok (handle, forwarded) =>
          some ⟨stream.carriedBy ++ [relayId], arrive choice.network relayId handle forwarded⟩
      | .error rejection => some { stream with position := .rejected relayId rejection }
  | .delivered _ _ => none
  | .rejected _ _ => none

end Stream

section Extend

variable {maxHops : Nat} {preface forwarded : StreamPreface} {relayId : String}

theorem extend_eq_ok : extend maxHops preface relayId = .ok forwarded ↔
    relayId ∉ preface.hops ∧ preface.hops.length < maxHops ∧
      forwarded = { preface with hops := preface.hops ++ [relayId] } := by
  unfold extend
  split
  · next hloop => simp [hloop]
  · next hloop =>
      split
      · next hbudget => simp [Nat.not_lt.mpr hbudget]
      · next hbudget =>
          rw [Except.ok.injEq, eq_comm]
          have hlt : preface.hops.length < maxHops := Nat.lt_of_not_le hbudget
          simp [hloop, hlt]

theorem carry_eq_ok {registry : RegistryState} {read : Except String StreamPreface}
    {opened : TunnelHandle → Except TunnelError Unit} {handle : TunnelHandle} :
    carry maxHops relayId registry read opened = .ok (handle, forwarded) ↔
      ∃ preface route, read = .ok preface ∧ extend maxHops preface relayId = .ok forwarded ∧
        registry.route forwarded.target = some route ∧ opened route.link = .ok () ∧
        handle = route.link := by
  constructor
  · intro h
    cases hread : read with
    | error error => simp [carry, hread, Except.mapError, bind, Except.bind] at h
    | ok preface =>
        cases hextend : extend maxHops preface relayId with
        | error rejection =>
            simp [carry, hread, hextend, Except.mapError, bind, Except.bind] at h
        | ok forwarded' =>
            cases hroute : registry.route forwarded'.target with
            | none =>
                simp [carry, hread, hextend, hroute, Except.mapError, bind, Except.bind] at h
            | some route =>
                cases hopened : opened route.link with
                | error error =>
                    simp [carry, hread, hextend, hroute, hopened, Except.mapError, bind,
                      Except.bind] at h
                | ok opening =>
                    simp only [carry, hread, hextend, hroute, hopened, Except.mapError, bind,
                      Except.bind, pure, Except.pure, Except.ok.injEq, Prod.mk.injEq] at h
                    obtain ⟨rfl, rfl⟩ := h
                    exact ⟨preface, route, rfl, hextend, hroute, hopened, rfl⟩
  · rintro ⟨preface, route, rfl, hextend, hroute, hopened, rfl⟩
    simp [carry, hextend, hroute, hopened, Except.mapError, bind, Except.bind, pure, Except.pure]

end Extend

namespace Stream

section Steps

variable {maxHops : Nat} {stream next : Stream} {choice : CarryChoice}

theorem step_cases (h : stream.step maxHops choice = some next) :
    ∃ relayId preface, stream.position = .arriving relayId preface ∧
      ((∃ handle forwarded, extend maxHops preface relayId = .ok forwarded ∧
          next = ⟨stream.carriedBy ++ [relayId],
            arrive choice.network relayId handle forwarded⟩) ∨
        ∃ rejection, next = ⟨stream.carriedBy, .rejected relayId rejection⟩) := by
  unfold step at h
  split at h
  · next relayId preface hposition =>
      refine ⟨relayId, preface, hposition, ?_⟩
      split at h
      · next handle forwarded hcarry =>
          obtain ⟨read, route, hread, hextend, -⟩ := carry_eq_ok.mp hcarry
          have hpreface : read = preface := by
            cases hok : choice.read with
            | error error => simp [hok, Except.map] at hread
            | ok done =>
                simp only [hok, Except.map, Except.ok.injEq] at hread
                exact hread.symm
          rw [hpreface] at hextend
          exact .inl ⟨handle, forwarded, hextend, (Option.some.inj h).symm⟩
      · next rejection _ => exact .inr ⟨rejection, (Option.some.inj h).symm⟩
  · cases h
  · cases h

theorem step_isSome (h : stream.position.ended = false) (choice : CarryChoice) :
    ∃ next, stream.step maxHops choice = some next := by
  unfold step
  cases hposition : stream.position with
  | delivered relayId preface =>
      rw [hposition] at h
      cases h
  | rejected relayId rejection =>
      rw [hposition] at h
      cases h
  | arriving relayId preface =>
      cases hcarry : carry maxHops relayId (choice.network.registry relayId)
          (choice.read.map fun _ => preface) choice.opened with
      | error rejection => simp [hcarry]
      | ok next => simp [hcarry]

@[simp] theorem arrive_preface (network : Network) (relayId : String) (handle : TunnelHandle)
    (preface : StreamPreface) :
    (arrive network relayId handle preface).preface = some preface := by
  unfold arrive
  cases network.peer relayId handle <;> rfl

/-- The hops of the preface are distinct, within the budget, and end with the relays that have
carried the stream; the opening relay may stand before them. -/
structure Bounded (maxHops : Nat) (stream : Stream) : Prop where
  distinct : stream.carriedBy.Nodup
  budget : stream.carriedBy.length ≤ maxHops
  recorded : ∀ preface, stream.position.preface = some preface →
    preface.hops.Nodup ∧ preface.hops.length ≤ maxHops ∧ stream.carriedBy <:+ preface.hops

theorem bounded_step (h : stream.Bounded maxHops) (hstep : stream.step maxHops choice = some next) :
    next.Bounded maxHops := by
  obtain ⟨relayId, preface, hposition, hcases⟩ := step_cases hstep
  have hpreface : stream.position.preface = some preface := by rw [hposition]; rfl
  obtain ⟨hnodup, -, hsuffix⟩ := h.recorded preface hpreface
  rcases hcases with ⟨handle, forwarded, hextend, rfl⟩ | ⟨rejection, rfl⟩
  · obtain ⟨hnew, hroom, rfl⟩ := extend_eq_ok.mp hextend
    have hhops : (preface.hops ++ [relayId]).Nodup := by
      rw [← List.concat_eq_append]
      exact hnodup.concat hnew
    have hend : stream.carriedBy ++ [relayId] <:+ preface.hops ++ [relayId] := by
      obtain ⟨opener, hopener⟩ := hsuffix
      exact ⟨opener, by rw [← hopener, List.append_assoc]⟩
    have hlength : (preface.hops ++ [relayId]).length ≤ maxHops := by
      rw [List.length_append, List.length_singleton]
      exact hroom
    refine ⟨hhops.sublist hend.sublist, hend.length_le.trans hlength, ?_⟩
    intro sent hsent
    rw [arrive_preface, Option.some.injEq] at hsent
    subst hsent
    exact ⟨hhops, hlength, hend⟩
  · exact ⟨h.distinct, h.budget, fun sent hsent => nomatch hsent⟩

def served (stream : Stream) : Nat :=
  match stream.position with
  | .rejected _ _ => stream.carriedBy.length + 1
  | _ => stream.carriedBy.length

theorem served_step (hstep : stream.step maxHops choice = some next) :
    next.served = stream.served + 1 := by
  obtain ⟨relayId, preface, hposition, hcases⟩ := step_cases hstep
  have hstream : stream.served = stream.carriedBy.length := by rw [served, hposition]
  rcases hcases with ⟨handle, forwarded, -, rfl⟩ | ⟨rejection, rfl⟩
  · rw [hstream, served, arrive]
    cases choice.network.peer relayId handle <;> simp
  · rw [hstream, served]

theorem served_run {choices : List CarryChoice}
    (hrun : run (step maxHops) stream choices = some next) :
    next.served = stream.served + choices.length := by
  induction choices generalizing stream with
  | nil =>
      rw [run_nil, Option.some.injEq] at hrun
      subst hrun
      rfl
  | cons choice choices ih =>
      obtain ⟨m, hm, hrest⟩ := run_cons_eq_some.mp hrun
      rw [ih hrest, served_step hm, List.length_cons]
      omega

theorem step_of_full {relayId : String} {preface : StreamPreface}
    (hposition : stream.position = .arriving relayId preface)
    (hfull : maxHops ≤ preface.hops.length) (hstep : stream.step maxHops choice = some next) :
    ∃ rejection, next.position = .rejected relayId rejection := by
  obtain ⟨relayId', preface', hposition', hcases⟩ := step_cases hstep
  rw [hposition, Position.arriving.injEq] at hposition'
  obtain ⟨rfl, rfl⟩ := hposition'
  rcases hcases with ⟨handle, forwarded, hextend, -⟩ | ⟨rejection, rfl⟩
  · obtain ⟨-, hroom, -⟩ := extend_eq_ok.mp hextend
    omega
  · exact ⟨rejection, rfl⟩

end Steps

theorem bounded_openedBy {maxHops version : Nat} {network : Network} {relayId deviceId : String}
    {stream : Stream} (hmax : 0 < maxHops)
    (hopen : openedBy version network relayId deviceId = some stream) :
    stream.Bounded maxHops ∧ stream.served = 0 := by
  obtain ⟨route, -, rfl⟩ := Option.map_eq_some_iff.mp hopen
  refine ⟨⟨List.nodup_nil, Nat.zero_le _, ?_⟩, ?_⟩
  · intro preface hpreface
    rw [arrive_preface, Option.some.injEq] at hpreface
    subst hpreface
    cases route with
    | direct handle => exact ⟨List.nodup_nil, Nat.zero_le _, List.nil_suffix⟩
    | via link hops => exact ⟨List.nodup_singleton _, hmax, List.nil_suffix⟩
  · rw [served, arrive]
    cases network.peer relayId route.link <;> rfl

end Stream

/-- Whatever the tables are at each step, no relay carries a stream twice, its hops stay distinct
and within the budget, and after as many steps as the budget it has ended or is rejected next. -/
theorem stream_forwarding_bounded (maxHops version : Nat) (hmax : 0 < maxHops)
    (network : Network) (relayId deviceId : String) (opened stream : Stream)
    (choices : List CarryChoice)
    (hopen : Stream.openedBy version network relayId deviceId = some opened)
    (hrun : run (Stream.step maxHops) opened choices = some stream) :
    stream.carriedBy.Nodup ∧ stream.carriedBy.length ≤ maxHops ∧
    (∀ preface, stream.position.preface = some preface →
      preface.hops.Nodup ∧ preface.hops.length ≤ maxHops) ∧
    (stream.position.ended = false →
      ∀ choice, ∃ next, Stream.step maxHops stream choice = some next) ∧
    (maxHops ≤ choices.length → stream.position.ended = true ∨
      ∀ choice next, Stream.step maxHops stream choice = some next →
        ∃ relayId rejection, next.position = .rejected relayId rejection) := by
  obtain ⟨hbounded, hserved⟩ := Stream.bounded_openedBy hmax hopen
  have hstream : stream.Bounded maxHops :=
    run_invariant (fun _ _ _ hs _ hstep => Stream.bounded_step hs hstep) hbounded
      (meets_true opened choices) hrun
  have hcount := Stream.served_run hrun
  rw [hserved, Nat.zero_add] at hcount
  refine ⟨hstream.distinct, hstream.budget, ?_, Stream.step_isSome, ?_⟩
  · intro preface hpreface
    obtain ⟨hnodup, hlength, -⟩ := hstream.recorded preface hpreface
    exact ⟨hnodup, hlength⟩
  · intro hlong
    cases hposition : stream.position with
    | delivered relayId preface => exact .inl rfl
    | rejected relayId rejection => exact .inl rfl
    | arriving relayId preface =>
        right
        intro choice next hstep
        have hpreface : stream.position.preface = some preface := by rw [hposition]; rfl
        have hsuffix := (hstream.recorded preface hpreface).2.2.length_le
        have hcarried : stream.served = stream.carriedBy.length := by rw [Stream.served, hposition]
        obtain ⟨rejection, hrejected⟩ :=
          Stream.step_of_full hposition (by omega) hstep
        exact ⟨relayId, rejection, hrejected⟩

def ringNetwork : Network where
  registry _ :=
    { RegistryState.empty with
      entries := (∅ : Table String Entry).insert "device-a"
        ((AnnouncedDevice.mk "device-a" "desk" true ["relay-x"]).entry "link" ⟨"link", 0⟩ 0 0) }
  peer relayId _ := some (if relayId = "relay-a" then "relay-b" else "relay-a")

def ringChoice : CarryChoice := ⟨ringNetwork, .ok (), fun _ => .ok ()⟩

/-- The first relay refuses its own stream when it comes back. -/
theorem stream_forwarding_bounded_ring :
    ∃ stream, (Stream.openedBy 1 ringNetwork "relay-a" "device-a").bind
      (fun opened => run (Stream.step 2) opened [ringChoice, ringChoice]) = some stream ∧
    stream = ⟨["relay-b"], .rejected "relay-a" .loop⟩ ∧ stream.carriedBy.Nodup := by
  refine ⟨_, by decide, rfl, ?_⟩
  exact (stream_forwarding_bounded 2 1 (by decide) ringNetwork "relay-a" "device-a"
    ⟨[], .arriving "relay-b" ⟨1, "device-a", ["relay-a"]⟩⟩ _ [ringChoice, ringChoice]
    (by decide) (by decide)).1

end TermexoRelay
