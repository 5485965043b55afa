import TermexoRelay.Library.Interleaving
import TermexoRelay.Registry.Operations

/-!
# What becomes of a registered tunnel

`connect` returns the tunnel it displaced, which its caller has to close, and `disconnect` whether
it removed one. Beside a pool of registry operations everything they returned is kept in order, so
that each registration can be followed to its end. Seen from the direct tunnels alone, the routing
table is a register per device that only these two operations write.
-/

namespace TermexoRelay

open Transition

/-- What a call returned, and what it was called with. `replaced` is not returned: it is the serial
of the registration whose tunnel was displaced. -/
inductive Returned where
  | connected (presence : DirectPresence) (serial : Nat) (displaced : Option TunnelHandle)
      (replaced : Option Nat)
  | disconnected (deviceId : String) (serial : Nat) (removed : Bool)
deriving DecidableEq, Repr

namespace Returned

/-- A connect of the device that returned this tunnel of this registration as displaced. -/
def displaces (deviceId : String) (serial : Nat) (handle : TunnelHandle) : Returned → Bool
  | connected presence _ displaced replaced =>
      decide (presence.deviceId = deviceId) && decide (displaced = some handle) &&
        decide (replaced = some serial)
  | disconnected _ _ _ => false

/-- A disconnect that carried this serial and removed the tunnel. -/
def removes (deviceId : String) (serial : Nat) : Returned → Bool
  | connected _ _ _ _ => false
  | disconnected deviceId' serial' removed =>
      decide (deviceId' = deviceId) && decide (serial' = serial) && removed

def serial : Returned → Option Nat
  | connected _ serial _ _ => some serial
  | disconnected _ _ _ => none

end Returned

namespace RegistryState

/-- The direct tunnel of a device: its serial and its handle. -/
def registration (state : RegistryState) (deviceId : String) : Option (Nat × TunnelHandle) :=
  (state.entries.lookup deviceId).bind fun entry => match entry.origin with
    | .direct serial => some (serial, entry.device.route.link)
    | .announced _ => none

/-- The handle is in the current direct entry of its device, under this serial. -/
def Current (state : RegistryState) (presence : DirectPresence) (serial : Nat) : Prop :=
  ∃ entry, state.entries.lookup presence.deviceId = some entry ∧ entry.origin = .direct serial ∧
    entry.device.route = .direct presence.handle

section Registration

variable {state state' : RegistryState} {relayId deviceId linkDeviceId : String} {serial : Nat}

theorem registration_eq_some {handle : TunnelHandle} :
    state.registration deviceId = some (serial, handle) ↔ ∃ entry,
      state.entries.lookup deviceId = some entry ∧ entry.origin = .direct serial ∧
        entry.device.route.link = handle := by
  unfold registration
  rw [Option.bind_eq_some_iff]
  refine exists_congr fun entry => and_congr_right fun _ => ?_
  cases entry.origin <;> simp

theorem registered_iff_registration :
    state.registered deviceId serial = true ↔
      (state.registration deviceId).map Prod.fst = some serial := by
  rw [registered_iff, registration]
  cases state.entries.lookup deviceId with
  | none => simp
  | some entry => cases horigin : entry.origin <;> simp [horigin]

theorem WellFormed.current_iff (h : state.WellFormed) {presence : DirectPresence} :
    state.Current presence serial ↔
      state.registration presence.deviceId = some (serial, presence.handle) := by
  rw [registration_eq_some]
  refine exists_congr fun entry => and_congr_right fun hentry =>
    and_congr_right fun horigin => ?_
  obtain ⟨handle, hroute⟩ := (h _ _ hentry).direct serial horigin
  rw [hroute, Route.link, Route.direct.injEq]

theorem displaced_connectLocked (presence : DirectPresence) (now : Int) :
    (state.connectLocked relayId presence serial now).2.1 =
      (state.registration presence.deviceId).map Prod.snd := by
  unfold connectLocked registration
  cases state.entries.lookup presence.deviceId with
  | none => rfl
  | some entry => cases horigin : entry.origin <;> simp [horigin]

theorem registration_connectLocked (presence : DirectPresence) (now : Int) :
    (state.connectLocked relayId presence serial now).1.registration =
      Function.update state.registration presence.deviceId (some (serial, presence.handle)) := by
  funext id
  by_cases hid : id = presence.deviceId
  · subst hid
    rw [Function.update_self, registration, connectLocked_entries, AList.lookup_insert]
    rfl
  · rw [Function.update_of_ne hid, registration, connectLocked_entries, AList.lookup_insert_ne hid]
    rfl

theorem registration_of_announced {entry : Entry}
    (hentry : state.entries.lookup deviceId = some entry)
    (horigin : entry.origin = .announced linkDeviceId) : state.registration deviceId = none := by
  rw [registration, hentry, Option.bind_some, horigin]

theorem registration_disconnectLocked {announced : List String} {changes : List RegistryChange}
    (hperm : announced.Perm (state.announcedIdsOf deviceId))
    (h : state.disconnectLocked relayId deviceId serial announced = some (state', changes)) :
    state'.registration = Function.update state.registration deviceId none := by
  obtain ⟨-, hentries, -, -⟩ := disconnectLocked_eq_some h
  funext id
  have hlookup := hentries id
  by_cases hid : id = deviceId
  · subst hid
    rw [if_pos List.mem_cons_self] at hlookup
    rw [Function.update_self, registration, hlookup, Option.bind_none]
  · rw [Function.update_of_ne hid]
    by_cases hmem : id ∈ announced
    · rw [if_pos (List.mem_cons_of_mem _ hmem)] at hlookup
      obtain ⟨entry, hentry, horigin⟩ := mem_announcedIdsOf.mp (hperm.mem_iff.mp hmem)
      rw [registration_of_announced hentry horigin, registration, hlookup, Option.bind_none]
    · rw [if_neg (by simp [hid, hmem])] at hlookup
      rw [registration, hlookup, registration]

theorem WellFormed.direct_announceLocked (hs : state.WellFormed) {link : TunnelHandle}
    {device : AnnouncedDevice} {sequence : Nat} {now : Int} {change : Option RegistryChange}
    (h : state.announceLocked relayId linkDeviceId link device sequence now =
      some (state', change)) {entry : Entry}
    (hentry : state.entries.lookup deviceId = some entry)
    (horigin : entry.origin = .direct serial) : device.id ≠ deviceId := by
  rintro rfl
  obtain ⟨handle, hroute⟩ := (hs _ _ hentry).direct serial horigin
  have hwins := (announceLocked_eq_some h).1 entry hentry
  rw [hroute] at hwins
  cases hwins

theorem WellFormed.registration_announceLocked (hs : state.WellFormed) {link : TunnelHandle}
    {device : AnnouncedDevice} {sequence : Nat} {now : Int} {change : Option RegistryChange}
    (h : state.announceLocked relayId linkDeviceId link device sequence now =
      some (state', change)) : state'.registration = state.registration := by
  obtain ⟨-, hentries, -, -⟩ := announceLocked_eq_some h
  funext id
  by_cases hid : id = device.id
  · subst hid
    have hnone : state.registration device.id = none := by
      rw [Option.eq_none_iff_forall_ne_some]
      rintro ⟨serial, handle⟩ hsome
      obtain ⟨entry, hentry, horigin, -⟩ := registration_eq_some.mp hsome
      exact hs.direct_announceLocked h hentry horigin rfl
    rw [hnone, registration, hentries, AList.lookup_insert]
    rfl
  · rw [registration, hentries, AList.lookup_insert_ne hid, registration]

theorem registration_withdrawLocked {now : Int} {change : Option RegistryChange}
    (h : state.withdrawLocked relayId linkDeviceId deviceId now = some (state', change)) :
    state'.registration = state.registration := by
  obtain ⟨entry, hentry, horigin, hentries, -, -⟩ := withdrawLocked_eq_some h
  funext id
  by_cases hid : id = deviceId
  · subst hid
    rw [registration_of_announced hentry horigin, registration, hentries, AList.lookup_erase,
      Option.bind_none]
  · rw [registration, hentries, AList.lookup_erase_ne hid, registration]

end Registration

end RegistryState

namespace Job

/-- What the action returns to the caller, when it ends a call of `connect` or `disconnect`. -/
def returns (relayId : String) (registry : Registry) (choice : JobChoice) : Job → Option Returned
  | .connecting presence serial =>
      some (.connected presence serial
        (registry.state.connectLocked relayId presence serial choice.now).2.1
        ((registry.state.registration presence.deviceId).map Prod.fst))
  | .disconnect deviceId serial =>
      some (.disconnected deviceId serial
        (registry.state.disconnectLocked relayId deviceId serial choice.order).isSome)
  | _ => none

def drawn : Job → Option Nat
  | .connecting _ serial => some serial
  | _ => none

/-- An operation on announced devices. -/
def isAnnouncing : Job → Bool
  | .announce _ _ _ _ => true
  | .announcing _ _ _ _ _ => true
  | .withdraw _ _ _ => true
  | .apply _ _ _ => true
  | _ => false

end Job

structure CalledRegistry where
  registry : Registry
  returned : List Returned
deriving DecidableEq

abbrev RegistrationState := Pool CalledRegistry Job
abbrev RegistrationLabel := PoolLabel Job JobChoice Empty

namespace Registrations

def advance (relayId : String) (maxHops : Nat) (shared : CalledRegistry) (job : Job)
    (choice : JobChoice) : Option (CalledRegistry × Job) :=
  (job.step relayId maxHops shared.registry choice).map fun next =>
    (⟨next.1, shared.returned ++ (job.returns relayId shared.registry choice).toList⟩, next.2.1)

def step (relayId : String) (maxHops : Nat) :
    RegistrationState → RegistrationLabel → Option RegistrationState :=
  poolStep (fun _ job => job.starts) (fun _ => advance relayId maxHops) fun _ event => nomatch event

def init : RegistrationState := ⟨⟨.new, []⟩, []⟩

end Registrations

/-- What an action does to the direct tunnels, and what it returns. -/
inductive CallEffect (before : String → Option (Nat × TunnelHandle)) :
    Job → (String → Option (Nat × TunnelHandle)) → Option Returned → Prop
  | silent {job : Job} : CallEffect before job before none
  | connected (presence : DirectPresence) (serial : Nat) :
      CallEffect before (.connecting presence serial)
        (Function.update before presence.deviceId (some (serial, presence.handle)))
        (some (.connected presence serial ((before presence.deviceId).map Prod.snd)
          ((before presence.deviceId).map Prod.fst)))
  | removed {deviceId : String} {serial : Nat}
      (h : (before deviceId).map Prod.fst = some serial) :
      CallEffect before (.disconnect deviceId serial) (Function.update before deviceId none)
        (some (.disconnected deviceId serial true))
  | stale {deviceId : String} {serial : Nat}
      (h : (before deviceId).map Prod.fst ≠ some serial) :
      CallEffect before (.disconnect deviceId serial) before
        (some (.disconnected deviceId serial false))

section Steps

variable {relayId : String} {maxHops : Nat} {registry registry' : Registry} {choice : JobChoice}
  {job job' : Job} {changes : List RegistryChange}

theorem Job.callEffect (hs : registry.state.WellFormed)
    (h : job.step relayId maxHops registry choice = some (registry', job', changes)) :
    CallEffect registry.state.registration job registry'.state.registration
      (job.returns relayId registry choice) := by
  cases Job.step_cases h with
  | connected =>
      rw [RegistryState.registration_connectLocked, Job.returns,
        RegistryState.displaced_connectLocked]
      exact .connected _ _
  | disconnected hperm hlocked =>
      rw [RegistryState.registration_disconnectLocked hperm hlocked, Job.returns, hlocked]
      exact .removed (RegistryState.registered_iff_registration.mp
        (RegistryState.disconnectLocked_eq_some hlocked).1)
  | displaced hlocked =>
      rw [Job.returns, hlocked]
      refine .stale fun hregistered => ?_
      rw [← RegistryState.registered_iff_registration] at hregistered
      simp [RegistryState.disconnectLocked, hregistered] at hlocked
  | installed hlocked =>
      rw [hs.registration_announceLocked hlocked]
      exact .silent
  | withdrawn hlocked =>
      rw [RegistryState.registration_withdrawLocked hlocked]
      exact .silent
  | _ => exact .silent

theorem Job.drawn_step {serial : Nat} (hdrawn : job'.drawn = some serial)
    (h : job.step relayId maxHops registry choice = some (registry', job', changes)) :
    serial = registry.sequence ∧ registry'.sequence = registry.sequence + 1 := by
  have hnone : ∀ linkDeviceId link deviceId batch accepted,
      (resume linkDeviceId link deviceId batch accepted).drawn = none := fun _ link =>
    resume_property (P := fun job => job.drawn = none) rfl (fun _ _ => rfl) link fun _ _ => rfl
  cases step_cases h with
  | numbered =>
      cases hdrawn
      exact ⟨rfl, rfl⟩
  | connected => cases hdrawn
  | disconnected hperm hlocked => cases hdrawn
  | displaced hlocked => cases hdrawn
  | routable hroutable => cases hdrawn
  | unroutable hroutable | installed hlocked | outrun hlocked =>
      rw [hnone] at hdrawn
      cases hdrawn
  | withdrawn hlocked | absent hlocked =>
      rw [sweep_property (P := fun job => job.drawn = none) rfl fun _ _ => rfl] at hdrawn
      cases hdrawn
  | listed hperm =>
      rw [proceed_property (P := fun job => job.drawn = none) rfl (fun _ _ => rfl) _
        fun _ _ => rfl] at hdrawn
      cases hdrawn

theorem Job.direct_entry_kept (hs : registry.state.WellFormed) (hjob : job.isAnnouncing = true)
    (h : job.step relayId maxHops registry choice = some (registry', job', changes))
    {deviceId : String} {entry : Entry} {serial : Nat}
    (hentry : registry.state.entries.lookup deviceId = some entry)
    (horigin : entry.origin = .direct serial) :
    registry'.state.entries.lookup deviceId = some entry := by
  cases step_cases h with
  | connected => cases hjob
  | disconnected hperm hlocked => cases hjob
  | installed hlocked =>
      have hne := hs.direct_announceLocked hlocked hentry horigin
      simp only [(RegistryState.announceLocked_eq_some hlocked).2.1]
      exact (AList.lookup_insert_ne (Ne.symm hne)).trans hentry
  | @withdrawn _ id _ _ _ hlocked =>
      obtain ⟨owned, howned, hannounced, hentries, -⟩ :=
        RegistryState.withdrawLocked_eq_some hlocked
      have hne : deviceId ≠ id := by
        rintro rfl
        rw [hentry, Option.some.injEq] at howned
        rw [howned, hannounced] at horigin
        cases horigin
      simp only [hentries]
      exact (AList.lookup_erase_ne hne).trans hentry
  | _ => exact hentry

end Steps

namespace Registrations

/-- Where the registration a connect returned is by now: `after` is everything returned since. Its
handle is current, or one connect displaced it, or one disconnect removed it. -/
structure Balanced (current : String → Option (Nat × TunnelHandle)) (presence : DirectPresence)
    (serial : Nat) (after : List Returned) : Prop where
  held : ∀ handle, current presence.deviceId = some (serial, handle) → handle = presence.handle
  balance : (if current presence.deviceId = some (serial, presence.handle) then 1 else 0) +
    after.countP (Returned.displaces presence.deviceId serial presence.handle) +
    after.countP (Returned.removes presence.deviceId serial) = 1

theorem balanced_new (before : String → Option (Nat × TunnelHandle)) (presence : DirectPresence)
    (serial : Nat) : Balanced (Function.update before presence.deviceId
      (some (serial, presence.handle))) presence serial [] where
  held handle h := by
    rw [Function.update_self, Option.some.injEq, Prod.mk.injEq] at h
    exact h.2.symm
  balance := by simp

/-- What leaves the register is returned by the call that takes it out. -/
theorem Balanced.step {before after : String → Option (Nat × TunnelHandle)} {job : Job}
    {returned : Option Returned} (h : CallEffect before job after returned)
    {presence : DirectPresence} {serial : Nat} {log : List Returned}
    (hb : Balanced before presence serial log) (hdrawn : job.drawn ≠ some serial) :
    Balanced after presence serial (log ++ returned.toList) := by
  cases h with
  | silent => simpa using hb
  | stale hstale =>
      refine ⟨hb.held, ?_⟩
      have hbalance := hb.balance
      simpa [List.countP_append, List.countP_cons, Returned.displaces, Returned.removes]
        using hbalance
  | @removed deviceId serial' hregistered =>
      obtain ⟨⟨serial'', handle⟩, hbefore, heq⟩ := Option.map_eq_some_iff.mp hregistered
      obtain rfl : serial'' = serial' := heq
      have hbalance := hb.balance
      by_cases hid : deviceId = presence.deviceId
      · subst hid
        refine ⟨fun handle h => by simp at h, ?_⟩
        by_cases hserial : serial'' = serial
        · subst hserial
          have hhandle := hb.held handle hbefore
          subst hhandle
          rw [hbefore, if_pos rfl] at hbalance
          simp [List.countP_append, Returned.displaces, Returned.removes]
          omega
        · rw [if_neg (by simp [hbefore, hserial])] at hbalance
          simp [List.countP_append, Returned.displaces, Returned.removes, hserial]
          omega
      · refine ⟨fun handle h => hb.held handle ?_, ?_⟩
        · rwa [Function.update_of_ne (Ne.symm hid)] at h
        · simpa [List.countP_append, Returned.displaces, Returned.removes, hid,
            Function.update_of_ne (Ne.symm hid)] using hbalance
  | connected other serial' =>
      have hserial : serial' ≠ serial := fun heq => hdrawn (congrArg some heq)
      have hbalance := hb.balance
      by_cases hid : other.deviceId = presence.deviceId
      · rw [hid]
        refine ⟨fun handle h => by simp [hserial] at h, ?_⟩
        by_cases hcurrent : ∃ handle, before presence.deviceId = some (serial, handle)
        · obtain ⟨handle, hbefore⟩ := hcurrent
          have hhandle := hb.held handle hbefore
          subst hhandle
          rw [hbefore, if_pos rfl] at hbalance
          simp [List.countP_append, Returned.displaces, Returned.removes, hid, hserial, hbefore]
          omega
        · have hother : (before presence.deviceId).map Prod.fst ≠ some serial := by
            rw [ne_eq, Option.map_eq_some_iff]
            rintro ⟨⟨serial'', handle⟩, hbefore, rfl⟩
            exact hcurrent ⟨handle, hbefore⟩
          rw [if_neg fun hbefore => hcurrent ⟨_, hbefore⟩] at hbalance
          simp [List.countP_append, Returned.displaces, Returned.removes, hid, hserial, hother]
          omega
      · refine ⟨fun handle h => hb.held handle ?_, ?_⟩
        · rwa [Function.update_of_ne (Ne.symm hid)] at h
        · simpa [List.countP_append, Returned.displaces, Returned.removes, hid,
            Function.update_of_ne (Ne.symm hid)] using hbalance

private theorem concat_eq_append_cons {α : Type*} {log before after : List α} {last entry : α}
    (h : log ++ [last] = before ++ entry :: after) :
    (after = [] ∧ entry = last) ∨
      ∃ rest, after = rest ++ [last] ∧ log = before ++ entry :: rest := by
  rcases after.eq_nil_or_concat with rfl | ⟨rest, final, rfl⟩
  · exact .inl ⟨rfl, (List.append_inj_right' h rfl |> List.cons.inj).1.symm⟩
  · rw [List.concat_eq_append, ← List.cons_append, ← List.append_assoc] at h
    obtain ⟨hlog, hlast⟩ := List.append_inj' h rfl
    rw [List.concat_eq_append, (List.cons.inj hlast).1]
    exact .inr ⟨rest, rfl, hlog⟩

structure Inv (p : RegistrationState) : Prop where
  wellFormed : p.shared.registry.state.WellFormed
  drawn : ∀ job ∈ p.tasks, ∀ serial, job.drawn = some serial →
    serial < p.shared.registry.sequence
  distinct : DistinctKeys Job.drawn p.tasks
  returned : ∀ event ∈ p.shared.returned, ∀ serial, event.serial = some serial →
    serial < p.shared.registry.sequence ∧ ∀ job ∈ p.tasks, job.drawn ≠ some serial
  balanced : ∀ before after presence serial displaced replaced,
    p.shared.returned = before ++ .connected presence serial displaced replaced :: after →
      Balanced p.shared.registry.state.registration presence serial after

theorem inv_init : Inv init where
  wellFormed := RegistryState.wellFormed_empty
  drawn job hjob := by cases hjob
  distinct i j t t' k hi := by simp [init] at hi
  returned event hevent := by cases hevent
  balanced before after presence serial displaced replaced h := by simp [init] at h

theorem drawn_starts {job : Job} (h : job.starts = true) : job.drawn = none := by
  cases job with
  | connecting presence serial => cases h
  | _ => rfl

theorem advance_eq_some {relayId : String} {maxHops : Nat} {shared shared' : CalledRegistry}
    {job job' : Job} {choice : JobChoice}
    (h : advance relayId maxHops shared job choice = some (shared', job')) :
    ∃ changes, job.step relayId maxHops shared.registry choice =
        some (shared'.registry, job', changes) ∧
      shared'.returned =
        shared.returned ++ (job.returns relayId shared.registry choice).toList := by
  obtain ⟨⟨registry, next, changes⟩, hstep, heq⟩ := Option.map_eq_some_iff.mp h
  cases heq
  exact ⟨changes, hstep, rfl⟩

section Advance

variable {relayId : String} {maxHops index : Nat} {p : RegistrationState} {shared : CalledRegistry}
  {job job' : Job} {choice : JobChoice} {changes : List RegistryChange}

theorem drawn_fresh (hstep : job.step relayId maxHops p.shared.registry choice =
      some (shared.registry, job', changes)) {serial : Nat}
    (hlt : serial < p.shared.registry.sequence) : job'.drawn ≠ some serial := by
  intro hserial
  obtain ⟨rfl, -⟩ := Job.drawn_step hserial hstep
  omega

theorem Inv.returned_advance (hinv : Inv p) (htask : p.tasks[index]? = some job)
    (hstep : job.step relayId maxHops p.shared.registry choice =
      some (shared.registry, job', changes))
    (hreturned : shared.returned =
      p.shared.returned ++ (job.returns relayId p.shared.registry choice).toList) :
    ∀ event ∈ shared.returned, ∀ serial, event.serial = some serial →
      serial < shared.registry.sequence ∧
        ∀ other ∈ p.tasks.set index job', other.drawn ≠ some serial := by
  have hle := Job.step_sequence_le hstep
  intro event hevent serial hserial
  rw [hreturned, List.mem_append, Option.mem_toList] at hevent
  rcases hevent with hevent | hevent
  · obtain ⟨hlt, hfree⟩ := hinv.returned event hevent serial hserial
    exact ⟨lt_of_lt_of_le hlt hle, forall_mem_set hfree (drawn_fresh hstep hlt)⟩
  · cases job with
    | connecting presence drawn =>
        cases hevent
        cases hserial
        have hlt := hinv.drawn _ (List.mem_of_getElem? htask) serial rfl
        refine ⟨lt_of_lt_of_le hlt hle, fun other hother hsame => ?_⟩
        rcases mem_set_cases hother with rfl | ⟨i, hi, hget⟩
        · exact drawn_fresh hstep hlt hsame
        · exact hi (hinv.distinct i index other _ serial hget htask hsame rfl)
    | disconnect deviceId drawn =>
        cases hevent
        cases hserial
    | _ => cases hevent

/-- What an action returns settles what it does to the register: the books stay balanced. -/
theorem Inv.balanced_advance (hinv : Inv p) (hmem : job ∈ p.tasks)
    (hstep : job.step relayId maxHops p.shared.registry choice =
      some (shared.registry, job', changes))
    (hreturned : shared.returned =
      p.shared.returned ++ (job.returns relayId p.shared.registry choice).toList) :
    ∀ before after presence serial displaced replaced,
      shared.returned = before ++ .connected presence serial displaced replaced :: after →
        Balanced shared.registry.state.registration presence serial after := by
  have heffect := Job.callEffect hinv.wellFormed hstep
  intro before after presence serial displaced replaced hsplit
  have hold : ∀ rest,
      p.shared.returned = before ++ .connected presence serial displaced replaced :: rest →
        Balanced shared.registry.state.registration presence serial
          (rest ++ (job.returns relayId p.shared.registry choice).toList) := by
    intro rest hlog
    have hserial := (hinv.returned (.connected presence serial displaced replaced)
      (by rw [hlog]; simp) serial rfl).2 job hmem
    exact (hinv.balanced before rest presence serial displaced replaced hlog).step heffect hserial
  rw [hreturned] at hsplit
  cases hcall : job.returns relayId p.shared.registry choice with
  | none =>
      rw [hcall, Option.toList_none, List.append_nil] at hsplit
      simpa [hcall] using hold after hsplit
  | some event =>
      rw [hcall] at hsplit hold heffect
      rcases concat_eq_append_cons hsplit with ⟨rfl, rfl⟩ | ⟨rest, rfl, hlog⟩
      · generalize shared.registry.state.registration = registered at heffect ⊢
        cases heffect with
        | connected => exact balanced_new _ presence serial
      · exact hold rest hlog

end Advance

theorem inv_step {relayId : String} {maxHops : Nat} {p p' : RegistrationState}
    {label : RegistrationLabel} (hinv : Inv p) (h : step relayId maxHops p label = some p') :
    Inv p' := by
  cases label with
  | environment event => cases event
  | spawn job =>
      obtain ⟨hstarts, rfl⟩ := poolStep_spawn h
      have hnone := drawn_starts hstarts
      refine ⟨hinv.wellFormed, ?_, hinv.distinct.append hnone, ?_, hinv.balanced⟩
      · intro other hother serial hdrawn
        rcases List.mem_append.mp hother with hother | hother
        · exact hinv.drawn other hother serial hdrawn
        · rw [List.mem_singleton.mp hother, hnone] at hdrawn
          cases hdrawn
      · intro event hevent serial hserial
        obtain ⟨hlt, hfree⟩ := hinv.returned event hevent serial hserial
        refine ⟨hlt, fun other hother => ?_⟩
        rcases List.mem_append.mp hother with hother | hother
        · exact hfree other hother
        · rw [List.mem_singleton.mp hother, hnone]
          exact Option.some_ne_none _ |>.symm
  | advance index choice =>
      obtain ⟨job, shared, job', htask, hadvance, rfl⟩ := poolStep_advance h
      obtain ⟨changes, hstep, hreturned⟩ := advance_eq_some hadvance
      have hmem : job ∈ p.tasks := List.mem_of_getElem? htask
      have hdrawn : ∀ other ∈ p.tasks.set index job', ∀ serial, other.drawn = some serial →
          serial < shared.registry.sequence := by
        refine forall_mem_set (fun other hother serial hserial => ?_) fun serial hserial => ?_
        · exact lt_of_lt_of_le (hinv.drawn other hother serial hserial) (Job.step_sequence_le hstep)
        · obtain ⟨rfl, hnext⟩ := Job.drawn_step hserial hstep
          omega
      refine ⟨(Job.step_tableUpdate hstep).wellFormed hinv.wellFormed, hdrawn, ?_,
        hinv.returned_advance htask hstep hreturned, hinv.balanced_advance hmem hstep hreturned⟩
      refine hinv.distinct.set htask fun serial hserial => .inr fun i other hi hother => ?_
      exact drawn_fresh hstep (hinv.drawn other (List.mem_of_getElem? hi) serial hother) hserial

end Registrations

open Registrations

/-- What has become of the handle of a registration: exactly one of the three. `after` is everything
returned since. -/
inductive RegistrationFate (state : RegistryState) (presence : DirectPresence) (serial : Nat)
    (after : List Returned) : Prop
  | current (h : state.Current presence serial)
      (hdisplaced : after.countP
        (Returned.displaces presence.deviceId serial presence.handle) = 0)
      (hremoved : after.countP (Returned.removes presence.deviceId serial) = 0)
  | displaced (h : ¬ state.Current presence serial)
      (hdisplaced : after.countP
        (Returned.displaces presence.deviceId serial presence.handle) = 1)
      (hremoved : after.countP (Returned.removes presence.deviceId serial) = 0)
  | removed (h : ¬ state.Current presence serial)
      (hdisplaced : after.countP
        (Returned.displaces presence.deviceId serial presence.handle) = 0)
      (hremoved : after.countP (Returned.removes presence.deviceId serial) = 1)

theorem Registrations.Balanced.fate {state : RegistryState} {presence : DirectPresence}
    {serial : Nat} {after : List Returned} (hs : state.WellFormed)
    (h : Balanced state.registration presence serial after) :
    RegistrationFate state presence serial after := by
  have hbalance := h.balance
  by_cases hcurrent : state.Current presence serial
  · rw [if_pos (hs.current_iff.mp hcurrent)] at hbalance
    exact .current hcurrent (by omega) (by omega)
  · rw [if_neg fun hheld => hcurrent (hs.current_iff.mpr hheld)] at hbalance
    rcases Nat.eq_zero_or_pos
      (after.countP (Returned.removes presence.deviceId serial)) with hzero | hpos
    · exact .displaced hcurrent (by omega) hzero
    · exact .removed hcurrent (by omega) (by omega)

/-- In every run, each handle passed to `connect` is current, or was returned as displaced by one
later connect of its device, or was removed by the one disconnect that carried its serial. Any other
disconnect returns `false` and changes nothing, and no operation on announced devices changes a
direct entry. -/
theorem registration_fate (relayId : String) (maxHops : Nat) (labels : List RegistrationLabel)
    (p : RegistrationState)
    (hrun : run (Registrations.step relayId maxHops) Registrations.init labels = some p) :
    (∀ before after presence serial displaced replaced,
      p.shared.returned = before ++ .connected presence serial displaced replaced :: after →
        RegistrationFate p.shared.registry.state presence serial after) ∧
    (∀ index deviceId serial choice p',
      p.tasks[index]? = some (.disconnect deviceId serial) →
      (∀ entry, p.shared.registry.state.entries.lookup deviceId = some entry →
        entry.origin ≠ .direct serial) →
      Registrations.step relayId maxHops p (.advance index choice) = some p' →
        p'.shared.registry = p.shared.registry ∧
        p'.shared.returned = p.shared.returned ++ [.disconnected deviceId serial false]) ∧
    ∀ index job choice p' deviceId entry serial,
      p.tasks[index]? = some job → job.isAnnouncing = true →
      Registrations.step relayId maxHops p (.advance index choice) = some p' →
      p.shared.registry.state.entries.lookup deviceId = some entry →
      entry.origin = .direct serial →
        p'.shared.registry.state.entries.lookup deviceId = some entry := by
  have hinv : Inv p := Reachable.invariant ⟨labels, hrun⟩ inv_init
    fun _ _ _ hs hstep => inv_step hs hstep
  refine ⟨?_, ?_, ?_⟩
  · intro before after presence serial displaced replaced hsplit
    have hbalanced := hinv.balanced before after presence serial displaced replaced hsplit
    exact hbalanced.fate hinv.wellFormed
  · intro index deviceId serial choice p' htask hother hstep
    obtain ⟨job, shared, job', hjob, hadvance, rfl⟩ := poolStep_advance hstep
    obtain ⟨changes, hstep, hreturned⟩ := advance_eq_some hadvance
    rw [htask, Option.some.injEq] at hjob
    subst hjob
    have hunregistered : p.shared.registry.state.registered deviceId serial = false := by
      rw [Bool.eq_false_iff, ne_eq, RegistryState.registered_iff]
      rintro ⟨entry, hentry, horigin⟩
      exact hother entry hentry horigin
    rcases Job.disconnect_cases hstep with ⟨state, -, hlocked, -⟩ | ⟨-, hregistry⟩
    · rw [(RegistryState.disconnectLocked_eq_some hlocked).1] at hunregistered
      cases hunregistered
    · refine ⟨hregistry, ?_⟩
      simp [hreturned, Job.returns, RegistryState.disconnectLocked, hunregistered]
  · intro index job choice p' deviceId entry serial htask hjob hstep hentry horigin
    obtain ⟨job', shared, next, hget, hadvance, rfl⟩ := poolStep_advance hstep
    obtain ⟨changes, hstep, -⟩ := advance_eq_some hadvance
    rw [htask, Option.some.injEq] at hget
    subst hget
    exact Job.direct_entry_kept hinv.wellFormed hjob hstep hentry horigin

namespace Registrations

def desktop (channel : Nat) : DirectPresence :=
  ⟨"device-a", "desk", .desktop, none, none, none, ⟨"device-a", channel⟩⟩

def reconnect : List RegistrationLabel :=
  [.spawn (.connect (desktop 0)), .advance 0 ⟨0, []⟩, .advance 0 ⟨0, []⟩,
    .spawn (.connect (desktop 1)), .advance 1 ⟨0, []⟩, .advance 1 ⟨0, []⟩,
    .spawn (.disconnect "device-a" 0), .advance 2 ⟨0, []⟩]

end Registrations

theorem registration_fate_reconnect :
    ∃ p, run (Registrations.step "relay-a" 8) Registrations.init Registrations.reconnect = some p ∧
      RegistrationFate p.shared.registry.state (Registrations.desktop 0) 0
        [.connected (Registrations.desktop 1) 1 (some ⟨"device-a", 0⟩) (some 0),
          .disconnected "device-a" 0 false] := by
  obtain ⟨p, hrun, hreturned⟩ := exists_run (Registrations.step "relay-a" 8) Registrations.init
    Registrations.reconnect
    (fun p => p.shared.returned = [.connected (Registrations.desktop 0) 0 none none,
      .connected (Registrations.desktop 1) 1 (some ⟨"device-a", 0⟩) (some 0),
      .disconnected "device-a" 0 false]) (by decide +kernel)
  exact ⟨p, hrun, (registration_fate "relay-a" 8 _ p hrun).1 [] _ _ 0 none none hreturned⟩

end TermexoRelay
