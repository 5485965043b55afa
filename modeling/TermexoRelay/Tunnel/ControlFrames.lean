import TermexoRelay.Registry.Operations
import TermexoRelay.Tunnel.Session

/-!
# What a control frame does to the routing table

A frame of a tunnel is handled by one registry operation, and a snapshot takes many actions. An
entry another link announced, or a live tunnel, is out of its reach unless the frame itself
announces the id by a better route.
-/

namespace TermexoRelay

open Transition

def ControlFrame.announced : ControlFrame → List AnnouncedDevice
  | .announce devices => devices.filter AnnouncedDevice.online
  | .deviceOnline id name via => [⟨id, name, true, via⟩]
  | _ => []

/-- A routable announcement that is strictly shorter than the announced route of the entry, or
equally long and numbered later. -/
def AnnouncedDevice.Overtakes (relayId : String) (maxHops : Nat) (device : AnnouncedDevice)
    (sequence : Nat) (entry : Entry) : Prop :=
  isAnnouncementRoutable relayId maxHops device.via = true ∧ ∃ link hops,
    entry.device.route = .via link hops ∧
      (device.via.length < hops.length ∨
        device.via.length = hops.length ∧ entry.sequence < sequence)

section Overtakes

variable {relayId linkDeviceId : String} {maxHops sequence sequence' : Nat}
  {device device' : AnnouncedDevice} {entry : Entry} {link : TunnelHandle} {now : Int}

theorem AnnouncedDevice.overtakes_of_replaces
    (hroutable : isAnnouncementRoutable relayId maxHops device.via = true)
    (h : replaces entry.device.route entry.sequence (.via link device.via) sequence = true) :
    device.Overtakes relayId maxHops sequence entry := by
  cases hroute : entry.device.route with
  | direct handle =>
      rw [hroute] at h
      cases h
  | via link' hops =>
      rw [hroute] at h
      exact ⟨hroutable, link', hops, hroute, replaces_via.mp h⟩

theorem AnnouncedDevice.Overtakes.trans (h : device.Overtakes relayId maxHops sequence entry)
    (h' : device'.Overtakes relayId maxHops sequence'
      (device.entry linkDeviceId link sequence now)) :
    device'.Overtakes relayId maxHops sequence' entry := by
  obtain ⟨-, first, hops, hroute, hbetter⟩ := h
  obtain ⟨hroutable, second, hops', hroute', hbetter'⟩ := h'
  cases hroute'
  refine ⟨hroutable, first, hops, hroute, ?_⟩
  have hsequence : (device.entry linkDeviceId link sequence now).sequence = sequence := rfl
  rw [hsequence] at hbetter'
  omega

end Overtakes

/-- What becomes of one entry: it stays and is not remembered as withdrawn, or a device of the frame
overtakes it. -/
def EntryEffect (relayId : String) (maxHops : Nat) (linkDeviceId : String) (link : TunnelHandle)
    (announced : List AnnouncedDevice) (before after : RegistryState) (deviceId : String)
    (entry : Entry) : Prop :=
  after.entries.lookup deviceId = some entry ∧
      after.withdrawn.lookup deviceId = before.withdrawn.lookup deviceId ∨
    ∃ device ∈ announced, ∃ sequence now, device.id = deviceId ∧
      device.Overtakes relayId maxHops sequence entry ∧
      after.entries.lookup deviceId = some (device.entry linkDeviceId link sequence now) ∧
      after.withdrawn.lookup deviceId = none

/-- What handling a frame may do to the table: of the entries that the link did not announce, it
only reaches those that it overtakes. -/
def FrameEffect (relayId : String) (maxHops : Nat) (linkDeviceId : String) (link : TunnelHandle)
    (announced : List AnnouncedDevice) (before after : RegistryState) : Prop :=
  ∀ deviceId entry, before.entries.lookup deviceId = some entry →
    entry.origin ≠ .announced linkDeviceId →
      EntryEffect relayId maxHops linkDeviceId link announced before after deviceId entry

/-- What is left of the batch comes from the frame. -/
def Batch.Within (announced : List AnnouncedDevice) (batch : Batch) : Prop :=
  ∀ device ∈ batch.remaining, device.online = true → device ∈ announced

namespace Job

def Speaks (relayId : String) (maxHops : Nat) (linkDeviceId : String) (link : TunnelHandle)
    (announced : List AnnouncedDevice) : Job → Prop
  | .finished => True
  | .announce sender handle device batch =>
      sender = linkDeviceId ∧ handle = link ∧ device ∈ announced ∧ ∀ b ∈ batch, b.Within announced
  | .announcing sender handle device batch _ =>
      sender = linkDeviceId ∧ handle = link ∧ device ∈ announced ∧
        (∀ b ∈ batch, b.Within announced) ∧
        isAnnouncementRoutable relayId maxHops device.via = true
  | .withdraw sender _ _ => sender = linkDeviceId
  | .apply sender handle devices =>
      sender = linkDeviceId ∧ handle = link ∧
        ∀ device ∈ devices, device.online = true → device ∈ announced
  | _ => False

def withdrawals : Job → List String
  | .announce _ _ _ (some batch) => batch.previous
  | .announcing _ _ _ (some batch) _ => batch.previous
  | .withdraw _ deviceId stale => deviceId :: stale
  | _ => []

def unlisted : Job → Bool
  | .apply _ _ _ => true
  | _ => false

section Continuations

variable {relayId linkDeviceId deviceId : String} {maxHops : Nat} {link : TunnelHandle}
  {announced : List AnnouncedDevice}

theorem speaks_sweep (stale : List String) :
    (sweep linkDeviceId stale).Speaks relayId maxHops linkDeviceId link announced := by
  cases stale with
  | nil => trivial
  | cons id stale => rfl

theorem withdrawals_sweep (stale : List String) :
    (sweep linkDeviceId stale).withdrawals = stale := by
  cases stale with
  | nil => rfl
  | cons id stale => rfl

theorem speaks_proceed {batch : Batch} (h : batch.Within announced) :
    (proceed linkDeviceId link batch).Speaks relayId maxHops linkDeviceId link announced := by
  unfold proceed
  split
  · next device remaining hdrop =>
      have hsuffix : device :: remaining <:+ batch.remaining := hdrop ▸ List.dropWhile_suffix _
      have honline : device.online = true := by
        have hhead := List.head?_dropWhile_not (fun device => !device.online) batch.remaining
        rw [hdrop] at hhead
        simpa using hhead
      refine ⟨rfl, rfl, h device (hsuffix.subset List.mem_cons_self) honline, ?_⟩
      rintro b hb other hother
      cases hb
      exact h other (hsuffix.subset (List.mem_cons_of_mem _ hother))
  · exact speaks_sweep _

theorem withdrawals_proceed (batch : Batch) :
    (proceed linkDeviceId link batch).withdrawals ⊆ batch.previous := by
  unfold proceed
  split
  · exact fun _ h => h
  · rw [withdrawals_sweep]
    exact List.filter_subset_self _

theorem speaks_resume {batch : Option Batch} (h : ∀ b ∈ batch, b.Within announced)
    (accepted : Bool) : (resume linkDeviceId link deviceId batch accepted).Speaks relayId maxHops
      linkDeviceId link announced := by
  cases batch with
  | none => trivial
  | some batch => exact speaks_proceed (h batch rfl)

theorem withdrawals_resume (batch : Batch) (accepted : Bool) :
    (resume linkDeviceId link deviceId (some batch) accepted).withdrawals ⊆ batch.previous :=
  withdrawals_proceed _

theorem unlisted_sweep (stale : List String) : (sweep linkDeviceId stale).unlisted = false :=
  sweep_property (P := fun job => job.unlisted = false) rfl (fun _ _ => rfl) stale

theorem unlisted_proceed (batch : Batch) : (proceed linkDeviceId link batch).unlisted = false :=
  proceed_property (P := fun job => job.unlisted = false) rfl (fun _ _ => rfl) link
    (fun _ _ => rfl) batch

theorem unlisted_resume (batch : Option Batch) (accepted : Bool) :
    (resume linkDeviceId link deviceId batch accepted).unlisted = false :=
  resume_property (P := fun job => job.unlisted = false) rfl (fun _ _ => rfl) link
    (fun _ _ => rfl) deviceId batch accepted

end Continuations

section Steps

variable {relayId linkDeviceId : String} {maxHops : Nat} {link : TunnelHandle}
  {announced : List AnnouncedDevice} {registry registry' : Registry} {choice : JobChoice}
  {job job' : Job} {changes : List RegistryChange}

theorem Speaks.step (hspeaks : job.Speaks relayId maxHops linkDeviceId link announced)
    (h : job.step relayId maxHops registry choice = some (registry', job', changes)) :
    job'.Speaks relayId maxHops linkDeviceId link announced ∧ job'.unlisted = false := by
  cases step_cases h with
  | numbered => cases hspeaks
  | connected => cases hspeaks
  | disconnected hperm hlocked => cases hspeaks
  | displaced hlocked => cases hspeaks
  | routable hroutable =>
      obtain ⟨rfl, rfl, hdevice, hbatch⟩ := hspeaks
      exact ⟨⟨rfl, rfl, hdevice, hbatch, hroutable⟩, rfl⟩
  | unroutable hroutable =>
      obtain ⟨rfl, rfl, -, hbatch⟩ := hspeaks
      exact ⟨speaks_resume hbatch false, unlisted_resume _ false⟩
  | installed hlocked =>
      obtain ⟨rfl, rfl, -, hbatch, -⟩ := hspeaks
      exact ⟨speaks_resume hbatch true, unlisted_resume _ true⟩
  | outrun hlocked =>
      obtain ⟨rfl, rfl, -, hbatch, -⟩ := hspeaks
      exact ⟨speaks_resume hbatch false, unlisted_resume _ false⟩
  | withdrawn hlocked | absent hlocked =>
      cases hspeaks
      exact ⟨speaks_sweep _, unlisted_sweep _⟩
  | listed hperm =>
      obtain ⟨rfl, rfl, hdevices⟩ := hspeaks
      exact ⟨speaks_proceed hdevices, unlisted_proceed _⟩

theorem withdrawals_step (hlisted : job.unlisted = false)
    (hspeaks : job.Speaks relayId maxHops linkDeviceId link announced)
    (h : job.step relayId maxHops registry choice = some (registry', job', changes)) :
    job'.withdrawals ⊆ job.withdrawals := by
  cases step_cases h with
  | numbered => cases hspeaks
  | connected => cases hspeaks
  | disconnected hperm hlocked => cases hspeaks
  | displaced hlocked => cases hspeaks
  | listed hperm => cases hlisted
  | @routable _ _ _ batch hroutable =>
      cases batch <;> exact fun _ h => h
  | @unroutable _ _ _ batch hroutable =>
      cases batch with
      | none => exact fun _ h => h
      | some batch => exact withdrawals_resume batch false
  | @installed _ _ _ batch _ _ _ hlocked =>
      cases batch with
      | none => exact fun _ h => h
      | some batch => exact withdrawals_resume batch true
  | @outrun _ _ _ batch _ hlocked =>
      cases batch with
      | none => exact fun _ h => h
      | some batch => exact withdrawals_resume batch false
  | withdrawn hlocked | absent hlocked =>
      rw [withdrawals_sweep]
      exact List.subset_cons_self _ _

/-- One action on behalf of the link: an entry that the link did not announce, or that the job has
not listed for withdrawal, stays as it is or is overtaken. -/
theorem step_entry (hspeaks : job.Speaks relayId maxHops linkDeviceId link announced)
    (h : job.step relayId maxHops registry choice = some (registry', job', changes))
    {deviceId : String} {entry : Entry}
    (hentry : registry.state.entries.lookup deviceId = some entry)
    (hkept : entry.origin = .announced linkDeviceId → deviceId ∉ job.withdrawals) :
    EntryEffect relayId maxHops linkDeviceId link announced registry.state registry'.state deviceId
      entry := by
  cases step_cases h with
  | connected => cases hspeaks
  | disconnected hperm hlocked => cases hspeaks
  | @withdrawn _ id _ _ _ hlocked =>
      cases hspeaks
      obtain ⟨owned, howned, horigin, hentries, hwithdrawn, -⟩ :=
        RegistryState.withdrawLocked_eq_some hlocked
      have hne : deviceId ≠ id := by
        rintro rfl
        rw [hentry, Option.some.injEq] at howned
        exact hkept (howned ▸ horigin) List.mem_cons_self
      left
      simp only [hentries, hwithdrawn]
      exact ⟨(AList.lookup_erase_ne hne).trans hentry, AList.lookup_insert_ne hne⟩
  | @installed _ _ device _ sequence _ _ hlocked =>
      obtain ⟨rfl, rfl, hdevice, -, hroutable⟩ := hspeaks
      obtain ⟨hwins, hentries, hwithdrawn, -⟩ := RegistryState.announceLocked_eq_some hlocked
      simp only [EntryEffect, hentries, hwithdrawn]
      by_cases hid : device.id = deviceId
      · subst hid
        right
        exact ⟨device, hdevice, sequence, choice.now, rfl,
          AnnouncedDevice.overtakes_of_replaces hroutable (hwins entry hentry),
          AList.lookup_insert _, AList.lookup_erase _ _⟩
      · left
        exact ⟨(AList.lookup_insert_ne (Ne.symm hid)).trans hentry,
          AList.lookup_erase_ne (Ne.symm hid)⟩
  | _ => exact .inl ⟨hentry, rfl⟩

end Steps

end Job

/-- While a frame is handled, other operations may change the table between two of its actions. -/
inductive FrameLabel where
  | act (choice : JobChoice)
  | interfere (registry : Registry)

def frameStep (relayId : String) (maxHops : Nat) (state : Registry × Job) :
    FrameLabel → Option (Registry × Job)
  | .act choice => act relayId maxHops state choice
  | .interfere registry => some (registry, state.2)

section Frames

variable {relayId linkDeviceId : String} {maxHops : Nat} {link handle : TunnelHandle}
  {announced : List AnnouncedDevice} {registry registry' : Registry} {job job' : Job}

theorem speaks_controlFrameJob (relayId : String) (maxHops : Nat) (handle : TunnelHandle)
    (frame : ControlFrame) : (controlFrameJob handle .relay frame).Speaks relayId maxHops
      handle.deviceId handle frame.announced := by
  cases frame with
  | announce devices =>
      exact ⟨rfl, rfl, fun device hdevice honline => List.mem_filter.mpr ⟨hdevice, honline⟩⟩
  | deviceOnline id name via =>
      refine ⟨rfl, rfl, List.mem_singleton_self _, ?_⟩
      rintro b hb
      cases hb
  | deviceOffline id => rfl
  | _ => trivial

theorem speaks_frameStep {labels : List FrameLabel}
    (hspeaks : job.Speaks relayId maxHops linkDeviceId link announced)
    (hrun : run (frameStep relayId maxHops) (registry, job) labels = some (registry', job')) :
    job'.Speaks relayId maxHops linkDeviceId link announced := by
  refine run_invariant
    (P := fun state : Registry × Job =>
      state.2.Speaks relayId maxHops linkDeviceId link announced)
    ?_ hspeaks (meets_true _ labels) hrun
  rintro ⟨registry, job⟩ label ⟨registry', job'⟩ hspeaks - hstep
  cases label with
  | interfere registry =>
      cases hstep
      exact hspeaks
  | act choice =>
      obtain ⟨changes, hstep⟩ := act_eq_some.mp hstep
      exact (hspeaks.step hstep).1

/-- A job that has listed what it may withdraw, run alone. -/
theorem effect_run_listed {choices : List JobChoice}
    (hspeaks : job.Speaks relayId maxHops linkDeviceId link announced)
    (hlisted : job.unlisted = false)
    (hforeign : ∀ deviceId entry, registry.state.entries.lookup deviceId = some entry →
      entry.origin ≠ .announced linkDeviceId → deviceId ∉ job.withdrawals)
    (hrun : run (act relayId maxHops) (registry, job) choices = some (registry', job')) :
    FrameEffect relayId maxHops linkDeviceId link announced registry.state registry'.state := by
  intro deviceId entry hentry horigin
  have hnot := hforeign deviceId entry hentry horigin
  have hinvariant : (deviceId ∉ job'.withdrawals ∧
      job'.Speaks relayId maxHops linkDeviceId link announced ∧ job'.unlisted = false) ∧
      EntryEffect relayId maxHops linkDeviceId link announced registry.state registry'.state
        deviceId entry := by
    refine run_invariant
      (P := fun state : Registry × Job => (deviceId ∉ state.2.withdrawals ∧
        state.2.Speaks relayId maxHops linkDeviceId link announced ∧ state.2.unlisted = false) ∧
        EntryEffect relayId maxHops linkDeviceId link announced registry.state state.1.state
          deviceId entry)
      ?_ ⟨⟨hnot, hspeaks, hlisted⟩, .inl ⟨hentry, rfl⟩⟩ (meets_true _ choices) hrun
    rintro ⟨before, current⟩ choice ⟨after, next⟩ ⟨⟨hnot, hspeaks, hlisted⟩, heffect⟩ - hact
    obtain ⟨changes, hstep⟩ := act_eq_some.mp hact
    have hsubset := Job.withdrawals_step hlisted hspeaks hstep
    obtain ⟨hspeaks', hlisted'⟩ := hspeaks.step hstep
    refine ⟨⟨fun hmem => hnot (hsubset hmem), hspeaks', hlisted'⟩, ?_⟩
    rcases heffect with ⟨hsame, hwithdrawn⟩ |
      ⟨device, hdevice, sequence, now, rfl, hover, hsame, hwithdrawn⟩
    · rcases Job.step_entry hspeaks hstep hsame fun _ => hnot with ⟨hkept, hkept'⟩ | hover
      · exact .inl ⟨hkept, hkept'.trans hwithdrawn⟩
      · exact .inr hover
    · right
      rcases Job.step_entry hspeaks hstep hsame fun _ => hnot with ⟨hkept, hkept'⟩ |
        ⟨device', hdevice', sequence', now', hid, hover', hinstalled⟩
      · exact ⟨device, hdevice, sequence, now, rfl, hover, hkept, hkept'.trans hwithdrawn⟩
      · exact ⟨device', hdevice', sequence', now', hid, hover.trans hover', hinstalled⟩
  exact hinvariant.2

theorem FrameEffect.refl (state : RegistryState) :
    FrameEffect relayId maxHops linkDeviceId link announced state state :=
  fun _ _ hentry _ => .inl ⟨hentry, rfl⟩

/-- The frame of a link, handled alone up to any point. -/
theorem effect_run {frame : ControlFrame} {choices : List JobChoice}
    (hrun : run (act relayId maxHops) (registry, controlFrameJob handle .relay frame) choices =
      some (registry', job')) :
    FrameEffect relayId maxHops handle.deviceId handle frame.announced registry.state
      registry'.state := by
  have hspeaks := speaks_controlFrameJob relayId maxHops handle frame
  cases frame with
  | announce devices =>
      cases choices with
      | nil =>
          cases hrun
          exact .refl _
      | cons choice choices =>
          obtain ⟨⟨after, next⟩, hact, hrest⟩ := run_cons_eq_some.mp hrun
          obtain ⟨changes, hstep⟩ := act_eq_some.mp hact
          obtain ⟨hspeaks', hlisted⟩ := hspeaks.step hstep
          simp only [controlFrameJob, if_true, Job.step, Option.ite_none_right_eq_some,
            Option.some.injEq, Prod.mk.injEq] at hstep
          obtain ⟨hperm, rfl, rfl, -⟩ := hstep
          refine effect_run_listed hspeaks' hlisted ?_ hrest
          intro deviceId entry hentry horigin hmem
          have hown := hperm.mem_iff.mp (Job.withdrawals_proceed _ hmem)
          obtain ⟨own, hlookup, hown⟩ := RegistryState.mem_announcedIdsOf.mp hown
          rw [hentry, Option.some.injEq] at hlookup
          exact horigin (hlookup ▸ hown)
  | deviceOffline id =>
      cases choices with
      | nil =>
          cases hrun
          exact .refl _
      | cons choice choices =>
          obtain ⟨⟨after, next⟩, hact, hrest⟩ := run_cons_eq_some.mp hrun
          obtain ⟨changes, hstep⟩ := act_eq_some.mp hact
          intro deviceId entry hentry horigin
          have hdone : next = .finished := by
            simp only [controlFrameJob, if_true, Job.step] at hstep
            split at hstep <;> cases hstep <;> rfl
          subst hdone
          have hsame : registry' = after := by
            cases choices with
            | nil =>
                cases hrest
                rfl
            | cons choice choices => cases hrest
          subst hsame
          exact Job.step_entry hspeaks hstep hentry fun h => absurd h horigin
  | deviceOnline id name via =>
      refine effect_run_listed hspeaks rfl (fun _ _ _ _ => List.not_mem_nil) hrun
  | _ => exact effect_run_listed hspeaks rfl (fun _ _ _ _ => List.not_mem_nil) hrun

end Frames

/-- A frame of a desktop changes nothing at all. A frame of a link reaches an entry that the link
did not announce only by overtaking it, whether it is handled alone or other operations act between
its actions; so it never removes such a device, nor remembers it as withdrawn. -/
theorem controlFrame_effect (relayId : String) (maxHops : Nat) (handle : TunnelHandle)
    (frame : ControlFrame) (registry : Registry) :
    (∀ labels registry' job',
      run (act relayId maxHops) (registry, controlFrameJob handle .desktop frame) labels =
        some (registry', job') → registry' = registry) ∧
    (∀ labels registry' job',
      run (act relayId maxHops) (registry, controlFrameJob handle .relay frame) labels =
        some (registry', job') →
      FrameEffect relayId maxHops handle.deviceId handle frame.announced registry.state
        registry'.state) ∧
    ∀ labels before job choice after job' changes,
      run (frameStep relayId maxHops) (registry, controlFrameJob handle .relay frame) labels =
        some (before, job) →
      job.step relayId maxHops before choice = some (after, job', changes) →
      FrameEffect relayId maxHops handle.deviceId handle frame.announced before.state
        after.state := by
  refine ⟨fun labels registry' job' hrun => ?_, fun _ _ _ hrun => effect_run hrun, ?_⟩
  · have hjob : controlFrameJob handle .desktop frame = .finished := by
      cases frame <;> rfl
    rw [hjob] at hrun
    cases labels with
    | nil =>
        cases hrun
        rfl
    | cons label labels => cases hrun
  · intro labels before job choice after job' changes hrun hstep deviceId entry hentry horigin
    have hspeaks := speaks_frameStep (speaks_controlFrameJob relayId maxHops handle frame) hrun
    exact Job.step_entry hspeaks hstep hentry fun h => absurd h horigin

def announcedByOther : Registry :=
  ⟨⟨AList.singleton "device-a"
      ((AnnouncedDevice.mk "device-a" "desk" true ["relay-m"]).entry "link-m" ⟨"link-m", 0⟩ 0 0),
    ∅, ∅⟩, 1⟩

/-- A snapshot of `link-l` with two longer routes to the device leaves it with `link-m`. -/
theorem controlFrame_effect_snapshot :
    ∃ registry', run (act "relay-a" 8) (announcedByOther, controlFrameJob ⟨"link-l", 1⟩ .relay
        (.announce [⟨"device-a", "desk", true, ["relay-l", "relay-k"]⟩,
          ⟨"device-a", "desk", true, ["relay-l", "relay-m"]⟩]))
        (List.replicate 5 ⟨0, []⟩) = some (registry', .finished) ∧
      FrameEffect "relay-a" 8 "link-l" ⟨"link-l", 1⟩
        [⟨"device-a", "desk", true, ["relay-l", "relay-k"]⟩,
          ⟨"device-a", "desk", true, ["relay-l", "relay-m"]⟩]
        announcedByOther.state registry'.state := by
  obtain ⟨⟨registry', job⟩, hrun, rfl⟩ := exists_run (act "relay-a" 8) (announcedByOther,
    controlFrameJob ⟨"link-l", 1⟩ .relay
      (.announce [⟨"device-a", "desk", true, ["relay-l", "relay-k"]⟩,
        ⟨"device-a", "desk", true, ["relay-l", "relay-m"]⟩]))
    (List.replicate 5 ⟨0, []⟩) (fun state => state.2 = .finished) (by decide +kernel)
  exact ⟨registry', hrun, (controlFrame_effect "relay-a" 8 ⟨"link-l", 1⟩ _ _).2.1 _ _ _ hrun⟩

end TermexoRelay
