import TermexoRelay.Library.Parents
import TermexoRelay.Library.Run
import TermexoRelay.Upstream.Addresses

/-!
# The announced half of the loop guard

A relay that joins an upstream compares its own id with the chain the upstream named in its
`welcome`. The chain is the upstream's own as it was when it answered, and no later frame refreshes
it. Links are made, lost and refreshed here in any order by any number of relays.
-/

namespace TermexoRelay

open Transition

structure Welcome where
  deviceId : String
  relayId : String
  addresses : List RelayAddress
  chain : List String
deriving DecidableEq, Repr

def Welcome.reach (welcome : Welcome) (addresses : List RelayAddress) : UpstreamReach :=
  .fromWelcome welcome.deviceId welcome.relayId addresses welcome.chain

/-- Whether joining would close the announced chain. -/
def refuseLoop (relayId : String) (welcome : Welcome) : Bool :=
  decide (welcome.relayId = relayId) || decide (relayId ∈ welcome.chain)

/-- One attempt at being a device of another relay. -/
inductive LinkSession where
  | idle
  | dialing (upstreamRelayId : String)
  | welcomed (welcome : Welcome)
  | adopted (welcome : Welcome)
deriving DecidableEq, Repr

def LinkSession.upstream : LinkSession → Option String
  | adopted welcome => some welcome.relayId
  | _ => none

structure LinkState where
  session : LinkSession
  reach : UpstreamReach
deriving DecidableEq, Repr

def LinkState.new : LinkState := ⟨.idle, .default⟩

abbrev Links := String → LinkState

inductive LinkLabel where
  | dial (relayId upstreamRelayId : String)
  | answer (relayId linkDeviceId : String) (addresses : List RelayAddress)
  | receive (relayId : String)
  /-- An `addresses` frame of the upstream arrives. -/
  | push (relayId : String) (addresses : List RelayAddress)
  | lose (relayId : String)
  | cancel (relayId : String)
deriving DecidableEq, Repr

namespace Links

def init : Links := fun _ => .new

def set (links : Links) (relayId : String) (session : LinkSession) (reach : UpstreamReach) :
    Links :=
  Function.update links relayId ⟨session, reach⟩

def step (links : Links) : LinkLabel → Option Links
  | .dial relayId upstreamRelayId =>
      match (links relayId).session with
      | .idle => some (links.set relayId (.dialing upstreamRelayId) (links relayId).reach)
      | _ => none
  | .answer relayId linkDeviceId addresses =>
      match (links relayId).session with
      | .dialing upstreamRelayId =>
          let welcome : Welcome :=
            ⟨linkDeviceId, upstreamRelayId, addresses, (links upstreamRelayId).reach.chain⟩
          some (links.set relayId (.welcomed welcome) (links relayId).reach)
      | _ => none
  | .receive relayId =>
      match (links relayId).session with
      | .welcomed welcome =>
          if refuseLoop relayId welcome then some (links.set relayId .idle (links relayId).reach)
          else some (links.set relayId (.adopted welcome) (welcome.reach welcome.addresses))
      | _ => none
  | .push relayId addresses =>
      match (links relayId).session with
      | .adopted welcome => some (links.set relayId (.adopted welcome) (welcome.reach addresses))
      | _ => none
  | .lose relayId =>
      match (links relayId).session with
      | .adopted _ => some (links.set relayId .idle .default)
      | _ => some (links.set relayId .idle (links relayId).reach)
  | .cancel relayId => some (links.set relayId .idle (links relayId).reach)

/-- The graph of adopted upstream links. -/
def upstreamOf (links : Links) (relayId : String) : Option String :=
  (links relayId).session.upstream

inductive StepCases (links : Links) : LinkLabel → Links → Prop
  | dialed {relayId upstreamRelayId : String} (h : (links relayId).session = .idle) :
      StepCases links (.dial relayId upstreamRelayId)
        (links.set relayId (.dialing upstreamRelayId) (links relayId).reach)
  | answered {relayId upstreamRelayId linkDeviceId : String} {addresses : List RelayAddress}
      (h : (links relayId).session = .dialing upstreamRelayId) :
      StepCases links (.answer relayId linkDeviceId addresses)
        (links.set relayId (.welcomed ⟨linkDeviceId, upstreamRelayId, addresses,
          (links upstreamRelayId).reach.chain⟩) (links relayId).reach)
  | refused {relayId : String} {welcome : Welcome}
      (h : (links relayId).session = .welcomed welcome)
      (hguard : refuseLoop relayId welcome = true) :
      StepCases links (.receive relayId) (links.set relayId .idle (links relayId).reach)
  | adopted {relayId : String} {welcome : Welcome}
      (h : (links relayId).session = .welcomed welcome)
      (hguard : refuseLoop relayId welcome = false) :
      StepCases links (.receive relayId)
        (links.set relayId (.adopted welcome) (welcome.reach welcome.addresses))
  | pushed {relayId : String} {welcome : Welcome} {addresses : List RelayAddress}
      (h : (links relayId).session = .adopted welcome) :
      StepCases links (.push relayId addresses)
        (links.set relayId (.adopted welcome) (welcome.reach addresses))
  | lost {relayId : String} {reach : UpstreamReach} :
      StepCases links (.lose relayId) (links.set relayId .idle reach)
  | cancelled {relayId : String} :
      StepCases links (.cancel relayId) (links.set relayId .idle (links relayId).reach)

theorem step_eq_some {links links' : Links} {label : LinkLabel}
    (h : links.step label = some links') : StepCases links label links' := by
  cases label with
  | dial relayId upstreamRelayId =>
      simp only [step] at h
      split at h
      · next hsession =>
          cases h
          exact .dialed hsession
      · cases h
  | answer relayId linkDeviceId addresses =>
      simp only [step] at h
      split at h
      · next hsession =>
          cases h
          exact .answered hsession
      · cases h
  | receive relayId =>
      simp only [step] at h
      split at h
      · next welcome hsession =>
          by_cases hguard : refuseLoop relayId welcome = true
          · rw [if_pos hguard] at h
            cases h
            exact .refused hsession hguard
          · rw [if_neg hguard] at h
            cases h
            exact .adopted hsession (Bool.not_eq_true _ ▸ hguard)
      · cases h
  | push relayId addresses =>
      simp only [step] at h
      split at h
      · next hsession =>
          cases h
          exact .pushed hsession
      · cases h
  | lose relayId =>
      simp only [step] at h
      split at h
      · cases h
        exact .lost
      · cases h
        exact .lost
  | cancel relayId =>
      cases h
      exact .cancelled

section Links

variable {links links' : Links} {label : LinkLabel} {relayId : String}

@[simp] theorem set_self (session : LinkSession) (reach : UpstreamReach) :
    links.set relayId session reach relayId = ⟨session, reach⟩ := Function.update_self ..

theorem set_of_ne {other : String} (h : other ≠ relayId) (session : LinkSession)
    (reach : UpstreamReach) : links.set relayId session reach other = links other :=
  Function.update_of_ne h ..

theorem upstreamOf_set (session : LinkSession) (reach : UpstreamReach) :
    (links.set relayId session reach).upstreamOf =
      Function.update links.upstreamOf relayId session.upstream := by
  funext id
  by_cases hid : id = relayId
  · subst hid
    rw [upstreamOf, set_self, Function.update_self]
  · rw [upstreamOf, set_of_ne hid, Function.update_of_ne hid, upstreamOf]

theorem upstreamOf_eq_some {upper : String} :
    links.upstreamOf relayId = some upper ↔
      ∃ welcome, (links relayId).session = .adopted welcome ∧ welcome.relayId = upper := by
  rw [upstreamOf]
  cases (links relayId).session <;> simp [LinkSession.upstream]

theorem acyclic_set_unlinked (hacyclic : Parents.Acyclic links.upstreamOf)
    {session : LinkSession} (hsession : session.upstream = none) (reach : UpstreamReach) :
    Parents.Acyclic (links.set relayId session reach).upstreamOf := by
  rw [upstreamOf_set, hsession]
  exact hacyclic.update_none relayId

/-- Only a relay that adopts an upstream closes a cycle, and only if it stands above that upstream
without finding itself in the chain it was sent. -/
theorem acyclic_step (hacyclic : Parents.Acyclic links.upstreamOf)
    (hnamed : ∀ relayId welcome, label = .receive relayId →
      (links relayId).session = .welcomed welcome →
      Parents.Above links.upstreamOf welcome.relayId relayId → relayId ∈ welcome.chain)
    (h : StepCases links label links') : Parents.Acyclic links'.upstreamOf := by
  cases h with
  | dialed => exact acyclic_set_unlinked hacyclic rfl _
  | answered => exact acyclic_set_unlinked hacyclic rfl _
  | refused => exact acyclic_set_unlinked hacyclic rfl _
  | @adopted relayId welcome hsession hguard =>
      have hroot : links.upstreamOf relayId = none := by
        rw [upstreamOf, hsession]
        rfl
      simp only [refuseLoop, Bool.or_eq_false_iff, decide_eq_false_iff_not] at hguard
      rw [upstreamOf_set, LinkSession.upstream, hacyclic.update_some_iff hroot]
      constructor
      · intro hself
        exact hguard.1 hself.symm
      · intro habove
        exact hguard.2 (hnamed relayId welcome rfl hsession habove)
  | @pushed relayId welcome addresses hsession =>
      have hlink : links.upstreamOf relayId = some welcome.relayId :=
        upstreamOf_eq_some.mpr ⟨welcome, hsession, rfl⟩
      rw [upstreamOf_set, LinkSession.upstream, ← hlink, Function.update_eq_self]
      exact hacyclic
  | lost => exact acyclic_set_unlinked hacyclic rfl _
  | cancelled => exact acyclic_set_unlinked hacyclic rfl _

end Links

end Links

/-! ## When a chain is out of date -/

/-- The links together with the times at which they were made, which no relay keeps. -/
structure TimedLinks where
  links : Links
  clock : Nat
  /-- When the upstream of a relay accepted its `hello`. -/
  answered : String → Nat
  joined : String → Nat

namespace TimedLinks

def init : TimedLinks := ⟨.init, 0, fun _ => 0, fun _ => 0⟩

def step (s : TimedLinks) (label : LinkLabel) : Option TimedLinks :=
  (s.links.step label).map fun links =>
    { links
      clock := s.clock + 1
      answered :=
        match label with
        | .answer relayId _ _ => Function.update s.answered relayId s.clock
        | _ => s.answered
      joined :=
        match label with
        | .receive relayId => Function.update s.joined relayId s.clock
        | _ => s.joined }

/-- The link of `upper`, if it has one, is older than the `welcome` it has sent to `lower`. -/
def Follows (s : TimedLinks) (lower upper : String) : Prop :=
  s.links.upstreamOf upper ≠ none → s.joined upper < s.answered lower

/-- When a relay takes up a `welcome`, no relay at or above its upstream has joined another one
since the `welcome` that it has sent to the relay below it. -/
def UpToDate (s : TimedLinks) : LinkLabel → Prop
  | .receive relayId => ∀ welcome, (s.links relayId).session = .welcomed welcome →
      s.Follows relayId welcome.relayId ∧
        Parents.Along s.links.upstreamOf s.Follows welcome.relayId
  | _ => True

/-- The `welcome` a relay was sent, taken up or not. -/
def Told (s : TimedLinks) (relayId : String) (welcome : Welcome) : Prop :=
  (s.links relayId).session = .welcomed welcome ∨ (s.links relayId).session = .adopted welcome

/-- What a relay hands on is what it was told, and what it has said while it was linked as it is
now. -/
structure Inv (s : TimedLinks) : Prop where
  answered : ∀ relayId, s.answered relayId ≤ s.clock
  other : ∀ relayId welcome, (s.links relayId).session = .adopted welcome →
    welcome.relayId ≠ relayId
  chain : ∀ relayId welcome, (s.links relayId).session = .adopted welcome →
    (s.links relayId).reach.chain = welcome.relayId :: welcome.chain
  told : ∀ lower welcome, s.Told lower welcome →
    ∀ above, (s.links welcome.relayId).session = .adopted above →
      s.joined welcome.relayId < s.answered lower → welcome.chain = above.relayId :: above.chain

section Times

variable {s s' : TimedLinks} {label : LinkLabel} {relayId lower upper : String}

theorem inv_init : init.Inv where
  answered _ := Nat.le_refl _
  other _ _ h := by cases h
  chain _ _ h := by cases h
  told _ _ h := by rcases h with h | h <;> cases h

/-- A change of one relay keeps this when the relay hands on what it was told, was told what its
upstream hands on, and is linked as before or has just been linked. -/
theorem Inv.set (hs : s.Inv) {session : LinkSession} {reach : UpstreamReach}
    {answered joined : String → Nat} (hanswered : ∀ id, answered id ≤ s.clock + 1)
    (hkept : ∀ id, id ≠ relayId → answered id = s.answered id ∧ joined id = s.joined id)
    (hadopted : ∀ welcome, session = .adopted welcome →
      welcome.relayId ≠ relayId ∧ reach.chain = welcome.relayId :: welcome.chain ∧
        ((s.links relayId).session = .adopted welcome ∧ joined relayId = s.joined relayId ∨
          s.clock ≤ joined relayId))
    (htold : ∀ welcome, session = .welcomed welcome ∨ session = .adopted welcome →
      ∀ above, (s.links welcome.relayId).session = .adopted above →
        s.joined welcome.relayId < answered relayId →
        welcome.chain = above.relayId :: above.chain) :
    Inv ⟨s.links.set relayId session reach, s.clock + 1, answered, joined⟩ := by
  have hself : (s.links.set relayId session reach relayId) = ⟨session, reach⟩ := Links.set_self ..
  have hother : ∀ {id}, id ≠ relayId → s.links.set relayId session reach id = s.links id :=
    fun hid => Links.set_of_ne hid ..
  refine ⟨hanswered, ?_, ?_, ?_⟩
  · intro id welcome hsession
    by_cases hid : id = relayId
    · subst hid
      simp only [hself] at hsession
      exact (hadopted welcome hsession).1
    · simp only [hother hid] at hsession
      exact hs.other id welcome hsession
  · intro id welcome hsession
    by_cases hid : id = relayId
    · subst hid
      simp only [hself] at hsession ⊢
      exact (hadopted welcome hsession).2.1
    · simp only [hother hid] at hsession ⊢
      exact hs.chain id welcome hsession
  · intro lower welcome hwelcome above habove hbefore
    by_cases hlower : lower = relayId
    · subst hlower
      simp only [Told, hself] at hwelcome
      by_cases hupper : welcome.relayId = lower
      · simp only [hupper, hself] at habove
        rcases hwelcome with hwelcome | hwelcome
        · rw [habove] at hwelcome
          cases hwelcome
        · exact absurd hupper (hadopted welcome hwelcome).1
      · simp only [hother hupper] at habove
        simp only [(hkept _ hupper).2] at hbefore
        exact htold welcome hwelcome above habove hbefore
    · simp only [Told, hother hlower] at hwelcome
      simp only [(hkept _ hlower).1] at hbefore
      by_cases hupper : welcome.relayId = relayId
      · simp only [hupper, hself] at habove hbefore
        rcases (hadopted above habove).2.2 with ⟨hsame, hjoined⟩ | hnew
        · rw [hjoined] at hbefore
          exact hs.told lower welcome hwelcome above (hupper ▸ hsame) (hupper ▸ hbefore)
        · have hbound : s.answered lower ≤ s.clock := hs.answered lower
          omega
      · simp only [hother hupper] at habove
        simp only [(hkept _ hupper).2] at hbefore
        exact hs.told lower welcome hwelcome above habove hbefore

theorem inv_step (hs : s.Inv) (h : s.step label = some s') : s'.Inv := by
  obtain ⟨links, hlinks, rfl⟩ := Option.map_eq_some_iff.mp h
  have hle : ∀ id, s.answered id ≤ s.clock + 1 := fun id => Nat.le_succ_of_le (hs.answered id)
  have hupdate : ∀ {f : String → Nat} {relayId : String}, ∀ id, id ≠ relayId →
      Function.update f relayId s.clock id = f id := fun id hid => Function.update_of_ne hid ..
  cases Links.step_eq_some hlinks with
  | dialed => exact hs.set hle (fun _ _ => ⟨rfl, rfl⟩) (by simp) (by simp)
  | @answered relayId upstreamRelayId linkDeviceId addresses hsession =>
      refine hs.set ?_ (fun id hid => ⟨hupdate id hid, rfl⟩) (by simp) ?_
      · intro id
        by_cases hid : id = relayId
        · subst hid
          simp
        · simpa [hid] using hle id
      · intro welcome hwelcome above habove _
        obtain rfl : _ = welcome := by simpa using hwelcome
        exact hs.chain upstreamRelayId above habove
  | refused => exact hs.set hle (fun id hid => ⟨rfl, hupdate id hid⟩) (by simp) (by simp)
  | @adopted relayId welcome hsession hguard =>
      simp only [refuseLoop, Bool.or_eq_false_iff, decide_eq_false_iff_not] at hguard
      refine hs.set hle (fun id hid => ⟨rfl, hupdate id hid⟩) ?_ ?_
      · intro other hother
        obtain rfl : welcome = other := by simpa using hother
        exact ⟨hguard.1, rfl, .inr (by simp)⟩
      · intro other hother
        obtain rfl : welcome = other := by simpa using hother
        exact hs.told relayId welcome (.inl hsession)
  | @pushed relayId welcome addresses hsession =>
      refine hs.set hle (fun _ _ => ⟨rfl, rfl⟩) ?_ ?_
      · intro other hother
        obtain rfl : welcome = other := by simpa using hother
        exact ⟨hs.other relayId welcome hsession, rfl, .inl ⟨hsession, rfl⟩⟩
      · intro other hother
        obtain rfl : welcome = other := by simpa using hother
        exact hs.told relayId welcome (.inr hsession)
  | lost => exact hs.set hle (fun _ _ => ⟨rfl, rfl⟩) (by simp) (by simp)
  | cancelled => exact hs.set hle (fun _ _ => ⟨rfl, rfl⟩) (by simp) (by simp)

/-- Where every link on the way up is older than the `welcome` below it, a chain names all relays
there are. -/
theorem Inv.mem_chain (hs : s.Inv) {id : String}
    (habove : Parents.Above s.links.upstreamOf upper id) :
    ∀ {lower : String} {welcome : Welcome}, s.Told lower welcome → welcome.relayId = upper →
      s.Follows lower upper → Parents.Along s.links.upstreamOf s.Follows upper →
      id ∈ welcome.chain := by
  have hnext : ∀ {lower upper next : String} {welcome : Welcome}, s.Told lower welcome →
      welcome.relayId = upper → s.Follows lower upper →
      Parents.Link s.links.upstreamOf upper next →
      ∃ above, s.Told upper above ∧ above.relayId = next ∧
        welcome.chain = next :: above.chain := by
    intro lower upper next welcome htold hupper hfollows hlink
    obtain ⟨above, hsession, habove⟩ := Links.upstreamOf_eq_some.mp hlink
    have hbefore : s.joined upper < s.answered lower := hfollows (by rw [hlink]; simp)
    subst hupper habove
    exact ⟨above, .inr hsession, rfl, hs.told lower welcome htold above hsession hbefore⟩
  induction habove using Relation.TransGen.head_induction_on with
  | single hlink =>
      intro lower welcome htold hupper hfollows _
      obtain ⟨above, -, -, hchain⟩ := hnext htold hupper hfollows hlink
      rw [hchain]
      exact List.mem_cons_self
  | head hlink _ ih =>
      intro lower welcome htold hupper hfollows hway
      obtain ⟨above, htoldAbove, habove, hchain⟩ := hnext htold hupper hfollows hlink
      obtain ⟨hfollowsAbove, hwayAbove⟩ := (Parents.along_iff_of_some hlink).mp hway
      rw [hchain]
      exact List.mem_cons_of_mem _ (ih htoldAbove habove hfollowsAbove hwayAbove)

theorem acyclic_step (hs : s.Inv) (hacyclic : Parents.Acyclic s.links.upstreamOf)
    (hfresh : s.UpToDate label) (h : s.step label = some s') :
    Parents.Acyclic s'.links.upstreamOf := by
  obtain ⟨links, hlinks, rfl⟩ := Option.map_eq_some_iff.mp h
  refine Links.acyclic_step hacyclic ?_ (Links.step_eq_some hlinks)
  intro relayId welcome hlabel hsession habove
  subst hlabel
  obtain ⟨hfollows, hway⟩ := hfresh welcome hsession
  exact hs.mem_chain habove (.inl hsession) rfl hfollows hway

theorem map_links_step (s : TimedLinks) (label : LinkLabel) :
    (s.step label).map links = s.links.step label := by
  unfold step
  cases s.links.step label with
  | none => rfl
  | some links => rfl

end Times

end TimedLinks

namespace Links

/-- In every run in which no chain is out of date when it is relied on, the graph of adopted links
is free of cycles in every state. -/
theorem upstream_links_acyclic (labels : List LinkLabel)
    (hfresh : Meets TimedLinks.step TimedLinks.UpToDate .init labels) :
    Throughout step (fun links => Parents.Acyclic links.upstreamOf) init labels := by
  intro before after links hsplit hrun
  subst hsplit
  have hmap := run_map TimedLinks.map_links_step TimedLinks.init before
  obtain ⟨s, htimed, rfl⟩ := Option.map_eq_some_iff.mp (hmap.trans hrun)
  have hstep : ∀ (s : TimedLinks) (label : LinkLabel) (s' : TimedLinks),
      s.Inv ∧ Parents.Acyclic s.links.upstreamOf → s.UpToDate label → s.step label = some s' →
      s'.Inv ∧ Parents.Acyclic s'.links.upstreamOf := by
    intro s label s' ⟨hinv, hacyclic⟩ hlabel hs'
    exact ⟨TimedLinks.inv_step hinv hs', TimedLinks.acyclic_step hinv hacyclic hlabel hs'⟩
  have hstart : Parents.Acyclic init.upstreamOf := Parents.acyclic_of_none fun _ => rfl
  have hbefore := ((meets_append htimed).mp hfresh).1
  exact (run_invariant hstep ⟨TimedLinks.inv_init, hstart⟩ hbefore htimed).2

def handshake (lower upper : String) : List LinkLabel :=
  [.dial lower upper, .answer lower "link" [], .receive lower]

def downwards : List LinkLabel :=
  handshake "relay-b" "relay-c" ++ handshake "relay-a" "relay-b" ++ handshake "relay-c" "relay-a"

/-- In that order `relay-c` finds itself in the chain it is sent, and stays where it is. -/
theorem upstream_links_acyclic_downwards :
    Throughout step (fun links => Parents.Acyclic links.upstreamOf) init downwards := by
  have hroot : ∀ {s : TimedLinks} {lower upper : String}, s.links.upstreamOf upper = none →
      s.Follows lower upper ∧ Parents.Along s.links.upstreamOf s.Follows upper :=
    fun h => ⟨fun hlinked => absurd h hlinked, Parents.along_of_none h⟩
  have hlink : ∀ {s : TimedLinks} {lower upper : String} (above : String),
      s.links.upstreamOf upper = some above → s.joined upper < s.answered lower →
      s.Follows upper above ∧ Parents.Along s.links.upstreamOf s.Follows above →
      s.Follows lower upper ∧ Parents.Along s.links.upstreamOf s.Follows upper :=
    fun above h hbefore hway => ⟨fun _ => hbefore, (Parents.along_iff_of_some h).mpr hway⟩
  refine upstream_links_acyclic downwards
    ⟨trivial, trivial, ?_, trivial, trivial, ?_, trivial, trivial, ?_, trivial⟩
  · intro welcome hwelcome
    cases hwelcome
    exact hroot rfl
  · intro welcome hwelcome
    cases hwelcome
    exact hlink "relay-c" rfl (by decide) (hroot rfl)
  · intro welcome hwelcome
    cases hwelcome
    exact hlink "relay-b" rfl (by decide) (hlink "relay-c" rfl (by decide) (hroot rfl))

def ring : List LinkLabel :=
  handshake "relay-a" "relay-b" ++ handshake "relay-b" "relay-c" ++ handshake "relay-c" "relay-a"

/-- The chain `relay-a` tells is the one from before its own upstream joined `relay-c`. -/
theorem upstream_links_ring :
    ¬ ∀ (labels : List LinkLabel) (links : Links), run step init labels = some links →
      Parents.Acyclic links.upstreamOf := by
  intro h
  obtain ⟨links, hrun, hab, hbc, hca⟩ := exists_run step init ring
    (fun links => links.upstreamOf "relay-a" = some "relay-b" ∧
      links.upstreamOf "relay-b" = some "relay-c" ∧ links.upstreamOf "relay-c" = some "relay-a")
    (by decide +kernel)
  exact h ring links hrun "relay-a" (.head hab (.head hbc (.single hca)))

end Links

end TermexoRelay
