import TermexoRelay.Registry.Numbers
import Mathlib.Data.List.MinMax
import Mathlib.Data.Prod.Lex

/-!
# Which of several announcements stays

An announcement draws its number before it takes the lock, so announcements of one device can take
the lock in another order than they were numbered in. What `replaces` compares is a linear order,
and the route that stays is its greatest candidate.
-/

namespace TermexoRelay

open Transition

structure Candidate where
  origin : Origin
  route : Route
  sequence : Nat
deriving DecidableEq

def Entry.candidate (entry : Entry) : Candidate :=
  ⟨entry.origin, entry.device.route, entry.sequence⟩

/-- Fewer hops first, and the later number among equally many. -/
def Candidate.rank (candidate : Candidate) : ℕᵒᵈ ×ₗ ℕ :=
  toLex (OrderDual.toDual candidate.route.hopCount, candidate.sequence)

/-- An announcement that has drawn its number and waits for the lock. -/
structure DrawnAnnouncement where
  linkDeviceId : String
  link : TunnelHandle
  device : AnnouncedDevice
  sequence : Nat
deriving DecidableEq

namespace DrawnAnnouncement

def job (drawn : DrawnAnnouncement) : Job :=
  .announcing drawn.linkDeviceId drawn.link drawn.device none drawn.sequence

def candidate (drawn : DrawnAnnouncement) : Candidate :=
  ⟨.announced drawn.linkDeviceId, .via drawn.link drawn.device.via, drawn.sequence⟩

/-- The task with this index is the announcement, on its own or within a snapshot. -/
def WaitsAt (drawn : DrawnAnnouncement) (p : PublicationState) (index : Nat) : Prop :=
  ∃ batch, p.tasks[index]? =
    some (.announcing drawn.linkDeviceId drawn.link drawn.device batch drawn.sequence)

end DrawnAnnouncement

/-- One announcement takes the lock. -/
def takeLock (relayId : String) (maxHops : Nat) (registry : Registry)
    (turn : DrawnAnnouncement × JobChoice) : Option Registry :=
  (turn.1.job.step relayId maxHops registry turn.2).map Prod.fst

/-- The route installed for a device, as a candidate. -/
def Registry.candidate (registry : Registry) (deviceId : String) : Option Candidate :=
  (registry.state.entries.lookup deviceId).map Entry.candidate

/-- The installed route and those that wait for the lock. -/
def Registry.candidates (registry : Registry) (deviceId : String)
    (drawn : List DrawnAnnouncement) : List Candidate :=
  (registry.candidate deviceId).toList ++ drawn.map DrawnAnnouncement.candidate

/-- The candidate with the fewest hops and the latest number among those. -/
structure IsShortest (candidates : List Candidate) (chosen : Candidate) : Prop where
  mem : chosen ∈ candidates
  shortest : ∀ candidate ∈ candidates, chosen.route.hopCount ≤ candidate.route.hopCount
  latest : ∀ candidate ∈ candidates, candidate.route.hopCount = chosen.route.hopCount →
    candidate.sequence ≤ chosen.sequence

section Rank

variable {candidate other : Candidate}

theorem Candidate.rank_lt_iff : candidate.rank < other.rank ↔
    other.route.hopCount < candidate.route.hopCount ∨
      candidate.route.hopCount = other.route.hopCount ∧ candidate.sequence < other.sequence := by
  rw [Candidate.rank, Candidate.rank, Prod.Lex.toLex_lt_toLex]
  rfl

theorem Candidate.rank_le_iff : candidate.rank ≤ other.rank ↔
    other.route.hopCount < candidate.route.hopCount ∨
      candidate.route.hopCount = other.route.hopCount ∧ candidate.sequence ≤ other.sequence := by
  rw [Candidate.rank, Candidate.rank, Prod.Lex.toLex_le_toLex]
  rfl

theorem isShortest_of_argmax {candidates : List Candidate}
    (h : candidates.argmax Candidate.rank = some candidate) : IsShortest candidates candidate := by
  have hrank : ∀ other ∈ candidates, candidate.route.hopCount < other.route.hopCount ∨
      other.route.hopCount = candidate.route.hopCount ∧ other.sequence ≤ candidate.sequence :=
    fun other hother => Candidate.rank_le_iff.mp (List.le_of_mem_argmax hother h)
  refine ⟨List.argmax_mem h, fun other hother => ?_, fun other hother hhops => ?_⟩
  · rcases hrank other hother with hlt | ⟨heq, -⟩
    · exact hlt.le
    · exact heq.ge
  · rcases hrank other hother with hlt | ⟨-, hle⟩
    · exact absurd hhops hlt.ne'
    · exact hle

/-- What a link announces takes over exactly when it ranks higher. -/
theorem replaces_iff_rank_lt {link : TunnelHandle} {hops : List String}
    (hroute : candidate.route = .via link hops) :
    replaces candidate.route candidate.sequence other.route other.sequence = true ↔
      candidate.rank < other.rank := by
  simp only [Candidate.rank_lt_iff, hroute, replaces, Bool.or_eq_true, Bool.and_eq_true,
    decide_eq_true_eq]
  exact or_congr_right (and_congr_left fun _ => eq_comm)

end Rank

section Turns

variable {relayId : String} {maxHops : Nat} {registry : Registry} {deviceId : String}

theorem candidate_takeLock (relayId : String) (maxHops : Nat) (registry : Registry)
    {turn : DrawnAnnouncement × JobChoice} (hid : turn.1.device.id = deviceId) :
    ∃ registry', takeLock relayId maxHops registry turn = some registry' ∧
      registry'.candidate deviceId =
        match registry.candidate deviceId with
        | none => some turn.1.candidate
        | some existing =>
            if replaces existing.route existing.sequence turn.1.candidate.route
                turn.1.sequence then some turn.1.candidate
            else some existing := by
  obtain ⟨⟨linkDeviceId, link, device, sequence⟩, choice⟩ := turn
  subst hid
  simp only [takeLock, DrawnAnnouncement.job, Job.step]
  cases hlocked : registry.state.announceLocked relayId linkDeviceId link device sequence
      choice.now with
  | none =>
      obtain ⟨existing, hlookup, hstays⟩ := RegistryState.announceLocked_eq_none hlocked
      refine ⟨registry, rfl, ?_⟩
      simp only [Registry.candidate, hlookup, Option.map_some, Entry.candidate,
        DrawnAnnouncement.candidate, hstays, Bool.false_eq_true, if_false]
  | some locked =>
      obtain ⟨state, change⟩ := locked
      obtain ⟨hwins, hentries, -, -⟩ := RegistryState.announceLocked_eq_some hlocked
      refine ⟨{ registry with state }, rfl, ?_⟩
      have hinstalled : (Registry.candidate { registry with state } device.id) =
          some (DrawnAnnouncement.candidate ⟨linkDeviceId, link, device, sequence⟩) := by
        rw [Registry.candidate, hentries, AList.lookup_insert]
        rfl
      rw [hinstalled, Registry.candidate]
      cases hlookup : registry.state.entries.lookup device.id with
      | none => rfl
      | some existing =>
          simp only [Option.map_some, Entry.candidate, DrawnAnnouncement.candidate,
            hwins existing hlookup, if_true]

theorem run_takeLock_direct {existing : Candidate} (hdirect : existing.route.isDirect = true)
    (hinstalled : registry.candidate deviceId = some existing)
    {order : List (DrawnAnnouncement × JobChoice)}
    (hids : ∀ turn ∈ order, turn.1.device.id = deviceId) :
    ∃ registry', run (takeLock relayId maxHops) registry order = some registry' ∧
      registry'.candidate deviceId = some existing := by
  induction order generalizing registry with
  | nil => exact ⟨registry, rfl, hinstalled⟩
  | cons turn order ih =>
      obtain ⟨registry₁, hturn, hafter⟩ := candidate_takeLock relayId maxHops registry
        (hids turn List.mem_cons_self)
      have hstays : replaces existing.route existing.sequence turn.1.candidate.route
          turn.1.sequence = false := by
        cases hroute : existing.route with
        | direct handle => rfl
        | via link hops => rw [hroute] at hdirect; cases hdirect
      simp only [hinstalled, hstays, Bool.false_eq_true, if_false] at hafter
      obtain ⟨registry', hrun, hfinal⟩ := ih hafter fun turn hturn =>
        hids turn (List.mem_cons_of_mem _ hturn)
      exact ⟨registry', run_cons_eq_some.mpr ⟨registry₁, hturn, hrun⟩, hfinal⟩

/-- Among announced routes the greatest candidate so far is installed. -/
theorem run_takeLock_argmax (relayId : String) (maxHops : Nat) {seen : List Candidate}
    (hseen : ∀ candidate ∈ seen, candidate.route.isDirect = false)
    (hinstalled : registry.candidate deviceId = seen.argmax Candidate.rank)
    {order : List (DrawnAnnouncement × JobChoice)}
    (hids : ∀ turn ∈ order, turn.1.device.id = deviceId) :
    ∃ registry', run (takeLock relayId maxHops) registry order = some registry' ∧
      registry'.candidate deviceId =
        (seen ++ order.map fun turn => turn.1.candidate).argmax Candidate.rank := by
  induction order generalizing registry seen with
  | nil => exact ⟨registry, rfl, by rw [hinstalled, List.map_nil, List.append_nil]⟩
  | cons turn order ih =>
      obtain ⟨registry₁, hturn, hafter⟩ := candidate_takeLock relayId maxHops registry
        (hids turn List.mem_cons_self)
      have hbest : registry₁.candidate deviceId =
          (seen ++ [turn.1.candidate]).argmax Candidate.rank := by
        rw [hafter, hinstalled, List.argmax_concat]
        cases hgreatest : seen.argmax Candidate.rank with
        | none => rfl
        | some greatest =>
            obtain ⟨link, hops, hroute⟩ : ∃ link hops, greatest.route = .via link hops := by
              have hvia := hseen greatest (List.argmax_mem hgreatest)
              cases hroute : greatest.route with
              | direct handle => rw [hroute] at hvia; cases hvia
              | via link hops => exact ⟨link, hops, rfl⟩
            exact if_congr (replaces_iff_rank_lt hroute) rfl rfl
      have hseen' : ∀ candidate ∈ seen ++ [turn.1.candidate],
          candidate.route.isDirect = false := by
        intro candidate hmem
        rcases List.mem_append.mp hmem with hmem | hmem
        · exact hseen candidate hmem
        · rw [List.mem_singleton.mp hmem]
          rfl
      obtain ⟨registry', hrun, hfinal⟩ := ih hseen' hbest fun turn hturn =>
        hids turn (List.mem_cons_of_mem _ hturn)
      refine ⟨registry', run_cons_eq_some.mpr ⟨registry₁, hturn, hrun⟩, ?_⟩
      rw [hfinal, List.append_assoc, List.singleton_append, List.map_cons]

/-- Where no two candidates share a number, the greatest does not depend on their order. -/
theorem argmax_rank_perm {candidates candidates' : List Candidate}
    (hperm : candidates.Perm candidates')
    (hdrawn : (candidates.map Candidate.sequence).Nodup) :
    candidates.argmax Candidate.rank = candidates'.argmax Candidate.rank := by
  cases hbest : candidates.argmax Candidate.rank with
  | none =>
      rw [List.argmax_eq_none] at hbest
      subst hbest
      rw [List.nil_perm.mp hperm]
      rfl
  | some best =>
      cases hother : candidates'.argmax Candidate.rank with
      | none =>
          rw [List.argmax_eq_none] at hother
          subst hother
          rw [List.perm_nil.mp hperm] at hbest
          cases hbest
      | some other =>
          have hmem : best ∈ candidates := List.argmax_mem hbest
          have hmem' : other ∈ candidates := hperm.mem_iff.mpr (List.argmax_mem hother)
          have hrank : best.rank = other.rank := le_antisymm
            (List.le_of_mem_argmax (hperm.mem_iff.mp hmem) hother)
            (List.le_of_mem_argmax hmem' hbest)
          have hsequence : best.sequence = other.sequence :=
            congrArg (fun rank => (ofLex rank).2) hrank
          rw [List.inj_on_of_nodup_map hdrawn hmem hmem' hsequence]

/-- In a relay's registry the installed route and all announcements that wait for the lock have
numbers of their own. -/
theorem nodup_candidates_of_reachable {p : PublicationState}
    (hreachable : Reachable (Publication.step relayId maxHops) Publication.init p)
    (deviceId : String) {waiting : List (Nat × DrawnAnnouncement)}
    (hindices : (waiting.map Prod.fst).Nodup)
    (hwaiting : ∀ item ∈ waiting, item.2.WaitsAt p item.1) :
    ((p.shared.registry.candidates deviceId (waiting.map Prod.snd)).map
      Candidate.sequence).Nodup := by
  have hnumbers := numbersDistinct_of_reachable hreachable
  have hholds : ∀ item ∈ waiting, ∃ job, p.tasks[item.1]? = some job ∧
      job.holds = some item.2.sequence := by
    intro item hitem
    obtain ⟨batch, htask⟩ := hwaiting item hitem
    exact ⟨_, htask, rfl⟩
  rw [Registry.candidates, List.map_append, List.nodup_append', List.map_map, List.map_map]
  refine ⟨?_, ?_, ?_⟩
  · cases p.shared.registry.candidate deviceId with
    | none => exact List.nodup_nil
    | some existing => exact List.nodup_singleton _
  · refine List.Nodup.map_on (fun item hitem other hother hsame => ?_) hindices.of_map
    obtain ⟨job, htask, hjob⟩ := hholds item hitem
    obtain ⟨job', htask', hjob'⟩ := hholds other hother
    have hsequence : item.2.sequence = other.2.sequence := hsame
    rw [← hsequence] at hjob'
    exact List.inj_on_of_nodup_map hindices hitem hother
      (hnumbers.distinct _ _ _ _ _ htask htask' hjob hjob')
  · intro sequence hinstalled hdrawn
    obtain ⟨existing, hexisting, rfl⟩ := List.mem_map.mp hinstalled
    obtain ⟨item, hitem, hsame⟩ := List.mem_map.mp hdrawn
    obtain ⟨entry, hentry, rfl⟩ := Option.map_eq_some_iff.mp (Option.mem_toList.mp hexisting)
    obtain ⟨job, htask, hjob⟩ := hholds item hitem
    refine hnumbers.unused job (List.mem_of_getElem? htask) deviceId entry hentry ?_
    rw [hjob]
    exact congrArg some hsame

end Turns

/-- Announcements of one device leave the same route whatever order they take the lock in: the
direct one if there was one, and otherwise the candidate with the fewest hops and the latest number
among those. -/
theorem announced_route_independent (relayId : String) (maxHops : Nat) (registry : Registry)
    (deviceId : String) (drawn : List DrawnAnnouncement)
    (hids : ∀ announcement ∈ drawn, announcement.device.id = deviceId)
    (hdrawn : ((registry.candidates deviceId drawn).map Candidate.sequence).Nodup) :
    ∃ best : Option Candidate,
      (∀ order : List (DrawnAnnouncement × JobChoice), (order.map Prod.fst).Perm drawn →
        ∃ registry', run (takeLock relayId maxHops) registry order = some registry' ∧
          registry'.candidate deviceId = best) ∧
      (∀ existing, registry.candidate deviceId = some existing →
        existing.route.isDirect = true → best = some existing) ∧
      ((∀ existing, registry.candidate deviceId = some existing →
          existing.route.isDirect = false) →
        (best = none ↔ registry.candidates deviceId drawn = []) ∧
        ∀ chosen, best = some chosen → IsShortest (registry.candidates deviceId drawn) chosen) := by
  have hturns : ∀ {order : List (DrawnAnnouncement × JobChoice)},
      (order.map Prod.fst).Perm drawn → ∀ turn ∈ order, turn.1.device.id = deviceId :=
    fun hperm turn hturn => hids turn.1 (hperm.mem_iff.mp (List.mem_map_of_mem hturn))
  by_cases hdirect : ∃ existing, registry.candidate deviceId = some existing ∧
      existing.route.isDirect = true
  · obtain ⟨existing, hinstalled, hdirect⟩ := hdirect
    refine ⟨some existing, fun order hperm =>
      run_takeLock_direct hdirect hinstalled (hturns hperm), fun other hother _ => ?_,
      fun hvia => ?_⟩
    · rw [← hinstalled, hother]
    · rw [hvia existing hinstalled] at hdirect
      cases hdirect
  · have hvia : ∀ candidate ∈ (registry.candidate deviceId).toList,
        candidate.route.isDirect = false := by
      intro candidate hmem
      rw [Option.mem_toList] at hmem
      exact Bool.eq_false_iff.mpr fun h => hdirect ⟨candidate, hmem, h⟩
    have hinstalled : registry.candidate deviceId =
        (registry.candidate deviceId).toList.argmax Candidate.rank := by
      cases registry.candidate deviceId with
      | none => rfl
      | some existing => exact (List.argmax_singleton (f := Candidate.rank)).symm
    refine ⟨(registry.candidates deviceId drawn).argmax Candidate.rank, fun order hperm => ?_,
      fun existing hexisting h => absurd ⟨existing, hexisting, h⟩ hdirect,
      fun _ => ⟨List.argmax_eq_none, fun chosen hchosen => isShortest_of_argmax hchosen⟩⟩
    obtain ⟨registry', hrun, hbest⟩ := run_takeLock_argmax relayId maxHops hvia hinstalled
      (hturns hperm)
    refine ⟨registry', hrun, hbest.trans (argmax_rank_perm ?_ hdrawn).symm⟩
    have hmap : (order.map fun turn => turn.1.candidate) =
        (order.map Prod.fst).map DrawnAnnouncement.candidate := by
      rw [List.map_map]
      rfl
    rw [hmap]
    exact ((hperm.map _).append_left _).symm

def drawnPair : List DrawnAnnouncement :=
  [⟨"relay-first", ⟨"relay-first", 0⟩, ⟨"device-b", "office", true, ["relay-x"]⟩, 0⟩,
    ⟨"relay-second", ⟨"relay-second", 1⟩, ⟨"device-b", "office", true, ["relay-z"]⟩, 1⟩]

theorem announced_route_independent_pair :
    (run (takeLock "relay-a" 8) .new (drawnPair.reverse.map fun drawn => (drawn, ⟨0, []⟩))).map
        (fun registry => registry.candidate "device-b") =
      (run (takeLock "relay-a" 8) .new (drawnPair.map fun drawn => (drawn, ⟨0, []⟩))).map
        fun registry => registry.candidate "device-b" := by
  obtain ⟨best, horder, -⟩ := announced_route_independent "relay-a" 8 .new "device-b" drawnPair
    (by decide) (by decide)
  obtain ⟨registry, hrun, hbest⟩ :=
    horder (drawnPair.reverse.map fun drawn => (drawn, ⟨0, []⟩)) (by decide)
  obtain ⟨registry', hrun', hbest'⟩ :=
    horder (drawnPair.map fun drawn => (drawn, ⟨0, []⟩)) (by decide)
  rw [hrun, hrun', Option.map_some, Option.map_some, hbest, hbest']

end TermexoRelay
