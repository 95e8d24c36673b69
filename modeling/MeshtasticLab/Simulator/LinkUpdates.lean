/-
  Simulator/LinkUpdates.lean --- updates of the links of a running simulation.

  WHAT THIS FILE IS FOR

  `update_links` and `apply_topology` compute the changed links twice, in the
  service and in the medium, and pair the two by position.  While the medium has
  the links of the scenario both find the same links in scenario order, so an
  update that gets past its checks is applied as a whole.
-/
import MeshtasticLab.Simulator.Phases
import MeshtasticLab.Traffic.Frozen

set_option autoImplicit false

namespace MeshtasticLab.Models.Scenario

open MeshtasticLab.Foundation

/-! ## Link maps of distinct links -/

/-- The link map of links with distinct keys lists them in their order. -/
theorem items_linkMapOf {links : List DirectedLink} (hdistinct : (links.map (·.key)).Nodup) :
    (linkMapOf links).items = links.map fun link => (link.key, link) := by
  have hkeys : (((∅ : Dict (String × String) DirectedLink).items ++
      links.map fun link => (link.key, link)).map Prod.fst).Nodup := by
    rw [show (∅ : Dict (String × String) DirectedLink).items = [] from rfl, List.nil_append,
      List.map_map]
    exact hdistinct
  exact Dict.items_update hkeys

/-- The link map finds each of its links. -/
theorem get?_linkMapOf_iff {links : List DirectedLink}
    (hdistinct : (links.map (·.key)).Nodup) {key : String × String} {link : DirectedLink} :
    (linkMapOf links).get? key = some link ↔ link ∈ links ∧ link.key = key := by
  rw [Dict.get?_eq_some, items_linkMapOf hdistinct, List.mem_map]
  constructor
  · rintro ⟨found, hfound, heq⟩
    cases heq
    exact ⟨hfound, rfl⟩
  · rintro ⟨hlink, rfl⟩
    exact ⟨link, hlink, rfl⟩

theorem get?_linkMapOf_eq_none {links : List DirectedLink} {key : String × String} :
    (linkMapOf links).get? key = none ↔ key ∉ links.map (·.key) := by
  rw [← contains_linkMapOf, Dict.contains, Bool.not_eq_true, Option.isSome_eq_false_iff,
    Option.isNone_iff_eq_none]

theorem CompleteGraph.nodup_linkKeys {scenario : Scenario} (h : scenario.CompleteGraph) :
    scenario.linkKeys.Nodup := h.paired.nodup_iff.mpr (nodup_orderedPairs h.distinctIds)

end MeshtasticLab.Models.Scenario

namespace MeshtasticLab.Simulator

open MeshtasticLab.Foundation MeshtasticLab.Gateway MeshtasticLab.Metrics MeshtasticLab.Models
open MeshtasticLab.Traffic
open MeshtasticLab.Traffic.TrafficTasks (pairMoment pairProtobuf)

/-! ## The two lists of changes -/

/-- The links that differ from those of a map, in their order. -/
def differing (previous : Dict (String × String) DirectedLink) (links : List DirectedLink) :
    List DirectedLink :=
  links.filter fun link => previous.get? link.key ≠ some link

/-- The service finds the differing links. -/
theorem SimulatorService.changedLinks_eq {previous : Dict (String × String) DirectedLink}
    {links : List DirectedLink} (hknown : ∀ link ∈ links, previous.contains link.key = true) :
    changedLinks previous links = .ok (differing previous links) := by
  induction links with
  | nil => rfl
  | cons link rest ih =>
      obtain ⟨old, hold⟩ := Option.isSome_iff_exists.mp (hknown link List.mem_cons_self)
      have hrest := ih fun other hother => hknown other (List.mem_cons_of_mem _ hother)
      unfold changedLinks
      rw [hold, hrest]
      unfold differing
      by_cases hsame : old = link
      · rw [List.filter_cons_of_neg (by simp [hold, hsame])]
        simp [hsame]
      · rw [List.filter_cons_of_pos (by simp [hold, hsame])]
        simp [hsame]

/-- The medium finds the same links. -/
theorem DirectedMedium.applyLinks_eq {medium : DirectedMedium} {links : List DirectedLink}
    (hdistinct : (links.map (·.key)).Nodup)
    (hkeys : ∀ key, medium.links.contains key = true ↔ key ∈ links.map (·.key)) :
    medium.applyLinks links =
      .ok ({ medium with links := Scenario.linkMapOf links }, differing medium.links links) := by
  have hsame : (Scenario.linkMapOf links).keys.all medium.links.contains = true ∧
      medium.links.keys.all (Scenario.linkMapOf links).contains = true := by
    constructor
    · refine List.all_eq_true.mpr fun key hkey => (hkeys key).mpr ?_
      unfold Dict.keys at hkey
      rw [Scenario.items_linkMapOf hdistinct, List.map_map] at hkey
      exact hkey
    · refine List.all_eq_true.mpr fun key hkey => ?_
      obtain ⟨⟨_, link⟩, hitem, rfl⟩ := List.mem_map.mp hkey
      refine Scenario.contains_linkMapOf.mpr ((hkeys _).mp ?_)
      exact Option.isSome_iff_exists.mpr ⟨link, Dict.get?_eq_some.mpr hitem⟩
  unfold DirectedMedium.applyLinks
  dsimp only
  rw [if_pos hsame, Scenario.items_linkMapOf hdistinct, List.filter_map, List.map_map]
  exact congrArg _ (congrArg _ (List.map_id _))

/-! ## Recording the changes -/

/-- The run of the controller takes topology changes. -/
def TakesChanges (c : TrafficController) : Prop := c.current ≠ none ∧ c.acceptsRunEvents = true

instance (c : TrafficController) : Decidable (TakesChanges c) :=
  inferInstanceAs (Decidable (_ ∧ _))

/-- The change that an event and its link record. -/
def changeOf (event : PacketEvent) (link : DirectedLink) : TopologyChange where
  eventSequence := event.sequence
  monotonicSeconds := event.monotonicSeconds
  link := link

/-- A run with more topology changes. -/
def addChanges (c : TrafficController) (changes : List TopologyChange) : TrafficController :=
  c.modifyCurrent fun run => { run with topologyChanges := run.topologyChanges ++ changes }

theorem current_modifyCurrent (c : TrafficController)
    (f : TrafficRunResult → TrafficRunResult) : (c.modifyCurrent f).current = c.current.map f := by
  unfold TrafficController.modifyCurrent
  split
  · next hopen => simp [TrafficController.current, hopen]
  · next hfrozen => simp [TrafficController.current, hfrozen]

theorem modifyCurrent_modifyCurrent (c : TrafficController)
    (f g : TrafficRunResult → TrafficRunResult) :
    (c.modifyCurrent f).modifyCurrent g = c.modifyCurrent (g ∘ f) := by
  cases hfrozen : c.frozenResults with
  | nil => simp [TrafficController.modifyCurrent, hfrozen]
  | cons frozen older => simp [TrafficController.modifyCurrent, hfrozen]

theorem accepts_addChanges (c : TrafficController) (changes : List TopologyChange) :
    (addChanges c changes).acceptsRunEvents = c.acceptsRunEvents := by
  unfold addChanges TrafficController.modifyCurrent
  split <;> rfl

theorem takesChanges_addChanges (c : TrafficController) (changes : List TopologyChange) :
    TakesChanges (addChanges c changes) ↔ TakesChanges c := by
  unfold TakesChanges
  rw [addChanges, current_modifyCurrent, ← addChanges, accepts_addChanges, ne_eq,
    Option.map_eq_none_iff]

theorem addChanges_nil (c : TrafficController) : addChanges c [] = c := by
  refine TrafficController.modifyCurrent_of_fixed fun run _ => ?_
  rw [List.append_nil]

theorem addChanges_append (c : TrafficController) (first second : List TopologyChange) :
    addChanges (addChanges c first) second = addChanges c (first ++ second) := by
  unfold addChanges
  rw [modifyCurrent_modifyCurrent]
  congr 1
  funext run
  simp [List.append_assoc]

/-- The run has room for so many changes. -/
theorem ensureTopologyChangeCapacity_ok {c : TrafficController} (htakes : TakesChanges c)
    {n : Nat} :
    c.ensureTopologyChangeCapacity n = .ok () ↔
      ∀ run ∈ c.current, run.topologyChanges.length + n ≤ MAX_TOPOLOGY_CHANGES_PER_RUN := by
  obtain ⟨hcurrent, haccepts⟩ := htakes
  obtain ⟨run, hrun⟩ := Option.ne_none_iff_exists'.mp hcurrent
  unfold TrafficController.ensureTopologyChangeCapacity
  rw [hrun]
  dsimp only
  rw [if_neg (not_not.mpr haccepts)]
  split
  · next hfull =>
      refine iff_of_false nofun fun hroom => ?_
      exact absurd (hroom run rfl) (Nat.not_le.mpr hfull)
  · next hroom =>
      refine iff_of_true rfl ?_
      intro other hother
      cases hother
      exact Nat.not_lt.mp hroom

/-- A run that takes no changes has room for any number. -/
theorem ensureTopologyChangeCapacity_of_not_takes {c : TrafficController}
    (hnot : ¬TakesChanges c) (n : Nat) : c.ensureTopologyChangeCapacity n = .ok () := by
  unfold TrafficController.ensureTopologyChangeCapacity
  split
  · rfl
  · next run hrun =>
      rw [if_pos]
      exact fun haccepts => hnot ⟨by simp [hrun], haccepts⟩

theorem recordTopologyChange_eq {c : TrafficController} {n : Nat}
    (hcapacity : c.ensureTopologyChangeCapacity (n + 1) = .ok ()) (event : PacketEvent)
    (link : DirectedLink) :
    c.recordTopologyChange event link =
      (if TakesChanges c then addChanges c [changeOf event link] else c, .ok ()) := by
  unfold TrafficController.recordTopologyChange
  by_cases htakes : TakesChanges c
  · have hroom := (ensureTopologyChangeCapacity_ok htakes).mp hcapacity
    have hone : c.ensureTopologyChangeCapacity 1 = .ok () := by
      refine (ensureTopologyChangeCapacity_ok htakes).mpr fun run hrun => ?_
      exact Nat.le_trans (Nat.add_le_add_left (Nat.le_add_left 1 n) _) (hroom run hrun)
    rw [if_neg, hone, if_pos htakes]
    · rfl
    · rintro (hnone | hclosed)
      · exact htakes.1 hnone
      · exact hclosed htakes.2
  · rw [if_pos, if_neg htakes]
    rw [TakesChanges, not_and_or, not_not] at htakes
    exact htakes

/-- While the run has room, the changes are recorded pair by pair. -/
theorem SimulatorService.recordTopologyChanges_eq {c : TrafficController}
    {events : List PacketEvent} {links : List DirectedLink}
    (hlength : events.length = links.length)
    (hcapacity : c.ensureTopologyChangeCapacity links.length = .ok ()) :
    recordTopologyChanges c events links =
      (if TakesChanges c then addChanges c (List.zipWith changeOf events links) else c,
        .ok ()) := by
  induction links generalizing c events with
  | nil =>
      rw [List.length_eq_zero_iff.mp hlength]
      simp [recordTopologyChanges, addChanges_nil]
  | cons link rest ih =>
      cases events with
      | nil => cases hlength
      | cons event events =>
          have hrest : events.length = rest.length := Nat.succ.inj hlength
          unfold recordTopologyChanges
          rw [recordTopologyChange_eq hcapacity]
          dsimp only
          by_cases htakes : TakesChanges c
          · have htakes' := (takesChanges_addChanges c [changeOf event link]).mpr htakes
            have hroom := (ensureTopologyChangeCapacity_ok htakes).mp hcapacity
            rw [if_pos htakes, if_pos htakes, ih hrest, if_pos htakes', addChanges_append]
            · rfl
            · refine (ensureTopologyChangeCapacity_ok htakes').mpr fun run hrun => ?_
              rw [addChanges, current_modifyCurrent, Option.mem_map] at hrun
              obtain ⟨old, hold, rfl⟩ := hrun
              have hlast := hroom old hold
              simp only [List.length_append, List.length_cons, List.length_nil] at hlast ⊢
              omega
          · rw [if_neg htakes, if_neg htakes, ih hrest, if_neg htakes]
            exact ensureTopologyChangeCapacity_of_not_takes htakes _

namespace SimulatorService

variable {s t : SimulatorService}

/-! ## An update as a whole -/

theorem length_sequencedAll (b : EventBroker) (events : List PacketEvent) :
    (sequencedAll b events).length = events.length := by
  induction events generalizing b with
  | nil => rfl
  | cons event rest ih => exact congrArg (· + 1) (ih _)

theorem publishAll_outbox (c : TrafficController) (events : List PacketEvent) :
    events.foldl TrafficController.publish c = { c with outbox := c.outbox ++ events } := by
  induction events generalizing c with
  | nil => simp
  | cons event rest ih =>
      rw [List.foldl_cons, ih]
      simp [TrafficController.publish]

/-- The events that announce links. -/
def linkEvents (now : ℚ) (links : List DirectedLink) : List PacketEvent :=
  links.map fun link => DirectedMedium.linkUpdateEvent link now

/-- The simulation after its links were replaced, the changes announced and recorded. -/
def relinked (b : EventBroker) (simulation : Simulation) (now : ℚ)
    (links changed : List DirectedLink) :
    Simulation :=
  let announced := (simulation.withMedium { simulation.medium with
    links := Scenario.linkMapOf links }).publishAll (linkEvents now changed)
  let changes := List.zipWith changeOf (sequencedAll b (linkEvents now changed)) changed
  announced.withController
    (if TakesChanges simulation.controller then addChanges announced.controller changes
      else announced.controller)

/-- The announcements change nothing that `record_topology_change` reads. -/
theorem takesChanges_publishAll (simulation : Simulation) (events : List PacketEvent) :
    TakesChanges (simulation.publishAll events).controller ↔
      TakesChanges simulation.controller := by
  have hsame : (simulation.publishAll events).controller =
      { simulation.controller with outbox := simulation.controller.outbox ++ events } :=
    publishAll_outbox simulation.controller events
  rw [hsame]
  exact Iff.rfl

theorem ensureTopologyChangeCapacity_publishAll (simulation : Simulation)
    (events : List PacketEvent) (n : Nat) :
    (simulation.publishAll events).controller.ensureTopologyChangeCapacity n =
      simulation.controller.ensureTopologyChangeCapacity n := by
  have hsame : (simulation.publishAll events).controller =
      { simulation.controller with outbox := simulation.controller.outbox ++ events } :=
    publishAll_outbox simulation.controller events
  rw [hsame]
  rfl

/-- The service after its links were replaced. -/
def withLinks (s : SimulatorService) (simulation : Simulation) (now : ℚ)
    (links : List DirectedLink) : SimulatorService :=
  let changed := differing s.scenario.linkMap links
  { s.publishAll (linkEvents now changed) with
    scenario := { s.scenario with links := links }
    simulation := some (relinked s.broker simulation now links changed) }

/-- Links with the keys of the scenario are applied as a whole, if the run has room for
the changes. -/
theorem applyRuntimeScenario_eq (h : Staged s) {simulation : Simulation}
    (hsimulation : s.simulation = some simulation) (now : ℚ) {links : List DirectedLink}
    (hkeys : links.map (·.key) = s.scenario.linkKeys) :
    s.applyRuntimeScenario now { s.scenario with links := links } =
      match simulation.controller.ensureTopologyChangeCapacity
          (differing s.scenario.linkMap links).length with
      | .error error => (s, .error (.simulationConflict "TOPOLOGY_HISTORY_FULL" error.text))
      | .ok () => (s.withLinks simulation now links, .ok ()) := by
  have hmedium : simulation.medium.links = s.scenario.linkMap :=
    h.mapped _ (by rw [SimulatorService.links, hsimulation]; rfl)
  have hcontains : ∀ key, s.scenario.linkMap.contains key = true ↔ key ∈ links.map (·.key) := by
    intro key
    rw [hkeys]
    exact Scenario.contains_linkMapOf
  have hchanged : changedLinks s.scenario.linkMap links =
      .ok (differing s.scenario.linkMap links) :=
    changedLinks_eq fun link hlink => (hcontains _).mpr (List.mem_map_of_mem hlink)
  have happly : simulation.medium.applyLinks links =
      .ok ({ simulation.medium with links := Scenario.linkMapOf links },
        differing s.scenario.linkMap links) := by
    rw [← hmedium] at hcontains ⊢
    exact DirectedMedium.applyLinks_eq (hkeys ▸ h.complete.nodup_linkKeys) hcontains
  unfold applyRuntimeScenario
  rw [hsimulation]
  dsimp only
  rw [hchanged]
  dsimp only
  cases hcapacity : simulation.controller.ensureTopologyChangeCapacity
      (differing s.scenario.linkMap links).length with
  | error error => rfl
  | ok =>
      dsimp only
      rw [happly]
      dsimp only
      have hlength : (sequencedAll s.broker (linkEvents now
          (differing s.scenario.linkMap links))).length =
            (differing s.scenario.linkMap links).length := by
        rw [length_sequencedAll, linkEvents, List.length_map]
      have hrecorded := recordTopologyChanges_eq hlength
        ((ensureTopologyChangeCapacity_publishAll (simulation.withMedium
          { simulation.medium with links := Scenario.linkMapOf links })
          (linkEvents now (differing s.scenario.linkMap links)) _).trans hcapacity)
      rw [if_congr (takesChanges_publishAll _ _) rfl rfl] at hrecorded
      unfold linkEvents at hrecorded
      rw [hrecorded]
      rfl

/-- What an update with some requested links leads to: they have their values and the
others keep theirs, in the scenario and in the medium, and every link that changed is
announced once, in scenario order. -/
structure LinksUpdated (s : SimulatorService) (now : ℚ) (requested : List DirectedLink)
    (t : SimulatorService) : Prop where
  applied : ∀ link ∈ requested, t.scenario.linkMap.get? link.key = some link
  others : ∀ key ∉ requested.map (·.key),
    t.scenario.linkMap.get? key = s.scenario.linkMap.get? key
  medium : t.links = some t.scenario.linkMap
  published : t.published = s.published ++ sequencedAll s.broker
    (linkEvents now (differing s.scenario.linkMap t.scenario.links))

theorem linksUpdated_withLinks {simulation : Simulation} (now : ℚ)
    {links requested : List DirectedLink}
    (hrequested : ∀ link ∈ requested, (Scenario.linkMapOf links).get? link.key = some link)
    (hothers : ∀ key ∉ requested.map (·.key),
      (Scenario.linkMapOf links).get? key = s.scenario.linkMap.get? key) :
    LinksUpdated s now requested (s.withLinks simulation now links) where
  applied := hrequested
  others := hothers
  medium := rfl
  published := rfl

/-! ## The commands -/

/-- As many keys as links, so no key twice. -/
theorem nodup_of_linkMapOf {updates : List DirectedLink}
    (h : (Scenario.linkMapOf updates).items.length = updates.length) :
    (updates.map (·.key)).Nodup := by
  have hperm : ((Scenario.linkMapOf updates).items.map Prod.fst).Perm
      (updates.map (·.key)).dedup := by
    refine (List.perm_ext_iff_of_nodup (Scenario.linkMapOf updates).distinct
      (List.nodup_dedup _)).mpr fun key => ?_
    rw [List.mem_dedup, ← Scenario.contains_linkMapOf, Dict.contains,
      Option.isSome_iff_exists, List.mem_map]
    constructor
    · rintro ⟨⟨_, link⟩, hitem, rfl⟩
      exact ⟨link, Dict.get?_eq_some.mpr hitem⟩
    · rintro ⟨link, hget⟩
      exact ⟨_, Dict.get?_eq_some.mp hget, rfl⟩
  have hlength := hperm.length_eq
  rw [List.length_map, h] at hlength
  have hsame := (List.dedup_sublist (updates.map (·.key))).eq_of_length
    (by rw [← hlength, List.length_map])
  rw [← hsame]
  exact List.nodup_dedup _

/-- Known links get their new values. -/
theorem updatedLinks_requested (h : Staged s) {updates : List DirectedLink}
    (hdistinct : (updates.map (·.key)).Nodup)
    (hknown : ∀ link ∈ updates, link.key ∈ s.scenario.linkKeys) :
    ∀ link ∈ updates, (Scenario.linkMapOf (s.updatedLinks updates)).get? link.key = some link := by
  intro link hlink
  obtain ⟨current, hcurrent, hkey⟩ := List.mem_map.mp (hknown link hlink)
  refine (Scenario.get?_linkMapOf_iff ?_).mpr ⟨List.mem_map.mpr ⟨current, hcurrent, ?_⟩, rfl⟩
  · rw [keys_updatedLinks]
    exact h.complete.nodup_linkKeys
  · rw [hkey, (Scenario.get?_linkMapOf_iff hdistinct).mpr ⟨hlink, rfl⟩]
    rfl

/-- The other links keep theirs. -/
theorem updatedLinks_others (h : Staged s) {updates : List DirectedLink} {key : String × String}
    (hkey : key ∉ updates.map (·.key)) :
    (Scenario.linkMapOf (s.updatedLinks updates)).get? key = s.scenario.linkMap.get? key := by
  have hdistinct : ((s.updatedLinks updates).map (·.key)).Nodup := by
    rw [keys_updatedLinks]
    exact h.complete.nodup_linkKeys
  have hkept : ∀ current ∈ s.scenario.links, current.key = key →
      ((Scenario.linkMapOf updates).get? current.key).getD current = current := by
    rintro current _ rfl
    rw [Scenario.get?_linkMapOf_eq_none.mpr hkey]
    rfl
  apply Option.ext
  intro link
  rw [Scenario.get?_linkMapOf_iff hdistinct, Scenario.linkMap, ← Scenario.linkMapOf,
    Scenario.get?_linkMapOf_iff h.complete.nodup_linkKeys]
  constructor
  · rintro ⟨hlink, hsame⟩
    obtain ⟨current, hcurrent, rfl⟩ := List.mem_map.mp hlink
    rw [key_updated] at hsame
    rw [hkept current hcurrent hsame]
    exact ⟨hcurrent, hsame⟩
  · rintro ⟨hlink, rfl⟩
    exact ⟨List.mem_map.mpr ⟨link, hlink, hkept link hlink rfl⟩, rfl⟩

/-- What `_apply_runtime_scenario` comes to for links with the keys of the scenario. -/
theorem applyRuntimeScenario_cases (h : Staged s) {simulation : Simulation}
    (hsimulation : s.simulation = some simulation) (now : ℚ) {links : List DirectedLink}
    (hkeys : links.map (·.key) = s.scenario.linkKeys) :
    (∃ message, s.applyRuntimeScenario now { s.scenario with links := links } =
      (s, .error (.simulationConflict "TOPOLOGY_HISTORY_FULL" message))) ∨
      s.applyRuntimeScenario now { s.scenario with links := links } =
        (s.withLinks simulation now links, .ok ()) := by
  rw [applyRuntimeScenario_eq h hsimulation now hkeys]
  split
  · exact Or.inl ⟨_, rfl⟩
  · exact Or.inr rfl

/-- `update_links` raises a conflict and changes nothing, or it applies all its links. -/
theorem updateLinks_cases (h : Staged s) (now : ℚ) (updates : List DirectedLink) :
    (∃ code message, s.updateLinks now updates =
      (s, .error (.simulationConflict code message))) ∨
      ∃ simulation, s.simulation = some simulation ∧
        (updates.map (·.key)).Nodup ∧ (∀ link ∈ updates, link.key ∈ s.scenario.linkKeys) ∧
        s.updateLinks now updates =
          (s.withLinks simulation now (s.updatedLinks updates), .ok updates) := by
  unfold updateLinks
  dsimp only
  split
  · exact Or.inl ⟨_, _, rfl⟩
  · split
    · exact Or.inl ⟨_, _, rfl⟩
    · next hlength =>
        split
        · exact Or.inl ⟨_, _, rfl⟩
        · next hrunning =>
            obtain ⟨_, hpresent⟩ := not_or.mp hrunning
            obtain ⟨simulation, hsimulation⟩ := Option.ne_none_iff_exists'.mp
              (by simpa using hpresent)
            split
            · exact Or.inl ⟨_, _, rfl⟩
            · next hunknown =>
                have hknown : ∀ link ∈ updates, link.key ∈ s.scenario.linkKeys := by
                  intro link hlink
                  refine Scenario.contains_linkMapOf.mp ?_
                  have hkey : link.key ∈ (Scenario.linkMapOf updates).keys := by
                    obtain ⟨found, hfound⟩ := Option.isSome_iff_exists.mp
                      (Scenario.contains_linkMapOf.mpr (List.mem_map_of_mem hlink))
                    exact List.mem_map_of_mem (Dict.get?_eq_some.mp hfound)
                  have hfound := List.find?_eq_none.mp hunknown link.key hkey
                  rwa [decide_eq_true_eq, not_not] at hfound
                rcases applyRuntimeScenario_cases h hsimulation now
                    (keys_updatedLinks s updates) with ⟨message, hfull⟩ | hdone
                · refine Or.inl ⟨"TOPOLOGY_HISTORY_FULL", message, ?_⟩
                  unfold updatedLinks at hfull
                  rw [hfull]
                · refine Or.inr ⟨simulation, hsimulation, nodup_of_linkMapOf (not_not.mp hlength),
                    hknown, ?_⟩
                  unfold updatedLinks at hdone ⊢
                  rw [hdone]

/-- `apply_topology` raises a conflict and changes nothing, replaces the scenario of a
stopped service, or applies all its links. -/
theorem applyTopology_cases (h : Staged s) (now : ℚ) (preset : TopologyPreset) :
    (s.state ≠ .stopped ∧ ∃ code message, s.applyTopology now preset =
      (s, .error (.simulationConflict code message))) ∨
      ∃ links, applyTopologyPreset s.scenario preset = .ok { s.scenario with links := links } ∧
        links.map (·.key) = s.scenario.linkKeys ∧
        ((s.state = .stopped ∧ s.applyTopology now preset =
            ({ s with scenario := { s.scenario with links := links } },
              .ok { s.scenario with links := links })) ∨
          (s.state ≠ .stopped ∧ ∃ simulation, s.simulation = some simulation ∧
            s.applyTopology now preset =
              (s.withLinks simulation now links, .ok { s.scenario with links := links }))) := by
  obtain ⟨updated, happlied⟩ := h.complete.appliesPreset h.nodes preset
  obtain ⟨enabledByPair, rfl⟩ := applyTopologyPreset_ok happlied
  have hkeys : (s.scenario.links.map (·.switched enabledByPair)).map (·.key) =
      s.scenario.linkKeys := by
    rw [List.map_map]
    rfl
  unfold applyTopology
  rw [happlied]
  dsimp only
  split
  · next hstopped => exact Or.inr ⟨_, rfl, hkeys, Or.inl ⟨hstopped, rfl⟩⟩
  · next hstate =>
      split
      · exact Or.inl ⟨hstate, _, _, rfl⟩
      · next hrunning =>
          obtain ⟨_, hpresent⟩ := not_or.mp hrunning
          obtain ⟨simulation, hsimulation⟩ := Option.ne_none_iff_exists'.mp
            (by simpa using hpresent)
          rcases applyRuntimeScenario_cases h hsimulation now hkeys with ⟨message, hfull⟩ | hdone
          · refine Or.inl ⟨hstate, "TOPOLOGY_HISTORY_FULL", message, ?_⟩
            rw [hfull]
          · refine Or.inr ⟨_, rfl, hkeys, Or.inr ⟨hstate, simulation, hsimulation, ?_⟩⟩
            rw [hdone]

/-- A preset that is applied is the scenario of the service. -/
theorem scenario_applyTopology (h : Staged s) {now : ℚ} {preset : TopologyPreset}
    {updated : Scenario} (happly : s.applyTopology now preset = (t, .ok updated)) :
    applyTopologyPreset s.scenario preset = .ok updated ∧ t.scenario = updated := by
  rcases applyTopology_cases h now preset with
    ⟨_, code, message, hconflict⟩ | ⟨links, happlied, _, ⟨_, hdone⟩ | ⟨_, simulation, _, hdone⟩⟩
  · rw [hconflict] at happly
    cases happly
  · rw [hdone] at happly
    cases happly
    exact ⟨happlied, rfl⟩
  · rw [hdone] at happly
    cases happly
    exact ⟨happlied, rfl⟩

/-! ## Runs -/

/-- A broker with its first stream. -/
def labBroker : EventBroker := .new 100 100 "stream"

/-- The service of a new process, up to the state `RUNNING`. -/
def startUp : List Action :=
  [.start pairMoment { collisionAvailable := true, provenanceAvailable := true },
    .createSimulation pairMoment ∅ fun _ => [],
    .finishStart pairMoment none]

section Runs

variable {broker : EventBroker} {buildMetadata : BuildMetadata}

/-- The graph check accepts exactly the complete directed graphs, the scenario of a service is
one in every reachable state, and a preset changes the enabled flags only and overrides the
preset before it. -/
theorem scenario_of_run (pb : Protobuf)
    (hrun : Run (step pb) Always (.new broker buildMetadata) s) :
    (∀ scenario : Scenario, scenario.validateGraph = .ok () ↔
      scenario.nodeCount = scenario.nodes.length ∧ scenario.nodeIds.Nodup ∧
        (scenario.nodes.map (·.apiPort)).Nodup ∧
        (scenario.links.map (·.key)).Perm (Scenario.orderedPairs scenario.nodeIds)) ∧
      s.scenario.validateGraph = .ok () ∧
      (∀ now preset, ∃ enabled : DirectedLink → Bool, (s.applyTopology now preset).1.scenario =
        { s.scenario with
          links := s.scenario.links.map fun link => { link with enabled := enabled link } }) ∧
      (∀ now first t applied, s.applyTopology now first = (t, .ok applied) →
        ∀ now' last u twice, t.applyTopology now' last = (u, .ok twice) →
          ∀ v alone, s.applyTopology now' last = (v, .ok alone) →
            u.scenario = v.scenario ∧ twice = alone) ∧
      ∀ scenario applied first, applyTopologyPreset scenario first = .ok applied →
        ∀ last, applyTopologyPreset applied last = applyTopologyPreset scenario last := by
  have h := staged_of_run pb hrun
  refine ⟨fun scenario => ?_, h.complete.validateGraph, fun now preset => ?_, ?_,
    fun _ _ _ happlied last => applyTopologyPreset_again happlied last⟩
  · rw [Scenario.validateGraph_ok_iff]
    exact ⟨fun hgraph => ⟨hgraph.counted, hgraph.distinctIds, hgraph.distinctPorts, hgraph.paired⟩,
      fun ⟨hcounted, hids, hports, hpaired⟩ => ⟨hcounted, hids, hports, hpaired⟩⟩
  · have hflags : ∀ links, applyTopologyPreset s.scenario preset =
        .ok { s.scenario with links := links } →
          ∃ enabled : DirectedLink → Bool,
            links = s.scenario.links.map fun link => { link with enabled := enabled link } := by
      intro links happlied
      obtain ⟨enabledByPair, hlinks⟩ := applyTopologyPreset_ok happlied
      exact ⟨fun link => (enabledByPair.get? link.key).getD link.enabled,
        congrArg Scenario.links hlinks⟩
    rcases applyTopology_cases h now preset with
      ⟨_, code, message, hconflict⟩ | ⟨links, happlied, _, ⟨_, hdone⟩ | ⟨_, simulation, _, hdone⟩⟩
    · rw [hconflict]
      refine ⟨(·.enabled), ?_⟩
      rw [List.map_id'' fun link => rfl]
    · rw [hdone]
      obtain ⟨enabled, rfl⟩ := hflags links happlied
      exact ⟨enabled, rfl⟩
    · rw [hdone]
      obtain ⟨enabled, rfl⟩ := hflags links happlied
      exact ⟨enabled, rfl⟩
  · intro now first t applied hfirst now' last u twice hsecond v alone halone
    have ht : Staged t := by
      have happly := h.applyTopology now first
      rwa [hfirst] at happly
    obtain ⟨happlied, rfl⟩ := scenario_applyTopology h hfirst
    obtain ⟨htwice, hu⟩ := scenario_applyTopology ht hsecond
    obtain ⟨hsingle, hv⟩ := scenario_applyTopology h halone
    rw [applyTopologyPreset_again happlied, hsingle] at htwice
    cases htwice
    exact ⟨hu.trans hv.symm, rfl⟩

/-- A running service whose nodes form a line is still a complete graph. -/
theorem line_of_run : ∃ s, exec (step pairProtobuf) (startUp ++ [.applyTopology 0 .line])
    (.new labBroker .unavailable) = some s ∧ s.scenario.validateGraph = .ok () ∧
      s.scenario.links.countP (·.enabled) = 8 := by
  have hline : (exec (step pairProtobuf) (startUp ++ [.applyTopology 0 .line])
      (.new labBroker .unavailable)).map (fun s => s.scenario.links.countP (·.enabled)) =
        some 8 := by
    decide +kernel
  obtain ⟨s, hexec, hcount⟩ := Option.map_eq_some_iff.mp hline
  have hrun := Run.of_exec hexec (conforms_always _ _)
  exact ⟨s, hexec, (scenario_of_run pairProtobuf hrun).2.1, hcount⟩

/-- In every reachable state an update of links that raises is a conflict and changes nothing;
otherwise it is applied as a whole and announced.  A preset that is applied while the
service has stopped only replaces the scenario. -/
theorem links_updated_of_run (pb : Protobuf)
    (hrun : Run (step pb) Always (.new broker buildMetadata) s) (now : ℚ) :
    (∀ updates error, (s.updateLinks now updates).2 = .error error →
      error.isConflict = true ∧ (s.updateLinks now updates).1 = s) ∧
      (∀ updates links, (s.updateLinks now updates).2 = .ok links →
        LinksUpdated s now updates (s.updateLinks now updates).1) ∧
      (∀ preset error, (s.applyTopology now preset).2 = .error error →
        error.isConflict = true ∧ (s.applyTopology now preset).1 = s) ∧
      (∀ preset updated, (s.applyTopology now preset).2 = .ok updated → s.state ≠ .stopped →
        (s.applyTopology now preset).1.scenario = updated ∧
          LinksUpdated s now updated.links (s.applyTopology now preset).1) ∧
      ∀ preset updated, (s.applyTopology now preset).2 = .ok updated → s.state = .stopped →
        s.simulation = none ∧ (s.applyTopology now preset).1 = { s with scenario := updated } := by
  have h := staged_of_run pb hrun
  refine ⟨fun updates error herror => ?_, fun updates links hok => ?_,
    fun preset error herror => ?_, fun preset updated hok hstate => ?_,
    fun preset updated hok hstopped => ?_⟩
  · rcases updateLinks_cases h now updates with ⟨code, message, hconflict⟩ | ⟨_, _, _, _, hdone⟩
    · rw [hconflict] at herror ⊢
      cases herror
      exact ⟨rfl, rfl⟩
    · rw [hdone] at herror
      cases herror
  · rcases updateLinks_cases h now updates with
      ⟨code, message, hconflict⟩ | ⟨simulation, _, hdistinct, hknown, hdone⟩
    · rw [hconflict] at hok
      cases hok
    · rw [hdone]
      exact linksUpdated_withLinks now (updatedLinks_requested h hdistinct hknown)
        fun key hkey => updatedLinks_others h hkey
  · rcases applyTopology_cases h now preset with
      ⟨_, code, message, hconflict⟩ | ⟨links, _, _, ⟨_, hdone⟩ | ⟨_, simulation, _, hdone⟩⟩
    · rw [hconflict] at herror ⊢
      cases herror
      exact ⟨rfl, rfl⟩
    · rw [hdone] at herror
      cases herror
    · rw [hdone] at herror
      cases herror
  · rcases applyTopology_cases h now preset with
      ⟨_, code, message, hconflict⟩ |
        ⟨links, _, hkeys, ⟨hstopped, _⟩ | ⟨_, simulation, _, hdone⟩⟩
    · rw [hconflict] at hok
      cases hok
    · exact absurd hstopped hstate
    · rw [hdone] at hok ⊢
      cases hok
      have hdistinct : (links.map (·.key)).Nodup := hkeys ▸ h.complete.nodup_linkKeys
      refine ⟨rfl, linksUpdated_withLinks now (fun link hlink => ?_) fun key hkey => ?_⟩
      · exact (Scenario.get?_linkMapOf_iff hdistinct).mpr ⟨hlink, rfl⟩
      · rw [Scenario.get?_linkMapOf_eq_none.mpr hkey]
        rw [hkeys] at hkey
        exact (Scenario.get?_linkMapOf_eq_none.mpr hkey).symm
  · rcases applyTopology_cases h now preset with
      ⟨hstate, _⟩ | ⟨links, _, _, ⟨_, hdone⟩ | ⟨hstate, _⟩⟩
    · exact absurd hstopped hstate
    · rw [hdone] at hok ⊢
      cases hok
      exact ⟨Option.map_eq_none_iff.mp (h.links_of_stopped hstopped), rfl⟩
    · exact absurd hstopped hstate

/-- A link that node-1 loses. -/
def lostLink : DirectedLink where
  fromNode := "node-1"
  toNode := "node-2"
  enabled := false

/-- A running service applies an update of one link. -/
theorem lostLink_updated : ∃ s, exec (step pairProtobuf) startUp (.new labBroker .unavailable) =
    some s ∧ LinksUpdated s 1 [lostLink] (s.updateLinks 1 [lostLink]).1 ∧
      differing s.scenario.linkMap (s.updateLinks 1 [lostLink]).1.scenario.links = [lostLink] := by
  have hupdate : (exec (step pairProtobuf) startUp (.new labBroker .unavailable)).map
      (fun s => ((s.updateLinks 1 [lostLink]).2.toOption,
        differing s.scenario.linkMap (s.updateLinks 1 [lostLink]).1.scenario.links)) =
          some (some [lostLink], [lostLink]) := by
    decide +kernel
  obtain ⟨s, hexec, hupdated⟩ := Option.map_eq_some_iff.mp hupdate
  obtain ⟨hok, hchanged⟩ := Prod.mk.inj hupdated
  have happlied : (s.updateLinks 1 [lostLink]).2 = .ok [lostLink] := by
    cases houtcome : (s.updateLinks 1 [lostLink]).2 with
    | error error =>
        rw [houtcome] at hok
        cases hok
    | ok links =>
        rw [houtcome] at hok
        cases hok
        rfl
  exact ⟨s, hexec, (links_updated_of_run pairProtobuf (.of_exec hexec (conforms_always _ _)) 1).2.1
    [lostLink] [lostLink] happlied, hchanged⟩

/-- A preset that isolates the nodes of a stopped service changes twenty links and announces
none of them. -/
theorem stopped_preset_unannounced : ∃ updated,
    ((SimulatorService.new labBroker .unavailable).applyTopology 0 .allIsolated).2 = .ok updated ∧
      ¬LinksUpdated (.new labBroker .unavailable) 0 updated.links
        ((SimulatorService.new labBroker .unavailable).applyTopology 0 .allIsolated).1 := by
  have hstaged := staged_new labBroker .unavailable
  have hcount : (differing defaultScenario.linkMap
      ((SimulatorService.new labBroker .unavailable).applyTopology 0
        .allIsolated).1.scenario.links).length = 20 := by
    decide +kernel
  rcases applyTopology_cases hstaged 0 .allIsolated with
    ⟨hstate, _⟩ | ⟨links, _, _, ⟨_, hdone⟩ | ⟨hstate, _⟩⟩
  · exact absurd rfl hstate
  · refine ⟨_, congrArg Prod.snd hdone, fun hupdated => ?_⟩
    have hlength := congrArg List.length hupdated.published
    rw [List.length_append, length_sequencedAll, linkEvents, List.length_map] at hlength
    rw [show (SimulatorService.new labBroker .unavailable).scenario = defaultScenario from rfl,
      hcount, hdone] at hlength
    change 0 = 0 + 20 at hlength
    cases hlength
  · exact absurd rfl hstate

end Runs

end SimulatorService

end MeshtasticLab.Simulator
