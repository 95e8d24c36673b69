/-
  Simulator/Progress.lean --- what a simulation does to its controller.

  WHAT THIS FILE IS FOR

  Whatever a simulation does, its tasks move on by steps of their own and by events
  that are published.  So what both keep holds in every state of every simulation.
-/
import MeshtasticLab.Simulator.Medium
import MeshtasticLab.Traffic.Accounting

set_option autoImplicit false

namespace MeshtasticLab.Simulator

open MeshtasticLab.Foundation MeshtasticLab.Gateway MeshtasticLab.Metrics MeshtasticLab.Models
open MeshtasticLab.Traffic

/-- The tasks take a step, or an event is published. -/
inductive Progress (pb : Protobuf) (s : TrafficTasks) : TrafficTasks → Prop where
  | step (a : TrafficTasks.Action) (t : TrafficTasks) (hstep : s.step pb a = some t) :
      Progress pb s t
  | publish (event : PacketEvent) :
      Progress pb s (s.withController (s.controller.publish event))

/-- Any number of steps and events. -/
def Progresses (pb : Protobuf) : TrafficTasks → TrafficTasks → Prop :=
  Relation.ReflTransGen (Progress pb)

variable {pb : Protobuf} {s t u : TrafficTasks}

namespace Progresses

theorem refl (s : TrafficTasks) : Progresses pb s s := Relation.ReflTransGen.refl

theorem trans (hfirst : Progresses pb s t) (hsecond : Progresses pb t u) : Progresses pb s u :=
  Relation.ReflTransGen.trans hfirst hsecond

theorem single (h : Progress pb s t) : Progresses pb s t := Relation.ReflTransGen.single h

/-- What every step and every event preserves is preserved. -/
theorem invariant {I : TrafficTasks → Prop} (h : Progresses pb s t)
    (hpreserved : ∀ u v, I u → Progress pb u v → I v) (hstart : I s) : I t := by
  induction h with
  | refl => exact hstart
  | tail _ hlast ih => exact hpreserved _ _ ih hlast

end Progresses

/-! ## Soundness -/

/-- The accounting sees nothing of an event. -/
theorem sound_publish (h : TrafficTasks.Sound s) (event : PacketEvent) :
    TrafficTasks.Sound (s.withController (s.controller.publish event)) := by
  have hneutral : TrafficTasks.Neutral True s
      (s.withController (s.controller.publish event)) :=
    .of_frame (.of_view h.structured.controlled rfl rfl) rfl
  exact ⟨h.structured.neutral hneutral rfl, h.held.neutral hneutral, h.ledgered⟩

theorem Progresses.sound (hprogress : Progresses pb s t) (h : TrafficTasks.Sound s) :
    TrafficTasks.Sound t := by
  refine hprogress.invariant ?_ h
  intro u v hsound hlast
  cases hlast with
  | step a v hstep => exact hsound.step pb hstep
  | publish event => exact sound_publish hsound event

/-! ## Steps of a simulation -/

namespace DirectedMedium

theorem progress_decide (frame : Transmission) (links : List DirectedLink)
    (s : TrafficTasks) (injections : List Injection) :
    Progresses pb s
      (s.withController (links.foldl (frame.decide pb) (s.controller, injections)).1) := by
  induction links generalizing s injections with
  | nil => exact .refl s
  | cons link rest ih =>
      rw [List.foldl_cons]
      unfold Transmission.decide
      split
      · let published := s.withController (s.controller.publish (frame.disabledEvent link))
        let dropped := published.withController (published.controller.recordDrop pb frame.m
          frame.transmitter frame.packet "link-disabled")
        have hpublished : Progresses pb s published := .single (.publish _)
        have hdropped : Progresses pb published dropped :=
          .single (.step (.drop frame.m frame.transmitter frame.packet "link-disabled") _ rfl)
        exact (hpublished.trans hdropped).trans (ih dropped injections)
      · exact ih s _

theorem progress_forward (medium : DirectedMedium) (s : TrafficTasks) (frame : Transmission) :
    Progresses pb s (s.withController (medium.forward pb s.controller frame).1) := by
  let published := s.withController (s.controller.publish (frame.event medium.hardwareIds
    (((linksFrom medium.links frame.transmitter).filter (·.enabled)).map (·.toNode))))
  have hpublished : Progresses pb s published := .single (.publish _)
  exact hpublished.trans (progress_decide frame _ published [])

theorem progress_transmit (medium : DirectedMedium) (s : TrafficTasks) (m : Moment)
    (a : String) (packet : MeshPacket) :
    Progresses pb s
      (s.withController (medium.transmit pb s.controller m a packet).1) := by
  unfold transmit
  dsimp only
  split
  · exact .refl s
  · next payloadLength _ =>
      let recorded := s.withController (s.controller.recordRfTransmission pb m a packet
        (airtimeMs payloadLength medium.scenario.rf.modemPreset)).1
      have hrecorded : Progresses pb s recorded :=
        .single (.step (.rfTransmission m a packet _) _ rfl)
      split
      · next c error hraised =>
          simp only [recorded, hraised] at hrecorded
          exact hrecorded
      · next c correlation hanswered =>
          simp only [recorded, hanswered] at hrecorded
          exact hrecorded.trans (progress_forward medium (s.withController c) _)

end DirectedMedium

namespace Simulation

variable {s t : Simulation}

theorem progress_publishAll (s : Simulation) (events : List PacketEvent) :
    Progresses pb s.tasks (s.publishAll events).tasks := by
  induction events generalizing s with
  | nil => exact .refl s.tasks
  | cons event rest ih =>
      have hpublished : Progresses pb s.tasks
          (s.withController (s.controller.publish event)).tasks := .single (.publish event)
      exact hpublished.trans (ih (s.withController (s.controller.publish event)))

/-- The tasks progress in every step of a simulation. -/
theorem progress_step {a : Action} (hstep : step pb s a = some t) :
    Progresses pb s.tasks t.tasks := by
  unfold step at hstep
  cases a with
  | rfFrame nodeId packet =>
      dsimp only at hstep
      split at hstep
      · cases hstep
      · split at hstep <;> cases hstep <;> exact .refl _
  | transmit m nodeId =>
      dsimp only at hstep
      split at hstep
      · cases hstep
      · unfold transmitNext at hstep
        split at hstep
        · next packet rest _ _ =>
            cases hstep
            exact DirectedMedium.progress_transmit s.medium s.tasks m nodeId packet
        · cases hstep
  | inject nodeId i =>
      dsimp only at hstep
      split at hstep
      · cases hstep
      · split at hstep
        · cases hstep
        · cases hstep
          exact progress_publishAll s _
  | injectionRaised nodeId i =>
      dsimp only at hstep
      split at hstep <;> cases hstep
      exact .refl _
  | gathered nodeId =>
      dsimp only at hstep
      split at hstep <;> cases hstep
      exact .refl _
  | updateLink now link =>
      dsimp only at hstep
      split at hstep
      · cases hstep
        exact .refl _
      · next medium _ =>
          cases hstep
          exact progress_publishAll (s.withMedium medium) _
  | applyLinks now links =>
      dsimp only at hstep
      split at hstep
      · cases hstep
        exact .refl _
      · next medium _ _ =>
          cases hstep
          exact progress_publishAll (s.withMedium medium) _
  | traffic a =>
      dsimp only at hstep
      split at hstep
      · cases hstep
      · obtain ⟨tasks, htasks, rfl⟩ := Option.map_eq_some_iff.mp hstep
        exact .single (.step a tasks htasks)

end Simulation

end MeshtasticLab.Simulator
