/-
  Traffic/Origins.lean --- where the messages of a run come from.

  WHAT THIS FILE IS FOR

  A message keeps the source, the destination and the flow that `_submit` was called
  with, and a run only adds messages.  The entries of a run say the first; that no
  other step adds one is read off the identities, which only `_submit` extends.
-/
import MeshtasticLab.Traffic.Addressing
import MeshtasticLab.Traffic.Attribution

set_option autoImplicit false

namespace MeshtasticLab.Traffic

open MeshtasticLab.Foundation MeshtasticLab.Gateway MeshtasticLab.Metrics MeshtasticLab.Models
open TrafficController TrafficTasks

/-- The source, the destination and the flow of a message. -/
def GeneratedMessage.origin (message : GeneratedMessage) : String × String × String :=
  (message.sourceNode, message.destinationNode, message.flow)

/-! ## Entries -/

namespace View

variable {strict : Prop} {v w : View}

/-- The origins of the messages, in the order of their generation. -/
def origins (v : View) : List (String × String × String) := v.messages.map (·.origin)

theorem origins_modifyMessage (v : View) (ref : Nat) {f : GeneratedMessage → GeneratedMessage}
    (hkeeps : ∀ message, (f message).origin = message.origin) :
    (v.modifyMessage ref f).origins = v.origins := map_modify_of_eq v.messages ref hkeeps

theorem origins_markSubmitted (v : View) (ref : Nat) :
    (v.markSubmitted ref).origins = v.origins := origins_modifyMessage v ref fun _ => rfl

theorem origins_unmarkSubmitted (v : View) (ref : Nat) :
    (v.unmarkSubmitted ref).origins = v.origins := origins_modifyMessage v ref fun _ => rfl

theorem origins_markFailed (v : View) (ref : Nat) (error : String) :
    (v.markFailed ref error).origins = v.origins := origins_modifyMessage v ref fun _ => rfl

/-- An entry leaves the origins, or adds that of a generated message. -/
theorem origins_entry (hentry : Entry strict v w) :
    w.origins = v.origins ∨ ∃ message : GeneratedMessage,
      w.origins = v.origins ++ [message.origin] := by
  cases hentry with
  | generate kind message ids => exact Or.inr ⟨message, List.map_append⟩
  | resolve key ref message error =>
      cases error with
      | none => exact Or.inl (origins_markSubmitted _ ref)
      | some error => exact Or.inl (origins_markFailed _ ref error)
  | reject source ref message error =>
      left
      split
      · exact (origins_markFailed _ ref error).trans (origins_unmarkSubmitted _ ref)
      · exact origins_markFailed _ ref error
  | transmit ref => exact Or.inl (origins_modifyMessage v ref fun _ => rfl)
  | deliver kind ref => exact Or.inl (origins_modifyMessage v ref fun _ => rfl)
  | acknowledge ref => exact Or.inl (origins_modifyMessage v ref fun _ => rfl)
  | _ => exact Or.inl rfl

theorem origins_entries (hentries : Entries strict v w) : v.origins <+: w.origins := by
  induction hentries with
  | refl => exact List.prefix_rfl
  | tail _ hentry ih =>
      rcases origins_entry hentry with hsame | ⟨message, hadded⟩
      · rwa [hsame]
      · rw [hadded]
        exact ih.trans (List.prefix_append _ _)

/-- Entries that add no message leave the origins. -/
theorem origins_of_length (hentries : Entries strict v w)
    (hlength : w.messages.length = v.messages.length) : w.origins = v.origins := by
  refine ((origins_entries hentries).eq_of_length ?_).symm
  unfold origins
  rw [List.length_map, List.length_map, hlength]

end View

/-! ## Steps -/

namespace TrafficTasks

variable {strict : Prop} {s t u : TrafficTasks} {pb : Protobuf}

theorem length_of_identities {c d : TrafficController}
    (h : d.watch.identities = c.watch.identities) : d.messages.length = c.messages.length := by
  have := congrArg List.length h
  unfold watch at this
  rwa [List.length_map, List.length_map] at this

theorem identities_identified (pb : Protobuf) (c : TrafficController) (packet : MeshPacket)
    (transmitter : String) :
    (c.identified pb packet transmitter).watch.identities = c.watch.identities := by
  unfold identified
  rcases messageForPacketIdentity_cases pb c packet (some transmitter) with
    ⟨_, hsame⟩ | ⟨response, _, hsame⟩
  · rw [hsame]
  · rw [hsame]
    rfl

/-- Only a call of `_submit` extends the identities. -/
theorem identities_handled (pb : Protobuf) (s : TrafficTasks) {a : Action}
    (hsubmit : ∀ m flow source pick draws, a ≠ .run m (.submit flow source pick draws)) :
    (s.handled pb a).watch.identities = s.controller.watch.identities := by
  cases a with
  | fromRadio m nodeId message =>
      exact ((does_handleFromRadio pb s.controller m nodeId message).sameKeys
        keyless_mayReport).identities
  | rfTransmission m transmitter packet packetAirtimeMs =>
      rcases counts_recordRfTransmission pb s.controller m transmitter packet packetAirtimeMs with
        hsame | ⟨_, hcounts⟩
      · exact congrArg (·.watch.identities) hsame
      · exact (hcounts.sameKeys keyless_mayCount).identities.trans
          (identities_identified pb s.controller packet transmitter)
  | drop m transmitter packet reason =>
      rcases counts_recordDrop pb s.controller m transmitter packet reason with
        hsame | ⟨_, hcounts⟩
      · exact congrArg (·.watch.identities) hsame
      · exact (hcounts.sameKeys keyless_mayCount).identities.trans
          (identities_identified pb s.controller packet transmitter)
  | failedReceptions m nodeId total =>
      exact ((samples_recordFailedReceptions s.controller m nodeId total).sameKeys
        keyless_maySample).identities
  | duplicateReceptions m nodeId total =>
      exact ((samples_recordDuplicateReceptions s.controller m nodeId total).sameKeys
        keyless_maySample).identities
  | run m input =>
      cases input with
      | submit flow source pick draws => exact absurd rfl (hsubmit m flow source pick draws)
      | sampled answer =>
          exact ((samples_applyFinalSample s.controller m answer).sameKeys
            keyless_maySample).identities
      | _ => rfl
  | resume i m input =>
      cases input with
      | sampled answer =>
          exact ((samples_applyFinalSample s.controller m answer).sameKeys
            keyless_maySample).identities
      | _ => rfl
  | _ => rfl

/-- The run task, when it holds no finalization, advances the run. -/
theorem runMove_advance (hidle : s.runTask.active = false) (hmove : RunMove strict s t) :
    Advance strict s.controller t.controller := by
  cases hmove with
  | idle u pc hneutral => exact hneutral.advance
  | begin u target m hneutral =>
      exact hneutral.advance.trans (advance_beginFinalization hneutral.advance.controlled m).1
  | finish target held m u outcome hpc hresumed =>
      rw [hpc] at hidle
      cases hresumed <;> cases hidle

theorem messages_noteActivity (c : TrafficController) (f : Accumulators → Accumulators)
    (m : Moment) : ((c.modifyAccumulators f).noteActivity m).messages = c.messages := rfl

/-- What `_submit` adds to the messages. -/
theorem origins_submit {c d : TrafficController} (hopen : c.frozenResults = []) {m : Moment}
    {source destination flowName : String} {draws : List Nat}
    {outcome : Except TrafficError (Option (Nat × MeshPacket))}
    (hsubmit : c.submit pb m source destination draws flowName = some (d, outcome)) :
    d.view.origins = c.view.origins ∨
      d.view.origins = c.view.origins ++ [(source, destination, flowName)] := by
  unfold submit at hsubmit
  rw [current_of_open hopen] at hsubmit
  split at hsubmit
  · cases hsubmit
    exact Or.inl rfl
  · next run hrun =>
      dsimp only at hsubmit
      split at hsubmit
      · cases hsubmit
        exact Or.inl rfl
      · split at hsubmit
        · cases hsubmit
        · next packetId ids _ =>
            split at hsubmit
            · cases hsubmit
              exact Or.inl rfl
            · cases hsubmit
              exact Or.inl rfl
            · split at hsubmit
              · cases hsubmit
                right
                unfold View.origins view
                dsimp only
                rw [messages_addGenerated hopen hrun ids m, List.map_append]
                rfl
              · cases hsubmit
                right
                unfold View.origins view
                dsimp only
                rw [messages_noteActivity, messages_addGenerated hopen hrun ids m, List.map_append]
                rfl

/-- A call of `_submit` that raises ends the run with the messages that it left. -/
theorem origins_raised (h : Structured s) (hsleeping : s.runTask = .sleeping) {m : Moment}
    {source destination flowName : String} {draws : List Nat} {c : TrafficController}
    {outcome : Except TrafficError (Option (Nat × MeshPacket))}
    (hsubmit : s.controller.submit pb m source destination draws flowName = some (c, outcome))
    (m' : Moment) (exception : String) :
    ((s.withController c).runFailed m' exception).controller.view.origins = c.view.origins := by
  have hphase : s.controller.phase = .generating := by
    have := h.run
    rwa [hsleeping] at this
  have hopen := not_closed_of_generating hphase
  obtain ⟨hbooks, _⟩ : Books False s.controller c ∧ _ :=
    books_submit (h.controlled.open hopen) hsubmit False.elim
  have hneutral := neutral_of_books h.controlled hopen hbooks
  have hsame : c.phase = .generating := (congrArg Frame.phase hbooks.frame).trans hphase
  have hidle : (s.withController c).runTask.active = false := by
    change s.runTask.active = false
    rw [hsleeping]
    rfl
  have hmove : RunMove False (s.withController c) ((s.withController c).runFailed m' exception) :=
    runMove_runFailed hneutral.advance.controlled (not_closed_of_generating hsame) hidle m'
      exception
  have hdoes : Watch.Does Watch.NoDeed c.watch
      ((s.withController c).runFailed m' exception).controller.watch :=
    does_runFailed (s.withController c) m' exception
  exact View.origins_of_length (runMove_advance hidle hmove).entries
    (length_of_identities hdoes.sameKeys_of_none.identities)

/-- A call of `_submit` adds at most a message from where it was called for. -/
theorem origins_runSubmit (h : Structured s) (hsleeping : s.runTask = .sleeping) {m : Moment}
    {flow source pick : Nat} {draws : List Nat}
    (hsubmit : s.runSubmit pb m flow source pick draws = some t)
    (hentries : Entries False s.controller.view t.controller.view) :
    t.controller.view.origins = s.controller.view.origins ∨
      ∃ call, s.submission flow source pick = some call ∧
        t.controller.view.origins = s.controller.view.origins ++ [call] := by
  have hlength : t.controller.messages.length =
      (s.submitHandled pb m flow source pick draws).messages.length := by
    have hdoes : Watch.Does Watch.NoDeed (s.submitHandled pb m flow source pick draws).watch
        t.controller.watch := does_runSubmit hsubmit
    exact length_of_identities hdoes.sameKeys_of_none.identities
  have hgenerating : s.controller.phase = .generating := by
    have := h.run
    rwa [hsleeping] at this
  have hopen := h.controlled.open (not_closed_of_generating hgenerating)
  cases hcall : s.submission flow source pick with
  | none =>
      rw [submitHandled_of_none pb m hcall draws] at hlength
      exact Or.inl (View.origins_of_length hentries hlength)
  | some call =>
      have hdone := hsubmit
      unfold runSubmit at hdone
      unfold submission at hcall
      obtain ⟨run, hcurrent, hdone⟩ := Option.bind_eq_some_iff.mp hdone
      obtain ⟨named, hflow, hdone⟩ := Option.bind_eq_some_iff.mp hdone
      obtain ⟨from_, hsource, hdone⟩ := Option.bind_eq_some_iff.mp hdone
      simp only [hcurrent, hflow, hsource, Option.bind_eq_bind, Option.bind_some] at hcall
      split at hdone
      · next hchoose =>
          rw [hchoose] at hcall
          cases hcall
      · next destination hchoose =>
          rw [hchoose] at hcall
          cases hcall
          obtain ⟨⟨c, outcome⟩, hcalled, hafter⟩ := Option.bind_eq_some_iff.mp hdone
          have hsame : t.controller.view.origins = c.view.origins := by
            cases outcome with
            | error error =>
                cases hafter
                exact origins_raised h hsleeping hcalled m error.text
            | ok sent =>
                cases sent with
                | none => cases hafter
                | some sent =>
                    cases hafter
                    rfl
          rw [hsame]
          rcases origins_submit hopen hcalled with hsame | hadded
          · exact Or.inl hsame
          · exact Or.inr ⟨_, rfl, hadded⟩

/-- A step that starts no run keeps the messages of the run, and only a call of `_submit`
adds one. -/
theorem origins_step (h : Structured s) {a : Action} (hstarts : a.starts = false)
    (hstep : step pb s a = some t) :
    t.controller.view.origins = s.controller.view.origins ∨
      ∃ m flow source pick draws call, a = .run m (.submit flow source pick draws) ∧
        s.submission flow source pick = some call ∧
        t.controller.view.origins = s.controller.view.origins ++ [call] := by
  have hentries : Entries False s.controller.view t.controller.view :=
    (step_advance pb h hstarts hstep).entries
  by_cases hsubmit : ∃ m flow source pick draws, a = .run m (.submit flow source pick draws)
  · obtain ⟨m, flow, source, pick, draws, rfl⟩ := hsubmit
    have hsleeping := sleeping_of_submit hstep
    unfold step at hstep
    rw [hsleeping] at hstep
    dsimp only at hstep
    split at hstep
    · cases hstep
    · rcases origins_runSubmit h hsleeping hstep hentries with hsame | ⟨call, hcall, hadded⟩
      · exact Or.inl hsame
      · exact Or.inr ⟨m, flow, source, pick, draws, call, rfl, hcall, hadded⟩
  · have hdoes : Watch.Does Watch.NoDeed (s.handled pb a).watch t.controller.watch :=
      does_step pb hstarts hstep
    have hidentities := hdoes.sameKeys_of_none.identities.trans
      (identities_handled pb s fun m flow source pick draws heq =>
        hsubmit ⟨m, flow, source, pick, draws, heq⟩)
    exact Or.inl (View.origins_of_length hentries (length_of_identities hidentities))

/-! ## Runs -/

/-- A message of this origin can be one of the request. -/
structure Makes (request : TrafficRunRequest) (origin : String × String × String) : Prop where
  flow : origin.2.2 ∈ request.schedulingFlows.map (·.name)
  broadcast : request.kind = .broadcastText → origin.2.1 = "broadcast"
  direct : request.kind = .directText → origin.2.1 ≠ origin.1

/-- Every message of the current run is one of its request. -/
def Homed (s : TrafficTasks) : Prop :=
  ∀ runId request, s.controller.frame.request = some (runId, request) →
    ∀ origin ∈ s.controller.view.origins, Makes request origin

theorem submission_name {flow source pick : Nat} {call : String × String × String}
    (hcall : s.submission flow source pick = some call) {run : TrafficRunResult}
    (hrun : s.controller.current = some run) {entry : TrafficFlow}
    (hentry : run.request.schedulingFlows[flow]? = some entry) : call.2.2 = entry.name := by
  unfold submission at hcall
  simp only [hrun, hentry, Option.bind_eq_bind, Option.bind_some] at hcall
  obtain ⟨from_, _, hcall⟩ := Option.bind_eq_some_iff.mp hcall
  split at hcall
  · cases hcall
  · cases hcall
    rfl

/-- What the run task calls `_submit` with is a message of the request. -/
theorem makes_submission {P : TrafficRunRequest → List String → Prop} (hserves : Serves P s)
    {flow source pick : Nat} {call : String × String × String}
    (hcall : s.submission flow source pick = some call) {run : TrafficRunResult}
    (hrun : s.controller.current = some run)
    (hrequest : s.controller.frame.request = some (run.runId, run.request)) :
    Makes run.request call := by
  obtain ⟨hvalid, _⟩ := hserves _ _ hrequest
  obtain ⟨from_, destination, name⟩ := call
  obtain ⟨run', entry, hrun', hentry, hfrom, hchoose⟩ := submission_eq_some hcall
  cases hrun.symm.trans hrun'
  have hname := submission_name hcall hrun hentry
  have hmember := List.mem_of_getElem? hentry
  refine ⟨?_, fun hkind => ?_, fun hkind => ?_⟩
  · rw [hname]
    exact List.mem_map_of_mem hmember
  · rw [hkind] at hchoose
    cases hchoose
    rfl
  · exact (chooseDestination_direct hvalid hmember (List.mem_of_getElem? hfrom) hkind
      hchoose).2.1

theorem Homed.step {P : TrafficRunRequest → List String → Prop} (h : Homed s)
    (hserves : Serves P s) (hstructured : Structured s) {a : Action}
    (hstep : step pb s a = some t) : Homed t := by
  cases hstarts : a.starts with
  | false =>
      obtain ⟨hrequest, _⟩ := step_identity pb hstructured hstarts hstep
      intro runId request hcurrent origin horigin
      rw [hrequest] at hcurrent
      rcases origins_step hstructured hstarts hstep with
        hsame | ⟨m, flow, source, pick, draws, call, rfl, hcall, hadded⟩
      · exact h runId request hcurrent origin (hsame ▸ horigin)
      · rw [hadded] at horigin
        rcases List.mem_append.mp horigin with hold | hnew
        · exact h runId request hcurrent origin hold
        · have hactive : s.runTask ≠ .done := by
            rw [sleeping_of_submit hstep]
            exact nofun
          obtain ⟨from_, destination, name⟩ := call
          obtain ⟨run, _, hrun, _⟩ := submission_eq_some hcall
          have hidentity := hstructured.request_of_current hactive hrun
          cases hidentity.symm.trans hcurrent
          rw [List.mem_singleton.mp hnew]
          exact makes_submission hserves hcall hrun hidentity
  | true =>
      cases a with
      | start m runId request scenarioSnapshot baseline =>
          unfold TrafficTasks.step at hstep
          dsimp only at hstep
          split at hstep
          · cases hstep
            unfold started
            split
            · next c error hstart =>
                rcases start_cases False hstart with ⟨_, _, hbooks, hmessages, _⟩ | ⟨hok, _⟩
                · have hsame : c.view.origins = s.controller.view.origins :=
                    congrArg (List.map GeneratedMessage.origin) hmessages
                  have hframe : c.frame.request = s.controller.frame.request :=
                    congrArg Frame.request hbooks.frame
                  intro runId' request' hrequest origin horigin
                  exact h runId' request' (hframe.symm.trans hrequest) origin (hsame ▸ horigin)
                · cases hok
            · next c started hstart =>
                rcases start_cases False hstart with ⟨_, hraised, _⟩ | ⟨_, _, hbegun, _⟩
                · cases hraised
                · have hnone : c.view.origins = [] :=
                    congrArg (List.map GeneratedMessage.origin) hbegun.messages
                  intro runId' request' _ origin horigin
                  exact absurd (hnone ▸ horigin) List.not_mem_nil
          · cases hstep
      | _ => cases hstarts

section Runs

variable {scenario : Scenario} {hardwareIds : Dict String Nat} {buildMetadata : BuildMetadata}
  {settleSeconds : Option ℚ} {failedReceptionSampler : Bool}

/-- In every run the messages are those of the current request, which has what is asked of
the requests. -/
theorem homed_of_run {P : TrafficRunRequest → List String → Prop} (pb : Protobuf)
    (hrun : Run (step pb) (Asks P)
      (.new scenario hardwareIds buildMetadata settleSeconds failedReceptionSampler) s) :
    Sound s ∧ Serves P s ∧ Homed s := by
  refine hrun.invariant (I := fun s => Sound s ∧ Serves P s ∧ Homed s) ?_ ?_
  · rintro u a v ⟨hsound, hserves, hhomed⟩ hasks hstep
    exact ⟨hsound.step pb hstep, hserves.step pb hsound.structured hasks hstep,
      hhomed.step hserves hsound.structured hstep⟩
  · exact ⟨(exact_new _ _ _ _ _).toSound, nofun, nofun⟩

end Runs

end TrafficTasks

end MeshtasticLab.Traffic
