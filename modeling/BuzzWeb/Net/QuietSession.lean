import BuzzWeb.Net.Session

/-!
# The session when nothing throws

The handlers of `BuzzWeb.Net.Session` run on a world without planned faults: each of them returns,
and what it posts is a function of the registry and of what the slots hold.  These equations are
the interface that the laws about whole runs use.
-/

namespace BuzzWeb
namespace Net

open Domain App

namespace Session

/-- What one event posts: a copy to each receiver that is registered and not skipped. -/
def eventPosts (registry : SessionRegistry) (event : ControlDispatcherEvent) : List Posted :=
  event.eventReceivers.filterMap fun participant =>
    if skips event participant = false ∧ participant.id ∈ registry then
      some (participant.id, ProtocolCodec.encodeEvent event)
    else none

/-- What the response handler posts for a result. -/
def resultPosts (registry : SessionRegistry) (self : ParticipantId)
    (result : ControlDispatcherResult) : List Posted :=
  match result.response with
  | .success requestMeta (.signaling signaling) =>
      if signaling.targetParticipantId ∈ registry then
        (signaling.targetParticipantId, ProtocolCodec.encodeSignalingEvent signaling) ::
          (self, ProtocolCodec.encodeResponse result.response) ::
            result.events.flatMap (eventPosts registry)
      else
        [(self, ProtocolCodec.encodeResponse (.error requestMeta .participantUnavailable))]
  | _ => (self, ProtocolCodec.encodeResponse result.response) ::
      result.events.flatMap (eventPosts registry)

/-- The world after a handler posted some messages and changed nothing else. -/
def post (world : World) (posts : List Posted) : World :=
  { world with sent := world.sent ++ posts }

@[simp] theorem post_registry (world : World) (posts : List Posted) :
    (post world posts).registry = world.registry := rfl

@[simp] theorem post_faults (world : World) (posts : List Posted) :
    (post world posts).faults = world.faults := rfl

@[simp] theorem post_nil (world : World) : post world [] = world := by
  simp [post]

theorem post_post (world : World) (first second : List Posted) :
    post (post world first) second = post world (first ++ second) := by
  simp [post]

variable {world : World}

theorem point_quiet (hfaults : world.faults = []) : point world = (some (), world) := by
  simp [point, hfaults]

theorem encode_quiet (hfaults : world.faults = []) (json : Json) :
    encode json world = (some json, world) := by
  rw [encode, Throwing.bind_of_some (point_quiet hfaults)]
  rfl

theorem find_quiet (hfaults : world.faults = []) (participantId : ParticipantId) :
    find participantId world = (some (world.registry.find participantId), world) := by
  rw [find, Throwing.bind_of_some (point_quiet hfaults), Throwing.reads_apply]

theorem send_quiet (hfaults : world.faults = []) (session : ParticipantId) (message : Json) :
    send session message world = (some (), post world [(session, message)]) := by
  rw [send, Throwing.bind_of_some (point_quiet hfaults)]
  rfl

/-- A loop whose body only posts, posts the bodies' messages in order. -/
theorem forEach_quiet {α : Type} {body : α → Throwing World Unit} {posts : α → List Posted}
    (registry : SessionRegistry)
    (hbody : ∀ (x : α) (world : World), world.faults = [] → world.registry = registry →
      body x world = (some (), post world (posts x)))
    (items : List α) {world : World} (hfaults : world.faults = [])
    (hregistry : world.registry = registry) :
    Throwing.forEach body items world = (some (), post world (items.flatMap posts)) := by
  induction items generalizing world with
  | nil => simp [Throwing.forEach]
  | cons item rest ih =>
      rw [Throwing.forEach, Throwing.bind_of_some (hbody item world hfaults hregistry),
        ih (by simpa using hfaults) (by simpa using hregistry), post_post, List.flatMap_cons]

theorem deliverTo_quiet (event : ControlDispatcherEvent) (encoded : Json)
    (participant : Participant) (hfaults : world.faults = []) :
    deliverTo event encoded participant world = (some (), post world
      (if skips event participant = false ∧ participant.id ∈ world.registry then
        [(participant.id, encoded)] else [])) := by
  unfold deliverTo
  cases hskip : skips event participant with
  | true => simp
  | false =>
      simp only [Bool.false_eq_true, if_false]
      rw [Throwing.bind_of_some (find_quiet hfaults participant.id)]
      by_cases hmem : participant.id ∈ world.registry
      · simp only [SessionRegistry.find, hmem, if_true, and_self]
        exact send_quiet hfaults participant.id encoded
      · simp [SessionRegistry.find, hmem]

theorem deliverEvent_quiet (event : ControlDispatcherEvent) (hfaults : world.faults = []) :
    deliverEvent event world = (some (), post world (eventPosts world.registry event)) := by
  rw [deliverEvent, Throwing.bind_of_some (encode_quiet hfaults _),
    forEach_quiet world.registry (fun participant world hfaults hregistry => by
      rw [deliverTo_quiet event _ participant hfaults, hregistry]) _ hfaults rfl]
  have hposts : event.eventReceivers.flatMap (fun participant =>
      if skips event participant = false ∧ participant.id ∈ world.registry then
        [(participant.id, ProtocolCodec.encodeEvent event)] else []) =
      eventPosts world.registry event := by
    rw [eventPosts, List.filterMap_eq_flatMap_toList]
    congr 1
    funext participant
    split_ifs <;> rfl
  rw [hposts]

theorem deliverEvents_quiet (events : List ControlDispatcherEvent) (hfaults : world.faults = []) :
    deliverEvents events world =
      (some (), post world (events.flatMap (eventPosts world.registry))) := by
  rw [deliverEvents, forEach_quiet world.registry (fun event world hfaults hregistry => by
    rw [deliverEvent_quiet event hfaults, hregistry]) events hfaults rfl]

theorem reply_quiet (self : ParticipantId) (response : ControlDispatcherResponse)
    (hfaults : world.faults = []) :
    reply self response world =
      (some (), post world [(self, ProtocolCodec.encodeResponse response)]) := by
  rw [reply, Throwing.bind_of_some (encode_quiet hfaults _), send_quiet hfaults]

theorem replyAndDeliver_quiet (self : ParticipantId) (result : ControlDispatcherResult)
    (hfaults : world.faults = []) :
    replyAndDeliver self result world = (some (), post world
      ((self, ProtocolCodec.encodeResponse result.response) ::
        result.events.flatMap (eventPosts world.registry))) := by
  rw [replyAndDeliver, Throwing.bind_of_some (reply_quiet self result.response hfaults),
    deliverEvents_quiet result.events (by simpa using hfaults), post_post]
  rfl

theorem responseHandler_quiet (self : ParticipantId) (result : ControlDispatcherResult)
    (hfaults : world.faults = []) :
    responseHandler self result world =
      (some (), post world (resultPosts world.registry self result)) := by
  obtain ⟨response, events⟩ := result
  cases response with
  | error requestMeta payload => exact replyAndDeliver_quiet self _ hfaults
  | success requestMeta payload =>
      cases payload with
      | signaling signaling =>
          simp only [responseHandler, resultPosts]
          rw [Throwing.bind_of_some (find_quiet hfaults signaling.targetParticipantId)]
          by_cases hmem : signaling.targetParticipantId ∈ world.registry
          · simp only [SessionRegistry.find, hmem, if_true]
            rw [Throwing.bind_of_some (encode_quiet hfaults _),
              Throwing.bind_of_some (send_quiet hfaults _ _),
              replyAndDeliver_quiet self _ (by simpa using hfaults), post_post]
            rfl
          · simp only [SessionRegistry.find, hmem, if_false]
            exact reply_quiet self _ hfaults
      | _ => exact replyAndDeliver_quiet self _ hfaults

end Session
end Net
end BuzzWeb
