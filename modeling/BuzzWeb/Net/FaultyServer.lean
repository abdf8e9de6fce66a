import Mathlib
import BuzzWeb.App.FaultyRooms
import BuzzWeb.Net.SlotEffect

/-!
# The server when calls throw

The machine of `BuzzWeb.Net.Server` with a plan of faults beside every event: which repository calls
throw and where, and which points of the response handler do.  An exception that no handler catches
leaves `io_context::run` and with it the process, so the machine stops.

A handler, whether it returns or throws, only does what its own participant may do to the rooms
(`HandlerActs`), and pays for every throw with a planned fault.  From the first follows what no fault
can break, over every run; from the second which faults stop the process.
-/

namespace BuzzWeb
namespace Net

open Domain App

/-! ## The handlers -/

/-- How many faults are planned, in the store and at the points to come. -/
def plannedThrows (world : World) : Nat :=
  plannedFaults world.store + world.faults.count true

/-- What a handler of the session `actor` may do to the world, returning or throwing. -/
structure HandlerActs (actor : ParticipantId) (throws : Bool) (world world' : World) : Prop where
  rooms : Moved actor world.store.rooms world'.store.rooms
  registry : world'.registry = world.registry
  registered : world'.registered = world.registered
  sent : ∃ posts, world'.sent = world.sent ++ posts ∧
    ∀ post ∈ posts, post.1 = actor ∨ post.1 ∈ world.registry
  cost : plannedThrows world' + throws.toNat ≤ plannedThrows world

/-- What is done first costs at least as much as it leaves. -/
theorem HandlerActs.trans {actor : ParticipantId} {first second : Bool}
    {world middle after : World} (hfirst : HandlerActs actor first world middle)
    (hsecond : HandlerActs actor second middle after) : HandlerActs actor second world after := by
  obtain ⟨posts, hposts, hallowed⟩ := hfirst.sent
  obtain ⟨later, hlater, hallowed'⟩ := hsecond.sent
  have hcost := hfirst.cost
  have hcost' := hsecond.cost
  refine ⟨hfirst.rooms.trans hsecond.rooms, hsecond.registry.trans hfirst.registry,
    hsecond.registered.trans hfirst.registered, ⟨posts ++ later, ?_, ?_⟩, ?_⟩
  · rw [hlater, hposts, List.append_assoc]
  · intro post hmem
    rcases List.mem_append.mp hmem with hold | hnew
    · exact hallowed post hold
    · rw [← hfirst.registry]
      exact hallowed' post hnew
  · omega

theorem handlerActs_composes (actor : ParticipantId) : Throwing.Composes (HandlerActs actor) where
  refl world := ⟨.refl, rfl, rfl, ⟨[], by simp⟩, le_refl _⟩
  after_return := HandlerActs.trans
  after_throw := HandlerActs.trans

namespace Session

variable {self : ParticipantId}

/-- A service call of the session, on the store of the world. -/
theorem handlerActs_onStore {α : Type} {action : Throwing Store α}
    (haction : Throwing.Obeys (ServiceActs self) action) :
    Throwing.Obeys (HandlerActs self) (onStore action) := by
  intro world
  obtain ⟨hrooms, hcost⟩ := haction world.store
  refine ⟨hrooms, rfl, rfl, ⟨[], by simp [onStore]⟩, ?_⟩
  change plannedFaults (action world.store).2 + world.faults.count true +
    (action world.store).1.isNone.toNat ≤ plannedFaults world.store + world.faults.count true
  omega

theorem handlerActs_point : Throwing.Obeys (HandlerActs self) point := by
  intro world
  obtain ⟨store, registry, registered, sent, faults⟩ := world
  cases faults with
  | nil => exact (handlerActs_composes self).refl _
  | cons throws rest =>
      refine ⟨.refl, rfl, rfl, ⟨[], by simp [point]⟩, ?_⟩
      cases throws <;> simp [point, plannedThrows, Nat.add_assoc]

theorem handlerActs_encode (json : Json) : Throwing.Obeys (HandlerActs self) (encode json) :=
  Throwing.Obeys.bind (handlerActs_composes self) handlerActs_point fun _ =>
    Throwing.obeys_pure (handlerActs_composes self) json

/-- A send to the session itself, or to one in the registry. -/
theorem handlerActs_send {session : ParticipantId} {world : World}
    (hsession : session = self ∨ session ∈ world.registry) (message : Json) :
    Throwing.ObeysAt (HandlerActs self) (send session message) world := by
  refine Throwing.ObeysAt.bind (handlerActs_composes self) (handlerActs_point world) ?_
  intro _ world' hpoint
  have hacts : HandlerActs self false world world' := (handlerActs_point world).of_some hpoint
  refine ⟨.refl, rfl, rfl, ⟨[(session, message)], rfl, ?_⟩, le_refl _⟩
  intro post hmem
  rw [List.mem_singleton.mp hmem, hacts.registry]
  exact hsession

theorem handlerActs_sendSelf (message : Json) :
    Throwing.Obeys (HandlerActs self) (send self message) :=
  fun _ => handlerActs_send (Or.inl rfl) message

theorem handlerActs_find (participantId : ParticipantId) :
    Throwing.Obeys (HandlerActs self) (find participantId) :=
  Throwing.Obeys.bind (handlerActs_composes self) handlerActs_point fun _ =>
    Throwing.obeys_reads (handlerActs_composes self) _

/-- A session that was found is in the registry. -/
theorem mem_registry_of_find {participantId session : ParticipantId} {world world' : World}
    (hfind : find participantId world = (some (some session), world')) :
    session ∈ world'.registry := by
  unfold find at hfind
  rcases hpoint : point world with ⟨_ | _, middle⟩
  · rw [Throwing.bind_of_none hpoint] at hfind
    cases hfind
  · rw [Throwing.bind_of_some hpoint] at hfind
    obtain ⟨hsession, rfl⟩ := Prod.mk.inj hfind
    have hsome : middle.registry.find participantId = some session := Option.some.inj hsession
    unfold SessionRegistry.find at hsome
    split_ifs at hsome with hmem
    exact Option.some.inj hsome ▸ hmem

theorem handlerActs_deliverTo (event : ControlDispatcherEvent) (encoded : Json)
    (participant : Participant) :
    Throwing.Obeys (HandlerActs self) (deliverTo event encoded participant) := by
  have hR := handlerActs_composes self
  unfold deliverTo
  split_ifs
  · exact Throwing.obeys_pure hR ()
  · intro world
    refine Throwing.ObeysAt.bind hR (handlerActs_find _ world) fun found world' hfind => ?_
    cases found with
    | none => exact hR.refl world'
    | some session => exact handlerActs_send (Or.inr (mem_registry_of_find hfind)) encoded

theorem handlerActs_deliverEvents (events : List ControlDispatcherEvent) :
    Throwing.Obeys (HandlerActs self) (deliverEvents events) := by
  have hR := handlerActs_composes self
  refine Throwing.Obeys.forEach hR (fun event => ?_) events
  refine Throwing.Obeys.bind hR (handlerActs_encode _) fun encoded => ?_
  exact Throwing.Obeys.forEach hR (handlerActs_deliverTo event encoded) event.eventReceivers

theorem handlerActs_reply (response : ControlDispatcherResponse) :
    Throwing.Obeys (HandlerActs self) (reply self response) :=
  Throwing.Obeys.bind (handlerActs_composes self) (handlerActs_encode _) handlerActs_sendSelf

theorem handlerActs_replyAndDeliver (result : ControlDispatcherResult) :
    Throwing.Obeys (HandlerActs self) (replyAndDeliver self result) :=
  Throwing.Obeys.bind (handlerActs_composes self) (handlerActs_reply _) fun _ =>
    handlerActs_deliverEvents _

theorem handlerActs_responseHandler (result : ControlDispatcherResult) :
    Throwing.Obeys (HandlerActs self) (responseHandler self result) := by
  have hR := handlerActs_composes self
  unfold responseHandler
  split
  · intro world
    refine Throwing.ObeysAt.bind hR (handlerActs_find _ world) fun found world' hfind => ?_
    cases found with
    | none => exact handlerActs_reply _ world'
    | some target =>
        -- The relay goes to a session that was just found, and the encoding does not unregister it.
        have hmem := mem_registry_of_find hfind
        refine Throwing.ObeysAt.bind hR (handlerActs_encode _ world') ?_
        intro encoded world'' hencode
        have hacts : HandlerActs self false world' world'' :=
          (handlerActs_encode _ world').of_some hencode
        have hmem' : target ∈ world''.registry := hacts.registry ▸ hmem
        refine Throwing.ObeysAt.bind hR (handlerActs_send (Or.inr hmem') encoded) ?_
        exact fun _ final _ => handlerActs_replyAndDeliver result final
  · exact handlerActs_replyAndDeliver result

/-- The `try` block of `Dispatch`: the service calls of a request, then its response handler. -/
def serving (draws : Nat → Draw) (self : ParticipantId) (request : ControlDispatcherRequest) :
    Throwing World Unit :=
  onStore (ControlDispatcher.resultOf draws request) >>= responseHandler self

/-- The `catch` block of `Dispatch`: the response handler once more, with an internal error. -/
def internalAnswer (self : ParticipantId) (request : ControlDispatcherRequest) :
    Throwing World Unit :=
  responseHandler self (ControlDispatcher.errorResult request.requestMeta .internalError)

theorem handlerActs_serving {json : Json} {request : ControlDispatcherRequest}
    (hdecoded : ProtocolCodec.Decoded self json request) (draws : Nat → Draw) :
    Throwing.Obeys (HandlerActs self) (serving draws self request) :=
  Throwing.Obeys.bind (handlerActs_composes self)
    (handlerActs_onStore (serviceActs_resultOf hdecoded draws)) handlerActs_responseHandler

theorem handlerActs_sendProtocolError (requestMeta : Option RequestMeta) (code : String)
    (requestId : Option String) :
    Throwing.Obeys (HandlerActs self) (sendProtocolError self requestMeta code requestId) :=
  Throwing.Obeys.bind (handlerActs_composes self) (handlerActs_encode _) handlerActs_sendSelf

/-- A frame that does not ask for anything is answered with a protocol error. -/
theorem onFrame_of_error {parse : ByteArray → ParseResult} {frame : Frame} {answer : Json}
    (draws : Nat → Draw) (hrequest : requestOf parse self frame = .error answer) :
    ∃ requestMeta code requestId,
      onFrame parse draws self frame = sendProtocolError self requestMeta code requestId := by
  cases frame with
  | binary data => exact ⟨none, "invalid_message", none, rfl⟩
  | text message =>
      simp only [requestOf] at hrequest
      simp only [onFrame, handleMessage]
      cases hdecode : ProtocolCodec.decodeRequest parse self message with
      | error exception =>
          cases exception with
          | parseError => exact ⟨none, "invalid_json", none, rfl⟩
          | protocolDecodeError requestMeta code requestId =>
              exact ⟨requestMeta, code, requestId, rfl⟩
          | otherException => exact ⟨none, "invalid_message", none, rfl⟩
      | ok request =>
          rw [hdecode] at hrequest
          cases hrequest

/-- A decoded request is served inside a `try` block. -/
theorem onFrame_of_ok {parse : ByteArray → ParseResult} {frame : Frame}
    {request : ControlDispatcherRequest} (draws : Nat → Draw)
    (hrequest : requestOf parse self frame = .ok request) :
    onFrame parse draws self frame =
      Throwing.attempt (serving draws self request) (internalAnswer self request) := by
  cases frame with
  | binary data => cases hrequest
  | text message =>
      simp only [requestOf] at hrequest
      simp only [onFrame, handleMessage]
      cases hdecode : ProtocolCodec.decodeRequest parse self message with
      | error exception =>
          rw [hdecode] at hrequest
          cases exception <;> cases hrequest
      | ok decoded =>
          rw [hdecode] at hrequest
          rw [Except.ok.inj hrequest]
          rfl

theorem handlerActs_onFrame (parse : ByteArray → ParseResult) (draws : Nat → Draw)
    (frame : Frame) : Throwing.Obeys (HandlerActs self) (onFrame parse draws self frame) := by
  cases hrequest : requestOf parse self frame with
  | error answer =>
      obtain ⟨requestMeta, code, requestId, hframe⟩ := onFrame_of_error draws hrequest
      rw [hframe]
      exact handlerActs_sendProtocolError requestMeta code requestId
  | ok request =>
      obtain ⟨message, json, -, -, hdecoded⟩ := requestOf_ok hrequest
      rw [onFrame_of_ok draws hrequest]
      exact Throwing.Obeys.attempt (handlerActs_composes self)
        (handlerActs_serving hdecoded draws) (handlerActs_responseHandler _)

/-- A protocol error passes two points, and no `try` block stands around them. -/
theorem sendProtocolError_throws_iff (requestMeta : Option RequestMeta) (code : String)
    (requestId : Option String) (world : World) :
    (sendProtocolError self requestMeta code requestId world).1 = none ↔
      world.faults.getD 0 false = true ∨ world.faults.getD 1 false = true := by
  obtain ⟨store, registry, registered, sent, faults⟩ := world
  rcases faults with _ | ⟨first, _ | ⟨second, rest⟩⟩
  · simp [sendProtocolError, encode, send, point, Throwing.bind_apply]
  · cases first <;> simp [sendProtocolError, encode, send, point, Throwing.bind_apply]
  · cases first <;> cases second <;>
      simp [sendProtocolError, encode, send, point, Throwing.bind_apply]

/-- The serving of a request threw, and so did the internal error it was answered with; each of the
two used up a fault of its own. -/
structure ThrewTwice (draws : Nat → Draw) (actor : ParticipantId)
    (request : ControlDispatcherRequest) (world middle after : World) : Prop where
  serving : Session.serving draws actor request world = (none, middle)
  answer : internalAnswer actor request middle = (none, after)
  used : plannedThrows middle + 1 ≤ plannedThrows world
  used_again : plannedThrows after + 1 ≤ plannedThrows middle

/-- An exception that leaves the handler of a decoded request was the second one. -/
theorem onFrame_throws_iff {parse : ByteArray → ParseResult} {frame : Frame}
    {request : ControlDispatcherRequest} {draws : Nat → Draw} {world : World}
    (hrequest : requestOf parse self frame = .ok request) :
    (onFrame parse draws self frame world).1 = none ↔
      ∃ middle after, ThrewTwice draws self request world middle after := by
  obtain ⟨message, json, -, -, hdecoded⟩ := requestOf_ok hrequest
  rw [onFrame_of_ok draws hrequest]
  constructor
  · intro hthrow
    obtain ⟨middle, hserving, hanswer⟩ := Throwing.attempt_eq_none_iff.mp (Prod.ext hthrow rfl)
    have hfirst : HandlerActs self true world middle :=
      (handlerActs_serving hdecoded draws world).of_none hserving
    have hsecond : HandlerActs self true middle _ :=
      (handlerActs_responseHandler _ middle).of_none hanswer
    exact ⟨middle, _, hserving, hanswer, hfirst.cost, hsecond.cost⟩
  · rintro ⟨middle, after, htwice⟩
    rw [Throwing.attempt_eq_none_iff.mpr ⟨middle, htwice.serving, htwice.answer⟩]

/-- The clean-up returns whatever throws in it, and does nothing when the flag is not set. -/
theorem removeFromRegistry_returns (self : ParticipantId) (order : HashOrder) (world : World) :
    ∃ world', removeFromRegistry order self world = (some (), world') ∧
      (self ∉ world.registered → world' = world) ∧
      (self ∈ world.registered → HandlerActs self false
        { world with
          registered := world.registered.erase self
          registry := world.registry.remove self } world') := by
  have hR := handlerActs_composes self
  by_cases hregistered : self ∈ world.registered
  · obtain ⟨_, world', hreturn⟩ := Throwing.attempt_pure
      (onStore (ControlDispatcher.handleParticipantDisconnected order self) >>= deliverEvents) ()
      { world with
        registered := world.registered.erase self
        registry := world.registry.remove self }
    refine ⟨world', ?_, fun hnot => absurd hregistered hnot, fun _ => ?_⟩
    · rw [removeFromRegistry, if_pos hregistered]
      exact hreturn
    · have hsweep : Throwing.Obeys (HandlerActs self)
          (onStore (ControlDispatcher.handleParticipantDisconnected order self) >>=
            deliverEvents) :=
        Throwing.Obeys.bind hR (handlerActs_onStore (serviceActs_disconnected order))
          handlerActs_deliverEvents
      exact (Throwing.Obeys.attempt hR hsweep (Throwing.obeys_pure hR ()) _).of_some hreturn
  · refine ⟨world, ?_, fun _ => rfl, fun hmem => absurd hmem hregistered⟩
    rw [removeFromRegistry, if_neg hregistered]

end Session

/-! ## The machine -/

/-- The faults planned for one handler: one entry per repository call, one per point. -/
structure FaultPlan where
  calls : List RepositoryFault
  points : List Bool

/-- The server process. -/
structure Process where
  server : Server
  /-- No exception has left `io_context::run` so far. -/
  running : Bool

namespace Process

/-- An event of the server, and the faults that fall on its handler. -/
structure Event where
  event : Server.Event
  plan : FaultPlan

/-- The session whose handler runs. -/
def Event.actor (event : Event) : ParticipantId :=
  match event.event with
  | .connect session => session
  | .frame session _ _ => session
  | .disconnect session _ => session

/-- The world a handler starts in: nothing posted yet, and the faults of the plan. -/
def world (server : Server) (plan : FaultPlan) : World :=
  ⟨⟨server.rooms, plan.calls⟩, server.registry, server.registered, [], plan.points⟩

/-- Run a handler under a plan.  The process goes on when the handler returns. -/
def run (server : Server) (plan : FaultPlan) (handler : Throwing World Unit) :
    Process × List Posted :=
  let result := handler (world server plan)
  (⟨{ server with
      rooms := result.2.store.rooms
      registry := result.2.registry
      registered := result.2.registered }, result.1.isSome⟩, result.2.sent)

/-- The machine.  The accept handler has one point, the insertion into the registry. -/
def machine (parse : ByteArray → ParseResult) : EventMachine Process Event Posted where
  init := ⟨⟨∅, ∅, ∅, ∅⟩, true⟩
  step process event :=
    if process.running then
      match event.event with
      | .connect session =>
          if session ∈ process.server.accepted then none
          else if event.plan.points.getD 0 false then
            some (⟨{ process.server with
              accepted := insert session process.server.accepted }, false⟩, [])
          else some (⟨process.server.connect session, true⟩, [])
      | .frame session frame draws =>
          if session ∈ process.server.accepted then
            some (run process.server event.plan (Session.onFrame parse draws session frame))
          else none
      | .disconnect session order =>
          some (run process.server event.plan (Session.removeFromRegistry order session))
    else none

variable {parse : ByteArray → ParseResult}

/-- Everything a step can be. -/
theorem step_cases {process process' : Process} {event : Event} {posts : List Posted}
    (hstep : (machine parse).step process event = some (process', posts)) :
    process.running = true ∧
    ((∃ session, event.event = .connect session ∧ session ∉ process.server.accepted ∧
        posts = [] ∧
        ((event.plan.points.getD 0 false = true ∧ process' = ⟨{ process.server with
              accepted := insert session process.server.accepted }, false⟩) ∨
          (event.plan.points.getD 0 false = false ∧
            process' = ⟨process.server.connect session, true⟩))) ∨
      (∃ session frame draws, event.event = .frame session frame draws ∧
        session ∈ process.server.accepted ∧ (process', posts) =
          run process.server event.plan (Session.onFrame parse draws session frame)) ∨
      (∃ session order, event.event = .disconnect session order ∧ (process', posts) =
          run process.server event.plan (Session.removeFromRegistry order session))) := by
  obtain ⟨event, plan⟩ := event
  have hrunning : process.running = true := by
    by_contra hstopped
    simp [machine, hstopped] at hstep
  refine ⟨hrunning, ?_⟩
  simp only [machine, hrunning, if_true] at hstep
  cases event with
  | connect session =>
      simp only at hstep
      split_ifs at hstep with haccepted hfault
      · obtain ⟨rfl, rfl⟩ := Prod.mk.inj (Option.some.inj hstep)
        exact Or.inl ⟨session, rfl, haccepted, rfl, Or.inl ⟨hfault, rfl⟩⟩
      · obtain ⟨rfl, rfl⟩ := Prod.mk.inj (Option.some.inj hstep)
        exact Or.inl ⟨session, rfl, haccepted, rfl, Or.inr ⟨by simpa using hfault, rfl⟩⟩
  | frame session frame draws =>
      simp only at hstep
      split_ifs at hstep with haccepted
      exact Or.inr (Or.inl ⟨session, frame, draws, rfl, haccepted, (Option.some.inj hstep).symm⟩)
  | disconnect session order =>
      exact Or.inr (Or.inr ⟨session, order, rfl, (Option.some.inj hstep).symm⟩)

/-- Without faults this is the machine of `BuzzWeb.Net.Server`, and it goes on. -/
theorem step_of_no_faults (server : Server) (event : Server.Event) :
    (machine parse).step ⟨server, true⟩ ⟨event, ⟨[], []⟩⟩ =
      ((Server.machine parse).step server event).map fun result =>
        (⟨result.1, true⟩, result.2) := by
  cases event with
  | connect session =>
      simp only [machine, Server.machine, if_true, List.getD_nil, Bool.false_eq_true, if_false]
      split_ifs <;> rfl
  | frame session frame draws =>
      have hreturns : (Session.onFrame parse draws session frame (world server ⟨[], []⟩)).1 ≠
          none := by
        intro hthrow
        cases hrequest : Session.requestOf parse session frame with
        | error answer =>
            obtain ⟨requestMeta, code, requestId, hframe⟩ :=
              Session.onFrame_of_error draws hrequest
            rw [hframe, Session.sendProtocolError_throws_iff] at hthrow
            simp [world] at hthrow
        | ok request =>
            -- There is no fault to use up.
            obtain ⟨middle, after, htwice⟩ := (Session.onFrame_throws_iff hrequest).mp hthrow
            have hused := htwice.used
            simp [world, plannedThrows, plannedFaults] at hused
      obtain ⟨_, hsome⟩ := Option.ne_none_iff_exists'.mp hreturns
      simp only [machine, Server.machine, if_true]
      split_ifs
      · simp only [run, hsome, Option.map_some, Server.run]
        rfl
      · rfl
  | disconnect session order =>
      obtain ⟨world', hreturn, -, -⟩ := Session.removeFromRegistry_returns session order
        (world server ⟨[], []⟩)
      simp only [machine, Server.machine, if_true, run, hreturn, Option.map_some, Server.run]
      have hquiet : Session.removeFromRegistry order session server.world = (some (), world') :=
        hreturn
      rw [hquiet]
      rfl

/-- So every run of the server is a run of the process. -/
theorem run_of_server_run {history : List (EventMachine.Step Server Server.Event Posted)}
    {server : Server} (hrun : (Server.machine parse).Run history server) :
    ∃ history', (machine parse).Run history' ⟨server, true⟩ ∧
      history'.map EventMachine.Step.output = history.map EventMachine.Step.output := by
  let quietEvent : Server.Event → Event := fun event => ⟨event, ⟨[], []⟩⟩
  have hstep : ∀ server process event event' after posts, process = Process.mk server true →
      event' = quietEvent event → (Server.machine parse).step server event = some (after, posts) →
      ∃ process', (machine parse).step process event' = some (process', posts) ∧
        process' = Process.mk after true := by
    rintro server _ event _ after posts rfl rfl hlast
    refine ⟨_, ?_, rfl⟩
    rw [step_of_no_faults, hlast]
    rfl
  have hevents : List.Forall₂ (fun st event' => event' = quietEvent st.event) history
      (history.map fun st => quietEvent st.event) := by
    rw [List.forall₂_map_right_iff]
    exact List.forall₂_same.mpr fun st _ => rfl
  obtain ⟨history', process, hrun', -, houtputs, rfl⟩ := EventMachine.Run.lockstep
    (R := fun server process => process = Process.mk server true) rfl hstep hrun hevents
  exact ⟨history', hrun', houtputs⟩

/-! ## What no fault can break -/

/-- The laws of the server's state, and that every room is stored under its own code. -/
structure Sound (server : Server) : Prop where
  wellFormed : server.WellFormed
  codes : Server.AllRooms (fun code room => room.code = code) server

/-- Moves of an accepted participant keep the laws of the rooms. -/
theorem Sound.moved {server server' : Server} {self : ParticipantId} (hsound : Sound server)
    (hself : self ∈ server.accepted) (hmoved : Moved self server.rooms server'.rooms)
    (hregistry : server'.registry = server'.registered)
    (hregistered : server'.registered ⊆ server'.accepted)
    (haccepted : server'.accepted = server.accepted) : Sound server' := by
  refine ⟨⟨hregistry, hregistered, ?_, ?_⟩, ?_⟩
  · rw [haccepted]
    refine hmoved.keeps_rooms ?_ ?_ ?_ hsound.wellFormed.members_accepted
    · intro code password participant hmem
      cases hmem
    · intro code room participant password hid hadmits hroom other hmem
      rcases List.mem_append.mp hmem with hold | hnew
      · exact hroom other hold
      · rw [List.mem_singleton.mp hnew, hid]
        exact hself
    · intro code room hroom other hmem
      exact hroom other (List.mem_of_mem_filter hmem)
  · refine hmoved.keeps_rooms ?_ ?_ ?_ hsound.wellFormed.nodup
    · intro code password
      exact List.nodup_nil
    · intro code room participant password hid hadmits hroom
      exact Room.nodup_append hadmits.1 hroom
    · intro code room hroom
      exact Room.nodup_without self hroom
  · refine hmoved.keeps_rooms ?_ ?_ ?_ hsound.codes
    · intro code password
      rfl
    · intro code room participant password hid hadmits hroom
      exact hroom
    · intro code room hroom
      exact hroom

/-- Members stay accepted when one more session is. -/
theorem Sound.members_insert {server : Server} (hsound : Sound server) (session : ParticipantId) :
    Server.AllRooms (fun _ room => ∀ participant ∈ room.participants,
      participant.id ∈ insert session server.accepted) server := by
  intro code room hstored participant hmem
  exact Finset.mem_insert_of_mem
    (hsound.wellFormed.members_accepted code room hstored participant hmem)

/-- One step: the laws are kept, the rooms are moved by the acting session alone, and nobody but it
and the registered sessions is sent anything. -/
theorem Sound.step {process process' : Process} {event : Event} {posts : List Posted}
    (hsound : Sound process.server)
    (hstep : (machine parse).step process event = some (process', posts)) :
    Sound process'.server ∧
      Moved event.actor process.server.rooms process'.server.rooms ∧
      ∀ post ∈ posts, post.1 = event.actor ∨ post.1 ∈ process.server.registry := by
  obtain ⟨event, plan⟩ := event
  obtain ⟨-, ⟨session, rfl, hnew, rfl, ⟨-, rfl⟩ | ⟨-, rfl⟩⟩ |
    ⟨session, frame, draws, rfl, haccepted, hrun⟩ | ⟨session, order, rfl, hrun⟩⟩ :=
      step_cases hstep
  · refine ⟨⟨⟨hsound.wellFormed.registry_eq, ?_, hsound.members_insert session,
      hsound.wellFormed.nodup⟩, hsound.codes⟩, .refl, by simp⟩
    exact hsound.wellFormed.registered_accepted.trans (Finset.subset_insert _ _)
  · refine ⟨⟨⟨?_, ?_, hsound.members_insert session, hsound.wellFormed.nodup⟩, hsound.codes⟩,
      .refl, by simp⟩
    · exact congrArg (insert session) hsound.wellFormed.registry_eq
    · exact Finset.insert_subset_insert session hsound.wellFormed.registered_accepted
  · obtain ⟨rfl, rfl⟩ := Prod.mk.inj hrun
    have hacts : HandlerActs session _ _ _ := Session.handlerActs_onFrame parse draws frame
      (world process.server plan)
    have hregistry := hacts.registry
    have hregistered := hacts.registered
    obtain ⟨sent, hsent, hallowed⟩ := hacts.sent
    refine ⟨hsound.moved haccepted hacts.rooms ?_ ?_ rfl, hacts.rooms, ?_⟩
    · exact hregistry.trans (hsound.wellFormed.registry_eq.trans hregistered.symm)
    · exact hregistered ▸ hsound.wellFormed.registered_accepted
    · intro post hmem
      change _ = sent at hsent
      exact hallowed post (hsent ▸ hmem)
  · obtain ⟨rfl, rfl⟩ := Prod.mk.inj hrun
    obtain ⟨world', hreturn, hidle, hacts⟩ := Session.removeFromRegistry_returns session order
      (world process.server plan)
    simp only [hreturn]
    by_cases hmem : session ∈ process.server.registered
    · obtain ⟨hrooms, hregistry, hregistered, ⟨sent, hsent, hallowed⟩, -⟩ := hacts hmem
      refine ⟨hsound.moved (hsound.wellFormed.registered_accepted hmem) hrooms ?_ ?_ rfl, hrooms,
        ?_⟩
      · refine hregistry.trans (Eq.trans ?_ hregistered.symm)
        exact congrArg (fun ids : Finset ParticipantId => ids.erase session)
          hsound.wellFormed.registry_eq
      · refine hregistered ▸ (Finset.erase_subset session _).trans ?_
        exact hsound.wellFormed.registered_accepted
      · intro post hpost
        change _ = sent at hsent
        exact (hallowed post (hsent ▸ hpost)).imp_right (Finset.mem_of_mem_erase ·)
    · rw [hidle hmem]
      exact ⟨hsound, .refl, by simp [world]⟩

theorem sound_of_run {history : List (EventMachine.Step Process Event Posted)}
    {process : Process} (hrun : (machine parse).Run history process) : Sound process.server := by
  refine hrun.stateInvariant (I := fun process => Sound process.server) ?_
    fun _ _ _ _ hsound hstep => (hsound.step hstep).1
  refine ⟨⟨rfl, Finset.Subset.refl _, ?_, ?_⟩, ?_⟩
  all_goals
    intro code room hstored
    cases hstored

/-- **What no planned fault can break.**  In every run, whichever of the planned calls and points
throw: the laws of the server's state hold, and a handler leaves the others of every room where they
were, in order, with the secret of the room they are in, and posts to nobody but its own and the
registered sessions.  With an empty plan a step is a step of the server. -/
theorem faults_are_confined {history : List (EventMachine.Step Process Event Posted)}
    {process : Process} (hrun : (machine parse).Run history process) :
    Sound process.server ∧
    (∀ st ∈ history,
      (∀ code,
        othersAt st.event.actor st.post.server.rooms code =
          othersAt st.event.actor st.pre.server.rooms code ∧
        (othersAt st.event.actor st.pre.server.rooms code ≠ [] →
          secretAt st.post.server.rooms code = secretAt st.pre.server.rooms code)) ∧
      ∀ post ∈ st.output, post.1 = st.event.actor ∨ post.1 ∈ st.pre.server.registry) ∧
    ∀ server event, (machine parse).step ⟨server, true⟩ ⟨event, ⟨[], []⟩⟩ =
      ((Server.machine parse).step server event).map fun result =>
        (⟨result.1, true⟩, result.2) := by
  refine ⟨sound_of_run hrun, fun st hmem => ?_, step_of_no_faults⟩
  obtain ⟨⟨before, hbefore⟩, hstep⟩ := hrun.step_of_mem hmem
  obtain ⟨-, hmoved, hposts⟩ := (sound_of_run hbefore).step hstep
  exact ⟨hmoved.keeps_others, hposts⟩

/-- A plan of faults that fall on the first two calls of a leave. -/
def leaveFaults : FaultPlan := ⟨[.insideUpdater, .beforeUpdater], []⟩

/-- Two sessions, a room, and a leave whose repository calls both throw. -/
def faultyLeave : List Event :=
  [⟨.connect "p_1", ⟨[], []⟩⟩, ⟨.connect "p_2", ⟨[], []⟩⟩,
    ⟨Server.sends "p_1" Server.createText, ⟨[], []⟩⟩,
    ⟨Server.sends "p_2" Server.joinText, ⟨[], []⟩⟩,
    ⟨Server.sends "p_2" Server.leaveText, leaveFaults⟩]

/-- The leave throws twice, and the room keeps its other member. -/
theorem confined_faulty_leave :
    ∃ history process, (machine Server.sampleParse).exec faultyLeave = some (history, process) ∧
      Sound process.server ∧
      ∀ st ∈ history, ∀ code,
        othersAt st.event.actor st.post.server.rooms code =
          othersAt st.event.actor st.pre.server.rooms code := by
  have hexec : (machine Server.sampleParse).exec faultyLeave = some (_, _) := rfl
  obtain ⟨hsound, hsteps, -⟩ := faults_are_confined (EventMachine.run_of_exec hexec)
  exact ⟨_, _, hexec, hsound, fun st hmem code => ((hsteps st hmem).1 code).1⟩

/-! ## Which faults stop the process -/

/-- The fault falls where nothing catches it: the accept handler, and the answer to a frame that
asks for nothing. -/
inductive Uncaught (parse : ByteArray → ParseResult) : Event → Prop
  | accept {session : ParticipantId} {plan : FaultPlan}
      (hfault : plan.points.getD 0 false = true) : Uncaught parse ⟨.connect session, plan⟩
  | refused {session : ParticipantId} {frame : Frame} {draws : Nat → Draw} {plan : FaultPlan}
      {answer : Json} (hrequest : Session.requestOf parse session frame = .error answer)
      (hfault : plan.points.getD 0 false = true ∨ plan.points.getD 1 false = true) :
      Uncaught parse ⟨.frame session frame draws, plan⟩

/-- A request whose serving and whose internal error both threw, in the state that the step found. -/
inductive TwiceFaulted (parse : ByteArray → ParseResult) (server : Server) : Event → Prop
  | intro {session : ParticipantId} {frame : Frame} {draws : Nat → Draw} {plan : FaultPlan}
      {request : ControlDispatcherRequest} {middle after : World}
      (hrequest : Session.requestOf parse session frame = .ok request)
      (htwice : Session.ThrewTwice draws session request (world server plan) middle after) :
      TwiceFaulted parse server ⟨.frame session frame draws, plan⟩

/-- A step stops the process exactly when a fault falls where nothing catches it, or two of them fall
on one request. -/
theorem stopped_iff {process process' : Process} {event : Event} {posts : List Posted}
    (hstep : (machine parse).step process event = some (process', posts)) :
    process'.running = false ↔ Uncaught parse event ∨ TwiceFaulted parse process.server event := by
  obtain ⟨event, plan⟩ := event
  obtain ⟨-, ⟨session, rfl, hnew, rfl, ⟨hfault, rfl⟩ | ⟨hclear, rfl⟩⟩ |
    ⟨session, frame, draws, rfl, haccepted, hrun⟩ | ⟨session, order, rfl, hrun⟩⟩ :=
      step_cases hstep
  · exact ⟨fun _ => Or.inl (.accept hfault), fun _ => rfl⟩
  · constructor
    · intro hstopped
      cases hstopped
    · rintro (huncaught | htwice)
      · cases huncaught with
        | accept hfault =>
            change plan.points.getD 0 false = false at hclear
            rw [hfault] at hclear
            cases hclear
      · cases htwice
  · have hrunning : process'.running =
        (Session.onFrame parse draws session frame (world process.server plan)).1.isSome :=
      congrArg (fun result => result.1.running) hrun
    rw [hrunning, Option.isSome_eq_false_iff, Option.isNone_iff_eq_none]
    cases hrequest : Session.requestOf parse session frame with
    | error answer =>
        obtain ⟨requestMeta, code, requestId, hframe⟩ := Session.onFrame_of_error draws hrequest
        rw [hframe, Session.sendProtocolError_throws_iff]
        constructor
        · intro hfault
          exact Or.inl (.refused hrequest hfault)
        · rintro (huncaught | htwice)
          · cases huncaught with
            | refused _ hfault => exact hfault
          · cases htwice with
            | intro hserved _ =>
                rw [hrequest] at hserved
                cases hserved
    | ok request =>
        rw [Session.onFrame_throws_iff hrequest]
        constructor
        · rintro ⟨middle, after, htwice⟩
          exact Or.inr (.intro hrequest htwice)
        · rintro (huncaught | htwice)
          · cases huncaught with
            | refused hanswer _ =>
                rw [hrequest] at hanswer
                cases hanswer
          · cases htwice with
            | intro hserved htwice =>
                rw [hrequest] at hserved
                obtain rfl := Except.ok.inj hserved
                exact ⟨_, _, htwice⟩
  · have hrunning : process'.running =
        (Session.removeFromRegistry order session (world process.server plan)).1.isSome :=
      congrArg (fun result => result.1.running) hrun
    obtain ⟨world', hreturn, -, -⟩ := Session.removeFromRegistry_returns session order
      (world process.server plan)
    rw [hrunning, hreturn]
    constructor
    · intro hstopped
      cases hstopped
    · rintro (huncaught | htwice)
      · cases huncaught
      · cases htwice

/-- **Which faults stop the process.**  In every run: once the process has stopped, its last handler
met a fault that nothing catches, or two exceptions in one request, each with a fault of its own.  All
of these stop it.  So no single fault in the serving of a request does, and no fault at all in the
clean-up of a session. -/
theorem process_stops {history : List (EventMachine.Step Process Event Posted)}
    {process : Process} (hrun : (machine parse).Run history process) :
    (process.running = false → ∃ before st, history = before ++ [st] ∧
      (Uncaught parse st.event ∨ TwiceFaulted parse st.pre.server st.event)) ∧
    ∀ st ∈ history, Uncaught parse st.event ∨ TwiceFaulted parse st.pre.server st.event →
      process.running = false ∧ ∃ before, history = before ++ [st] := by
  induction hrun with
  | nil =>
      refine ⟨fun hstopped => (Bool.noConfusion hstopped : False).elim, fun st hmem => ?_⟩
      cases hmem
  | @snoc before previous event next posts hprev hlast ih =>
      have hiff := stopped_iff hlast
      refine ⟨fun hstopped => ⟨before, _, rfl, hiff.mp hstopped⟩, fun st hmem hcause => ?_⟩
      rcases List.mem_append.mp hmem with hold | hnew
      · -- A stopped process takes no further step.
        have hstopped := (ih.2 st hold hcause).1
        rw [(step_cases hlast).1] at hstopped
        cases hstopped
      · obtain rfl := List.mem_singleton.mp hnew
        exact ⟨hiff.mpr hcause, before, rfl⟩

/-- A binary frame whose answer cannot be posted stops the process. -/
theorem stopped_by_refused_frame :
    ∃ history process, (machine Server.sampleParse).exec
        [⟨.connect "p_1", ⟨[], []⟩⟩,
          ⟨.frame "p_1" (.binary .empty) (fun _ => 0), ⟨[], [false, true]⟩⟩] =
        some (history, process) ∧ process.running = false ∧
      ∃ before st, history = before ++ [st] ∧
        (Uncaught Server.sampleParse st.event ∨
          TwiceFaulted Server.sampleParse st.pre.server st.event) := by
  have hexec : (machine Server.sampleParse).exec
      [⟨.connect "p_1", ⟨[], []⟩⟩,
        ⟨.frame "p_1" (.binary .empty) (fun _ => 0), ⟨[], [false, true]⟩⟩] = some (_, _) := rfl
  refine ⟨_, _, hexec, rfl, ?_⟩
  exact (process_stops (EventMachine.run_of_exec hexec)).1 rfl

end Process
end Net
end BuzzWeb
