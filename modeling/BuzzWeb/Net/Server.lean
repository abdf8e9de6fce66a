import BuzzWeb.App.ClientView
import BuzzWeb.App.RequestGrammar
import BuzzWeb.Library.EventMachine
import BuzzWeb.Net.QuietSession

/-!
# The server as a machine of whole handlers

Handlers run one at a time and nothing throws.  The server takes three kinds of events: a session's
WebSocket accept succeeds, a frame of a session is handled, a session is cleaned up (its peer
closed, an operation failed, or it was told to close).  What the environment decides is part of
the event: the content of the frame, the draws of the code generator, the order in which the room
table is walked.

A frame may come from any session that was once accepted, registered or not: a read that completed
before the clean-up may still have its handler run after it.
-/

namespace BuzzWeb
namespace Net

open Domain App

/-- What a completed read delivers: `got_text` or not. -/
inductive Frame where
  | binary (data : ByteArray)
  | text (message : ByteArray)

namespace Session

/-- The part of `OnRead` that handles a frame. -/
def onFrame (parse : ByteArray → ParseResult) (draws : Nat → Draw) (self : ParticipantId) :
    Frame → Throwing World Unit
  | .binary _ => sendInvalidMessageError self
  | .text message => handleMessage parse draws self message

/-- What the frame asks for: a request, or the protocol error it is answered with. -/
def requestOf (parse : ByteArray → ParseResult) (self : ParticipantId) :
    Frame → Except Json ControlDispatcherRequest
  | .binary _ => .error (ProtocolCodec.encodeProtocolError none "invalid_message" none)
  | .text message =>
      match ProtocolCodec.decodeRequest parse self message with
      | .error .parseError => .error (ProtocolCodec.encodeProtocolError none "invalid_json" none)
      | .error (.protocolDecodeError requestMeta code requestId) =>
          .error (ProtocolCodec.encodeProtocolError requestMeta code requestId)
      | .error .otherException =>
          .error (ProtocolCodec.encodeProtocolError none "invalid_message" none)
      | .ok request => .ok request

theorem requestOf_ok {parse : ByteArray → ParseResult} {self : ParticipantId} {frame : Frame}
    {request : ControlDispatcherRequest} (h : requestOf parse self frame = .ok request) :
    ∃ message json, frame = .text message ∧ parse message = .value json ∧
      ProtocolCodec.Decoded self json request := by
  cases frame with
  | binary data => cases h
  | text message =>
      simp only [requestOf] at h
      split at h
      case h_4 request' hdecode =>
        obtain rfl := Except.ok.inj h
        obtain ⟨json, hparse, hdecoded⟩ := ProtocolCodec.decodeRequest_sound hdecode
        exact ⟨message, json, rfl, hparse, hdecoded⟩
      all_goals cases h

/-- A refused frame is answered with a reply that says `ok: false`. -/
theorem requestOf_error {parse : ByteArray → ParseResult} {self : ParticipantId} {frame : Frame}
    {answer : Json} (h : requestOf parse self frame = .error answer) :
    ClientView.isReply answer = true ∧ ClientView.okFlag answer = some false := by
  have herror (requestMeta : Option RequestMeta) (code : String) (requestId : Option String) :
      ClientView.isReply (ProtocolCodec.encodeProtocolError requestMeta code requestId) = true ∧
      ClientView.okFlag (ProtocolCodec.encodeProtocolError requestMeta code requestId) =
        some false :=
    ⟨ClientView.isReply_encodeProtocolError _ _ _, ClientView.okFlag_encodeProtocolError _ _ _⟩
  cases frame with
  | binary data =>
      obtain rfl := Except.error.inj h
      exact herror _ _ _
  | text message =>
      simp only [requestOf] at h
      split at h
      case h_4 => cases h
      all_goals
        obtain rfl := Except.error.inj h
        exact herror _ _ _

end Session

/-- The state between handlers.  `accepted` are the sessions whose accept has succeeded so far. -/
structure Server where
  rooms : Rooms
  registry : SessionRegistry
  registered : Finset ParticipantId
  accepted : Finset ParticipantId

namespace Server

/-- What can happen next. -/
inductive Event where
  | connect (session : ParticipantId)
  | frame (session : ParticipantId) (frame : Frame) (draws : Nat → Draw)
  | disconnect (session : ParticipantId) (order : HashOrder)

/-- The world a handler starts in: nothing posted yet, no faults planned. -/
def world (server : Server) : World :=
  ⟨Store.quiet server.rooms, server.registry, server.registered, [], []⟩

/-- Run one handler: the state it leaves and the messages it posted. -/
def run (server : Server) (handler : Throwing World Unit) : Server × List Posted :=
  let result := (handler server.world).2
  ({ server with
      rooms := result.store.rooms
      registry := result.registry
      registered := result.registered }, result.sent)

/-- `OnWebSocketAccept` without an error. -/
def connect (server : Server) (session : ParticipantId) : Server :=
  { server with
    registry := server.registry.add session
    registered := insert session server.registered
    accepted := insert session server.accepted }

/-- The machine.  Ids are pairwise distinct, so an id is accepted once; frames are read from
accepted sessions only. -/
def machine (parse : ByteArray → ParseResult) : EventMachine Server Event Posted where
  init := ⟨∅, ∅, ∅, ∅⟩
  step server event :=
    match event with
    | .connect session =>
        if session ∈ server.accepted then none else some (server.connect session, [])
    | .frame session frame draws =>
        if session ∈ server.accepted then
          some (server.run (Session.onFrame parse draws session frame))
        else none
    | .disconnect session order =>
        some (server.run (Session.removeFromRegistry order session))

/-! ## The handlers as equations -/

variable {parse : ByteArray → ParseResult}

/-- A frame is a step of an accepted session, and runs the handler. -/
theorem run_of_step_frame {server server' : Server} {session : ParticipantId} {frame : Frame}
    {draws : Nat → Draw} {posts : List Posted}
    (hstep : (machine parse).step server (.frame session frame draws) = some (server', posts)) :
    session ∈ server.accepted ∧
      server.run (Session.onFrame parse draws session frame) = (server', posts) := by
  simp only [machine] at hstep
  split_ifs at hstep with haccepted
  exact ⟨haccepted, Option.some.inj hstep⟩

/-- Running a handler, once its final world is known. -/
theorem run_eq {server : Server} {handler : Throwing World Unit} {outcome : Option Unit}
    {final : World} (h : handler server.world = (outcome, final)) :
    server.run handler = ({ server with
      rooms := final.store.rooms
      registry := final.registry
      registered := final.registered }, final.sent) := by
  simp only [run, h]

/-- Running a handler that only posts. -/
theorem run_of_post {server : Server} {handler : Throwing World Unit} {posts : List Posted}
    (h : handler server.world = (some (), Session.post server.world posts)) :
    server.run handler = (server, posts) := by
  rw [run_eq h]
  rfl

theorem sendProtocolError_quiet (self : ParticipantId) (requestMeta : Option RequestMeta)
    (code : String) (requestId : Option String) {world : World} (hfaults : world.faults = []) :
    Session.sendProtocolError self requestMeta code requestId world =
      (some (), Session.post world
        [(self, ProtocolCodec.encodeProtocolError requestMeta code requestId)]) := by
  rw [Session.sendProtocolError, Throwing.bind_of_some (Session.encode_quiet hfaults _),
    Session.send_quiet hfaults]

/-- A dispatched request: the table `serve` leaves, and the posts of its result. -/
theorem run_dispatchRequest (server : Server) (draws : Nat → Draw) (self : ParticipantId)
    {request : ControlDispatcherRequest} (hfits : Fits request) :
    server.run (Session.dispatchRequest draws self request) =
      ({ server with
          rooms := (serve draws server.rooms request.requestMeta request.command).2 },
        Session.resultPosts server.registry self
          (serve draws server.rooms request.requestMeta request.command).1) := by
  have hresult := resultOf_quiet draws server.rooms request hfits
  let served : World :=
    { server.world with
      store := Store.quiet (serve draws server.rooms request.requestMeta request.command).2 }
  have hstore : Session.onStore (ControlDispatcher.resultOf draws request) server.world =
      (some (serve draws server.rooms request.requestMeta request.command).1, served) := by
    simp only [Session.onStore, world, hresult, served]
  have hhandler : Session.responseHandler self
      (serve draws server.rooms request.requestMeta request.command).1 served =
      (some (), Session.post served (Session.resultPosts served.registry self
        (serve draws server.rooms request.requestMeta request.command).1)) :=
    Session.responseHandler_quiet self _ rfl
  have hdispatch : Session.dispatchRequest draws self request server.world =
      (some (), Session.post served (Session.resultPosts served.registry self
        (serve draws server.rooms request.requestMeta request.command).1)) :=
    Throwing.attempt_of_some ((Throwing.bind_of_some hstore).trans hhandler)
  rw [run_eq hdispatch]
  rfl

/-- Handling a frame. -/
theorem run_onFrame (server : Server) (draws : Nat → Draw) (self : ParticipantId)
    (frame : Frame) :
    server.run (Session.onFrame parse draws self frame) =
      match Session.requestOf parse self frame with
      | .error answer => (server, [(self, answer)])
      | .ok request =>
          ({ server with
              rooms := (serve draws server.rooms request.requestMeta request.command).2 },
            Session.resultPosts server.registry self
              (serve draws server.rooms request.requestMeta request.command).1) := by
  have herror (requestMeta : Option RequestMeta) (code : String) (requestId : Option String) :
      server.run (Session.sendProtocolError self requestMeta code requestId) =
        (server, [(self, ProtocolCodec.encodeProtocolError requestMeta code requestId)]) :=
    run_of_post (sendProtocolError_quiet self requestMeta code requestId rfl)
  cases frame with
  | binary data => exact herror none "invalid_message" none
  | text message =>
      cases hdecode : ProtocolCodec.decodeRequest parse self message with
      | error exception =>
          cases exception with
          | parseError =>
              simp only [Session.onFrame, Session.handleMessage, Session.requestOf, hdecode]
              exact herror none "invalid_json" none
          | protocolDecodeError requestMeta code requestId =>
              simp only [Session.onFrame, Session.handleMessage, Session.requestOf, hdecode]
              exact herror requestMeta code requestId
          | otherException =>
              simp only [Session.onFrame, Session.handleMessage, Session.requestOf, hdecode]
              exact herror none "invalid_message" none
      | ok request =>
          -- What decodes fits its type, so `Dispatch` does not throw.
          obtain ⟨json, -, hdecoded⟩ := ProtocolCodec.decodeRequest_sound hdecode
          simp only [Session.onFrame, Session.handleMessage, Session.requestOf, hdecode]
          exact run_dispatchRequest server draws self hdecoded.fits

/-- The state after a registered session was cleaned up. -/
def dropSession (server : Server) (session : ParticipantId) (order : HashOrder) : Server :=
  { server with
    rooms := disconnectRooms order session server.rooms
    registry := server.registry.remove session
    registered := server.registered.erase session }

/-- What the clean-up of a registered session posts. -/
def dropPosts (server : Server) (session : ParticipantId) (order : HashOrder) : List Posted :=
  (disconnectEvents order session server.rooms).flatMap
    (Session.eventPosts (server.registry.remove session))

/-- Cleaning a session up. -/
theorem run_removeFromRegistry (server : Server) (session : ParticipantId) (order : HashOrder) :
    server.run (Session.removeFromRegistry order session) =
      if session ∈ server.registered then
        (server.dropSession session order, server.dropPosts session order)
      else (server, []) := by
  by_cases hregistered : session ∈ server.registered
  -- The session takes itself out first, then the rooms are swept and the events delivered.
  · let start : World :=
      { server.world with
        registered := server.registered.erase session
        registry := server.registry.remove session }
    have hstore : Session.onStore
        (ControlDispatcher.handleParticipantDisconnected order session) start =
        (some (disconnectEvents order session server.rooms),
          { start with store := Store.quiet (disconnectRooms order session server.rooms) }) := by
      simp only [Session.onStore, start, world,
        handleParticipantDisconnected_quiet order session server.rooms]
    have hdeliver : Session.deliverEvents (disconnectEvents order session server.rooms)
        { start with store := Store.quiet (disconnectRooms order session server.rooms) } =
        (some (), Session.post
          { start with store := Store.quiet (disconnectRooms order session server.rooms) }
          (server.dropPosts session order)) :=
      Session.deliverEvents_quiet _ rfl
    have hremove : Session.removeFromRegistry order session server.world =
        (some (), Session.post
          { start with store := Store.quiet (disconnectRooms order session server.rooms) }
          (server.dropPosts session order)) := by
      have hmem : session ∈ server.world.registered := hregistered
      rw [Session.removeFromRegistry, if_pos hmem]
      exact Throwing.attempt_of_some ((Throwing.bind_of_some hstore).trans hdeliver)
    rw [run_eq hremove, if_pos hregistered]
    rfl
  · have hmem : session ∉ server.world.registered := hregistered
    have hremove : Session.removeFromRegistry order session server.world =
        (some (), server.world) := by
      rw [Session.removeFromRegistry, if_neg hmem]
    rw [run_eq hremove, if_neg hregistered]
    rfl

end Server
end Net
end BuzzWeb
