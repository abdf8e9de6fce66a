import BuzzWeb.App.ProtocolCodec
import BuzzWeb.App.RoomSlots

/-!
# What a session does with a message, and when it goes

`net/SessionRegistry` and the transport-independent half of `net/Session` (`SessionBase`): the
response handler that replies and relays, the delivery of room events, the handling of a message
and the clean-up of a session.

Sessions have pairwise distinct participant ids, so a session pointer is its id, and the registry
is the set of ids it holds.  `Send` posts a task to the recipient's executor and returns; here it
appends to the log of posted sends, in the order of the calls.

A point of the response handler may throw: encoding a message, looking a session up, or posting a
send.  The planned faults of the `World` say which points do.
-/

namespace BuzzWeb
namespace Net

open Domain App

/-- `SessionRegistry::sessions_`. -/
abbrev SessionRegistry := Finset ParticipantId

namespace SessionRegistry

def add (registry : SessionRegistry) (session : ParticipantId) : SessionRegistry :=
  insert session registry

def remove (registry : SessionRegistry) (participantId : ParticipantId) : SessionRegistry :=
  registry.erase participantId

def find (registry : SessionRegistry) (participantId : ParticipantId) : Option ParticipantId :=
  if participantId ∈ registry then some participantId else none

end SessionRegistry

/-- A message posted to a session. -/
abbrev Posted := ParticipantId × Json

/-- Everything a handler reads or writes: the store, the registry, the sessions whose `registered_`
flag is set, the sends posted so far, and the faults planned for the points to come. -/
structure World where
  store : Store
  registry : SessionRegistry
  registered : Finset ParticipantId
  sent : List Posted
  faults : List Bool

namespace Session

/-- Run a service call on the store of the world. -/
def onStore {α : Type} (action : Throwing Store α) : Throwing World α := fun world =>
  let result := action world.store
  (result.1, { world with store := result.2 })

/-- A point that throws when the next planned fault is set. -/
def point : Throwing World Unit := fun world =>
  match world.faults with
  | [] => (some (), world)
  | throws :: rest => (if throws then none else some (), { world with faults := rest })

/-- Print a JSON value; this allocates. -/
def encode (json : Json) : Throwing World Json := do
  point
  pure json

def find (participantId : ParticipantId) : Throwing World (Option ParticipantId) := do
  point
  Throwing.reads fun world => world.registry.find participantId

def send (session : ParticipantId) (message : Json) : Throwing World Unit := do
  point
  Throwing.modify fun world => { world with sent := world.sent ++ [(session, message)] }

/-- A joined event is not delivered to the participant who joined. -/
def skips : ControlDispatcherEvent → Participant → Bool
  | .joinedRoom _ joinedParticipant _, participant => participant.id == joinedParticipant.id
  | .leftRoom _ _ _, _ => false

/-- The body of the receiver loop. -/
def deliverTo (event : ControlDispatcherEvent) (encoded : Json) (participant : Participant) :
    Throwing World Unit :=
  if skips event participant then pure ()
  else do
    match ← find participant.id with
    | none => pure ()
    | some session => send session encoded

def deliverEvent (event : ControlDispatcherEvent) : Throwing World Unit := do
  let encoded ← encode (ProtocolCodec.encodeEvent event)
  Throwing.forEach (deliverTo event encoded) event.eventReceivers

def deliverEvents (events : List ControlDispatcherEvent) : Throwing World Unit :=
  Throwing.forEach deliverEvent events

/-- Encode a response and post it to the session itself. -/
def reply (self : ParticipantId) (response : ControlDispatcherResponse) : Throwing World Unit := do
  let encoded ← encode (ProtocolCodec.encodeResponse response)
  send self encoded

/-- The last two lines of the response handler. -/
def replyAndDeliver (self : ParticipantId) (result : ControlDispatcherResult) :
    Throwing World Unit := do
  reply self result.response
  deliverEvents result.events

/-- The lambda that `HandleMessage` gives to `Dispatch`. -/
def responseHandler (self : ParticipantId) (result : ControlDispatcherResult) :
    Throwing World Unit :=
  match result.response with
  | .success requestMeta (.signaling signaling) => do
      match ← find signaling.targetParticipantId with
      | none => reply self (.error requestMeta .participantUnavailable)
      | some target => do
          let encoded ← encode (ProtocolCodec.encodeSignalingEvent signaling)
          send target encoded
          replyAndDeliver self result
  | _ => replyAndDeliver self result

/-- `dispatcher_.Dispatch(*request, handler)`. -/
def dispatchRequest (draws : Nat → Draw) (self : ParticipantId)
    (request : ControlDispatcherRequest) : Throwing World Unit :=
  ControlDispatcher.dispatch onStore draws request (responseHandler self)

def sendProtocolError (self : ParticipantId) (requestMeta : Option RequestMeta) (code : String)
    (requestId : Option String) : Throwing World Unit := do
  let encoded ← encode (ProtocolCodec.encodeProtocolError requestMeta code requestId)
  send self encoded

def handleMessage (parse : ByteArray → ParseResult) (draws : Nat → Draw) (self : ParticipantId)
    (message : ByteArray) : Throwing World Unit :=
  match ProtocolCodec.decodeRequest parse self message with
  | .error .parseError => sendProtocolError self none "invalid_json" none
  | .error (.protocolDecodeError requestMeta code requestId) =>
      sendProtocolError self requestMeta code requestId
  | .error .otherException => sendProtocolError self none "invalid_message" none
  | .ok request => dispatchRequest draws self request

/-- `Send(InvalidMessageError())`, the answer to a binary frame. -/
def sendInvalidMessageError (self : ParticipantId) : Throwing World Unit :=
  sendProtocolError self none "invalid_message" none

/-- The clean-up runs once per registration, and an exception in it is only logged. -/
def removeFromRegistry (order : HashOrder) (self : ParticipantId) : Throwing World Unit :=
  fun world =>
    if self ∈ world.registered then
      Throwing.attempt
        (do
          let events ← onStore (ControlDispatcher.handleParticipantDisconnected order self)
          deliverEvents events)
        (pure ())
        { world with
          registered := world.registered.erase self
          registry := world.registry.remove self }
    else
      (some (), world)

end Session
end Net
end BuzzWeb
