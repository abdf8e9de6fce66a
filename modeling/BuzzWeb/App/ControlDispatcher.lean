import BuzzWeb.App.RoomService

/-!
# The control dispatcher

`app/ControlDispatcher`: a decoded request is turned into room service calls, and the result is
handed to the caller's handler.  The handler runs inside the dispatcher's `try` block: an exception
that leaves it is caught like one of the service's own, and the handler is called again with an
internal error.
-/

namespace BuzzWeb
namespace App

open Domain

inductive ControlMessageType where
  | createRoom
  | joinRoom
  | leaveRoom
  | signaling
deriving DecidableEq, Repr

inductive SignalingType where
  | offer
  | answer
  | iceCandidate
deriving DecidableEq, Repr

structure CreateRoomCommand where
  participant : Participant
  passwordHash : Option RoomSecret

structure JoinRoomCommand where
  roomCode : RoomCode
  participant : Participant
  passwordHash : Option RoomSecret

structure LeaveRoomCommand where
  roomCode : RoomCode
  participantId : ParticipantId

structure SignalingCommand where
  type : SignalingType
  roomCode : RoomCode
  fromParticipantId : ParticipantId
  targetParticipantId : ParticipantId
  data : Json

structure RequestMeta where
  type : ControlMessageType
  requestId : Option String
  signalingType : Option SignalingType

/-- The variant `ControlDispatcherRequest::CommandType`. -/
inductive Command where
  | createRoom (command : CreateRoomCommand)
  | joinRoom (command : JoinRoomCommand)
  | leaveRoom (command : LeaveRoomCommand)
  | signaling (command : SignalingCommand)

structure ControlDispatcherRequest where
  requestMeta : RequestMeta
  command : Command

structure CreateRoomResponse where
  roomCode : RoomCode
  participant : Participant
  participants : List Participant

structure JoinRoomResponse where
  roomCode : RoomCode
  participant : Participant
  participants : List Participant

structure LeaveRoomResponse where
  roomCode : RoomCode

structure SignalingResponse where
  type : SignalingType
  roomCode : RoomCode
  fromParticipantId : ParticipantId
  targetParticipantId : ParticipantId
  data : Json

inductive SuccessResponsePayload where
  | createRoom (response : CreateRoomResponse)
  | joinRoom (response : JoinRoomResponse)
  | leaveRoom (response : LeaveRoomResponse)
  | signaling (response : SignalingResponse)

inductive ErrorResponsePayload where
  | roomAlreadyExists
  | roomCodeGenerationFailed
  | notInRoom
  | alreadyInRoom
  | wrongPassword
  | passwordNotProvided
  | roomNotFound
  | participantUnavailable
  | internalError
  | unexpectedError
deriving DecidableEq, Repr

inductive ControlDispatcherResponse where
  | success (requestMeta : RequestMeta) (payload : SuccessResponsePayload)
  | error (requestMeta : RequestMeta) (payload : ErrorResponsePayload)

inductive ControlDispatcherEvent where
  | joinedRoom (roomCode : RoomCode) (joinedParticipant : Participant)
      (eventReceivers : List Participant)
  | leftRoom (roomCode : RoomCode) (leftParticipantId : ParticipantId)
      (eventReceivers : List Participant)

namespace ControlDispatcherEvent

def roomCode : ControlDispatcherEvent → RoomCode
  | joinedRoom roomCode _ _ => roomCode
  | leftRoom roomCode _ _ => roomCode

def eventReceivers : ControlDispatcherEvent → List Participant
  | joinedRoom _ _ receivers => receivers
  | leftRoom _ _ receivers => receivers

end ControlDispatcherEvent

structure ControlDispatcherResult where
  response : ControlDispatcherResponse
  events : List ControlDispatcherEvent

/-- Every service error has its own response; the fall-through `UnexpectedErrorResponse` of the
source is for values outside the enumeration. -/
def mapServiceError (error : RoomServiceError) : ErrorResponsePayload :=
  match error.type with
  | .wrongPassword => .wrongPassword
  | .roomNotFound => .roomNotFound
  | .roomCodeGenerationFailed => .roomCodeGenerationFailed
  | .participantUnavailable => .participantUnavailable
  | .notInRoom => .notInRoom
  | .alreadyJoined => .alreadyInRoom
  | .roomAlreadyExists => .roomAlreadyExists
  | .passwordNotProvided => .passwordNotProvided
  | .internalError => .internalError

namespace ControlDispatcher

/-- What `send_error` hands to the handler. -/
def errorResult (requestMeta : RequestMeta) (payload : ErrorResponsePayload) :
    ControlDispatcherResult :=
  ⟨.error requestMeta payload, []⟩

/-- The switch of `Dispatch`, up to the result that is handed to the handler: every branch ends
in exactly one handler call.  A command that does not fit the type throws
`std::bad_variant_access`. -/
def resultOf (draws : Nat → Draw) (request : ControlDispatcherRequest) :
    Throwing Store ControlDispatcherResult :=
  match request.requestMeta.type, request.command with
  | .createRoom, .createRoom command => do
      match ← RoomService.createRoom draws command.passwordHash with
      | .error error => pure (errorResult request.requestMeta (mapServiceError error))
      | .ok room =>
          match ← RoomService.joinRoom room.code command.participant command.passwordHash with
          | .error error => pure (errorResult request.requestMeta (mapServiceError error))
          | .ok joined =>
              pure ⟨.success request.requestMeta (.createRoom
                ⟨joined.roomCode, joined.participant, joined.roomParticipants⟩), []⟩
  | .joinRoom, .joinRoom command => do
      match ← RoomService.joinRoom command.roomCode command.participant command.passwordHash with
      | .error error => pure (errorResult request.requestMeta (mapServiceError error))
      | .ok joined =>
          pure ⟨.success request.requestMeta (.joinRoom
              ⟨joined.roomCode, joined.participant, joined.roomParticipants⟩),
            [.joinedRoom joined.roomCode joined.participant joined.roomParticipants]⟩
  | .leaveRoom, .leaveRoom command => do
      match ← RoomService.leaveRoom command.roomCode command.participantId with
      | .error error => pure (errorResult request.requestMeta (mapServiceError error))
      | .ok left =>
          pure ⟨.success request.requestMeta (.leaveRoom ⟨left.roomCode⟩),
            [.leftRoom left.roomCode left.participantId left.remainingParticipants]⟩
  | .signaling, .signaling command => do
      -- `||` does not look at the target when the sender is not in the room.
      if !(← RoomService.participantInRoom command.fromParticipantId command.roomCode) then
        pure (errorResult request.requestMeta .notInRoom)
      else if !(← RoomService.participantInRoom command.targetParticipantId command.roomCode) then
        pure (errorResult request.requestMeta .notInRoom)
      else
        pure ⟨.success request.requestMeta (.signaling
          ⟨command.type, command.roomCode, command.fromParticipantId,
            command.targetParticipantId, command.data⟩), []⟩
  | _, _ => Throwing.throw

/-- `Dispatch` on a state that holds the store.  `onStore` runs the service calls on it. -/
def dispatch {σ : Type} (onStore : ∀ {α : Type}, Throwing Store α → Throwing σ α)
    (draws : Nat → Draw) (request : ControlDispatcherRequest)
    (handler : ControlDispatcherResult → Throwing σ Unit) : Throwing σ Unit :=
  Throwing.attempt
    (do
      let result ← onStore (resultOf draws request)
      handler result)
    (handler (errorResult request.requestMeta .internalError))

/-- The events of a disconnect: one per room that was left; a failed cleanup is only logged. -/
def leftEvents : List ParticipantLeftRoomResult → List ControlDispatcherEvent
  | [] => []
  | .ok left :: rest =>
      .leftRoom left.roomCode left.participantId left.remainingParticipants :: leftEvents rest
  | .error _ :: rest => leftEvents rest

def handleParticipantDisconnected (order : HashOrder) (participantId : ParticipantId) :
    Throwing Store (List ControlDispatcherEvent) := do
  let results ← RoomService.leaveAllRooms order participantId
  pure (leftEvents results)

end ControlDispatcher
end App
end BuzzWeb
