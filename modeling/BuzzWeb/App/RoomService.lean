import BuzzWeb.Domain.RoomRepository

/-!
# The room service

`app/RoomService`: creating, joining and leaving rooms as sequences of repository calls.

`CreateRoom` retries a random code up to a hundred times.  `JoinRoom` is one `Update`.
`LeaveRoom` is an `Update` followed by `RemoveIfEmpty`; `LeaveAllRooms` takes a snapshot of the
codes and leaves each of them.  The callbacks write locals of the caller, and the caller decides
from those locals, the repository's answer and the exceptions it caught, which result to return.
The decision after `Update` is a function of its own for each of the two callers (`finishJoin`,
`afterLeaveUpdate`), because the interleaved system takes it with other calls in between.
-/

namespace BuzzWeb
namespace App

open Domain

namespace RoomServiceError

inductive Kind where
  | wrongPassword
  | roomNotFound
  | roomCodeGenerationFailed
  | participantUnavailable
  | notInRoom
  | alreadyJoined
  | roomAlreadyExists
  | passwordNotProvided
  | internalError
deriving DecidableEq, Repr

end RoomServiceError

structure RoomServiceError where
  type : RoomServiceError.Kind
  msg : String
deriving DecidableEq, Repr

structure ParticipantJoinedRoom where
  roomCode : RoomCode
  participant : Participant
  roomParticipants : List Participant
deriving DecidableEq, Repr

structure ParticipantLeftRoom where
  roomCode : RoomCode
  participantId : ParticipantId
  remainingParticipants : List Participant
deriving DecidableEq, Repr

abbrev ParticipantJoinedRoomResult := Except RoomServiceError ParticipantJoinedRoom
abbrev ParticipantLeftRoomResult := Except RoomServiceError ParticipantLeftRoom
abbrev CreateRoomResult := Except RoomServiceError Room

def buildRoomNotFoundError : RoomServiceError := ⟨.roomNotFound, "Room not found"⟩
def buildAlreadyJoinedError : RoomServiceError := ⟨.alreadyJoined, "Participant already in room"⟩
def buildNotInRoomError : RoomServiceError := ⟨.notInRoom, "Participant not in the room"⟩
def buildRoomCodeGenerationFailedError : RoomServiceError :=
  ⟨.roomCodeGenerationFailed, "Room code generation failed"⟩
def buildWrongPasswordError : RoomServiceError := ⟨.wrongPassword, "Wrong password"⟩
def buildPasswordNotProvidedError : RoomServiceError :=
  ⟨.passwordNotProvided, "Password not provided"⟩
def buildInternalError : RoomServiceError := ⟨.internalError, "Internal error"⟩

/-- What the uniform distribution over `0 .. 999999` returns. -/
abbrev Draw := Fin 1000000

/-- `std::setw(6) << std::setfill('0')`: the decimal digits, padded with zeroes to width six. -/
def generateRoomCode (draw : Draw) : RoomCode :=
  let digits := Nat.toDigits 10 draw.val
  String.ofList (List.replicate (6 - digits.length) '0' ++ digits)

namespace RoomService

/-- `max_attempts`. -/
def maxAttempts : Nat := 100

/-- The retry loop.  Attempt `attempt` uses the draw of that number. -/
def createRoomLoop (draws : Nat → Draw) (password : Option RoomSecret) :
    Nat → Nat → Throwing Store CreateRoomResult
  | 0, _ => pure (.error buildRoomCodeGenerationFailedError)
  | remaining + 1, attempt => fun store =>
      let room := Room.create (generateRoomCode (draws attempt)) password
      match Repository.add room store with
      | (some .added, store') => (some (.ok room), store')
      | (some .alreadyExists, store') =>
          createRoomLoop draws password remaining (attempt + 1) store'
      | (none, store') => (some (.error buildInternalError), store')

def createRoom (draws : Nat → Draw) (password : Option RoomSecret) :
    Throwing Store CreateRoomResult :=
  createRoomLoop draws password maxAttempts 0

/-! ## Joining -/

/-- The locals that the join callback captures. -/
structure JoinLocals where
  joinResult : Option JoinRoomResult
  roomParticipants : List Participant

def joinUpdater (participant : Participant) (passwordHash : Option RoomSecret) :
    Updater JoinLocals := fun throws room locals =>
  let (joinResult, room') := room.tryAddParticipant participant passwordHash
  let locals' : JoinLocals := { locals with joinResult := some joinResult }
  if throws then (none, locals', room')
  else if joinResult ≠ .joined then (some .abort, locals', room')
  else (some .commit, { locals' with roomParticipants := room'.getParticipants }, room')

/-- The rest of `JoinRoom` once `Update` has returned, or thrown (`none`). -/
def finishJoin (roomCode : RoomCode) (participant : Participant)
    (repositoryResult : Option UpdateRoomResult) (locals : JoinLocals) :
    ParticipantJoinedRoomResult :=
  match repositoryResult with
  | none => .error buildInternalError
  | some .notFound => .error buildRoomNotFoundError
  | some _ =>
      match locals.joinResult with
      | none => .error buildInternalError
      | some .alreadyInRoom => .error buildAlreadyJoinedError
      | some .invalidSecret => .error buildWrongPasswordError
      | some .secretNotProvided => .error buildPasswordNotProvidedError
      | some .joined => .ok ⟨roomCode, participant, locals.roomParticipants⟩

def joinRoom (roomCode : RoomCode) (participant : Participant)
    (passwordHash : Option RoomSecret) : Throwing Store ParticipantJoinedRoomResult := fun store =>
  let (repositoryResult, locals, store') :=
    Repository.update roomCode (joinUpdater participant passwordHash) ⟨none, []⟩ store
  (some (finishJoin roomCode participant repositoryResult locals), store')

/-! ## Leaving -/

/-- The locals that the leave callback captures. -/
structure LeaveLocals where
  leaveResult : Option LeaveRoomResult
  remainingParticipants : List Participant

def leaveUpdater (participantId : ParticipantId) : Updater LeaveLocals := fun throws room locals =>
  let (leaveResult, room') := room.removeParticipant participantId
  let locals' : LeaveLocals := { locals with leaveResult := some leaveResult }
  if throws then (none, locals', room')
  else if leaveResult ≠ .left then (some .abort, locals', room')
  else (some .commit, { locals' with remainingParticipants := room'.getParticipants }, room')

/-- What `LeaveRoom` does once `Update` has returned, or thrown (`none`): return a result, or go
on to `RemoveIfEmpty` (`none`).  A throw is only logged; the local decides. -/
def afterLeaveUpdate (repositoryResult : Option UpdateRoomResult) (locals : LeaveLocals) :
    Option ParticipantLeftRoomResult :=
  match repositoryResult with
  | some .notFound => some (.error buildRoomNotFoundError)
  | _ =>
      match locals.leaveResult with
      | none => some (.error buildInternalError)
      | some .notInRoom => some (.error buildNotInRoomError)
      | some .left => none

def leaveRoom (roomCode : RoomCode) (participantId : ParticipantId) :
    Throwing Store ParticipantLeftRoomResult := fun store =>
  let (repositoryResult, locals, store') :=
    Repository.update roomCode (leaveUpdater participantId) ⟨none, []⟩ store
  match afterLeaveUpdate repositoryResult locals with
  | some result => (some result, store')
  | none =>
      match Repository.removeIfEmpty roomCode store' with
      | (none, store'') => (some (.error buildInternalError), store'')
      | (some _, store'') =>
          (some (.ok ⟨roomCode, participantId, locals.remainingParticipants⟩), store'')

/-- `LeaveAllRooms` passes on successes and internal errors, and drops the rooms the participant
was not in. -/
def reported : ParticipantLeftRoomResult → Bool
  | .ok _ => true
  | .error error => error.type = .internalError

def leaveEach (participantId : ParticipantId) :
    List RoomCode → Throwing Store (List ParticipantLeftRoomResult)
  | [] => pure []
  | roomCode :: rest => do
      let result ← leaveRoom roomCode participantId
      let later ← leaveEach participantId rest
      pure (if reported result then result :: later else later)

def leaveAllRooms (order : HashOrder) (participantId : ParticipantId) :
    Throwing Store (List ParticipantLeftRoomResult) := do
  let roomCodes ← Repository.getRoomCodes order
  leaveEach participantId roomCodes

def participantInRoom (participantId : ParticipantId) (roomCode : RoomCode) :
    Throwing Store Bool :=
  Repository.participantInRoom participantId roomCode

/-! ## The single steps, when nothing throws -/

theorem joinUpdater_of_admits {room : Room} {participant : Participant}
    {passwordHash : Option RoomSecret} (h : room.Admits participant passwordHash)
    (locals : JoinLocals) :
    joinUpdater participant passwordHash false room locals =
      (some .commit, ⟨some .joined, room.participants ++ [participant]⟩,
        room.append participant) := by
  simp [joinUpdater, Room.tryAddParticipant_of_admits h, Room.getParticipants]

theorem joinUpdater_of_not_admits {room : Room} {participant : Participant}
    {passwordHash : Option RoomSecret} (h : ¬ room.Admits participant passwordHash)
    (locals : JoinLocals) :
    ∃ reason, reason ≠ JoinRoomResult.joined ∧
      joinUpdater participant passwordHash false room locals =
        (some .abort, ⟨some reason, locals.roomParticipants⟩, room) := by
  obtain ⟨reason, hreason, hadd⟩ := Room.tryAddParticipant_of_not_admits h
  exact ⟨reason, hreason, by simp [joinUpdater, hadd, hreason]⟩

theorem leaveUpdater_of_member {room : Room} {participantId : ParticipantId}
    (h : room.hasParticipant participantId = true) (locals : LeaveLocals) :
    leaveUpdater participantId false room locals =
      (some .commit, ⟨some .left, (room.without participantId).participants⟩,
        room.without participantId) := by
  simp [leaveUpdater, Room.removeParticipant_of_member h, Room.getParticipants]

theorem leaveUpdater_of_not_member {room : Room} {participantId : ParticipantId}
    (h : room.hasParticipant participantId = false) (locals : LeaveLocals) :
    leaveUpdater participantId false room locals =
      (some .abort, ⟨some .notInRoom, locals.remainingParticipants⟩, room) := by
  simp [leaveUpdater, Room.removeParticipant_of_not_member h]

end RoomService
end App
end BuzzWeb
