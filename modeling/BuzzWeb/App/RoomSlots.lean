import BuzzWeb.App.ControlDispatcher

/-!
# Rooms as independent slots

The meaning of the service when nothing throws.  A *slot* is what the table holds under one code:
a room or nothing.  Joining and leaving read one slot and write one slot; a disconnect leaves every
slot; creating a room fills an empty one.  The slot functions state this, and the `_quiet` theorems
prove that the service calls, which go through transactions, captured locals and retries, compute
them.  Everything proved later about whole runs uses only these equations.
-/

namespace BuzzWeb
namespace Domain
namespace Rooms

/-- Write one slot of the table. -/
def setSlot (rooms : Rooms) (roomCode : RoomCode) : Option Room → Rooms
  | some room => rooms.insert roomCode room
  | none => rooms.erase roomCode

theorem lookup_setSlot (rooms : Rooms) (roomCode other : RoomCode) (slot : Option Room) :
    (rooms.setSlot roomCode slot).lookup other =
      if other = roomCode then slot else rooms.lookup other := by
  cases slot with
  | none => exact lookup_erase_eq rooms roomCode other
  | some room => exact lookup_insert_eq rooms roomCode other room

@[simp] theorem lookup_setSlot_self (rooms : Rooms) (roomCode : RoomCode) (slot : Option Room) :
    (rooms.setSlot roomCode slot).lookup roomCode = slot := by
  rw [lookup_setSlot, if_pos rfl]

theorem lookup_setSlot_of_ne (rooms : Rooms) {roomCode other : RoomCode} (h : other ≠ roomCode)
    (slot : Option Room) : (rooms.setSlot roomCode slot).lookup other = rooms.lookup other := by
  rw [lookup_setSlot, if_neg h]

/-- Writing back what a slot holds changes nothing. -/
theorem setSlot_lookup {rooms : Rooms} {roomCode : RoomCode} {slot : Option Room}
    (h : rooms.lookup roomCode = slot) : rooms.setSlot roomCode slot = rooms := by
  apply Finmap.ext_lookup
  intro other
  rw [lookup_setSlot]
  split_ifs with hsame
  · rw [hsame, h]
  · rfl

end Rooms
end Domain

namespace App

open Domain

/-! ## The operations on one slot -/

/-- Joining: a refusal leaves the slot alone. -/
def joinSlot (roomCode : RoomCode) (participant : Participant) (password : Option RoomSecret)
    (slot : Option Room) : ParticipantJoinedRoomResult × Option Room :=
  match slot with
  | none => (.error buildRoomNotFoundError, none)
  | some room =>
      match room.tryAddParticipant participant password with
      | (.joined, room') => (.ok ⟨roomCode, participant, room'.participants⟩, some room')
      | (.alreadyInRoom, _) => (.error buildAlreadyJoinedError, some room)
      | (.invalidSecret, _) => (.error buildWrongPasswordError, some room)
      | (.secretNotProvided, _) => (.error buildPasswordNotProvidedError, some room)

/-- What is left of a room when the participant is gone: the last one out removes it. -/
def remainingSlot (room : Room) (participantId : ParticipantId) : Option Room :=
  if (room.without participantId).participants = [] then none
  else some (room.without participantId)

theorem remainingSlot_of_empty {room : Room} {participantId : ParticipantId}
    (h : (room.without participantId).participants = []) :
    remainingSlot room participantId = none :=
  if_pos h

theorem remainingSlot_of_occupied {room : Room} {participantId : ParticipantId}
    (h : (room.without participantId).participants ≠ []) :
    remainingSlot room participantId = some (room.without participantId) :=
  if_neg h

/-- What remains of a room, if anything, is the room without the participant. -/
theorem eq_without_of_remainingSlot {room room' : Room} {participantId : ParticipantId}
    (h : remainingSlot room participantId = some room') : room' = room.without participantId := by
  unfold remainingSlot at h
  split_ifs at h
  exact (Option.some.inj h).symm

/-- Leaving: a refusal leaves the slot alone. -/
def leaveSlot (roomCode : RoomCode) (participantId : ParticipantId) (slot : Option Room) :
    ParticipantLeftRoomResult × Option Room :=
  match slot with
  | none => (.error buildRoomNotFoundError, none)
  | some room =>
      if room.hasParticipant participantId then
        (.ok ⟨roomCode, participantId, (room.without participantId).participants⟩,
          remainingSlot room participantId)
      else
        (.error buildNotInRoomError, some room)

/-- The first drawn code that is not stored, within the given number of attempts. -/
def freshCode (rooms : Rooms) (draws : Nat → Draw) : Nat → Nat → Option RoomCode
  | 0, _ => none
  | remaining + 1, attempt =>
      let code := generateRoomCode (draws attempt)
      match rooms.lookup code with
      | none => some code
      | some _ => freshCode rooms draws remaining (attempt + 1)

theorem joinSlot_of_admits {roomCode : RoomCode} {participant : Participant}
    {password : Option RoomSecret} {room : Room} (h : room.Admits participant password) :
    joinSlot roomCode participant password (some room) =
      (.ok ⟨roomCode, participant, room.participants ++ [participant]⟩,
        some (room.append participant)) := by
  simp [joinSlot, Room.tryAddParticipant_of_admits h]

/-- A join finds a room that admits the participant, or it is refused and the slot stays as it
is. -/
theorem joinSlot_cases (roomCode : RoomCode) (participant : Participant)
    (password : Option RoomSecret) (slot : Option Room) :
    (∃ room, slot = some room ∧ room.Admits participant password) ∨
      ∃ error, joinSlot roomCode participant password slot = (.error error, slot) := by
  cases slot with
  | none => exact Or.inr ⟨_, rfl⟩
  | some room =>
      by_cases hadmits : room.Admits participant password
      · exact Or.inl ⟨room, rfl, hadmits⟩
      · obtain ⟨reason, hreason, hadd⟩ := Room.tryAddParticipant_of_not_admits hadmits
        cases reason with
        | joined => exact absurd rfl hreason
        | invalidSecret => exact Or.inr ⟨buildWrongPasswordError, by simp [joinSlot, hadd]⟩
        | secretNotProvided =>
            exact Or.inr ⟨buildPasswordNotProvidedError, by simp [joinSlot, hadd]⟩
        | alreadyInRoom => exact Or.inr ⟨buildAlreadyJoinedError, by simp [joinSlot, hadd]⟩

theorem leaveSlot_of_member {roomCode : RoomCode} {participantId : ParticipantId} {room : Room}
    (h : room.hasParticipant participantId = true) :
    leaveSlot roomCode participantId (some room) =
      (.ok ⟨roomCode, participantId, (room.without participantId).participants⟩,
        remainingSlot room participantId) := by
  simp [leaveSlot, h]

/-- A leave finds a room with the participant in it, or it is refused: the slot stays as it is and
the error is not an internal one. -/
theorem leaveSlot_cases (roomCode : RoomCode) (participantId : ParticipantId)
    (slot : Option Room) :
    (∃ room, slot = some room ∧ room.hasParticipant participantId = true) ∨
      (∀ room, slot = some room → room.hasParticipant participantId = false) ∧
        ∃ error, error.type ≠ .internalError ∧
          leaveSlot roomCode participantId slot = (.error error, slot) := by
  cases slot with
  | none => exact Or.inr ⟨by simp, buildRoomNotFoundError, by decide, rfl⟩
  | some room =>
      cases hmember : room.hasParticipant participantId with
      | true => exact Or.inl ⟨room, rfl, hmember⟩
      | false =>
          refine Or.inr ⟨?_, buildNotInRoomError, by decide, by simp [leaveSlot, hmember]⟩
          intro other hother
          obtain rfl := Option.some.inj hother
          exact hmember

/-! ## The service computes them -/

/-- One `JoinRoom`, when nothing throws. -/
theorem joinRoom_quiet (roomCode : RoomCode) (participant : Participant)
    (password : Option RoomSecret) (rooms : Rooms) :
    RoomService.joinRoom roomCode participant password (Store.quiet rooms) =
      (some (joinSlot roomCode participant password (rooms.lookup roomCode)).1,
        Store.quiet (rooms.setSlot roomCode
          (joinSlot roomCode participant password (rooms.lookup roomCode)).2)) := by
  cases hslot : rooms.lookup roomCode with
  | none =>
      have hkeep := Rooms.setSlot_lookup hslot
      simp [RoomService.joinRoom, Repository.update, Rooms.update_of_missing hslot,
        RoomService.finishJoin, joinSlot, hkeep]
  | some room =>
      by_cases hadmits : room.Admits participant password
      · have hupdate := Rooms.update_of_commit hslot
          (RoomService.joinUpdater_of_admits hadmits ⟨none, []⟩)
        simp [RoomService.joinRoom, Repository.update, hupdate, RoomService.finishJoin,
          joinSlot_of_admits hadmits, Rooms.setSlot]
      · obtain ⟨reason, hreason, hupdater⟩ :=
          RoomService.joinUpdater_of_not_admits hadmits ⟨none, []⟩
        have hupdate := Rooms.update_of_abort hslot hupdater
        have hkeep := Rooms.setSlot_lookup hslot
        -- The reason that the callback wrote down is the one that `TryAddParticipant` gave.
        obtain ⟨reason', hreason', hadd⟩ := Room.tryAddParticipant_of_not_admits hadmits
        have hsame : reason' = reason := by
          have hlocals := congrArg (fun result => result.2.1.joinResult) hupdater
          simpa [RoomService.joinUpdater, hadd, hreason'] using hlocals
        subst hsame
        cases reason' with
        | joined => exact absurd rfl hreason
        | _ =>
            simp [RoomService.joinRoom, Repository.update, hupdate, RoomService.finishJoin,
              joinSlot, hadd, hkeep]

/-- One `LeaveRoom`, when nothing throws: the removal and the clean-up of the empty room
together. -/
theorem leaveRoom_quiet (roomCode : RoomCode) (participantId : ParticipantId) (rooms : Rooms) :
    RoomService.leaveRoom roomCode participantId (Store.quiet rooms) =
      (some (leaveSlot roomCode participantId (rooms.lookup roomCode)).1,
        Store.quiet (rooms.setSlot roomCode
          (leaveSlot roomCode participantId (rooms.lookup roomCode)).2)) := by
  cases hslot : rooms.lookup roomCode with
  | none =>
      have hkeep := Rooms.setSlot_lookup hslot
      simp [RoomService.leaveRoom, Repository.update, Rooms.update_of_missing hslot,
        RoomService.afterLeaveUpdate, leaveSlot, hkeep]
  | some room =>
      cases hmember : room.hasParticipant participantId with
      | false =>
          have hupdate := Rooms.update_of_abort hslot
            (RoomService.leaveUpdater_of_not_member hmember ⟨none, []⟩)
          have hkeep := Rooms.setSlot_lookup hslot
          simp [RoomService.leaveRoom, Repository.update, hupdate, RoomService.afterLeaveUpdate,
            leaveSlot, hmember, hkeep]
      | true =>
          have hupdate := Rooms.update_of_commit hslot
            (RoomService.leaveUpdater_of_member hmember ⟨none, []⟩)
          -- `RemoveIfEmpty` looks at the room that the update has just stored.
          have hstored := Finmap.lookup_insert (b := room.without participantId) rooms (a := roomCode)
          by_cases hempty : (room.without participantId).participants = []
          · have hremove := Rooms.removeIfEmpty_of_empty hstored hempty
            have herase : (rooms.insert roomCode (room.without participantId)).erase roomCode =
                rooms.erase roomCode := by
              apply Finmap.ext_lookup
              intro other
              simp only [Rooms.lookup_erase_eq, Rooms.lookup_insert_eq]
              split_ifs <;> rfl
            simp [RoomService.leaveRoom, Repository.update, hupdate,
              RoomService.afterLeaveUpdate, Repository.removeIfEmpty, hremove,
              leaveSlot_of_member hmember, remainingSlot_of_empty hempty, Rooms.setSlot, herase]
          · have hremove := Rooms.removeIfEmpty_of_occupied hstored hempty
            simp [RoomService.leaveRoom, Repository.update, hupdate,
              RoomService.afterLeaveUpdate, Repository.removeIfEmpty, hremove,
              leaveSlot_of_member hmember, remainingSlot_of_occupied hempty, Rooms.setSlot]

/-- The retry loop, when nothing throws. -/
theorem createRoomLoop_quiet (draws : Nat → Draw) (password : Option RoomSecret) (rooms : Rooms)
    (remaining attempt : Nat) :
    RoomService.createRoomLoop draws password remaining attempt (Store.quiet rooms) =
      match freshCode rooms draws remaining attempt with
      | none => (some (.error buildRoomCodeGenerationFailedError), Store.quiet rooms)
      | some code => (some (.ok (Room.create code password)),
          Store.quiet (rooms.insert code (Room.create code password))) := by
  induction remaining generalizing attempt with
  | zero => rfl
  | succ remaining ih =>
      cases hslot : rooms.lookup (generateRoomCode (draws attempt)) with
      | none =>
          have hadd : rooms.add (Room.create (generateRoomCode (draws attempt)) password) = _ :=
            Rooms.add_of_free hslot
          simp [RoomService.createRoomLoop, Repository.add, hadd, freshCode, hslot]
      | some taken =>
          have hadd : rooms.add (Room.create (generateRoomCode (draws attempt)) password) = _ :=
            Rooms.add_of_taken hslot
          simp [RoomService.createRoomLoop, Repository.add, hadd, freshCode, hslot, ih]

/-- A fresh code is not stored, and it was drawn within the attempts. -/
theorem freshCode_spec {rooms : Rooms} {draws : Nat → Draw} {remaining attempt : Nat}
    {code : RoomCode} (h : freshCode rooms draws remaining attempt = some code) :
    rooms.lookup code = none ∧ ∃ n, attempt ≤ n ∧ n < attempt + remaining ∧
      code = generateRoomCode (draws n) := by
  induction remaining generalizing attempt with
  | zero => simp [freshCode] at h
  | succ remaining ih =>
      cases hslot : rooms.lookup (generateRoomCode (draws attempt)) with
      | none =>
          simp only [freshCode, hslot, Option.some.injEq] at h
          subst h
          exact ⟨hslot, attempt, le_refl _, by omega, rfl⟩
      | some taken =>
          simp only [freshCode, hslot] at h
          obtain ⟨hfree, n, hle, hlt, hcode⟩ := ih h
          exact ⟨hfree, n, by omega, by omega, hcode⟩

/-- A free code among the draws is enough for a create to find one. -/
theorem exists_freshCode {rooms : Rooms} {draws : Nat → Draw} {remaining attempt n : Nat}
    (hle : attempt ≤ n) (hlt : n < attempt + remaining)
    (hfree : rooms.lookup (generateRoomCode (draws n)) = none) :
    ∃ code, freshCode rooms draws remaining attempt = some code := by
  induction remaining generalizing attempt with
  | zero => omega
  | succ remaining ih =>
      cases hslot : rooms.lookup (generateRoomCode (draws attempt)) with
      | none => exact ⟨generateRoomCode (draws attempt), by simp [freshCode, hslot]⟩
      | some taken =>
          have hlater : attempt + 1 ≤ n := by
            have hne : attempt ≠ n := by
              rintro rfl
              rw [hfree] at hslot
              cases hslot
            omega
          obtain ⟨code, hcode⟩ := ih hlater (by omega)
          exact ⟨code, by simp [freshCode, hslot, hcode]⟩

/-- The loop gives up exactly when every code it may try is stored. -/
theorem freshCode_eq_none_iff (rooms : Rooms) (draws : Nat → Draw) (remaining attempt : Nat) :
    freshCode rooms draws remaining attempt = none ↔
      ∀ n, attempt ≤ n → n < attempt + remaining →
        ∃ room, rooms.lookup (generateRoomCode (draws n)) = some room := by
  constructor
  · intro hnone n hle hlt
    cases hslot : rooms.lookup (generateRoomCode (draws n)) with
    | some room => exact ⟨room, rfl⟩
    | none =>
        obtain ⟨code, hcode⟩ := exists_freshCode hle hlt hslot
        rw [hnone] at hcode
        cases hcode
  · intro hall
    cases hfresh : freshCode rooms draws remaining attempt with
    | none => rfl
    | some code =>
        obtain ⟨hfree, n, hle, hlt, rfl⟩ := freshCode_spec hfresh
        obtain ⟨room, hslot⟩ := hall n hle hlt
        rw [hfree] at hslot
        cases hslot

/-- The loop takes the first code that is not stored. -/
theorem freshCode_of_first {rooms : Rooms} {draws : Nat → Draw} {remaining attempt n : Nat}
    (hle : attempt ≤ n) (hlt : n < attempt + remaining)
    (hfree : rooms.lookup (generateRoomCode (draws n)) = none)
    (hfirst : ∀ m, attempt ≤ m → m < n →
      ∃ room, rooms.lookup (generateRoomCode (draws m)) = some room) :
    freshCode rooms draws remaining attempt = some (generateRoomCode (draws n)) := by
  induction remaining generalizing attempt with
  | zero => omega
  | succ remaining ih =>
      rcases Nat.eq_or_lt_of_le hle with rfl | hlater
      · simp only [freshCode, hfree]
      · obtain ⟨taken, hslot⟩ := hfirst attempt le_rfl hlater
        simp only [freshCode, hslot]
        refine ih hlater (by omega) ?_
        intro m hm hmn
        exact hfirst m (by omega) hmn

/-! ## A whole request -/

/-- The command is the alternative that the type of the meta announces. -/
def Fits (request : ControlDispatcherRequest) : Prop :=
  match request.requestMeta.type, request.command with
  | .createRoom, .createRoom _ => True
  | .joinRoom, .joinRoom _ => True
  | .leaveRoom, .leaveRoom _ => True
  | .signaling, .signaling _ => True
  | _, _ => False

/-- The result of a join for the dispatcher. -/
def joinDispatch (requestMeta : RequestMeta) :
    ParticipantJoinedRoomResult → ControlDispatcherResult
  | .error error => ControlDispatcher.errorResult requestMeta (mapServiceError error)
  | .ok joined =>
      ⟨.success requestMeta (.joinRoom
          ⟨joined.roomCode, joined.participant, joined.roomParticipants⟩),
        [.joinedRoom joined.roomCode joined.participant joined.roomParticipants]⟩

/-- The result of a leave for the dispatcher. -/
def leaveDispatch (requestMeta : RequestMeta) :
    ParticipantLeftRoomResult → ControlDispatcherResult
  | .error error => ControlDispatcher.errorResult requestMeta (mapServiceError error)
  | .ok left =>
      ⟨.success requestMeta (.leaveRoom ⟨left.roomCode⟩),
        [.leftRoom left.roomCode left.participantId left.remainingParticipants]⟩

/-- What a request does when nothing throws: the result for the handler, and the table. -/
def serve (draws : Nat → Draw) (rooms : Rooms) (requestMeta : RequestMeta) :
    Command → ControlDispatcherResult × Rooms
  | .createRoom command =>
      match freshCode rooms draws RoomService.maxAttempts 0 with
      | none => (ControlDispatcher.errorResult requestMeta .roomCodeGenerationFailed, rooms)
      | some code =>
          (⟨.success requestMeta (.createRoom
              ⟨code, command.participant, [command.participant]⟩), []⟩,
            rooms.insert code ⟨code, command.passwordHash, [command.participant]⟩)
  | .joinRoom command =>
      let outcome := joinSlot command.roomCode command.participant command.passwordHash
        (rooms.lookup command.roomCode)
      (joinDispatch requestMeta outcome.1, rooms.setSlot command.roomCode outcome.2)
  | .leaveRoom command =>
      let outcome := leaveSlot command.roomCode command.participantId
        (rooms.lookup command.roomCode)
      (leaveDispatch requestMeta outcome.1, rooms.setSlot command.roomCode outcome.2)
  | .signaling command =>
      if rooms.participantInRoom command.fromParticipantId command.roomCode &&
          rooms.participantInRoom command.targetParticipantId command.roomCode then
        (⟨.success requestMeta (.signaling
          ⟨command.type, command.roomCode, command.fromParticipantId,
            command.targetParticipantId, command.data⟩), []⟩, rooms)
      else
        (ControlDispatcher.errorResult requestMeta .notInRoom, rooms)

/-- The room that a create has just added admits its creator: the second transaction of a create
cannot fail when nothing comes in between. -/
theorem joinRoom_after_create (rooms : Rooms) (code : RoomCode) (participant : Participant)
    (password : Option RoomSecret) :
    RoomService.joinRoom code participant password
        (Store.quiet (rooms.insert code (Room.create code password))) =
      (some (.ok ⟨code, participant, [participant]⟩),
        Store.quiet (rooms.insert code ⟨code, password, [participant]⟩)) := by
  have hstored : (rooms.insert code (Room.create code password)).lookup code =
      some (Room.create code password) := Finmap.lookup_insert rooms
  rw [joinRoom_quiet, hstored, joinSlot_of_admits (Room.create_admits code password participant)]
  have htable : Rooms.setSlot (rooms.insert code (Room.create code password)) code
      (some ((Room.create code password).append participant)) =
        rooms.insert code ⟨code, password, [participant]⟩ := by
    apply Finmap.ext_lookup
    intro other
    simp only [Rooms.lookup_setSlot, Rooms.lookup_insert_eq]
    split_ifs <;> rfl
  simp [htable]

/-- The switch of the dispatcher computes `serve`. -/
theorem resultOf_quiet (draws : Nat → Draw) (rooms : Rooms) (request : ControlDispatcherRequest)
    (hfits : Fits request) :
    ControlDispatcher.resultOf draws request (Store.quiet rooms) =
      (some (serve draws rooms request.requestMeta request.command).1,
        Store.quiet (serve draws rooms request.requestMeta request.command).2) := by
  obtain ⟨⟨type, requestId, signalingType⟩, command⟩ := request
  cases command with
  | createRoom command =>
      cases type with
      | createRoom =>
          have hloop : RoomService.createRoom draws command.passwordHash (Store.quiet rooms) = _ :=
            createRoomLoop_quiet draws command.passwordHash rooms RoomService.maxAttempts 0
          cases hfresh : freshCode rooms draws RoomService.maxAttempts 0 with
          | none =>
              rw [hfresh] at hloop
              simp only [ControlDispatcher.resultOf]
              rw [Throwing.bind_of_some hloop]
              simp [serve, hfresh, mapServiceError, buildRoomCodeGenerationFailedError]
          | some code =>
              rw [hfresh] at hloop
              simp only [ControlDispatcher.resultOf]
              rw [Throwing.bind_of_some hloop]
              -- The join comes right after the create, so it finds the empty room.
              simp only [Room.create_code]
              rw [Throwing.bind_of_some
                (joinRoom_after_create rooms code command.participant command.passwordHash)]
              simp [serve, hfresh]
      | _ => exact hfits.elim
  | joinRoom command =>
      cases type with
      | joinRoom =>
          simp only [ControlDispatcher.resultOf]
          rw [Throwing.bind_of_some (joinRoom_quiet command.roomCode command.participant
            command.passwordHash rooms)]
          simp only [serve]
          cases (joinSlot command.roomCode command.participant command.passwordHash
            (rooms.lookup command.roomCode)).1 <;> rfl
      | _ => exact hfits.elim
  | leaveRoom command =>
      cases type with
      | leaveRoom =>
          simp only [ControlDispatcher.resultOf]
          rw [Throwing.bind_of_some (leaveRoom_quiet command.roomCode command.participantId rooms)]
          simp only [serve]
          cases (leaveSlot command.roomCode command.participantId
            (rooms.lookup command.roomCode)).1 <;> rfl
      | _ => exact hfits.elim
  | signaling command =>
      cases type with
      | signaling =>
          have hcall (participantId : ParticipantId) :
              RoomService.participantInRoom participantId command.roomCode (Store.quiet rooms) =
                (some (rooms.participantInRoom participantId command.roomCode),
                  Store.quiet rooms) := rfl
          simp only [ControlDispatcher.resultOf]
          rw [Throwing.bind_of_some (hcall command.fromParticipantId)]
          cases hfrom : rooms.participantInRoom command.fromParticipantId command.roomCode with
          | false => simp [serve, hfrom]
          | true =>
              simp only [Bool.not_true, Bool.false_eq_true, if_false]
              rw [Throwing.bind_of_some (hcall command.targetParticipantId)]
              cases htarget : rooms.participantInRoom command.targetParticipantId
                command.roomCode <;> simp [serve, hfrom, htarget]
      | _ => exact hfits.elim

/-! ## A disconnect -/

/-- The table after the participant left the listed rooms one by one. -/
def leaveSlots (participantId : ParticipantId) : List RoomCode → Rooms → Rooms
  | [], rooms => rooms
  | roomCode :: rest, rooms => leaveSlots participantId rest
      (rooms.setSlot roomCode (leaveSlot roomCode participantId (rooms.lookup roomCode)).2)

/-- The event of a participant leaving one slot, when there is one. -/
def leftEvent (participantId : ParticipantId) (roomCode : RoomCode) (slot : Option Room) :
    Option ControlDispatcherEvent :=
  match slot with
  | none => none
  | some room =>
      if room.hasParticipant participantId then
        some (.leftRoom roomCode participantId (room.without participantId).participants)
      else none

/-- The event of a slot carries the code of the slot. -/
theorem roomCode_of_leftEvent {participantId : ParticipantId} {code : RoomCode}
    {slot : Option Room} {event : ControlDispatcherEvent}
    (hevent : leftEvent participantId code slot = some event) : event.roomCode = code := by
  cases slot with
  | none => cases hevent
  | some room =>
      simp only [leftEvent, Option.ite_none_right_eq_some, Option.some.injEq] at hevent
      rw [← hevent.2]
      rfl

/-- Leaving distinct rooms one by one is leaving each of them. -/
theorem lookup_leaveSlots (participantId : ParticipantId) (roomCodes : List RoomCode)
    (hnodup : roomCodes.Nodup) (rooms : Rooms) (roomCode : RoomCode) :
    (leaveSlots participantId roomCodes rooms).lookup roomCode =
      if roomCode ∈ roomCodes then
        (leaveSlot roomCode participantId (rooms.lookup roomCode)).2
      else rooms.lookup roomCode := by
  induction roomCodes generalizing rooms with
  | nil => simp [leaveSlots]
  | cons head rest ih =>
      obtain ⟨hhead, hrest⟩ := List.nodup_cons.mp hnodup
      rw [leaveSlots, ih hrest]
      by_cases hsame : roomCode = head
      · subst hsame
        simp [hhead]
      · simp [hsame, Rooms.lookup_setSlot_of_ne]

/-- The sweep reports the leave of each listed room the participant was in. -/
theorem leaveEach_quiet (participantId : ParticipantId) (roomCodes : List RoomCode)
    (hnodup : roomCodes.Nodup) (rooms : Rooms) :
    ∃ results, RoomService.leaveEach participantId roomCodes (Store.quiet rooms) =
        (some results, Store.quiet (leaveSlots participantId roomCodes rooms)) ∧
      ControlDispatcher.leftEvents results = roomCodes.filterMap fun roomCode =>
        leftEvent participantId roomCode (rooms.lookup roomCode) := by
  induction roomCodes generalizing rooms with
  | nil => exact ⟨[], rfl, rfl⟩
  | cons head rest ih =>
      obtain ⟨hhead, hrest⟩ := List.nodup_cons.mp hnodup
      obtain ⟨later, hlater, hevents⟩ := ih hrest
        (rooms.setSlot head (leaveSlot head participantId (rooms.lookup head)).2)
      -- The slots still to come are those of the table before this leave.
      have hframe : (rest.filterMap fun roomCode => leftEvent participantId roomCode
          ((rooms.setSlot head (leaveSlot head participantId (rooms.lookup head)).2).lookup
            roomCode)) =
          rest.filterMap fun roomCode =>
            leftEvent participantId roomCode (rooms.lookup roomCode) := by
        apply List.filterMap_congr
        intro roomCode hmem
        have hne : roomCode ≠ head := by
          rintro rfl
          exact hhead hmem
        rw [Rooms.lookup_setSlot_of_ne rooms hne]
      rw [hframe] at hevents
      refine ⟨if RoomService.reported (leaveSlot head participantId (rooms.lookup head)).1
        then (leaveSlot head participantId (rooms.lookup head)).1 :: later else later, ?_, ?_⟩
      · simp only [RoomService.leaveEach]
        rw [Throwing.bind_of_some (leaveRoom_quiet head participantId rooms),
          Throwing.bind_of_some hlater]
        rfl
      · rcases leaveSlot_cases head participantId (rooms.lookup head) with
          ⟨room, hslot, hmember⟩ | ⟨hrefused, error, hkind, hleave⟩
        · have hsome : leftEvent participantId head (rooms.lookup head) =
              some (.leftRoom head participantId (room.without participantId).participants) := by
            simp [hslot, leftEvent, hmember]
          rw [List.filterMap_cons, hsome, hslot, leaveSlot_of_member hmember]
          simp [RoomService.reported, ControlDispatcher.leftEvents, hevents]
        · have hnone : leftEvent participantId head (rooms.lookup head) = none := by
            cases hslot : rooms.lookup head with
            | none => rfl
            | some room => simp [leftEvent, hrefused room hslot]
          rw [hleave, List.filterMap_cons, hnone]
          simp [RoomService.reported, hkind, hevents]

/-- The table after a disconnect. -/
def disconnectRooms (order : HashOrder) (participantId : ParticipantId) (rooms : Rooms) : Rooms :=
  leaveSlots participantId (rooms.getRoomCodes order) rooms

/-- The events of a disconnect, in the order of the walk. -/
def disconnectEvents (order : HashOrder) (participantId : ParticipantId) (rooms : Rooms) :
    List ControlDispatcherEvent :=
  (rooms.getRoomCodes order).filterMap fun roomCode =>
    leftEvent participantId roomCode (rooms.lookup roomCode)

theorem handleParticipantDisconnected_quiet (order : HashOrder) (participantId : ParticipantId)
    (rooms : Rooms) :
    ControlDispatcher.handleParticipantDisconnected order participantId (Store.quiet rooms) =
      (some (disconnectEvents order participantId rooms),
        Store.quiet (disconnectRooms order participantId rooms)) := by
  obtain ⟨results, hresults, hevents⟩ := leaveEach_quiet participantId
    (rooms.getRoomCodes order) (Rooms.getRoomCodes_nodup rooms order) rooms
  have hsweep : RoomService.leaveAllRooms order participantId (Store.quiet rooms) =
      (some results, Store.quiet (disconnectRooms order participantId rooms)) := hresults
  rw [ControlDispatcher.handleParticipantDisconnected, Throwing.bind_of_some hsweep]
  simp [hevents, disconnectEvents]

/-- A disconnect leaves every slot, in whatever order the table was walked. -/
theorem lookup_disconnectRooms (order : HashOrder) (participantId : ParticipantId)
    (rooms : Rooms) (roomCode : RoomCode) :
    (disconnectRooms order participantId rooms).lookup roomCode =
      (leaveSlot roomCode participantId (rooms.lookup roomCode)).2 := by
  rw [disconnectRooms, lookup_leaveSlots participantId _ (Rooms.getRoomCodes_nodup rooms order)]
  split_ifs with hmem
  · rfl
  · rw [Rooms.mem_getRoomCodes] at hmem
    cases hslot : rooms.lookup roomCode with
    | none => rfl
    | some room => exact absurd ⟨room, hslot⟩ hmem

end App
end BuzzWeb
