import BuzzWeb.App.RoomSlots

/-!
# Joining and leaving at every fault point

A repository call may throw.  `Update` works on a copy, so wherever it throws the table stays as it
was (`Rooms.update_of_throw`); what differs is what the caller makes of the throw.

`JoinRoom` returns from its `catch` block, and its result always agrees with the table
(`joinRoom_atomic`).  `LeaveRoom` only logs the exception and goes on with the local that its
callback wrote before the throw, and it reports a failed `RemoveIfEmpty` as a failed leave although
the removal is committed.  `leaveRoom_truthful_iff` says exactly when its result can be trusted.
-/

namespace BuzzWeb
namespace Domain
namespace Rooms

variable {σ : Type} {rooms : Rooms} {roomCode : RoomCode} {updater : Updater σ} {locals : σ}
  {fault : RepositoryFault}

/-- An `Update` that throws leaves the table alone: only the copy was written. -/
theorem update_of_throw (hthrow : (rooms.update roomCode updater locals fault).1 = none) :
    (rooms.update roomCode updater locals fault).2.2 = rooms := by
  unfold update at hthrow ⊢
  by_cases hbefore : fault = .beforeUpdater
  · rw [if_pos hbefore]
  · rw [if_neg hbefore] at hthrow ⊢
    cases hslot : rooms.lookup roomCode with
    | none => rfl
    | some room =>
        simp only [hslot] at hthrow ⊢
        rcases hupdater : updater (fault = .insideUpdater) room locals with ⟨result, locals', copy⟩
        simp only [hupdater] at hthrow ⊢
        cases result with
        | none => rfl
        | some result =>
            by_cases hafter : fault = .afterUpdater
            · simp only [if_pos hafter]
            · cases result with
              | abort => simp [hafter] at hthrow
              | commit => simp [hafter] at hthrow

/-- When an updater throws exactly when it is told to, `Update` throws at every fault point it
reaches. -/
theorem update_throws_iff
    (hthrows : ∀ room locals, (updater true room locals).1 = none)
    (hreturns : ∀ room locals, (updater false room locals).1 ≠ none) :
    (rooms.update roomCode updater locals fault).1 = none ↔
      fault = .beforeUpdater ∨ fault ≠ .none ∧ ∃ room, rooms.lookup roomCode = some room := by
  cases hslot : rooms.lookup roomCode with
  | none => cases fault <;> simp [update, hslot]
  | some room =>
      cases fault with
      | beforeUpdater => simp [update]
      | insideUpdater =>
          have hnone := hthrows room locals
          rcases hupdater : updater true room locals with ⟨result, locals', copy⟩
          rw [hupdater] at hnone
          obtain rfl : result = none := hnone
          simp [update, hslot, hupdater]
      | _ =>
          have hsome := hreturns room locals
          rcases hupdater : updater false room locals with ⟨result, locals', copy⟩
          rw [hupdater] at hsome
          cases result with
          | none => exact absurd rfl hsome
          | some result => cases result <;> simp [update, hslot, hupdater]

end Rooms
end Domain

namespace App

open Domain

/-! ## Joining -/

/-- `Update` throws in this call of `JoinRoom`. -/
def joinThrows (roomCode : RoomCode) (participant : Participant) (password : Option RoomSecret)
    (store : Store) : Prop :=
  (Repository.update roomCode (RoomService.joinUpdater participant password) ⟨none, []⟩ store).1 =
    none

/-- Why a join that is let through is refused: the first reason that applies. -/
def joinRefusal (participant : Participant) (password : Option RoomSecret) :
    Option Room → Option RoomServiceError.Kind
  | none => some .roomNotFound
  | some room =>
      if room.hasParticipant participant.id then some .alreadyJoined
      else if room.roomSecret ≠ none ∧ password = none then some .passwordNotProvided
      else if room.roomSecret ≠ none ∧ room.roomSecret ≠ password then some .wrongPassword
      else none

/-- A join is refused for the first reason that applies, and the slot stays as it is. -/
theorem joinSlot_of_refusal (roomCode : RoomCode) {participant : Participant}
    {password : Option RoomSecret} {slot : Option Room} {kind : RoomServiceError.Kind}
    (hrefusal : joinRefusal participant password slot = some kind) :
    ∃ error, error.type = kind ∧
      joinSlot roomCode participant password slot = (.error error, slot) := by
  cases slot with
  | none =>
      obtain rfl := Option.some.inj hrefusal
      exact ⟨buildRoomNotFoundError, rfl, rfl⟩
  | some room =>
      simp only [joinRefusal] at hrefusal
      split_ifs at hrefusal with hmember hmissing hwrong
      · obtain rfl := Option.some.inj hrefusal
        exact ⟨buildAlreadyJoinedError, rfl, by simp [joinSlot, Room.tryAddParticipant, hmember]⟩
      · obtain rfl := Option.some.inj hrefusal
        obtain ⟨hprotected, rfl⟩ := hmissing
        obtain ⟨secret, hsecret⟩ := Option.ne_none_iff_exists'.mp hprotected
        exact ⟨buildPasswordNotProvidedError, rfl, by
          simp [joinSlot, Room.tryAddParticipant, hmember, hsecret]⟩
      · obtain rfl := Option.some.inj hrefusal
        obtain ⟨hprotected, hdiffers⟩ := hwrong
        obtain ⟨secret, hsecret⟩ := Option.ne_none_iff_exists'.mp hprotected
        cases password with
        | none => exact absurd ⟨hprotected, rfl⟩ hmissing
        | some given =>
            have hne : secret ≠ given := by
              rintro rfl
              exact hdiffers hsecret
            exact ⟨buildWrongPasswordError, rfl, by
              simp [joinSlot, Room.tryAddParticipant, hmember, hsecret, hne]⟩

/-- No reason applies exactly when there is a room and it admits the participant. -/
theorem joinRefusal_eq_none_iff (participant : Participant) (password : Option RoomSecret)
    (slot : Option Room) :
    joinRefusal participant password slot = none ↔
      ∃ room, slot = some room ∧ room.Admits participant password := by
  cases slot with
  | none => simp [joinRefusal]
  | some room =>
      cases hmember : room.hasParticipant participant.id with
      | true => simp [joinRefusal, Room.Admits, hmember]
      | false =>
          cases hsecret : room.roomSecret with
          | none => simp [joinRefusal, Room.Admits, hmember, hsecret]
          | some secret =>
              cases password with
              | none => simp [joinRefusal, Room.Admits, hmember, hsecret]
              | some given => simp [joinRefusal, Room.Admits, hmember, hsecret]

theorem joinThrows_iff (roomCode : RoomCode) (participant : Participant)
    (password : Option RoomSecret) (store : Store) :
    joinThrows roomCode participant password store ↔
      store.nextFault = .beforeUpdater ∨
        store.nextFault ≠ .none ∧ ∃ room, store.rooms.lookup roomCode = some room := by
  refine Rooms.update_throws_iff ?_ ?_
  · intro room locals
    rfl
  · intro room locals
    simp only [RoomService.joinUpdater, Bool.false_eq_true, if_false]
    split_ifs <;> exact Option.some_ne_none _

/-- A join whose `Update` throws is an internal error and changes nothing. -/
theorem joinRoom_of_throw {roomCode : RoomCode} {participant : Participant}
    {password : Option RoomSecret} {store : Store}
    (hthrow : joinThrows roomCode participant password store) :
    RoomService.joinRoom roomCode participant password store =
      (some (.error buildInternalError), store.advance store.rooms) := by
  have hkeep := Rooms.update_of_throw hthrow
  unfold joinThrows Repository.update at hthrow
  simp only [RoomService.joinRoom, Repository.update, hkeep]
  simp only at hthrow
  rw [hthrow]
  rfl

/-- A join whose `Update` returns is the join of the slot. -/
theorem joinRoom_of_return {roomCode : RoomCode} {participant : Participant}
    {password : Option RoomSecret} {store : Store}
    (hreturn : ¬ joinThrows roomCode participant password store) :
    RoomService.joinRoom roomCode participant password store =
      (some (joinSlot roomCode participant password (store.rooms.lookup roomCode)).1,
        store.advance (store.rooms.setSlot roomCode
          (joinSlot roomCode participant password (store.rooms.lookup roomCode)).2)) := by
  have hplan := (joinThrows_iff roomCode participant password store).not.mp hreturn
  obtain ⟨hbefore, hlater⟩ := not_or.mp hplan
  -- A later fault point is not reached when there is no room, so the plan does not matter.
  have hsame : store.rooms.update roomCode (RoomService.joinUpdater participant password)
      ⟨none, []⟩ store.nextFault = store.rooms.update roomCode
        (RoomService.joinUpdater participant password) ⟨none, []⟩ .none := by
    by_cases hnone : store.nextFault = .none
    · rw [hnone]
    · have hslot : store.rooms.lookup roomCode = none := by
        cases hslot : store.rooms.lookup roomCode with
        | none => rfl
        | some room => exact absurd ⟨hnone, room, hslot⟩ hlater
      simp [Rooms.update, hbefore, hslot]
  have hquiet := joinRoom_quiet roomCode participant password store.rooms
  simp only [RoomService.joinRoom, Repository.update, Store.nextFault_quiet, Store.quiet_rooms,
    Store.advance_quiet] at hquiet
  obtain ⟨hresult, hrooms⟩ := Prod.mk.inj hquiet
  simp only [RoomService.joinRoom, Repository.update, hsame]
  have htable : (store.rooms.update roomCode (RoomService.joinUpdater participant password)
      ⟨none, []⟩ .none).2.2 = _ := congrArg Store.rooms hrooms
  rw [hresult, htable]
  rfl

/-- **A join is atomic, and classified, at every fault point.**  It succeeds exactly when `Update`
does not throw and the stored room admits the participant; then the participant is appended to that
room and nothing else changes.  Otherwise nothing changes, and the error is the internal one when
`Update` threw, else the first reason that applies. -/
theorem joinRoom_atomic (roomCode : RoomCode) (participant : Participant)
    (password : Option RoomSecret) (store : Store) :
    ∃ result after,
      RoomService.joinRoom roomCode participant password store = (some result, after) ∧
      ((∃ joined, result = .ok joined) ↔
        ¬ joinThrows roomCode participant password store ∧
          ∃ room, store.rooms.lookup roomCode = some room ∧
            room.hasParticipant participant.id = false ∧
            (room.roomSecret = none ∨ room.roomSecret = password)) ∧
      (∀ joined, result = .ok joined → ∃ room room',
        store.rooms.lookup roomCode = some room ∧ after.rooms.lookup roomCode = some room' ∧
        room'.participants = room.participants ++ [participant] ∧
        room'.roomSecret = room.roomSecret ∧ room'.code = room.code ∧
        (∀ other, other ≠ roomCode → after.rooms.lookup other = store.rooms.lookup other) ∧
        joined = ⟨roomCode, participant, room'.participants⟩) ∧
      (∀ error, result = .error error → after.rooms = store.rooms ∧
        (joinThrows roomCode participant password store → error.type = .internalError) ∧
        (¬ joinThrows roomCode participant password store →
          joinRefusal participant password (store.rooms.lookup roomCode) = some error.type)) := by
  by_cases hthrow : joinThrows roomCode participant password store
  · refine ⟨_, _, joinRoom_of_throw hthrow, ?_, ?_, ?_⟩
    · constructor
      · rintro ⟨joined, hok⟩
        cases hok
      · rintro ⟨hreturn, -⟩
        exact absurd hthrow hreturn
    · intro joined hok
      cases hok
    · intro error herror
      obtain rfl := Except.error.inj herror
      exact ⟨rfl, fun _ => rfl, fun hreturn => absurd hthrow hreturn⟩
  · refine ⟨_, _, joinRoom_of_return hthrow, ?_⟩
    have hnone := joinRefusal_eq_none_iff participant password (store.rooms.lookup roomCode)
    cases hrefusal : joinRefusal participant password (store.rooms.lookup roomCode) with
    | none =>
        obtain ⟨room, hslot, hadmits⟩ := hnone.mp hrefusal
        rw [hslot, joinSlot_of_admits hadmits]
        refine ⟨?_, ?_, ?_⟩
        · exact ⟨fun _ => ⟨hthrow, room, rfl, hadmits⟩, fun _ => ⟨_, rfl⟩⟩
        · intro joined hok
          obtain rfl := Except.ok.inj hok
          refine ⟨room, room.append participant, rfl, ?_, rfl, rfl, rfl, ?_, rfl⟩
          · exact Rooms.lookup_setSlot_self store.rooms roomCode _
          · intro other hother
            exact Rooms.lookup_setSlot_of_ne store.rooms hother _
        · intro error herror
          cases herror
    | some kind =>
        obtain ⟨refused, hkind, hjoin⟩ := joinSlot_of_refusal roomCode hrefusal
        rw [hjoin]
        refine ⟨?_, ?_, ?_⟩
        · constructor
          · rintro ⟨joined, hok⟩
            cases hok
          · rintro ⟨-, hadmitted⟩
            rw [hnone.mpr hadmitted] at hrefusal
            cases hrefusal
        · intro joined hok
          cases hok
        · intro error herror
          obtain rfl := Except.error.inj herror
          refine ⟨?_, fun hthrown => absurd hthrown hthrow, fun _ => by rw [hkind]⟩
          exact Rooms.setSlot_lookup rfl

/-! ## Leaving -/

/-- The fault planned for the call after the next: in a leave that gets that far, the one of
`RemoveIfEmpty`. -/
def secondFault (store : Store) : RepositoryFault :=
  store.faults.tail.headD .none

/-- The result of a leave agrees with the table: a success means that the participant was in the
room and no longer is, an error that nothing changed. -/
def LeaveTruthful (roomCode : RoomCode) (participantId : ParticipantId) (store : Store) : Prop :=
  ∃ result after, RoomService.leaveRoom roomCode participantId store = (some result, after) ∧
    ((∃ left, result = .ok left) →
      store.rooms.participantInRoom participantId roomCode = true ∧
        after.rooms.participantInRoom participantId roomCode = false) ∧
    ((∃ error, result = .error error) → after.rooms = store.rooms)

/-- The law, once the result of the leave is known to be a success. -/
theorem leaveTruthful_of_ok {roomCode : RoomCode} {participantId : ParticipantId}
    {store after : Store} {left : ParticipantLeftRoom}
    (hleave : RoomService.leaveRoom roomCode participantId store = (some (.ok left), after)) :
    LeaveTruthful roomCode participantId store ↔
      store.rooms.participantInRoom participantId roomCode = true ∧
        after.rooms.participantInRoom participantId roomCode = false := by
  constructor
  · rintro ⟨result, after', hleave', hok, -⟩
    rw [hleave] at hleave'
    obtain ⟨hresult, rfl⟩ := Prod.mk.inj hleave'
    exact hok ⟨left, (Option.some.inj hresult).symm⟩
  · intro hgone
    refine ⟨.ok left, after, hleave, fun _ => hgone, ?_⟩
    rintro ⟨error, herror⟩
    cases herror

/-- The law, once the result of the leave is known to be an error. -/
theorem leaveTruthful_of_error {roomCode : RoomCode} {participantId : ParticipantId}
    {store after : Store} {error : RoomServiceError}
    (hleave : RoomService.leaveRoom roomCode participantId store = (some (.error error), after)) :
    LeaveTruthful roomCode participantId store ↔ after.rooms = store.rooms := by
  constructor
  · rintro ⟨result, after', hleave', -, herror⟩
    rw [hleave] at hleave'
    obtain ⟨hresult, rfl⟩ := Prod.mk.inj hleave'
    exact herror ⟨error, (Option.some.inj hresult).symm⟩
  · intro hkeep
    refine ⟨.error error, after, hleave, ?_, fun _ => hkeep⟩
    rintro ⟨left, hok⟩
    cases hok

section Leave

variable {roomCode : RoomCode} {participantId : ParticipantId} {store : Store}

/-- Somebody who is not in the room is told so, or that something went wrong. -/
theorem leaveRoom_of_not_member
    (hmember : store.rooms.participantInRoom participantId roomCode = false) :
    ∃ error, RoomService.leaveRoom roomCode participantId store =
      (some (.error error), store.advance store.rooms) := by
  cases hslot : store.rooms.lookup roomCode with
  | none =>
      by_cases hbefore : store.nextFault = .beforeUpdater
      · exact ⟨buildInternalError, by
          simp [RoomService.leaveRoom, Repository.update, Rooms.update, hbefore,
            RoomService.afterLeaveUpdate]⟩
      · exact ⟨buildRoomNotFoundError, by
          simp [RoomService.leaveRoom, Repository.update, Rooms.update, hbefore, hslot,
            RoomService.afterLeaveUpdate]⟩
  | some room =>
      have hout : room.hasParticipant participantId = false := by
        simpa [Rooms.participantInRoom, hslot] using hmember
      have hremove := Room.removeParticipant_of_not_member hout
      cases hfault : store.nextFault with
      | beforeUpdater =>
          exact ⟨buildInternalError, by
            simp [RoomService.leaveRoom, Repository.update, Rooms.update, hfault,
              RoomService.afterLeaveUpdate]⟩
      | _ =>
          exact ⟨buildNotInRoomError, by
            simp [RoomService.leaveRoom, Repository.update, Rooms.update, hfault, hslot,
              RoomService.leaveUpdater, hremove, RoomService.afterLeaveUpdate]⟩

/-- `Update` threw before its updater ran: there is no leave result, hence an internal error. -/
theorem leaveRoom_of_beforeUpdater (hfault : store.nextFault = .beforeUpdater) :
    RoomService.leaveRoom roomCode participantId store =
      (some (.error buildInternalError), store.advance store.rooms) := by
  simp [RoomService.leaveRoom, Repository.update, Rooms.update, hfault,
    RoomService.afterLeaveUpdate]

/-- The end of a leave whose local says `Left`. -/
def finishLeave (left : ParticipantLeftRoom) : Throwing Store ParticipantLeftRoomResult :=
  fun store =>
    match Repository.removeIfEmpty left.roomCode store with
    | (none, after) => (some (.error buildInternalError), after)
    | (some _, after) => (some (.ok left), after)

theorem finishLeave_of_throw {left : ParticipantLeftRoom} (rooms : Rooms)
    (hsecond : secondFault store ≠ .none) :
    finishLeave left (store.advance rooms) =
      (some (.error buildInternalError), (store.advance rooms).advance rooms) := by
  have hfault : (store.advance rooms).nextFault ≠ .none := hsecond
  simp only [finishLeave, Repository.removeIfEmpty, Repository.call, if_neg hfault]
  rfl

theorem finishLeave_of_return {left : ParticipantLeftRoom} (rooms : Rooms)
    (hsecond : secondFault store = .none) :
    finishLeave left (store.advance rooms) =
      (some (.ok left), (store.advance rooms).advance (rooms.removeIfEmpty left.roomCode).2) := by
  have hfault : (store.advance rooms).nextFault = .none := hsecond
  simp only [finishLeave, Repository.removeIfEmpty, Repository.call, if_pos hfault]
  rfl

/-- `Update` threw after its updater removed the participant from the copy.  The copy is gone, but
the local says `Left`, so the call goes on to `RemoveIfEmpty` as if the leave were committed. -/
theorem leaveRoom_of_late_throw {room : Room} (hslot : store.rooms.lookup roomCode = some room)
    (hmember : room.hasParticipant participantId = true)
    (hbefore : store.nextFault ≠ .beforeUpdater) (hsome : store.nextFault ≠ .none) :
    ∃ remaining, RoomService.leaveRoom roomCode participantId store =
      finishLeave ⟨roomCode, participantId, remaining⟩ (store.advance store.rooms) := by
  have hremove := Room.removeParticipant_of_member hmember
  cases hfault : store.nextFault with
  | none => exact absurd hfault hsome
  | beforeUpdater => exact absurd hfault hbefore
  | insideUpdater =>
      refine ⟨[], ?_⟩
      simp only [RoomService.leaveRoom, Repository.update, Rooms.update, hfault, hslot,
        RoomService.leaveUpdater, hremove]
      rfl
  | afterUpdater =>
      refine ⟨(room.without participantId).participants, ?_⟩
      simp only [RoomService.leaveRoom, Repository.update, Rooms.update, hfault, hslot,
        RoomService.leaveUpdater, hremove]
      rfl

/-- `Update` committed the removal. -/
theorem leaveRoom_of_commit {room : Room} (hslot : store.rooms.lookup roomCode = some room)
    (hmember : room.hasParticipant participantId = true) (hfault : store.nextFault = .none) :
    RoomService.leaveRoom roomCode participantId store =
      finishLeave ⟨roomCode, participantId, (room.without participantId).participants⟩
        (store.advance (store.rooms.insert roomCode (room.without participantId))) := by
  have hupdate := Rooms.update_of_commit hslot
    (RoomService.leaveUpdater_of_member hmember ⟨none, []⟩)
  simp only [RoomService.leaveRoom, Repository.update, hfault, hupdate]
  rfl

/-- A committed removal takes the participant out of the stored room. -/
theorem participantInRoom_insert_without (rooms : Rooms) (room : Room) :
    Rooms.participantInRoom (rooms.insert roomCode (room.without participantId)) participantId
      roomCode = false := by
  rw [Rooms.participantInRoom, Rooms.lookup_insert_eq, if_pos rfl]
  simp [Room.hasParticipant_without]

/-- Cleaning up never brings a participant back. -/
theorem participantInRoom_removeIfEmpty {rooms : Rooms}
    (hout : rooms.participantInRoom participantId roomCode = false) :
    (rooms.removeIfEmpty roomCode).2.participantInRoom participantId roomCode = false := by
  unfold Rooms.removeIfEmpty
  split
  · exact hout
  · split_ifs
    · rw [Rooms.participantInRoom, Rooms.lookup_erase_eq, if_pos rfl]
    · exact hout

/-- A room with somebody in it is not cleaned up. -/
theorem removeIfEmpty_of_member {rooms : Rooms}
    (hin : rooms.participantInRoom participantId roomCode = true) :
    (rooms.removeIfEmpty roomCode).2 = rooms := by
  obtain ⟨room, hslot, hmember⟩ := (Rooms.participantInRoom_iff _ _ _).mp hin
  have hoccupied : room.participants ≠ [] := by
    obtain ⟨participant, hlisted, -⟩ := (Room.hasParticipant_iff room participantId).mp hmember
    exact List.ne_nil_of_mem hlisted
  rw [Rooms.removeIfEmpty_of_occupied hslot hoccupied]

end Leave

/-- **When the result of a leave can be trusted.**  It is wrong exactly when the participant is in
the room and either `Update` throws after its updater removed the participant and `RemoveIfEmpty`
returns (a success is reported, nothing has changed), or `Update` commits and `RemoveIfEmpty`
throws (an error is reported, the participant is gone). -/
theorem leaveRoom_truthful_iff (roomCode : RoomCode) (participantId : ParticipantId)
    (store : Store) :
    LeaveTruthful roomCode participantId store ↔
      (store.rooms.participantInRoom participantId roomCode = true →
        store.nextFault = .beforeUpdater ∨
          (store.nextFault = .none ↔ secondFault store = .none)) := by
  cases hin : store.rooms.participantInRoom participantId roomCode with
  | false =>
      obtain ⟨error, hleave⟩ := leaveRoom_of_not_member hin
      rw [leaveTruthful_of_error hleave]
      exact ⟨fun _ hmember => absurd hmember Bool.false_ne_true, fun _ => rfl⟩
  | true =>
      obtain ⟨room, hslot, hmember⟩ := (Rooms.participantInRoom_iff _ _ _).mp hin
      simp only [true_implies]
      by_cases hbefore : store.nextFault = .beforeUpdater
      · rw [leaveTruthful_of_error (leaveRoom_of_beforeUpdater hbefore)]
        exact ⟨fun _ => Or.inl hbefore, fun _ => rfl⟩
      by_cases hnone : store.nextFault = .none
      · -- `Update` commits, so the result has to be a success.
        have hgone : Rooms.participantInRoom (store.rooms.insert roomCode
            (room.without participantId)) participantId roomCode = false :=
          participantInRoom_insert_without store.rooms room
        have hleave := leaveRoom_of_commit hslot hmember hnone
        by_cases hsecond : secondFault store = .none
        · rw [finishLeave_of_return _ hsecond] at hleave
          rw [leaveTruthful_of_ok hleave]
          refine ⟨fun _ => Or.inr ⟨fun _ => hsecond, fun _ => hnone⟩, fun _ => ⟨hin, ?_⟩⟩
          exact participantInRoom_removeIfEmpty hgone
        · rw [finishLeave_of_throw _ hsecond] at hleave
          rw [leaveTruthful_of_error hleave]
          constructor
          · intro hkeep
            change Finmap.insert roomCode (room.without participantId) store.rooms =
              store.rooms at hkeep
            rw [hkeep, hin] at hgone
            cases hgone
          · rintro (hplan | hplan)
            · exact absurd hplan hbefore
            · exact absurd (hplan.mp hnone) hsecond
      · -- `Update` throws with `Left` in the local: the table is as it was.
        obtain ⟨remaining, hleave⟩ := leaveRoom_of_late_throw hslot hmember hbefore hnone
        by_cases hsecond : secondFault store = .none
        · rw [finishLeave_of_return _ hsecond] at hleave
          rw [leaveTruthful_of_ok hleave]
          constructor
          · rintro ⟨-, hout⟩
            have hstill : (store.rooms.removeIfEmpty roomCode).2.participantInRoom participantId
                roomCode = false := hout
            rw [removeIfEmpty_of_member hin, hin] at hstill
            cases hstill
          · rintro (hplan | hplan)
            · exact absurd hplan hbefore
            · exact absurd (hplan.mpr hsecond) hnone
        · rw [finishLeave_of_throw _ hsecond] at hleave
          rw [leaveTruthful_of_error hleave]
          refine ⟨fun _ => Or.inr ⟨fun hfirst => absurd hfirst hnone, fun hlast => ?_⟩,
            fun _ => rfl⟩
          exact absurd hlast hsecond

/-- The last member of a room leaves, and `Update` throws while the remaining participants are
copied: the leave is reported as a success, and the participant is still stored. -/
theorem leave_reported_but_not_done :
    ¬ LeaveTruthful "000000" "p_1"
      ⟨(∅ : Rooms).insert "000000" ⟨"000000", none, [⟨"p_1", "Ann"⟩]⟩, [.insideUpdater]⟩ := by
  rw [LeaveTruthful]
  rintro ⟨result, after, hleave, hok, -⟩
  obtain ⟨hresult, rfl⟩ := Prod.mk.inj hleave
  have hgone := (hok ⟨⟨"000000", "p_1", []⟩, (Option.some.inj hresult).symm⟩).2
  revert hgone
  decide

end App
end BuzzWeb
