import BuzzWeb.App.FaultPoints

/-!
# A commit that throws

`Update` commits with `room->second = std::move(updated_room)`.  `Room` and `Participant` declare their
destructors, so neither has a move assignment, and this is a copy: of the members one after the other,
and of the participants one after the other, each with a store of its id and one of its name.  A store
that cannot allocate throws, and leaves what was stored before it.

* `Room.assignStates` lists what a throw can leave of the stored room, in the order of the stores; all
  those that build new elements leave the same and count as one.
* A join only appends, so each of these states is the room as it was (`assignStates_append`).
* A leave moves everybody behind the leaver up by one.  As soon as the leaver's element is written
  over, whoever is moving up is listed twice (`leaveStates`).
* `torn_commit` says what the two service calls make of it.

The planned faults of `BuzzWeb.Domain.RoomRepository` end where this module starts: they leave the room
as a throw of the first store does (`Rooms.updateTorn_zero`).
-/

namespace BuzzWeb
namespace Domain

/-! ## The copy assignment, store by store -/

/-- What a throw can leave of the elements while `copy` is assigned to them: an element is still the
old one, or it has its new id and its old name. -/
def elementStates : List Participant → List Participant → List (List Participant)
  | target :: stored, source :: copy =>
      (target :: stored) :: (⟨source.id, target.name⟩ :: stored) ::
        (elementStates stored copy).map fun rest => source :: rest
  | _, _ => []

/-- `std::vector::operator=`.  A copy beyond the capacity is built elsewhere first; any other one is
assigned to the elements, and what it has more is constructed behind them. -/
def vectorStates (capacity : Nat) (stored copy : List Participant) : List (List Participant) :=
  if capacity < copy.length then [stored]
  else if stored.length < copy.length then elementStates stored copy ++ [copy.take stored.length]
  else elementStates stored copy

/-- `Room::operator=`: the code, the secret, the participants. -/
def Room.assignStates (capacity : Nat) (stored copy : Room) : List Room :=
  stored :: { stored with code := copy.code } ::
    (vectorStates capacity stored.participants copy.participants).map fun participants =>
      ⟨copy.code, copy.roomSecret, participants⟩

/-- `Update` when the store number `point` of its commit throws, if the commit has that many.  The
capacity is the one of the stored vector. -/
def Rooms.updateTorn {σ : Type} (capacity point : Nat) (rooms : Rooms) (roomCode : RoomCode)
    (updater : Updater σ) (locals : σ) : Option UpdateRoomResult × σ × Rooms :=
  match rooms.lookup roomCode with
  | none => (some .notFound, locals, rooms)
  | some room =>
      match updater false room locals with
      | (none, locals', _) => (none, locals', rooms)
      | (some .abort, locals', _) => (some .aborted, locals', rooms)
      | (some .commit, locals', updatedRoom) =>
          match (room.assignStates capacity updatedRoom)[point]? with
          | some torn => (none, locals', rooms.insert roomCode torn)
          | none => (some .updated, locals', rooms.insert roomCode updatedRoom)

namespace Rooms

variable {σ : Type} {rooms : Rooms} {roomCode : RoomCode} {room copy : Room} {updater : Updater σ}
  {locals locals' : σ}

theorem updateTorn_of_throw {capacity point : Nat} {torn : Room}
    (hstored : rooms.lookup roomCode = some room)
    (hcommit : updater false room locals = (some .commit, locals', copy))
    (htorn : (room.assignStates capacity copy)[point]? = some torn) :
    rooms.updateTorn capacity point roomCode updater locals =
      (none, locals', rooms.insert roomCode torn) := by
  simp only [updateTorn, hstored, hcommit, htorn]

/-- Storing what is stored already. -/
theorem insert_of_lookup (hstored : rooms.lookup roomCode = some room) :
    rooms.insert roomCode room = rooms := by
  apply Finmap.ext_lookup
  intro other
  rw [lookup_insert_eq]
  split_ifs with hsame
  · rw [hsame, hstored]
  · rfl

/-- Behind its last store the commit does not throw: this is the ordinary `Update`. -/
theorem updateTorn_of_length_le {capacity point : Nat}
    (hstored : rooms.lookup roomCode = some room)
    (hcommit : updater false room locals = (some .commit, locals', copy))
    (hpoint : (room.assignStates capacity copy).length ≤ point) :
    rooms.updateTorn capacity point roomCode updater locals =
      rooms.update roomCode updater locals .none := by
  rw [update_of_commit hstored hcommit]
  simp only [updateTorn, hstored, hcommit, List.getElem?_eq_none hpoint]

/-- When the first store throws, nothing has happened since the updater returned. -/
theorem updateTorn_zero (capacity : Nat) (hstored : rooms.lookup roomCode = some room)
    (hcommit : updater false room locals = (some .commit, locals', copy)) :
    rooms.updateTorn capacity 0 roomCode updater locals =
      rooms.update roomCode updater locals .afterUpdater := by
  rw [updateTorn_of_throw hstored hcommit rfl, insert_of_lookup hstored]
  simp [update, hstored, hcommit]

end Rooms

/-! ## A join -/

theorem elementStates_append (stored more : List Participant) :
    ∀ state ∈ elementStates stored (stored ++ more), state = stored := by
  induction stored with
  | nil =>
      intro state hmem
      cases hmem
  | cons target stored ih =>
      intro state hmem
      simp only [List.cons_append, elementStates, List.mem_cons, List.mem_map] at hmem
      rcases hmem with rfl | rfl | ⟨rest, hrest, rfl⟩
      · rfl
      · rfl
      · rw [ih rest hrest]

/-- Whatever a throw leaves of an append is the room as it was. -/
theorem Room.assignStates_append (capacity : Nat) (room : Room) (participant : Participant) :
    ∀ torn ∈ room.assignStates capacity (room.append participant), torn = room := by
  intro torn hmem
  have hvector : ∀ state ∈ vectorStates capacity room.participants
      (room.append participant).participants, state = room.participants := by
    intro state hstate
    rw [append_participants, vectorStates] at hstate
    split_ifs at hstate with hcapacity hlonger
    · exact List.mem_singleton.mp hstate
    · rcases List.mem_append.mp hstate with hassigned | hconstructed
      · exact elementStates_append room.participants [participant] state hassigned
      · rw [List.mem_singleton.mp hconstructed, List.take_left]
    · exact elementStates_append room.participants [participant] state hstate
  simp only [assignStates, List.mem_cons, List.mem_map] at hmem
  rcases hmem with rfl | rfl | ⟨state, hstate, rfl⟩
  · rfl
  · rfl
  · rw [hvector state hstate]
    rfl

/-! ## A leave -/

/-- The list of ids. -/
abbrev idsOf (participants : List Participant) : List ParticipantId :=
  participants.map Participant.id

theorem Room.hasParticipant_iff_mem_idsOf (room : Room) (participantId : ParticipantId) :
    room.hasParticipant participantId = true ↔ participantId ∈ idsOf room.participants := by
  rw [hasParticipant_iff, List.mem_map]

/-- Everybody moves up over the first element: nothing has happened yet, or the first id is gone and
somebody is listed twice. -/
theorem shiftStates (first : Participant) (rest : List Participant) (point : Nat)
    (state : List Participant)
    (hstate : (elementStates (first :: rest) rest)[point]? = some state) :
    (point = 0 ∧ state = first :: rest) ∨
      (0 < point ∧ (∀ id, id ∈ idsOf state ↔ id ∈ idsOf rest) ∧ ¬ (idsOf state).Nodup) := by
  -- The induction follows the copy: its next element becomes the one that is moved up over.
  induction rest generalizing first point state with
  | nil => simp [elementStates] at hstate
  | cons next rest ih =>
      match point with
      | 0 =>
          have hsame : first :: next :: rest = state := by
            simpa [elementStates] using hstate
          exact Or.inl ⟨rfl, hsame.symm⟩
      | 1 =>
          have hsame : ⟨next.id, first.name⟩ :: next :: rest = state := by
            simpa [elementStates] using hstate
          subst hsame
          refine Or.inr ⟨by omega, ?_, ?_⟩
          · intro id
            simp
          · simp
      | point + 2 =>
          have hmapped : ((elementStates (next :: rest) rest)[point]?).map
              (fun rest => next :: rest) = some state := by
            simpa [elementStates] using hstate
          obtain ⟨state', hstate', rfl⟩ := Option.map_eq_some_iff.mp hmapped
          refine Or.inr ⟨by omega, ?_⟩
          rcases ih next point state' hstate' with ⟨-, rfl⟩ | ⟨-, hids, hrepeated⟩
          · constructor
            · intro id
              simp
            · simp
          · constructor
            · intro id
              have hid := hids id
              simp only [idsOf, List.map_cons, List.mem_cons] at hid ⊢
              rw [hid]
            · intro hnodup
              exact hrepeated (List.nodup_cons.mp hnodup).2

/-- The place of the participant in the list. -/
def placeOf (participantId : ParticipantId) (participants : List Participant) : Nat :=
  participants.findIdx fun participant => participant.id == participantId

/-- The elements of a list with distinct ids while one of them is taken out: up to the id of the
leaver nothing has changed; from there on the leaver is gone, and somebody else is listed twice. -/
theorem leaveStates (participantId : ParticipantId) (participants : List Participant)
    (hnodup : (idsOf participants).Nodup) (hmember : participantId ∈ idsOf participants)
    (point : Nat) (state : List Participant)
    (hstate : (elementStates participants (participants.filter fun participant =>
      participant.id != participantId))[point]? = some state) :
    (point ≤ 2 * placeOf participantId participants ∧ state = participants) ∨
      (2 * placeOf participantId participants < point ∧
        (∀ id, id ∈ idsOf state ↔ id ∈ idsOf participants ∧ id ≠ participantId) ∧
        ¬ (idsOf state).Nodup) := by
  induction participants generalizing point state with
  | nil => cases hmember
  | cons target rest ih =>
      obtain ⟨hfirst, hrest⟩ := List.nodup_cons.mp hnodup
      by_cases htarget : target.id = participantId
      · -- The leaver: the ids behind it are distinct from its own, so the copy is the rest.
        subst htarget
        have hfilter : (target :: rest).filter (fun participant => participant.id != target.id) =
            rest := by
          rw [List.filter_cons_of_neg (by simp), List.filter_eq_self]
          intro participant hmem
          have hne : participant.id ≠ target.id := by
            intro hsame
            exact hfirst (hsame ▸ List.mem_map_of_mem hmem)
          simpa using hne
        have hplace : placeOf target.id (target :: rest) = 0 := by
          simp [placeOf, List.findIdx_cons]
        rw [hfilter] at hstate
        rw [hplace]
        rcases shiftStates target rest point state hstate with ⟨rfl, rfl⟩ | ⟨hpoint, hids, hrepeated⟩
        · exact Or.inl ⟨by omega, rfl⟩
        · refine Or.inr ⟨by omega, ?_, hrepeated⟩
          intro id
          rw [hids]
          simp only [idsOf, List.map_cons, List.mem_cons] at hfirst ⊢
          constructor
          · intro hid
            refine ⟨Or.inr hid, ?_⟩
            rintro rfl
            exact hfirst hid
          · rintro ⟨hsame | hid, hne⟩
            · exact absurd hsame hne
            · exact hid
      · -- Somebody in front of the leaver is assigned to itself.
        have hmember' : participantId ∈ idsOf rest := by
          rcases List.mem_cons.mp hmember with hsame | hbehind
          · exact absurd hsame.symm htarget
          · exact hbehind
        have hplace : placeOf participantId (target :: rest) = placeOf participantId rest + 1 := by
          have hbeq : (target.id == participantId) = false := by
            simpa using htarget
          simp [placeOf, List.findIdx_cons, hbeq]
        rw [List.filter_cons_of_pos (by simpa using htarget)] at hstate
        rw [hplace]
        match point with
        | 0 =>
            have hsame : target :: rest = state := by
              simpa [elementStates] using hstate
            exact Or.inl ⟨by omega, hsame.symm⟩
        | 1 =>
            have hsame : target :: rest = state := by
              simpa [elementStates] using hstate
            exact Or.inl ⟨by omega, hsame.symm⟩
        | point + 2 =>
            have hmapped : ((elementStates rest (rest.filter fun participant =>
                participant.id != participantId))[point]?).map (fun rest => target :: rest) =
                some state := by
              simpa [elementStates] using hstate
            obtain ⟨state', hstate', rfl⟩ := Option.map_eq_some_iff.mp hmapped
            rcases ih hrest hmember' point state' hstate' with ⟨hpoint, rfl⟩ |
              ⟨hpoint, hids, hrepeated⟩
            · exact Or.inl ⟨by omega, rfl⟩
            · refine Or.inr ⟨by omega, ?_, ?_⟩
              · intro id
                have hid := hids id
                simp only [idsOf, List.map_cons, List.mem_cons] at hid ⊢
                rw [hid]
                constructor
                · rintro (rfl | ⟨hbehind, hne⟩)
                  · exact ⟨Or.inl rfl, htarget⟩
                  · exact ⟨Or.inr hbehind, hne⟩
                · rintro ⟨rfl | hbehind, hne⟩
                  · exact Or.inl rfl
                  · exact Or.inr ⟨hbehind, hne⟩
              · intro hdistinct
                exact hrepeated (List.nodup_cons.mp hdistinct).2

/-- What a throw at this point leaves of a room with distinct ids when one of its members leaves.
The id of the leaver is store number `2 + 2 * placeOf`, behind the code and the secret. -/
structure TornLeave (participantId : ParticipantId) (point : Nat) (room torn : Room) : Prop where
  code : torn.code = room.code
  roomSecret : torn.roomSecret = room.roomSecret
  untouched : point ≤ 2 + 2 * placeOf participantId room.participants → torn = room
  membership : 2 + 2 * placeOf participantId room.participants < point →
    ∀ id, torn.hasParticipant id = (room.without participantId).hasParticipant id
  repeated : 2 + 2 * placeOf participantId room.participants < point →
    ¬ (idsOf torn.participants).Nodup

/-- A throw that leaves the room as it was. -/
theorem TornLeave.of_untouched {participantId : ParticipantId} {point : Nat} {room : Room}
    (hpoint : point ≤ 2 + 2 * placeOf participantId room.participants) :
    TornLeave participantId point room room where
  code := rfl
  roomSecret := rfl
  untouched := fun _ => rfl
  membership := by
    intro hbehind
    omega
  repeated := by
    intro hbehind
    omega

/-- The states of the elements of a vector assignment are the only ones, whatever the capacity: a
leave never makes the vector longer. -/
theorem vectorStates_leave {capacity point : Nat} {participantId : ParticipantId}
    {participants state : List Participant}
    (hstate : (vectorStates capacity participants (participants.filter fun participant =>
      participant.id != participantId))[point]? = some state) :
    point = 0 ∧ state = participants ∨
      (elementStates participants (participants.filter fun participant =>
        participant.id != participantId))[point]? = some state := by
  have hshorter : (participants.filter fun participant =>
      participant.id != participantId).length ≤ participants.length :=
    List.length_filter_le _ _
  unfold vectorStates at hstate
  split_ifs at hstate with hcapacity hlonger
  · left
    match point with
    | 0 =>
        have hsame : participants = state := by
          simpa using hstate
        exact ⟨rfl, hsame.symm⟩
    | point + 1 => simp at hstate
  · omega
  · right
    exact hstate

/-- Whatever a throw leaves of a leave. -/
theorem Room.assignStates_without {capacity point : Nat} {participantId : ParticipantId}
    {room torn : Room} (hnodup : (idsOf room.participants).Nodup)
    (hmember : room.hasParticipant participantId = true)
    (htorn : (room.assignStates capacity (room.without participantId))[point]? = some torn) :
    TornLeave participantId point room torn := by
  match point with
  | 0 =>
      obtain rfl : room = torn := by
        simpa [assignStates] using htorn
      exact TornLeave.of_untouched (by omega)
  | 1 =>
      obtain rfl : room = torn := by
        simpa [assignStates, Room.without] using htorn
      exact TornLeave.of_untouched (by omega)
  | point + 2 =>
      have hmapped : ((vectorStates capacity room.participants
          (room.without participantId).participants)[point]?).map
            (fun participants => ⟨room.code, room.roomSecret, participants⟩) = some torn := by
        simpa [assignStates, Room.without] using htorn
      obtain ⟨state, hstate, rfl⟩ := Option.map_eq_some_iff.mp hmapped
      have hlisted : participantId ∈ idsOf room.participants :=
        (hasParticipant_iff_mem_idsOf room participantId).mp hmember
      have hcases : (point ≤ 2 * placeOf participantId room.participants ∧
            state = room.participants) ∨
          (2 * placeOf participantId room.participants < point ∧
            (∀ id, id ∈ idsOf state ↔ id ∈ idsOf room.participants ∧ id ≠ participantId) ∧
            ¬ (idsOf state).Nodup) := by
        rcases vectorStates_leave hstate with ⟨rfl, rfl⟩ | helements
        · exact Or.inl ⟨by omega, rfl⟩
        · exact leaveStates participantId room.participants hnodup hlisted point state helements
      rcases hcases with ⟨hpoint, rfl⟩ | ⟨hpoint, hids, hrepeated⟩
      · exact TornLeave.of_untouched (by omega)
      · refine ⟨rfl, rfl, ?_, ?_, fun _ => hrepeated⟩
        · intro hbefore
          omega
        · intro _ id
          rw [Bool.eq_iff_iff, hasParticipant_iff_mem_idsOf, hasParticipant_without,
            Bool.and_eq_true, hasParticipant_iff_mem_idsOf, bne_iff_ne]
          exact hids id

/-- Somebody is still listed, so `RemoveIfEmpty` keeps the room. -/
theorem TornLeave.participants_ne_nil {participantId : ParticipantId} {point : Nat}
    {room torn : Room} (htorn : TornLeave participantId point room torn)
    (hmember : room.hasParticipant participantId = true) : torn.participants ≠ [] := by
  intro hempty
  rcases Nat.lt_or_ge (2 + 2 * placeOf participantId room.participants) point with hbehind | hbefore
  · apply htorn.repeated hbehind
    rw [hempty]
    exact List.nodup_nil
  · have hlisted := (Room.hasParticipant_iff_mem_idsOf room participantId).mp hmember
    rw [← htorn.untouched hbefore, hempty] at hlisted
    cases hlisted

end Domain

namespace App

open Domain

/-! ## The two service calls -/

/-- `JoinRoom` when the store number `point` of its commit throws. -/
def joinRoomTorn (capacity point : Nat) (roomCode : RoomCode) (participant : Participant)
    (passwordHash : Option RoomSecret) : Throwing Store ParticipantJoinedRoomResult := fun store =>
  let (repositoryResult, locals, rooms) := store.rooms.updateTorn capacity point roomCode
    (RoomService.joinUpdater participant passwordHash) ⟨none, []⟩
  (some (RoomService.finishJoin roomCode participant repositoryResult locals), store.advance rooms)

/-- `LeaveRoom` when the store number `point` of its commit throws. -/
def leaveRoomTorn (capacity point : Nat) (roomCode : RoomCode) (participantId : ParticipantId) :
    Throwing Store ParticipantLeftRoomResult := fun store =>
  let (repositoryResult, locals, rooms) := store.rooms.updateTorn capacity point roomCode
    (RoomService.leaveUpdater participantId) ⟨none, []⟩
  match RoomService.afterLeaveUpdate repositoryResult locals with
  | some result => (some result, store.advance rooms)
  | none => finishLeave ⟨roomCode, participantId, locals.remainingParticipants⟩
      (store.advance rooms)

section Calls

variable {capacity point : Nat} {roomCode : RoomCode} {store : Store} {room torn : Room}

/-- Behind the last store of the commit a join is the ordinary one. -/
theorem joinRoomTorn_of_length_le {participant : Participant} {password : Option RoomSecret}
    (hstored : store.rooms.lookup roomCode = some room) (hadmits : room.Admits participant password)
    (hfault : store.nextFault = .none)
    (hpoint : (room.assignStates capacity (room.append participant)).length ≤ point) :
    joinRoomTorn capacity point roomCode participant password store =
      RoomService.joinRoom roomCode participant password store := by
  have hupdate := Rooms.updateTorn_of_length_le hstored
    (RoomService.joinUpdater_of_admits hadmits ⟨none, []⟩) hpoint
  simp only [joinRoomTorn, RoomService.joinRoom, Repository.update, hfault, hupdate]

/-- So is a leave. -/
theorem leaveRoomTorn_of_length_le {participantId : ParticipantId}
    (hstored : store.rooms.lookup roomCode = some room)
    (hmember : room.hasParticipant participantId = true) (hfault : store.nextFault = .none)
    (hpoint : (room.assignStates capacity (room.without participantId)).length ≤ point) :
    leaveRoomTorn capacity point roomCode participantId store =
      RoomService.leaveRoom roomCode participantId store := by
  have hupdate := Rooms.updateTorn_of_length_le hstored
    (RoomService.leaveUpdater_of_member hmember ⟨none, []⟩) hpoint
  simp only [leaveRoomTorn, RoomService.leaveRoom, Repository.update, hfault, hupdate]
  rfl

/-- A join whose commit throws is an internal error, and changes nothing. -/
theorem joinRoomTorn_of_throw {participant : Participant} {password : Option RoomSecret}
    (hstored : store.rooms.lookup roomCode = some room) (hadmits : room.Admits participant password)
    (htorn : (room.assignStates capacity (room.append participant))[point]? = some torn) :
    joinRoomTorn capacity point roomCode participant password store =
      (some (.error buildInternalError), store.advance store.rooms) := by
  have hsame : torn = room :=
    Room.assignStates_append capacity room participant torn (List.mem_of_getElem? htorn)
  have hupdate := Rooms.updateTorn_of_throw hstored
    (RoomService.joinUpdater_of_admits hadmits ⟨none, []⟩) htorn
  rw [hsame, Rooms.insert_of_lookup hstored] at hupdate
  simp only [joinRoomTorn, hupdate]
  rfl

/-- A leave whose commit throws goes on to `RemoveIfEmpty` over what the commit has left. -/
theorem leaveRoomTorn_of_throw {participantId : ParticipantId}
    (hstored : store.rooms.lookup roomCode = some room)
    (hmember : room.hasParticipant participantId = true)
    (htorn : (room.assignStates capacity (room.without participantId))[point]? = some torn) :
    leaveRoomTorn capacity point roomCode participantId store =
      finishLeave ⟨roomCode, participantId, (room.without participantId).participants⟩
        (store.advance (store.rooms.insert roomCode torn)) := by
  have hupdate := Rooms.updateTorn_of_throw hstored
    (RoomService.leaveUpdater_of_member hmember ⟨none, []⟩) htorn
  simp only [leaveRoomTorn, hupdate]
  rfl

end Calls

/-- **A commit that throws.**  A join whose commit throws, at whichever store, is an internal error,
and nothing has changed.  A leave whose commit throws reports a success all the same, unless
`RemoveIfEmpty` throws too.  Up to the id of the leaver the stored room is as it was, and the leaver
in it.  From there on the leaver is out and everybody else is in, but somebody is listed twice, and
the room is kept with that list.  Behind the last store both are the ordinary calls. -/
theorem torn_commit (capacity point : Nat) (roomCode : RoomCode) (store : Store) (room : Room)
    (hstored : store.rooms.lookup roomCode = some room) :
    (∀ participant password, room.Admits participant password →
      (point < (room.assignStates capacity (room.append participant)).length →
        joinRoomTorn capacity point roomCode participant password store =
          (some (.error buildInternalError), store.advance store.rooms)) ∧
      ((room.assignStates capacity (room.append participant)).length ≤ point →
        store.nextFault = .none →
        joinRoomTorn capacity point roomCode participant password store =
          RoomService.joinRoom roomCode participant password store)) ∧
    (∀ participantId, room.hasParticipant participantId = true →
      (idsOf room.participants).Nodup →
      (point < (room.assignStates capacity (room.without participantId)).length →
        ∃ torn, TornLeave participantId point room torn ∧
          leaveRoomTorn capacity point roomCode participantId store =
            (some (if secondFault store = .none then
                .ok ⟨roomCode, participantId, (room.without participantId).participants⟩
              else .error buildInternalError),
              ⟨store.rooms.insert roomCode torn, store.faults.tail.tail⟩)) ∧
      ((room.assignStates capacity (room.without participantId)).length ≤ point →
        store.nextFault = .none →
        leaveRoomTorn capacity point roomCode participantId store =
          RoomService.leaveRoom roomCode participantId store)) := by
  constructor
  · intro participant password hadmits
    constructor
    · intro hpoint
      exact joinRoomTorn_of_throw hstored hadmits (List.getElem?_eq_getElem hpoint)
    · intro hpoint hfault
      exact joinRoomTorn_of_length_le hstored hadmits hfault hpoint
  · intro participantId hmember hnodup
    refine ⟨?_, fun hpoint hfault => leaveRoomTorn_of_length_le hstored hmember hfault hpoint⟩
    intro hpoint
    have hget := List.getElem?_eq_getElem hpoint
    have htorn := Room.assignStates_without hnodup hmember hget
    refine ⟨_, htorn, ?_⟩
    rw [leaveRoomTorn_of_throw hstored hmember hget]
    by_cases hsecond : secondFault store = .none
    · have hoccupied := Rooms.removeIfEmpty_of_occupied
        (Finmap.lookup_insert (a := roomCode) store.rooms) (htorn.participants_ne_nil hmember)
      rw [finishLeave_of_return _ hsecond, if_pos hsecond, hoccupied]
      rfl
    · rw [finishLeave_of_throw _ hsecond, if_neg hsecond]
      rfl

/-- Three members. -/
def threeMembers : Room :=
  ⟨"000000", none, [⟨"p_1", "Ann"⟩, ⟨"p_2", "Bob"⟩, ⟨"p_3", "Cem"⟩]⟩

/-- The first of them leaves, and the commit throws when the third is to move up: the second is stored
twice, and the leave is reported as a success. -/
theorem second_listed_twice :
    (threeMembers.assignStates 4 (threeMembers.without "p_1"))[4]? =
        some ⟨"000000", none, [⟨"p_2", "Bob"⟩, ⟨"p_2", "Bob"⟩, ⟨"p_3", "Cem"⟩]⟩ ∧
      joinRoomTorn 4 4 "000000" ⟨"p_4", "Dee"⟩ none
          (Store.quiet ((∅ : Rooms).insert "000000" threeMembers)) =
        (some (.error buildInternalError),
          Store.quiet ((∅ : Rooms).insert "000000" threeMembers)) ∧
      ∃ torn, TornLeave "p_1" 4 threeMembers torn ∧
        leaveRoomTorn 4 4 "000000" "p_1" (Store.quiet ((∅ : Rooms).insert "000000" threeMembers)) =
          (some (.ok ⟨"000000", "p_1", [⟨"p_2", "Bob"⟩, ⟨"p_3", "Cem"⟩]⟩),
            Store.quiet (((∅ : Rooms).insert "000000" threeMembers).insert "000000" torn)) := by
  have hcommit := torn_commit 4 4 "000000"
    (Store.quiet ((∅ : Rooms).insert "000000" threeMembers)) threeMembers rfl
  refine ⟨by decide, ?_, ?_⟩
  · exact (hcommit.1 ⟨"p_4", "Dee"⟩ none (by decide)).1 (by decide)
  · exact (hcommit.2 "p_1" (by decide) (by decide)).1 (by decide)

end App
end BuzzWeb
