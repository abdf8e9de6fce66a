import Mathlib.Data.List.Nodup
import BuzzWeb.Library.Json

/-!
# Participants and rooms

The domain value objects (`domain/Participant`, `domain/Room`).  A room is a plain value here as in
the source: nothing in the type keeps two participants from having the same id, or ties a room to
the key it is stored under.  Those are laws of the store, proved over its runs.
-/

namespace BuzzWeb
namespace Domain

abbrev ParticipantId := String
abbrev RoomCode := String
abbrev RoomSecret := String

structure Participant where
  id : ParticipantId
  name : String
deriving DecidableEq, Repr

inductive JoinRoomResult where
  | joined
  | invalidSecret
  | secretNotProvided
  | alreadyInRoom
deriving DecidableEq, Repr

inductive LeaveRoomResult where
  | left
  | notInRoom
deriving DecidableEq, Repr

structure Room where
  code : RoomCode
  roomSecret : Option RoomSecret
  participants : List Participant
deriving DecidableEq, Repr

namespace Room

/-- The constructor of the source: a room starts without participants. -/
def create (code : RoomCode) (roomSecret : Option RoomSecret) : Room :=
  ⟨code, roomSecret, []⟩

def isEmpty (room : Room) : Bool :=
  room.participants.isEmpty

def hasParticipant (room : Room) (participantId : ParticipantId) : Bool :=
  room.participants.any fun participant => participant.id == participantId

def getParticipants (room : Room) : List Participant :=
  room.participants

/-- The membership test comes first, then the secret.  A room without a secret ignores the given
one. -/
def tryAddParticipant (room : Room) (participant : Participant) (roomSecret : Option RoomSecret) :
    JoinRoomResult × Room :=
  if room.hasParticipant participant.id then
    (.alreadyInRoom, room)
  else
    match room.roomSecret, roomSecret with
    | some _, none => (.secretNotProvided, room)
    | some secret, some given =>
        if secret ≠ given then (.invalidSecret, room)
        else (.joined, { room with participants := room.participants ++ [participant] })
    | none, _ => (.joined, { room with participants := room.participants ++ [participant] })

def removeParticipant (room : Room) (participantId : ParticipantId) : LeaveRoomResult × Room :=
  if room.hasParticipant participantId then
    (.left, { room with
      participants := room.participants.filter fun participant => participant.id != participantId })
  else
    (.notInRoom, room)

/-! ## What the operations do -/

/-- The room lets the participant in: not a member yet, and no secret or the right one. -/
def Admits (room : Room) (participant : Participant) (roomSecret : Option RoomSecret) : Prop :=
  room.hasParticipant participant.id = false ∧
    (room.roomSecret = none ∨ room.roomSecret = roomSecret)

instance (room : Room) (participant : Participant) (roomSecret : Option RoomSecret) :
    Decidable (room.Admits participant roomSecret) :=
  inferInstanceAs (Decidable (_ ∧ _))

/-- The room after the participant was appended. -/
def append (room : Room) (participant : Participant) : Room :=
  { room with participants := room.participants ++ [participant] }

/-- The room after everyone with the id was removed. -/
def without (room : Room) (participantId : ParticipantId) : Room :=
  { room with
    participants := room.participants.filter fun participant => participant.id != participantId }

@[simp] theorem append_code (room : Room) (participant : Participant) :
    (room.append participant).code = room.code := rfl

@[simp] theorem append_roomSecret (room : Room) (participant : Participant) :
    (room.append participant).roomSecret = room.roomSecret := rfl

@[simp] theorem append_participants (room : Room) (participant : Participant) :
    (room.append participant).participants = room.participants ++ [participant] := rfl

@[simp] theorem without_code (room : Room) (participantId : ParticipantId) :
    (room.without participantId).code = room.code := rfl

@[simp] theorem without_roomSecret (room : Room) (participantId : ParticipantId) :
    (room.without participantId).roomSecret = room.roomSecret := rfl

theorem without_participants (room : Room) (participantId : ParticipantId) :
    (room.without participantId).participants =
      room.participants.filter fun participant => participant.id != participantId := rfl

@[simp] theorem create_participants (code : RoomCode) (roomSecret : Option RoomSecret) :
    (create code roomSecret).participants = [] := rfl

@[simp] theorem create_roomSecret (code : RoomCode) (roomSecret : Option RoomSecret) :
    (create code roomSecret).roomSecret = roomSecret := rfl

@[simp] theorem create_code (code : RoomCode) (roomSecret : Option RoomSecret) :
    (create code roomSecret).code = code := rfl

theorem hasParticipant_iff (room : Room) (participantId : ParticipantId) :
    room.hasParticipant participantId = true ↔
      ∃ participant ∈ room.participants, participant.id = participantId := by
  simp [hasParticipant]

theorem hasParticipant_eq_false_iff (room : Room) (participantId : ParticipantId) :
    room.hasParticipant participantId = false ↔
      ∀ participant ∈ room.participants, participant.id ≠ participantId := by
  simp [hasParticipant]

theorem isEmpty_iff (room : Room) : room.isEmpty = true ↔ room.participants = [] := by
  simp [isEmpty]

/-- A fresh room has nobody in it and admits whoever names its own secret. -/
theorem create_admits (code : RoomCode) (roomSecret : Option RoomSecret)
    (participant : Participant) : (create code roomSecret).Admits participant roomSecret :=
  ⟨rfl, Or.inr rfl⟩

theorem tryAddParticipant_of_admits {room : Room} {participant : Participant}
    {roomSecret : Option RoomSecret} (h : room.Admits participant roomSecret) :
    room.tryAddParticipant participant roomSecret = (.joined, room.append participant) := by
  obtain ⟨hnew, hsecret⟩ := h
  obtain ⟨code, secret, participants⟩ := room
  rcases hsecret with hnone | hsame
  · simp only at hnone
    subst hnone
    simp [tryAddParticipant, hnew, append]
  · simp only at hsame
    subst hsame
    cases secret <;> simp [tryAddParticipant, hnew, append]

/-- A refusal names its reason and leaves the room alone. -/
theorem tryAddParticipant_of_not_admits {room : Room} {participant : Participant}
    {roomSecret : Option RoomSecret} (h : ¬ room.Admits participant roomSecret) :
    ∃ reason, reason ≠ JoinRoomResult.joined ∧
      room.tryAddParticipant participant roomSecret = (reason, room) := by
  unfold tryAddParticipant
  cases hmember : room.hasParticipant participant.id with
  | true => exact ⟨.alreadyInRoom, by decide, by simp⟩
  | false =>
      cases hsecret : room.roomSecret with
      | none => exact absurd ⟨hmember, Or.inl hsecret⟩ h
      | some secret =>
          cases roomSecret with
          | none => exact ⟨.secretNotProvided, by decide, by simp⟩
          | some given =>
              have hwrong : secret ≠ given := by
                rintro rfl
                exact h ⟨hmember, Or.inr hsecret⟩
              exact ⟨.invalidSecret, by decide, by simp [hwrong]⟩

theorem removeParticipant_of_member {room : Room} {participantId : ParticipantId}
    (h : room.hasParticipant participantId = true) :
    room.removeParticipant participantId = (.left, room.without participantId) := by
  simp only [removeParticipant, h, if_true]
  rfl

theorem removeParticipant_of_not_member {room : Room} {participantId : ParticipantId}
    (h : room.hasParticipant participantId = false) :
    room.removeParticipant participantId = (.notInRoom, room) := by
  simp [removeParticipant, h]

theorem hasParticipant_append (room : Room) (participant : Participant)
    (participantId : ParticipantId) :
    (room.append participant).hasParticipant participantId =
      (room.hasParticipant participantId || participant.id == participantId) := by
  simp [hasParticipant]

theorem hasParticipant_without (room : Room) (participantId other : ParticipantId) :
    (room.without participantId).hasParticipant other =
      (room.hasParticipant other && other != participantId) := by
  rw [Bool.eq_iff_iff]
  simp only [hasParticipant_iff, without_participants, List.mem_filter, bne_iff_ne, ne_eq,
    Bool.and_eq_true]
  constructor
  · rintro ⟨participant, ⟨hmem, hne⟩, rfl⟩
    exact ⟨⟨participant, hmem, rfl⟩, hne⟩
  · rintro ⟨⟨participant, hmem, rfl⟩, hne⟩
    exact ⟨participant, ⟨hmem, hne⟩, rfl⟩

/-- Appending somebody who is not listed keeps the ids distinct. -/
theorem nodup_append {room : Room} {participant : Participant}
    (hnew : room.hasParticipant participant.id = false)
    (hnodup : (room.participants.map Participant.id).Nodup) :
    ((room.append participant).participants.map Participant.id).Nodup := by
  have habsent : participant.id ∉ room.participants.map Participant.id := by
    intro hmem
    obtain ⟨listed, hlisted, hid⟩ := List.mem_map.mp hmem
    exact (hasParticipant_eq_false_iff room participant.id).mp hnew listed hlisted hid
  rw [append_participants, List.map_append, List.map_singleton, ← List.concat_eq_append]
  exact (List.nodup_concat _ _).mpr ⟨habsent, hnodup⟩

theorem nodup_without {room : Room} (participantId : ParticipantId)
    (hnodup : (room.participants.map Participant.id).Nodup) :
    ((room.without participantId).participants.map Participant.id).Nodup :=
  hnodup.sublist (List.Sublist.map _ List.filter_sublist)

end Room

end Domain
end BuzzWeb
