import BuzzWeb.App.RoomSlots

/-!
# The sweep of a disconnect

`HandleParticipantDisconnected` walks a snapshot of the stored codes and leaves each room in turn,
which may erase rooms from the table being swept.  The order of the walk is the hash table's.  The
sweep is described here without that order: what every slot holds afterwards, and which events are
returned.  Two orders can only permute the events.
-/

namespace BuzzWeb
namespace App

open Domain

/-- The walk produces the event of a code exactly for the rooms that the participant was in. -/
theorem mem_disconnectEvents {order : HashOrder} {participantId : ParticipantId} {rooms : Rooms}
    {event : ControlDispatcherEvent} :
    event ∈ disconnectEvents order participantId rooms ↔
      ∃ code room, rooms.lookup code = some room ∧ room.hasParticipant participantId = true ∧
        event = .leftRoom code participantId (room.without participantId).participants := by
  rw [disconnectEvents, List.mem_filterMap]
  constructor
  · rintro ⟨code, -, hevent⟩
    cases hslot : rooms.lookup code with
    | none => simp [hslot, leftEvent] at hevent
    | some room =>
        simp only [hslot, leftEvent, Option.ite_none_right_eq_some, Option.some.injEq] at hevent
        exact ⟨code, room, hslot, hevent.1, hevent.2.symm⟩
  · rintro ⟨code, room, hslot, hmember, rfl⟩
    refine ⟨code, Rooms.mem_getRoomCodes.mpr ⟨room, hslot⟩, ?_⟩
    simp [hslot, leftEvent, hmember]

/-- No code is reported twice, because no code is walked twice. -/
theorem disconnectEvents_codes_nodup (order : HashOrder) (participantId : ParticipantId)
    (rooms : Rooms) :
    ((disconnectEvents order participantId rooms).map ControlDispatcherEvent.roomCode).Nodup := by
  have hwalk := Rooms.getRoomCodes_nodup rooms order
  have hcodes : ((disconnectEvents order participantId rooms).map
      ControlDispatcherEvent.roomCode).Sublist (rooms.getRoomCodes order) := by
    unfold disconnectEvents
    induction rooms.getRoomCodes order with
    | nil => exact List.Sublist.refl _
    | cons code rest ih =>
        rw [List.filterMap_cons]
        cases hevent : leftEvent participantId code (rooms.lookup code) with
        | none => exact ih.cons code
        | some event =>
            simp only [List.map_cons, roomCode_of_leftEvent hevent]
            exact ih.cons_cons code
  exact hwalk.sublist hcodes

/-- The events of two walks of one table are the same up to their order. -/
theorem disconnectEvents_perm (order order' : HashOrder) (participantId : ParticipantId)
    (rooms : Rooms) :
    (disconnectEvents order participantId rooms).Perm
      (disconnectEvents order' participantId rooms) := by
  refine (List.perm_ext_iff_of_nodup (disconnectEvents_codes_nodup order _ _).of_map
    (disconnectEvents_codes_nodup order' _ _).of_map).mpr ?_
  intro event
  rw [mem_disconnectEvents, mem_disconnectEvents]

/-- The tables after two walks of one table are the same. -/
theorem disconnectRooms_eq (order order' : HashOrder) (participantId : ParticipantId)
    (rooms : Rooms) :
    disconnectRooms order participantId rooms = disconnectRooms order' participantId rooms := by
  apply Finmap.ext_lookup
  intro code
  rw [lookup_disconnectRooms, lookup_disconnectRooms]

/-- Nobody with the id is left in a slot that was left. -/
theorem not_member_of_leaveSlot {code : RoomCode} {participantId : ParticipantId}
    {slot : Option Room} {room : Room} (hslot : (leaveSlot code participantId slot).2 = some room) :
    room.hasParticipant participantId = false := by
  rcases leaveSlot_cases code participantId slot with ⟨before, rfl, hmember⟩ |
    ⟨hout, error, -, hleave⟩
  · rw [leaveSlot_of_member hmember] at hslot
    obtain rfl := eq_without_of_remainingSlot hslot
    simp [Room.hasParticipant_without]
  · rw [hleave] at hslot
    exact hout room hslot

/-- **The sweep is complete, precise and independent of the order of the walk.** -/
theorem disconnect_sweep (order : HashOrder) (participantId : ParticipantId) (rooms : Rooms) :
    ∃ events rooms',
      ControlDispatcher.handleParticipantDisconnected order participantId (Store.quiet rooms) =
        (some events, Store.quiet rooms') ∧
      (∀ code room, rooms'.lookup code = some room → room.hasParticipant participantId = false) ∧
      (∀ code room, rooms.lookup code = some room → room.hasParticipant participantId = true →
        rooms'.lookup code =
          if room.participants.filter (fun member => member.id != participantId) = [] then none
          else some { room with
            participants := room.participants.filter fun member => member.id != participantId }) ∧
      (∀ code, rooms.participantInRoom participantId code = false →
        rooms'.lookup code = rooms.lookup code) ∧
      (events.map ControlDispatcherEvent.roomCode).Nodup ∧
      (∀ event, event ∈ events ↔ ∃ code room, rooms.lookup code = some room ∧
        room.hasParticipant participantId = true ∧
        event = .leftRoom code participantId
          (room.participants.filter fun member => member.id != participantId)) ∧
      ∀ order', ∃ events',
        ControlDispatcher.handleParticipantDisconnected order' participantId (Store.quiet rooms) =
          (some events', Store.quiet rooms') ∧ events'.Perm events := by
  refine ⟨_, _, handleParticipantDisconnected_quiet order participantId rooms, ?_, ?_, ?_,
    disconnectEvents_codes_nodup order participantId rooms, fun _ => mem_disconnectEvents, ?_⟩
  · intro code room hafter
    rw [lookup_disconnectRooms] at hafter
    exact not_member_of_leaveSlot hafter
  · intro code room hslot hmember
    rw [lookup_disconnectRooms, hslot, leaveSlot_of_member hmember]
    rfl
  · intro code hout
    rw [lookup_disconnectRooms]
    rcases leaveSlot_cases code participantId (rooms.lookup code) with ⟨room, hslot, hmember⟩ |
      ⟨-, error, -, hleave⟩
    · rw [(Rooms.participantInRoom_iff _ _ _).mpr ⟨room, hslot, hmember⟩] at hout
      cases hout
    · rw [hleave]
  · intro order'
    refine ⟨_, ?_, disconnectEvents_perm order' order participantId rooms⟩
    rw [handleParticipantDisconnected_quiet, disconnectRooms_eq order' order]

end App
end BuzzWeb
