import BuzzWeb.Net.FrameOutcome

/-!
# What a step of the server does to one slot

`step_cases` inverts a step of the server.  `SlotEffect` reads the same step from the point of view
of one room code: the slot keeps its content, a room is created in it, somebody joins the room or
somebody leaves it.  The laws about rooms over whole runs are proved by cases over it.
-/

namespace BuzzWeb
namespace Net

open Domain App

namespace Server

variable {parse : ByteArray → ParseResult}

/-- Everything a step of the server can be. -/
theorem step_cases {server server' : Server} {event : Event} {posts : List Posted}
    (hstep : (machine parse).step server event = some (server', posts)) :
    (∃ session, event = .connect session ∧ session ∉ server.accepted ∧
      server' = server.connect session ∧ posts = []) ∨
    (∃ session frame draws, event = .frame session frame draws ∧ session ∈ server.accepted ∧
      FrameOutcome parse server session frame draws server' posts) ∨
    (∃ session order, event = .disconnect session order ∧ session ∈ server.registered ∧
      server' = server.dropSession session order ∧ posts = server.dropPosts session order) ∨
    (∃ session order, event = .disconnect session order ∧ session ∉ server.registered ∧
      server' = server ∧ posts = []) := by
  cases event with
  | connect session =>
      simp only [machine] at hstep
      split_ifs at hstep with hold
      obtain ⟨rfl, rfl⟩ := Prod.mk.inj (Option.some.inj hstep)
      exact Or.inl ⟨session, rfl, hold, rfl, rfl⟩
  | frame session frame draws =>
      obtain ⟨haccepted, hrun⟩ := run_of_step_frame hstep
      exact Or.inr (Or.inl ⟨session, frame, draws, rfl, haccepted, frameOutcome_of_run hrun⟩)
  | disconnect session order =>
      simp only [machine, run_removeFromRegistry] at hstep
      split_ifs at hstep with hregistered
      · obtain ⟨rfl, rfl⟩ := Prod.mk.inj (Option.some.inj hstep)
        exact Or.inr (Or.inr (Or.inl ⟨session, order, rfl, hregistered, rfl, rfl⟩))
      · obtain ⟨rfl, rfl⟩ := Prod.mk.inj (Option.some.inj hstep)
        exact Or.inr (Or.inr (Or.inr ⟨session, order, rfl, hregistered, rfl, rfl⟩))

/-- The event asks the session to leave the room: by request, or by going away. -/
inductive Leaves (parse : ByteArray → ParseResult) (server : Server) (code : RoomCode)
    (self : ParticipantId) : Event → Prop
  | request {frame : Frame} {draws : Nat → Draw} {requestId : Option String}
      (hrequest : Session.requestOf parse self frame =
        .ok ⟨⟨.leaveRoom, requestId, none⟩, .leaveRoom ⟨code, self⟩⟩) :
      Leaves parse server code self (.frame self frame draws)
  | disconnect {order : HashOrder} (hregistered : self ∈ server.registered) :
      Leaves parse server code self (.disconnect self order)

/-- What a step does to the slot of a code. -/
inductive SlotEffect (parse : ByteArray → ParseResult) (server : Server) (event : Event)
    (code : RoomCode) : Option Room → Option Room → Prop
  | same {slot : Option Room} : SlotEffect parse server event code slot slot
  | created {self : ParticipantId} {frame : Frame} {draws : Nat → Draw}
      {requestId : Option String} {displayName : String} {password : Option RoomSecret}
      (hevent : event = .frame self frame draws) (haccepted : self ∈ server.accepted)
      (hrequest : Session.requestOf parse self frame =
        .ok ⟨⟨.createRoom, requestId, none⟩, .createRoom ⟨⟨self, displayName⟩, password⟩⟩)
      (hfresh : freshCode server.rooms draws RoomService.maxAttempts 0 = some code) :
      SlotEffect parse server event code none (some ⟨code, password, [⟨self, displayName⟩]⟩)
  | joined {self : ParticipantId} {frame : Frame} {draws : Nat → Draw}
      {requestId : Option String} {displayName : String} {password : Option RoomSecret}
      {room : Room} (hevent : event = .frame self frame draws)
      (haccepted : self ∈ server.accepted)
      (hrequest : Session.requestOf parse self frame =
        .ok ⟨⟨.joinRoom, requestId, none⟩, .joinRoom ⟨code, ⟨self, displayName⟩, password⟩⟩)
      (hadmits : room.Admits ⟨self, displayName⟩ password) :
      SlotEffect parse server event code (some room) (some (room.append ⟨self, displayName⟩))
  | left {self : ParticipantId} {room : Room} (hleaves : Leaves parse server code self event)
      (hmember : room.hasParticipant self = true) :
      SlotEffect parse server event code (some room) (remainingSlot room self)

/-- Every step has one of these effects on every slot. -/
theorem slotEffect_of_step {server server' : Server} {event : Event} {posts : List Posted}
    (hstep : (machine parse).step server event = some (server', posts)) (code : RoomCode) :
    SlotEffect parse server event code (server.rooms.lookup code) (server'.rooms.lookup code) := by
  rcases step_cases hstep with ⟨session, rfl, -, rfl, -⟩ |
    ⟨session, frame, draws, rfl, haccepted, houtcome⟩ |
    ⟨session, order, rfl, hregistered, rfl, -⟩ | ⟨session, order, rfl, -, rfl, -⟩
  · exact .same
  · cases houtcome with
    | refused hreply hok => exact .same
    -- Each of these writes one slot and leaves the others as they were.
    | created hrequest hfresh =>
        rename_i requestId displayName password fresh
        by_cases hcode : code = fresh
        · subst hcode
          have hnone : server.rooms.lookup code = none := (freshCode_spec hfresh).1
          simp only [Rooms.lookup_insert_eq, if_true, hnone]
          exact .created rfl haccepted hrequest hfresh
        · simp only [Rooms.lookup_insert_eq, if_neg hcode]
          exact .same
    | joined hrequest hstored hadmits =>
        rename_i requestId target displayName password room
        by_cases hcode : code = target
        · subst hcode
          simp only [Rooms.lookup_insert_eq, if_true, hstored]
          exact .joined rfl haccepted hrequest hadmits
        · simp only [Rooms.lookup_insert_eq, if_neg hcode]
          exact .same
    | left hrequest hstored hmember =>
        rename_i requestId target room
        by_cases hcode : code = target
        · subst hcode
          simp only [Rooms.lookup_setSlot_self, hstored]
          exact .left (.request hrequest) hmember
        · rw [Rooms.lookup_setSlot_of_ne _ hcode]
          exact .same
    | relayed hrequest hself htarget hregistered => exact .same
  · have hslot : (server.dropSession session order).rooms.lookup code =
        (leaveSlot code session (server.rooms.lookup code)).2 :=
      lookup_disconnectRooms order session server.rooms code
    rw [hslot]
    cases hstored : server.rooms.lookup code with
    | none => exact .same
    | some room =>
        cases hmember : room.hasParticipant session with
        | false =>
            simp only [leaveSlot, hmember, Bool.false_eq_true, if_false]
            exact .same
        | true =>
            rw [leaveSlot_of_member hmember]
            exact .left (.disconnect hregistered) hmember
  · exact .same

/-! ## Invariants of the stored rooms -/

/-- A property of every stored room. -/
def AllRooms (property : RoomCode → Room → Prop) (server : Server) : Prop :=
  ∀ code room, server.rooms.lookup code = some room → property code room

/-- A property that creating, joining and leaving establish and keep is kept by every step. -/
theorem AllRooms.step {property : RoomCode → Room → Prop} {server server' : Server} {event : Event}
    {posts : List Posted} (hall : AllRooms property server)
    (hstep : (machine parse).step server event = some (server', posts))
    (hcreate : ∀ code password participant draws, participant.id ∈ server.accepted →
      freshCode server.rooms draws RoomService.maxAttempts 0 = some code →
      property code ⟨code, password, [participant]⟩)
    (hjoin : ∀ code room participant password, participant.id ∈ server.accepted →
      room.Admits participant password → property code room →
      property code (room.append participant))
    (hleave : ∀ code room participantId, property code room →
      property code (room.without participantId)) : AllRooms property server' := by
  intro code room' hstored
  have heffect := slotEffect_of_step hstep code
  generalize hbefore : server.rooms.lookup code = before at heffect
  rw [hstored] at heffect
  generalize hafter : some room' = after at heffect
  cases heffect with
  | same => exact hall code room' (hbefore.trans hafter.symm)
  | created hevent haccepted hrequest hfresh =>
      obtain rfl := Option.some.inj hafter
      exact hcreate code _ _ _ haccepted hfresh
  | joined hevent haccepted hrequest hadmits =>
      obtain rfl := Option.some.inj hafter
      exact hjoin code _ _ _ haccepted hadmits (hall code _ hbefore)
  | left hleaves hmember =>
      rename_i self room
      obtain rfl := eq_without_of_remainingSlot hafter.symm
      exact hleave code room self (hall code room hbefore)

/-- The laws of the server's state: the registry holds the sessions whose flag is set, members of
rooms are accepted sessions, and no room lists an id twice. -/
structure WellFormed (server : Server) : Prop where
  registry_eq : server.registry = server.registered
  registered_accepted : server.registered ⊆ server.accepted
  members_accepted : AllRooms (fun _ room =>
    ∀ participant ∈ room.participants, participant.id ∈ server.accepted) server
  nodup : AllRooms (fun _ room => (room.participants.map Participant.id).Nodup) server

/-- Frames move neither the registry nor the flags nor the accepted sessions. -/
theorem FrameOutcome.sessions_eq {server server' : Server} {self : ParticipantId} {frame : Frame}
    {draws : Nat → Draw} {posts : List Posted}
    (houtcome : FrameOutcome parse server self frame draws server' posts) :
    server'.registry = server.registry ∧ server'.registered = server.registered ∧
      server'.accepted = server.accepted := by
  cases houtcome <;> exact ⟨rfl, rfl, rfl⟩

/-- Accepted sessions stay accepted. -/
theorem accepted_mono {server server' : Server} {event : Event} {posts : List Posted}
    (hstep : (machine parse).step server event = some (server', posts)) :
    server.accepted ⊆ server'.accepted := by
  rcases step_cases hstep with ⟨session, -, -, rfl, -⟩ | ⟨session, frame, draws, -, -, houtcome⟩ |
    ⟨session, order, -, -, rfl, -⟩ | ⟨session, order, -, -, rfl, -⟩
  · exact Finset.subset_insert _ _
  · rw [houtcome.sessions_eq.2.2]
  · exact Finset.Subset.refl _
  · exact Finset.Subset.refl _

theorem WellFormed.step {server server' : Server} {event : Event} {posts : List Posted}
    (hwell : server.WellFormed)
    (hstep : (machine parse).step server event = some (server', posts)) :
    server'.WellFormed := by
  have hmono := accepted_mono hstep
  -- Accepted sessions stay accepted, so the old members need no further argument.
  have hmembers : AllRooms (fun _ room =>
      ∀ participant ∈ room.participants, participant.id ∈ server'.accepted) server := by
    intro code room hstored participant hmem
    exact hmono (hwell.members_accepted code room hstored participant hmem)
  refine ⟨?_, ?_, hmembers.step hstep ?_ ?_ ?_, hwell.nodup.step hstep ?_ ?_ ?_⟩
  · rcases step_cases hstep with ⟨session, -, -, rfl, -⟩ |
      ⟨session, frame, draws, -, -, houtcome⟩ | ⟨session, order, -, -, rfl, -⟩ |
      ⟨session, order, -, -, rfl, -⟩
    · exact congrArg (insert session) hwell.registry_eq
    · obtain ⟨hregistry, hregistered, -⟩ := houtcome.sessions_eq
      rw [hregistry, hregistered, hwell.registry_eq]
    · exact congrArg (fun ids : Finset ParticipantId => ids.erase session) hwell.registry_eq
    · exact hwell.registry_eq
  · rcases step_cases hstep with ⟨session, -, -, rfl, -⟩ |
      ⟨session, frame, draws, -, -, houtcome⟩ | ⟨session, order, -, -, rfl, -⟩ |
      ⟨session, order, -, -, rfl, -⟩
    · exact Finset.insert_subset_insert session hwell.registered_accepted
    · obtain ⟨-, hregistered, haccepted⟩ := houtcome.sessions_eq
      rw [hregistered, haccepted]
      exact hwell.registered_accepted
    · exact (Finset.erase_subset session _).trans hwell.registered_accepted
    · exact hwell.registered_accepted
  · intro code password participant draws haccepted hfresh other hmem
    rw [List.mem_singleton.mp hmem]
    exact hmono haccepted
  · intro code room participant password haccepted hadmits hroom other hmem
    rcases List.mem_append.mp hmem with hold | hnew
    · exact hroom other hold
    · rw [List.mem_singleton.mp hnew]
      exact hmono haccepted
  · intro code room participantId hroom other hmem
    exact hroom other (List.mem_of_mem_filter hmem)
  · intro code password participant draws haccepted hfresh
    exact List.nodup_singleton _
  · intro code room participant password haccepted hadmits hroom
    exact Room.nodup_append hadmits.1 hroom
  · intro code room participantId hroom
    exact Room.nodup_without participantId hroom

theorem wellFormed_of_run {history : List (EventMachine.Step Server Event Posted)}
    {server : Server} (hrun : (machine parse).Run history server) : server.WellFormed := by
  refine hrun.stateInvariant ?_ fun _ _ _ _ hwell hstep => hwell.step hstep
  refine ⟨rfl, Finset.Subset.refl _, ?_, ?_⟩
  · intro code room hstored
    cases hstored
  · intro code room hstored
    cases hstored

end Server
end Net
end BuzzWeb
