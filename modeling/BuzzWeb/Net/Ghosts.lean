import BuzzWeb.Net.EventLoop
import BuzzWeb.Net.SlotEffect

/-!
# Ghost participants

A ghost is a member of a stored room whose session is not registered: nobody is behind it, it is
sent nothing, and its session will not be cleaned up again.  The only handler that makes one is a
*late entry*: the handler of a successful read that runs after its session was cleaned up, with a
request that creates a room or joins one.  `OnRead` looks at neither `closing_` nor `registered_`.

A run of the event loop is free of ghosts exactly when none of its steps is a late entry.
-/

namespace BuzzWeb
namespace Net

open Domain App

namespace Server

/-- Every member of a stored room is a registered session. -/
def NoGhosts (server : Server) : Prop :=
  ∀ code room, server.rooms.lookup code = some room → ∀ participant ∈ room.participants,
    participant.id ∈ server.registry ∧ participant.id ∈ server.registered

/-- The frame asks for a room that it gets: a create with a free code among the draws, or a join
of a stored room that admits the session. -/
inductive Enters (parse : ByteArray → ParseResult) (server : Server) (self : ParticipantId)
    (frame : Frame) (draws : Nat → Draw) : Prop
  | create {requestId : Option String} {displayName : String} {password : Option RoomSecret}
      {attempt : Nat}
      (hrequest : Session.requestOf parse self frame =
        .ok ⟨⟨.createRoom, requestId, none⟩, .createRoom ⟨⟨self, displayName⟩, password⟩⟩)
      (hattempt : attempt < RoomService.maxAttempts)
      (hfree : server.rooms.lookup (generateRoomCode (draws attempt)) = none)
  | join {requestId : Option String} {code : RoomCode} {displayName : String}
      {password : Option RoomSecret} {room : Room}
      (hrequest : Session.requestOf parse self frame =
        .ok ⟨⟨.joinRoom, requestId, none⟩, .joinRoom ⟨code, ⟨self, displayName⟩, password⟩⟩)
      (hstored : server.rooms.lookup code = some room)
      (hadmits : room.Admits ⟨self, displayName⟩ password)

variable {parse : ByteArray → ParseResult}

/-- Whoever enters is in a room afterwards. -/
theorem member_of_enters {server server' : Server} {self : ParticipantId} {frame : Frame}
    {draws : Nat → Draw} {posts : List Posted}
    (henters : server.Enters parse self frame draws)
    (hrun : server.run (Session.onFrame parse draws self frame) = (server', posts)) :
    ∃ code room participant, server'.rooms.lookup code = some room ∧
      participant ∈ room.participants ∧ participant.id = self := by
  rw [run_onFrame] at hrun
  cases henters with
  | create hrequest hattempt hfree =>
      rename_i requestId displayName password attempt
      -- A free code among the draws is all that a create needs.
      obtain ⟨code, hfresh⟩ : ∃ code,
          freshCode server.rooms draws RoomService.maxAttempts 0 = some code :=
        exists_freshCode (Nat.zero_le attempt) (by omega) hfree
      simp only [hrequest, serve, hfresh] at hrun
      obtain ⟨rfl, -⟩ := Prod.mk.inj hrun
      exact ⟨code, _, ⟨self, displayName⟩, Finmap.lookup_insert server.rooms,
        List.mem_singleton.mpr rfl, rfl⟩
  | join hrequest hstored hadmits =>
      rename_i requestId code displayName password room
      simp only [hrequest, serve, hstored, joinSlot_of_admits hadmits] at hrun
      obtain ⟨rfl, -⟩ := Prod.mk.inj hrun
      refine ⟨code, room.append ⟨self, displayName⟩, ⟨self, displayName⟩, ?_, ?_, rfl⟩
      · exact Rooms.lookup_setSlot_self server.rooms code _
      · simp

/-- A late entry leaves a ghost behind. -/
theorem ghost_of_late_entry {server server' : Server} {self : ParticipantId} {frame : Frame}
    {draws : Nat → Draw} {posts : List Posted} (hlate : self ∉ server.registered)
    (henters : server.Enters parse self frame draws)
    (hstep : (machine parse).step server (.frame self frame draws) = some (server', posts)) :
    ¬ server'.NoGhosts := by
  intro hnone
  obtain ⟨-, hrun⟩ := run_of_step_frame hstep
  obtain ⟨code, room, participant, hstored, hmem, rfl⟩ := member_of_enters henters hrun
  have hregistered : participant.id ∈ server'.registered :=
    (hnone code room hstored participant hmem).2
  rw [(frameOutcome_of_run hrun).sessions_eq.2.1] at hregistered
  exact hlate hregistered

/-- A frame that is no late entry makes no ghost. -/
theorem NoGhosts.frame {server server' : Server} {self : ParticipantId} {frame : Frame}
    {draws : Nat → Draw} {posts : List Posted} (hnone : server.NoGhosts)
    (hwell : server.WellFormed)
    (hentry : server.Enters parse self frame draws → self ∈ server.registered)
    (hstep : (machine parse).step server (.frame self frame draws) = some (server', posts)) :
    server'.NoGhosts := by
  have heffect := slotEffect_of_step hstep
  have hsessions : server'.registry = server.registry ∧
      server'.registered = server.registered := by
    have houtcome := frameOutcome_of_run (run_of_step_frame hstep).2
    exact ⟨houtcome.sessions_eq.1, houtcome.sessions_eq.2.1⟩
  have hself (hregistered : self ∈ server.registered) :
      self ∈ server.registry ∧ self ∈ server.registered :=
    ⟨by rwa [hwell.registry_eq], hregistered⟩
  intro code room' hstored participant hmem
  rw [hsessions.1, hsessions.2]
  specialize heffect code
  generalize hbefore : server.rooms.lookup code = before at heffect
  rw [hstored] at heffect
  generalize hafter : some room' = after at heffect
  cases heffect with
  | same => exact hnone code room' (hbefore.trans hafter.symm) participant hmem
  | created hevent haccepted hrequest hfresh =>
      obtain ⟨rfl, rfl, rfl⟩ := Event.frame.inj hevent
      obtain rfl := Option.some.inj hafter
      rw [List.mem_singleton.mp hmem]
      obtain ⟨-, attempt, -, hattempt, rfl⟩ := freshCode_spec hfresh
      -- Entering was allowed, so the session was registered.
      exact hself (hentry (.create hrequest (by omega) hbefore))
  | joined hevent haccepted hrequest hadmits =>
      obtain ⟨rfl, rfl, rfl⟩ := Event.frame.inj hevent
      obtain rfl := Option.some.inj hafter
      rcases List.mem_append.mp hmem with hold | hnew
      · exact hnone code _ hbefore participant hold
      · rw [List.mem_singleton.mp hnew]
        exact hself (hentry (.join hrequest hbefore hadmits))
  | left hleaves hmember =>
      rename_i leaver room
      obtain rfl := eq_without_of_remainingSlot hafter.symm
      exact hnone code room hbefore participant (List.mem_of_mem_filter hmem)

/-- The clean-up of a session takes it out of every room. -/
theorem NoGhosts.dropSession {server : Server} (hnone : server.NoGhosts)
    (session : ParticipantId) (order : HashOrder) :
    (server.dropSession session order).NoGhosts := by
  intro code room' hstored participant hmem
  have hslot : (server.dropSession session order).rooms.lookup code =
      (leaveSlot code session (server.rooms.lookup code)).2 :=
    lookup_disconnectRooms order session server.rooms code
  -- Whoever is left was there before and is somebody else.
  have hother : participant.id ≠ session ∧ ∃ room, server.rooms.lookup code = some room ∧
      participant ∈ room.participants := by
    rw [hslot] at hstored
    cases hbefore : server.rooms.lookup code with
    | none =>
        rw [hbefore] at hstored
        cases hstored
    | some room =>
        rw [hbefore] at hstored
        cases hmember : room.hasParticipant session with
        | false =>
            simp only [leaveSlot, hmember, Bool.false_eq_true, if_false,
              Option.some.injEq] at hstored
            subst hstored
            exact ⟨(Room.hasParticipant_eq_false_iff room session).mp hmember participant hmem,
              room, rfl, hmem⟩
        | true =>
            rw [leaveSlot_of_member hmember] at hstored
            obtain rfl := eq_without_of_remainingSlot hstored
            obtain ⟨hold, hne⟩ := List.mem_filter.mp hmem
            exact ⟨by simpa using hne, room, rfl, hold⟩
  obtain ⟨hne, room, hbefore, hold⟩ := hother
  obtain ⟨hregistry, hregistered⟩ := hnone code room hbefore participant hold
  exact ⟨Finset.mem_erase.mpr ⟨hne, hregistry⟩, Finset.mem_erase.mpr ⟨hne, hregistered⟩⟩

/-- Every step that is no late entry keeps the server free of ghosts. -/
theorem NoGhosts.step {server server' : Server} {event : Event} {posts : List Posted}
    (hnone : server.NoGhosts) (hwell : server.WellFormed)
    (hentry : ∀ self frame draws, event = .frame self frame draws →
      server.Enters parse self frame draws → self ∈ server.registered)
    (hstep : (machine parse).step server event = some (server', posts)) : server'.NoGhosts := by
  rcases step_cases hstep with ⟨session, -, -, rfl, -⟩ | ⟨session, frame, draws, rfl, -, -⟩ |
    ⟨session, order, -, -, rfl, -⟩ | ⟨session, order, -, -, rfl, -⟩
  · intro code room hstored participant hmem
    obtain ⟨hregistry, hregistered⟩ := hnone code room hstored participant hmem
    exact ⟨Finset.mem_insert_of_mem hregistry, Finset.mem_insert_of_mem hregistered⟩
  · exact hnone.frame hwell (hentry session frame draws rfl) hstep
  · exact hnone.dropSession session order
  · exact hnone

end Server

namespace EventLoop

variable {parse : ByteArray → ParseResult}

/-- The handler of a successful read runs on a session that is not registered any more, and its
frame enters a room. -/
def LateEntry (parse : ByteArray → ParseResult) (loop : EventLoop) : Event → Prop
  | .read session (.frame frame draws) =>
      session ∉ loop.server.registered ∧ loop.server.Enters parse session frame draws
  | _ => False

/-- One handler that is no late entry. -/
theorem noGhosts_step {loop loop' : EventLoop} {event : Event} {posts : List Posted}
    (haligned : loop.Aligned) (hwell : loop.server.WellFormed) (hnone : loop.server.NoGhosts)
    (hlate : ¬ LateEntry parse loop event)
    (hstep : (machine parse).step loop event = some (loop', posts)) : loop'.server.NoGhosts := by
  have hdrives := (haligned.step hstep).2
  cases hevent : loop.serverEvent event with
  | none =>
      rw [hevent] at hdrives
      rw [hdrives.1]
      exact hnone
  | some serverEvent =>
      rw [hevent] at hdrives
      refine hnone.step hwell ?_ hdrives
      rintro self frame draws rfl henters
      -- Only the handler of a successful read hands a frame to the server.
      have hread : event = .read self (.frame frame draws) := by
        cases event with
        | read session result =>
            cases result with
            | frame frame' draws' =>
                obtain ⟨rfl, rfl, rfl⟩ := Server.Event.frame.inj (Option.some.inj hevent)
                rfl
            | _ => cases hevent
        | task session order =>
            simp only [EventLoop.serverEvent] at hevent
            split at hevent <;> cases hevent
        | handshake session error order => cases error <;> cases hevent
        | accept session error order => cases error <;> cases hevent
        | write session index error order => cases error <;> cases hevent
        | start session tls => cases hevent
        | close session => cases hevent
      subst hread
      by_contra hgone
      exact hlate ⟨hgone, henters⟩

/-- A run without late entries ends without ghosts. -/
theorem noGhosts_of_run {history : List (EventMachine.Step EventLoop Event Posted)}
    {loop : EventLoop} (hrun : (machine parse).Run history loop)
    (hlate : ∀ st ∈ history, ¬ LateEntry parse st.pre st.event) : loop.server.NoGhosts := by
  induction hrun with
  | nil =>
      intro code room hstored
      cases hstored
  | snoc hprev hlast ih =>
      rename_i history loop event loop' posts
      obtain ⟨serverHistory, hserver, -⟩ := server_run hprev
      have hbefore : loop.server.NoGhosts :=
        ih fun st hmem => hlate st (List.mem_append_left _ hmem)
      have hthis := hlate ⟨loop, event, posts, loop'⟩ (by simp)
      exact noGhosts_step (aligned_of_run hprev) (Server.wellFormed_of_run hserver) hbefore hthis
        hlast

/-- **Ghosts come from late entries, and from nothing else.**  Along every run of the event loop,
every state reached is free of ghosts exactly when no step of the run is a late entry. -/
theorem ghost_free_iff_no_late_entry
    {history : List (EventMachine.Step EventLoop Event Posted)} {loop : EventLoop}
    (hrun : (machine parse).Run history loop) :
    (∀ st ∈ history, st.post.server.NoGhosts) ↔
      ∀ st ∈ history, ¬ LateEntry parse st.pre st.event := by
  constructor
  · intro hfree st hmem hlate
    obtain ⟨⟨before, hbefore⟩, hstep⟩ := hrun.step_of_mem hmem
    obtain ⟨pre, event, posts, post⟩ := st
    have hdrives := ((aligned_of_run hbefore).step hstep).2
    cases event with
    | read session result =>
        cases result with
        | frame frame draws =>
            obtain ⟨hgone, henters⟩ := hlate
            exact Server.ghost_of_late_entry hgone henters hdrives (hfree _ hmem)
        | closed order => exact hlate
        | error order => exact hlate
    | _ => exact hlate
  · intro hlate st hmem
    obtain ⟨before, after, hsplit⟩ := List.append_of_mem hmem
    obtain ⟨hbefore, hstep⟩ := hrun.split hsplit
    refine noGhosts_of_run (hbefore.snoc hstep) ?_
    intro earlier hearlier
    refine hlate earlier ?_
    rw [hsplit]
    rcases List.mem_append.mp hearlier with hold | hlast
    · exact List.mem_append_left _ hold
    · rw [List.mem_singleton.mp hlast]
      exact List.mem_append_right _ List.mem_cons_self

/-- A registered session creates a room: nobody in it is a ghost. -/
theorem ghost_free_after_create :
    let events : List Event := [.start "p_1" false, .accept "p_1" false .ascending,
      .read "p_1" (.frame (.text Server.createText.toUTF8) fun _ => 0)]
    ∃ history loop,
      (machine Server.sampleParse).exec events = some (history, loop) ∧
      (∃ room, loop.server.rooms.lookup "000000" = some room ∧
        room.participants = [⟨"p_1", "Ann"⟩]) ∧
      ∀ st ∈ history, st.post.server.NoGhosts := by
  intro events
  have hexec : (machine Server.sampleParse).exec events =
      some (_, _) := rfl
  refine ⟨_, _, hexec, ⟨_, rfl, rfl⟩, ?_⟩
  refine (ghost_free_iff_no_late_entry (EventMachine.run_of_exec hexec)).mpr ?_
  intro st hmem
  simp only [List.nil_append, List.cons_append, List.mem_cons, List.not_mem_nil, or_false] at hmem
  rcases hmem with rfl | rfl | rfl
  · exact id
  · exact id
  · intro hlate
    exact hlate.1 (by decide)

/-- The answer to a first frame cannot be written and the session fails; a create that was read
before the failure is handled after it. -/
theorem late_create_leaves_ghost :
    let events : List Event := [.start "p_1" false, .accept "p_1" false .ascending,
      .read "p_1" (.frame (.binary .empty) fun _ => 0), .task "p_1" .ascending,
      .write "p_1" 0 true .ascending,
      .read "p_1" (.frame (.text Server.createText.toUTF8) fun _ => 0)]
    ∃ history loop,
      (machine Server.sampleParse).exec events = some (history, loop) ∧
      ¬ loop.server.NoGhosts := by
  intro events
  have hexec : (machine Server.sampleParse).exec events =
      some (_, _) := rfl
  refine ⟨_, _, hexec, ?_⟩
  intro hnone
  have hghost := (hnone "000000" _ rfl ⟨"p_1", "Ann"⟩ (List.mem_singleton.mpr rfl)).1
  revert hghost
  decide

end EventLoop
end Net
end BuzzWeb
