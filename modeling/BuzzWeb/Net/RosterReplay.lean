import BuzzWeb.Net.SlotEffect

/-!
# Rosters by replay

A client knows who is in a room from what it was sent: the participants of its last successful
create or join result, then one `participant_joined` or `participant_left` after the other.  The
*notices* of a session about a room are these messages, in the order they were sent to it.

`RoomEffect` says for one step and one room code what happens to the slot and which notices it
causes, for every session.  From it follows, for every run, that the replay of the notices of a
registered member is the stored list, order and names included.
-/

namespace BuzzWeb
namespace App
namespace ClientView

open Domain

namespace Observation

/-- The room that an observation is about. -/
def roomCode : Observation → RoomCode
  | snapshot roomCode _ => roomCode
  | joined roomCode _ _ => roomCode
  | left roomCode _ _ => roomCode

/-- The participant list that the message itself carries. -/
def participants : Observation → List Participant
  | snapshot _ participants => participants
  | joined _ _ participants => participants
  | left _ _ participants => participants

/-- The participant that an event is about; results are about nobody in particular. -/
def subject? : Observation → Option ParticipantId
  | snapshot _ _ => none
  | joined _ participant _ => some participant.id
  | left _ participantId _ => some participantId

end Observation

/-- What a client does with one notice: a result replaces its roster, an event edits it. -/
def applyNotice (roster : Option (List Participant)) : Observation → Option (List Participant)
  | .snapshot _ participants => some participants
  | .joined _ participant _ => roster.map fun known => known ++ [participant]
  | .left _ participantId _ => roster.map fun known =>
      known.filter fun participant => participant.id != participantId

/-- The roster after some notices; there is none before the first result. -/
def replay (notices : List Observation) : Option (List Participant) :=
  notices.foldl applyNotice none

/-- Only the last result and what came after it count. -/
theorem replay_after_snapshot (before after : List Observation) (roomCode : RoomCode)
    (participants : List Participant) :
    replay (before ++ .snapshot roomCode participants :: after) =
      after.foldl applyNotice (some participants) := by
  rw [replay, List.foldl_append, List.foldl_cons]
  rfl

theorem replay_concat (notices : List Observation) (notice : Observation) :
    replay (notices ++ [notice]) = applyNotice (replay notices) notice := by
  rw [replay, List.foldl_append]
  rfl

end ClientView
end App

namespace Net

open Domain App ClientView

namespace Server

variable {parse : ByteArray → ParseResult}

/-- The notice that a posted message is for a session about a room, if it is one. -/
def noticeOf (code : RoomCode) (session : ParticipantId) (post : Posted) : Option Observation :=
  if post.1 = session then (observe post.2).filter fun notice => notice.roomCode = code else none

/-- The notices of a session about a room, in the order they were sent. -/
def notices (code : RoomCode) (session : ParticipantId) (posts : List Posted) :
    List Observation :=
  posts.filterMap (noticeOf code session)

theorem notices_append (code : RoomCode) (session : ParticipantId) (first second : List Posted) :
    notices code session (first ++ second) =
      notices code session first ++ notices code session second :=
  List.filterMap_append

theorem notices_cons (code : RoomCode) (session : ParticipantId) (post : Posted)
    (posts : List Posted) :
    notices code session (post :: posts) =
      (noticeOf code session post).toList ++ notices code session posts := by
  rw [notices, List.filterMap_cons]
  cases noticeOf code session post <;> rfl

/-! ## The notices of one event -/

/-- What an event says to a client. -/
def noticeOfEvent : ControlDispatcherEvent → Observation
  | .joinedRoom roomCode participant receivers => .joined roomCode participant receivers
  | .leftRoom roomCode participantId receivers => .left roomCode participantId receivers

theorem observe_encodeEvent (event : ControlDispatcherEvent) :
    observe (ProtocolCodec.encodeEvent event) = some (noticeOfEvent event) := by
  cases event with
  | joinedRoom roomCode participant receivers =>
      exact observe_joinedRoom roomCode participant receivers
  | leftRoom roomCode participantId receivers =>
      exact observe_leftRoom roomCode participantId receivers

theorem roomCode_noticeOfEvent (event : ControlDispatcherEvent) :
    (noticeOfEvent event).roomCode = event.roomCode := by
  cases event <;> rfl

/-- The event goes to this session: it is registered, it is a receiver, and it is not skipped. -/
def Reaches (registry : SessionRegistry) (event : ControlDispatcherEvent)
    (session : ParticipantId) : Prop :=
  session ∈ registry ∧ ∃ participant ∈ event.eventReceivers, participant.id = session ∧
    Session.skips event participant = false

/-- An event about another room is no notice about this one. -/
theorem notices_eventPosts_of_ne (registry : SessionRegistry) (event : ControlDispatcherEvent)
    {code : RoomCode} (hcode : event.roomCode ≠ code) (session : ParticipantId) :
    notices code session (Session.eventPosts registry event) = [] := by
  refine List.filterMap_eq_nil_iff.mpr ?_
  rintro ⟨recipient, message⟩ hmem
  obtain ⟨rfl, -, -⟩ := mem_eventPosts.mp hmem
  simp [noticeOf, observe_encodeEvent, roomCode_noticeOfEvent, hcode]

/-- A session that the event does not reach gets no notice. -/
theorem notices_eventPosts_of_not_reaches {registry : SessionRegistry}
    {event : ControlDispatcherEvent} {session : ParticipantId}
    (hreaches : ¬ Reaches registry event session) (code : RoomCode) :
    notices code session (Session.eventPosts registry event) = [] := by
  refine List.filterMap_eq_nil_iff.mpr ?_
  rintro ⟨recipient, message⟩ hmem
  obtain ⟨rfl, hregistered, hreceiver⟩ := mem_eventPosts.mp hmem
  have hother : recipient ≠ session := by
    rintro rfl
    exact hreaches ⟨hregistered, hreceiver⟩
  simp [noticeOf, hother]

/-- A session that the event reaches gets it exactly once, because ids are listed once. -/
theorem notices_eventPosts_of_reaches {registry : SessionRegistry}
    (event : ControlDispatcherEvent) {session : ParticipantId}
    (hnodup : (event.eventReceivers.map Participant.id).Nodup)
    (hreaches : Reaches registry event session) :
    notices event.roomCode session (Session.eventPosts registry event) =
      [noticeOfEvent event] := by
  obtain ⟨hregistered, participant, hmem, rfl, hskip⟩ := hreaches
  obtain ⟨before, after, hsplit⟩ := List.append_of_mem hmem
  rw [hsplit, List.map_append, List.map_cons, List.nodup_append] at hnodup
  obtain ⟨-, hcons, hdisjoint⟩ := hnodup
  obtain ⟨hafter, -⟩ := List.nodup_cons.mp hcons
  -- The other receivers have other ids, so their copies are not for this session.
  have hsilent (others : List Participant)
      (hothers : ∀ other ∈ others, other.id ≠ participant.id) :
      (others.filterMap fun other => if Session.skips event other = false ∧ other.id ∈ registry then
        some (other.id, ProtocolCodec.encodeEvent event) else none).filterMap
          (noticeOf event.roomCode participant.id) = [] := by
    refine List.filterMap_eq_nil_iff.mpr ?_
    rintro ⟨recipient, message⟩ hpost
    obtain ⟨other, hother, hposted⟩ := List.mem_filterMap.mp hpost
    split_ifs at hposted
    obtain ⟨rfl, -⟩ := Prod.mk.inj (Option.some.inj hposted)
    simp [noticeOf, hothers other hother]
  have hbefore : ∀ other ∈ before, other.id ≠ participant.id := by
    intro other hother
    exact hdisjoint other.id (List.mem_map.mpr ⟨other, hother, rfl⟩) participant.id
      List.mem_cons_self
  have hlater : ∀ other ∈ after, other.id ≠ participant.id := by
    intro other hother hsame
    exact hafter (List.mem_map.mpr ⟨other, hother, hsame⟩)
  have hcopy : noticeOf event.roomCode participant.id
      (participant.id, ProtocolCodec.encodeEvent event) = some (noticeOfEvent event) := by
    simp [noticeOf, observe_encodeEvent, roomCode_noticeOfEvent]
  rw [notices, Session.eventPosts, hsplit, List.filterMap_append, List.filterMap_append,
    hsilent before hbefore, List.nil_append, List.filterMap_cons,
    if_pos (show _ ∧ _ from ⟨hskip, hregistered⟩)]
  simp only [List.filterMap_cons, hcopy, hsilent after hlater]

/-! ## The effect of one step on a room and on what is known about it -/

/-- The registered members of a room, other than one. -/
def Hears (server : Server) (room : Room) (self session : ParticipantId) : Prop :=
  session ∈ server.registry ∧ session ≠ self ∧ room.hasParticipant session = true

instance (server : Server) (room : Room) (self session : ParticipantId) :
    Decidable (server.Hears room self session) :=
  inferInstanceAs (Decidable (_ ∧ _))

/-- What a step does to a slot, and the notices about it that a session is sent. -/
inductive RoomEffect (server : Server) (code : RoomCode) (session : ParticipantId) :
    Option Room → Option Room → List Observation → Prop
  | same {slot : Option Room} : RoomEffect server code session slot slot []
  | created {participant : Participant} {password : Option RoomSecret} :
      RoomEffect server code session none (some ⟨code, password, [participant]⟩)
        (if session = participant.id then [.snapshot code [participant]] else [])
  | joined {participant : Participant} {room : Room}
      (hnew : room.hasParticipant participant.id = false) :
      RoomEffect server code session (some room) (some (room.append participant))
        (if session = participant.id then
          [.snapshot code (room.participants ++ [participant])]
        else if server.Hears room participant.id session then
          [.joined code participant (room.participants ++ [participant])]
        else [])
  | left {self : ParticipantId} {room : Room} :
      RoomEffect server code session (some room) (remainingSlot room self)
        (if server.Hears room self session then
          [.left code self (room.without self).participants]
        else [])

/-- The notices of a join event. -/
theorem notices_joinedRoom {server : Server} {code : RoomCode} {participant : Participant}
    {room : Room} (hnodup : (room.participants.map Participant.id).Nodup)
    (hnew : room.hasParticipant participant.id = false) (session : ParticipantId) :
    notices code session (Session.eventPosts server.registry
      (.joinedRoom code participant (room.participants ++ [participant]))) =
      if server.Hears room participant.id session then
        [.joined code participant (room.participants ++ [participant])]
      else [] := by
  have hreaches : Reaches server.registry
      (.joinedRoom code participant (room.participants ++ [participant])) session ↔
      server.Hears room participant.id session := by
    constructor
    · rintro ⟨hregistered, receiver, hmem, rfl, hskip⟩
      -- The joiner is among the receivers of its own event, and skipped.
      have hother : receiver.id ≠ participant.id := by simpa [Session.skips] using hskip
      refine ⟨hregistered, hother, (Room.hasParticipant_iff room receiver.id).mpr ?_⟩
      rcases List.mem_append.mp hmem with hold | hlast
      · exact ⟨receiver, hold, rfl⟩
      · rw [List.mem_singleton.mp hlast] at hother
        exact absurd rfl hother
    · rintro ⟨hregistered, hother, hmember⟩
      obtain ⟨receiver, hmem, rfl⟩ := (Room.hasParticipant_iff room session).mp hmember
      refine ⟨hregistered, receiver, List.mem_append_left _ hmem, rfl, ?_⟩
      simpa [Session.skips] using hother
  split_ifs with hhears
  · exact notices_eventPosts_of_reaches (.joinedRoom code participant _)
      (Room.nodup_append hnew hnodup) (hreaches.mpr hhears)
  · exact notices_eventPosts_of_not_reaches (fun h => hhears (hreaches.mp h)) code

/-- The notices of a leave event, sent through the registry with or without the leaver. -/
theorem notices_leftRoom (server : Server) {registry : SessionRegistry} {code : RoomCode}
    {self : ParticipantId} {room : Room}
    (hnodup : (room.participants.map Participant.id).Nodup)
    (hregistry : ∀ session, session ≠ self → (session ∈ registry ↔ session ∈ server.registry))
    (session : ParticipantId) :
    notices code session (Session.eventPosts registry
      (.leftRoom code self (room.without self).participants)) =
      if server.Hears room self session then
        [.left code self (room.without self).participants]
      else [] := by
  have hreaches : Reaches registry (.leftRoom code self (room.without self).participants)
      session ↔ server.Hears room self session := by
    constructor
    · rintro ⟨hregistered, receiver, hmem, rfl, -⟩
      obtain ⟨hold, hother⟩ := List.mem_filter.mp hmem
      have hne : receiver.id ≠ self := by simpa using hother
      exact ⟨(hregistry _ hne).mp hregistered, hne,
        (Room.hasParticipant_iff room receiver.id).mpr ⟨receiver, hold, rfl⟩⟩
    · rintro ⟨hregistered, hother, hmember⟩
      obtain ⟨receiver, hmem, rfl⟩ := (Room.hasParticipant_iff room session).mp hmember
      refine ⟨(hregistry _ hother).mpr hregistered, receiver, ?_, rfl, rfl⟩
      exact List.mem_filter.mpr ⟨hmem, by simpa using hother⟩
  split_ifs with hhears
  · exact notices_eventPosts_of_reaches (.leftRoom code self _)
      (Room.nodup_without self hnodup) (hreaches.mpr hhears)
  · exact notices_eventPosts_of_not_reaches (fun h => hhears (hreaches.mp h)) code

/-- A message that is no notice at all. -/
theorem noticeOf_of_unobserved {code : RoomCode} {session recipient : ParticipantId}
    {message : Json} (h : observe message = none) :
    noticeOf code session (recipient, message) = none := by
  simp [noticeOf, h]

/-- The notice of a successful create or join result. -/
theorem noticeOf_snapshot {code target : RoomCode} {session self : ParticipantId} {message : Json}
    {participants : List Participant}
    (h : observe message = some (.snapshot target participants)) :
    (noticeOf code session (self, message)).toList =
      if session = self ∧ target = code then [.snapshot code participants] else [] := by
  by_cases hself : self = session
  · by_cases hcode : target = code
    · simp [noticeOf, h, hself, hcode, Observation.roomCode]
    · simp [noticeOf, h, hself, hcode, Observation.roomCode]
  · simp [noticeOf, hself, Ne.symm hself]

/-- The effect of a frame. -/
theorem roomEffect_of_frame {server server' : Server} {self : ParticipantId} {frame : Frame}
    {draws : Nat → Draw} {posts : List Posted} (hwell : server.WellFormed)
    (houtcome : FrameOutcome parse server self frame draws server' posts) (code : RoomCode)
    (session : ParticipantId) :
    RoomEffect server code session (server.rooms.lookup code) (server'.rooms.lookup code)
      (notices code session posts) := by
  cases houtcome with
  | refused hreply hok =>
      have hnone := observe_of_not_ok hreply hok
      simp only [notices_cons, noticeOf_of_unobserved hnone]
      exact .same
  | relayed hrequest hself htarget hregistered =>
      have hrelay (response : SignalingResponse) :
          observe (ProtocolCodec.encodeSignalingEvent response) = none :=
        observe_relay (isRelay_encodeSignalingEvent response)
      have hresult (requestId : Option String) (type : SignalingType)
          (payload : SuccessResponsePayload) : observe (ProtocolCodec.encodeResponse
            (.success ⟨.signaling, requestId, some type⟩ payload)) = none := observe_success
      simp only [notices_cons, noticeOf_of_unobserved (hrelay _),
        noticeOf_of_unobserved (hresult _ _ _)]
      exact .same
  | created hrequest hfresh =>
      rename_i requestId displayName password fresh
      have hobserve : observe (ProtocolCodec.encodeResponse (.success
          ⟨.createRoom, requestId, none⟩ (.createRoom
            ⟨fresh, ⟨self, displayName⟩, [⟨self, displayName⟩]⟩))) =
          some (.snapshot fresh [⟨self, displayName⟩]) := by
        rw [observe_success]
        exact observeSnapshot_rosterToJson _ _ _
      simp only [notices_cons, noticeOf_snapshot hobserve]
      by_cases hcode : code = fresh
      · subst hcode
        have hnone : server.rooms.lookup code = none := (freshCode_spec hfresh).1
        simp only [Rooms.lookup_insert_eq, if_true, hnone, and_true]
        simp only [notices, List.filterMap_nil, List.append_nil]
        exact .created
      · simp only [Rooms.lookup_insert_eq, if_neg hcode, Ne.symm hcode, and_false, if_false]
        exact .same
  | joined hrequest hstored hadmits =>
      rename_i requestId target displayName password room
      have hobserve : observe (ProtocolCodec.encodeResponse (.success
          ⟨.joinRoom, requestId, none⟩ (.joinRoom ⟨target, ⟨self, displayName⟩,
            room.participants ++ [⟨self, displayName⟩]⟩))) =
          some (.snapshot target (room.participants ++ [⟨self, displayName⟩])) := by
        rw [observe_success]
        exact observeSnapshot_rosterToJson _ _ _
      simp only [notices_cons, noticeOf_snapshot hobserve]
      by_cases hcode : code = target
      · subst hcode
        simp only [Rooms.lookup_insert_eq, if_true, hstored, and_true,
          notices_joinedRoom (hwell.nodup code room hstored) hadmits.1]
        have heffect : RoomEffect server code session (some room)
            (some (room.append ⟨self, displayName⟩)) _ := .joined hadmits.1
        convert heffect using 1
        -- The joiner hears its result only, everybody else the event only.
        by_cases hsession : session = self
        · simp [hsession, Hears]
        · simp [hsession]
      · have hother := notices_eventPosts_of_ne server.registry (.joinedRoom target
          ⟨self, displayName⟩ (room.participants ++ [⟨self, displayName⟩])) (Ne.symm hcode)
        simp only [Rooms.lookup_insert_eq, if_neg hcode, Ne.symm hcode, and_false, if_false,
          hother, List.append_nil]
        exact .same
  | left hrequest hstored hmember =>
      rename_i requestId target room
      have hresult : observe (ProtocolCodec.encodeResponse (.success
          ⟨.leaveRoom, requestId, none⟩ (.leaveRoom ⟨target⟩))) = none := observe_success
      simp only [notices_cons, noticeOf_of_unobserved hresult, Option.toList_none,
        List.nil_append]
      by_cases hcode : code = target
      · subst hcode
        simp only [Rooms.lookup_setSlot_self, hstored,
          notices_leftRoom server (hwell.nodup code room hstored) (fun _ _ => Iff.rfl)]
        exact .left
      · have hother := notices_eventPosts_of_ne server.registry (.leftRoom target self
          (room.without self).participants) (Ne.symm hcode)
        simp only [Rooms.lookup_setSlot_of_ne _ hcode, hother]
        exact .same

/-- What is picked from the posts of a sweep over distinct codes, when only events about one room
are picked from: the posts of the leave of that room, if the sweep passes it. -/
theorem pick_sweep {β : Type} {registry : SessionRegistry} {self : ParticipantId}
    {code : RoomCode} (pick : Posted → Option β)
    (hpick : ∀ event : ControlDispatcherEvent, event.roomCode ≠ code →
      (Session.eventPosts registry event).filterMap pick = [])
    (slots : RoomCode → Option Room) {codes : List RoomCode} (hnodup : codes.Nodup) :
    ((codes.filterMap fun other => leftEvent self other (slots other)).flatMap
        (Session.eventPosts registry)).filterMap pick =
      if code ∈ codes then
        ((leftEvent self code (slots code)).toList.flatMap
          (Session.eventPosts registry)).filterMap pick
      else [] := by
  induction codes with
  | nil => rfl
  | cons head rest ih =>
      obtain ⟨hhead, hrest⟩ := List.nodup_cons.mp hnodup
      have hsplit : (List.cons head rest).filterMap (fun other =>
          leftEvent self other (slots other)) =
          (leftEvent self head (slots head)).toList ++
            rest.filterMap fun other => leftEvent self other (slots other) := by
        rw [List.filterMap_cons]
        cases leftEvent self head (slots head) <;> rfl
      rw [hsplit, List.flatMap_append, List.filterMap_append, ih hrest]
      -- The sweep passes the room at most once.
      by_cases hcode : code = head
      · subst hcode
        simp [hhead]
      · have hsilent : ((leftEvent self head (slots head)).toList.flatMap
            (Session.eventPosts registry)).filterMap pick = [] := by
          cases hevent : leftEvent self head (slots head) with
          | none => rfl
          | some event =>
              have hother : event.roomCode ≠ code := by
                rw [roomCode_of_leftEvent hevent]
                exact Ne.symm hcode
              simpa using hpick event hother
        rw [hsilent, List.nil_append]
        simp [hcode]

/-- The same for a whole clean-up, whose sweep passes every stored code. -/
theorem pick_dropPosts {β : Type} (server : Server) (self : ParticipantId) (order : HashOrder)
    {code : RoomCode} (pick : Posted → Option β)
    (hpick : ∀ event : ControlDispatcherEvent, event.roomCode ≠ code →
      (Session.eventPosts (server.registry.remove self) event).filterMap pick = []) :
    (server.dropPosts self order).filterMap pick =
      ((leftEvent self code (server.rooms.lookup code)).toList.flatMap
        (Session.eventPosts (server.registry.remove self))).filterMap pick := by
  rw [dropPosts, disconnectEvents, pick_sweep pick hpick _
    (Rooms.getRoomCodes_nodup server.rooms order)]
  split_ifs with hlisted
  · rfl
  · rw [Rooms.mem_getRoomCodes] at hlisted
    cases hstored : server.rooms.lookup code with
    | none => rfl
    | some room => exact absurd ⟨room, hstored⟩ hlisted

/-- The effect of a clean-up. -/
theorem roomEffect_of_drop {server : Server} (hwell : server.WellFormed) (self : ParticipantId)
    (order : HashOrder) (code : RoomCode) (session : ParticipantId) :
    RoomEffect server code session (server.rooms.lookup code)
      ((server.dropSession self order).rooms.lookup code)
      (notices code session (server.dropPosts self order)) := by
  have hslot : (server.dropSession self order).rooms.lookup code =
      (leaveSlot code self (server.rooms.lookup code)).2 :=
    lookup_disconnectRooms order self server.rooms code
  have hnotices : notices code session (server.dropPosts self order) =
      notices code session ((leftEvent self code (server.rooms.lookup code)).toList.flatMap
        (Session.eventPosts (server.registry.remove self))) :=
    pick_dropPosts server self order _ fun event hother =>
      notices_eventPosts_of_ne _ event hother session
  rw [hslot, hnotices]
  cases hstored : server.rooms.lookup code with
  | none => exact .same
  | some room =>
      cases hmember : room.hasParticipant self with
      | false =>
          simp only [leaveSlot, leftEvent, hmember, Bool.false_eq_true, if_false]
          exact .same
      | true =>
          -- The leaver is out of the registry by then; for everybody else nothing has changed.
          have hregistry : ∀ session, session ≠ self →
              (session ∈ server.registry.remove self ↔ session ∈ server.registry) := by
            intro session hother
            exact Finset.mem_erase.trans (and_iff_right hother)
          simp only [leaveSlot_of_member hmember, leftEvent, hmember, if_true, Option.toList_some,
            List.flatMap_singleton,
            notices_leftRoom server (hwell.nodup code room hstored) hregistry]
          exact .left

/-- Every step has one of these effects. -/
theorem roomEffect_of_step {server server' : Server} {event : Event} {posts : List Posted}
    (hwell : server.WellFormed)
    (hstep : (machine parse).step server event = some (server', posts)) (code : RoomCode)
    (session : ParticipantId) :
    RoomEffect server code session (server.rooms.lookup code) (server'.rooms.lookup code)
      (notices code session posts) := by
  rcases step_cases hstep with ⟨other, -, -, rfl, rfl⟩ |
    ⟨other, frame, draws, -, -, houtcome⟩ | ⟨other, order, -, -, rfl, rfl⟩ |
    ⟨other, order, -, -, rfl, rfl⟩
  · exact .same
  · exact roomEffect_of_frame hwell houtcome code session
  · exact roomEffect_of_drop hwell other order code session
  · exact .same

/-! ## Agreement over runs -/

/-- The notices of a session about a room, over a whole history. -/
def noticesOf (code : RoomCode) (session : ParticipantId)
    (history : List (EventMachine.Step Server Event Posted)) : List Observation :=
  notices code session (EventMachine.trace history)

theorem noticesOf_concat (code : RoomCode) (session : ParticipantId)
    (history : List (EventMachine.Step Server Event Posted))
    (st : EventMachine.Step Server Event Posted) :
    noticesOf code session (history ++ [st]) =
      noticesOf code session history ++ notices code session st.output := by
  rw [noticesOf, EventMachine.trace_concat, notices_append]
  rfl

/-- Whoever is in a stored room and registered after a step was registered before it, or had
never been accepted. -/
theorem registered_before {server server' : Server} {event : Event} {posts : List Posted}
    (hstep : (machine parse).step server event = some (server', posts)) {session : ParticipantId}
    (hregistered : session ∈ server'.registry) (haccepted : session ∈ server.accepted) :
    session ∈ server.registry := by
  rcases step_cases hstep with ⟨other, -, hnew, rfl, -⟩ | ⟨other, frame, draws, -, -, houtcome⟩ |
    ⟨other, order, -, -, rfl, -⟩ | ⟨other, order, -, -, rfl, -⟩
  · rcases Finset.mem_insert.mp hregistered with rfl | hold
    · exact absurd haccepted hnew
    · exact hold
  · rw [houtcome.sessions_eq.1] at hregistered
    exact hregistered
  · exact Finset.mem_of_mem_erase hregistered
  · exact hregistered

/-- The replay of every registered member of every room is the stored list. -/
def Agrees (history : List (EventMachine.Step Server Event Posted)) (server : Server) : Prop :=
  ∀ code room session, server.rooms.lookup code = some room → session ∈ server.registry →
    room.hasParticipant session = true →
    replay (noticesOf code session history) = some room.participants

theorem Agrees.step {history : List (EventMachine.Step Server Event Posted)}
    {server server' : Server} {event : Event} {posts : List Posted} (hwell : server.WellFormed)
    (hagrees : Agrees history server)
    (hstep : (machine parse).step server event = some (server', posts)) :
    Agrees (history ++ [⟨server, event, posts, server'⟩]) server' := by
  intro code room' session hstored hregistered hmember
  -- A member of the room before the step was accepted then, so it was registered then.
  have hearlier (room : Room) (hroom : server.rooms.lookup code = some room)
      (hold : room.hasParticipant session = true) : session ∈ server.registry := by
    obtain ⟨participant, hmem, rfl⟩ := (Room.hasParticipant_iff room session).mp hold
    have haccepted := hwell.members_accepted code room hroom participant hmem
    exact registered_before hstep hregistered haccepted
  have heffect := roomEffect_of_step hwell hstep code session
  rw [noticesOf_concat]
  change replay (_ ++ notices code session posts) = _
  generalize hslot : server.rooms.lookup code = before at heffect
  rw [hstored] at heffect
  generalize hafter : some room' = after at heffect
  generalize notices code session posts = sent at heffect ⊢
  cases heffect with
  | same =>
      have hroom := hslot.trans hafter.symm
      rw [List.append_nil]
      exact hagrees code room' session hroom (hearlier room' hroom hmember) hmember
  | created =>
      rename_i participant password
      obtain rfl := Option.some.inj hafter
      have hself : session = participant.id := by
        obtain ⟨listed, hlisted, hid⟩ := (Room.hasParticipant_iff _ session).mp hmember
        rw [← hid, List.mem_singleton.mp hlisted]
      rw [if_pos hself, replay_after_snapshot]
      rfl
  | joined hnew =>
      rename_i participant room
      obtain rfl := Option.some.inj hafter
      by_cases hself : session = participant.id
      · rw [if_pos hself, replay_after_snapshot]
        rfl
      · have hold : room.hasParticipant session = true := by
          rw [Room.hasParticipant_append] at hmember
          simpa [Ne.symm hself] using hmember
        have hthen := hearlier room hslot hold
        have hhears : server.Hears room participant.id session := ⟨hthen, hself, hold⟩
        rw [if_neg hself, if_pos hhears, replay_concat,
          hagrees code room session hslot hthen hold]
        rfl
  | left =>
      rename_i self room
      obtain rfl := eq_without_of_remainingSlot hafter.symm
      rw [Room.hasParticipant_without, Bool.and_eq_true] at hmember
      obtain ⟨hold, hother⟩ := hmember
      have hthen := hearlier room hslot hold
      have hhears : server.Hears room self session := ⟨hthen, by simpa using hother, hold⟩
      rw [if_pos hhears, replay_concat, hagrees code room session hslot hthen hold]
      rfl

theorem agrees_of_run {history : List (EventMachine.Step Server Event Posted)} {server : Server}
    (hrun : (machine parse).Run history server) : Agrees history server := by
  refine EventMachine.Run.invariant (I := Agrees) ?_ ?_ hrun
  · intro code room session hstored
    cases hstored
  · intro history server event server' posts hprev hagrees hstep
    exact hagrees.step (wellFormed_of_run hprev) hstep

/-! ## The lists that the notices carry, and who gets them -/

/-- A step sends a session at most one notice about a room, and the list in it is what the
session then knows. -/
theorem notice_of_step {history : List (EventMachine.Step Server Event Posted)}
    {server server' : Server} {event : Event} {posts : List Posted} (hwell : server.WellFormed)
    (hagrees : Agrees history server)
    (hstep : (machine parse).step server event = some (server', posts)) (code : RoomCode)
    (session : ParticipantId) :
    notices code session posts = [] ∨ ∃ notice, notices code session posts = [notice] ∧
      replay (noticesOf code session history ++ [notice]) = some notice.participants := by
  have heffect := roomEffect_of_step hwell hstep code session
  generalize hslot : server.rooms.lookup code = before at heffect
  generalize server'.rooms.lookup code = after at heffect
  generalize notices code session posts = sent at heffect ⊢
  cases heffect with
  | same => exact Or.inl rfl
  | created =>
      split_ifs with hself
      · exact Or.inr ⟨_, rfl, replay_concat _ _⟩
      · exact Or.inl rfl
  | joined hnew =>
      split_ifs with hself hhears
      · exact Or.inr ⟨_, rfl, replay_concat _ _⟩
      · obtain ⟨hregistered, -, hmember⟩ := hhears
        have hroom := hagrees code _ session hslot hregistered hmember
        refine Or.inr ⟨_, rfl, ?_⟩
        rw [replay_concat, hroom]
        rfl
      · exact Or.inl rfl
  | left =>
      split_ifs with hhears
      · obtain ⟨hregistered, -, hmember⟩ := hhears
        have hroom := hagrees code _ session hslot hregistered hmember
        refine Or.inr ⟨_, rfl, ?_⟩
        rw [replay_concat, hroom]
        rfl
      · exact Or.inl rfl

/-- Every notice of a run carries the list that the replay has reached with it. -/
theorem own_lists_of_run {history : List (EventMachine.Step Server Event Posted)}
    {server : Server} (hrun : (machine parse).Run history server) (code : RoomCode)
    (session : ParticipantId) {before after : List Observation} {notice : Observation}
    (hsplit : noticesOf code session history = before ++ notice :: after) :
    replay (before ++ [notice]) = some notice.participants := by
  induction hrun generalizing before notice after with
  | nil => simp [noticesOf, notices] at hsplit
  | snoc hprev hlast ih =>
      rw [noticesOf_concat] at hsplit
      rcases notice_of_step (wellFormed_of_run hprev) (agrees_of_run hprev) hlast code session with
        hnone | ⟨last, hone, hlists⟩
      · simp only [hnone, List.append_nil] at hsplit
        exact ih hsplit
      · simp only [hone] at hsplit
        -- The notice is the new one, or it was there before.
        rcases List.eq_nil_or_concat after with rfl | ⟨rest, final, rfl⟩
        · obtain ⟨rfl, hsame⟩ := List.append_inj' hsplit rfl
          obtain rfl := List.singleton_inj.mp hsame
          exact hlists
        · have hassoc : before ++ notice :: (rest ++ [final]) =
              (before ++ notice :: rest) ++ [final] := by simp
          rw [List.concat_eq_append, hassoc] at hsplit
          exact ih (List.append_inj' hsplit rfl).1

/-- An event is sent to members only, and not to the one it is about. -/
theorem event_recipient {server server' : Server} {event : Event} {posts : List Posted}
    (hwell : server.WellFormed)
    (hstep : (machine parse).step server event = some (server', posts)) {code : RoomCode}
    {session subject : ParticipantId} {notice : Observation}
    (hsent : notice ∈ notices code session posts) (hsubject : notice.subject? = some subject) :
    subject ≠ session ∧ ∃ room, server'.rooms.lookup code = some room ∧
      room.hasParticipant session = true := by
  have heffect := roomEffect_of_step hwell hstep code session
  generalize server.rooms.lookup code = before at heffect
  generalize hafter : server'.rooms.lookup code = after at heffect
  generalize notices code session posts = sent at heffect hsent
  cases heffect with
  | same => simp at hsent
  | created =>
      split_ifs at hsent with hself
      · obtain rfl := List.mem_singleton.mp hsent
        cases hsubject
      · simp at hsent
  | joined hnew =>
      rename_i participant room
      split_ifs at hsent with hself hhears
      · obtain rfl := List.mem_singleton.mp hsent
        cases hsubject
      · obtain rfl := List.mem_singleton.mp hsent
        obtain rfl : participant.id = subject := Option.some.inj hsubject
        refine ⟨Ne.symm hself, _, rfl, ?_⟩
        rw [Room.hasParticipant_append, hhears.2.2, Bool.true_or]
      · simp at hsent
  | left =>
      rename_i self room
      split_ifs at hsent with hhears
      · obtain rfl := List.mem_singleton.mp hsent
        obtain rfl : self = subject := Option.some.inj hsubject
        obtain ⟨-, hother, hmember⟩ := hhears
        have hstays : (room.without self).hasParticipant session = true := by
          rw [Room.hasParticipant_without, hmember]
          simpa using hother
        -- Somebody who hears of the leave is still in the room, so the room is kept.
        have hoccupied : (room.without self).participants ≠ [] := by
          obtain ⟨listed, hlisted, -⟩ := (Room.hasParticipant_iff _ session).mp hstays
          exact List.ne_nil_of_mem hlisted
        exact ⟨Ne.symm hother, _, remainingSlot_of_occupied hoccupied, hstays⟩
      · simp at hsent

/-- **Rosters agree.**  After every run: the replay of what a registered member of a room was sent
is the stored participant list; every notice of every session carries the list that the replay has
reached with it; and an event only goes to sessions that are in its room after the step, never to
the session it is about. -/
theorem roster_agreement {history : List (EventMachine.Step Server Event Posted)}
    {server : Server} (hrun : (machine parse).Run history server) :
    (∀ code room session, server.rooms.lookup code = some room → session ∈ server.registry →
      room.hasParticipant session = true →
      replay (noticesOf code session history) = some room.participants) ∧
    (∀ code session before notice after,
      noticesOf code session history = before ++ notice :: after →
      replay (before ++ [notice]) = some notice.participants) ∧
    (∀ st ∈ history, ∀ recipient message notice subject, (recipient, message) ∈ st.output →
      observe message = some notice → notice.subject? = some subject →
      subject ≠ recipient ∧ ∃ room, st.post.rooms.lookup notice.roomCode = some room ∧
        room.hasParticipant recipient = true) := by
  refine ⟨agrees_of_run hrun, ?_, ?_⟩
  · intro code session before notice after hsplit
    exact own_lists_of_run hrun code session hsplit
  · intro st hmem recipient message notice subject hsent hobserve hsubject
    obtain ⟨⟨earlier, hearlier⟩, hstep⟩ := hrun.step_of_mem hmem
    have hnotice : notice ∈ notices notice.roomCode recipient st.output := by
      refine List.mem_filterMap.mpr ⟨(recipient, message), hsent, ?_⟩
      simp [noticeOf, hobserve]
    exact event_recipient (wellFormed_of_run hearlier) hstep hnotice hsubject

/-- Ann creates a room, Bob joins it: Ann's replay is the stored list. -/
theorem roster_agreement_after_join :
    ∃ history server, (machine sampleParse).exec [.connect "p_1", .connect "p_2",
        sends "p_1" createText, sends "p_2" joinText] = some (history, server) ∧
      replay (noticesOf "000000" "p_1" history) = some [⟨"p_1", "Ann"⟩, ⟨"p_2", "Bob"⟩] := by
  have hexec : (machine sampleParse).exec [.connect "p_1", .connect "p_2",
      sends "p_1" createText, sends "p_2" joinText] = some (_, _) := rfl
  refine ⟨_, _, hexec, ?_⟩
  exact (roster_agreement (EventMachine.run_of_exec hexec)).1 "000000"
    ⟨"000000", some "k", [⟨"p_1", "Ann"⟩, ⟨"p_2", "Bob"⟩]⟩ "p_1" rfl (by decide) (by decide)

end Server
end Net
end BuzzWeb
