import Mathlib
import BuzzWeb.App.DisconnectSweep
import BuzzWeb.Client.IceQueue
import BuzzWeb.Client.ServerMessages
import BuzzWeb.Net.RoomCreation
import BuzzWeb.Net.SocketDelivery

/-!
# The room that the page shows

The page never asks which room a `participant_joined` or `participant_left` is about, and it keeps
one room code.  That is right exactly as long as its session is in one room at a time: then the page
shows the stored room once it has handled what it was sent, and no room when the session is in none.

`ShowsAll` follows the view over the messages of a session; `Matches` relates it to the rooms of the
server.  The two meet in `page_shows_room`, where the run of the page is any run that receives these
messages: the clicks, the edits and the settling of promises in between do not matter.
-/

namespace BuzzWeb
namespace Client

open Domain App Net Script EventLoop

/-! ## Handling messages one after the other -/

/-- The handler of the message takes a page that shows `view` to one that shows `view'`. -/
def Shows (browser : Browser) (message : Json) (view view' : View) : Prop :=
  ∀ page : Page, page.Guarded (fun _ => True) → page.view = view →
    (exec (Page.handleIncoming browser message) page).2.view = view'

/-- The same for the messages of a list, in order. -/
inductive ShowsAll (browser : Browser) (start : View) : List Json → View → Prop
  | nil : ShowsAll browser start [] start
  | snoc {messages : List Json} {message : Json} {view view' : View}
      (hall : ShowsAll browser start messages view) (hlast : Shows browser message view view') :
      ShowsAll browser start (messages ++ [message]) view'

variable {browser : Browser} {start view view' : View}

theorem shows_of_does {message : Json} {f : View → View}
    (hdoes : Page.Does (Page.handleIncoming browser message) f) (view : View) :
    Shows browser message view (f view) := by
  rintro page - rfl
  obtain ⟨x, page', hexec, hview, -⟩ := hdoes page
  rw [hexec]
  exact hview

/-- Messages that change nothing. -/
theorem ShowsAll.append_still {messages new : List Json} (hall : ShowsAll browser start messages view)
    (hnew : ∀ message ∈ new, Shows browser message view view) :
    ShowsAll browser start (messages ++ new) view := by
  induction new generalizing messages with
  | nil => rwa [List.append_nil]
  | cons message rest ih =>
      rw [List.forall_mem_cons] at hnew
      rw [List.append_cons]
      exact ih (hall.snoc hnew.1) hnew.2

/-- Messages that all say the same: one or more of them change the view once. -/
theorem ShowsAll.append_each {messages new : List Json} (hall : ShowsAll browser start messages view)
    (hnew : ∀ message ∈ new, Shows browser message view view' ∧ Shows browser message view' view')
    (hsome : new ≠ []) : ShowsAll browser start (messages ++ new) view' := by
  cases new with
  | nil => exact absurd rfl hsome
  | cons message rest =>
      rw [List.forall_mem_cons] at hnew
      rw [List.append_cons]
      exact (hall.snoc hnew.1.1).append_still fun message hmem => (hnew.2 message hmem).2

/-! ## The page over its runs -/

namespace Page

/-- The messages that a page has received. -/
def messagesOf (history : List (EventMachine.Step Page Event Output)) : List Json :=
  history.filterMap fun st =>
    match st.event.input with
    | .messageReceived _ (.ok message) => some message
    | _ => none

theorem messagesOf_concat (history : List (EventMachine.Step Page Event Output))
    (st : EventMachine.Step Page Event Output) :
    messagesOf (history ++ [st]) = messagesOf history ++ messagesOf [st] :=
  List.filterMap_append

theorem good_true (event : Event) : event.Good fun _ => True :=
  fun _ _ _ _ _ => ⟨fun _ _ => trivial, fun _ _ => trivial⟩

/-- An event that brings no message leaves the view alone; one that does is the handler. -/
theorem view_of_step {page page' : Page} {event : Event} {out : List Output}
    (hguarded : page.Guarded fun _ => True)
    (hstep : (machine browser).step page event = some (page', out)) :
    (messagesOf [⟨page, event, out, page'⟩] = [] ∧ page'.view = page.view) ∨
    ∃ message, messagesOf [⟨page, event, out, page'⟩] = [message] ∧
      page'.view = (exec (handleIncoming browser message)
        { page with now := event.now, out := [] }).2.view := by
  obtain ⟨now, input⟩ := event
  have hreached := reached_of_step (fun _ => trivial) hguarded (good_true _) hstep
  cases input with
  | messageReceived socket data =>
      simp only [machine, handler, Option.map_eq_some_iff] at hstep
      obtain ⟨action, haction, hrun⟩ := hstep
      obtain ⟨-, hsome⟩ := Option.ite_none_right_eq_some.mp haction
      obtain rfl := Option.some.inj hsome
      obtain ⟨rfl, rfl⟩ := Prod.mk.inj hrun
      cases data with
      | error error => exact Or.inl ⟨rfl, rfl⟩
      | ok message =>
          refine Or.inr ⟨message, rfl, ?_⟩
          -- The listener only adds what it shows of an error.
          cases message with
          | null => rfl
          | _ =>
              simp only [onMessage, exec_tryCatch]
              rcases exec (handleIncoming browser _) _ with ⟨_ | x, after⟩ <;> rfl
  | _ =>
      obtain ⟨final, hfinal, rfl, -⟩ := hreached
      have hsame := view_of_reached hfinal
      exact Or.inl ⟨rfl, hsame⟩

/-- The view of a page is what its messages show. -/
theorem view_of_run {history : List (EventMachine.Step Page Event Output)} {page : Page}
    (hrun : (machine browser).Run history page) {view : View}
    (hshows : ShowsAll browser fresh.view (messagesOf history) view) : page.view = view := by
  induction hrun generalizing view with
  | nil =>
      generalize hmessages : messagesOf [] = messages at hshows
      cases hshows with
      | nil => rfl
      | snoc hall hlast => simp [messagesOf] at hmessages
  | snoc hprev hlast ih =>
      have hguarded := guarded_of_run (fun _ => trivial) hprev fun st _ => good_true st.event
      rw [messagesOf_concat] at hshows
      rcases view_of_step hguarded hlast with ⟨hnone, hsame⟩ | ⟨message, hone, hhandled⟩
      · rw [hnone, List.append_nil] at hshows
        exact hsame.trans (ih hshows)
      · rw [hone] at hshows
        generalize hmessages : messagesOf _ ++ [message] = messages at hshows
        cases hshows with
        | nil => simp at hmessages
        | snoc hall hshown =>
            obtain ⟨rfl, hsame⟩ := List.append_inj' hmessages rfl
            obtain rfl := List.singleton_inj.mp hsame
            rw [hhandled]
            exact hshown _ ⟨hguarded.room, hguarded.tasks, hguarded.connected⟩ (ih hall)

end Page

/-! ## The rooms of the server -/

/-- The entries of a participant list, one for each participant, in order. -/
def rosterEntries (participants : List Participant) : List (Json × Json) :=
  participants.map fun participant =>
    (.string participant.id, ProtocolCodec.participantToJson participant)

theorem foldl_rememberEntry {participants : List Participant} {entries : List (Json × Json)}
    (hids : ∀ participant ∈ participants, participant.id ≠ "")
    (hnodup : (participants.map Participant.id).Nodup)
    (hfresh : ∀ entry ∈ entries, ∀ participant ∈ participants,
      strictEquals entry.1 (.string participant.id) = false) :
    participants.foldl Page.rememberEntry entries = entries ++ rosterEntries participants := by
  induction participants generalizing entries with
  | nil => simp [rosterEntries]
  | cons participant rest ih =>
      rw [List.forall_mem_cons] at hids
      rw [List.map_cons, List.nodup_cons] at hnodup
      have hentry : Page.rememberEntry entries participant = entries ++
          [(.string participant.id, ProtocolCodec.participantToJson participant)] := by
        rw [Page.rememberEntry, if_neg hids.1]
        exact assign_of_fresh _ fun entry hmem => hfresh entry hmem _ List.mem_cons_self
      rw [List.foldl_cons, hentry, ih hids.2 hnodup.2]
      · simp [rosterEntries]
      · intro entry hmem other hother
        rcases List.mem_append.mp hmem with hold | hnew
        · exact hfresh entry hold other (List.mem_cons_of_mem _ hother)
        · -- The new entry has another id than those that follow.
          rw [List.mem_singleton.mp hnew, strictEquals_string, beq_eq_false_iff_ne]
          rintro hsame
          exact hnodup.1 (List.mem_map.mpr ⟨other, hother, hsame.symm⟩)

theorem entriesOf_eq {participants : List Participant}
    (hids : ∀ participant ∈ participants, participant.id ≠ "")
    (hnodup : (participants.map Participant.id).Nodup) :
    Page.entriesOf participants = rosterEntries participants := by
  rw [Page.entriesOf, foldl_rememberEntry hids hnodup fun entry hmem => by cases hmem]
  rfl

/-- The view of a member of a room. -/
def roomView (code : RoomCode) (session : ParticipantId) (participants : List Participant) : View :=
  ⟨.string code, .string session, rosterEntries participants⟩

/-- The session is in the room that is stored under the code. -/
def InRoom (server : Server) (session : ParticipantId) (code : RoomCode) (room : Room) : Prop :=
  server.rooms.lookup code = some room ∧ room.hasParticipant session = true

/-- The session is in one room at most. -/
def InOneRoom (server : Server) (session : ParticipantId) : Prop :=
  ∀ code code' room room', InRoom server session code room → InRoom server session code' room' →
    code = code'

/-- The view shows the room that the session is in, or none. -/
structure Matches (server : Server) (session : ParticipantId) (view : View) : Prop where
  inside : ∀ code room, InRoom server session code room →
    view = roomView code session room.participants
  outside : (∀ code room, ¬ InRoom server session code room) →
    view.roomCode = .string "" ∧ view.participants = []

variable {server server' : Server} {session : ParticipantId}

theorem matches_inside {code : RoomCode} {room : Room} (hone : InOneRoom server session)
    (hroom : InRoom server session code room) :
    Matches server session (roomView code session room.participants) := by
  constructor
  · intro code' room' hroom'
    obtain rfl := hone code code' room room' hroom hroom'
    obtain rfl := Option.some.inj (hroom.1.symm.trans hroom'.1)
    rfl
  · intro hnone
    exact absurd hroom (hnone code room)

theorem matches_outside (hnone : ∀ code room, ¬ InRoom server session code room) (view : View) :
    Matches server session (Page.clearRoom view) :=
  ⟨fun code room hroom => absurd hroom (hnone code room), fun _ => ⟨rfl, rfl⟩⟩

/-- The rooms of the session are what they were. -/
theorem Matches.congr (hmatches : Matches server session view)
    (hsame : ∀ code room, InRoom server' session code room ↔ InRoom server session code room) :
    Matches server' session view := by
  constructor
  · intro code room hroom
    exact hmatches.inside code room ((hsame code room).mp hroom)
  · intro hnone
    apply hmatches.outside
    intro code room hroom
    exact hnone code room ((hsame code room).mpr hroom)

theorem mem_messagesTo {posts : List Posted} {message : Json} :
    message ∈ messagesTo session posts ↔ (session, message) ∈ posts := by
  rw [messagesTo, List.mem_filterMap]
  constructor
  · rintro ⟨⟨recipient, posted⟩, hmem, hsome⟩
    split_ifs at hsome with hsame
    obtain rfl := Option.some.inj hsome
    rwa [← show recipient = session from hsame]
  · intro hmem
    exact ⟨(session, message), hmem, if_pos rfl⟩

theorem messagesTo_cons_self (message : Json) (posts : List Posted) :
    messagesTo session ((session, message) :: posts) = message :: messagesTo session posts := by
  simp [messagesTo]

theorem messagesTo_eq_nil {posts : List Posted} (h : ∀ message, (session, message) ∉ posts) :
    messagesTo session posts = [] := by
  rw [List.eq_nil_iff_forall_not_mem]
  intro message hmem
  exact h message (mem_messagesTo.mp hmem)

/-! ## One step of the server -/

/-- What a session was sent shows the room it is in. -/
def Followed (browser : Browser) (messages : List Json) (server : Server)
    (session : ParticipantId) : Prop :=
  ∃ view, ShowsAll browser Page.fresh.view messages view ∧ Matches server session view

/-- The laws of the state that the views rest on. -/
structure Presentable (server : Server) : Prop where
  wellFormed : server.WellFormed
  codes : ∀ code room, server.rooms.lookup code = some room → code ≠ ""
  ids : ∀ id ∈ server.accepted, id ≠ ""

theorem Presentable.entriesOf_eq (h : Presentable server) {code : RoomCode} {room : Room}
    (hstored : server.rooms.lookup code = some room) :
    Page.entriesOf room.participants = rosterEntries room.participants := by
  refine Client.entriesOf_eq ?_ (h.wellFormed.nodup code room hstored)
  intro participant hmem
  exact h.ids _ (h.wellFormed.members_accepted code room hstored participant hmem)

variable {parse : ByteArray → ParseResult} {messages : List Json} {posts : List Posted}

/-- A step that does not move the session, and tells it nothing about its room. -/
theorem followed_still (hshows : ShowsAll browser Page.fresh.view messages view)
    (hmatches : Matches server session view)
    (hsame : ∀ code room, InRoom server' session code room ↔ InRoom server session code room)
    (hstill : ∀ message, (session, message) ∈ posts → Shows browser message view view) :
    Followed browser (messages ++ messagesTo session posts) server' session := by
  refine ⟨view, hshows.append_still ?_, hmatches.congr hsame⟩
  intro message hmem
  exact hstill message (mem_messagesTo.mp hmem)

/-- Somebody else joins or leaves the room of the session. -/
theorem followed_event {code : RoomCode} {room room' : Room} {event : ControlDispatcherEvent}
    (hshows : ShowsAll browser Page.fresh.view messages (roomView code session room.participants))
    (hgood : Presentable server') (hone : InOneRoom server' session)
    (hroom : InRoom server' session code room')
    (hreceivers : event.eventReceivers = room'.participants)
    (heach : ∀ message, (session, message) ∈ posts → message = ProtocolCodec.encodeEvent event)
    (hsent : (session, ProtocolCodec.encodeEvent event) ∈ posts) :
    Followed browser (messages ++ messagesTo session posts) server' session := by
  have hlists (participants : List Participant) :
      Shows browser (ProtocolCodec.encodeEvent event) (roomView code session participants)
        (roomView code session room'.participants) := by
    have hevent := shows_of_does (Page.does_event browser event)
      (roomView code session participants)
    rw [hreceivers, hgood.entriesOf_eq hroom.1] at hevent
    exact hevent
  refine ⟨_, hshows.append_each ?_ ?_, matches_inside hone hroom⟩
  · intro message hmem
    rw [heach message (mem_messagesTo.mp hmem)]
    exact ⟨hlists _, hlists _⟩
  · exact List.ne_nil_of_mem (mem_messagesTo.mpr hsent)

/-- The session enters a room. -/
theorem followed_roster {requestMeta : RequestMeta} {payload : SuccessResponsePayload}
    {code : RoomCode} {displayName : String} {room : Room}
    (hshows : ShowsAll browser Page.fresh.view messages view)
    (hgood : Presentable server') (hone : InOneRoom server' session)
    (hroom : InRoom server' session code room)
    (hposts : messagesTo session posts =
      [ProtocolCodec.encodeResponse (.success requestMeta payload)])
    (htype : ProtocolCodec.resultType requestMeta ∈ ["create_room_result", "join_room_result"])
    (hpayload : ProtocolCodec.successPayloadToJson payload =
      ProtocolCodec.rosterToJson code ⟨session, displayName⟩ room.participants) :
    Followed browser (messages ++ messagesTo session posts) server' session := by
  rw [hposts]
  refine ⟨_, hshows.snoc ?_, matches_inside hone hroom⟩
  have hshown := shows_of_does (Page.does_roster browser htype hpayload) view
  have hsession : session ≠ "" := by
    obtain ⟨participant, hmem, rfl⟩ := (Room.hasParticipant_iff room session).mp hroom.2
    exact hgood.ids _ (hgood.wellFormed.members_accepted code room hroom.1 participant hmem)
  rw [Page.showRoster, truthy_string (hgood.codes code room hroom.1), truthy_string hsession,
    hgood.entriesOf_eq hroom.1] at hshown
  exact hshown

/-- A create, by the session or by somebody else. -/
theorem followed_of_created {self : ParticipantId} {requestId : Option String} {code : RoomCode}
    {displayName : String} {password : Option RoomSecret}
    (hfollowed : Followed browser messages server session) (hgood' : Presentable server')
    (hone' : InOneRoom server' session) (hfresh : server.rooms.lookup code = none)
    (hserver : server' = { server with
      rooms := server.rooms.insert code ⟨code, password, [⟨self, displayName⟩]⟩ }) :
    Followed browser (messages ++ messagesTo session [(self, ProtocolCodec.encodeResponse
      (.success ⟨.createRoom, requestId, none⟩ (.createRoom ⟨code, ⟨self, displayName⟩,
        [⟨self, displayName⟩]⟩)))]) server' session := by
  obtain ⟨view, hshows, hmatches⟩ := hfollowed
  have hlookup (other : RoomCode) : server'.rooms.lookup other =
      if other = code then some ⟨code, password, [⟨self, displayName⟩]⟩
      else server.rooms.lookup other := by
    rw [hserver]
    exact Rooms.lookup_insert_eq server.rooms code other _
  by_cases hself : self = session
  · subst hself
    have hroom : InRoom server' self code ⟨code, password, [⟨self, displayName⟩]⟩ := by
      refine ⟨by rw [hlookup, if_pos rfl], ?_⟩
      simp [Room.hasParticipant]
    exact followed_roster hshows hgood' hone' hroom (messagesTo_cons_self _ _) List.mem_cons_self rfl
  · refine followed_still hshows hmatches ?_ ?_
    · intro other room
      simp only [InRoom, hlookup]
      split_ifs with hcode
      · -- The new room has only its creator in it.
        subst hcode
        rw [hfresh]
        constructor
        · rintro ⟨hroom, hmember⟩
          obtain rfl := Option.some.inj hroom
          simp [Room.hasParticipant, hself] at hmember
        · rintro ⟨hroom, -⟩
          cases hroom
      · exact Iff.rfl
    · intro message hmem
      obtain ⟨hsame, -⟩ := Prod.mk.inj (List.mem_singleton.mp hmem)
      exact absurd hsame.symm hself

/-- The messages of a result and an event, to a session that did not ask. -/
theorem mem_eventPosts_of_ne {self : ParticipantId} {reply message : Json}
    {event : ControlDispatcherEvent} (hself : self ≠ session)
    (hmem : (session, message) ∈ (self, reply) :: Session.eventPosts server.registry event) :
    (session, message) ∈ Session.eventPosts server.registry event := by
  rcases List.mem_cons.mp hmem with hsame | hevent
  · exact absurd (Prod.mk.inj hsame).1.symm hself
  · exact hevent

/-- A join, by the session or by somebody else. -/
theorem followed_of_joined {self : ParticipantId} {requestId : Option String} {code : RoomCode}
    {displayName : String} {room : Room} {event : ControlDispatcherEvent}
    (hfollowed : Followed browser messages server session) (hgood' : Presentable server')
    (hone' : InOneRoom server' session) (hregistered : session ∈ server.registry)
    (hstored : server.rooms.lookup code = some room)
    (hserver : server' = { server with
      rooms := server.rooms.insert code (room.append ⟨self, displayName⟩) })
    (hevent : event = .joinedRoom code ⟨self, displayName⟩
      (room.participants ++ [⟨self, displayName⟩])) :
    Followed browser (messages ++ messagesTo session ((self, ProtocolCodec.encodeResponse
        (.success ⟨.joinRoom, requestId, none⟩ (.joinRoom ⟨code, ⟨self, displayName⟩,
          room.participants ++ [⟨self, displayName⟩]⟩))) ::
        Session.eventPosts server.registry event)) server' session := by
  obtain ⟨view, hshows, hmatches⟩ := hfollowed
  have hlookup (other : RoomCode) : server'.rooms.lookup other =
      if other = code then some (room.append ⟨self, displayName⟩) else server.rooms.lookup other := by
    rw [hserver]
    exact Rooms.lookup_insert_eq server.rooms code other _
  have hreceivers : event.eventReceivers = (room.append ⟨self, displayName⟩).participants := by
    rw [hevent]
    rfl
  by_cases hself : self = session
  · subst hself
    have hroom : InRoom server' self code (room.append ⟨self, displayName⟩) := by
      refine ⟨by rw [hlookup, if_pos rfl], ?_⟩
      simp [Room.hasParticipant_append]
    have hskipped : messagesTo self (Session.eventPosts server.registry event) = [] := by
      apply messagesTo_eq_nil
      intro message hmem
      obtain ⟨-, -, participant, -, hid, hskip⟩ := Server.mem_eventPosts.mp hmem
      simp [hevent, Session.skips, hid] at hskip
    exact followed_roster hshows hgood' hone' hroom
      ((messagesTo_cons_self _ _).trans (congrArg _ hskipped))
      (List.mem_cons_of_mem _ List.mem_cons_self) rfl
  by_cases hmember : room.hasParticipant session = true
  · obtain rfl := hmatches.inside code room ⟨hstored, hmember⟩
    have hroom : InRoom server' session code (room.append ⟨self, displayName⟩) := by
      refine ⟨by rw [hlookup, if_pos rfl], ?_⟩
      simp [Room.hasParticipant_append, hmember]
    refine followed_event hshows hgood' hone' hroom hreceivers ?_ (List.mem_cons_of_mem _ ?_)
    · intro message hmem
      exact (Server.mem_eventPosts.mp (mem_eventPosts_of_ne hself hmem)).1
    · obtain ⟨participant, hmem, hid⟩ := (Room.hasParticipant_iff room session).mp hmember
      refine Server.mem_eventPosts.mpr ⟨rfl, hregistered, participant, ?_, hid, ?_⟩
      · rw [hreceivers]
        exact List.mem_append_left _ hmem
      · simp [hevent, Session.skips, hid, Ne.symm hself]
  · refine followed_still hshows hmatches ?_ ?_
    · intro other room'
      simp only [InRoom, hlookup]
      split_ifs with hcode
      · -- The session is not in this room, neither before nor after.
        subst hcode
        rw [hstored]
        constructor
        · rintro ⟨hroom, hinside⟩
          obtain rfl := Option.some.inj hroom
          simp [Room.hasParticipant_append, hmember, hself] at hinside
        · rintro ⟨hroom, hinside⟩
          obtain rfl := Option.some.inj hroom
          exact absurd hinside hmember
      · exact Iff.rfl
    · intro message hmem
      obtain ⟨-, -, participant, hreceiver, hid, -⟩ :=
        Server.mem_eventPosts.mp (mem_eventPosts_of_ne hself hmem)
      rw [hreceivers] at hreceiver
      have hinside := (Room.hasParticipant_iff _ session).mpr ⟨participant, hreceiver, hid⟩
      simp [Room.hasParticipant_append, hmember, hself] at hinside

/-- A leave, by request; also of somebody else. -/
theorem followed_of_left {self : ParticipantId} {requestId : Option String} {code : RoomCode}
    {room : Room} {event : ControlDispatcherEvent}
    (hfollowed : Followed browser messages server session) (hgood' : Presentable server')
    (hone : InOneRoom server session) (hone' : InOneRoom server' session)
    (hregistered : session ∈ server.registry) (hstored : server.rooms.lookup code = some room)
    (hserver : server' = { server with
      rooms := server.rooms.setSlot code (remainingSlot room self) })
    (hleaves : room.hasParticipant self = true)
    (hevent : event = .leftRoom code self (room.without self).participants) :
    Followed browser (messages ++ messagesTo session ((self, ProtocolCodec.encodeResponse
        (.success ⟨.leaveRoom, requestId, none⟩ (.leaveRoom ⟨code⟩))) ::
        Session.eventPosts server.registry event)) server' session := by
  obtain ⟨view, hshows, hmatches⟩ := hfollowed
  have hself_lookup : server'.rooms.lookup code = remainingSlot room self := by
    rw [hserver]
    exact Rooms.lookup_setSlot_self _ _ _
  have hother_lookup {other : RoomCode} (hne : other ≠ code) :
      server'.rooms.lookup other = server.rooms.lookup other := by
    rw [hserver]
    exact Rooms.lookup_setSlot_of_ne _ hne _
  have hreceivers : event.eventReceivers = (room.without self).participants := by
    rw [hevent]
    rfl
  by_cases hself : self = session
  · subst hself
    rw [messagesTo_cons_self, messagesTo_eq_nil]
    · refine ⟨_, hshows.snoc (shows_of_does (Page.does_left browser rfl _) view),
        matches_outside ?_ view⟩
      intro other room' hroom
      by_cases hcode : other = code
      · subst hcode
        obtain rfl := eq_without_of_remainingSlot (hself_lookup.symm.trans hroom.1)
        simpa [Room.hasParticipant_without] using hroom.2
      · exact hcode (hone other code room' room ⟨(hother_lookup hcode).symm.trans hroom.1, hroom.2⟩
          ⟨hstored, hleaves⟩)
    · intro message hmem
      obtain ⟨-, -, participant, hreceiver, hid, -⟩ := Server.mem_eventPosts.mp hmem
      rw [hreceivers] at hreceiver
      have hinside := (Room.hasParticipant_iff _ self).mpr ⟨participant, hreceiver, hid⟩
      simp [Room.hasParticipant_without] at hinside
  have hstays : (room.without self).hasParticipant session = room.hasParticipant session := by
    simp [Room.hasParticipant_without, Ne.symm hself]
  by_cases hmember : room.hasParticipant session = true
  · obtain rfl := hmatches.inside code room ⟨hstored, hmember⟩
    rw [hmember] at hstays
    obtain ⟨participant, hmem, hid⟩ := (Room.hasParticipant_iff _ session).mp hstays
    have hroom : InRoom server' session code (room.without self) := by
      refine ⟨?_, hstays⟩
      rw [hself_lookup, remainingSlot_of_occupied (List.ne_nil_of_mem hmem)]
    refine followed_event hshows hgood' hone' hroom hreceivers ?_ (List.mem_cons_of_mem _ ?_)
    · intro message hposted
      exact (Server.mem_eventPosts.mp (mem_eventPosts_of_ne hself hposted)).1
    · refine Server.mem_eventPosts.mpr ⟨rfl, hregistered, participant, ?_, hid, ?_⟩
      · rw [hreceivers]
        exact hmem
      · rw [hevent]
        rfl
  · refine followed_still hshows hmatches ?_ ?_
    · intro other room'
      by_cases hcode : other = code
      · subst hcode
        constructor
        · rintro ⟨hroom, hinside⟩
          obtain rfl := eq_without_of_remainingSlot (hself_lookup.symm.trans hroom)
          exact absurd (hstays.symm.trans hinside) hmember
        · rintro ⟨hroom, hinside⟩
          obtain rfl := Option.some.inj (hstored.symm.trans hroom)
          exact absurd hinside hmember
      · simp only [InRoom, hother_lookup hcode]
    · intro message hmem
      obtain ⟨-, -, participant, hreceiver, hid, -⟩ :=
        Server.mem_eventPosts.mp (mem_eventPosts_of_ne hself hmem)
      rw [hreceivers] at hreceiver
      have hinside := (Room.hasParticipant_iff _ session).mpr ⟨participant, hreceiver, hid⟩
      exact absurd (hstays.symm.trans hinside) hmember

theorem followed_of_frame {self : ParticipantId} {frame : Frame} {draws : Nat → Draw}
    (hfollowed : Followed browser messages server session) (hgood' : Presentable server')
    (hone : InOneRoom server session) (hone' : InOneRoom server' session) (hregistered : session ∈ server.registry)
    (houtcome : Server.FrameOutcome parse server self frame draws server' posts) :
    Followed browser (messages ++ messagesTo session posts) server' session := by
  obtain ⟨view, hshows, hmatches⟩ := hfollowed
  cases houtcome with
  | refused hreply hok =>
      refine followed_still hshows hmatches (fun _ _ => Iff.rfl) ?_
      intro message hmem
      obtain ⟨-, rfl⟩ := Prod.mk.inj (List.mem_singleton.mp hmem)
      intro page _ hview
      exact (Page.refusal_keeps_view browser hreply hok view page hview).1
  | created hrequest hfresh =>
      exact followed_of_created ⟨view, hshows, hmatches⟩ hgood' hone' (freshCode_spec hfresh).1 rfl
  | joined hrequest hstored hadmits =>
      exact followed_of_joined ⟨view, hshows, hmatches⟩ hgood' hone' hregistered hstored rfl rfl
  | left hrequest hstored hmember =>
      exact followed_of_left ⟨view, hshows, hmatches⟩ hgood' hone hone' hregistered hstored rfl
        hmember rfl
  | relayed hrequest hself htarget hreachable =>
      rename_i requestId type code target payload
      refine followed_still hshows hmatches (fun _ _ => Iff.rfl) ?_
      intro message hmem
      rcases List.mem_cons.mp hmem with hrelay | hanswer
      · -- The target is in the room, so its page shows the room already.
        obtain ⟨rfl, rfl⟩ := Prod.mk.inj hrelay
        obtain ⟨room, hstored, hmember⟩ := (Rooms.participantInRoom_iff _ _ _).mp htarget
        intro page hguarded hview
        rw [Page.relay_keeps_view browser hrequest hguarded ?_]
        · exact hview
        · have hroom := hmatches.inside code room ⟨hstored, hmember⟩
          rw [← hview] at hroom
          exact congrArg View.roomCode hroom
      · obtain ⟨-, rfl⟩ := Prod.mk.inj (List.mem_singleton.mp hanswer)
        refine shows_of_does (Page.does_relayed browser ?_ _) view
        cases type <;> simp [ProtocolCodec.resultType, ProtocolCodec.signalingTypeToString]

/-- Somebody else goes away, and leaves all of its rooms. -/
theorem followed_of_drop {other : ParticipantId} {order : HashOrder}
    (hfollowed : Followed browser messages server session)
    (hgood' : Presentable (server.dropSession other order)) (hone : InOneRoom server session)
    (hone' : InOneRoom (server.dropSession other order) session)
    (hregistered : session ∈ server.registry) (hother : session ≠ other) :
    Followed browser (messages ++ messagesTo session (server.dropPosts other order))
      (server.dropSession other order) session := by
  obtain ⟨view, hshows, hmatches⟩ := hfollowed
  have hlookup (code : RoomCode) : (server.dropSession other order).rooms.lookup code =
      (leaveSlot code other (server.rooms.lookup code)).2 :=
    lookup_disconnectRooms order other server.rooms code
  -- An event that reaches the session is about a room that both are in.
  have hshared {message : Json} (hmem : (session, message) ∈ server.dropPosts other order) :
      ∃ code room, InRoom server session code room ∧ room.hasParticipant other = true ∧
        message = ProtocolCodec.encodeEvent
          (.leftRoom code other (room.without other).participants) := by
    obtain ⟨event, hevent, hposted⟩ := List.mem_flatMap.mp hmem
    obtain ⟨code, room, hstored, hmember, rfl⟩ := mem_disconnectEvents.mp hevent
    obtain ⟨rfl, -, participant, hreceiver, hid, -⟩ := Server.mem_eventPosts.mp hposted
    have hinside : (room.without other).hasParticipant session = true :=
      (Room.hasParticipant_iff _ session).mpr ⟨participant, hreceiver, hid⟩
    rw [Room.hasParticipant_without, Bool.and_eq_true] at hinside
    exact ⟨code, room, ⟨hstored, hinside.1⟩, hmember, rfl⟩
  by_cases htogether : ∃ code room, InRoom server session code room ∧
      room.hasParticipant other = true
  · obtain ⟨code, room, hroom, hmember⟩ := htogether
    obtain rfl := hmatches.inside code room hroom
    have hstays : (room.without other).hasParticipant session = true := by
      simp [Room.hasParticipant_without, hroom.2, hother]
    obtain ⟨participant, hmem, hid⟩ := (Room.hasParticipant_iff _ session).mp hstays
    have hroom' : InRoom (server.dropSession other order) session code (room.without other) := by
      refine ⟨?_, hstays⟩
      rw [hlookup, hroom.1, leaveSlot_of_member hmember,
        remainingSlot_of_occupied (List.ne_nil_of_mem hmem)]
    have hreceivers : (ControlDispatcherEvent.leftRoom code other
        (room.without other).participants).eventReceivers = (room.without other).participants := rfl
    refine followed_event hshows hgood' hone' hroom' hreceivers ?_ ?_
    · intro message hposted
      obtain ⟨code', room', hroom'', -, rfl⟩ := hshared hposted
      obtain rfl := hone code code' room room' hroom hroom''
      obtain rfl := Option.some.inj (hroom.1.symm.trans hroom''.1)
      rfl
    · refine List.mem_flatMap.mpr ⟨_, mem_disconnectEvents.mpr ⟨code, room, hroom.1, hmember, rfl⟩,
        Server.mem_eventPosts.mpr ⟨rfl, ?_, participant, hmem, hid, rfl⟩⟩
      exact Finset.mem_erase.mpr ⟨hother, hregistered⟩
  · refine followed_still hshows hmatches ?_ ?_
    · intro code room
      simp only [InRoom, hlookup]
      cases hstored : server.rooms.lookup code with
      | none => exact Iff.rfl
      | some stored =>
          cases hmember : stored.hasParticipant other with
          | false => simp only [leaveSlot, hmember, Bool.false_eq_true, if_false]
          | true =>
              -- The session is not in a room that the other one leaves.
              have hnot : stored.hasParticipant session ≠ true := fun hinside =>
                htogether ⟨code, stored, ⟨hstored, hinside⟩, hmember⟩
              rw [leaveSlot_of_member hmember]
              constructor
              · rintro ⟨hroom, hinside⟩
                obtain rfl := eq_without_of_remainingSlot hroom
                rw [Room.hasParticipant_without, Bool.and_eq_true] at hinside
                exact absurd hinside.1 hnot
              · rintro ⟨hroom, hinside⟩
                obtain rfl := Option.some.inj hroom
                exact absurd hinside hnot
    · intro message hmem
      obtain ⟨code, room, hroom, hmember, -⟩ := hshared hmem
      exact absurd ⟨code, room, hroom, hmember⟩ htogether

/-! ## Runs of the server -/

theorem codes_of_run {history : List (EventMachine.Step Server Server.Event Posted)}
    (hrun : (Server.machine parse).Run history server) :
    Server.AllRooms (fun code _ => code ≠ "") server := by
  refine hrun.stateInvariant ?_ fun _ _ _ _ hcodes hstep => hcodes.step hstep ?_ ?_ ?_
  · intro code room hstored
    cases hstored
  · intro code password participant draws _ hfresh
    obtain ⟨-, n, -, -, rfl⟩ := freshCode_spec hfresh
    intro hempty
    have hdigits := (sixDigits_generateRoomCode (draws n)).1
    rw [hempty] at hdigits
    cases hdigits
  · exact fun _ _ _ _ _ _ hcode => hcode
  · exact fun _ _ _ hcode => hcode

/-- Nothing is sent to a session before it is accepted. -/
theorem messagesTo_of_unaccepted
    {history : List (EventMachine.Step Server Server.Event Posted)}
    (hrun : (Server.machine parse).Run history server) (hnew : session ∉ server.accepted) :
    messagesTo session (EventMachine.trace history) = [] := by
  induction hrun with
  | nil => rfl
  | snoc hprev hlast ih =>
      have hbefore := fun haccepted => hnew (Server.accepted_mono hlast haccepted)
      rw [EventMachine.trace_concat, messagesTo_append, ih hbefore, List.nil_append]
      apply messagesTo_eq_nil
      intro message hmem
      exact hbefore (Server.recipient_accepted (Server.wellFormed_of_run hprev) hlast hmem)

/-- A step that registers a session only accepts it. -/
theorem connect_of_new {event : Server.Event} (hwell : server.WellFormed)
    (hstep : (Server.machine parse).step server event = some (server', posts))
    (hregistered : session ∈ server'.registry) (hnew : session ∉ server.accepted) :
    server' = server.connect session := by
  have hnot : session ∉ server.registry := by
    rw [hwell.registry_eq]
    exact fun hregistry => hnew (hwell.registered_accepted hregistry)
  rcases Server.step_cases hstep with ⟨other, -, -, rfl, -⟩ |
    ⟨other, frame, draws, -, -, houtcome⟩ | ⟨other, order, -, -, rfl, -⟩ |
    ⟨other, order, -, -, rfl, -⟩
  · rcases Finset.mem_insert.mp hregistered with rfl | hold
    · rfl
    · exact absurd hold hnot
  · rw [houtcome.sessions_eq.1] at hregistered
    exact absurd hregistered hnot
  · exact absurd (Finset.mem_of_mem_erase hregistered) hnot
  · exact absurd hregistered hnot

theorem followed_of_run (browser : Browser)
    {history : List (EventMachine.Step Server Server.Event Posted)}
    (hrun : (Server.machine parse).Run history server)
    (hone : ∀ st ∈ history, InOneRoom st.post session) (hids : ∀ id ∈ server.accepted, id ≠ "")
    (hregistered : session ∈ server.registry) :
    Followed browser (messagesTo session (EventMachine.trace history)) server session := by
  induction hrun with
  | nil => cases hregistered
  | snoc hprev hlast ih =>
      rename_i history server event server' posts
      have hwell := Server.wellFormed_of_run hprev
      have hgood' : Presentable server' :=
        ⟨hwell.step hlast, codes_of_run (hprev.snoc hlast), hids⟩
      rw [List.forall_mem_append, List.forall_mem_singleton] at hone
      obtain ⟨hones, hone'⟩ := hone
      have hone : InOneRoom server session := by
        cases hprev with
        | nil =>
            rintro code code' room room' ⟨hstored, -⟩
            cases hstored
        | snoc hearlier hthen => exact hones _ (List.mem_append_right _ List.mem_cons_self)
      rw [EventMachine.trace_concat, messagesTo_append]
      by_cases haccepted : session ∈ server.accepted
      · have hbefore := Server.registered_before hlast hregistered haccepted
        have hfollowed := ih hones (fun id hid => hids id (Server.accepted_mono hlast hid)) hbefore
        rcases Server.step_cases hlast with ⟨other, -, -, rfl, rfl⟩ |
          ⟨other, frame, draws, -, -, houtcome⟩ | ⟨other, order, -, -, rfl, rfl⟩ |
          ⟨other, order, -, -, rfl, rfl⟩
        · obtain ⟨view, hshows, hmatches⟩ := hfollowed
          exact followed_still hshows hmatches (fun _ _ => Iff.rfl) fun _ hmem => by cases hmem
        · exact followed_of_frame hfollowed hgood' hone hone' hbefore houtcome
        · exact followed_of_drop hfollowed hgood' hone hone' hbefore (Finset.ne_of_mem_erase hregistered)
        · obtain ⟨view, hshows, hmatches⟩ := hfollowed
          exact followed_still hshows hmatches (fun _ _ => Iff.rfl) fun _ hmem => by cases hmem
      · -- The session is new: it was sent nothing, and it is in no room.
        have hnothing : ∀ message, (session, message) ∉ posts := fun message hmem =>
          haccepted (Server.recipient_accepted hwell hlast hmem)
        rw [messagesTo_of_unaccepted hprev haccepted, messagesTo_eq_nil hnothing]
        refine ⟨_, .nil, matches_outside ?_ Page.fresh.view⟩
        rw [connect_of_new hwell hlast hregistered haccepted]
        rintro code room ⟨hstored, hmember⟩
        obtain ⟨participant, hmem, rfl⟩ := (Room.hasParticipant_iff room _).mp hmember
        exact haccepted (hwell.members_accepted code room hstored participant hmem)

/-- **The page shows its room.**  Take any run of the server and any run of the page that has
received what the server sent to its session, with any clicks, edits and settled promises in
between.  If the session is still registered and was never in two rooms at once, the page shows the
room that the session is in, with its stored participants in their order, and no room when the session
is in none.  After the clean-up of the session nothing is sent to it any more, and the page keeps what
it showed. -/
theorem page_shows_room {history : List (EventMachine.Step Server Server.Event Posted)}
    (hserver : (Server.machine parse).Run history server)
    {pageHistory : List (EventMachine.Step Page Page.Event Output)} {page : Page}
    (hpage : (Page.machine browser).Run pageHistory page)
    (hreceived : Page.messagesOf pageHistory = messagesTo session (EventMachine.trace history))
    (hregistered : session ∈ server.registry)
    (hone : ∀ st ∈ history, InOneRoom st.post session)
    (hids : ∀ id ∈ server.accepted, id ≠ "") :
    (∀ code room, server.rooms.lookup code = some room → room.hasParticipant session = true →
      page.roomCode = .string code ∧ page.ownParticipantId = .string session ∧
        page.participants = rosterEntries room.participants) ∧
    ((∀ code room, server.rooms.lookup code = some room → room.hasParticipant session = false) →
      page.roomCode = .string "" ∧ page.participants = []) := by
  obtain ⟨view, hshows, hmatches⟩ := followed_of_run browser hserver hone hids hregistered
  rw [← hreceived] at hshows
  obtain rfl := Page.view_of_run hpage hshows
  constructor
  · intro code room hstored hmember
    have hview := hmatches.inside code room ⟨hstored, hmember⟩
    exact ⟨congrArg View.roomCode hview, congrArg View.ownParticipantId hview,
      congrArg View.participants hview⟩
  · intro hnone
    apply hmatches.outside
    rintro code room ⟨hstored, hmember⟩
    rw [hnone code room hstored] at hmember
    cases hmember

theorem inOneRoom_of_keys (code : RoomCode) (h : server.rooms.keys ⊆ {code}) :
    InOneRoom server session := by
  have hcode {other : RoomCode} {room : Room} (hroom : InRoom server session other room) :
      other = code := by
    have hkey : other ∈ server.rooms.keys :=
      Finmap.mem_keys.mpr (Finmap.mem_of_lookup_eq_some hroom.1)
    exact Finset.mem_singleton.mp (h hkey)
  intro other other' room room' hroom hroom'
  rw [hcode hroom, hcode hroom']

/-! Ann has created a room and Bob has joined it; Ann's page has handled the result and the event,
and her user has started to type another name. -/

def ann : Participant := ⟨"p_1", "Ann"⟩

def bob : Participant := ⟨"p_2", "Bob"⟩

/-- What the server has sent to Ann. -/
def sentToAnn : List Json :=
  [ProtocolCodec.encodeResponse (.success ⟨.createRoom, none, none⟩
      (.createRoom ⟨"000000", ann, [ann]⟩)),
    ProtocolCodec.encodeEvent (.joinedRoom "000000" bob [ann, bob])]

theorem server_run_of_ann : ∃ history server,
    (Server.machine Server.sampleParse).exec [.connect "p_1", .connect "p_2",
      Server.sends "p_1" Server.createText, Server.sends "p_2" Server.joinText] =
        some (history, server) ∧
    messagesTo "p_1" (EventMachine.trace history) = sentToAnn ∧ "p_1" ∈ server.registry ∧
    (∀ st ∈ history, st.post.rooms.keys ⊆ {"000000"}) ∧ (∀ id ∈ server.accepted, id ≠ "") ∧
    server.rooms.lookup "000000" = some ⟨"000000", some "k", [ann, bob]⟩ :=
  ⟨_, _, rfl, rfl, by decide, by decide +kernel, by decide, rfl⟩

theorem page_run_of_ann : ∃ history page,
    (Page.machine Page.sampleBrowser).exec ([⟨0, .connectClicked (.ok ())⟩, ⟨0, .socketOpened 0⟩] ++
      sentToAnn.map Page.received ++ [⟨0, .edited .displayName "Anna"⟩]) = some (history, page) ∧
    Page.messagesOf history = sentToAnn :=
  ⟨_, _, rfl, rfl⟩

theorem page_shows_joined_room : ∃ history page,
    (Page.machine Page.sampleBrowser).Run history page ∧ Page.messagesOf history = sentToAnn ∧
    page.roomCode = .string "000000" ∧ page.participants = rosterEntries [ann, bob] := by
  obtain ⟨history, server, hserver, hsent, hregistered, hkeys, hids, hroom⟩ := server_run_of_ann
  obtain ⟨pageHistory, page, hpage, hreceived⟩ := page_run_of_ann
  have hrun := EventMachine.run_of_exec hpage
  have hshown := page_shows_room (EventMachine.run_of_exec hserver) hrun
    (hreceived.trans hsent.symm) hregistered
    (fun st hmem => inOneRoom_of_keys "000000" (hkeys st hmem)) hids
  obtain ⟨hcode, -, hlist⟩ := hshown.1 "000000" _ hroom (by decide)
  exact ⟨pageHistory, page, hrun, hreceived, hcode, hlist⟩

end Client
end BuzzWeb
