import Mathlib
import BuzzWeb.Net.Server

/-!
# What handling a frame can do

`FrameOutcome` is the complete list: the frame is refused, or it creates, joins or leaves a room,
or it is relayed.  Each case says what was asked, what the table held, what it holds now and which
messages were posted, in order.  `frameOutcome` proves that nothing else happens; invariants are
proved by cases over it.

The refusal law follows at once: a frame answered with `ok: false` changed nothing and reached
nobody else.
-/

namespace BuzzWeb
namespace Net

open Domain App

namespace Server

/-- The effect of one frame of the session `self` on the server. -/
inductive FrameOutcome (parse : ByteArray → ParseResult) (server : Server) (self : ParticipantId)
    (frame : Frame) (draws : Nat → Draw) : Server → List Posted → Prop
  | refused {answer : Json} (hreply : ClientView.isReply answer = true)
      (hok : ClientView.okFlag answer = some false) :
      FrameOutcome parse server self frame draws server [(self, answer)]
  | created {requestId : Option String} {displayName : String} {password : Option RoomSecret}
      {code : RoomCode}
      (hrequest : Session.requestOf parse self frame =
        .ok ⟨⟨.createRoom, requestId, none⟩, .createRoom ⟨⟨self, displayName⟩, password⟩⟩)
      (hfresh : freshCode server.rooms draws RoomService.maxAttempts 0 = some code) :
      FrameOutcome parse server self frame draws
        { server with rooms := server.rooms.insert code ⟨code, password, [⟨self, displayName⟩]⟩ }
        [(self, ProtocolCodec.encodeResponse (.success ⟨.createRoom, requestId, none⟩
          (.createRoom ⟨code, ⟨self, displayName⟩, [⟨self, displayName⟩]⟩)))]
  | joined {requestId : Option String} {code : RoomCode} {displayName : String}
      {password : Option RoomSecret} {room : Room}
      (hrequest : Session.requestOf parse self frame =
        .ok ⟨⟨.joinRoom, requestId, none⟩, .joinRoom ⟨code, ⟨self, displayName⟩, password⟩⟩)
      (hstored : server.rooms.lookup code = some room)
      (hadmits : room.Admits ⟨self, displayName⟩ password) :
      FrameOutcome parse server self frame draws
        { server with rooms := server.rooms.insert code (room.append ⟨self, displayName⟩) }
        ((self, ProtocolCodec.encodeResponse (.success ⟨.joinRoom, requestId, none⟩
          (.joinRoom ⟨code, ⟨self, displayName⟩, room.participants ++ [⟨self, displayName⟩]⟩))) ::
          Session.eventPosts server.registry
            (.joinedRoom code ⟨self, displayName⟩ (room.participants ++ [⟨self, displayName⟩])))
  | left {requestId : Option String} {code : RoomCode} {room : Room}
      (hrequest : Session.requestOf parse self frame =
        .ok ⟨⟨.leaveRoom, requestId, none⟩, .leaveRoom ⟨code, self⟩⟩)
      (hstored : server.rooms.lookup code = some room)
      (hmember : room.hasParticipant self = true) :
      FrameOutcome parse server self frame draws
        { server with rooms := server.rooms.setSlot code (remainingSlot room self) }
        ((self, ProtocolCodec.encodeResponse (.success ⟨.leaveRoom, requestId, none⟩
          (.leaveRoom ⟨code⟩))) ::
          Session.eventPosts server.registry
            (.leftRoom code self (room.without self).participants))
  | relayed {requestId : Option String} {type : SignalingType} {code : RoomCode}
      {target : ParticipantId} {payload : Json}
      (hrequest : Session.requestOf parse self frame =
        .ok ⟨⟨.signaling, requestId, some type⟩, .signaling ⟨type, code, self, target, payload⟩⟩)
      (hself : server.rooms.participantInRoom self code = true)
      (htarget : server.rooms.participantInRoom target code = true)
      (hregistered : target ∈ server.registry) :
      FrameOutcome parse server self frame draws server
        [(target, ProtocolCodec.encodeSignalingEvent ⟨type, code, self, target, payload⟩),
          (self, ProtocolCodec.encodeResponse (.success ⟨.signaling, requestId, some type⟩
            (.signaling ⟨type, code, self, target, payload⟩)))]

variable {parse : ByteArray → ParseResult}

/-- A request that the dispatcher answers with an error is refused. -/
theorem FrameOutcome.of_error {server : Server} {self : ParticipantId} {frame : Frame}
    {draws : Nat → Draw} {requestMeta : RequestMeta} {payload : ErrorResponsePayload} :
    FrameOutcome parse server self frame draws server
      (Session.resultPosts server.registry self
        (ControlDispatcher.errorResult requestMeta payload)) :=
  .refused (ClientView.isReply_encodeResponse _) (ClientView.okFlag_error _ _)

/-- Every frame has one of the listed outcomes. -/
theorem frameOutcome (server : Server) (self : ParticipantId) (frame : Frame)
    (draws : Nat → Draw) :
    FrameOutcome parse server self frame draws
      (server.run (Session.onFrame parse draws self frame)).1
      (server.run (Session.onFrame parse draws self frame)).2 := by
  rw [run_onFrame]
  cases hrequest : Session.requestOf parse self frame with
  | error answer =>
      -- What does not decode is answered with a protocol error.
      obtain ⟨hreply, hok⟩ := Session.requestOf_error hrequest
      exact .refused hreply hok
  | ok request =>
      obtain ⟨message, json, -, -, hdecoded⟩ := Session.requestOf_ok hrequest
      cases hdecoded with
      | createRoom htype hid hpayload hname hpassword =>
          cases hfresh : freshCode server.rooms draws RoomService.maxAttempts 0 with
          | none =>
              simp only [serve, hfresh]
              exact .of_error
          | some code =>
              simp only [serve, hfresh]
              exact .created hrequest hfresh
      | joinRoom htype hid hpayload hcode hname hpassword =>
          rename_i payload code displayName requestId password
          rcases joinSlot_cases code ⟨self, displayName⟩ password (server.rooms.lookup code) with
            ⟨room, hstored, hadmits⟩ | ⟨error, hjoin⟩
          · have hposts : FrameOutcome parse server self frame draws _ _ :=
              .joined hrequest hstored hadmits
            simp only [serve, hstored, joinSlot_of_admits hadmits]
            simpa [joinDispatch, Session.resultPosts, Rooms.setSlot] using hposts
          · simp only [serve, hjoin, Rooms.setSlot_lookup]
            exact .of_error
      | leaveRoom htype hid hpayload hcode =>
          rename_i payload code requestId
          rcases leaveSlot_cases code self (server.rooms.lookup code) with
            ⟨room, hstored, hmember⟩ | ⟨-, error, -, hleave⟩
          · have hposts : FrameOutcome parse server self frame draws _ _ :=
              .left hrequest hstored hmember
            simp only [serve, hstored, leaveSlot_of_member hmember]
            simpa [leaveDispatch, Session.resultPosts] using hposts
          · simp only [serve, hleave, Rooms.setSlot_lookup]
            exact .of_error
      | signaling htype hid hpayload hcode htarget =>
          rename_i type payload code target requestId
          cases hself : server.rooms.participantInRoom self code with
          | false =>
              simp only [serve, hself, Bool.false_and, Bool.false_eq_true, if_false]
              exact .of_error
          | true =>
              cases hother : server.rooms.participantInRoom target code with
              | false =>
                  simp only [serve, hself, hother, Bool.and_false, Bool.false_eq_true, if_false]
                  exact .of_error
              | true =>
                  simp only [serve, hself, hother, Bool.and_self, if_true]
                  -- Both are members, but the target's session may be gone already.
                  by_cases hregistered : target ∈ server.registry
                  · have hposts : FrameOutcome parse server self frame draws _ _ :=
                      .relayed hrequest hself hother hregistered
                    simpa [Session.resultPosts, hregistered] using hposts
                  · simp only [Session.resultPosts, hregistered, if_false]
                    exact .refused (ClientView.isReply_encodeResponse _)
                      (ClientView.okFlag_error _ _)

/-- The outcome of a frame whose result is already named. -/
theorem frameOutcome_of_run {server server' : Server} {self : ParticipantId} {frame : Frame}
    {draws : Nat → Draw} {posts : List Posted}
    (h : server.run (Session.onFrame parse draws self frame) = (server', posts)) :
    FrameOutcome parse server self frame draws server' posts := by
  have houtcome : FrameOutcome parse server self frame draws _ _ :=
    frameOutcome server self frame draws
  rwa [h] at houtcome

/-- The messages of an event: who gets a copy, and of what. -/
theorem mem_eventPosts {registry : SessionRegistry} {event : ControlDispatcherEvent}
    {recipient : ParticipantId} {message : Json} :
    (recipient, message) ∈ Session.eventPosts registry event ↔
      message = ProtocolCodec.encodeEvent event ∧ recipient ∈ registry ∧
      ∃ participant ∈ event.eventReceivers, participant.id = recipient ∧
        Session.skips event participant = false := by
  simp only [Session.eventPosts, List.mem_filterMap, Option.ite_none_right_eq_some,
    Option.some.injEq, Prod.mk.injEq]
  constructor
  · rintro ⟨participant, hmem, ⟨hskip, hregistered⟩, rfl, rfl⟩
    exact ⟨rfl, hregistered, participant, hmem, rfl, hskip⟩
  · rintro ⟨rfl, hregistered, participant, hmem, rfl, hskip⟩
    exact ⟨participant, hmem, ⟨hskip, hregistered⟩, rfl, rfl⟩

/-- A successful response is not a refusal. -/
theorem not_refusal_of_success {requestMeta : RequestMeta} {payload : SuccessResponsePayload}
    {events : List Posted} {self : ParticipantId} {answer : Json}
    (hevents : ∀ post ∈ events, ClientView.isReply post.2 = false)
    (hsent : (self, answer) ∈
      (self, ProtocolCodec.encodeResponse (.success requestMeta payload)) :: events)
    (hreply : ClientView.isReply answer = true) :
    ClientView.okFlag answer = some true := by
  rcases List.mem_cons.mp hsent with hsame | hevent
  · obtain ⟨-, rfl⟩ := Prod.mk.inj hsame
    exact ClientView.okFlag_success _ _
  · have hnot := hevents _ hevent
    rw [hreply] at hnot
    cases hnot

theorem isReply_eventPosts {registry : SessionRegistry} {event : ControlDispatcherEvent}
    {post : Posted} (hmem : post ∈ Session.eventPosts registry event) :
    ClientView.isReply post.2 = false := by
  obtain ⟨recipient, message⟩ := post
  obtain ⟨rfl, -, -⟩ := mem_eventPosts.mp hmem
  exact ClientView.isReply_encodeEvent event

/-- **A refused frame has no effect.**  When the direct reply says `ok: false`, the server is as
it was before the frame and nobody but the sender was sent anything, whatever the generator
drew. -/
theorem refused_frame_has_no_effect {server server' : Server} {self : ParticipantId}
    {frame : Frame} {draws : Nat → Draw} {posts : List Posted} {answer : Json}
    (hstep : (machine parse).step server (.frame self frame draws) = some (server', posts))
    (hsent : (self, answer) ∈ posts) (hreply : ClientView.isReply answer = true)
    (hok : ClientView.okFlag answer = some false) :
    server'.rooms = server.rooms ∧ server'.registry = server.registry ∧
      server'.registered = server.registered ∧ ∀ post ∈ posts, post.1 = self := by
  have houtcome := frameOutcome_of_run (run_of_step_frame hstep).2
  have hcontra {P : Prop} (htrue : ClientView.okFlag answer = some true) : P := by
    rw [hok] at htrue
    cases htrue
  cases houtcome with
  | refused _ _ =>
      refine ⟨rfl, rfl, rfl, ?_⟩
      intro post hpost
      rw [List.mem_singleton.mp hpost]
  | created hrequest hfresh =>
      exact hcontra (not_refusal_of_success (by simp) hsent hreply)
  | joined hrequest hstored hadmits =>
      exact hcontra (not_refusal_of_success (fun _ => isReply_eventPosts) hsent hreply)
  | left hrequest hstored hmember =>
      exact hcontra (not_refusal_of_success (fun _ => isReply_eventPosts) hsent hreply)
  | relayed hrequest hself htarget hregistered =>
      -- The relay itself is not a reply, so the answer is the successful response behind it.
      rcases List.mem_cons.mp hsent with hrelay | hrest
      · obtain ⟨-, rfl⟩ := Prod.mk.inj hrelay
        rw [ClientView.isReply_encodeSignalingEvent] at hreply
        cases hreply
      · exact hcontra (not_refusal_of_success (by simp) hrest hreply)

/-- A parser that knows the listed texts. -/
def parserOf (texts : List (String × Json)) (message : ByteArray) : ParseResult :=
  match texts.find? fun entry => entry.1.toUTF8 = message with
  | some entry => .value entry.2
  | none => .parseError

/-- A create, a join and a leave, as a client writes them. -/
def createText : String :=
  "\x7b\"type\":\"create_room\",\"payload\":\x7b\"display_name\":\"Ann\"," ++
    "\"password\":\"k\"\x7d\x7d"

def joinText : String :=
  "\x7b\"type\":\"join_room\",\"payload\":\x7b\"display_name\":\"Bob\"," ++
    "\"password\":\"k\",\"room_code\":\"000000\"\x7d\x7d"

def leaveText : String :=
  "\x7b\"type\":\"leave_room\",\"payload\":\x7b\"room_code\":\"000000\"\x7d\x7d"

/-- What the three texts parse to. -/
def sampleParse : ByteArray → ParseResult :=
  parserOf [
    (createText, .object [("payload", .object [("display_name", .string "Ann"),
      ("password", .string "k")]), ("type", .string "create_room")]),
    (joinText, .object [("payload", .object [("display_name", .string "Bob"),
      ("password", .string "k"), ("room_code", .string "000000")]),
      ("type", .string "join_room")]),
    (leaveText, .object [("payload", .object [("room_code", .string "000000")]),
      ("type", .string "leave_room")])]

/-- The event of a session sending one of the texts, the generator drawing zeroes. -/
def sends (session : ParticipantId) (text : String) : Event :=
  .frame session (.text text.toUTF8) fun _ => 0

/-- A room with a secret other than the one in `joinText`, with one member. -/
def guardedRoom : Room := ⟨"000000", some "other", [⟨"p_2", "Eve"⟩]⟩

/-- A join with a wrong password, of a room whose member is there to be told: nobody is. -/
theorem refused_join_has_no_effect :
    let server : Server := ⟨(∅ : Rooms).insert "000000" guardedRoom, {"p_1", "p_2"},
      {"p_1", "p_2"}, {"p_1", "p_2"}⟩
    ∃ server' posts answer,
      (machine sampleParse).step server (sends "p_1" joinText) = some (server', posts) ∧
      ("p_1", answer) ∈ posts ∧ ClientView.errorCodeOf answer = some "wrong_password" ∧
      server'.rooms = server.rooms ∧ server'.registry = server.registry ∧
      server'.registered = server.registered ∧ ∀ post ∈ posts, post.1 = "p_1" := by
  refine ⟨_, _, _, rfl, List.mem_singleton.mpr rfl, ?_, ?_⟩
  · exact ClientView.errorCodeOf_error _ _
  · exact refused_frame_has_no_effect rfl (List.mem_singleton.mpr rfl)
      (ClientView.isReply_encodeResponse _) (ClientView.okFlag_error _ _)

end Server
end Net
end BuzzWeb
