import BuzzWeb.App.MessageGrammar
import BuzzWeb.Net.SlotEffect

/-!
# Passwords are only compared

Rename the password of every create and join message of a run by an injective function and nothing
a client can see changes: the same messages go to the same sessions, step by step, and the tables
differ in the stored secrets only.  So the server's outputs depend on passwords through their
presence and their equality and in no other way.

The two runs are kept in lock step.  The relation between the tables is given slot by slot
(`RenamedRooms`), and it is preserved because the decoder only moves the password
(`decodeJson_rename`) and a room only compares it (`tryAddParticipant_rename`).
-/

namespace BuzzWeb
namespace App

open Domain ProtocolCodec

variable {rename : String → String}

/-! ## Renaming a message -/

/-- The payload with its password string renamed. -/
def renamePayload (rename : String → String) (payload : Json) : Json :=
  match payload.find? "password" with
  | some (.string password) => payload.set "password" (.string (rename password))
  | _ => payload

/-- A create or join message with the password string of its payload renamed; any other message as
it is. -/
def renameMessage (rename : String → String) (json : Json) : Json :=
  match json.find? "type", json.find? "payload" with
  | some (.string type), some payload =>
      if type = "create_room" ∨ type = "join_room" then
        json.set "payload" (renamePayload rename payload)
      else json
  | _, _ => json

/-- The command with its password renamed. -/
def renameCommand (rename : String → String) : Command → Command
  | .createRoom command =>
      .createRoom { command with passwordHash := command.passwordHash.map rename }
  | .joinRoom command =>
      .joinRoom { command with passwordHash := command.passwordHash.map rename }
  | command => command

def renameRequest (rename : String → String) (request : ControlDispatcherRequest) :
    ControlDispatcherRequest :=
  { request with command := renameCommand rename request.command }

theorem isObject_renamePayload (payload : Json) :
    (renamePayload rename payload).isObject = payload.isObject := by
  unfold renamePayload
  split <;> simp

theorem find?_renamePayload (payload : Json) {key : String} (hkey : key ≠ "password") :
    (renamePayload rename payload).find? key = payload.find? key := by
  unfold renamePayload
  split
  · next password hpassword =>
      rw [Json.find?_set (Json.isObject_of_find? hpassword), if_neg (Ne.symm hkey)]
  · rfl

theorem optionalString_renamePayload (payload : Json) :
    optionalString (renamePayload rename payload) "password" =
      (optionalString payload "password").map (Option.map rename) := by
  unfold renamePayload
  split
  · next password hpassword =>
      rw [optionalString, optionalString, Json.find?_set (Json.isObject_of_find? hpassword),
        if_pos rfl, hpassword]
      rfl
  · next hother =>
      -- There is no password string, so there is nothing to rename.
      unfold optionalString
      split
      · rfl
      · rfl
      · next password hpassword => exact absurd hpassword (hother password)
      · rfl

/-- The fields of a create or join are read off the renamed payload as before, and the password
renamed. -/
theorem commandOfType_rename {type : String} (hsecret : type = "create_room" ∨ type = "join_room")
    (participantId : ParticipantId) (signalingType : Option SignalingType) (payload : Json) :
    commandOfType participantId type signalingType (renamePayload rename payload) =
      (commandOfType participantId type signalingType payload).map (renameCommand rename) := by
  have hrequired {key : String} (hkey : key ≠ "password") :
      requiredString (renamePayload rename payload) key = requiredString payload key :=
    requiredString_congr (find?_renamePayload payload hkey)
  have hname := hrequired (show "display_name" ≠ "password" by decide)
  have hcode := hrequired (show "room_code" ≠ "password" by decide)
  rcases hsecret with rfl | rfl
  · simp only [commandOfType, if_true, hname, optionalString_renamePayload]
    cases requiredString payload "display_name" with
    | error code => rfl
    | ok displayName => cases optionalString payload "password" <;> rfl
  · simp only [commandOfType, if_true, String.reduceEq, if_false, hcode, hname,
      optionalString_renamePayload]
    cases requiredString payload "room_code" with
    | error code => rfl
    | ok roomCode =>
        cases requiredString payload "display_name" with
        | error code => rfl
        | ok displayName => cases optionalString payload "password" <;> rfl

/-- A message that is not renamed decodes to a request without a password. -/
theorem renameRequest_of_decoded {participantId : ParticipantId} {json : Json}
    {request : ControlDispatcherRequest} (hdecoded : Decoded participantId json request)
    (hplain : ∀ type, json.find? "type" = some (.string type) →
      ¬ (type = "create_room" ∨ type = "join_room")) :
    renameRequest rename request = request := by
  cases hdecoded with
  | createRoom htype _ _ _ _ => exact absurd (Or.inl rfl) (hplain _ htype)
  | joinRoom htype _ _ _ _ _ => exact absurd (Or.inr rfl) (hplain _ htype)
  | leaveRoom _ _ _ _ => rfl
  | signaling _ _ _ _ _ => rfl

/-- Decoding a renamed message: the same exception, or the same request with its password
renamed. -/
theorem decodeJson_rename (participantId : ParticipantId) (json : Json) :
    decodeJson participantId (renameMessage rename json) =
      (decodeJson participantId json).map (renameRequest rename) := by
  by_cases hsecret : ∃ type payload, json.find? "type" = some (.string type) ∧
      json.find? "payload" = some payload ∧ (type = "create_room" ∨ type = "join_room")
  · obtain ⟨type, payload, htype, hpayload, hsecret⟩ := hsecret
    have hrenamed : renameMessage rename json =
        json.set "payload" (renamePayload rename payload) := by
      simp only [renameMessage, htype, hpayload, if_pos hsecret]
    have hfind (key : String) : (renameMessage rename json).find? key =
        if "payload" = key then some (renamePayload rename payload) else json.find? key := by
      rw [hrenamed, Json.find?_set (Json.isObject_of_find? htype)]
    have htype' : (renameMessage rename json).find? "type" = some (.string type) := by
      rw [hfind, if_neg (by decide), htype]
    have hid' : (renameMessage rename json).find? "request_id" = json.find? "request_id" := by
      rw [hfind, if_neg (by decide)]
    have hpayload' : (renameMessage rename json).find? "payload" =
        some (renamePayload rename payload) := by
      rw [hfind, if_pos rfl]
    obtain ⟨typeMeta, hmeta⟩ : ∃ typeMeta, metaOfType type = some typeMeta := by
      rcases hsecret with rfl | rfl <;> exact ⟨_, rfl⟩
    simp only [decodeJson, htype, htype', hmeta, badRequestId, stringRequestId, hid', hpayload,
      hpayload']
    split_ifs with hbad
    · rfl
    · have hcommand : commandOfType participantId type typeMeta.signalingType
          (renamePayload rename payload) = _ :=
        commandOfType_rename hsecret participantId typeMeta.signalingType payload
      have hobject : (renamePayload rename payload).isObject = payload.isObject :=
        isObject_renamePayload payload
      cases payload with
      | object entries =>
          cases hentries : renamePayload rename (.object entries) with
          | object entries' =>
              rw [hentries] at hcommand
              simp only [hcommand]
              cases commandOfType participantId type typeMeta.signalingType (.object entries) <;>
                rfl
          | _ =>
              rw [hentries] at hobject
              cases hobject
      | _ => rfl
  · -- Nothing is renamed, and nothing in the request would be.
    have hrenamed : renameMessage rename json = json := by
      unfold renameMessage
      split
      · next type payload htype hpayload =>
          rw [if_neg fun hthis => hsecret ⟨type, payload, htype, hpayload, hthis⟩]
      · rfl
    rw [hrenamed]
    cases hdecode : decodeJson participantId json with
    | error exception => rfl
    | ok request =>
        have hdecoded := decodeJson_sound hdecode
        obtain ⟨payload, hpayload⟩ : ∃ payload, json.find? "payload" = some payload := by
          cases hdecoded <;> exact ⟨_, ‹_›⟩
        have hplain : ∀ type, json.find? "type" = some (.string type) →
            ¬ (type = "create_room" ∨ type = "join_room") := by
          intro type htype hthis
          exact hsecret ⟨type, payload, htype, hpayload, hthis⟩
        change _ = Except.ok (renameRequest rename request)
        rw [renameRequest_of_decoded hdecoded hplain]

/-! ## Renaming the stored secrets -/

/-- The room with its secret renamed. -/
def renameRoom (rename : String → String) (room : Room) : Room :=
  { room with roomSecret := room.roomSecret.map rename }

/-- The tables hold the same rooms under the same codes, up to the renaming of their secrets. -/
def RenamedRooms (rename : String → String) (rooms rooms' : Rooms) : Prop :=
  ∀ code, rooms'.lookup code = (rooms.lookup code).map (renameRoom rename)

/-- A room compares the given secret with its own: an injective renaming of both makes no
difference. -/
theorem tryAddParticipant_rename (hinjective : Function.Injective rename) (room : Room)
    (participant : Participant) (password : Option RoomSecret) :
    (renameRoom rename room).tryAddParticipant participant (password.map rename) =
      ((room.tryAddParticipant participant password).1,
        renameRoom rename (room.tryAddParticipant participant password).2) := by
  have hmember : (renameRoom rename room).hasParticipant participant.id =
      room.hasParticipant participant.id := rfl
  obtain ⟨code, secret, participants⟩ := room
  unfold Room.tryAddParticipant
  rw [hmember]
  split_ifs with hlisted
  · rfl
  · cases secret with
    | none => rfl
    | some secret =>
        cases password with
        | none => rfl
        | some given =>
            by_cases hsame : secret = given
            · simp [renameRoom, hsame]
            · have hrenamed : rename secret ≠ rename given := by
                intro heq
                exact hsame (hinjective heq)
              simp [renameRoom, hsame, hrenamed]

theorem joinSlot_rename (hinjective : Function.Injective rename) (roomCode : RoomCode)
    (participant : Participant) (password : Option RoomSecret) (slot : Option Room) :
    joinSlot roomCode participant (password.map rename) (slot.map (renameRoom rename)) =
      ((joinSlot roomCode participant password slot).1,
        (joinSlot roomCode participant password slot).2.map (renameRoom rename)) := by
  cases slot with
  | none => rfl
  | some room =>
      have hadd := tryAddParticipant_rename hinjective room participant password
      simp only [joinSlot, Option.map_some, hadd]
      rcases room.tryAddParticipant participant password with ⟨result, room'⟩
      cases result <;> rfl

theorem leaveSlot_rename (roomCode : RoomCode) (participantId : ParticipantId)
    (slot : Option Room) :
    leaveSlot roomCode participantId (slot.map (renameRoom rename)) =
      ((leaveSlot roomCode participantId slot).1,
        (leaveSlot roomCode participantId slot).2.map (renameRoom rename)) := by
  cases slot with
  | none => rfl
  | some room =>
      have hmember : (renameRoom rename room).hasParticipant participantId =
          room.hasParticipant participantId := rfl
      have hremaining : remainingSlot (renameRoom rename room) participantId =
          (remainingSlot room participantId).map (renameRoom rename) := by
        have hsame : ((renameRoom rename room).without participantId).participants =
            (room.without participantId).participants := rfl
        unfold remainingSlot
        rw [hsame]
        split_ifs <;> rfl
      simp only [leaveSlot, Option.map_some, hmember, hremaining]
      split_ifs <;> rfl

section Tables

variable {rooms rooms' : Rooms}

theorem RenamedRooms.setSlot (hrooms : RenamedRooms rename rooms rooms') (roomCode : RoomCode)
    (slot : Option Room) :
    RenamedRooms rename (rooms.setSlot roomCode slot)
      (rooms'.setSlot roomCode (slot.map (renameRoom rename))) := by
  intro code
  rw [Rooms.lookup_setSlot, Rooms.lookup_setSlot, hrooms code]
  split_ifs <;> rfl

theorem RenamedRooms.freshCode_eq (hrooms : RenamedRooms rename rooms rooms')
    (draws : Nat → Draw) (remaining attempt : Nat) :
    freshCode rooms' draws remaining attempt = freshCode rooms draws remaining attempt := by
  induction remaining generalizing attempt with
  | zero => rfl
  | succ remaining ih =>
      simp only [freshCode, hrooms (generateRoomCode (draws attempt))]
      cases rooms.lookup (generateRoomCode (draws attempt)) with
      | none => rfl
      | some room => exact ih (attempt + 1)

theorem RenamedRooms.participantInRoom_eq (hrooms : RenamedRooms rename rooms rooms')
    (participantId : ParticipantId) (roomCode : RoomCode) :
    rooms'.participantInRoom participantId roomCode =
      rooms.participantInRoom participantId roomCode := by
  rw [Rooms.participantInRoom, Rooms.participantInRoom, hrooms roomCode]
  cases rooms.lookup roomCode <;> rfl

/-- The tables have the same codes, so they are walked alike. -/
theorem RenamedRooms.getRoomCodes_eq (hrooms : RenamedRooms rename rooms rooms')
    (order : HashOrder) : rooms'.getRoomCodes order = rooms.getRoomCodes order := by
  have hkeys : rooms'.keys = rooms.keys := by
    ext code
    rw [Finmap.mem_keys, Finmap.mem_keys, Finmap.mem_iff, Finmap.mem_iff, hrooms code]
    cases rooms.lookup code <;> simp
  rw [Rooms.getRoomCodes, Rooms.getRoomCodes, hkeys]

/-- A renamed request is served with the same result, and leaves renamed tables. -/
theorem RenamedRooms.serve (hinjective : Function.Injective rename)
    (hrooms : RenamedRooms rename rooms rooms') (draws : Nat → Draw) (requestMeta : RequestMeta)
    (command : Command) :
    (App.serve draws rooms' requestMeta (renameCommand rename command)).1 =
        (App.serve draws rooms requestMeta command).1 ∧
      RenamedRooms rename (App.serve draws rooms requestMeta command).2
        (App.serve draws rooms' requestMeta (renameCommand rename command)).2 := by
  cases command with
  | createRoom command =>
      simp only [App.serve, renameCommand, hrooms.freshCode_eq]
      cases freshCode rooms draws RoomService.maxAttempts 0 with
      | none => exact ⟨rfl, hrooms⟩
      | some code =>
          refine ⟨rfl, ?_⟩
          exact hrooms.setSlot code (some ⟨code, command.passwordHash, [command.participant]⟩)
  | joinRoom command =>
      simp only [App.serve, renameCommand, hrooms command.roomCode, joinSlot_rename hinjective]
      exact ⟨trivial, hrooms.setSlot command.roomCode _⟩
  | leaveRoom command =>
      simp only [App.serve, renameCommand, hrooms command.roomCode, leaveSlot_rename]
      exact ⟨trivial, hrooms.setSlot command.roomCode _⟩
  | signaling command =>
      simp only [App.serve, renameCommand, hrooms.participantInRoom_eq]
      split_ifs <;> exact ⟨rfl, hrooms⟩

/-- A disconnect produces the same events, and leaves renamed tables. -/
theorem RenamedRooms.disconnect (hrooms : RenamedRooms rename rooms rooms') (order : HashOrder)
    (participantId : ParticipantId) :
    disconnectEvents order participantId rooms' = disconnectEvents order participantId rooms ∧
      RenamedRooms rename (disconnectRooms order participantId rooms)
        (disconnectRooms order participantId rooms') := by
  constructor
  · rw [disconnectEvents, disconnectEvents, hrooms.getRoomCodes_eq]
    apply List.filterMap_congr
    intro code _
    rw [hrooms code]
    cases rooms.lookup code <;> rfl
  · intro code
    rw [lookup_disconnectRooms, lookup_disconnectRooms, hrooms code, leaveSlot_rename]

end Tables

end App

namespace Net

open Domain App

variable {parse : ByteArray → ParseResult} {rename : String → String}

/-- The second text is the first with its password renamed, as far as the parser can tell; a text
that does not parse has no password. -/
def RenamedText (parse : ByteArray → ParseResult) (rename : String → String)
    (message message' : ByteArray) : Prop :=
  match parse message with
  | .value json => parse message' = .value (renameMessage rename json)
  | failure => parse message' = failure

/-- The second frame is the first with its password renamed. -/
inductive RenamedFrame (parse : ByteArray → ParseResult) (rename : String → String) :
    Frame → Frame → Prop
  | binary (data : ByteArray) : RenamedFrame parse rename (.binary data) (.binary data)
  | text {message message' : ByteArray} (htext : RenamedText parse rename message message') :
      RenamedFrame parse rename (.text message) (.text message')

/-- A renamed frame asks for the renamed request, or is refused with the same answer. -/
theorem requestOf_rename (self : ParticipantId) {frame frame' : Frame}
    (hframe : RenamedFrame parse rename frame frame') :
    Session.requestOf parse self frame' =
      (Session.requestOf parse self frame).map (renameRequest rename) := by
  cases hframe with
  | binary data => rfl
  | text htext =>
      rename_i message message'
      simp only [Session.requestOf, ProtocolCodec.decodeRequest]
      unfold RenamedText at htext
      cases hparse : parse message with
      | parseError =>
          simp only [hparse] at htext
          simp only [htext]
          rfl
      | otherException =>
          simp only [hparse] at htext
          simp only [htext]
          rfl
      | value json =>
          simp only [hparse] at htext
          simp only [htext, decodeJson_rename]
          cases ProtocolCodec.decodeJson self json with
          | ok request => rfl
          | error exception => cases exception <;> rfl

namespace Server

/-- The event with the password of its message renamed; the draws and the orders are the same. -/
inductive RenamedEvent (parse : ByteArray → ParseResult) (rename : String → String) :
    Event → Event → Prop
  | connect (session : ParticipantId) :
      RenamedEvent parse rename (.connect session) (.connect session)
  | frame (session : ParticipantId) {frame frame' : Frame} (draws : Nat → Draw)
      (hframe : RenamedFrame parse rename frame frame') :
      RenamedEvent parse rename (.frame session frame draws) (.frame session frame' draws)
  | disconnect (session : ParticipantId) (order : HashOrder) :
      RenamedEvent parse rename (.disconnect session order) (.disconnect session order)

/-- The servers differ in the stored secrets only, which are renamed. -/
structure Renamed (rename : String → String) (server server' : Server) : Prop where
  rooms : RenamedRooms rename server.rooms server'.rooms
  registry : server'.registry = server.registry
  registered : server'.registered = server.registered
  accepted : server'.accepted = server.accepted

/-- One step: the renamed event does the same in the renamed server and sends the same. -/
theorem Renamed.step (hinjective : Function.Injective rename) {server server' after : Server}
    {event event' : Event} {posts : List Posted} (hrenamed : Renamed rename server server')
    (hevent : RenamedEvent parse rename event event')
    (hstep : (machine parse).step server event = some (after, posts)) :
    ∃ after', (machine parse).step server' event' = some (after', posts) ∧
      Renamed rename after after' := by
  cases hevent with
  | connect session =>
      simp only [machine] at hstep ⊢
      rw [hrenamed.accepted]
      split_ifs at hstep with hold
      obtain ⟨rfl, rfl⟩ := Prod.mk.inj (Option.some.inj hstep)
      rw [if_neg hold]
      refine ⟨_, rfl, hrenamed.rooms, ?_, ?_, ?_⟩
      · exact congrArg (insert session) hrenamed.registry
      · exact congrArg (insert session) hrenamed.registered
      · exact congrArg (insert session) hrenamed.accepted
  | frame session draws hframe =>
      rename_i frame frame'
      obtain ⟨haccepted, hrun⟩ := run_of_step_frame hstep
      have haccepted' : session ∈ server'.accepted := hrenamed.accepted ▸ haccepted
      simp only [machine, if_pos haccepted']
      rw [run_onFrame] at hrun
      rw [run_onFrame, requestOf_rename session hframe, hrenamed.registry]
      cases hrequest : Session.requestOf parse session frame with
      | error answer =>
          rw [hrequest] at hrun
          obtain ⟨rfl, rfl⟩ := Prod.mk.inj hrun
          exact ⟨server', rfl, hrenamed⟩
      | ok request =>
          rw [hrequest] at hrun
          obtain ⟨rfl, rfl⟩ := Prod.mk.inj hrun
          obtain ⟨hresult, hrooms⟩ := hrenamed.rooms.serve hinjective draws request.requestMeta
            request.command
          refine ⟨_, congrArg some (Prod.ext rfl ?_), hrooms, rfl, hrenamed.registered,
            hrenamed.accepted⟩
          exact congrArg (Session.resultPosts server.registry session) hresult
  | disconnect session order =>
      simp only [machine, run_removeFromRegistry] at hstep ⊢
      rw [hrenamed.registered]
      obtain ⟨hevents, hrooms⟩ := hrenamed.rooms.disconnect order session
      split_ifs at hstep with hregistered
      · obtain ⟨rfl, rfl⟩ := Prod.mk.inj (Option.some.inj hstep)
        rw [if_pos hregistered]
        refine ⟨_, congrArg some (Prod.ext rfl ?_), hrooms, ?_, ?_, hrenamed.accepted⟩
        · change server'.dropPosts session order = server.dropPosts session order
          rw [dropPosts, dropPosts, hevents, hrenamed.registry]
        · exact congrArg (fun registry => SessionRegistry.remove registry session)
            hrenamed.registry
        · exact congrArg (fun ids : Finset ParticipantId => ids.erase session)
            hrenamed.registered
      · obtain ⟨rfl, rfl⟩ := Prod.mk.inj (Option.some.inj hstep)
        rw [if_neg hregistered]
        exact ⟨server', rfl, hrenamed⟩

/-- **Passwords never leak beyond equality.**  Let the events of a run be given again with the
password of every create and join message renamed by an injective function.  They make a run too,
each of its steps sends the same messages to the same sessions, and at the end the tables hold the
same rooms up to the renaming of their secrets. -/
theorem passwords_never_leak {history : List (EventMachine.Step Server Event Posted)}
    {server : Server} (hrun : (machine parse).Run history server)
    (hinjective : Function.Injective rename) {events : List Event}
    (hevents : List.Forall₂ (fun st event => RenamedEvent parse rename st.event event) history
      events) :
    ∃ history' server', (machine parse).Run history' server' ∧
      history'.map EventMachine.Step.event = events ∧
      history'.map EventMachine.Step.output = history.map EventMachine.Step.output ∧
      (∀ code, server'.rooms.lookup code = (server.rooms.lookup code).map fun room =>
        { room with roomSecret := room.roomSecret.map rename }) ∧
      server'.registry = server.registry ∧ server'.registered = server.registered ∧
      server'.accepted = server.accepted := by
  have hinit : Renamed rename (machine parse).init (machine parse).init :=
    ⟨fun _ => rfl, rfl, rfl, rfl⟩
  obtain ⟨history', server', hrun', hgiven, houtputs, hrenamed⟩ := hrun.lockstep hinit
    (fun _ _ _ _ _ _ hrenamed hevent hstep => hrenamed.step hinjective hevent hstep) hevents
  exact ⟨history', server', hrun', hgiven, houtputs, hrenamed.rooms, hrenamed.registry,
    hrenamed.registered, hrenamed.accepted⟩

/-- The create and the join of the samples with another password. -/
def renamedCreateText : String :=
  "\x7b\"type\":\"create_room\",\"payload\":\x7b\"display_name\":\"Ann\"," ++
    "\"password\":\"xk\"\x7d\x7d"

def renamedJoinText : String :=
  "\x7b\"type\":\"join_room\",\"payload\":\x7b\"display_name\":\"Bob\"," ++
    "\"password\":\"xk\",\"room_code\":\"000000\"\x7d\x7d"

/-- What the four texts parse to. -/
def renamedParse : ByteArray → ParseResult :=
  parserOf [
    (createText, .object [("payload", .object [("display_name", .string "Ann"),
      ("password", .string "k")]), ("type", .string "create_room")]),
    (joinText, .object [("payload", .object [("display_name", .string "Bob"),
      ("password", .string "k"), ("room_code", .string "000000")]),
      ("type", .string "join_room")]),
    (renamedCreateText, .object [("payload", .object [("display_name", .string "Ann"),
      ("password", .string "xk")]), ("type", .string "create_room")]),
    (renamedJoinText, .object [("payload", .object [("display_name", .string "Bob"),
      ("password", .string "xk"), ("room_code", .string "000000")]),
      ("type", .string "join_room")])]

/-- A join with the right password, and the same under another name of the password. -/
theorem join_under_another_password :
    ∃ history server history' server',
      (machine renamedParse).Run history server ∧ (machine renamedParse).Run history' server' ∧
      history.map EventMachine.Step.event = [.connect "p_1", .connect "p_2",
        sends "p_1" createText, sends "p_2" joinText] ∧
      history'.map EventMachine.Step.event = [.connect "p_1", .connect "p_2",
        sends "p_1" renamedCreateText, sends "p_2" renamedJoinText] ∧
      history'.map EventMachine.Step.output = history.map EventMachine.Step.output ∧
      server'.rooms.lookup "000000" = (server.rooms.lookup "000000").map fun room =>
        { room with roomSecret := room.roomSecret.map fun secret => "x" ++ secret } := by
  have hexec : (machine renamedParse).exec [.connect "p_1", .connect "p_2",
      sends "p_1" createText, sends "p_2" joinText] = some (_, _) := rfl
  have hrun := EventMachine.run_of_exec hexec
  have hinjective : Function.Injective fun secret : String => "x" ++ secret := by
    intro secret secret' hsame
    exact (String.append_right_inj "x").mp hsame
  have hcreate : RenamedText renamedParse (fun secret => "x" ++ secret) createText.toUTF8
      renamedCreateText.toUTF8 := rfl
  have hjoin : RenamedText renamedParse (fun secret => "x" ++ secret) joinText.toUTF8
      renamedJoinText.toUTF8 := rfl
  obtain ⟨history', server', hrun', hgiven, houtputs, hrooms, -⟩ := passwords_never_leak hrun
    hinjective (.cons (.connect "p_1") (.cons (.connect "p_2")
      (.cons (.frame "p_1" (fun _ => 0) (.text hcreate))
        (.cons (.frame "p_2" (fun _ => 0) (.text hjoin)) .nil))))
  exact ⟨_, _, history', server', hrun, hrun', rfl, hgiven, houtputs, hrooms "000000"⟩

end Server
end Net
end BuzzWeb
