import BuzzWeb.Net.FrameOutcome

/-!
# Relayed signaling

A text message makes the server relay something exactly when it decodes to an offer, an answer or
an ICE candidate for a room that both the sender and the named target are in, and the target is
registered.  Then one message is relayed, to the target, with the type of the request and its
payload; only `from_participant_id` is written by the server, and it names the sending session
whatever the payload held under that key.

A message that is not one of the three room requests is answered with `ok: true` exactly when it
was relayed, and leaves the server as it was.
-/

namespace BuzzWeb
namespace Net

open Domain App

namespace Server

/-- The message is a request to relay `payload` to `target` in the room `code`. -/
def AsksRelay (parse : ByteArray → ParseResult) (self : ParticipantId) (message : ByteArray)
    (type : SignalingType) (code : RoomCode) (target : ParticipantId) (payload : Json) : Prop :=
  ∃ json requestId, parse message = .value json ∧
    json.find? "type" = some (.string (ProtocolCodec.signalingTypeToString type)) ∧
    json.find? "payload" = some payload ∧
    ProtocolCodec.decodeRequest parse self message =
      .ok ⟨⟨.signaling, requestId, some type⟩, .signaling ⟨type, code, self, target, payload⟩⟩

/-- The server may relay it: both are in the room, and the target is there to be reached. -/
def MayRelay (server : Server) (self : ParticipantId) (code : RoomCode)
    (target : ParticipantId) : Prop :=
  server.rooms.participantInRoom self code = true ∧
    server.rooms.participantInRoom target code = true ∧ target ∈ server.registry

/-- The message is one of the three room requests. -/
def IsRoomRequest (parse : ByteArray → ParseResult) (self : ParticipantId)
    (message : ByteArray) : Prop :=
  ∃ request, ProtocolCodec.decodeRequest parse self message = .ok request ∧
    request.requestMeta.type ≠ .signaling

variable {parse : ByteArray → ParseResult}

/-! ## The relayed payload -/

/-- The payload of a relay: the request's payload except for the sender's id. -/
theorem encodeSignalingEvent_payload (type : SignalingType) (self : ParticipantId)
    {code : RoomCode} {target : ParticipantId} {payload : Json}
    (hcode : payload.find? "room_code" = some (.string code))
    (htarget : payload.find? "target_participant_id" = some (.string target)) :
    ∃ relayed, (ProtocolCodec.encodeSignalingEvent ⟨type, code, self, target, payload⟩).find?
        "payload" = some relayed ∧
      relayed.find? "from_participant_id" = some (.string self) ∧
      ∀ key, key ≠ "from_participant_id" → relayed.find? key = payload.find? key := by
  have hobject := Json.isObject_of_find? hcode
  refine ⟨((payload.set "room_code" (.string code)).set
    "target_participant_id" (.string target)).set "from_participant_id" (.string self), ?_, ?_, ?_⟩
  · simp [ProtocolCodec.encodeSignalingEvent, Json.find?_ofEntries, Json.lookupEntry]
  · simp [Json.find?_set, hobject]
  · intro key hkey
    -- The two other keys are overwritten with the values they already had.
    have hread : (((payload.set "room_code" (.string code)).set
        "target_participant_id" (.string target)).set
          "from_participant_id" (.string self)).find? key =
        if "target_participant_id" = key then some (.string target)
        else if "room_code" = key then some (.string code) else payload.find? key := by
      simp [Json.find?_set, hobject, Ne.symm hkey]
    rw [hread]
    split_ifs with htargetKey hcodeKey
    · rw [← htargetKey, htarget]
    · rw [← hcodeKey, hcode]
    · rfl

/-! ## What is posted -/

/-- A message that asks for a relay the server may make. -/
theorem run_relay {server : Server} {self : ParticipantId} {message : ByteArray}
    (draws : Nat → Draw) {type : SignalingType} {code : RoomCode} {target : ParticipantId}
    {payload : Json} (hasks : AsksRelay parse self message type code target payload)
    (hmay : server.MayRelay self code target) :
    ∃ requestId, server.run (Session.onFrame parse draws self (.text message)) =
      (server, [(target, ProtocolCodec.encodeSignalingEvent ⟨type, code, self, target, payload⟩),
        (self, ProtocolCodec.encodeResponse (.success ⟨.signaling, requestId, some type⟩
          (.signaling ⟨type, code, self, target, payload⟩)))]) := by
  obtain ⟨json, requestId, -, -, -, hdecode⟩ := hasks
  obtain ⟨hself, htarget, hregistered⟩ := hmay
  refine ⟨requestId, ?_⟩
  rw [run_onFrame]
  simp [Session.requestOf, hdecode, serve, hself, htarget, Session.resultPosts, hregistered]

/-- A frame that asks for a request was decoded to it. -/
theorem decodeRequest_of_requestOf {self : ParticipantId} {message : ByteArray}
    {request : ControlDispatcherRequest}
    (h : Session.requestOf parse self (.text message) = .ok request) :
    ProtocolCodec.decodeRequest parse self message = .ok request := by
  simp only [Session.requestOf] at h
  split at h
  case h_4 request' hdecode => rw [hdecode, Except.ok.inj h]
  all_goals cases h

/-- A response is not a relay. -/
theorem isRelay_encodeResponse (response : ControlDispatcherResponse) :
    ClientView.isRelay (ProtocolCodec.encodeResponse response) = false :=
  ClientView.isRelay_of_isReply (ClientView.isReply_encodeResponse response)

/-- Neither a response nor the events behind it are relays. -/
theorem no_relay_of_response {self : ParticipantId} {response : ControlDispatcherResponse}
    {registry : SessionRegistry} {event : ControlDispatcherEvent} {post : Posted}
    (hmem : post ∈ (self, ProtocolCodec.encodeResponse response) ::
      Session.eventPosts registry event) : ClientView.isRelay post.2 = false := by
  rcases List.mem_cons.mp hmem with rfl | hevent
  · exact isRelay_encodeResponse response
  · obtain ⟨recipient, sent⟩ := post
    obtain ⟨rfl, -, -⟩ := mem_eventPosts.mp hevent
    exact ClientView.isRelay_encodeEvent event

/-- Only a message that asks for a relay the server may make is relayed. -/
theorem asksRelay_of_relayed {server server' : Server} {self : ParticipantId}
    {message : ByteArray} {draws : Nat → Draw} {posts : List Posted} {post : Posted}
    (hrun : server.run (Session.onFrame parse draws self (.text message)) = (server', posts))
    (hmem : post ∈ posts) (hrelay : ClientView.isRelay post.2 = true) :
    ∃ type code target payload, AsksRelay parse self message type code target payload ∧
      server.MayRelay self code target := by
  have hcontra {P : Prop} (hfalse : ClientView.isRelay post.2 = false) : P := by
    rw [hrelay] at hfalse
    cases hfalse
  -- Replies and room events have types of their own; only the last outcome posts a relay.
  cases frameOutcome_of_run hrun with
  | refused hreply hok =>
      obtain rfl := List.mem_singleton.mp hmem
      exact hcontra (ClientView.isRelay_of_isReply hreply)
  | created hrequest hfresh =>
      obtain rfl := List.mem_singleton.mp hmem
      exact hcontra (isRelay_encodeResponse (.success _ _))
  | joined hrequest hstored hadmits => exact hcontra (no_relay_of_response hmem)
  | left hrequest hstored hmember => exact hcontra (no_relay_of_response hmem)
  | relayed hrequest hself htarget hregistered =>
      rename_i requestId type code target payload
      have hdecode := decodeRequest_of_requestOf hrequest
      obtain ⟨json, hparse, hdecoded⟩ := ProtocolCodec.decodeRequest_sound hdecode
      cases hdecoded with
      | signaling htype _ hpayload _ _ =>
          exact ⟨type, code, target, payload, ⟨json, _, hparse, htype, hpayload, hdecode⟩,
            hself, htarget, hregistered⟩

/-- A message that is no room request changes nothing and gets one reply, which says whether it
was relayed. -/
theorem reply_of_no_room_request {server server' : Server} {self : ParticipantId}
    {message : ByteArray} {draws : Nat → Draw} {posts : List Posted}
    (hrun : server.run (Session.onFrame parse draws self (.text message)) = (server', posts))
    (hother : ¬ IsRoomRequest parse self message) :
    server' = server ∧ ∃ answer,
      posts.filter (fun post => ClientView.isReply post.2) = [(self, answer)] ∧
      (ClientView.okFlag answer = some true ↔
        ∃ post ∈ posts, ClientView.isRelay post.2 = true) := by
  have hroom {P : Prop} {request : ControlDispatcherRequest}
      (hrequest : Session.requestOf parse self (.text message) = .ok request)
      (htype : request.requestMeta.type ≠ .signaling) : P :=
    absurd ⟨request, decodeRequest_of_requestOf hrequest, htype⟩ hother
  cases frameOutcome_of_run hrun with
  | refused hreply hok =>
      rename_i answer
      refine ⟨rfl, answer, ?_, ?_⟩
      · simp [hreply]
      · simp [hok, ClientView.isRelay_of_isReply hreply]
  | created hrequest hfresh => exact hroom hrequest (by simp)
  | joined hrequest hstored hadmits => exact hroom hrequest (by simp)
  | left hrequest hstored hmember => exact hroom hrequest (by simp)
  | relayed hrequest hself htarget hregistered =>
      rename_i requestId type code target payload
      refine ⟨rfl, ProtocolCodec.encodeResponse (.success ⟨.signaling, requestId, some type⟩
        (.signaling ⟨type, code, self, target, payload⟩)), ?_, ?_⟩
      · simp [ClientView.isReply_encodeSignalingEvent, ClientView.isReply_encodeResponse]
      · simp [ClientView.okFlag_success, ClientView.isRelay_encodeSignalingEvent]

/-- **Signaling is relayed exactly, with authority, and unforgeably.** -/
theorem signaling_relay_exact (server : Server) (self : ParticipantId) (message : ByteArray)
    (draws : Nat → Draw) :
    let result := server.run (Session.onFrame parse draws self (.text message))
    ((∃ post ∈ result.2, ClientView.isRelay post.2 = true) ↔
      ∃ type code target payload, AsksRelay parse self message type code target payload ∧
        server.MayRelay self code target) ∧
    (∀ type code target payload, AsksRelay parse self message type code target payload →
      server.MayRelay self code target →
      ∃ relay relayed,
        result.2.filter (fun post => ClientView.isRelay post.2) = [(target, relay)] ∧
        ClientView.messageType relay = some (ProtocolCodec.signalingTypeToString type) ∧
        relay.find? "payload" = some relayed ∧
        relayed.find? "from_participant_id" = some (.string self) ∧
        ∀ key, key ≠ "from_participant_id" → relayed.find? key = payload.find? key) ∧
    (¬ IsRoomRequest parse self message →
      result.1.rooms = server.rooms ∧ result.1.registry = server.registry ∧
      ∃ answer, result.2.filter (fun post => ClientView.isReply post.2) = [(self, answer)] ∧
        (ClientView.okFlag answer = some true ↔
          ∃ post ∈ result.2, ClientView.isRelay post.2 = true)) := by
  intro result
  refine ⟨⟨?_, ?_⟩, ?_, ?_⟩
  · rintro ⟨post, hmem, hrelay⟩
    exact asksRelay_of_relayed rfl hmem hrelay
  · rintro ⟨type, code, target, payload, hasks, hmay⟩
    obtain ⟨requestId, hrun⟩ := run_relay draws hasks hmay
    have hposts : result.2 = _ := congrArg Prod.snd hrun
    rw [hposts]
    exact ⟨_, List.mem_cons_self, ClientView.isRelay_encodeSignalingEvent _⟩
  · intro type code target payload hasks hmay
    obtain ⟨requestId, hrun⟩ := run_relay draws hasks hmay
    have hposts : result.2 = _ := congrArg Prod.snd hrun
    obtain ⟨json, _, hparse, htype, hpayload, hdecode⟩ := hasks
    obtain ⟨json', hparse', hdecoded⟩ := ProtocolCodec.decodeRequest_sound hdecode
    cases hdecoded with
    | signaling htype' hid hpayload' hcode htarget =>
        -- The payload is relayed as it came, with the sender written over.
        obtain ⟨relayed, hrelayed, hfrom, hkeys⟩ :=
          encodeSignalingEvent_payload type self hcode htarget
        refine ⟨_, relayed, ?_, ClientView.messageType_encodeSignalingEvent _, hrelayed, hfrom,
          hkeys⟩
        rw [hposts]
        simp [ClientView.isRelay_encodeSignalingEvent, isRelay_encodeResponse]
  · intro hother
    obtain ⟨hsame, hreply⟩ := reply_of_no_room_request
      (show server.run (Session.onFrame parse draws self (.text message)) =
        (result.1, result.2) from rfl) hother
    exact ⟨by rw [hsame], by rw [hsame], hreply⟩

/-- An offer from one member of a room to another. -/
theorem offer_relay_exact :
    let text := "\x7b\"type\":\"offer\",\"payload\":\x7b\"from_participant_id\":\"p_2\"," ++
      "\"room_code\":\"000000\",\"target_participant_id\":\"p_2\"\x7d\x7d"
    let payload := Json.object [("from_participant_id", .string "p_2"),
      ("room_code", .string "000000"), ("target_participant_id", .string "p_2")]
    let parse := parserOf [(text, .object [("payload", payload), ("type", .string "offer")])]
    let rooms : Rooms := (∅ : Rooms).insert "000000"
      ⟨"000000", none, [⟨"p_1", "Ann"⟩, ⟨"p_2", "Bob"⟩]⟩
    let server : Server := ⟨rooms, {"p_1", "p_2"}, {"p_1", "p_2"}, {"p_1", "p_2"}⟩
    let result := server.run (Session.onFrame parse (fun _ => 0) "p_1" (.text text.toUTF8))
    ∃ relay relayed,
      result.2.filter (fun post => ClientView.isRelay post.2) = [("p_2", relay)] ∧
      relay.find? "payload" = some relayed ∧
      relayed.find? "from_participant_id" = some (.string "p_1") := by
  intro text payload parse rooms server result
  have hasks : AsksRelay parse "p_1" text.toUTF8 .offer "000000" "p_2" payload :=
    ⟨_, none, rfl, rfl, rfl, rfl⟩
  have hmay : server.MayRelay "p_1" "000000" "p_2" := by
    refine ⟨?_, ?_, ?_⟩ <;> decide
  obtain ⟨relay, relayed, hposts, -, hpayload, hfrom, -⟩ :=
    (signaling_relay_exact server "p_1" text.toUTF8 fun _ => 0).2.1 _ _ _ _ hasks hmay
  exact ⟨relay, relayed, hposts, hpayload, hfrom⟩

/-- A create is answered with `ok: true` and changes the table, but nothing is relayed. -/
theorem create_is_not_relayed :
    let server : Server := ⟨∅, {"p_1"}, {"p_1"}, {"p_1"}⟩
    let result := server.run (Session.onFrame sampleParse (fun _ => 0) "p_1"
      (.text createText.toUTF8))
    (∃ answer, result.2 = [("p_1", answer)] ∧ ClientView.isReply answer = true ∧
      ClientView.okFlag answer = some true) ∧
    (∀ post ∈ result.2, ClientView.isRelay post.2 = false) ∧
    result.1.rooms ≠ server.rooms := by
  intro server result
  refine ⟨⟨_, rfl, by decide, by decide⟩, ?_, ?_⟩
  · intro post hmem
    obtain rfl := List.mem_singleton.mp hmem
    decide
  · intro hsame
    have hstored := congrArg (fun rooms : Rooms => (rooms.lookup "000000").isSome) hsame
    revert hstored
    decide

end Server
end Net
end BuzzWeb
