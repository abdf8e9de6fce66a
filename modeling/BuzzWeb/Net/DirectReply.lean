import BuzzWeb.App.MessageGrammar
import BuzzWeb.Net.FrameOutcome

/-!
# The direct reply to a frame

Whatever a session sends, it is sent exactly one direct reply.  `DirectReply` says which one: a
frame that does not decode is answered with a protocol error, a request with a response that has
the meta of the request and never reports an internal error.  Two laws are read off it: the type of
the reply, which follows the `type` of the message, and its `request_id`, which follows the
`request_id` of the message unless the message has no type string at all.
-/

namespace BuzzWeb
namespace App

open Domain

namespace ControlDispatcherResponse

/-- The response does not tell the client about a failure inside the server. -/
def External : ControlDispatcherResponse → Prop
  | .success _ _ => True
  | .error _ payload => ProtocolCodec.errorCode payload ≠ "internal_error"

end ControlDispatcherResponse

/-- A service error that is not internal is not reported as one. -/
theorem errorCode_mapServiceError {error : RoomServiceError} (h : error.type ≠ .internalError) :
    ProtocolCodec.errorCode (mapServiceError error) ≠ "internal_error" := by
  obtain ⟨kind, msg⟩ := error
  cases kind with
  | internalError => exact absurd rfl h
  | _ => simp [mapServiceError, ProtocolCodec.errorCode]

theorem joinSlot_error {roomCode : RoomCode} {participant : Participant}
    {password : Option RoomSecret} {slot : Option Room} {error : RoomServiceError}
    (h : (joinSlot roomCode participant password slot).1 = .error error) :
    error.type ≠ .internalError := by
  unfold joinSlot at h
  split at h
  · obtain rfl := Except.error.inj h
    decide
  · split at h
    · cases h
    all_goals
      obtain rfl := Except.error.inj h
      decide

theorem leaveSlot_error {roomCode : RoomCode} {participantId : ParticipantId} {slot : Option Room}
    {error : RoomServiceError} (h : (leaveSlot roomCode participantId slot).1 = .error error) :
    error.type ≠ .internalError := by
  unfold leaveSlot at h
  split at h
  · obtain rfl := Except.error.inj h
    decide
  · split_ifs at h
    obtain rfl := Except.error.inj h
    decide

/-- What the dispatcher hands over answers the request it was given. -/
theorem serve_response (draws : Nat → Draw) (rooms : Rooms) (requestMeta : RequestMeta)
    (command : Command) :
    ClientView.ControlDispatcherResponse.requestMeta
        (serve draws rooms requestMeta command).1.response = requestMeta ∧
      (serve draws rooms requestMeta command).1.response.External := by
  cases command with
  | createRoom command =>
      simp only [serve]
      cases freshCode rooms draws RoomService.maxAttempts 0 with
      | none => exact ⟨rfl, by simp [ControlDispatcher.errorResult,
          ControlDispatcherResponse.External, ProtocolCodec.errorCode]⟩
      | some code => exact ⟨rfl, trivial⟩
  | joinRoom command =>
      simp only [serve]
      cases hjoin : (joinSlot command.roomCode command.participant command.passwordHash
        (rooms.lookup command.roomCode)).1 with
      | error error => exact ⟨rfl, errorCode_mapServiceError (joinSlot_error hjoin)⟩
      | ok joined => exact ⟨rfl, trivial⟩
  | leaveRoom command =>
      simp only [serve]
      cases hleave : (leaveSlot command.roomCode command.participantId
        (rooms.lookup command.roomCode)).1 with
      | error error => exact ⟨rfl, errorCode_mapServiceError (leaveSlot_error hleave)⟩
      | ok left => exact ⟨rfl, trivial⟩
  | signaling command =>
      simp only [serve]
      split_ifs with hboth
      · exact ⟨rfl, trivial⟩
      · exact ⟨rfl, by simp [ControlDispatcher.errorResult, ControlDispatcherResponse.External,
          ProtocolCodec.errorCode]⟩

end App

namespace Net

open Domain App

namespace Server

/-- The direct reply that a frame is given. -/
inductive DirectReply (parse : ByteArray → ParseResult) (self : ParticipantId) (frame : Frame) :
    Json → Prop
  | refused {answer : Json} (hrequest : Session.requestOf parse self frame = .error answer) :
      DirectReply parse self frame answer
  | answered {request : ControlDispatcherRequest} {response : ControlDispatcherResponse}
      (hrequest : Session.requestOf parse self frame = .ok request)
      (hmeta : ClientView.ControlDispatcherResponse.requestMeta response = request.requestMeta)
      (hexternal : response.External) :
      DirectReply parse self frame (ProtocolCodec.encodeResponse response)

variable {parse : ByteArray → ParseResult}

/-- The direct replies among some posted messages. -/
def repliesIn (posts : List Posted) : List Posted :=
  posts.filter fun post => ClientView.isReply post.2

theorem repliesIn_events (registry : SessionRegistry) (events : List ControlDispatcherEvent) :
    repliesIn (events.flatMap (Session.eventPosts registry)) = [] := by
  refine List.filter_eq_nil_iff.mpr ?_
  intro post hmem
  obtain ⟨event, -, hpost⟩ := List.mem_flatMap.mp hmem
  rw [isReply_eventPosts hpost]
  exact Bool.false_ne_true

/-- The handler sends one direct reply: the response it was given, or that the target of a relay
is unavailable. -/
theorem repliesIn_resultPosts (registry : SessionRegistry) (self : ParticipantId)
    (result : ControlDispatcherResult) :
    ∃ response, repliesIn (Session.resultPosts registry self result) =
        [(self, ProtocolCodec.encodeResponse response)] ∧
      ClientView.ControlDispatcherResponse.requestMeta response =
        ClientView.ControlDispatcherResponse.requestMeta result.response ∧
      (result.response.External → response.External) := by
  have hplain (response : ControlDispatcherResponse) (events : List ControlDispatcherEvent) :
      repliesIn ((self, ProtocolCodec.encodeResponse response) ::
        events.flatMap (Session.eventPosts registry)) =
          [(self, ProtocolCodec.encodeResponse response)] := by
    have hevents := repliesIn_events registry events
    simp only [repliesIn] at hevents ⊢
    rw [List.filter_cons, if_pos (ClientView.isReply_encodeResponse response), hevents]
  obtain ⟨response, events⟩ := result
  unfold Session.resultPosts
  split
  · next requestMeta signaling hresponse =>
      split_ifs with htarget
      · refine ⟨response, ?_, rfl, id⟩
        -- The relay goes out first, and it is not a reply.
        have hrelay : ClientView.isReply (ProtocolCodec.encodeSignalingEvent signaling) = false :=
          ClientView.isReply_encodeSignalingEvent signaling
        have hrest := hplain response events
        simp only [repliesIn] at hrest ⊢
        rw [List.filter_cons, if_neg (by simp [hrelay]), hrest]
      · refine ⟨.error requestMeta .participantUnavailable, ?_, ?_, ?_⟩
        · simpa using hplain (.error requestMeta .participantUnavailable) []
        · simp only at hresponse
          rw [hresponse]
          rfl
        · intro _
          simp [ControlDispatcherResponse.External, ProtocolCodec.errorCode]
  · exact ⟨response, hplain response events, rfl, id⟩

/-- Every frame is given exactly one direct reply, and nobody else is sent one. -/
theorem directReply (parse : ByteArray → ParseResult) (server : Server) (self : ParticipantId)
    (frame : Frame) (draws : Nat → Draw) :
    ∃ answer, repliesIn (server.run (Session.onFrame parse draws self frame)).2 =
        [(self, answer)] ∧
      DirectReply parse self frame answer := by
  rw [run_onFrame]
  cases hrequest : Session.requestOf parse self frame with
  | error answer =>
      have hreply := (Session.requestOf_error hrequest).1
      exact ⟨answer, by simp [repliesIn, hreply], .refused hrequest⟩
  | ok request =>
      obtain ⟨hmeta, hexternal⟩ := serve_response draws server.rooms request.requestMeta
        request.command
      obtain ⟨response, hreplies, hsame, hkept⟩ := repliesIn_resultPosts server.registry self
        (serve draws server.rooms request.requestMeta request.command).1
      exact ⟨_, hreplies, .answered hrequest (hsame.trans hmeta) (hkept hexternal)⟩

/-! ## What the reply says -/

/-- The frame is text that parses to the JSON value. -/
def Parses (parse : ByteArray → ParseResult) (frame : Frame) (json : Json) : Prop :=
  ∃ message, frame = .text message ∧ parse message = .value json

theorem Parses.unique {frame : Frame} {json json' : Json} (h : Parses parse frame json)
    (h' : Parses parse frame json') : json = json' := by
  obtain ⟨message, rfl, hparse⟩ := h
  obtain ⟨message', hframe, hparse'⟩ := h'
  obtain rfl := Frame.text.inj hframe
  rw [hparse] at hparse'
  exact ParseResult.value.inj hparse'

/-- A frame that does not decode: it is not a JSON text, or its JSON value is refused. -/
theorem requestOf_error_cases {self : ParticipantId} {frame : Frame} {answer : Json}
    (h : Session.requestOf parse self frame = .error answer) :
    (∃ code, code ∈ ProtocolCodec.decodeErrorCodes ∧ (∀ json, ¬ Parses parse frame json) ∧
      answer = ProtocolCodec.encodeProtocolError none code none) ∨
    (∃ json requestMeta code requestId, Parses parse frame json ∧
      ProtocolCodec.decodeJson self json =
        .error (.protocolDecodeError requestMeta code requestId) ∧
      answer = ProtocolCodec.encodeProtocolError requestMeta code requestId) := by
  cases frame with
  | binary data =>
      obtain rfl := Except.error.inj h
      refine Or.inl ⟨"invalid_message", by simp [ProtocolCodec.decodeErrorCodes], ?_, rfl⟩
      rintro json ⟨message, hframe, -⟩
      cases hframe
  | text message =>
      simp only [Session.requestOf, ProtocolCodec.decodeRequest] at h
      have hnot (hparse : ∀ json, parse message ≠ .value json) (json : Json) :
          ¬ Parses parse (.text message) json := by
        rintro ⟨message', hframe, hvalue⟩
        obtain rfl := Frame.text.inj hframe
        exact hparse json hvalue
      cases hparse : parse message with
      | parseError =>
          simp only [hparse] at h
          obtain rfl := Except.error.inj h
          exact Or.inl ⟨"invalid_json", by simp [ProtocolCodec.decodeErrorCodes],
            hnot (by simp [hparse]), rfl⟩
      | otherException =>
          simp only [hparse] at h
          obtain rfl := Except.error.inj h
          exact Or.inl ⟨"invalid_message", by simp [ProtocolCodec.decodeErrorCodes],
            hnot (by simp [hparse]), rfl⟩
      | value json =>
          simp only [hparse] at h
          cases hdecode : ProtocolCodec.decodeJson self json with
          | ok request =>
              rw [hdecode] at h
              cases h
          | error exception =>
              -- The decoder itself only throws its own exception.
              obtain ⟨requestMeta, code, requestId, rfl⟩ : ∃ requestMeta code requestId,
                  exception = .protocolDecodeError requestMeta code requestId := by
                rcases ProtocolCodec.decodeJson_error hdecode with
                  ⟨_, _, _, -, -, -, hthrown⟩ | ⟨_, -, -, hthrown⟩ | ⟨-, hthrown⟩ <;>
                  exact ⟨_, _, _, hthrown⟩
              rw [hdecode] at h
              obtain rfl := Except.error.inj h
              exact Or.inr ⟨json, requestMeta, code, requestId, ⟨message, rfl, hparse⟩, hdecode,
                rfl⟩

theorem not_internal_of_mem {code : String} (hmem : code ∈ ProtocolCodec.decodeErrorCodes) :
    code ≠ "internal_error" := by
  rintro rfl
  simp [ProtocolCodec.decodeErrorCodes] at hmem

/-- The reply reads off the message as follows: a known type is answered by its result type, and
anything else by `error`; the request id comes along whenever there is a type string. -/
theorem DirectReply.cases {self : ParticipantId} {frame : Frame} {answer : Json}
    (h : DirectReply parse self frame answer) :
    ClientView.errorCodeOf answer ≠ some "internal_error" ∧
    ((∃ json type, Parses parse frame json ∧ json.find? "type" = some (.string type) ∧
      type ∈ ProtocolCodec.requestTypes ∧
      ClientView.messageType answer = some (type ++ "_result") ∧
      answer.find? "request_id" = (ProtocolCodec.stringRequestId json).map .string) ∨
    (∃ json type, Parses parse frame json ∧ json.find? "type" = some (.string type) ∧
      type ∉ ProtocolCodec.requestTypes ∧ ClientView.messageType answer = some "error" ∧
      answer.find? "request_id" = (ProtocolCodec.stringRequestId json).map .string) ∨
    ((∀ json, Parses parse frame json → ¬ ProtocolCodec.HasString json "type") ∧
      ClientView.messageType answer = some "error" ∧ answer.find? "request_id" = none)) := by
  cases h with
  | refused hrequest =>
      rcases requestOf_error_cases hrequest with ⟨code, hcode, hnot, rfl⟩ |
        ⟨json, requestMeta, code, requestId, hparses, hdecode, rfl⟩
      · rw [ClientView.errorCodeOf_encodeProtocolError, ClientView.messageType_encodeProtocolError,
          ClientView.find?_requestId_encodeProtocolError]
        refine ⟨by simpa using not_internal_of_mem hcode, Or.inr (Or.inr ⟨?_, rfl, rfl⟩)⟩
        intro json hparses
        exact absurd hparses (hnot json)
      · rw [ClientView.errorCodeOf_encodeProtocolError, ClientView.messageType_encodeProtocolError,
          ClientView.find?_requestId_encodeProtocolError]
        rcases ProtocolCodec.decodeJson_error hdecode with
          ⟨type, typeMeta, code', htype, hmeta, hcode, hthrown⟩ | ⟨type, htype, hmeta, hthrown⟩ |
          ⟨huntyped, hthrown⟩
        · obtain ⟨rfl, rfl, rfl⟩ := DecodeException.protocolDecodeError.inj hthrown
          refine ⟨by simpa using not_internal_of_mem hcode, Or.inl ⟨json, type, hparses, htype,
            (ProtocolCodec.metaOfType_isSome_iff type).mp ⟨typeMeta, hmeta⟩, ?_, ?_⟩⟩
          · exact congrArg some (ProtocolCodec.resultType_of_metaOfType hmeta _)
          · simp
        · obtain ⟨rfl, rfl, rfl⟩ := DecodeException.protocolDecodeError.inj hthrown
          refine ⟨by simp, Or.inr (Or.inl ⟨json, type, hparses, htype, ?_, rfl, rfl⟩)⟩
          intro hknown
          obtain ⟨typeMeta, hsome⟩ := (ProtocolCodec.metaOfType_isSome_iff type).mpr hknown
          rw [hmeta] at hsome
          cases hsome
        · obtain ⟨rfl, rfl, rfl⟩ := DecodeException.protocolDecodeError.inj hthrown
          refine ⟨by simp, Or.inr (Or.inr ⟨?_, rfl, rfl⟩)⟩
          intro json' hparses'
          rw [← hparses.unique hparses']
          exact huntyped
  | answered hrequest hmeta hexternal =>
      rename_i request response
      obtain ⟨message, json, rfl, hparse, hdecoded⟩ := Session.requestOf_ok hrequest
      obtain ⟨type, typeMeta, htype, hknown, hrequestMeta⟩ := hdecoded.requestMeta_eq
      refine ⟨?_, Or.inl ⟨json, type, ⟨message, rfl, hparse⟩, htype,
        (ProtocolCodec.metaOfType_isSome_iff type).mp ⟨typeMeta, hknown⟩, ?_, ?_⟩⟩
      · cases response with
        | success requestMeta payload => simp [ClientView.errorCodeOf_success]
        | error requestMeta payload =>
            have hcode : ProtocolCodec.errorCode payload ≠ "internal_error" := hexternal
            rw [ClientView.errorCodeOf_error]
            simpa using hcode
      · rw [ClientView.messageType_encodeResponse, hmeta, hrequestMeta,
          ProtocolCodec.resultType_of_metaOfType hknown]
      · rw [ClientView.find?_requestId_encodeResponse, hmeta, hrequestMeta]

/-! ## The two laws -/

/-- **Every frame gets exactly one, correctly typed reply.**  In whatever state a frame is handled,
one direct reply is sent, to the sender; its type follows the type of the message, and its code is
never the internal one.  The command of a decoded request is the one its meta announces, so the
dispatcher returns a result for it. -/
theorem one_typed_reply {server server' : Server} {self : ParticipantId} {frame : Frame}
    {draws : Nat → Draw} {posts : List Posted}
    (hstep : (machine parse).step server (.frame self frame draws) = some (server', posts)) :
    (∃ answer, repliesIn posts = [(self, answer)] ∧
      (∀ json type, Parses parse frame json → json.isObject = true →
        json.find? "type" = some (.string type) → type ∈ ProtocolCodec.requestTypes →
        ClientView.messageType answer = some (type ++ "_result")) ∧
      ((¬ ∃ json type, Parses parse frame json ∧ json.isObject = true ∧
          json.find? "type" = some (.string type) ∧ type ∈ ProtocolCodec.requestTypes) →
        ClientView.messageType answer = some "error") ∧
      ClientView.errorCodeOf answer ≠ some "internal_error") ∧
    ∀ message request, ProtocolCodec.decodeRequest parse self message = .ok request →
      Fits request ∧
      (request.requestMeta.type = .signaling →
        ∃ type, request.requestMeta.signalingType = some type) ∧
      ∀ draws rooms, ∃ result rooms', ControlDispatcher.resultOf draws request
        (Store.quiet rooms) = (some result, Store.quiet rooms') := by
  have hrun := (run_of_step_frame hstep).2
  obtain ⟨answer, hreplies, hdirect⟩ := directReply parse server self frame draws
  rw [hrun] at hreplies
  obtain ⟨hcode, hreads⟩ := hdirect.cases
  refine ⟨⟨answer, hreplies, ?_, ?_, hcode⟩, ?_⟩
  · intro json type hparses _ htype hknown
    rcases hreads with ⟨json', type', hparses', htype', -, hreply, -⟩ |
      ⟨json', type', hparses', htype', hunknown, -⟩ | ⟨huntyped, -⟩
    · obtain rfl := hparses.unique hparses'
      rw [htype] at htype'
      rw [hreply, Json.string.inj (Option.some.inj htype')]
    · obtain rfl := hparses.unique hparses'
      rw [htype] at htype'
      rw [← Json.string.inj (Option.some.inj htype')] at hunknown
      exact absurd hknown hunknown
    · exact absurd ⟨type, htype⟩ (huntyped json hparses)
  · intro hnone
    rcases hreads with ⟨json, type, hparses, htype, hknown, -⟩ | ⟨-, -, -, -, -, hreply, -⟩ |
      ⟨-, hreply, -⟩
    · exact absurd ⟨json, type, hparses, Json.isObject_of_find? htype, htype, hknown⟩ hnone
    · exact hreply
    · exact hreply
  · intro message request hdecode
    obtain ⟨json, -, hdecoded⟩ := ProtocolCodec.decodeRequest_sound hdecode
    refine ⟨hdecoded.fits, ?_, ?_⟩
    · intro hsignaling
      cases hdecoded with
      | signaling htype hid hpayload hcode htarget => exact ⟨_, rfl⟩
      | _ => cases hsignaling
    · intro draws rooms
      exact ⟨_, _, resultOf_quiet draws rooms request hdecoded.fits⟩

/-- A binary frame is answered with an `error`, and a leave, which is a text of a known type, with a
`leave_room_result`. -/
theorem frames_get_one_reply :
    let server : Server := ⟨(∅ : Rooms).insert "000000" guardedRoom, {"p_1", "p_2"},
      {"p_1", "p_2"}, {"p_1", "p_2"}⟩
    (∃ server' posts answer,
      (machine sampleParse).step server (.frame "p_1" (.binary ⟨#[0]⟩) fun _ => 0) =
        some (server', posts) ∧
      repliesIn posts = [("p_1", answer)] ∧ ClientView.messageType answer = some "error") ∧
    ∃ server' posts answer,
      (machine sampleParse).step server (sends "p_2" leaveText) = some (server', posts) ∧
      repliesIn posts = [("p_2", answer)] ∧
      ClientView.messageType answer = some "leave_room_result" := by
  intro server
  constructor
  · have hstep : (machine sampleParse).step server (.frame "p_1" (.binary ⟨#[0]⟩) fun _ => 0) =
        some (_, _) := rfl
    obtain ⟨⟨answer, hreplies, -, hother, -⟩, -⟩ := one_typed_reply hstep
    refine ⟨_, _, answer, hstep, hreplies, hother ?_⟩
    rintro ⟨json, type, ⟨message, hframe, -⟩, -⟩
    cases hframe
  · have hstep : (machine sampleParse).step server (sends "p_2" leaveText) = some (_, _) := rfl
    obtain ⟨⟨answer, hreplies, htyped, -⟩, -⟩ := one_typed_reply hstep
    refine ⟨_, _, answer, hstep, hreplies, ?_⟩
    exact htyped _ "leave_room" ⟨_, rfl, rfl⟩ rfl rfl (by simp [ProtocolCodec.requestTypes])

/-- The message parses to an object whose `request_id` is this string. -/
def CarriesRequestId (parse : ByteArray → ParseResult) (message : ByteArray)
    (requestId : String) : Prop :=
  ∃ json, parse message = .value json ∧ json.isObject = true ∧
    json.find? "request_id" = some (.string requestId)

/-- Among the messages sent for a text message there is one direct reply; it carries the request
id of the message, and none when the message has none. -/
def Correlated (parse : ByteArray → ParseResult) (self : ParticipantId) (message : ByteArray)
    (posts : List Posted) : Prop :=
  ∃ answer, repliesIn posts = [(self, answer)] ∧
    (∀ requestId, answer.find? "request_id" = some (.string requestId) ↔
      CarriesRequestId parse message requestId) ∧
    ((∀ requestId, ¬ CarriesRequestId parse message requestId) →
      answer.find? "request_id" = none)

/-- The message has a request id, but its type is missing or not a string. -/
def UntypedRequest (parse : ByteArray → ParseResult) (message : ByteArray) : Prop :=
  ∃ json, parse message = .value json ∧ ProtocolCodec.HasString json "request_id" ∧
    ¬ ProtocolCodec.HasString json "type"

/-- A reply with the request id of the parsed message is correlated with the message. -/
theorem correlated_of_stringRequestId {self : ParticipantId} {message : ByteArray} {json : Json}
    {posts : List Posted} {answer : Json} (hparse : parse message = .value json)
    (hreplies : repliesIn posts = [(self, answer)])
    (hid : answer.find? "request_id" = (ProtocolCodec.stringRequestId json).map .string) :
    Correlated parse self message posts := by
  have hcarries (requestId : String) : CarriesRequestId parse message requestId ↔
      ProtocolCodec.stringRequestId json = some requestId := by
    unfold ProtocolCodec.stringRequestId
    constructor
    · rintro ⟨json', hparse', -, hfield⟩
      rw [hparse] at hparse'
      obtain rfl := ParseResult.value.inj hparse'
      rw [hfield]
    · intro hsome
      split at hsome
      · next value hfield =>
          obtain rfl := Option.some.inj hsome
          exact ⟨json, hparse, Json.isObject_of_find? hfield, hfield⟩
      · cases hsome
  refine ⟨answer, hreplies, ?_, ?_⟩
  · intro requestId
    rw [hcarries, hid]
    cases ProtocolCodec.stringRequestId json <;> simp
  · intro hnone
    rw [hid]
    cases hstring : ProtocolCodec.stringRequestId json with
    | none => rfl
    | some requestId => exact absurd ((hcarries requestId).mpr hstring) (hnone requestId)

/-- **Replies are correlated with their requests, but for requests without a type string.**  In
every run, the reply to a text message has the `request_id` of the message, whatever else is wrong
with it, exactly when the message is not an object with a request id whose type is missing or not a
string. -/
theorem reply_correlated_iff {history : List (EventMachine.Step Server Event Posted)}
    {server : Server} (hrun : (machine parse).Run history server) :
    ∀ st ∈ history, ∀ self message draws, st.event = .frame self (.text message) draws →
      (Correlated parse self message st.output ↔ ¬ UntypedRequest parse message) := by
  intro st hmem self message draws hevent
  obtain ⟨-, hstep⟩ := hrun.step_of_mem hmem
  rw [hevent] at hstep
  have hframe := (run_of_step_frame hstep).2
  obtain ⟨answer, hreplies, hdirect⟩ := directReply parse st.pre self (.text message)
    draws
  rw [hframe] at hreplies
  have hparsed {json : Json} (hparses : Parses parse (.text message) json) :
      parse message = .value json := by
    obtain ⟨message', hsame, hparse⟩ := hparses
    rwa [Frame.text.inj hsame]
  have htyped {json : Json} {type : String} (hparse : parse message = .value json)
      (htype : json.find? "type" = some (.string type)) : ¬ UntypedRequest parse message := by
    rintro ⟨json', hparse', -, huntyped⟩
    rw [hparse] at hparse'
    obtain rfl := ParseResult.value.inj hparse'
    exact huntyped ⟨type, htype⟩
  rcases hdirect.cases.2 with ⟨json, type, hparses, htype, -, -, hid⟩ |
    ⟨json, type, hparses, htype, -, -, hid⟩ | ⟨huntyped, -, hid⟩
  · exact ⟨fun _ => htyped (hparsed hparses) htype,
      fun _ => correlated_of_stringRequestId (hparsed hparses) hreplies hid⟩
  · exact ⟨fun _ => htyped (hparsed hparses) htype,
      fun _ => correlated_of_stringRequestId (hparsed hparses) hreplies hid⟩
  · -- Without a type string the reply has no id, so it fits exactly the messages without one.
    constructor
    · rintro ⟨answer', hreplies', hiff, -⟩ ⟨json, hparse, ⟨requestId, hfield⟩, -⟩
      rw [hreplies] at hreplies'
      obtain ⟨-, rfl⟩ := Prod.mk.inj (List.singleton_inj.mp hreplies')
      have hcarried := (hiff requestId).mpr
        ⟨json, hparse, Json.isObject_of_find? hfield, hfield⟩
      rw [hid] at hcarried
      cases hcarried
    · intro hnot
      have hnone (requestId : String) : ¬ CarriesRequestId parse message requestId := by
        rintro ⟨json, hparse, -, hfield⟩
        exact hnot ⟨json, hparse, ⟨requestId, hfield⟩, huntyped json ⟨message, rfl, hparse⟩⟩
      refine ⟨answer, hreplies, ?_, fun _ => hid⟩
      intro requestId
      rw [hid]
      constructor
      · intro hsome
        cases hsome
      · intro hcarried
        exact absurd hcarried (hnone requestId)

/-- A message without a type, and a leave with a request id, as a client writes them. -/
def untypedText : String :=
  "\x7b\"request_id\":\"r1\"\x7d"

def numberedLeaveText : String :=
  "\x7b\"type\":\"leave_room\",\"request_id\":\"r2\",\"payload\":\x7b\"room_code\":\"000000\"\x7d\x7d"

/-- What the two texts parse to. -/
def numberedParse : ByteArray → ParseResult :=
  parserOf [
    (untypedText, .object [("request_id", .string "r1")]),
    (numberedLeaveText, .object [("payload", .object [("room_code", .string "000000")]),
      ("request_id", .string "r2"), ("type", .string "leave_room")])]

/-- The refused leave of a run is correlated with its reply. -/
theorem refused_leave_is_correlated :
    ∃ history server, (machine numberedParse).Run history server ∧
      ∃ st ∈ history, st.event = sends "p_1" numberedLeaveText ∧
        Correlated numberedParse "p_1" numberedLeaveText.toUTF8 st.output := by
  have hexec : (machine numberedParse).exec
      [.connect "p_1", sends "p_1" numberedLeaveText] = some (_, _) := rfl
  have hrun := EventMachine.run_of_exec hexec
  refine ⟨_, _, hrun, _, List.mem_cons_of_mem _ List.mem_cons_self, rfl, ?_⟩
  refine (reply_correlated_iff hrun _ (List.mem_cons_of_mem _ List.mem_cons_self) "p_1" _ _
    rfl).mpr ?_
  rintro ⟨json, hparse, -, huntyped⟩
  obtain rfl := ParseResult.value.inj hparse
  exact huntyped ⟨"leave_room", rfl⟩

/-- The request id of a message without a type is dropped. -/
theorem untyped_request_loses_its_id :
    ∃ history server, (machine numberedParse).Run history server ∧
      ∃ st ∈ history, st.event = sends "p_1" untypedText ∧
        ¬ Correlated numberedParse "p_1" untypedText.toUTF8 st.output := by
  have hexec : (machine numberedParse).exec [.connect "p_1", sends "p_1" untypedText] =
      some (_, _) := rfl
  refine ⟨_, _, EventMachine.run_of_exec hexec, _,
    List.mem_cons_of_mem _ List.mem_cons_self, rfl, ?_⟩
  rintro ⟨answer, hreplies, hiff, -⟩
  have hanswer : [("p_1", ProtocolCodec.encodeProtocolError none "invalid_message" none)] =
      [("p_1", answer)] := hreplies
  obtain ⟨-, rfl⟩ := Prod.mk.inj (List.singleton_inj.mp hanswer)
  have hcarried := (hiff "r1").mpr ⟨.object [("request_id", .string "r1")], rfl, rfl, rfl⟩
  rw [ClientView.find?_requestId_encodeProtocolError] at hcarried
  cases hcarried

end Server
end Net
end BuzzWeb
