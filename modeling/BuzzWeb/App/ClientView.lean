import BuzzWeb.App.ProtocolCodec
import BuzzWeb.App.RoomSlots

/-!
# What a client reads off a message

Readers for the messages the server sends, on the level of JSON: the type, the `ok` flag, and the
three kinds of message that speak about the participants of a room.  The encoders are inverted by
these readers, so that laws about message histories can be stated over what was really sent.
-/

namespace BuzzWeb
namespace App
namespace ClientView

open Domain ProtocolCodec

/-- A string member. -/
def stringField (json : Json) (key : String) : Option String :=
  match json.find? key with
  | some (.string value) => some value
  | _ => none

def messageType (json : Json) : Option String :=
  stringField json "type"

/-- The `ok` member; only direct replies have one. -/
def okFlag (json : Json) : Option Bool :=
  match json.find? "ok" with
  | some (.boolean value) => some value
  | _ => none

/-- The code of a refusal. -/
def errorCodeOf (json : Json) : Option String :=
  json.find? "error" >>= fun error => stringField error "code"

/-- The message types of direct replies. -/
def replyTypes : List String :=
  ["create_room_result", "join_room_result", "leave_room_result", "offer_result",
    "answer_result", "ice_candidate_result", "error"]

/-- The message types of relayed signaling. -/
def relayTypes : List String :=
  ["offer", "answer", "ice_candidate"]

/-- A `*_result` or `error` message. -/
def isReply (json : Json) : Bool :=
  (messageType json).any fun type => type ∈ replyTypes

def isRelay (json : Json) : Bool :=
  (messageType json).any fun type => type ∈ relayTypes

/-! ## Participant lists -/

def participantOfJson (json : Json) : Option Participant := do
  let id ← stringField json "participant_id"
  let name ← stringField json "display_name"
  pure ⟨id, name⟩

def participantsOfJson : Json → Option (List Participant)
  | .array elements => elements.mapM participantOfJson
  | _ => none

/-- What a message says about the participants of a room. -/
inductive Observation where
  /-- A successful create or join result: the whole list. -/
  | snapshot (roomCode : RoomCode) (participants : List Participant)
  | joined (roomCode : RoomCode) (participant : Participant) (participants : List Participant)
  | left (roomCode : RoomCode) (participantId : ParticipantId) (participants : List Participant)

def observeSnapshot (payload : Json) : Option Observation := do
  let roomCode ← stringField payload "room_code"
  let participants ← payload.find? "participants" >>= participantsOfJson
  pure (.snapshot roomCode participants)

def observeJoined (payload : Json) : Option Observation := do
  let roomCode ← stringField payload "room_code"
  let participant ← payload.find? "participant" >>= participantOfJson
  let participants ← payload.find? "participants" >>= participantsOfJson
  pure (.joined roomCode participant participants)

def observeLeft (payload : Json) : Option Observation := do
  let roomCode ← stringField payload "room_code"
  let participantId ← stringField payload "participant_id"
  let participants ← payload.find? "participants" >>= participantsOfJson
  pure (.left roomCode participantId participants)

def observe (json : Json) : Option Observation :=
  match messageType json, okFlag json with
  | some "create_room_result", some true => json.find? "payload" >>= observeSnapshot
  | some "join_room_result", some true => json.find? "payload" >>= observeSnapshot
  | some "participant_joined", _ => json.find? "payload" >>= observeJoined
  | some "participant_left", _ => json.find? "payload" >>= observeLeft
  | _, _ => none

/-! ## Reading back what was encoded -/

theorem participantOfJson_participantToJson (participant : Participant) :
    participantOfJson (participantToJson participant) = some participant := by
  simp [participantOfJson, participantToJson, stringField, Json.find?_ofEntries,
    Json.lookupEntry]

theorem participantsOfJson_participantsToJson (participants : List Participant) :
    participantsOfJson (participantsToJson participants) = some participants := by
  simp only [participantsOfJson, participantsToJson]
  induction participants with
  | nil => rfl
  | cons participant rest ih =>
      simp [participantOfJson_participantToJson, ih]

/-- The meta of the request that a response answers. -/
def ControlDispatcherResponse.requestMeta : ControlDispatcherResponse → RequestMeta
  | .success requestMeta _ => requestMeta
  | .error requestMeta _ => requestMeta

theorem find?_withRequestId {json : Json} (hobject : json.isObject = true)
    (requestId : Option String) {key : String} (hkey : key ≠ "request_id") :
    (withRequestId json requestId).find? key = json.find? key := by
  cases requestId with
  | none => rfl
  | some requestId =>
      rw [withRequestId, Json.find?_set hobject, if_neg (Ne.symm hkey)]

theorem isObject_withRequestId {json : Json} (requestId : Option String) :
    (withRequestId json requestId).isObject = json.isObject := by
  cases requestId <;> simp [withRequestId]

theorem messageType_encodeResponse (response : ControlDispatcherResponse) :
    messageType (encodeResponse response) =
      some (resultType (ControlDispatcherResponse.requestMeta response)) := by
  cases response <;>
    simp [messageType, stringField, encodeResponse, Json.find?_set, isObject_withRequestId,
      find?_withRequestId, Json.find?_ofEntries, Json.lookupEntry,
      ControlDispatcherResponse.requestMeta]

theorem okFlag_success (requestMeta : RequestMeta) (payload : SuccessResponsePayload) :
    okFlag (encodeResponse (.success requestMeta payload)) = some true := by
  simp [okFlag, encodeResponse, Json.find?_set, isObject_withRequestId, find?_withRequestId,
    Json.find?_ofEntries, Json.lookupEntry]

theorem okFlag_error (requestMeta : RequestMeta) (payload : ErrorResponsePayload) :
    okFlag (encodeResponse (.error requestMeta payload)) = some false := by
  simp [okFlag, encodeResponse, Json.find?_set, isObject_withRequestId, find?_withRequestId,
    Json.find?_ofEntries, Json.lookupEntry]

theorem errorCodeOf_success (requestMeta : RequestMeta) (payload : SuccessResponsePayload) :
    errorCodeOf (encodeResponse (.success requestMeta payload)) = none := by
  simp [errorCodeOf, encodeResponse, Json.find?_set, isObject_withRequestId, find?_withRequestId,
    Json.find?_ofEntries, Json.lookupEntry]

theorem stringField_errorToJson (code : String) :
    stringField (errorToJson code) "code" = some code := by
  simp [stringField, errorToJson, Json.find?_ofEntries, Json.lookupEntry]

theorem errorCodeOf_error (requestMeta : RequestMeta) (payload : ErrorResponsePayload) :
    errorCodeOf (encodeResponse (.error requestMeta payload)) = some (errorCode payload) := by
  simp [errorCodeOf, encodeResponse, Json.find?_set, isObject_withRequestId,
    stringField_errorToJson]

/-- The id that is written is the id that is read. -/
theorem find?_requestId_withRequestId {json : Json} (hobject : json.isObject = true)
    (hnone : json.find? "request_id" = none) (requestId : Option String) :
    (withRequestId json requestId).find? "request_id" = requestId.map .string := by
  cases requestId with
  | none => exact hnone
  | some requestId => rw [withRequestId, Json.find?_set hobject, if_pos rfl, Option.map_some]

/-- A response carries the id of its meta. -/
theorem find?_requestId_encodeResponse (response : ControlDispatcherResponse) :
    (encodeResponse response).find? "request_id" =
      (ControlDispatcherResponse.requestMeta response).requestId.map .string := by
  have hnone (type : String) (ok : Bool) :
      (Json.ofEntries [("type", .string type), ("ok", .boolean ok)]).find? "request_id" =
        none := by
    simp [Json.find?_ofEntries, Json.lookupEntry]
  cases response with
  | success requestMeta payload =>
      rw [encodeResponse, Json.find?_set (by simp [isObject_withRequestId]), if_neg (by decide),
        find?_requestId_withRequestId (by simp) (hnone _ _)]
      rfl
  | error requestMeta payload =>
      rw [encodeResponse, Json.find?_set (by simp [isObject_withRequestId]), if_neg (by decide),
        find?_requestId_withRequestId (by simp) (hnone _ _)]
      rfl

theorem payload_success (requestMeta : RequestMeta) (payload : SuccessResponsePayload) :
    (encodeResponse (.success requestMeta payload)).find? "payload" =
      some (successPayloadToJson payload) := by
  simp [encodeResponse, Json.find?_set, isObject_withRequestId]

/-- Every result type is the type of a direct reply. -/
theorem resultType_mem_replyTypes (requestMeta : RequestMeta) :
    resultType requestMeta ∈ replyTypes := by
  obtain ⟨type, requestId, signalingType⟩ := requestMeta
  cases type with
  | signaling =>
      cases signalingType with
      | none => simp [resultType, replyTypes]
      | some signalingType =>
          cases signalingType <;> simp [resultType, signalingTypeToString, replyTypes]
  | _ => simp [resultType, replyTypes]

theorem isReply_encodeResponse (response : ControlDispatcherResponse) :
    isReply (encodeResponse response) = true := by
  simp [isReply, messageType_encodeResponse, resultType_mem_replyTypes]

/-- No reply type is a relay type. -/
theorem isRelay_of_isReply {json : Json} (h : isReply json = true) : isRelay json = false := by
  unfold isReply at h
  unfold isRelay
  cases htype : messageType json with
  | none => rfl
  | some type =>
      rw [htype] at h
      have hmem : type ∈ replyTypes := by simpa using h
      have hnot : type ∉ relayTypes := by
        have hdisjoint : ∀ type ∈ replyTypes, type ∉ relayTypes := by decide
        exact hdisjoint type hmem
      simpa using hnot

theorem find?_encodeProtocolError (requestMeta : Option RequestMeta) (code : String)
    (requestId : Option String) {key : String} (hkey : key ≠ "request_id") :
    (encodeProtocolError requestMeta code requestId).find? key =
      (Json.ofEntries [("type", .string (protocolErrorType requestMeta)),
        ("ok", .boolean false), ("error", errorToJson code)]).find? key := by
  simp only [encodeProtocolError]
  split
  · rw [find?_withRequestId (Json.isObject_ofEntries _) _ hkey]
  · rw [find?_withRequestId (Json.isObject_ofEntries _) _ hkey]

theorem messageType_encodeProtocolError (requestMeta : Option RequestMeta) (code : String)
    (requestId : Option String) :
    messageType (encodeProtocolError requestMeta code requestId) =
      some (protocolErrorType requestMeta) := by
  rw [messageType, stringField, find?_encodeProtocolError _ _ _ (by decide)]
  simp [Json.find?_ofEntries, Json.lookupEntry]

theorem isReply_encodeProtocolError (requestMeta : Option RequestMeta) (code : String)
    (requestId : Option String) :
    isReply (encodeProtocolError requestMeta code requestId) = true := by
  have htype := messageType_encodeProtocolError requestMeta code requestId
  cases requestMeta with
  | none => simp [isReply, htype, protocolErrorType, replyTypes]
  | some requestMeta => simp [isReply, htype, protocolErrorType, resultType_mem_replyTypes]

theorem errorCodeOf_encodeProtocolError (requestMeta : Option RequestMeta) (code : String)
    (requestId : Option String) :
    errorCodeOf (encodeProtocolError requestMeta code requestId) = some code := by
  rw [errorCodeOf, find?_encodeProtocolError _ _ _ (by decide)]
  simp [Json.find?_ofEntries, Json.lookupEntry, stringField_errorToJson]

/-- A protocol error carries the id of its meta, or else the one it was given. -/
theorem find?_requestId_encodeProtocolError (requestMeta : Option RequestMeta) (code : String)
    (requestId : Option String) :
    (encodeProtocolError requestMeta code requestId).find? "request_id" =
      ((requestMeta.bind RequestMeta.requestId).or requestId).map .string := by
  have hnone : (Json.ofEntries [("type", .string (protocolErrorType requestMeta)),
      ("ok", .boolean false), ("error", errorToJson code)]).find? "request_id" = none := by
    simp [Json.find?_ofEntries, Json.lookupEntry]
  simp only [encodeProtocolError]
  split
  · rw [find?_requestId_withRequestId (by simp) hnone]
    rfl
  · next hmeta =>
      rw [find?_requestId_withRequestId (by simp) hnone]
      rcases requestMeta with _ | ⟨type, metaId, signalingType⟩
      · rfl
      · cases metaId with
        | none => rfl
        | some metaId => exact absurd rfl (hmeta type metaId signalingType)

theorem okFlag_encodeProtocolError (requestMeta : Option RequestMeta) (code : String)
    (requestId : Option String) :
    okFlag (encodeProtocolError requestMeta code requestId) = some false := by
  rw [okFlag, find?_encodeProtocolError _ _ _ (by decide)]
  simp [Json.find?_ofEntries, Json.lookupEntry]

theorem messageType_encodeEvent (event : ControlDispatcherEvent) :
    messageType (encodeEvent event) = some (match event with
      | .joinedRoom _ _ _ => "participant_joined"
      | .leftRoom _ _ _ => "participant_left") := by
  cases event <;>
    simp [messageType, stringField, encodeEvent, Json.find?_ofEntries, Json.lookupEntry]

theorem isReply_encodeEvent (event : ControlDispatcherEvent) :
    isReply (encodeEvent event) = false := by
  cases event <;> simp [isReply, messageType_encodeEvent, replyTypes]

theorem isRelay_encodeEvent (event : ControlDispatcherEvent) :
    isRelay (encodeEvent event) = false := by
  cases event <;> simp [isRelay, messageType_encodeEvent, relayTypes]

theorem messageType_encodeSignalingEvent (response : SignalingResponse) :
    messageType (encodeSignalingEvent response) =
      some (signalingTypeToString response.type) := by
  simp [messageType, stringField, encodeSignalingEvent, Json.find?_ofEntries, Json.lookupEntry]

theorem isRelay_encodeSignalingEvent (response : SignalingResponse) :
    isRelay (encodeSignalingEvent response) = true := by
  cases htype : response.type <;>
    simp [isRelay, messageType_encodeSignalingEvent, htype, signalingTypeToString, relayTypes]

theorem isReply_encodeSignalingEvent (response : SignalingResponse) :
    isReply (encodeSignalingEvent response) = false := by
  cases htype : response.type <;>
    simp [isReply, messageType_encodeSignalingEvent, htype, signalingTypeToString, replyTypes]

/-! ## Observations of what was encoded -/

theorem observe_joinedRoom (roomCode : RoomCode) (participant : Participant)
    (receivers : List Participant) :
    observe (encodeEvent (.joinedRoom roomCode participant receivers)) =
      some (.joined roomCode participant receivers) := by
  rw [observe, messageType_encodeEvent]
  simp [encodeEvent, Json.find?_ofEntries, Json.lookupEntry, observeJoined, stringField,
    Json.find?_set, participantOfJson_participantToJson,
    participantsOfJson_participantsToJson]

theorem observe_leftRoom (roomCode : RoomCode) (participantId : ParticipantId)
    (receivers : List Participant) :
    observe (encodeEvent (.leftRoom roomCode participantId receivers)) =
      some (.left roomCode participantId receivers) := by
  rw [observe, messageType_encodeEvent]
  simp [encodeEvent, Json.find?_ofEntries, Json.lookupEntry, observeLeft, stringField,
    Json.find?_set, participantsOfJson_participantsToJson]

theorem observeSnapshot_rosterToJson (roomCode : RoomCode) (participant : Participant)
    (participants : List Participant) :
    observeSnapshot (rosterToJson roomCode participant participants) =
      some (.snapshot roomCode participants) := by
  simp [observeSnapshot, rosterToJson, stringField, Json.find?_ofEntries, Json.lookupEntry,
    participantsOfJson_participantsToJson]

/-- A refusal says nothing about participants. -/
theorem observe_of_not_ok {json : Json} (hreply : isReply json = true)
    (hok : okFlag json = some false) : observe json = none := by
  unfold observe
  rw [hok]
  unfold isReply at hreply
  split
  · next h => simp at h
  · next h => simp at h
  · next htype => simp [htype, replyTypes] at hreply
  · next htype => simp [htype, replyTypes] at hreply
  · rfl

theorem observe_relay {json : Json} (h : isRelay json = true) : observe json = none := by
  unfold observe
  unfold isRelay at h
  split
  · next htype _ => simp [htype, relayTypes] at h
  · next htype _ => simp [htype, relayTypes] at h
  · next htype => simp [htype, relayTypes] at h
  · next htype => simp [htype, relayTypes] at h
  · rfl

/-- What a successful response says, when its payload fits its meta. -/
theorem observe_success {requestMeta : RequestMeta} {payload : SuccessResponsePayload} :
    observe (encodeResponse (.success requestMeta payload)) =
      match requestMeta.type with
      | .createRoom => observeSnapshot (successPayloadToJson payload)
      | .joinRoom => observeSnapshot (successPayloadToJson payload)
      | _ => none := by
  obtain ⟨type, requestId, signalingType⟩ := requestMeta
  rw [observe, messageType_encodeResponse, okFlag_success, payload_success]
  cases type with
  | createRoom => rfl
  | joinRoom => rfl
  | leaveRoom => rfl
  | signaling =>
      cases signalingType with
      | none => rfl
      | some signalingType => cases signalingType <;> rfl

end ClientView
end App
end BuzzWeb
