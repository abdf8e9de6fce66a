import BuzzWeb.App.ControlDispatcher

/-!
# The protocol codec

`app/ProtocolCodec`: JSON values to requests, and responses, events and relays to JSON values.

Parsing text into a JSON value and printing a value as text belong to the JSON library.  Parsing
enters as a function `ByteArray → ParseResult`; what the encoders return here is the value whose
text is sent.
-/

namespace BuzzWeb
namespace App

open Domain

/-- What the JSON library makes of a text: a value, its own `parse_error`, or another exception
of the library (a number out of range). -/
inductive ParseResult where
  | value (json : Json)
  | parseError
  | otherException

/-- The exceptions that leave `DecodeRequest`. -/
inductive DecodeException where
  | parseError
  | protocolDecodeError (requestMeta : Option RequestMeta) (code : String)
      (requestId : Option String)
  | otherException

namespace ProtocolCodec

/-! ## Decoding -/

/-- The error is the text of the `std::invalid_argument` thrown. -/
def requiredString (payload : Json) (field : String) : Except String String :=
  match payload.find? field with
  | none => .error "missing_field"
  | some (.string value) => .ok value
  | some _ => .error "invalid_field"

def optionalString (payload : Json) (field : String) : Except String (Option String) :=
  match payload.find? field with
  | none => .ok none
  | some .null => .ok none
  | some (.string value) => .ok (some value)
  | some _ => .error "invalid_field"

/-- The constructor of `ProtocolDecodeError`: the id of the meta wins over the given one. -/
def protocolDecodeError (requestMeta : Option RequestMeta) (code : String)
    (requestId : Option String) : DecodeException :=
  .protocolDecodeError requestMeta code <|
    match requestMeta with
    | some { requestId := some metaId, .. } => some metaId
    | _ => requestId

/-- The first if-chain over the type string. -/
def metaOfType (type : String) : Option RequestMeta :=
  if type = "create_room" then some ⟨.createRoom, none, none⟩
  else if type = "join_room" then some ⟨.joinRoom, none, none⟩
  else if type = "leave_room" then some ⟨.leaveRoom, none, none⟩
  else if type = "offer" then some ⟨.signaling, none, some .offer⟩
  else if type = "answer" then some ⟨.signaling, none, some .answer⟩
  else if type = "ice_candidate" then some ⟨.signaling, none, some .iceCandidate⟩
  else none

/-- The second if-chain: the fields of the payload, read in the order of the initialisers.
`signalingType` is only dereferenced for the types that reach the end of the chain. -/
def commandOfType (participantId : ParticipantId) (type : String)
    (signalingType : Option SignalingType) (payload : Json) : Except String Command :=
  if type = "create_room" then do
    let displayName ← requiredString payload "display_name"
    let password ← optionalString payload "password"
    pure (.createRoom ⟨⟨participantId, displayName⟩, password⟩)
  else if type = "join_room" then do
    let roomCode ← requiredString payload "room_code"
    let displayName ← requiredString payload "display_name"
    let password ← optionalString payload "password"
    pure (.joinRoom ⟨roomCode, ⟨participantId, displayName⟩, password⟩)
  else if type = "leave_room" then do
    let roomCode ← requiredString payload "room_code"
    pure (.leaveRoom ⟨roomCode, participantId⟩)
  else do
    let roomCode ← requiredString payload "room_code"
    let target ← requiredString payload "target_participant_id"
    pure (.signaling ⟨signalingType.getD .offer, roomCode, participantId, target, payload⟩)

/-- The string under `request_id`, when it is one. -/
def stringRequestId (json : Json) : Option String :=
  match json.find? "request_id" with
  | some (.string requestId) => some requestId
  | _ => none

/-- `request_id` is present and neither `null` nor a string. -/
def badRequestId (json : Json) : Bool :=
  match json.find? "request_id" with
  | none => false
  | some .null => false
  | some (.string _) => false
  | some _ => true

/-- `DecodeRequest` after parsing. -/
def decodeJson (participantId : ParticipantId) (json : Json) :
    Except DecodeException ControlDispatcherRequest :=
  match json.find? "type" with
  | some (.string type) =>
      match metaOfType type with
      | none => .error (protocolDecodeError none "invalid_message" (stringRequestId json))
      | some typeMeta =>
          if badRequestId json then
            .error (protocolDecodeError (some typeMeta) "invalid_message" none)
          else
            let requestMeta : RequestMeta := { typeMeta with requestId := stringRequestId json }
            match json.find? "payload" with
            | some (.object entries) =>
                match commandOfType participantId type requestMeta.signalingType
                  (.object entries) with
                | .ok command => .ok ⟨requestMeta, command⟩
                | .error code => .error (protocolDecodeError (some requestMeta) code none)
            | _ => .error (protocolDecodeError (some requestMeta) "invalid_message" none)
  | _ => .error (protocolDecodeError none "invalid_message" none)

def decodeRequest (parse : ByteArray → ParseResult) (participantId : ParticipantId)
    (message : ByteArray) : Except DecodeException ControlDispatcherRequest :=
  match parse message with
  | .value json => decodeJson participantId json
  | .parseError => .error .parseError
  | .otherException => .error .otherException

/-! ## Encoding -/

def participantToJson (participant : Participant) : Json :=
  .ofEntries [("participant_id", .string participant.id),
    ("display_name", .string participant.name)]

def participantsToJson (participants : List Participant) : Json :=
  .array (participants.map participantToJson)

def signalingTypeToString : SignalingType → String
  | .offer => "offer"
  | .answer => "answer"
  | .iceCandidate => "ice_candidate"

def resultType (requestMeta : RequestMeta) : String :=
  match requestMeta.type with
  | .createRoom => "create_room_result"
  | .joinRoom => "join_room_result"
  | .leaveRoom => "leave_room_result"
  | .signaling =>
      match requestMeta.signalingType with
      | some signalingType => signalingTypeToString signalingType ++ "_result"
      | none => "error"

def errorMessage (code : String) : String :=
  if code = "invalid_json" then "Message must be valid JSON."
  else if code = "invalid_message" then "Message type or payload is invalid."
  else if code = "missing_field" then "Required field is missing."
  else if code = "invalid_field" then "Field has an invalid value."
  else if code = "room_not_found" then "Room was not found."
  else if code = "wrong_password" then "Room password is incorrect."
  else if code = "already_joined" then "Participant is already in the room."
  else if code = "not_in_room" then "Participant is not in the room."
  else if code = "participant_unavailable" then "Participant is not connected."
  else if code = "password_not_provided" then "Room password is required."
  else if code = "room_code_generation_failed" then "Room code could not be generated."
  else if code = "room_already_exists" then "Room already exists."
  else "Internal server error."

def errorCode : ErrorResponsePayload → String
  | .roomAlreadyExists => "room_already_exists"
  | .roomCodeGenerationFailed => "room_code_generation_failed"
  | .notInRoom => "not_in_room"
  | .alreadyInRoom => "already_joined"
  | .wrongPassword => "wrong_password"
  | .passwordNotProvided => "password_not_provided"
  | .roomNotFound => "room_not_found"
  | .participantUnavailable => "participant_unavailable"
  | .internalError => "internal_error"
  | .unexpectedError => "internal_error"

/-- The `error` member of a refusal. -/
def errorToJson (code : String) : Json :=
  .ofEntries [("code", .string code), ("message", .string (errorMessage code))]

/-- The `payload` member of a create or join result. -/
def rosterToJson (roomCode : RoomCode) (participant : Participant)
    (participants : List Participant) : Json :=
  .ofEntries [("room_code", .string roomCode), ("participant", participantToJson participant),
    ("participants", participantsToJson participants)]

def successPayloadToJson : SuccessResponsePayload → Json
  | .createRoom response =>
      rosterToJson response.roomCode response.participant response.participants
  | .joinRoom response =>
      rosterToJson response.roomCode response.participant response.participants
  | .leaveRoom response => .ofEntries [("room_code", .string response.roomCode)]
  | .signaling response => .ofEntries [("room_code", .string response.roomCode)]

/-- `json["request_id"] = ...` when there is one. -/
def withRequestId (json : Json) : Option String → Json
  | some requestId => json.set "request_id" (.string requestId)
  | none => json

def encodeResponse : ControlDispatcherResponse → Json
  | .success requestMeta payload =>
      (withRequestId
        (.ofEntries [("type", .string (resultType requestMeta)), ("ok", .boolean true)])
        requestMeta.requestId).set "payload" (successPayloadToJson payload)
  | .error requestMeta payload =>
      (withRequestId
        (.ofEntries [("type", .string (resultType requestMeta)), ("ok", .boolean false)])
        requestMeta.requestId).set "error" (errorToJson (errorCode payload))

def encodeEvent : ControlDispatcherEvent → Json
  | .joinedRoom roomCode joinedParticipant eventReceivers =>
      .ofEntries [("type", .string "participant_joined"),
        ("payload", (Json.ofEntries [("room_code", .string roomCode),
          ("participants", participantsToJson eventReceivers)]).set "participant"
            (participantToJson joinedParticipant))]
  | .leftRoom roomCode leftParticipantId eventReceivers =>
      .ofEntries [("type", .string "participant_left"),
        ("payload", (Json.ofEntries [("room_code", .string roomCode),
          ("participants", participantsToJson eventReceivers)]).set "participant_id"
            (.string leftParticipantId))]

def encodeSignalingEvent (response : SignalingResponse) : Json :=
  let payload := ((response.data.set "room_code" (.string response.roomCode)).set
    "target_participant_id" (.string response.targetParticipantId)).set
      "from_participant_id" (.string response.fromParticipantId)
  .ofEntries [("type", .string (signalingTypeToString response.type)), ("payload", payload)]

/-- `meta ? ResultType(*meta) : "error"`. -/
def protocolErrorType : Option RequestMeta → String
  | some requestMeta => resultType requestMeta
  | none => "error"

def encodeProtocolError (requestMeta : Option RequestMeta) (code : String)
    (requestId : Option String) : Json :=
  let json := Json.ofEntries [("type", .string (protocolErrorType requestMeta)),
    ("ok", .boolean false), ("error", errorToJson code)]
  match requestMeta with
  | some { requestId := some metaId, .. } => withRequestId json (some metaId)
  | _ => withRequestId json requestId

end ProtocolCodec
end App
end BuzzWeb
