import BuzzWeb.App.RequestGrammar

/-!
# The grammar of requests

Which JSON values `DecodeRequest` accepts, stated without its control flow.  A message has an
envelope (`type`, `request_id`, `payload`) and, by its type, a list of payload fields that are
read in a fixed order.  A broken envelope is an `invalid_message`; with the envelope in order, the
first field that does not fit decides between `missing_field` and `invalid_field`.

`fieldsOf` is that list.  It names every key of the payload that a create, a join or a leave looks
at, so nothing else in the message can have an influence on what they do, least of all on who does
it.
-/

namespace BuzzWeb
namespace App
namespace ProtocolCodec

open Domain

/-- The recognised values of `type`. -/
def requestTypes : List String :=
  ["create_room", "join_room", "leave_room", "offer", "answer", "ice_candidate"]

/-- The key holds a string. -/
def HasString (json : Json) (key : String) : Prop :=
  ∃ value, json.find? key = some (.string value)

/-- The key is absent, `null` or holds a string. -/
def MayHaveString (json : Json) (key : String) : Prop :=
  json.find? key = none ∨ json.find? key = some .null ∨ HasString json key

/-- The message has a type the decoder knows, an acceptable request id and an object as payload. -/
structure Envelope (json : Json) (type : String) (payload : Json) : Prop where
  object : json.isObject = true
  typed : json.find? "type" = some (.string type)
  known : type ∈ requestTypes
  requestId : MayHaveString json "request_id"
  payload_eq : json.find? "payload" = some payload
  payload_object : payload.isObject = true

/-- The messages that are requests. -/
def InGrammar (json : Json) : Prop :=
  ∃ type payload, Envelope json type payload ∧
    (type = "create_room" ∨ type = "join_room" → HasString payload "display_name") ∧
    (type ≠ "create_room" → HasString payload "room_code") ∧
    (type = "offer" ∨ type = "answer" ∨ type = "ice_candidate" →
      HasString payload "target_participant_id") ∧
    (type = "create_room" ∨ type = "join_room" → MayHaveString payload "password")

/-- A payload field that is read. -/
inductive Field where
  | required (key : String)
  | optional (key : String)

namespace Field

def key : Field → String
  | required key => key
  | optional key => key

/-- What is wrong with the field in a payload, if anything. -/
def offence (payload : Json) : Field → Option String
  | required key =>
      match payload.find? key with
      | none => some "missing_field"
      | some (.string _) => none
      | some _ => some "invalid_field"
  | optional key =>
      match payload.find? key with
      | none => none
      | some .null => none
      | some (.string _) => none
      | some _ => some "invalid_field"

end Field

/-- The payload fields of a request type, in the order they are read. -/
def fieldsOf (type : String) : List Field :=
  if type = "create_room" then [.required "display_name", .optional "password"]
  else if type = "join_room" then
    [.required "room_code", .required "display_name", .optional "password"]
  else if type = "leave_room" then [.required "room_code"]
  else [.required "room_code", .required "target_participant_id"]

/-- What is wrong with the first field of the type that does not fit. -/
def firstOffence (type : String) (payload : Json) : Option String :=
  (fieldsOf type).findSome? (Field.offence payload)

/-! ## Reading one field -/

/-- A required string is read, or the field offends. -/
theorem requiredString_cases (payload : Json) (key : String) :
    (∃ value, requiredString payload key = .ok value ∧
      Field.offence payload (.required key) = none) ∨
    (∃ code, requiredString payload key = .error code ∧
      Field.offence payload (.required key) = some code) := by
  simp only [requiredString, Field.offence]
  cases payload.find? key with
  | none => simp
  | some value => cases value <;> simp

theorem optionalString_cases (payload : Json) (key : String) :
    (∃ value, optionalString payload key = .ok value ∧
      Field.offence payload (.optional key) = none) ∨
    (∃ code, optionalString payload key = .error code ∧
      Field.offence payload (.optional key) = some code) := by
  simp only [optionalString, Field.offence]
  cases payload.find? key with
  | none => simp
  | some value => cases value <;> simp

theorem hasString_iff {json : Json} {key : String} :
    HasString json key ↔ ∃ value, requiredString json key = .ok value := by
  simp only [HasString, requiredString_eq_ok_iff]

theorem mayHaveString_iff {json : Json} {key : String} :
    MayHaveString json key ↔ ∃ value, optionalString json key = .ok value := by
  simp only [optionalString_eq_ok_iff]
  constructor
  · rintro (habsent | hnull | ⟨value, hvalue⟩)
    · exact ⟨none, Or.inl habsent⟩
    · exact ⟨none, Or.inr hnull⟩
    · exact ⟨some value, hvalue⟩
  · rintro ⟨_ | value, hholds⟩
    · exact hholds.elim Or.inl fun hnull => Or.inr (Or.inl hnull)
    · exact Or.inr (Or.inr ⟨value, hholds⟩)

theorem offence_required_eq_none_iff (payload : Json) (key : String) :
    Field.offence payload (.required key) = none ↔ HasString payload key := by
  rw [hasString_iff]
  rcases requiredString_cases payload key with ⟨value, hread, hoffence⟩ |
    ⟨code, hread, hoffence⟩ <;> simp [hread, hoffence]

theorem offence_optional_eq_none_iff (payload : Json) (key : String) :
    Field.offence payload (.optional key) = none ↔ MayHaveString payload key := by
  rw [mayHaveString_iff]
  rcases optionalString_cases payload key with ⟨value, hread, hoffence⟩ |
    ⟨code, hread, hoffence⟩ <;> simp [hread, hoffence]

/-! ## Reading the payload -/

/-- A command is built exactly when no field of the type offends; otherwise the first offence is
the error. -/
theorem commandOfType_cases (participantId : ParticipantId) (type : String)
    (signalingType : Option SignalingType) (payload : Json) :
    (∃ command, commandOfType participantId type signalingType payload = .ok command ∧
      firstOffence type payload = none) ∨
    (∃ code, commandOfType participantId type signalingType payload = .error code ∧
      firstOffence type payload = some code) := by
  have hcode := requiredString_cases payload "room_code"
  have hname := requiredString_cases payload "display_name"
  have htarget := requiredString_cases payload "target_participant_id"
  have hpassword := optionalString_cases payload "password"
  unfold commandOfType firstOffence fieldsOf
  split_ifs
  · rcases hname with ⟨displayName, hname, hfine⟩ | ⟨code, hname, hoffence⟩
    · rcases hpassword with ⟨password, hpassword, hlast⟩ | ⟨code, hpassword, hoffence⟩
      · exact Or.inl ⟨_, by rw [hname, hpassword]; rfl, by simp [hfine, hlast]⟩
      · exact Or.inr ⟨code, by rw [hname, hpassword]; rfl, by simp [hfine, hoffence]⟩
    · exact Or.inr ⟨code, by rw [hname]; rfl, by simp [hoffence]⟩
  · rcases hcode with ⟨roomCode, hcode, hfirst⟩ | ⟨code, hcode, hoffence⟩
    · rcases hname with ⟨displayName, hname, hfine⟩ | ⟨code, hname, hoffence⟩
      · rcases hpassword with ⟨password, hpassword, hlast⟩ | ⟨code, hpassword, hoffence⟩
        · exact Or.inl ⟨_, by rw [hcode, hname, hpassword]; rfl, by simp [hfirst, hfine, hlast]⟩
        · exact Or.inr ⟨code, by rw [hcode, hname, hpassword]; rfl, by
            simp [hfirst, hfine, hoffence]⟩
      · exact Or.inr ⟨code, by rw [hcode, hname]; rfl, by simp [hfirst, hoffence]⟩
    · exact Or.inr ⟨code, by rw [hcode]; rfl, by simp [hoffence]⟩
  · rcases hcode with ⟨roomCode, hcode, hfirst⟩ | ⟨code, hcode, hoffence⟩
    · exact Or.inl ⟨_, by rw [hcode]; rfl, by simp [hfirst]⟩
    · exact Or.inr ⟨code, by rw [hcode]; rfl, by simp [hoffence]⟩
  · rcases hcode with ⟨roomCode, hcode, hfirst⟩ | ⟨code, hcode, hoffence⟩
    · rcases htarget with ⟨target, htarget, hfine⟩ | ⟨code, htarget, hoffence⟩
      · exact Or.inl ⟨_, by rw [hcode, htarget]; rfl, by simp [hfirst, hfine]⟩
      · exact Or.inr ⟨code, by rw [hcode, htarget]; rfl, by simp [hfirst, hoffence]⟩
    · exact Or.inr ⟨code, by rw [hcode]; rfl, by simp [hoffence]⟩

/-- No field offends exactly when every field is as the grammar wants it. -/
theorem firstOffence_eq_none_iff {type : String} (hknown : type ∈ requestTypes) (payload : Json) :
    firstOffence type payload = none ↔
      (type = "create_room" ∨ type = "join_room" → HasString payload "display_name") ∧
      (type ≠ "create_room" → HasString payload "room_code") ∧
      (type = "offer" ∨ type = "answer" ∨ type = "ice_candidate" →
        HasString payload "target_participant_id") ∧
      (type = "create_room" ∨ type = "join_room" → MayHaveString payload "password") := by
  have hnone : firstOffence type payload = none ↔
      ∀ field ∈ fieldsOf type, Field.offence payload field = none := by
    rw [firstOffence, List.findSome?_eq_none_iff]
  rw [hnone]
  simp only [requestTypes, List.mem_cons, List.not_mem_nil, or_false] at hknown
  rcases hknown with rfl | rfl | rfl | rfl | rfl | rfl <;>
    simp [fieldsOf, offence_required_eq_none_iff, offence_optional_eq_none_iff]
  tauto

/-- A field is read through its key only. -/
theorem requiredString_congr {payload payload' : Json} {key : String}
    (hsame : payload'.find? key = payload.find? key) :
    requiredString payload' key = requiredString payload key := by
  rw [requiredString, hsame, requiredString]

theorem optionalString_congr {payload payload' : Json} {key : String}
    (hsame : payload'.find? key = payload.find? key) :
    optionalString payload' key = optionalString payload key := by
  rw [optionalString, hsame, optionalString]

/-- A create, a join or a leave only depends on the fields of its type.  (Signaling does not: it
carries the whole payload along.) -/
theorem commandOfType_congr {type : String}
    (hroom : type = "create_room" ∨ type = "join_room" ∨ type = "leave_room")
    {payload payload' : Json}
    (hsame : ∀ field ∈ fieldsOf type, payload'.find? field.key = payload.find? field.key)
    (participantId : ParticipantId) (signalingType : Option SignalingType) :
    commandOfType participantId type signalingType payload' =
      commandOfType participantId type signalingType payload := by
  rcases hroom with rfl | rfl | rfl
  · have hname : payload'.find? "display_name" = payload.find? "display_name" :=
      hsame (.required "display_name") (by simp [fieldsOf])
    have hpassword : payload'.find? "password" = payload.find? "password" :=
      hsame (.optional "password") (by simp [fieldsOf])
    simp only [commandOfType, if_true]
    rw [requiredString_congr hname, optionalString_congr hpassword]
  · have hcode : payload'.find? "room_code" = payload.find? "room_code" :=
      hsame (.required "room_code") (by simp [fieldsOf])
    have hname : payload'.find? "display_name" = payload.find? "display_name" :=
      hsame (.required "display_name") (by simp [fieldsOf])
    have hpassword : payload'.find? "password" = payload.find? "password" :=
      hsame (.optional "password") (by simp [fieldsOf])
    simp only [commandOfType, if_true, String.reduceEq, if_false]
    rw [requiredString_congr hcode, requiredString_congr hname, optionalString_congr hpassword]
  · have hcode : payload'.find? "room_code" = payload.find? "room_code" :=
      hsame (.required "room_code") (by simp [fieldsOf])
    simp only [commandOfType, if_true, String.reduceEq, if_false]
    rw [requiredString_congr hcode]

/-! ## Reading the envelope -/

theorem metaOfType_isSome_iff (type : String) :
    (∃ typeMeta, metaOfType type = some typeMeta) ↔ type ∈ requestTypes := by
  constructor
  · rintro ⟨typeMeta, hmeta⟩
    rcases metaOfType_cases hmeta with ⟨rfl, -⟩ | ⟨rfl, -⟩ | ⟨rfl, -⟩ | ⟨signalingType, rfl, -⟩
    · simp [requestTypes]
    · simp [requestTypes]
    · simp [requestTypes]
    · cases signalingType <;> simp [requestTypes, signalingTypeToString]
  · intro hknown
    simp only [requestTypes, List.mem_cons, List.not_mem_nil, or_false] at hknown
    rcases hknown with rfl | rfl | rfl | rfl | rfl | rfl <;> exact ⟨_, rfl⟩

theorem badRequestId_eq_false_iff (json : Json) :
    badRequestId json = false ↔ MayHaveString json "request_id" := by
  simp only [badRequestId, MayHaveString, HasString]
  cases hid : json.find? "request_id" with
  | none => simp
  | some value => cases value <;> simp

/-- With the envelope in order, the payload decides. -/
theorem decodeJson_of_envelope {json : Json} {type : String} {payload : Json}
    (henvelope : Envelope json type payload) {typeMeta : RequestMeta}
    (hmeta : metaOfType type = some typeMeta) (participantId : ParticipantId) :
    decodeJson participantId json =
      match commandOfType participantId type typeMeta.signalingType payload with
      | .ok command => .ok ⟨{ typeMeta with requestId := stringRequestId json }, command⟩
      | .error code => .error (protocolDecodeError
          (some { typeMeta with requestId := stringRequestId json }) code none) := by
  have hid := (badRequestId_eq_false_iff json).mpr henvelope.requestId
  obtain ⟨entries, rfl⟩ : ∃ entries, payload = .object entries := by
    have hobject := henvelope.payload_object
    cases payload with
    | object entries => exact ⟨entries, rfl⟩
    | _ => cases hobject
  cases hcommand : commandOfType participantId type typeMeta.signalingType (.object entries) with
  | ok command =>
      simp only [decodeJson, henvelope.typed, hmeta, hid, henvelope.payload_eq, hcommand,
        Bool.false_eq_true, if_false]
  | error code =>
      simp only [decodeJson, henvelope.typed, hmeta, hid, henvelope.payload_eq, hcommand,
        Bool.false_eq_true, if_false]

/-- The exception of a message of known type carries the id of the message. -/
theorem protocolDecodeError_some (typeMeta : RequestMeta) (code : String)
    (requestId : Option String) :
    protocolDecodeError (some { typeMeta with requestId := requestId }) code none =
      .protocolDecodeError (some { typeMeta with requestId := requestId }) code requestId := by
  unfold protocolDecodeError
  cases requestId <;> rfl

/-- A broken envelope is an invalid message.  When the type is known, the exception carries the
type and the id of the message; when it is an unknown string, the id alone; when there is no type
string, neither. -/
theorem decodeJson_of_no_envelope {json : Json}
    (hbroken : ∀ type payload, ¬ Envelope json type payload) (participantId : ParticipantId) :
    (∃ type typeMeta, json.find? "type" = some (.string type) ∧
      metaOfType type = some typeMeta ∧
      decodeJson participantId json = .error (.protocolDecodeError
        (some { typeMeta with requestId := stringRequestId json }) "invalid_message"
        (stringRequestId json))) ∨
    (∃ type, json.find? "type" = some (.string type) ∧ metaOfType type = none ∧
      decodeJson participantId json =
        .error (.protocolDecodeError none "invalid_message" (stringRequestId json))) ∨
    (¬ HasString json "type" ∧ decodeJson participantId json =
      .error (.protocolDecodeError none "invalid_message" none)) := by
  unfold decodeJson
  split
  case h_2 htype =>
    refine Or.inr (Or.inr ⟨?_, rfl⟩)
    rintro ⟨type, hstring⟩
    exact htype type hstring
  case h_1 type htype =>
    split
    case h_1 hmeta => exact Or.inr (Or.inl ⟨type, htype, hmeta, rfl⟩)
    case h_2 typeMeta hmeta =>
      refine Or.inl ⟨type, typeMeta, htype, hmeta, ?_⟩
      rw [← protocolDecodeError_some]
      split_ifs with hbad
      · -- An id of the wrong type is no id, in the message as in the exception.
        have hid : stringRequestId json = none := by
          unfold badRequestId at hbad
          unfold stringRequestId
          split at hbad <;> simp_all
        rw [hid]
        rcases metaOfType_cases hmeta with ⟨-, rfl⟩ | ⟨-, rfl⟩ | ⟨-, rfl⟩ | ⟨_, -, rfl⟩ <;> rfl
      · simp only
        split
        case h_2 => rfl
        case h_1 entries hpayload =>
          -- Every check has passed, so there is an envelope after all.
          exact absurd ⟨Json.isObject_of_find? htype, htype,
            (metaOfType_isSome_iff type).mp ⟨typeMeta, hmeta⟩,
            (badRequestId_eq_false_iff json).mp (by simpa using hbad), hpayload, rfl⟩
            (hbroken type (.object entries))

/-- The envelope of a message is unique. -/
theorem Envelope.unique {json : Json} {type type' : String} {payload payload' : Json}
    (h : Envelope json type payload) (h' : Envelope json type' payload') :
    type = type' ∧ payload = payload' := by
  have htype := h.typed.symm.trans h'.typed
  have hpayload := h.payload_eq.symm.trans h'.payload_eq
  exact ⟨Json.string.inj (Option.some.inj htype), Option.some.inj hpayload⟩

/-- A message is decoded exactly when it is in the grammar; what stands in the way of the others
is their envelope or their first offending field. -/
theorem decodeJson_cases (participantId : ParticipantId) (json : Json) :
    (InGrammar json ∧ ∃ request, decodeJson participantId json = .ok request) ∨
    (¬ InGrammar json ∧ ∃ requestMeta code requestId,
      decodeJson participantId json = .error (.protocolDecodeError requestMeta code requestId) ∧
      ((∀ type payload, ¬ Envelope json type payload) → code = "invalid_message") ∧
      ∀ type payload, Envelope json type payload → firstOffence type payload = some code) := by
  by_cases henvelope : ∃ type payload, Envelope json type payload
  · obtain ⟨type, payload, henvelope⟩ := henvelope
    obtain ⟨typeMeta, hmeta⟩ := (metaOfType_isSome_iff type).mpr henvelope.known
    have hdecode := decodeJson_of_envelope henvelope hmeta participantId
    have hfields := firstOffence_eq_none_iff henvelope.known payload
    rcases commandOfType_cases participantId type typeMeta.signalingType payload with
      ⟨command, hcommand, hfine⟩ | ⟨code, hcommand, hoffence⟩
    · rw [hcommand] at hdecode
      exact Or.inl ⟨⟨type, payload, henvelope, hfields.mp hfine⟩, _, hdecode⟩
    · rw [hcommand] at hdecode
      refine Or.inr ⟨?_, _, _, _, hdecode, fun hbroken => absurd henvelope (hbroken _ _), ?_⟩
      · rintro ⟨type', payload', henvelope', hgood⟩
        obtain ⟨rfl, rfl⟩ := henvelope.unique henvelope'
        rw [hfields.mpr hgood] at hoffence
        cases hoffence
      · intro type' payload' henvelope'
        obtain ⟨rfl, rfl⟩ := henvelope.unique henvelope'
        exact hoffence
  · have hbroken : ∀ type payload, ¬ Envelope json type payload := by
      intro type payload hthis
      exact henvelope ⟨type, payload, hthis⟩
    obtain ⟨requestMeta, requestId, hdecode⟩ : ∃ requestMeta requestId,
        decodeJson participantId json =
          .error (.protocolDecodeError requestMeta "invalid_message" requestId) := by
      rcases decodeJson_of_no_envelope hbroken participantId with ⟨_, _, -, -, hthis⟩ |
        ⟨_, -, -, hthis⟩ | ⟨-, hthis⟩ <;> exact ⟨_, _, hthis⟩
    refine Or.inr ⟨?_, _, _, _, hdecode, fun _ => rfl, ?_⟩
    · rintro ⟨type, payload, hthis, -⟩
      exact hbroken type payload hthis
    · intro type payload hthis
      exact absurd hthis (hbroken type payload)

/-- Messages with the same type, the same request id, and payloads that agree on the fields of
that type decode to the same request, when the type is a room request. -/
theorem decodeJson_congr {json json' : Json} {type : String} {payload payload' : Json}
    (henvelope : Envelope json type payload)
    (hroom : type = "create_room" ∨ type = "join_room" ∨ type = "leave_room")
    (htype : json'.find? "type" = json.find? "type")
    (hid : json'.find? "request_id" = json.find? "request_id")
    (hpayload : json'.find? "payload" = some payload') (hobject : payload'.isObject = true)
    (hsame : ∀ field ∈ fieldsOf type, payload'.find? field.key = payload.find? field.key)
    (participantId : ParticipantId) :
    decodeJson participantId json' = decodeJson participantId json := by
  have henvelope' : Envelope json' type payload' := by
    refine ⟨Json.isObject_of_find? hpayload, htype.trans henvelope.typed, henvelope.known, ?_,
      hpayload, hobject⟩
    have hold := henvelope.requestId
    unfold MayHaveString HasString at hold ⊢
    rwa [hid]
  have hrequestId : stringRequestId json' = stringRequestId json := by
    rw [stringRequestId, hid, stringRequestId]
  obtain ⟨typeMeta, hmeta⟩ := (metaOfType_isSome_iff type).mpr henvelope.known
  rw [decodeJson_of_envelope henvelope' hmeta, decodeJson_of_envelope henvelope hmeta,
    commandOfType_congr hroom hsame, hrequestId]

/-- **The decoder accepts its grammar, and binds the sender.**  A message is decoded exactly when
it is in the grammar.  The request has the field values of the message and the session as its
acting participant; for a room request, no other key of the message or its payload matters.  A
message outside the grammar is answered by the code of its first violation. -/
theorem decodeRequest_accepts_grammar {parse : ByteArray → ParseResult}
    (participantId : ParticipantId) {message : ByteArray} {json : Json}
    (hparse : parse message = .value json) :
    ((∃ request, decodeRequest parse participantId message = .ok request) ↔ InGrammar json) ∧
    (∀ request, decodeRequest parse participantId message = .ok request →
      Decoded participantId json request ∧
      ∀ type payload, Envelope json type payload →
        type = "create_room" ∨ type = "join_room" ∨ type = "leave_room" →
        ∀ message' json' payload', parse message' = .value json' →
          json'.find? "type" = json.find? "type" →
          json'.find? "request_id" = json.find? "request_id" →
          json'.find? "payload" = some payload' → payload'.isObject = true →
          (∀ field ∈ fieldsOf type, payload'.find? field.key = payload.find? field.key) →
          decodeRequest parse participantId message' = .ok request) ∧
    (∀ exception, decodeRequest parse participantId message = .error exception →
      ∃ requestMeta code requestId,
        exception = .protocolDecodeError requestMeta code requestId ∧
        ((∀ type payload, ¬ Envelope json type payload) → code = "invalid_message") ∧
        ∀ type payload, Envelope json type payload → firstOffence type payload = some code) := by
  have hdecode : decodeRequest parse participantId message = decodeJson participantId json := by
    rw [decodeRequest, hparse]
  rw [hdecode]
  refine ⟨?_, ?_, ?_⟩
  · rcases decodeJson_cases participantId json with ⟨hgrammar, haccepted⟩ |
      ⟨hoff, requestMeta, code, requestId, hrefused, -⟩
    · exact ⟨fun _ => hgrammar, fun _ => haccepted⟩
    · rw [hrefused]
      constructor
      · rintro ⟨request, hok⟩
        cases hok
      · intro hgrammar
        exact absurd hgrammar hoff
  · intro request hok
    refine ⟨decodeJson_sound hok, ?_⟩
    intro type payload henvelope hroom message' json' payload' hparse' htype hid hpayload hobject
      hsame
    rw [decodeRequest, hparse']
    exact (decodeJson_congr henvelope hroom htype hid hpayload hobject hsame _).trans hok
  · intro exception herror
    rcases decodeJson_cases participantId json with ⟨-, request, haccepted⟩ |
      ⟨-, requestMeta, code, requestId, hrefused, hbroken, hfields⟩
    · rw [haccepted] at herror
      cases herror
    · rw [hrefused] at herror
      exact ⟨requestMeta, code, requestId, (Except.error.inj herror).symm, hbroken, hfields⟩

/-- A join with a code, a name, a password and a request id, as a client writes it, and the same one
with a participant id that is not the sender's. -/
def numberedJoinText : String :=
  "\x7b\"type\":\"join_room\",\"request_id\":\"r1\",\"payload\":\x7b\"display_name\":\"Bob\"," ++
    "\"password\":\"k\",\"room_code\":\"000000\"\x7d\x7d"

def forgedJoinText : String :=
  "\x7b\"type\":\"join_room\",\"request_id\":\"r1\",\"payload\":\x7b\"display_name\":\"Bob\"," ++
    "\"participant_id\":\"p_9\",\"password\":\"k\",\"room_code\":\"000000\"\x7d\x7d"

/-- What the two texts parse to. -/
def numberedJoin : Json :=
  .object [("payload", .object [("display_name", .string "Bob"), ("password", .string "k"),
    ("room_code", .string "000000")]), ("request_id", .string "r1"), ("type", .string "join_room")]

def forgedJoin : Json :=
  .object [("payload", .object [("display_name", .string "Bob"), ("participant_id", .string "p_9"),
    ("password", .string "k"), ("room_code", .string "000000")]), ("request_id", .string "r1"),
    ("type", .string "join_room")]

def joinParse (message : ByteArray) : ParseResult :=
  if message.data = numberedJoinText.toUTF8.data then .value numberedJoin
  else if message.data = forgedJoinText.toUTF8.data then .value forgedJoin
  else .parseError

/-- The join is in the grammar, and is decoded with its own code, name, password and id as a join of
the session that sent it.  The forged one is decoded to the same request. -/
theorem join_message_accepted :
    let request : ControlDispatcherRequest :=
      ⟨⟨.joinRoom, some "r1", none⟩, .joinRoom ⟨"000000", ⟨"p_1", "Bob"⟩, some "k"⟩⟩
    InGrammar numberedJoin ∧
      decodeRequest joinParse "p_1" numberedJoinText.toUTF8 = .ok request ∧
      Decoded "p_1" numberedJoin request ∧
      decodeRequest joinParse "p_1" forgedJoinText.toUTF8 = .ok request := by
  intro request
  have hparse : joinParse numberedJoinText.toUTF8 = .value numberedJoin := if_pos rfl
  have hforged : joinParse forgedJoinText.toUTF8 = .value forgedJoin := by
    rw [joinParse, if_neg (by decide +kernel), if_pos rfl]
  obtain ⟨hiff, hrequest, -⟩ := decodeRequest_accepts_grammar "p_1" hparse
  have hdecode : decodeRequest joinParse "p_1" numberedJoinText.toUTF8 = .ok request := by
    rw [decodeRequest, hparse]
    rfl
  obtain ⟨hdecoded, hothers⟩ := hrequest request hdecode
  have henvelope : Envelope numberedJoin "join_room" (.object [("display_name", .string "Bob"),
      ("password", .string "k"), ("room_code", .string "000000")]) :=
    ⟨rfl, rfl, by simp [requestTypes], Or.inr (Or.inr ⟨"r1", rfl⟩), rfl, rfl⟩
  refine ⟨hiff.mp ⟨request, hdecode⟩, hdecode, hdecoded, ?_⟩
  refine hothers _ _ henvelope (by simp) _ forgedJoin _ hforged rfl rfl rfl rfl ?_
  intro field hfield
  simp only [fieldsOf, String.reduceEq, if_true, if_false, List.mem_cons, List.not_mem_nil,
    or_false] at hfield
  rcases hfield with rfl | rfl | rfl <;> rfl

/-! ## What an answer is about -/

/-- The type and the request id that every answer to a message of a known type is given. -/
theorem resultType_of_metaOfType {type : String} {typeMeta : RequestMeta}
    (hmeta : metaOfType type = some typeMeta) (requestId : Option String) :
    resultType { typeMeta with requestId := requestId } = type ++ "_result" := by
  rcases metaOfType_cases hmeta with ⟨rfl, rfl⟩ | ⟨rfl, rfl⟩ | ⟨rfl, rfl⟩ |
    ⟨signalingType, rfl, rfl⟩
  · rfl
  · rfl
  · rfl
  · rfl

/-- The meta of a decoded request has the type and the request id of the message. -/
theorem Decoded.requestMeta_eq {participantId : ParticipantId} {json : Json}
    {request : ControlDispatcherRequest} (h : Decoded participantId json request) :
    ∃ type typeMeta, json.find? "type" = some (.string type) ∧
      metaOfType type = some typeMeta ∧
      request.requestMeta = { typeMeta with requestId := stringRequestId json } := by
  cases h with
  | createRoom htype hid _ _ _ => exact ⟨_, _, htype, rfl, by rw [hid.stringRequestId_eq]⟩
  | joinRoom htype hid _ _ _ _ => exact ⟨_, _, htype, rfl, by rw [hid.stringRequestId_eq]⟩
  | leaveRoom htype hid _ _ => exact ⟨_, _, htype, rfl, by rw [hid.stringRequestId_eq]⟩
  | @signaling type _ _ _ _ htype hid _ _ _ =>
      cases type <;> exact ⟨_, _, htype, rfl, by rw [hid.stringRequestId_eq]⟩

/-- The codes of the exceptions that leave the decoder. -/
def decodeErrorCodes : List String :=
  ["invalid_json", "invalid_message", "missing_field", "invalid_field"]

theorem offence_mem {payload : Json} {field : Field} {code : String}
    (h : Field.offence payload field = some code) : code ∈ decodeErrorCodes := by
  have hcode : code = "missing_field" ∨ code = "invalid_field" := by
    unfold Field.offence at h
    split at h <;> split at h <;> simp_all
  rcases hcode with rfl | rfl <;> simp [decodeErrorCodes]

/-- The payload only complains with the codes of the decoder. -/
theorem commandOfType_error {participantId : ParticipantId} {type : String}
    {signalingType : Option SignalingType} {payload : Json} {code : String}
    (h : commandOfType participantId type signalingType payload = .error code) :
    code ∈ decodeErrorCodes := by
  rcases commandOfType_cases participantId type signalingType payload with
    ⟨command, hcommand, -⟩ | ⟨code', hcommand, hoffence⟩
  · rw [h] at hcommand
    cases hcommand
  · rw [h] at hcommand
    obtain rfl := Except.error.inj hcommand
    obtain ⟨before, field, after, -, hfield, -⟩ := List.findSome?_eq_some_iff.mp hoffence
    exact offence_mem hfield

/-- Every way in which a JSON value can fail to decode. -/
theorem decodeJson_error {participantId : ParticipantId} {json : Json}
    {exception : DecodeException} (h : decodeJson participantId json = .error exception) :
    (∃ type typeMeta code, json.find? "type" = some (.string type) ∧
      metaOfType type = some typeMeta ∧ code ∈ decodeErrorCodes ∧
      exception = .protocolDecodeError
        (some { typeMeta with requestId := stringRequestId json }) code (stringRequestId json)) ∨
    (∃ type, json.find? "type" = some (.string type) ∧ metaOfType type = none ∧
      exception = .protocolDecodeError none "invalid_message" (stringRequestId json)) ∨
    (¬ HasString json "type" ∧
      exception = .protocolDecodeError none "invalid_message" none) := by
  by_cases henvelope : ∃ type payload, Envelope json type payload
  · obtain ⟨type, payload, henvelope⟩ := henvelope
    obtain ⟨typeMeta, hmeta⟩ := (metaOfType_isSome_iff type).mpr henvelope.known
    rw [decodeJson_of_envelope henvelope hmeta] at h
    cases hcommand : commandOfType participantId type typeMeta.signalingType payload with
    | ok command =>
        rw [hcommand] at h
        cases h
    | error code =>
        rw [hcommand] at h
        obtain rfl := Except.error.inj h
        exact Or.inl ⟨type, typeMeta, code, henvelope.typed, hmeta, commandOfType_error hcommand,
          protocolDecodeError_some _ _ _⟩
  · have hbroken : ∀ type payload, ¬ Envelope json type payload := by
      intro type payload hthis
      exact henvelope ⟨type, payload, hthis⟩
    have hmessage : "invalid_message" ∈ decodeErrorCodes := by simp [decodeErrorCodes]
    rcases decodeJson_of_no_envelope hbroken participantId with
      ⟨type, typeMeta, htype, hmeta, hthis⟩ | ⟨type, htype, hmeta, hthis⟩ | ⟨huntyped, hthis⟩
    · rw [hthis] at h
      exact Or.inl ⟨type, typeMeta, _, htype, hmeta, hmessage, (Except.error.inj h).symm⟩
    · rw [hthis] at h
      exact Or.inr (Or.inl ⟨type, htype, hmeta, (Except.error.inj h).symm⟩)
    · rw [hthis] at h
      exact Or.inr (Or.inr ⟨huntyped, (Except.error.inj h).symm⟩)

end ProtocolCodec
end App
end BuzzWeb
