import BuzzWeb.App.ProtocolCodec
import BuzzWeb.App.RoomSlots

/-!
# What a decoded request looks like

`Decoded` lists the four shapes of a request together with what the keys of the message hold for each
of them, in terms of the JSON value alone.  The decoder only returns such requests
(`decodeJson_sound`); in particular the command always fits the type, and the acting participant is
always the session itself.
-/

namespace BuzzWeb
namespace App
namespace ProtocolCodec

open Domain

/-- An optional string of a message: the string that the key holds, or nothing when the key is absent
or `null`. -/
def HoldsOptional (json : Json) (key : String) : Option String → Prop
  | some value => json.find? key = some (.string value)
  | none => json.find? key = none ∨ json.find? key = some .null

/-- A required string is the one that the key holds. -/
theorem requiredString_eq_ok_iff {payload : Json} {key value : String} :
    requiredString payload key = .ok value ↔ payload.find? key = some (.string value) := by
  unfold requiredString
  cases payload.find? key with
  | none => simp
  | some found => cases found <;> simp

theorem optionalString_eq_ok_iff {payload : Json} {key : String} {value : Option String} :
    optionalString payload key = .ok value ↔ HoldsOptional payload key value := by
  unfold optionalString HoldsOptional
  cases payload.find? key with
  | none => cases value <;> simp
  | some found => cases found <;> cases value <;> simp

/-- The request id of a message that has an acceptable one. -/
theorem holdsOptional_stringRequestId {json : Json} (hid : badRequestId json = false) :
    HoldsOptional json "request_id" (stringRequestId json) := by
  unfold badRequestId at hid
  unfold stringRequestId
  cases hfield : json.find? "request_id" with
  | none => exact Or.inl hfield
  | some found =>
      rw [hfield] at hid
      cases found with
      | null => exact Or.inr hfield
      | string requestId => exact hfield
      | _ => cases hid

theorem HoldsOptional.stringRequestId_eq {json : Json} {requestId : Option String}
    (h : HoldsOptional json "request_id" requestId) : stringRequestId json = requestId := by
  unfold stringRequestId
  cases requestId with
  | none =>
      rcases h with habsent | hnull
      · rw [habsent]
      · rw [hnull]
  | some value =>
      change json.find? "request_id" = some (.string value) at h
      rw [h]

/-- The requests that a JSON message of a session can decode to, with the values that the keys of the
message hold. -/
inductive Decoded (participantId : ParticipantId) (json : Json) : ControlDispatcherRequest → Prop
  | createRoom {payload : Json} {displayName : String} {requestId password : Option String}
      (htype : json.find? "type" = some (.string "create_room"))
      (hid : HoldsOptional json "request_id" requestId)
      (hpayload : json.find? "payload" = some payload)
      (hname : payload.find? "display_name" = some (.string displayName))
      (hpassword : HoldsOptional payload "password" password) :
      Decoded participantId json ⟨⟨.createRoom, requestId, none⟩,
        .createRoom ⟨⟨participantId, displayName⟩, password⟩⟩
  | joinRoom {payload : Json} {roomCode displayName : String}
      {requestId password : Option String}
      (htype : json.find? "type" = some (.string "join_room"))
      (hid : HoldsOptional json "request_id" requestId)
      (hpayload : json.find? "payload" = some payload)
      (hcode : payload.find? "room_code" = some (.string roomCode))
      (hname : payload.find? "display_name" = some (.string displayName))
      (hpassword : HoldsOptional payload "password" password) :
      Decoded participantId json ⟨⟨.joinRoom, requestId, none⟩,
        .joinRoom ⟨roomCode, ⟨participantId, displayName⟩, password⟩⟩
  | leaveRoom {payload : Json} {roomCode : String} {requestId : Option String}
      (htype : json.find? "type" = some (.string "leave_room"))
      (hid : HoldsOptional json "request_id" requestId)
      (hpayload : json.find? "payload" = some payload)
      (hcode : payload.find? "room_code" = some (.string roomCode)) :
      Decoded participantId json ⟨⟨.leaveRoom, requestId, none⟩,
        .leaveRoom ⟨roomCode, participantId⟩⟩
  | signaling {type : SignalingType} {payload : Json} {roomCode target : String}
      {requestId : Option String}
      (htype : json.find? "type" = some (.string (signalingTypeToString type)))
      (hid : HoldsOptional json "request_id" requestId)
      (hpayload : json.find? "payload" = some payload)
      (hcode : payload.find? "room_code" = some (.string roomCode))
      (htarget : payload.find? "target_participant_id" = some (.string target)) :
      Decoded participantId json ⟨⟨.signaling, requestId, some type⟩,
        .signaling ⟨type, roomCode, participantId, target, payload⟩⟩

/-- The types that the decoder knows, with the meta it gives them. -/
theorem metaOfType_cases {type : String} {requestMeta : RequestMeta}
    (h : metaOfType type = some requestMeta) :
    (type = "create_room" ∧ requestMeta = ⟨.createRoom, none, none⟩) ∨
    (type = "join_room" ∧ requestMeta = ⟨.joinRoom, none, none⟩) ∨
    (type = "leave_room" ∧ requestMeta = ⟨.leaveRoom, none, none⟩) ∨
    ∃ signalingType, type = signalingTypeToString signalingType ∧
      requestMeta = ⟨.signaling, none, some signalingType⟩ := by
  unfold metaOfType at h
  split_ifs at h with hcreate hjoin hleave hoffer hanswer hice
  · exact Or.inl ⟨hcreate, (Option.some.inj h).symm⟩
  · exact Or.inr (Or.inl ⟨hjoin, (Option.some.inj h).symm⟩)
  · exact Or.inr (Or.inr (Or.inl ⟨hleave, (Option.some.inj h).symm⟩))
  · exact Or.inr (Or.inr (Or.inr ⟨.offer, hoffer, (Option.some.inj h).symm⟩))
  · exact Or.inr (Or.inr (Or.inr ⟨.answer, hanswer, (Option.some.inj h).symm⟩))
  · exact Or.inr (Or.inr (Or.inr ⟨.iceCandidate, hice, (Option.some.inj h).symm⟩))

/-- An `Except` computation that returned did so in every step. -/
theorem bind_eq_ok {ε α β : Type} {x : Except ε α} {f : α → Except ε β} {b : β}
    (h : (x >>= f) = .ok b) : ∃ a, x = .ok a ∧ f a = .ok b := by
  cases x with
  | error error => cases h
  | ok a => exact ⟨a, rfl, h⟩

/-- Everything the decoder returns has one of the four shapes. -/
theorem decodeJson_sound {participantId : ParticipantId} {json : Json}
    {request : ControlDispatcherRequest} (h : decodeJson participantId json = .ok request) :
    Decoded participantId json request := by
  unfold decodeJson at h
  split at h
  case h_2 => cases h
  case h_1 type htype =>
    split at h
    case h_1 => cases h
    case h_2 typeMeta hmeta =>
      split_ifs at h with hbad
      simp only at h
      split at h
      case h_2 => cases h
      case h_1 entries hpayload =>
        split at h
        case h_2 => cases h
        case h_1 command hcommand =>
          obtain rfl := Except.ok.inj h
          have hid := holdsOptional_stringRequestId (by simpa using hbad)
          -- The envelope is in order; the type decides which fields are read.
          rcases metaOfType_cases hmeta with ⟨rfl, rfl⟩ | ⟨rfl, rfl⟩ | ⟨rfl, rfl⟩ |
            ⟨signalingType, rfl, rfl⟩
          · simp only [commandOfType, if_true] at hcommand
            obtain ⟨displayName, hname, hcommand⟩ := bind_eq_ok hcommand
            obtain ⟨password, hpassword, hcommand⟩ := bind_eq_ok hcommand
            obtain rfl := Except.ok.inj hcommand
            exact .createRoom htype hid hpayload (requiredString_eq_ok_iff.mp hname)
              (optionalString_eq_ok_iff.mp hpassword)
          · simp only [commandOfType, if_true, String.reduceEq, if_false] at hcommand
            obtain ⟨roomCode, hcode, hcommand⟩ := bind_eq_ok hcommand
            obtain ⟨displayName, hname, hcommand⟩ := bind_eq_ok hcommand
            obtain ⟨password, hpassword, hcommand⟩ := bind_eq_ok hcommand
            obtain rfl := Except.ok.inj hcommand
            exact .joinRoom htype hid hpayload (requiredString_eq_ok_iff.mp hcode)
              (requiredString_eq_ok_iff.mp hname) (optionalString_eq_ok_iff.mp hpassword)
          · simp only [commandOfType, if_true, String.reduceEq, if_false] at hcommand
            obtain ⟨roomCode, hcode, hcommand⟩ := bind_eq_ok hcommand
            obtain rfl := Except.ok.inj hcommand
            exact .leaveRoom htype hid hpayload (requiredString_eq_ok_iff.mp hcode)
          · have hother : signalingTypeToString signalingType ≠ "create_room" ∧
                signalingTypeToString signalingType ≠ "join_room" ∧
                signalingTypeToString signalingType ≠ "leave_room" := by
              cases signalingType <;> decide
            obtain ⟨hcreate, hjoin, hleave⟩ := hother
            simp only [commandOfType, hcreate, hjoin, hleave, if_false, Option.getD_some]
              at hcommand
            obtain ⟨roomCode, hcode, hcommand⟩ := bind_eq_ok hcommand
            obtain ⟨target, htarget, hcommand⟩ := bind_eq_ok hcommand
            obtain rfl := Except.ok.inj hcommand
            exact .signaling htype hid hpayload (requiredString_eq_ok_iff.mp hcode)
              (requiredString_eq_ok_iff.mp htarget)

theorem Decoded.fits {participantId : ParticipantId} {json : Json}
    {request : ControlDispatcherRequest} (h : Decoded participantId json request) :
    Fits request := by
  cases h <;> trivial

/-- The decoder on raw text returns requests of parsed values only. -/
theorem decodeRequest_sound {parse : ByteArray → ParseResult} {participantId : ParticipantId}
    {message : ByteArray} {request : ControlDispatcherRequest}
    (h : decodeRequest parse participantId message = .ok request) :
    ∃ json, parse message = .value json ∧ Decoded participantId json request := by
  unfold decodeRequest at h
  split at h
  · next json hparse => exact ⟨json, hparse, decodeJson_sound h⟩
  · cases h
  · cases h

end ProtocolCodec
end App
end BuzzWeb
