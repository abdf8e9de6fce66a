import Mathlib
import BuzzWeb.Client.PageWrites
import BuzzWeb.Net.DirectReply
import BuzzWeb.Net.SignalingRelay

/-!
# The messages of the server in the page

The server sends four kinds of messages: refusals, responses, events and relays.  For each of them the
handler of the page is computed: what it returns, what it writes into the view of the room, and whether
it knows the message at all.
-/

namespace BuzzWeb
namespace Client

open Domain App Net Script

variable {parse : ByteArray → ParseResult}

/-! ## What a page knows about its room -/

/-- The part of `state` that the page shows about its room. -/
structure View where
  roomCode : Json
  ownParticipantId : Json
  participants : List (Json × Json)

namespace Page

def view (page : Page) : View :=
  ⟨page.roomCode, page.ownParticipantId, page.participants⟩

/-- The log entries about messages that no handler knows. -/
def unhandled (out : List Output) : List (Option Json) :=
  out.filterMap fun
    | .unhandled type => some type
    | _ => none

/-- The script returns, knows what it is given, and changes the view by the function. -/
def Does {α : Type} (a : Script Page α) (f : View → View) : Prop :=
  ∀ page, ∃ x page', exec a page = (.ok x, page') ∧ page'.view = f page.view ∧
    unhandled page'.out = unhandled page.out

theorem does_pure {α : Type} (x : α) : Does (pure x) id :=
  fun page => ⟨x, page, rfl, rfl, rfl⟩

theorem Does.bind {α β : Type} {a : Script Page α} {f g : View → View} {k : α → Script Page β}
    (ha : Does a f) (hk : ∀ x, Does (k x) g) : Does (a >>= k) (g ∘ f) := by
  intro page
  obtain ⟨x, page₁, hexec₁, hview₁, hout₁⟩ := ha page
  obtain ⟨y, page₂, hexec₂, hview₂, hout₂⟩ := hk x page₁
  refine ⟨y, page₂, ?_, ?_, hout₂.trans hout₁⟩
  · rw [exec_bind, hexec₁]
    exact hexec₂
  · rw [hview₂, hview₁]
    rfl

/-- A write that logs nothing. -/
theorem does_modify {f : Page → Page} {g : View → View} (hview : ∀ page, (f page).view = g page.view)
    (hout : ∀ page, unhandled (f page).out = unhandled page.out) : Does (modify f) g :=
  fun page => ⟨⟨⟩, f page, rfl, hview page, hout page⟩

theorem does_showError (message : String) : Does (showError message) id :=
  does_modify (fun _ => rfl) fun _ => rfl

theorem does_setTarget (browser : Browser) (value : Json) : Does (setTarget browser value) id :=
  does_modify (fun _ => rfl) fun _ => rfl

theorem does_ensurePeerConnection : Does ensurePeerConnection id := by
  intro page
  rw [ensurePeerConnection, exec_bind, exec_get]
  cases hpc : page.pc with
  | some pc => exact ⟨pc, page, by simp only [hpc, exec_pure], rfl, rfl⟩
  | none =>
      refine ⟨page.peers, { page with pc := some page.peers, peers := page.peers + 1 }, ?_, rfl, rfl⟩
      simp only [hpc]
      rfl

theorem does_resetPeerConnection : Does resetPeerConnection id := by
  refine does_modify (fun _ => rfl) fun page => ?_
  simp [unhandled, List.filterMap_append, List.filterMap_map]

/-! ## The participant list -/

/-- The entry of a participant; one without an id has none. -/
def rememberEntry (entries : List (Json × Json)) (participant : Participant) :
    List (Json × Json) :=
  if participant.id = "" then entries
  else assign (.string participant.id) (ProtocolCodec.participantToJson participant) entries

/-- The entries that a participant list leaves. -/
def entriesOf (participants : List Participant) : List (Json × Json) :=
  participants.foldl rememberEntry []

theorem isObject_participantToJson (participant : Participant) :
    (ProtocolCodec.participantToJson participant).isObject = true :=
  Json.isObject_ofEntries _

theorem idOf_participantToJson (participant : Participant) :
    idOf (some (ProtocolCodec.participantToJson participant)) =
      pure ((truthy (some (.string participant.id))).or none) := by
  simp only [idOf, member_of_isObject (isObject_participantToJson participant), pure_bind]
  simp [ProtocolCodec.participantToJson, Json.find?_ofEntries, Json.lookupEntry]

theorem does_remember (participant : Participant) :
    Does (remember (ProtocolCodec.participantToJson participant))
      fun view => { view with participants := rememberEntry view.participants participant } := by
  rw [remember, idOf_participantToJson, pure_bind]
  by_cases hid : participant.id = ""
  · have hnone : truthy ((truthy (some (.string participant.id))).or none) = none := by
      simp [hid, truthy, isTruthy]
    rw [hnone]
    simp only [rememberEntry, hid, if_true]
    exact does_pure _
  · have hsome : truthy ((truthy (some (.string participant.id))).or none) =
        some (.string participant.id) := by
      simp [hid]
    rw [hsome]
    simp only [rememberEntry, hid, if_false]
    exact does_modify (fun _ => rfl) fun _ => rfl

theorem does_forM (participants : List Participant) :
    Does ((participants.map ProtocolCodec.participantToJson).forM remember)
      fun view => { view with participants := participants.foldl rememberEntry view.participants } := by
  induction participants with
  | nil => exact does_pure _
  | cons participant rest ih =>
      rw [List.map_cons, List.forM_eq_forM, List.forM_cons]
      exact (does_remember participant).bind fun _ => ih

theorem does_rememberParticipants (browser : Browser) (participants : List Participant) :
    Does (rememberParticipants browser (ProtocolCodec.participantsToJson participants))
      fun view => { view with participants := entriesOf participants } := by
  have hclear : Does (modify fun page : Page => { page with participants := [] })
      fun view => { view with participants := [] } :=
    does_modify (fun _ => rfl) fun _ => rfl
  refine hclear.bind fun _ => (does_forM participants).bind (g := id) fun _ => ?_
  intro page
  rw [exec_bind, exec_get]
  dsimp only
  split
  · split_ifs
    · exact does_setTarget _ _ page
    · exact does_pure _ page
  · exact does_pure _ page

/-! ## Results -/

theorem does_takeRoomCode {payload : Json} (hobject : payload.isObject = true) {code : String}
    (hcode : payload.find? "room_code" = some (.string code)) :
    Does (takeRoomCode payload) fun view =>
      { view with roomCode := (truthy (some (.string code))).getD view.roomCode } := by
  rw [takeRoomCode, member_of_isObject hobject, hcode, pure_bind]
  exact does_modify (fun _ => rfl) fun _ => rfl

theorem truthy_or_none (value : Option Json) : truthy ((truthy value).or none) = truthy value := by
  rw [Option.or_none, truthy, truthy, Option.filter_filter]
  simp

/-- A roster replaces what the page knows. -/
def showRoster (code : RoomCode) (participant : Participant) (participants : List Participant)
    (view : View) : View where
  roomCode := (truthy (some (.string code))).getD view.roomCode
  ownParticipantId := (truthy (some (.string participant.id))).getD view.ownParticipantId
  participants := entriesOf participants

theorem does_applyRoomPayload (browser : Browser) (code : RoomCode) (participant : Participant)
    (participants : List Participant) :
    Does (applyRoomPayload browser (ProtocolCodec.rosterToJson code participant participants))
      (showRoster code participant participants) := by
  generalize hroster : ProtocolCodec.rosterToJson code participant participants = payload
  have hobject : payload.isObject = true := by
    rw [← hroster]
    exact Json.isObject_ofEntries _
  have hcode : payload.find? "room_code" = some (.string code) := by
    simp [← hroster, ProtocolCodec.rosterToJson, Json.find?_ofEntries, Json.lookupEntry]
  have hown : payload.find? "participant" =
      some (ProtocolCodec.participantToJson participant) := by
    simp [← hroster, ProtocolCodec.rosterToJson, Json.find?_ofEntries, Json.lookupEntry]
  have hlist : payload.find? "participants" =
      some (ProtocolCodec.participantsToJson participants) := by
    simp [← hroster, ProtocolCodec.rosterToJson, Json.find?_ofEntries, Json.lookupEntry]
  have hid : Does (takeOwnId payload) fun view => { view with
      ownParticipantId := (truthy (some (.string participant.id))).getD view.ownParticipantId } := by
    rw [takeOwnId, member_of_isObject hobject, hown, pure_bind,
      truthy_of_isObject (isObject_participantToJson participant)]
    simp only [idOf_participantToJson, pure_bind, truthy_or_none]
    exact does_modify (fun _ => rfl) fun _ => rfl
  refine (does_takeRoomCode hobject hcode).bind fun _ => hid.bind
    (g := fun view => { view with participants := entriesOf participants }) fun _ => ?_
  rw [member_of_isObject hobject, hlist, pure_bind]
  exact does_rememberParticipants browser participants

theorem find?_of_messageType {message : Json} {type : String}
    (h : ClientView.messageType message = some type) :
    message.find? "type" = some (.string type) := by
  unfold ClientView.messageType ClientView.stringField at h
  split at h
  · next value hvalue => rw [hvalue, Option.some.inj h]
  · cases h

/-- A message of a result type goes to `handleResult`. -/
theorem handleIncoming_of_result (browser : Browser) {message : Json} {type : String}
    (htype : ClientView.messageType message = some type) (hresult : endsWith type "_result" = true) :
    handleIncoming browser message = handleResult browser message := by
  have hfound := find?_of_messageType htype
  have hne : type ≠ "" := by
    rintro rfl
    cases hresult
  rw [handleIncoming, member_of_isObject (Json.isObject_of_find? hfound), hfound, pure_bind]
  simp only [isResult, truthy_string hne, pure_bind, hresult, if_true]

/-- The other messages go by their type and their payload. -/
theorem handleIncoming_of_payload (browser : Browser) {message payload : Json} {type : String}
    (htype : ClientView.messageType message = some type) (hresult : endsWith type "_result" = false)
    (hne : type ≠ "") (hpayload : message.find? "payload" = some payload)
    (hobject : payload.isObject = true) :
    handleIncoming browser message =
      if type = "participant_joined" then participantJoined browser payload
      else if type = "participant_left" then participantLeft browser payload
      else if type = "offer" then receiveOffer browser payload
      else if type = "answer" then receiveAnswer browser payload
      else if type = "ice_candidate" then receiveIceCandidate browser payload
      else emit (.unhandled (some (.string type))) := by
  have hfound := find?_of_messageType htype
  have hmember (key : String) : (member (some message) key : Script Page (Option Json)) =
      pure (message.find? key) :=
    member_of_isObject (Json.isObject_of_find? hfound) key
  rw [handleIncoming, hmember, hfound, pure_bind]
  simp only [isResult, truthy_string hne, pure_bind, hresult, Bool.false_eq_true, if_false, hmember,
    hpayload, truthy_of_isObject hobject, Option.getD_some, asString, Option.some.injEq]

theorem isObject_encodeResponse (response : ControlDispatcherResponse) :
    (ProtocolCodec.encodeResponse response).isObject = true := by
  cases response <;> simp [ProtocolCodec.encodeResponse, ClientView.isObject_withRequestId]

theorem isObject_successPayloadToJson (payload : SuccessResponsePayload) :
    (ProtocolCodec.successPayloadToJson payload).isObject = true := by
  cases payload <;> exact Json.isObject_ofEntries _

theorem find?_ok_of_okFlag {message : Json} {ok : Bool} (h : ClientView.okFlag message = some ok) :
    message.find? "ok" = some (.boolean ok) := by
  unfold ClientView.okFlag at h
  split at h
  · next value hvalue => rw [hvalue, Option.some.inj h]
  · cases h

/-- The types of the results that the page knows. -/
def resultTypes : List String :=
  ["create_room_result", "join_room_result", "leave_room_result", "offer_result", "answer_result",
    "ice_candidate_result"]

theorem endsWith_of_resultTypes {type : String} (h : type ∈ resultTypes) :
    endsWith type "_result" = true := by
  have hall : ∀ type ∈ resultTypes, endsWith type "_result" = true := by decide
  exact hall type h

theorem handleIncoming_response (browser : Browser) (response : ControlDispatcherResponse)
    (hresult : ProtocolCodec.resultType
      (ClientView.ControlDispatcherResponse.requestMeta response) ∈ resultTypes) :
    handleIncoming browser (ProtocolCodec.encodeResponse response) =
      handleResult browser (ProtocolCodec.encodeResponse response) :=
  handleIncoming_of_result browser (ClientView.messageType_encodeResponse response)
    (endsWith_of_resultTypes hresult)

/-- A successful result goes by its type. -/
theorem handleResult_success (browser : Browser) (requestMeta : RequestMeta)
    (payload : SuccessResponsePayload) :
    handleResult browser (ProtocolCodec.encodeResponse (.success requestMeta payload)) =
      if ProtocolCodec.resultType requestMeta ∈ ["create_room_result", "join_room_result"] then do
        applyRoomPayload browser (ProtocolCodec.successPayloadToJson payload)
        modify fun page => { page with joinRoomCode := fieldText (browser.text page.roomCode) }
        showError ""
      else if ProtocolCodec.resultType requestMeta = "leave_room_result" then do
        resetPeerConnection
        modify fun page => { page with
          roomCode := .string ""
          participants := []
          targetParticipantId := "" }
        showError ""
      else if ProtocolCodec.resultType requestMeta ∈ ["offer_result", "answer_result",
          "ice_candidate_result"] then
        showError ""
      else emit (.unhandled (some (.string (ProtocolCodec.resultType requestMeta)))) := by
  have hok := find?_ok_of_okFlag (ClientView.okFlag_success requestMeta payload)
  have htype := find?_of_messageType
    (ClientView.messageType_encodeResponse (.success requestMeta payload))
  have htrue : truthy (some (.boolean true)) = some (.boolean true) := rfl
  simp only [handleResult, member_of_isObject (isObject_encodeResponse _), pure_bind, hok, htrue,
    ClientView.payload_success, truthy_of_isObject (isObject_successPayloadToJson payload),
    Option.getD_some, htype, asString, List.mem_cons, Option.some.injEq, List.not_mem_nil, or_false]
  rfl

/-- A result that says `ok: false` is only shown. -/
theorem handleResult_refused_keeps (browser : Browser) {message : Json}
    (hobject : message.isObject = true) (hok : ClientView.okFlag message = some false)
    {I : Page → Prop} (hI : ∀ page text, I page → I { page with errorBox := text }) :
    Keeps I (fun _ => True) (handleResult browser message) := by
  have hfalse : truthy (some (.boolean false)) = none := rfl
  rw [handleResult, member_of_isObject hobject, find?_ok_of_okFlag hok, pure_bind, hfalse]
  refine (keeps_member _ _).bind fun error _ => (keeps_member _ _).bind fun code _ => ?_
  exact (keeps_member _ _).bind fun text _ => keeps_modify fun page hpage => hI page _ hpage

/-- A refusal, of a known type or not, leaves the view alone. -/
theorem refusal_keeps_view (browser : Browser) {message : Json}
    (hreply : ClientView.isReply message = true) (hok : ClientView.okFlag message = some false)
    (view : View) :
    Keeps (fun page => page.view = view) (fun _ => True) (handleIncoming browser message) := by
  obtain ⟨type, htype, hmem⟩ : ∃ type, ClientView.messageType message = some type ∧
      type ∈ ClientView.replyTypes := by
    simpa [ClientView.isReply, Option.any_eq_true] using hreply
  have hobject := Json.isObject_of_find? (find?_of_messageType htype)
  by_cases hresult : endsWith type "_result" = true
  · rw [handleIncoming_of_result browser htype hresult]
    exact handleResult_refused_keeps browser hobject hok fun page text hpage => hpage
  · -- The only other type of a reply is `error`, which no handler knows.
    obtain rfl : type = "error" := by
      have hall : ∀ type ∈ ClientView.replyTypes, endsWith type "_result" ≠ true →
          type = "error" := by decide
      exact hall type hmem hresult
    have hnot : endsWith "error" "_result" = false := by decide
    rw [handleIncoming, member_of_isObject hobject, find?_of_messageType htype, pure_bind]
    simp only [isResult, truthy_string (show "error" ≠ "" by decide), pure_bind, hnot,
      Bool.false_eq_true, if_false, member_of_isObject hobject, asString, Option.some.injEq,
      String.reduceEq]
    exact keeps_modify fun page hpage => hpage

/-- The result of a create or a join. -/
theorem does_roster (browser : Browser) {requestMeta : RequestMeta}
    (htype : ProtocolCodec.resultType requestMeta ∈ ["create_room_result", "join_room_result"])
    {payload : SuccessResponsePayload} {code : RoomCode} {participant : Participant}
    {participants : List Participant} (hpayload : ProtocolCodec.successPayloadToJson payload =
      ProtocolCodec.rosterToJson code participant participants) :
    Does (handleIncoming browser (ProtocolCodec.encodeResponse (.success requestMeta payload)))
      (showRoster code participant participants) := by
  have hresult : ProtocolCodec.resultType requestMeta ∈ resultTypes := by
    rcases List.mem_pair.mp htype with h | h <;> simp [h, resultTypes]
  rw [handleIncoming_response browser (.success requestMeta payload) hresult,
    handleResult_success, if_pos htype, hpayload]
  have hfield : Does (modify fun page : Page =>
      { page with joinRoomCode := fieldText (browser.text page.roomCode) }) id :=
    does_modify (fun _ => rfl) fun _ => rfl
  exact (does_applyRoomPayload browser code participant participants).bind (g := id)
    fun _ => hfield.bind fun _ => does_showError ""

/-- The view of a page that is in no room. -/
def clearRoom (view : View) : View :=
  { view with roomCode := .string "", participants := [] }

/-- The result of a leave. -/
theorem does_left (browser : Browser) {requestMeta : RequestMeta}
    (htype : ProtocolCodec.resultType requestMeta = "leave_room_result")
    (payload : SuccessResponsePayload) :
    Does (handleIncoming browser (ProtocolCodec.encodeResponse (.success requestMeta payload)))
      clearRoom := by
  have hresult : ProtocolCodec.resultType requestMeta ∈ resultTypes := by
    simp [htype, resultTypes]
  rw [handleIncoming_response browser (.success requestMeta payload) hresult,
    handleResult_success, if_neg (by simp [htype]), if_pos htype]
  have hclear : Does (modify fun page : Page => { page with
      roomCode := .string ""
      participants := []
      targetParticipantId := "" }) clearRoom :=
    does_modify (fun _ => rfl) fun _ => rfl
  exact does_resetPeerConnection.bind fun _ => hclear.bind (g := id) fun _ => does_showError ""

/-- The result of a relayed message. -/
theorem does_relayed (browser : Browser) {requestMeta : RequestMeta}
    (htype : ProtocolCodec.resultType requestMeta ∈
      ["offer_result", "answer_result", "ice_candidate_result"])
    (payload : SuccessResponsePayload) :
    Does (handleIncoming browser (ProtocolCodec.encodeResponse (.success requestMeta payload)))
      id := by
  have hknown : ∀ type ∈ ["offer_result", "answer_result", "ice_candidate_result"],
      type ∈ resultTypes ∧ type ∉ ["create_room_result", "join_room_result"] ∧
        type ≠ "leave_room_result" := by decide
  obtain ⟨hresult, hroster, hleave⟩ := hknown _ htype
  rw [handleIncoming_response browser (.success requestMeta payload) hresult,
    handleResult_success, if_neg hroster, if_neg hleave,
    if_pos htype]
  exact does_showError ""

/-! ## Events -/

theorem endsWith_event : endsWith "participant_joined" "_result" = false ∧
    endsWith "participant_left" "_result" = false := by
  decide

/-- An event replaces the participant list; the page does not look at its room code. -/
theorem does_event (browser : Browser) (event : ControlDispatcherEvent) :
    Does (handleIncoming browser (ProtocolCodec.encodeEvent event))
      fun view => { view with participants := entriesOf event.eventReceivers } := by
  obtain ⟨hjoined, hleft⟩ := endsWith_event
  cases event with
  | joinedRoom roomCode participant receivers =>
      have htype : ClientView.messageType (ProtocolCodec.encodeEvent (.joinedRoom roomCode
          participant receivers)) = some "participant_joined" :=
        ClientView.messageType_encodeEvent _
      have hpayload : (ProtocolCodec.encodeEvent (.joinedRoom roomCode participant
          receivers)).find? "payload" = some ((Json.ofEntries [("room_code", .string roomCode),
          ("participants", ProtocolCodec.participantsToJson receivers)]).set "participant"
            (ProtocolCodec.participantToJson participant)) := by
        simp [ProtocolCodec.encodeEvent, Json.find?_ofEntries, Json.lookupEntry]
      rw [handleIncoming_of_payload browser htype hjoined (by decide) hpayload (by simp),
        if_pos rfl, participantJoined, member_of_isObject (by simp), Json.find?_set (by simp),
        if_neg (by decide), pure_bind]
      simp only [Json.find?_ofEntries, Json.lookupEntry, List.reverse_cons, List.reverse_nil,
        List.nil_append, List.cons_append, if_true]
      exact does_rememberParticipants browser receivers
  | leftRoom roomCode participantId receivers =>
      have htype : ClientView.messageType (ProtocolCodec.encodeEvent (.leftRoom roomCode
          participantId receivers)) = some "participant_left" :=
        ClientView.messageType_encodeEvent _
      have hpayload : (ProtocolCodec.encodeEvent (.leftRoom roomCode participantId
          receivers)).find? "payload" = some ((Json.ofEntries [("room_code", .string roomCode),
          ("participants", ProtocolCodec.participantsToJson receivers)]).set "participant_id"
            (.string participantId)) := by
        simp [ProtocolCodec.encodeEvent, Json.find?_ofEntries, Json.lookupEntry]
      rw [handleIncoming_of_payload browser htype hleft (by decide) hpayload (by simp),
        if_neg (by decide), if_pos rfl, participantLeft, member_of_isObject (by simp),
        Json.find?_set (by simp), if_neg (by decide), pure_bind]
      simp only [Json.find?_ofEntries, Json.lookupEntry, List.reverse_cons, List.reverse_nil,
        List.nil_append, List.cons_append, if_true]
      exact does_rememberParticipants browser receivers

/-! ## Relays -/

/-- The payload of a relay, as the receiving page reads it. -/
structure RelayPayload (code : RoomCode) (sender : ParticipantId) (payload relayed : Json) :
    Prop where
  isObject : relayed.isObject = true
  room : relayed.find? "room_code" = some (.string code)
  sender : relayed.find? "from_participant_id" = some (.string sender)
  other : ∀ key, key ≠ "from_participant_id" → relayed.find? key = payload.find? key

theorem relayPayload_of_request {sender session : ParticipantId} {frame : Frame}
    {requestId : Option String} {type : SignalingType} {code : RoomCode} {payload : Json}
    (hrequest : Session.requestOf parse sender frame = .ok
      ⟨⟨.signaling, requestId, some type⟩, .signaling ⟨type, code, sender, session, payload⟩⟩) :
    ∃ relayed, (ProtocolCodec.encodeSignalingEvent ⟨type, code, sender, session, payload⟩).find?
      "payload" = some relayed ∧ RelayPayload code sender payload relayed := by
  obtain ⟨message, json, -, -, hdecoded⟩ := Session.requestOf_ok hrequest
  cases hdecoded with
  | signaling htype hid hpayload hcode htarget =>
      obtain ⟨relayed, hfound, hsender, hother⟩ :=
        Server.encodeSignalingEvent_payload type sender hcode htarget
      refine ⟨relayed, hfound, Json.isObject_of_find? hsender, ?_, hsender, hother⟩
      rw [hother _ (by decide), hcode]

/-- The handler of a relay. -/
theorem handleIncoming_relay (browser : Browser) {type : SignalingType} {code : RoomCode}
    {sender session : ParticipantId} {payload relayed : Json}
    (hfound : (ProtocolCodec.encodeSignalingEvent ⟨type, code, sender, session, payload⟩).find?
      "payload" = some relayed) (hobject : relayed.isObject = true) :
    handleIncoming browser (ProtocolCodec.encodeSignalingEvent
        ⟨type, code, sender, session, payload⟩) =
      match type with
      | .offer => receiveOffer browser relayed
      | .answer => receiveAnswer browser relayed
      | .iceCandidate => receiveIceCandidate browser relayed := by
  have hname : ∀ type, endsWith (ProtocolCodec.signalingTypeToString type) "_result" = false ∧
      ProtocolCodec.signalingTypeToString type ≠ "" := by
    rintro (_ | _ | _) <;> decide
  rw [handleIncoming_of_payload browser (ClientView.messageType_encodeSignalingEvent _)
    (hname type).1 (hname type).2 hfound hobject]
  cases type <;> simp [ProtocolCodec.signalingTypeToString]

/-- Handlers that may not write the view leave it alone. -/
theorem view_of_reached {G : Json → Prop} {start page : Page} (h : Reached G False start page) :
    page.view = start.view := by
  refine h.keeps (I := fun page => page.view = start.view) ?_ rfl
  rintro page page' hsame hwrite
  cases hwrite with
  | view hviewing => exact hviewing.elim
  | queue candidate hpc =>
      obtain ⟨queue, out, heq⟩ := enqueueCandidate_eq candidate
        { page with out := page.out ++ [.candidateMade candidate] }
      rw [heq]
      exact hsame
  | _ => exact hsame

/-- A relay leaves the view alone when the page already shows its room. -/
theorem relay_keeps_view (browser : Browser) {sender session : ParticipantId} {frame : Frame}
    {requestId : Option String} {type : SignalingType} {code : RoomCode} {payload : Json}
    (hrequest : Session.requestOf parse sender frame = .ok
      ⟨⟨.signaling, requestId, some type⟩, .signaling ⟨type, code, sender, session, payload⟩⟩)
    {page : Page} (hguarded : Guarded (fun _ => True) page)
    (hroom : page.roomCode = .string code) :
    (exec (handleIncoming browser (ProtocolCodec.encodeSignalingEvent
      ⟨type, code, sender, session, payload⟩)) page).2.view = page.view := by
  obtain ⟨relayed, hfound, hpayload⟩ := relayPayload_of_request hrequest
  rw [handleIncoming_relay browser hfound hpayload.isObject]
  have hstart : Reached (fun _ => True) False page page := ⟨hguarded, .refl⟩
  cases type with
  | answer => exact view_of_reached (receiveAnswer_keeps browser relayed page hstart).1
  | iceCandidate => exact view_of_reached (receiveIceCandidate_keeps browser relayed page hstart).1
  | offer =>
      -- The offer writes the room code, but it is the one that is there already.
      let I : Page → Prop := fun other => other.view = page.view
      have hstill (f : Page → Page) (hf : ∀ other, (f other).view = other.view) :
          Keeps I (fun _ => True) (modify f) :=
        keeps_modify fun other hother => (hf other).trans hother
      have hcode : Keeps I (fun _ => True) (takeRoomCode relayed) := by
        rw [takeRoomCode, member_of_isObject hpayload.isObject, hpayload.room, pure_bind]
        refine keeps_modify fun other hother => ?_
        have hsame : other.roomCode = .string code := (congrArg View.roomCode hother).trans hroom
        have hkept : (truthy (some (.string code))).getD other.roomCode = other.roomCode := by
          cases htrue : truthy (some (.string code)) with
          | none => rfl
          | some value =>
              obtain rfl := Option.some.inj (eq_of_truthy htrue)
              exact hsame.symm
        simpa only [I, view, hkept] using hother
      have hconnect : Keeps I (fun _ => True) ensurePeerConnection := by
        intro other hother
        obtain ⟨pc, other', hexec, hview, -⟩ := does_ensurePeerConnection other
        rw [hexec]
        exact ⟨hview.trans hother, fun _ _ => trivial⟩
      suffices hkeeps : Keeps I (fun _ => True) (receiveOffer browser relayed) from
        (hkeeps page rfl).1
      refine Keeps.bind (a := showError "") (hstill _ fun _ => rfl) fun _ _ => ?_
      refine (keeps_member _ _).bind fun sdp _ => (keeps_member _ _).bind fun found _ => ?_
      split
      · next _ sender _ _ =>
          refine Keeps.bind (a := setTarget browser sender) (hstill _ fun _ => rfl) fun _ _ => ?_
          refine hcode.bind fun _ _ => hconnect.bind fun pc _ => ?_
          exact hstill _ fun _ => rfl
      · exact keeps_throw _

end Page
end Client
end BuzzWeb
