import BuzzWeb.Library.EventMachine
import BuzzWeb.Library.Script

/-!
# The demo client

The script of `client_demo/index.html`.  A page runs one handler at a time; an `async` function
stops at its `await` and goes on in a later event, so what is left of it is kept as a task.  The
order in which awaited promises settle is up to the browser, as are the answers of the peer
connection and the moments at which the user clicks and types: all of this is part of the events.

Media streams, the log and the rendering of the page are left out.
-/

namespace BuzzWeb
namespace Client

open Script

/-- What the script leaves to the browser: how values are written as text, and which objects
`new RTCIceCandidate` takes (it throws a `TypeError` for the others). -/
structure Browser where
  text : Json → String
  text_string : ∀ value, text (.string value) = value
  iceCandidate : Json → Except String Unit

/-- `WebSocket.readyState`. -/
inductive ReadyState where
  | connecting
  | opened
  | closing
  | closed
deriving DecidableEq, Repr

/-- `readyState < WebSocket.CLOSING`. -/
def ReadyState.beforeClosing : ReadyState → Bool
  | connecting => true
  | opened => true
  | _ => false

/-- What is left of an `async` call that waits at an `await`.  Peer connections are numbered in the
order they were made. -/
inductive Task where
  /-- `startCall` at `addLocalTracks`, `createOffer` and `setLocalDescription`. -/
  | callTracks (pc : Nat) (roomCode : Json) (target : String)
  | callOffer (pc : Nat) (roomCode : Json) (target : String)
  | callLocal (pc : Nat) (roomCode : Json) (target : String)
  /-- `receiveOffer` at `addLocalTracks`, `setRemoteDescription`, the flush of the queue,
  `createAnswer` and `setLocalDescription`. -/
  | offerTracks (pc : Nat) (payload : Json)
  | offerRemote (pc : Nat) (payload : Json)
  | offerFlush (pc : Nat) (payload : Json)
  | offerAnswer (pc : Nat) (payload : Json)
  | offerLocal (pc : Nat) (payload : Json)
  /-- `receiveAnswer` at `setRemoteDescription` and the flush of the queue. -/
  | answerRemote (pc : Nat)
  | answerFlush
  /-- `receiveIceCandidate` at `addIceCandidate`. -/
  | candidateAdded

/-- What a handler did besides changing the state. -/
inductive Output where
  /-- `state.ws.send`; sockets are numbered in the order they were made. -/
  | sent (socket : Nat) (message : Json)
  /-- The log entries `Unhandled Message` and `Unhandled Result`. -/
  | unhandled (type : Option Json)
  /-- `new RTCIceCandidate(payload.candidate)` returned. -/
  | candidateMade (candidate : Json)
  /-- `addIceCandidate` was called. -/
  | candidateAdded (pc : Nat) (candidate : Json)
  /-- The queue was too long and lost its first candidate. -/
  | candidateDropped (candidate : Json)
  /-- A reset of the peer connection threw a queued candidate away. -/
  | candidateReset (candidate : Json)

/-- The text fields, the object `state` and the tasks.  `described` are the peer connections with a
remote description, `peers` counts those made, `now` is the clock of the running handler and `out`
what it has done so far. -/
structure Page where
  endpoint : String
  displayName : String
  password : String
  joinRoomCode : String
  targetParticipantId : String
  errorBox : String
  sockets : List ReadyState
  ws : Option Nat
  peers : Nat
  pc : Option Nat
  described : List Nat
  pendingIceCandidates : List Json
  requestCounter : Nat
  roomCode : Json
  ownParticipantId : Json
  participants : List (Json × Json)
  tasks : List Task
  now : Nat
  out : List Output

namespace Page

/-- The page as it is loaded. -/
def fresh : Page where
  endpoint := "wss://localhost:8443"
  displayName := "Alice"
  password := ""
  joinRoomCode := ""
  targetParticipantId := ""
  errorBox := ""
  sockets := []
  ws := none
  peers := 0
  pc := none
  described := []
  pendingIceCandidates := []
  requestCounter := 0
  roomCode := .string ""
  ownParticipantId := .string ""
  participants := []
  tasks := []
  now := 0
  out := []

/-- The socket that `state.ws` is, when it is open. -/
def openSocket (page : Page) : Option Nat :=
  page.ws.filter fun socket => page.sockets[socket]? = some .opened

/-- A text field drops line breaks. -/
def fieldText (text : String) : String :=
  .ofList (text.toList.filter fun c => c != '\n' && c != '\r')

def emit (output : Output) : Script Page PUnit :=
  modify fun page => { page with out := page.out ++ [output] }

/-- `await`: the rest of the call becomes a task. -/
def await (task : Task) : Script Page PUnit :=
  modify fun page => { page with tasks := page.tasks ++ [task] }

def showError (message : String) : Script Page PUnit :=
  modify fun page => { page with errorBox := message }

/-- `el("targetParticipantId").value = value`. -/
def setTarget (browser : Browser) (value : Json) : Script Page PUnit :=
  modify fun page => { page with targetParticipantId := fieldText (browser.text value) }

/-! ## Requests -/

/-- `req-${Date.now()}-${state.requestCounter}`. -/
def requestId (now counter : Nat) : String :=
  "req-" ++ now.repr ++ "-" ++ counter.repr

def nextRequestId : Script Page String := do
  modify fun page => { page with requestCounter := page.requestCounter + 1 }
  let page ← get
  pure (requestId page.now page.requestCounter)

def requestMessage (type requestId : String) (payload : Json) : Json :=
  .ofEntries [("type", .string type), ("request_id", .string requestId), ("payload", payload)]

def sendRequest (type : String) (payload : Json) : Script Page PUnit := do
  let page ← get
  match page.openSocket with
  | none => throw "WebSocket is not connected."
  | some socket =>
      let requestId ← nextRequestId
      emit (.sent socket (requestMessage type requestId payload))

/-- `if (password) payload.password = password`. -/
def withPassword (password : String) (entries : List (String × Json)) : Json :=
  if password = "" then .ofEntries entries
  else (Json.ofEntries entries).set "password" (.string password)

def createRoom : Script Page PUnit := do
  showError ""
  let page ← get
  let displayName := trim page.displayName
  if displayName = "" then showError "Display name is required."
  else
    tryCatch (sendRequest "create_room"
      (withPassword page.password [("display_name", .string displayName)])) showError

def joinRoom : Script Page PUnit := do
  showError ""
  let page ← get
  let displayName := trim page.displayName
  let roomCode := trim page.joinRoomCode
  if displayName = "" ∨ roomCode = "" then showError "Display name and room code are required."
  else
    tryCatch (sendRequest "join_room" (withPassword page.password
      [("room_code", .string roomCode), ("display_name", .string displayName)])) showError

def leaveRoom : Script Page PUnit := do
  showError ""
  let page ← get
  match truthy (some page.roomCode) with
  | none => showError "There is no current room to leave."
  | some roomCode =>
      tryCatch (sendRequest "leave_room" (.ofEntries [("room_code", roomCode)])) showError

def requireRoomCode : Script Page Json := do
  let page ← get
  let roomCode := (truthy (some page.roomCode)).getD (.string (trim page.joinRoomCode))
  if isTruthy roomCode then pure roomCode else throw "Current room code is required."

def requireTargetParticipantId : Script Page String := do
  let page ← get
  let target := trim page.targetParticipantId
  if target = "" then throw "Target participant id is required."
  else if strictEquals (.string target) page.ownParticipantId then
    throw "Target participant id must be the other tab, not your own id."
  else pure target

/-- The payload of a signaling request: whom it is for, and one more entry. -/
def signalingPayload (roomCode target : Json) (key : String) (value : Json) : Json :=
  .ofEntries [("room_code", roomCode), ("target_participant_id", target), (key, value)]

/-! ## The participant list -/

/-- `participant.participant_id || participant.id`. -/
def idOf (participant : Option Json) : Script Page (Option Json) := do
  let participantId ← member participant "participant_id"
  let id ← member participant "id"
  pure ((truthy participantId).or id)

/-- The entry of a participant, when it has an id. -/
def remember (participant : Json) : Script Page PUnit := do
  let id ← idOf (some participant)
  match truthy id with
  | some id => modify fun page =>
      { page with participants := assign id participant page.participants }
  | none => pure ()

def rememberParticipants (browser : Browser) (participants : Json) : Script Page PUnit :=
  match participants with
  | .array elements => do
      modify fun page => { page with participants := [] }
      elements.forM remember
      let page ← get
      let other := (page.participants.map Prod.fst).find? fun id =>
        !strictEquals id page.ownParticipantId
      match truthy other with
      | some other => if trim page.targetParticipantId = "" then setTarget browser other else pure ()
      | none => pure ()
  | _ => pure ()

/-- `state.roomCode = payload.room_code || state.roomCode`. -/
def takeRoomCode (payload : Json) : Script Page PUnit := do
  let roomCode ← member (some payload) "room_code"
  modify fun page => { page with roomCode := (truthy roomCode).getD page.roomCode }

/-- The `if (payload.participant)` of `applyRoomPayload`. -/
def takeOwnId (payload : Json) : Script Page PUnit := do
  let participant ← member (some payload) "participant"
  match truthy participant with
  | some participant =>
      let id ← idOf (some participant)
      modify fun page => { page with ownParticipantId := (truthy id).getD page.ownParticipantId }
  | none => pure ()

def applyRoomPayload (browser : Browser) (payload : Json) : Script Page PUnit := do
  takeRoomCode payload
  takeOwnId payload
  let participants ← member (some payload) "participants"
  rememberParticipants browser ((truthy participants).getD (.array []))

/-! ## The peer connection -/

def ensurePeerConnection : Script Page Nat := do
  let page ← get
  match page.pc with
  | some pc => pure pc
  | none =>
      set { page with pc := some page.peers, peers := page.peers + 1 }
      pure page.peers

/-- `pc.remoteDescription && pc.remoteDescription.type`. -/
def hasRemoteDescription (page : Page) (pc : Nat) : Bool :=
  pc ∈ page.described

def resetPeerConnection : Script Page PUnit :=
  modify fun page => { page with
    pc := none
    pendingIceCandidates := []
    out := page.out ++ page.pendingIceCandidates.map .candidateReset }

/-- One round of the loop: is there a candidate to wait for? -/
def flushNext : Script Page Bool := do
  let page ← get
  match page.pendingIceCandidates with
  | [] => pure false
  | candidate :: rest =>
      set { page with pendingIceCandidates := rest }
      match page.pc with
      | none => throw "Cannot read properties of null (reading 'addIceCandidate')"
      | some pc =>
          emit (.candidateAdded pc candidate)
          pure true

def flushPendingIceCandidates : Script Page Bool := do
  let page ← get
  if page.pc.any page.hasRemoteDescription then flushNext else pure false

/-- `startCall` up to its first `await`. -/
def startCall : Script Page PUnit := do
  showError ""
  tryCatch (do
    let roomCode ← requireRoomCode
    let target ← requireTargetParticipantId
    let pc ← ensurePeerConnection
    await (.callTracks pc roomCode target)) showError

def receiveOffer (browser : Browser) (payload : Json) : Script Page PUnit := do
  showError ""
  let sdp ← member (some payload) "sdp"
  let sender ← member (some payload) "from_participant_id"
  match truthy sdp, truthy sender with
  | some _, some sender =>
      setTarget browser sender
      takeRoomCode payload
      let pc ← ensurePeerConnection
      await (.offerTracks pc payload)
  | _, _ => throw "Received offer without sdp or from_participant_id."

/-- `if (payload.from_participant_id) el("targetParticipantId").value = ...`. -/
def takeSender (browser : Browser) (payload : Json) : Script Page PUnit := do
  let sender ← member (some payload) "from_participant_id"
  match truthy sender with
  | some sender => setTarget browser sender
  | none => pure ()

def receiveAnswer (browser : Browser) (payload : Json) : Script Page PUnit := do
  showError ""
  let sdp ← member (some payload) "sdp"
  match truthy sdp with
  | none => throw "Received answer without sdp."
  | some _ =>
      takeSender browser payload
      let pc ← ensurePeerConnection
      await (.answerRemote pc)

/-- Put a candidate into the queue; a queue of more than 50 loses its first one. -/
def enqueueCandidate (candidate : Json) (page : Page) : Page :=
  match page.pendingIceCandidates ++ [candidate] with
  | first :: rest =>
      if rest.length + 1 > 50 then
        { page with
          pendingIceCandidates := rest
          out := page.out ++ [.candidateDropped first] }
      else { page with pendingIceCandidates := first :: rest }
  | [] => page

/-- The end of `receiveIceCandidate`, once there is a candidate. -/
def takeCandidate (pc : Nat) (candidate : Json) : Script Page PUnit := do
  emit (.candidateMade candidate)
  let page ← get
  if page.hasRemoteDescription pc then
    emit (.candidateAdded pc candidate)
    await .candidateAdded
  else modify (enqueueCandidate candidate)

def receiveIceCandidate (browser : Browser) (payload : Json) : Script Page PUnit := do
  showError ""
  let candidate ← member (some payload) "candidate"
  match truthy candidate with
  | none => pure ()
  | some candidate =>
      takeSender browser payload
      let pc ← ensurePeerConnection
      match browser.iceCandidate candidate with
      | .error error => throw error
      | .ok _ => takeCandidate pc candidate

/-! ## Incoming messages -/

def handleResult (browser : Browser) (message : Json) : Script Page PUnit := do
  let ok ← member (some message) "ok"
  match truthy ok with
  | none =>
      let error := (truthy (← member (some message) "error")).getD (.object [])
      let code := (truthy (← member (some error) "code")).getD (.string "request_failed")
      let text := (truthy (← member (some error) "message")).getD (.string "Request failed.")
      showError (browser.text code ++ ": " ++ browser.text text)
  | some _ =>
      let payload := (truthy (← member (some message) "payload")).getD (.object [])
      let type ← member (some message) "type"
      if asString type ∈ [some "create_room_result", some "join_room_result"] then do
        applyRoomPayload browser payload
        modify fun page => { page with joinRoomCode := fieldText (browser.text page.roomCode) }
        showError ""
      else if asString type = some "leave_room_result" then do
        resetPeerConnection
        modify fun page => { page with
          roomCode := .string ""
          participants := []
          targetParticipantId := "" }
        showError ""
      else if asString type ∈ [some "offer_result", some "answer_result",
          some "ice_candidate_result"] then
        showError ""
      else emit (.unhandled type)

/-- `message.type && message.type.endsWith("_result")`. -/
def isResult (type : Option Json) : Script Page Bool :=
  match truthy type with
  | none => pure false
  | some (.string type) => pure (endsWith type "_result")
  | some _ => throw "message.type.endsWith is not a function"

def participantJoined (browser : Browser) (payload : Json) : Script Page PUnit := do
  let participants ← member (some payload) "participants"
  match truthy participants with
  | some participants => rememberParticipants browser participants
  | none =>
      let participant ← member (some payload) "participant"
      match truthy participant with
      | some participant => remember participant
      | none => pure ()

def participantLeft (browser : Browser) (payload : Json) : Script Page PUnit := do
  let participants ← member (some payload) "participants"
  match truthy participants with
  | some participants => rememberParticipants browser participants
  | none =>
      let participantId ← member (some payload) "participant_id"
      match truthy participantId with
      | some id => modify fun page => { page with participants := delete id page.participants }
      | none => pure ()

/-- `handleIncoming` up to the first `await` of what it calls. -/
def handleIncoming (browser : Browser) (message : Json) : Script Page PUnit := do
  let type ← member (some message) "type"
  if ← isResult type then handleResult browser message
  else
    let payload := (truthy (← member (some message) "payload")).getD (.object [])
    if asString type = some "participant_joined" then participantJoined browser payload
    else if asString type = some "participant_left" then participantLeft browser payload
    else if asString type = some "offer" then receiveOffer browser payload
    else if asString type = some "answer" then receiveAnswer browser payload
    else if asString type = some "ice_candidate" then receiveIceCandidate browser payload
    else emit (.unhandled type)

/-- The listener of `message`.  The log line reads `message.type` outside of any handler, so `null`
ends the listener there. -/
def onMessage (browser : Browser) (data : Except String Json) : Script Page PUnit :=
  match data with
  | .error error => showError ("Received invalid JSON: " ++ error)
  | .ok .null => pure ()
  | .ok message => tryCatch (handleIncoming browser message) showError

/-! ## Going on after an `await` -/

/-- The rest of `receiveOffer` once the flush is over or waits. -/
def afterOfferFlush (pc : Nat) (payload : Json) (waiting : Bool) : Script Page PUnit :=
  if waiting then await (.offerFlush pc payload) else await (.offerAnswer pc payload)

def afterAnswerFlush (waiting : Bool) : Script Page PUnit :=
  if waiting then await .answerFlush else pure ()

/-- `setRemoteDescription` has succeeded. -/
def describe (pc : Nat) : Script Page PUnit :=
  modify fun page => { page with described := pc :: page.described }

/-- Go on with a task whose promise was fulfilled; `sdp` is what `pc.localDescription.sdp` then
is. -/
def goOn (sdp : String) : Task → Script Page PUnit
  | .callTracks pc roomCode target => await (.callOffer pc roomCode target)
  | .callOffer pc roomCode target => await (.callLocal pc roomCode target)
  | .callLocal _ roomCode target =>
      sendRequest "offer" (signalingPayload roomCode (.string target) "sdp" (.string sdp))
  | .offerTracks pc payload => await (.offerRemote pc payload)
  | .offerRemote pc payload => do
      describe pc
      afterOfferFlush pc payload (← flushPendingIceCandidates)
  | .offerFlush pc payload => do
      afterOfferFlush pc payload (← flushNext)
  | .offerAnswer pc payload => await (.offerLocal pc payload)
  | .offerLocal _ payload => do
      let roomCode ← requireRoomCode
      let sender ← member (some payload) "from_participant_id"
      sendRequest "answer" (signalingPayload roomCode (sender.getD .null) "sdp" (.string sdp))
  | .answerRemote pc => do
      describe pc
      afterAnswerFlush (← flushPendingIceCandidates)
  | .answerFlush => do
      afterAnswerFlush (← flushNext)
  | .candidateAdded => pure ()

/-- A task whose promise settled; every `async` function ends in a handler that shows the error. -/
def resume (task : Task) (outcome : Except String String) : Script Page PUnit :=
  match outcome with
  | .error error => showError error
  | .ok sdp => tryCatch (goOn sdp task) showError

/-- The listener of `icecandidate`. -/
def onIceCandidate (candidate : Option Json) : Script Page PUnit :=
  match candidate with
  | none => pure ()
  | some candidate =>
      tryCatch (do
        let roomCode ← requireRoomCode
        let target ← requireTargetParticipantId
        sendRequest "ice_candidate"
          (signalingPayload roomCode (.string target) "candidate" candidate))
        fun error => showError ("Could not send ICE candidate: " ++ error)

/-! ## The socket -/

/-- `made` is whether `new WebSocket(endpoint)` returns. -/
def connectWebSocket (made : Except String Unit) : Script Page PUnit := do
  showError ""
  let page ← get
  if trim page.endpoint = "" then showError "Enter a WebSocket endpoint first."
  else if (page.ws.bind (page.sockets[·]?)).any ReadyState.beforeClosing then
    showError "WebSocket is already connecting or connected."
  else
    match made with
    | .error error => showError ("Failed to create WebSocket: " ++ error)
    | .ok _ => modify fun page => { page with
        sockets := page.sockets ++ [.connecting]
        ws := some page.sockets.length }

/-- `state.ws.close(...)`, unless it is closing already. -/
def closeSocket (page : Page) : List ReadyState :=
  match page.ws with
  | some socket =>
      if (page.sockets[socket]?).any ReadyState.beforeClosing then page.sockets.set socket .closing
      else page.sockets
  | none => page.sockets

def disconnectWebSocket : Script Page PUnit :=
  modify fun page => { page with
    sockets := page.closeSocket
    ws := none }

def onOpen (socket : Nat) : Script Page PUnit := do
  modify fun page => { page with sockets := page.sockets.set socket .opened }
  showError ""

def onSocketError : Script Page PUnit :=
  showError ("WebSocket error. If this is wss://localhost with a self-signed certificate, open " ++
    "the endpoint URL manually first and accept the browser certificate warning.")

/-- The listener of `close` clears `state.ws` without asking which socket that is. -/
def onClose (socket : Nat) : Script Page PUnit :=
  modify fun page => { page with
    sockets := page.sockets.set socket .closed
    ws := none }

/-! ## The page as a machine -/

inductive Field where
  | endpoint
  | displayName
  | password
  | joinRoomCode
  | targetParticipantId

/-- The user edits a field. -/
def edit (field : Field) (text : String) : Script Page PUnit :=
  modify fun page =>
    match field with
    | .endpoint => { page with endpoint := fieldText text }
    | .displayName => { page with displayName := fieldText text }
    | .password => { page with password := fieldText text }
    | .joinRoomCode => { page with joinRoomCode := fieldText text }
    | .targetParticipantId => { page with targetParticipantId := fieldText text }

/-- The listener of a `Use Target` button, which was made for a participant with this id. -/
def useTarget (browser : Browser) (id : Json) : Script Page PUnit := do
  setTarget browser id
  showError ""

/-- What can happen to a page. -/
inductive Input where
  | edited (field : Field) (text : String)
  | useTargetClicked (id : Json)
  | connectClicked (made : Except String Unit)
  | disconnectClicked
  | createRoomClicked
  | joinRoomClicked
  | leaveRoomClicked
  | startCallClicked
  | hangupClicked
  | socketOpened (socket : Nat)
  | messageReceived (socket : Nat) (data : Except String Json)
  | socketFailed (socket : Nat)
  | socketClosed (socket : Nat)
  | candidateFound (candidate : Option Json)
  | settled (task : Nat) (outcome : Except String String)

/-- An input and the time at which it is handled. -/
structure Event where
  now : Nat
  input : Input

/-- The handler of an input, when the input can happen. -/
def handler (browser : Browser) (page : Page) : Input → Option (Script Page PUnit)
  | .edited field text => some (edit field text)
  -- A button without an id is disabled.  Buttons of an earlier rendering may still be on the page.
  | .useTargetClicked id => if isTruthy id then some (useTarget browser id) else none
  | .connectClicked made => some (connectWebSocket made)
  | .disconnectClicked => some disconnectWebSocket
  | .createRoomClicked => some createRoom
  | .joinRoomClicked => some joinRoom
  | .leaveRoomClicked => some leaveRoom
  | .startCallClicked => some startCall
  | .hangupClicked => some resetPeerConnection
  | .socketOpened socket =>
      if page.sockets[socket]? = some .connecting then some (onOpen socket) else none
  | .messageReceived socket data =>
      if socket < page.sockets.length then some (onMessage browser data) else none
  | .socketFailed socket =>
      if socket < page.sockets.length then some onSocketError else none
  | .socketClosed socket =>
      if socket < page.sockets.length then some (onClose socket) else none
  | .candidateFound candidate => some (onIceCandidate candidate)
  | .settled task outcome =>
      (page.tasks[task]?).map fun waiting => do
        modify fun page => { page with tasks := page.tasks.eraseIdx task }
        resume waiting outcome

/-- Run a handler at a time: the page it leaves and what it did. -/
def run (page : Page) (now : Nat) (action : Script Page PUnit) : Page × List Output :=
  let after := (exec action { page with now := now, out := [] }).2
  ({ after with out := [] }, after.out)

def machine (browser : Browser) : EventMachine Page Event Output where
  init := fresh
  step page event := (page.handler browser event.input).map (page.run event.now)

end Page
end Client
end BuzzWeb
