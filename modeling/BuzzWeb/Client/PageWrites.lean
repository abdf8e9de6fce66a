import Mathlib.Logic.Relation
import BuzzWeb.Client.Page

/-!
# What the handlers of the page write

`Write` lists the single writes of the script, with what the script knows when it makes them.
`Reached` says that a page was reached by such writes; every handler keeps it, so an invariant of
the single writes is an invariant of the page.

`G` are the values that may be used as room codes and as targets of a request, and `viewing` is
whether the room code, the own id and the participant list may be written: only the handler of an
incoming message does that.
-/

namespace BuzzWeb
namespace Client

open Script

/-- A message names its sender by a usable value. -/
def GoodSender (G : Json → Prop) (payload : Json) : Prop :=
  ∃ sender, payload.find? "from_participant_id" = some sender ∧ isTruthy sender = true ∧ G sender

/-- The values that a task has kept are usable. -/
def Task.Good (G : Json → Prop) : Task → Prop
  | callTracks _ roomCode target => isTruthy roomCode = true ∧ G roomCode ∧ target ≠ ""
  | callOffer _ roomCode target => isTruthy roomCode = true ∧ G roomCode ∧ target ≠ ""
  | callLocal _ roomCode target => isTruthy roomCode = true ∧ G roomCode ∧ target ≠ ""
  | offerTracks _ payload => GoodSender G payload
  | offerRemote _ payload => GoodSender G payload
  | offerFlush _ payload => GoodSender G payload
  | offerAnswer _ payload => GoodSender G payload
  | offerLocal _ payload => GoodSender G payload
  | _ => True

namespace Page

/-- The types and payloads of the requests that the script makes. -/
inductive RequestOf (G : Json → Prop) : String → Json → Prop
  | create {displayName password : String} (hname : displayName ≠ "") :
      RequestOf G "create_room" (withPassword password [("display_name", .string displayName)])
  | join {roomCode displayName password : String} (hroom : roomCode ≠ "")
      (hname : displayName ≠ "") :
      RequestOf G "join_room" (withPassword password
        [("room_code", .string roomCode), ("display_name", .string displayName)])
  | leave {roomCode : Json} (htrue : isTruthy roomCode = true) (hroom : G roomCode) :
      RequestOf G "leave_room" (.ofEntries [("room_code", roomCode)])
  | description {type : String} {roomCode target : Json} {sdp : String}
      (htype : type = "offer" ∨ type = "answer") (htrue : isTruthy roomCode = true)
      (hroom : G roomCode) (htarget : isTruthy target = true ∧ G target) :
      RequestOf G type (signalingPayload roomCode target "sdp" (.string sdp))
  | candidate {roomCode target candidate : Json} (htrue : isTruthy roomCode = true)
      (hroom : G roomCode) (htarget : isTruthy target = true ∧ G target) :
      RequestOf G "ice_candidate" (signalingPayload roomCode target "candidate" candidate)

/-- One write of the script. -/
inductive Write (G : Json → Prop) (viewing : Prop) : Page → Page → Prop
  | quiet {page : Page} (endpoint displayName password joinRoomCode targetParticipantId
      errorBox : String) (sockets : List ReadyState) (ws : Option Nat) (described : List Nat) :
      Write G viewing page { page with
        endpoint := endpoint
        displayName := displayName
        password := password
        joinRoomCode := joinRoomCode
        targetParticipantId := targetParticipantId
        errorBox := errorBox
        sockets := sockets
        ws := ws
        described := described }
  | view {page : Page} (hviewing : viewing) (roomCode ownParticipantId : Json)
      (participants : List (Json × Json)) (hroom : G roomCode) :
      Write G viewing page { page with
        roomCode := roomCode
        ownParticipantId := ownParticipantId
        participants := participants }
  | await {page : Page} (task : Task) (htask : task.Good G) :
      Write G viewing page { page with tasks := page.tasks ++ [task] }
  | settle {page : Page} (index : Nat) :
      Write G viewing page { page with tasks := page.tasks.eraseIdx index }
  | send {page : Page} {socket : Nat} {type : String} {payload : Json}
      (hopen : page.openSocket = some socket) (hrequest : RequestOf G type payload) :
      Write G viewing page { page with
        requestCounter := page.requestCounter + 1
        out := page.out ++ [.sent socket (requestMessage type
          (requestId page.now (page.requestCounter + 1)) payload)] }
  | unhandled {page : Page} (type : Option Json) :
      Write G viewing page { page with out := page.out ++ [.unhandled type] }
  | connect {page : Page} (hnone : page.pc = none) :
      Write G viewing page { page with pc := some page.peers, peers := page.peers + 1 }
  | reset {page : Page} :
      Write G viewing page { page with
        pc := none
        pendingIceCandidates := []
        out := page.out ++ page.pendingIceCandidates.map .candidateReset }
  | flush {page : Page} {candidate : Json} {rest : List Json} {pc : Nat}
      (hqueue : page.pendingIceCandidates = candidate :: rest) (hpc : page.pc = some pc) :
      Write G viewing page { page with
        pendingIceCandidates := rest
        out := page.out ++ [.candidateAdded pc candidate] }
  | direct {page : Page} (pc : Nat) (candidate : Json) (hpc : page.pc = some pc) :
      Write G viewing page { page with
        out := page.out ++ [.candidateMade candidate] ++ [.candidateAdded pc candidate] }
  | queue {page : Page} (candidate : Json) (hpc : page.pc ≠ none) :
      Write G viewing page (enqueueCandidate candidate
        { page with out := page.out ++ [.candidateMade candidate] })

variable {G : Json → Prop} {viewing : Prop} {start : Page}

/-- What the script may rely on between two writes. -/
structure Guarded (G : Json → Prop) (page : Page) : Prop where
  room : G page.roomCode
  tasks : ∀ task ∈ page.tasks, task.Good G
  connected : page.pendingIceCandidates ≠ [] → page.pc ≠ none

/-- The queue changes; nothing else that a guard reads does. -/
theorem enqueueCandidate_eq (candidate : Json) (page : Page) :
    ∃ queue out, enqueueCandidate candidate page =
      { page with pendingIceCandidates := queue, out := out } := by
  unfold enqueueCandidate
  split
  · split_ifs
    · exact ⟨_, _, rfl⟩
    · exact ⟨_, _, rfl⟩
  · exact ⟨_, _, rfl⟩

theorem Guarded.write {page page' : Page} (hguarded : Guarded G page)
    (hwrite : Write G viewing page page') : Guarded G page' := by
  cases hwrite with
  | quiet => exact ⟨hguarded.room, hguarded.tasks, hguarded.connected⟩
  | view hviewing roomCode ownParticipantId participants hroom =>
      exact ⟨hroom, hguarded.tasks, hguarded.connected⟩
  | await task htask =>
      refine ⟨hguarded.room, ?_, hguarded.connected⟩
      intro other hmem
      rcases List.mem_append.mp hmem with hold | hnew
      · exact hguarded.tasks other hold
      · rw [List.mem_singleton.mp hnew]
        exact htask
  | settle index =>
      exact ⟨hguarded.room, fun task hmem => hguarded.tasks task (List.mem_of_mem_eraseIdx hmem),
        hguarded.connected⟩
  | send hopen hrequest => exact ⟨hguarded.room, hguarded.tasks, hguarded.connected⟩
  | unhandled type => exact ⟨hguarded.room, hguarded.tasks, hguarded.connected⟩
  | connect hnone => exact ⟨hguarded.room, hguarded.tasks, fun _ => Option.some_ne_none _⟩
  | reset => exact ⟨hguarded.room, hguarded.tasks, fun hqueue => absurd rfl hqueue⟩
  | flush hqueue hpc =>
      refine ⟨hguarded.room, hguarded.tasks, fun _ => ?_⟩
      rw [hpc]
      exact Option.some_ne_none _
  | direct pc candidate hpc => exact ⟨hguarded.room, hguarded.tasks, hguarded.connected⟩
  | queue candidate hpc =>
      obtain ⟨queue, out, heq⟩ := enqueueCandidate_eq candidate
        { page with out := page.out ++ [.candidateMade candidate] }
      rw [heq]
      exact ⟨hguarded.room, hguarded.tasks, fun _ => hpc⟩

/-- The page was reached by writes of the script. -/
structure Reached (G : Json → Prop) (viewing : Prop) (start page : Page) : Prop where
  guarded : Guarded G page
  writes : Relation.ReflTransGen (Write G viewing) start page

theorem Reached.write {page page' : Page} (hreached : Reached G viewing start page)
    (hwrite : Write G viewing page page') : Reached G viewing start page' :=
  ⟨hreached.guarded.write hwrite, hreached.writes.tail hwrite⟩

/-- What every write keeps holds of a page that was reached. -/
theorem Reached.keeps {I : Page → Prop} (hI : ∀ page page', I page → Write G viewing page page' →
    I page') {page : Page} (hreached : Reached G viewing start page) (hstart : I start) :
    I page := by
  obtain ⟨-, hwrites⟩ := hreached
  induction hwrites with
  | refl => exact hstart
  | tail _ hwrite ih => exact hI _ _ ih hwrite

/-! ## The handlers -/

/-- A write that the script makes in one go. -/
theorem keeps_write {f : Page → Page}
    (hf : ∀ page, Guarded G page → Write G viewing page (f page)) :
    Keeps (Reached G viewing start) (fun _ => True) (modify f) :=
  keeps_modify fun page hreached => hreached.write (hf page hreached.guarded)

theorem showError_keeps (message : String) :
    Keeps (Reached G viewing start) (fun _ => True) (showError message) :=
  keeps_write fun _ _ => .quiet _ _ _ _ _ _ _ _ _

theorem setTarget_keeps (browser : Browser) (value : Json) :
    Keeps (Reached G viewing start) (fun _ => True) (setTarget browser value) :=
  keeps_write fun _ _ => .quiet _ _ _ _ _ _ _ _ _

theorem await_keeps {task : Task} (htask : task.Good G) :
    Keeps (Reached G viewing start) (fun _ => True) (await task) :=
  keeps_write fun _ _ => .await task htask

theorem exec_sendRequest (type : String) (payload : Json) (page : Page) :
    exec (sendRequest type payload) page = match page.openSocket with
      | none => (.error "WebSocket is not connected.", page)
      | some socket => (.ok ⟨⟩, { page with
          requestCounter := page.requestCounter + 1
          out := page.out ++ [.sent socket (requestMessage type
            (requestId page.now (page.requestCounter + 1)) payload)] }) := by
  rw [sendRequest, exec_bind, exec_get]
  cases hopen : page.openSocket with
  | none => simp only [hopen, exec_throw]
  | some socket => simp only [hopen, nextRequestId, emit, exec_bind, exec_modify, exec_get, exec_pure]

theorem sendRequest_keeps {type : String} {payload : Json} (hrequest : RequestOf G type payload) :
    Keeps (Reached G viewing start) (fun _ => True) (sendRequest type payload) := by
  intro page hreached
  refine ⟨?_, fun _ _ => trivial⟩
  rw [exec_sendRequest]
  cases hopen : page.openSocket with
  | none => exact hreached
  | some socket => exact hreached.write (.send hopen hrequest)

theorem createRoom_keeps : Keeps (Reached G viewing start) (fun _ => True) createRoom := by
  refine (showError_keeps _).bind fun _ _ => keeps_get.bind fun page _ => ?_
  dsimp only
  split_ifs with hname
  · exact showError_keeps _
  · exact (sendRequest_keeps (.create hname)).tryCatch showError_keeps

theorem joinRoom_keeps : Keeps (Reached G viewing start) (fun _ => True) joinRoom := by
  refine (showError_keeps _).bind fun _ _ => keeps_get.bind fun page _ => ?_
  dsimp only
  split_ifs with hempty
  · exact showError_keeps _
  · obtain ⟨hname, hroom⟩ := not_or.mp hempty
    exact (sendRequest_keeps (.join hroom hname)).tryCatch showError_keeps

theorem leaveRoom_keeps : Keeps (Reached G viewing start) (fun _ => True) leaveRoom := by
  refine (showError_keeps _).bind fun _ _ => keeps_get.bind fun page hpage => ?_
  cases htrue : truthy (some page.roomCode) with
  | none => exact showError_keeps _
  | some roomCode =>
      obtain rfl : page.roomCode = roomCode := Option.some.inj (eq_of_truthy htrue)
      exact (sendRequest_keeps (.leave (isTruthy_of_truthy htrue) hpage.guarded.room)).tryCatch
        showError_keeps

section Usable

variable (hG : ∀ text, G (.string text))
include hG

theorem requireRoomCode_keeps :
    Keeps (Reached G viewing start) (fun roomCode => isTruthy roomCode = true ∧ G roomCode)
      requireRoomCode := by
  refine keeps_get.bind fun page hpage => ?_
  dsimp only
  split_ifs with htrue
  · refine keeps_pure ⟨htrue, ?_⟩
    cases hroom : truthy (some page.roomCode) with
    | none => exact hG _
    | some roomCode =>
        obtain rfl : page.roomCode = roomCode := Option.some.inj (eq_of_truthy hroom)
        exact hpage.guarded.room
  · exact keeps_throw _

omit hG in
theorem requireTargetParticipantId_keeps :
    Keeps (Reached G viewing start) (fun target => target ≠ "") requireTargetParticipantId := by
  refine keeps_get.bind fun page _ => ?_
  dsimp only
  split_ifs with hempty hown
  · exact keeps_throw _
  · exact keeps_throw _
  · exact keeps_pure hempty

omit hG in
/-- Afterwards the page has the peer connection that was returned. -/
theorem exec_ensurePeerConnection {page : Page} (hreached : Reached G viewing start page) :
    ∃ pc page', exec ensurePeerConnection page = (.ok pc, page') ∧ page'.pc = some pc ∧
      Reached G viewing start page' := by
  rw [ensurePeerConnection, exec_bind, exec_get]
  cases hpc : page.pc with
  | some pc => exact ⟨pc, page, by simp only [hpc, exec_pure], hpc, hreached⟩
  | none =>
      refine ⟨page.peers, _, ?_, ?_, hreached.write (.connect hpc)⟩
      · simp only [hpc]
        rfl
      · rfl

omit hG in
theorem ensurePeerConnection_keeps :
    Keeps (Reached G viewing start) (fun _ => True) ensurePeerConnection := by
  intro page hreached
  obtain ⟨pc, page', hexec, -, hreached'⟩ := exec_ensurePeerConnection hreached
  rw [hexec]
  exact ⟨hreached', fun _ _ => trivial⟩

theorem startCall_keeps : Keeps (Reached G viewing start) (fun _ => True) startCall := by
  refine (showError_keeps _).bind fun _ _ => Keeps.tryCatch ?_ showError_keeps
  refine (requireRoomCode_keeps hG).bind fun roomCode hroom => ?_
  refine requireTargetParticipantId_keeps.bind fun target htarget => ?_
  refine ensurePeerConnection_keeps.bind fun pc _ => ?_
  exact await_keeps ⟨hroom.1, hroom.2, htarget⟩

theorem onIceCandidate_keeps (candidate : Option Json) :
    Keeps (Reached G viewing start) (fun _ => True) (onIceCandidate candidate) := by
  cases candidate with
  | none => exact keeps_pure trivial
  | some candidate =>
      refine Keeps.tryCatch ?_ fun error => showError_keeps _
      refine (requireRoomCode_keeps hG).bind fun roomCode hroom => ?_
      refine requireTargetParticipantId_keeps.bind fun target htarget => ?_
      exact sendRequest_keeps (.candidate hroom.1 hroom.2 ⟨isTruthy_string htarget, hG target⟩)

omit hG in
/-- A queued candidate has a peer connection to go to, so the loop never reads a member of `null`. -/
theorem flushNext_keeps : Keeps (Reached G viewing start) (fun _ => True) flushNext := by
  intro page hreached
  refine ⟨?_, fun _ _ => trivial⟩
  rw [flushNext, exec_bind, exec_get]
  cases hqueue : page.pendingIceCandidates with
  | nil => simpa only [hqueue, exec_pure] using hreached
  | cons candidate rest =>
      obtain ⟨pc, hpc⟩ : ∃ pc, page.pc = some pc := by
        apply Option.ne_none_iff_exists'.mp
        apply hreached.guarded.connected
        rw [hqueue]
        exact List.cons_ne_nil _ _
      simp only [hqueue, hpc, emit, exec_bind, exec_set, exec_modify, exec_pure]
      rw [← hpc]
      exact hreached.write (.flush hqueue hpc)

omit hG in
theorem flushPendingIceCandidates_keeps :
    Keeps (Reached G viewing start) (fun _ => True) flushPendingIceCandidates := by
  refine keeps_get.bind fun page _ => ?_
  split_ifs
  · exact flushNext_keeps
  · exact keeps_pure trivial

omit hG in
theorem afterOfferFlush_keeps (pc : Nat) {payload : Json} (hsender : GoodSender G payload)
    (waiting : Bool) :
    Keeps (Reached G viewing start) (fun _ => True) (afterOfferFlush pc payload waiting) := by
  unfold afterOfferFlush
  split_ifs
  · exact await_keeps hsender
  · exact await_keeps hsender

omit hG in
theorem afterAnswerFlush_keeps (waiting : Bool) :
    Keeps (Reached G viewing start) (fun _ => True) (afterAnswerFlush waiting) := by
  unfold afterAnswerFlush
  split_ifs
  · exact await_keeps trivial
  · exact keeps_pure trivial

omit hG in
theorem describe_keeps (pc : Nat) : Keeps (Reached G viewing start) (fun _ => True) (describe pc) :=
  keeps_write fun _ _ => .quiet _ _ _ _ _ _ _ _ _

theorem goOn_keeps (sdp : String) {task : Task} (htask : task.Good G) :
    Keeps (Reached G viewing start) (fun _ => True) (goOn sdp task) := by
  cases task with
  | callTracks pc roomCode target => exact await_keeps htask
  | callOffer pc roomCode target => exact await_keeps htask
  | callLocal pc roomCode target =>
      obtain ⟨htrue, hroom, htarget⟩ := htask
      exact sendRequest_keeps
        (.description (Or.inl rfl) htrue hroom ⟨isTruthy_string htarget, hG target⟩)
  | offerTracks pc payload => exact await_keeps htask
  | offerRemote pc payload =>
      refine (describe_keeps pc).bind fun _ _ => ?_
      exact flushPendingIceCandidates_keeps.bind fun waiting _ => afterOfferFlush_keeps pc htask _
  | offerFlush pc payload =>
      exact flushNext_keeps.bind fun waiting _ => afterOfferFlush_keeps pc htask _
  | offerAnswer pc payload => exact await_keeps htask
  | offerLocal pc payload =>
      obtain ⟨sender, hfound, htrue, hsender⟩ := htask
      refine (requireRoomCode_keeps hG).bind fun roomCode hroom => ?_
      refine (keeps_member (some payload) _).bind fun found hmember => ?_
      obtain ⟨json, hjson, rfl⟩ := hmember
      obtain rfl := Option.some.inj hjson
      rw [hfound]
      exact sendRequest_keeps (.description (Or.inr rfl) hroom.1 hroom.2 ⟨htrue, hsender⟩)
  | answerRemote pc =>
      refine (describe_keeps pc).bind fun _ _ => ?_
      exact flushPendingIceCandidates_keeps.bind fun waiting _ => afterAnswerFlush_keeps _
  | answerFlush => exact flushNext_keeps.bind fun waiting _ => afterAnswerFlush_keeps _
  | candidateAdded => exact keeps_pure trivial

theorem resume_keeps {task : Task} (htask : task.Good G) (outcome : Except String String) :
    Keeps (Reached G viewing start) (fun _ => True) (resume task outcome) := by
  cases outcome with
  | error error => exact showError_keeps error
  | ok sdp => exact (goOn_keeps hG sdp htask).tryCatch showError_keeps

end Usable

theorem connectWebSocket_keeps (made : Except String Unit) :
    Keeps (Reached G viewing start) (fun _ => True) (connectWebSocket made) := by
  refine (showError_keeps _).bind fun _ _ => keeps_get.bind fun page _ => ?_
  split_ifs
  · exact showError_keeps _
  · exact showError_keeps _
  · cases made with
    | error error => exact showError_keeps _
    | ok _ => exact keeps_write fun _ _ => .quiet _ _ _ _ _ _ _ _ _

theorem edit_keeps (field : Field) (text : String) :
    Keeps (Reached G viewing start) (fun _ => True) (edit field text) := by
  refine keeps_write fun page _ => ?_
  cases field <;> exact .quiet _ _ _ _ _ _ _ _ _

theorem useTarget_keeps (browser : Browser) (id : Json) :
    Keeps (Reached G viewing start) (fun _ => True) (useTarget browser id) :=
  (setTarget_keeps browser id).bind fun _ _ => showError_keeps _

/-! ## Incoming messages -/

/-- The room code and the sender of a payload are usable, if it has them. -/
structure GoodPayload (G : Json → Prop) (payload : Json) : Prop where
  room : ∀ value, payload.find? "room_code" = some value → G value
  sender : ∀ value, payload.find? "from_participant_id" = some value → G value

def GoodMessage (G : Json → Prop) (message : Json) : Prop :=
  ∀ payload, message.find? "payload" = some payload → GoodPayload G payload

/-- The payload that a handler goes on with. -/
theorem goodPayload_of_member {message : Json} (hmessage : GoodMessage G message)
    {found : Option Json}
    (hfound : ∃ json, some message = some json ∧ found = json.find? "payload") :
    GoodPayload G ((truthy found).getD (.object [])) := by
  obtain ⟨json, hjson, rfl⟩ := hfound
  obtain rfl := Option.some.inj hjson
  cases htrue : truthy (message.find? "payload") with
  | none =>
      constructor
      · intro value hvalue
        cases hvalue
      · intro value hvalue
        cases hvalue
  | some payload => exact hmessage payload (eq_of_truthy htrue)

section Messages

variable (hviewing : viewing)
include hviewing

theorem takeRoomCode_keeps {payload : Json} (hpayload : GoodPayload G payload) :
    Keeps (Reached G viewing start) (fun _ => True) (takeRoomCode payload) := by
  refine (keeps_member (some payload) _).bind fun found hfound => ?_
  obtain ⟨json, hjson, rfl⟩ := hfound
  obtain rfl := Option.some.inj hjson
  refine keeps_write fun page hguarded => .view hviewing _ _ _ ?_
  cases htrue : truthy (payload.find? "room_code") with
  | none => exact hguarded.room
  | some value => exact hpayload.room value (eq_of_truthy htrue)

omit hviewing in
theorem idOf_keeps (participant : Option Json) :
    Keeps (Reached G viewing start) (fun _ => True) (idOf participant) := by
  refine (keeps_member _ _).bind fun participantId _ => ?_
  exact (keeps_member _ _).bind fun id _ => keeps_pure trivial

theorem remember_keeps (participant : Json) :
    Keeps (Reached G viewing start) (fun _ => True) (remember participant) := by
  refine (idOf_keeps _).bind fun id _ => ?_
  cases truthy id with
  | none => exact keeps_pure trivial
  | some id => exact keeps_write fun page hguarded => .view hviewing _ _ _ hguarded.room

theorem rememberParticipants_keeps (browser : Browser) (participants : Json) :
    Keeps (Reached G viewing start) (fun _ => True)
      (rememberParticipants browser participants) := by
  cases participants with
  | array elements =>
      refine (keeps_write fun page hguarded => .view hviewing _ _ _ hguarded.room).bind
        fun _ _ => ?_
      refine (keeps_forM fun participant _ => remember_keeps hviewing participant).bind
        fun _ _ => ?_
      refine keeps_get.bind fun page _ => ?_
      dsimp only
      split
      · split_ifs
        · exact setTarget_keeps _ _
        · exact keeps_pure trivial
      · exact keeps_pure trivial
  | _ => exact keeps_pure trivial

theorem takeOwnId_keeps (payload : Json) :
    Keeps (Reached G viewing start) (fun _ => True) (takeOwnId payload) := by
  refine (keeps_member _ _).bind fun participant _ => ?_
  cases truthy participant with
  | none => exact keeps_pure trivial
  | some participant =>
      refine (idOf_keeps _).bind fun id _ => ?_
      exact keeps_write fun page hguarded => .view hviewing _ _ _ hguarded.room

theorem applyRoomPayload_keeps (browser : Browser) {payload : Json}
    (hpayload : GoodPayload G payload) :
    Keeps (Reached G viewing start) (fun _ => True) (applyRoomPayload browser payload) := by
  refine (takeRoomCode_keeps hviewing hpayload).bind fun _ _ => ?_
  refine (takeOwnId_keeps hviewing payload).bind fun _ _ => ?_
  exact (keeps_member _ _).bind fun participants _ => rememberParticipants_keeps hviewing browser _

theorem receiveOffer_keeps (browser : Browser) {payload : Json}
    (hpayload : GoodPayload G payload) :
    Keeps (Reached G viewing start) (fun _ => True) (receiveOffer browser payload) := by
  refine (showError_keeps _).bind fun _ _ => ?_
  refine (keeps_member _ _).bind fun sdp _ => ?_
  refine (keeps_member (some payload) _).bind fun found hfound => ?_
  obtain ⟨json, hjson, rfl⟩ := hfound
  obtain rfl := Option.some.inj hjson
  cases truthy sdp with
  | none => exact keeps_throw _
  | some sdp =>
      cases hsender : truthy (payload.find? "from_participant_id") with
      | none => exact keeps_throw _
      | some sender =>
          refine (setTarget_keeps browser sender).bind fun _ _ => ?_
          refine (takeRoomCode_keeps hviewing hpayload).bind fun _ _ => ?_
          refine ensurePeerConnection_keeps.bind fun pc _ => await_keeps ?_
          have hfound := eq_of_truthy hsender
          exact ⟨sender, hfound, isTruthy_of_truthy hsender, hpayload.sender sender hfound⟩

omit hviewing in
theorem takeSender_keeps (browser : Browser) (payload : Json) :
    Keeps (Reached G viewing start) (fun _ => True) (takeSender browser payload) := by
  refine (keeps_member _ _).bind fun sender _ => ?_
  cases truthy sender with
  | none => exact keeps_pure trivial
  | some sender => exact setTarget_keeps browser sender

omit hviewing in
theorem receiveAnswer_keeps (browser : Browser) (payload : Json) :
    Keeps (Reached G viewing start) (fun _ => True) (receiveAnswer browser payload) := by
  refine (showError_keeps _).bind fun _ _ => (keeps_member _ _).bind fun sdp _ => ?_
  cases truthy sdp with
  | none => exact keeps_throw _
  | some sdp =>
      refine (takeSender_keeps browser payload).bind fun _ _ => ?_
      exact ensurePeerConnection_keeps.bind fun pc _ => await_keeps trivial

omit hviewing in
/-- A candidate goes to the peer connection at once or into the queue. -/
theorem takeCandidate_keeps (candidate : Json) {pc : Nat} {page : Page} (hpc : page.pc = some pc)
    (hreached : Reached G viewing start page) :
    Reached G viewing start (exec (takeCandidate pc candidate) page).2 := by
  simp only [takeCandidate, emit, exec_bind, exec_modify, exec_get]
  split_ifs
  · simp only [await, exec_bind, exec_modify]
    exact (hreached.write (.direct pc candidate hpc)).write (.await _ trivial)
  · rw [exec_modify]
    refine hreached.write (.queue candidate ?_)
    rw [hpc]
    exact Option.some_ne_none pc

omit hviewing in
theorem receiveIceCandidate_keeps (browser : Browser) (payload : Json) :
    Keeps (Reached G viewing start) (fun _ => True) (receiveIceCandidate browser payload) := by
  refine (showError_keeps _).bind fun _ _ => (keeps_member _ _).bind fun candidate _ => ?_
  cases truthy candidate with
  | none => exact keeps_pure trivial
  | some candidate =>
      refine (takeSender_keeps browser payload).bind fun _ _ => ?_
      intro page hreached
      refine ⟨?_, fun _ _ => trivial⟩
      obtain ⟨pc, page', hexec, hpc, hreached'⟩ := exec_ensurePeerConnection hreached
      rw [exec_bind, hexec]
      cases browser.iceCandidate candidate with
      | error error => exact hreached'
      | ok _ => exact takeCandidate_keeps candidate hpc hreached'

theorem handleResult_keeps (browser : Browser) {message : Json} (hmessage : GoodMessage G message)
    (hG : ∀ text, G (.string text)) :
    Keeps (Reached G viewing start) (fun _ => True) (handleResult browser message) := by
  refine (keeps_member _ _).bind fun ok _ => ?_
  cases truthy ok with
  | none =>
      refine (keeps_member _ _).bind fun error _ => (keeps_member _ _).bind fun code _ => ?_
      exact (keeps_member _ _).bind fun text _ => showError_keeps _
  | some ok =>
      refine (keeps_member (some message) _).bind fun found hfound => ?_
      have hpayload : GoodPayload G ((truthy found).getD (.object [])) :=
        goodPayload_of_member hmessage hfound
      refine (keeps_member _ _).bind fun type _ => ?_
      split_ifs
      · refine (applyRoomPayload_keeps hviewing browser hpayload).bind fun _ _ => ?_
        refine (keeps_write fun _ _ => .quiet _ _ _ _ _ _ _ _ _).bind fun _ _ => ?_
        exact showError_keeps _
      · refine (keeps_write fun _ _ => .reset).bind fun _ _ => ?_
        have hclear (page : Page) : Reached G viewing start page → Reached G viewing start
            { page with roomCode := .string "", participants := [], targetParticipantId := "" } :=
          fun hreached => (hreached.write (.view hviewing (.string "") page.ownParticipantId []
            (hG ""))).write (.quiet _ _ _ _ "" _ _ _ _)
        exact (keeps_modify hclear).bind fun _ _ => showError_keeps _
      · exact showError_keeps _
      · exact keeps_write fun _ _ => .unhandled type

theorem participantJoined_keeps (browser : Browser) (payload : Json) :
    Keeps (Reached G viewing start) (fun _ => True) (participantJoined browser payload) := by
  refine (keeps_member _ _).bind fun participants _ => ?_
  cases truthy participants with
  | some participants => exact rememberParticipants_keeps hviewing browser participants
  | none =>
      refine (keeps_member _ _).bind fun participant _ => ?_
      cases truthy participant with
      | some participant => exact remember_keeps hviewing participant
      | none => exact keeps_pure trivial

theorem participantLeft_keeps (browser : Browser) (payload : Json) :
    Keeps (Reached G viewing start) (fun _ => True) (participantLeft browser payload) := by
  refine (keeps_member _ _).bind fun participants _ => ?_
  cases truthy participants with
  | some participants => exact rememberParticipants_keeps hviewing browser participants
  | none =>
      refine (keeps_member _ _).bind fun participantId _ => ?_
      cases truthy participantId with
      | some id => exact keeps_write fun page hguarded => .view hviewing _ _ _ hguarded.room
      | none => exact keeps_pure trivial

omit hviewing in
theorem isResult_keeps (type : Option Json) :
    Keeps (Reached G viewing start) (fun _ => True) (isResult type) := by
  unfold isResult
  split
  · exact keeps_pure trivial
  · exact keeps_pure trivial
  · exact keeps_throw _

theorem handleIncoming_keeps (hG : ∀ text, G (.string text)) (browser : Browser) {message : Json}
    (hmessage : GoodMessage G message) :
    Keeps (Reached G viewing start) (fun _ => True) (handleIncoming browser message) := by
  refine (keeps_member _ _).bind fun type _ => (isResult_keeps type).bind fun result _ => ?_
  by_cases hresult : result = true
  · rw [if_pos hresult]
    exact handleResult_keeps hviewing browser hmessage hG
  · rw [if_neg hresult]
    refine (keeps_member (some message) _).bind fun found hfound => ?_
    have hpayload : GoodPayload G ((truthy found).getD (.object [])) :=
      goodPayload_of_member hmessage hfound
    dsimp only
    split_ifs
    · exact participantJoined_keeps hviewing browser _
    · exact participantLeft_keeps hviewing browser _
    · exact receiveOffer_keeps hviewing browser hpayload
    · exact receiveAnswer_keeps browser _
    · exact receiveIceCandidate_keeps browser _
    · exact keeps_write fun _ _ => .unhandled type

theorem onMessage_keeps (hG : ∀ text, G (.string text)) (browser : Browser)
    {data : Except String Json} (hdata : ∀ message, data = .ok message → GoodMessage G message) :
    Keeps (Reached G viewing start) (fun _ => True) (onMessage browser data) := by
  unfold onMessage
  split
  · exact showError_keeps _
  · exact keeps_pure trivial
  · next message _ =>
      exact (handleIncoming_keeps hviewing hG browser (hdata message rfl)).tryCatch showError_keeps

end Messages

/-! ## The steps of the page -/

/-- Is this the handler that may write what the page knows about its room? -/
def Input.IsMessage : Input → Prop
  | .messageReceived _ _ => True
  | _ => False

/-- The messages that a page may be sent. -/
def Event.Good (G : Json → Prop) (event : Event) : Prop :=
  ∀ socket message, event.input = .messageReceived socket (.ok message) → GoodMessage G message

/-- **A step is a sequence of writes**, from the page at the time of the event. -/
theorem reached_of_step {browser : Browser} {page page' : Page} {event : Event}
    {out : List Output} (hG : ∀ text, G (.string text)) (hguarded : Guarded G page)
    (hevent : event.Good G) (hstep : (machine browser).step page event = some (page', out)) :
    ∃ final, Reached G event.input.IsMessage { page with now := event.now, out := [] } final ∧
      page' = { final with out := [] } ∧ out = final.out := by
  obtain ⟨action, haction, hrun⟩ := Option.map_eq_some_iff.mp hstep
  obtain ⟨rfl, rfl⟩ := Prod.mk.inj hrun
  refine ⟨_, ?_, rfl, rfl⟩
  have hstart : Reached G event.input.IsMessage { page with now := event.now, out := [] }
      { page with now := event.now, out := [] } :=
    ⟨⟨hguarded.room, hguarded.tasks, hguarded.connected⟩, .refl⟩
  suffices hkeeps : Keeps (Reached G event.input.IsMessage
      { page with now := event.now, out := [] }) (fun _ => True) action from (hkeeps _ hstart).1
  obtain ⟨now, input⟩ := event
  cases input with
  | edited field text =>
      obtain rfl := Option.some.inj haction
      exact edit_keeps field text
  | useTargetClicked id =>
      obtain ⟨-, hsome⟩ := Option.ite_none_right_eq_some.mp haction
      obtain rfl := Option.some.inj hsome
      exact useTarget_keeps browser id
  | connectClicked made =>
      obtain rfl := Option.some.inj haction
      exact connectWebSocket_keeps made
  | disconnectClicked =>
      obtain rfl := Option.some.inj haction
      exact keeps_write fun _ _ => .quiet _ _ _ _ _ _ _ _ _
  | createRoomClicked =>
      obtain rfl := Option.some.inj haction
      exact createRoom_keeps
  | joinRoomClicked =>
      obtain rfl := Option.some.inj haction
      exact joinRoom_keeps
  | leaveRoomClicked =>
      obtain rfl := Option.some.inj haction
      exact leaveRoom_keeps
  | startCallClicked =>
      obtain rfl := Option.some.inj haction
      exact startCall_keeps hG
  | hangupClicked =>
      obtain rfl := Option.some.inj haction
      exact keeps_write fun _ _ => .reset
  | socketOpened socket =>
      obtain ⟨-, hsome⟩ := Option.ite_none_right_eq_some.mp haction
      obtain rfl := Option.some.inj hsome
      exact (keeps_write fun _ _ => .quiet _ _ _ _ _ _ _ _ _).bind fun _ _ => showError_keeps _
  | messageReceived socket data =>
      obtain ⟨-, hsome⟩ := Option.ite_none_right_eq_some.mp haction
      obtain rfl := Option.some.inj hsome
      refine onMessage_keeps trivial hG browser ?_
      rintro message rfl
      exact hevent socket message rfl
  | socketFailed socket =>
      obtain ⟨-, hsome⟩ := Option.ite_none_right_eq_some.mp haction
      obtain rfl := Option.some.inj hsome
      exact showError_keeps _
  | socketClosed socket =>
      obtain ⟨-, hsome⟩ := Option.ite_none_right_eq_some.mp haction
      obtain rfl := Option.some.inj hsome
      exact keeps_write fun _ _ => .quiet _ _ _ _ _ _ _ _ _
  | candidateFound candidate =>
      obtain rfl := Option.some.inj haction
      exact onIceCandidate_keeps hG candidate
  | settled index outcome =>
      obtain ⟨task, htask, rfl⟩ := Option.map_eq_some_iff.mp haction
      have hgood := hguarded.tasks task (List.mem_of_getElem? htask)
      exact (keeps_write fun _ _ => .settle index).bind fun _ _ => resume_keeps hG hgood outcome

theorem guarded_of_run {browser : Browser} (hG : ∀ text, G (.string text))
    {history : List (EventMachine.Step Page Event Output)} {page : Page}
    (hrun : (machine browser).Run history page) (hevents : ∀ st ∈ history, st.event.Good G) :
    Guarded G page := by
  induction hrun with
  | nil =>
      refine ⟨hG "", ?_, fun hqueue => absurd rfl hqueue⟩
      intro task hmem
      cases hmem
  | snoc hprev hlast ih =>
      rw [List.forall_mem_append, List.forall_mem_singleton] at hevents
      obtain ⟨final, hreached, rfl, -⟩ := reached_of_step hG (ih hevents.1) hevents.2 hlast
      exact ⟨hreached.guarded.room, hreached.guarded.tasks, hreached.guarded.connected⟩

end Page
end Client
end BuzzWeb
