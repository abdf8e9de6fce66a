import Mathlib
import BuzzWeb.Net.FaultyServer

/-!
# Session objects and their ids

Everywhere else in this development a session is its participant id, and the registry is a set of
ids.  Here sessions are objects: the n-th constructed session has the id that `GenerateParticipantId`
made of the n-th draw, the `registered_` flag belongs to the object, and the registry maps ids to
objects, an `Add` under a taken id replacing the older one.

When the accepted sessions have different draws, the two agree (`handles_refine_ids`): every run of
the server of objects, whatever throws in it, is a run of the server of ids.
-/

namespace BuzzWeb
namespace Net

open Domain App

/-! ## Participant ids -/

/-- `"p_" << std::hex << std::setw(16) << std::setfill('0')`. -/
def generateParticipantId (draw : UInt64) : ParticipantId :=
  let digits := Nat.toDigits 16 draw.toNat
  String.ofList ('p' :: '_' :: (List.replicate (16 - digits.length) '0' ++ digits))

/-- The value of a printed digit. -/
def hexDigit (digit : Char) : Nat :=
  if digit.isDigit then digit.toNat - 48 else digit.toNat - 87

/-- The number that printed digits stand for. -/
def ofHexDigits (digits : List Char) : Nat :=
  digits.foldl (fun value digit => 16 * value + hexDigit digit) 0

theorem hexDigit_digitChar {n : Nat} (h : n < 16) : hexDigit n.digitChar = n := by
  revert n
  decide

theorem ofHexDigits_concat (digits : List Char) (digit : Char) :
    ofHexDigits (digits ++ [digit]) = 16 * ofHexDigits digits + hexDigit digit := by
  simp [ofHexDigits]

/-- Printing and reading back; the padding does not change the number. -/
theorem ofHexDigits_padded (pad n : Nat) :
    ofHexDigits (List.replicate pad '0' ++ Nat.toDigits 16 n) = n := by
  induction n using Nat.base_induction 16 (by decide) with
  | single digit hdigit =>
      have hpad : ofHexDigits (List.replicate pad '0') = 0 := by
        induction pad with
        | zero => rfl
        | succ pad ih => rw [List.replicate_succ', ofHexDigits_concat, ih]; rfl
      rw [Nat.toDigits_of_lt_base hdigit, ofHexDigits_concat, hpad, hexDigit_digitChar hdigit]
      omega
  | digit m k hk hm ih =>
      rw [← Nat.toDigits_append_toDigits (by decide) hm hk, Nat.toDigits_of_lt_base hk,
        ← List.append_assoc, ofHexDigits_concat, ih, hexDigit_digitChar hk]

theorem generateParticipantId_injective : Function.Injective generateParticipantId := by
  intro draw draw' hsame
  have hdigits := List.cons_inj_right _ |>.mp (List.cons_inj_right _ |>.mp
    (String.ofList_injective hsame))
  have hread := congrArg ofHexDigits hdigits
  rw [ofHexDigits_padded, ofHexDigits_padded] at hread
  exact UInt64.toNat.inj hread

/-! ## Sessions as objects -/

/-- A `SessionPtr`: the number of the session in the order of construction. -/
abbrev Handle := Nat

/-- `SessionRegistry::sessions_`. -/
abbrev SessionTable := Finmap fun _ : ParticipantId => Handle

namespace SessionTable

/-- An entry under the same id is overwritten. -/
def add (sessions : SessionTable) (participantId : ParticipantId) (session : Handle) :
    SessionTable :=
  sessions.insert participantId session

def remove (sessions : SessionTable) (participantId : ParticipantId) : SessionTable :=
  sessions.erase participantId

def find (sessions : SessionTable) (participantId : ParticipantId) : Option Handle :=
  sessions.lookup participantId

end SessionTable

/-- What a handler reads or writes, with sessions as objects. -/
structure HandleWorld where
  store : Store
  sessions : SessionTable
  registered : Finset Handle
  sent : List (Handle × Json)
  faults : List Bool

namespace HandleSession

def onStore {α : Type} (action : Throwing Store α) : Throwing HandleWorld α := fun world =>
  let result := action world.store
  (result.1, { world with store := result.2 })

def point : Throwing HandleWorld Unit := fun world =>
  match world.faults with
  | [] => (some (), world)
  | throws :: rest => (if throws then none else some (), { world with faults := rest })

def encode (json : Json) : Throwing HandleWorld Json := do
  point
  pure json

def find (participantId : ParticipantId) : Throwing HandleWorld (Option Handle) := do
  point
  Throwing.reads fun world => world.sessions.find participantId

def send (session : Handle) (message : Json) : Throwing HandleWorld Unit := do
  point
  Throwing.modify fun world => { world with sent := world.sent ++ [(session, message)] }

def deliverTo (event : ControlDispatcherEvent) (encoded : Json) (participant : Participant) :
    Throwing HandleWorld Unit :=
  if Session.skips event participant then pure ()
  else do
    match ← find participant.id with
    | none => pure ()
    | some session => send session encoded

def deliverEvent (event : ControlDispatcherEvent) : Throwing HandleWorld Unit := do
  let encoded ← encode (ProtocolCodec.encodeEvent event)
  Throwing.forEach (deliverTo event encoded) event.eventReceivers

def deliverEvents (events : List ControlDispatcherEvent) : Throwing HandleWorld Unit :=
  Throwing.forEach deliverEvent events

def reply (self : Handle) (response : ControlDispatcherResponse) : Throwing HandleWorld Unit := do
  let encoded ← encode (ProtocolCodec.encodeResponse response)
  send self encoded

def replyAndDeliver (self : Handle) (result : ControlDispatcherResult) :
    Throwing HandleWorld Unit := do
  reply self result.response
  deliverEvents result.events

def responseHandler (self : Handle) (result : ControlDispatcherResult) :
    Throwing HandleWorld Unit :=
  match result.response with
  | .success requestMeta (.signaling signaling) => do
      match ← find signaling.targetParticipantId with
      | none => reply self (.error requestMeta .participantUnavailable)
      | some target => do
          let encoded ← encode (ProtocolCodec.encodeSignalingEvent signaling)
          send target encoded
          replyAndDeliver self result
  | _ => replyAndDeliver self result

def sendProtocolError (self : Handle) (requestMeta : Option RequestMeta) (code : String)
    (requestId : Option String) : Throwing HandleWorld Unit := do
  let encoded ← encode (ProtocolCodec.encodeProtocolError requestMeta code requestId)
  send self encoded

section Identified

-- `participant_id_` of every session
variable (participantId : Handle → ParticipantId)

def handleMessage (parse : ByteArray → ParseResult) (draws : Nat → Draw) (self : Handle)
    (message : ByteArray) : Throwing HandleWorld Unit :=
  match ProtocolCodec.decodeRequest parse (participantId self) message with
  | .error .parseError => sendProtocolError self none "invalid_json" none
  | .error (.protocolDecodeError requestMeta code requestId) =>
      sendProtocolError self requestMeta code requestId
  | .error .otherException => sendProtocolError self none "invalid_message" none
  | .ok request => ControlDispatcher.dispatch onStore draws request (responseHandler self)

def onFrame (parse : ByteArray → ParseResult) (draws : Nat → Draw) (self : Handle) :
    Frame → Throwing HandleWorld Unit
  | .binary _ => sendProtocolError self none "invalid_message" none
  | .text message => handleMessage participantId parse draws self message

def removeFromRegistry (order : HashOrder) (self : Handle) : Throwing HandleWorld Unit :=
  fun world =>
    if self ∈ world.registered then
      Throwing.attempt
        (do
          let events ← onStore
            (ControlDispatcher.handleParticipantDisconnected order (participantId self))
          deliverEvents events)
        (pure ())
        { world with
          registered := world.registered.erase self
          sessions := world.sessions.remove (participantId self) }
    else
      (some (), world)

end Identified

end HandleSession

/-! ## The handlers, side by side -/

section SideBySide

variable (participantId : Handle → ParticipantId)

/-- The message as it is posted to the id of the session. -/
def postedTo (post : Handle × Json) : Posted :=
  (participantId post.1, post.2)

/-- A world of ids stands for a world of objects, in which the flags of the given sessions are
set. -/
structure Represents (flags : Finset Handle) (objects : HandleWorld) (world : World) : Prop where
  flags_eq : objects.registered = flags
  store : world.store = objects.store
  registry : ∀ id, id ∈ world.registry ↔ ∃ session, objects.sessions.lookup id = some session
  owner : ∀ id session, objects.sessions.lookup id = some session →
    session ∈ flags ∧ participantId session = id
  registered : world.registered = flags.image participantId
  sent : world.sent = objects.sent.map (postedTo participantId)
  faults : world.faults = objects.faults

variable {participantId} {flags : Finset Handle}

/-- A lookup finds nothing in both, or an object and its id. -/
def SameSession (participantId : Handle → ParticipantId) :
    Option Handle → Option ParticipantId → Prop :=
  Option.Rel fun session id => participantId session = id

theorem Represents.find {objects : HandleWorld} {world : World}
    (hrep : Represents participantId flags objects world) (id : ParticipantId) :
    SameSession participantId (objects.sessions.find id) (world.registry.find id) := by
  unfold SessionTable.find SessionRegistry.find
  by_cases hmem : id ∈ world.registry
  · obtain ⟨session, hlookup⟩ := (hrep.registry id).mp hmem
    rw [if_pos hmem, hlookup]
    exact .some (hrep.owner id session hlookup).2
  · have hnone : objects.sessions.lookup id = none := by
      cases hlookup : objects.sessions.lookup id with
      | none => rfl
      | some session => exact absurd ((hrep.registry id).mpr ⟨session, hlookup⟩) hmem
    rw [if_neg hmem, hnone]
    exact .none

theorem related_onStore {α : Type} (action : Throwing Store α) :
    Throwing.Related (Represents participantId flags) Eq (HandleSession.onStore action)
      (Session.onStore action) := by
  intro objects world hrep
  have hstore := hrep.store
  refine ⟨?_, ?_⟩
  · rw [Session.onStore, HandleSession.onStore, hstore]
    cases (action objects.store).1 with
    | none => exact .none
    | some value => exact .some rfl
  · exact { hrep with store := by rw [Session.onStore, HandleSession.onStore, hstore] }

theorem related_point :
    Throwing.Related (Represents participantId flags) Eq HandleSession.point Session.point := by
  intro objects world hrep
  have hfaults := hrep.faults
  unfold HandleSession.point Session.point
  rw [hfaults]
  cases objects.faults with
  | nil => exact ⟨.some rfl, hrep⟩
  | cons throws rest =>
      refine ⟨?_, { hrep with faults := rfl }⟩
      cases throws with
      | false => exact .some rfl
      | true => exact .none

theorem related_encode (json : Json) :
    Throwing.Related (Represents participantId flags) Eq (HandleSession.encode json)
      (Session.encode json) :=
  related_point.bind fun _ _ _ => Throwing.related_pure rfl

theorem related_find (id : ParticipantId) :
    Throwing.Related (Represents participantId flags) (SameSession participantId)
      (HandleSession.find id) (Session.find id) := by
  refine related_point.bind fun _ _ _ objects world hrep => ?_
  exact ⟨.some (hrep.find id), hrep⟩

theorem related_send {session : Handle} {id : ParticipantId} (hid : participantId session = id)
    (message : Json) :
    Throwing.Related (Represents participantId flags) Eq (HandleSession.send session message)
      (Session.send id message) := by
  refine related_point.bind fun _ _ _ objects world hrep => ?_
  refine ⟨.some rfl, { hrep with sent := ?_ }⟩
  simp [hrep.sent, postedTo, hid]

theorem related_deliverEvents (events : List ControlDispatcherEvent) :
    Throwing.Related (Represents participantId flags) Eq (HandleSession.deliverEvents events)
      (Session.deliverEvents events) := by
  refine Throwing.Related.forEach (fun event => ?_) events
  refine (related_encode _).bind ?_
  rintro encoded _ rfl
  refine Throwing.Related.forEach (fun participant => ?_) event.eventReceivers
  unfold HandleSession.deliverTo Session.deliverTo
  split_ifs
  · exact Throwing.related_pure rfl
  · refine (related_find participant.id).bind fun found found' hfound => ?_
    cases hfound with
    | none => exact Throwing.related_pure rfl
    | some hid => exact related_send hid encoded

theorem related_reply (self : Handle) (response : ControlDispatcherResponse) :
    Throwing.Related (Represents participantId flags) Eq (HandleSession.reply self response)
      (Session.reply (participantId self) response) := by
  refine (related_encode _).bind ?_
  rintro encoded _ rfl
  exact related_send rfl encoded

theorem related_replyAndDeliver (self : Handle) (result : ControlDispatcherResult) :
    Throwing.Related (Represents participantId flags) Eq (HandleSession.replyAndDeliver self result)
      (Session.replyAndDeliver (participantId self) result) :=
  (related_reply self result.response).bind fun _ _ _ => related_deliverEvents result.events

theorem related_responseHandler (self : Handle) (result : ControlDispatcherResult) :
    Throwing.Related (Represents participantId flags) Eq (HandleSession.responseHandler self result)
      (Session.responseHandler (participantId self) result) := by
  obtain ⟨response, events⟩ := result
  cases response with
  | error requestMeta payload => exact related_replyAndDeliver self _
  | success requestMeta payload =>
      cases payload with
      | signaling signaling =>
          refine (related_find signaling.targetParticipantId).bind fun found found' hfound => ?_
          cases hfound with
          | none => exact related_reply self _
          | some hid =>
              refine (related_encode _).bind ?_
              rintro encoded _ rfl
              refine (related_send hid encoded).bind fun _ _ _ => ?_
              exact related_replyAndDeliver self _
      | createRoom response => exact related_replyAndDeliver self _
      | joinRoom response => exact related_replyAndDeliver self _
      | leaveRoom response => exact related_replyAndDeliver self _

theorem related_sendProtocolError (self : Handle) (requestMeta : Option RequestMeta)
    (code : String) (requestId : Option String) :
    Throwing.Related (Represents participantId flags) Eq
      (HandleSession.sendProtocolError self requestMeta code requestId)
      (Session.sendProtocolError (participantId self) requestMeta code requestId) := by
  refine (related_encode _).bind ?_
  rintro encoded _ rfl
  exact related_send rfl encoded

theorem related_onFrame (parse : ByteArray → ParseResult) (draws : Nat → Draw) (self : Handle)
    (frame : Frame) :
    Throwing.Related (Represents participantId flags) Eq
      (HandleSession.onFrame participantId parse draws self frame)
      (Session.onFrame parse draws (participantId self) frame) := by
  cases frame with
  | binary data => exact related_sendProtocolError self _ _ _
  | text message =>
      simp only [HandleSession.onFrame, Session.onFrame, HandleSession.handleMessage,
        Session.handleMessage]
      cases ProtocolCodec.decodeRequest parse (participantId self) message with
      | error exception =>
          cases exception with
          | parseError => exact related_sendProtocolError self _ _ _
          | protocolDecodeError requestMeta code requestId =>
              exact related_sendProtocolError self _ _ _
          | otherException => exact related_sendProtocolError self _ _ _
      | ok request =>
          refine Throwing.Related.attempt ?_ (related_responseHandler self _)
          refine (related_onStore _).bind ?_
          rintro result _ rfl
          exact related_responseHandler self result

/-- The clean-up of an accepted session.  Its flag and its entry go, and with different ids nobody
else's. -/
theorem represents_removeFromRegistry {objects : HandleWorld} {world : World}
    (hrep : Represents participantId flags objects world) {accepted : Finset Handle}
    (hinj : Set.InjOn participantId accepted) (hsub : flags ⊆ accepted)
    {self : Handle} (hself : self ∈ accepted) (order : HashOrder) :
    Option.Rel Eq (HandleSession.removeFromRegistry participantId order self objects).1
        (Session.removeFromRegistry order (participantId self) world).1 ∧
      Represents participantId (flags.erase self)
        (HandleSession.removeFromRegistry participantId order self objects).2
        (Session.removeFromRegistry order (participantId self) world).2 := by
  unfold HandleSession.removeFromRegistry Session.removeFromRegistry
  rw [hrep.flags_eq]
  by_cases hregistered : self ∈ flags
  · have hmem : participantId self ∈ world.registered := by
      rw [hrep.registered]
      exact Finset.mem_image_of_mem participantId hregistered
    rw [if_pos hregistered, if_pos hmem]
    have hcleared : Represents participantId (flags.erase self)
        { objects with
          registered := flags.erase self
          sessions := objects.sessions.remove (participantId self) }
        { world with
          registered := world.registered.erase (participantId self)
          registry := world.registry.remove (participantId self) } := by
      refine { hrep with flags_eq := rfl, registry := ?_, owner := ?_, registered := ?_ }
      · intro id
        by_cases hid : id = participantId self
        · subst hid
          simp [SessionRegistry.remove, SessionTable.remove]
        · simp [SessionRegistry.remove, SessionTable.remove, hid, hrep.registry id]
      · intro id session hlookup
        by_cases hid : id = participantId self
        · subst hid
          simp [SessionTable.remove] at hlookup
        · rw [SessionTable.remove, Finmap.lookup_erase_ne hid] at hlookup
          obtain ⟨hflag, howner⟩ := hrep.owner id session hlookup
          refine ⟨Finset.mem_erase.mpr ⟨?_, hflag⟩, howner⟩
          rintro rfl
          exact hid howner.symm
      · rw [hrep.registered]
        ext id
        simp only [Finset.mem_erase, Finset.mem_image]
        constructor
        · rintro ⟨hne, session, hsession, rfl⟩
          exact ⟨session, ⟨fun hsame => hne (hsame ▸ rfl), hsession⟩, rfl⟩
        · rintro ⟨session, ⟨hne, hsession⟩, rfl⟩
          exact ⟨fun hsame => hne (hinj (hsub hsession) hself hsame), session, hsession, rfl⟩
    have hrelated : Throwing.Related (Represents participantId (flags.erase self)) Eq
        (Throwing.attempt
          (HandleSession.onStore (ControlDispatcher.handleParticipantDisconnected order
            (participantId self)) >>= HandleSession.deliverEvents) (pure ()))
        (Throwing.attempt
          (Session.onStore (ControlDispatcher.handleParticipantDisconnected order
            (participantId self)) >>= Session.deliverEvents) (pure ())) := by
      refine Throwing.Related.attempt ?_ (Throwing.related_pure rfl)
      refine (related_onStore _).bind ?_
      rintro events _ rfl
      exact related_deliverEvents events
    exact hrelated _ _ hcleared
  · have hnot : participantId self ∉ world.registered := by
      rw [hrep.registered]
      rintro hmem
      obtain ⟨session, hsession, hsame⟩ := Finset.mem_image.mp hmem
      exact hregistered (hinj (hsub hsession) hself hsame ▸ hsession)
    rw [if_neg hregistered, if_neg hnot, Finset.erase_eq_of_notMem hregistered]
    exact ⟨.some rfl, hrep⟩

/-- The next handler starts from the tables the last one left, with a plan of its own. -/
theorem Represents.restart {objects : HandleWorld} {world : World}
    (hrep : Represents participantId flags objects world) (plan : FaultPlan) :
    Represents participantId flags
      ⟨⟨objects.store.rooms, plan.calls⟩, objects.sessions, objects.registered, [], plan.points⟩
      ⟨⟨world.store.rooms, plan.calls⟩, world.registry, world.registered, [], plan.points⟩ :=
  { hrep with
    store := by rw [hrep.store]
    sent := rfl
    faults := rfl }

end SideBySide

/-! ## The server of objects -/

structure HandleServer where
  rooms : Rooms
  sessions : SessionTable
  registered : Finset Handle
  accepted : Finset Handle
  running : Bool

namespace HandleServer

/-- What can happen next, and the faults that fall on its handler. -/
inductive Event where
  | connect (session : Handle) (plan : FaultPlan)
  | frame (session : Handle) (frame : Frame) (draws : Nat → Draw) (plan : FaultPlan)
  | disconnect (session : Handle) (order : HashOrder) (plan : FaultPlan)

def world (server : HandleServer) (plan : FaultPlan) : HandleWorld :=
  ⟨⟨server.rooms, plan.calls⟩, server.sessions, server.registered, [], plan.points⟩

def run (server : HandleServer) (plan : FaultPlan) (handler : Throwing HandleWorld Unit) :
    HandleServer × List (Handle × Json) :=
  let result := handler (server.world plan)
  ({ server with
      rooms := result.2.store.rooms
      sessions := result.2.sessions
      registered := result.2.registered
      running := result.1.isSome }, result.2.sent)

/-- `OnWebSocketAccept` without an error. -/
def connect (server : HandleServer) (participantId : ParticipantId) (session : Handle) :
    HandleServer :=
  { server with
    sessions := server.sessions.add participantId session
    registered := insert session server.registered
    accepted := insert session server.accepted }

/-- A session object is accepted once; nothing is assumed of the ids. -/
def machine (parse : ByteArray → ParseResult) (participantId : Handle → ParticipantId) :
    EventMachine HandleServer Event (Handle × Json) where
  init := ⟨∅, ∅, ∅, ∅, true⟩
  step server event :=
    if server.running then
      match event with
      | .connect session plan =>
          if session ∈ server.accepted then none
          else if plan.points.getD 0 false then
            some ({ server with accepted := insert session server.accepted, running := false }, [])
          else some (server.connect (participantId session) session, [])
      | .frame session frame draws plan =>
          if session ∈ server.accepted then
            some (server.run plan
              (HandleSession.onFrame participantId parse draws session frame))
          else none
      | .disconnect session order plan =>
          some (server.run plan (HandleSession.removeFromRegistry participantId order session))
    else none

/-- The state of the server of ids that stands for a state of the server of objects. -/
structure Stands (participantId : Handle → ParticipantId) (server : HandleServer)
    (process : Process) : Prop where
  represents : ∀ plan, Represents participantId server.registered (server.world plan)
    (Process.world process.server plan)
  registered_accepted : server.registered ⊆ server.accepted
  accepted : process.server.accepted = server.accepted.image participantId
  running : process.running = server.running

variable {parse : ByteArray → ParseResult} {participantId : Handle → ParticipantId}

theorem accepted_mono {server server' : HandleServer} {event : Event}
    {posts : List (Handle × Json)}
    (hstep : (machine parse participantId).step server event = some (server', posts)) :
    server.accepted ⊆ server'.accepted := by
  simp only [machine] at hstep
  by_cases hrunning : server.running = true
  · rw [if_pos hrunning] at hstep
    cases event with
    | connect session plan =>
        simp only at hstep
        split_ifs at hstep
        · obtain ⟨rfl, -⟩ := Prod.mk.inj (Option.some.inj hstep)
          exact Finset.subset_insert _ _
        · obtain ⟨rfl, -⟩ := Prod.mk.inj (Option.some.inj hstep)
          exact Finset.subset_insert _ _
    | frame session frame draws plan =>
        simp only at hstep
        split_ifs at hstep
        obtain ⟨rfl, -⟩ := Prod.mk.inj (Option.some.inj hstep)
        exact Finset.Subset.refl _
    | disconnect session order plan =>
        obtain ⟨rfl, -⟩ := Prod.mk.inj (Option.some.inj hstep)
        exact Finset.Subset.refl _
  · rw [if_neg hrunning] at hstep
    cases hstep

/-- The messages of a step, under the ids of their sessions. -/
abbrev postedAll (participantId : Handle → ParticipantId) (posts : List (Handle × Json)) :
    List Posted :=
  posts.map (postedTo participantId)

theorem Stands.run {server : HandleServer} {process : Process} {plan : FaultPlan}
    (hstands : Stands participantId server process) {handler : Throwing HandleWorld Unit}
    {handler' : Throwing World Unit} {flags : Finset Handle} (hflags : flags ⊆ server.accepted)
    (houtcome : Option.Rel Eq (handler (server.world plan)).1
      (handler' (Process.world process.server plan)).1)
    (hrep : Represents participantId flags (handler (server.world plan)).2
      (handler' (Process.world process.server plan)).2) :
    Stands participantId (server.run plan handler).1 (Process.run process.server plan handler').1 ∧
      (Process.run process.server plan handler').2 =
        postedAll participantId (server.run plan handler).2 := by
  have hflagsEq : (server.run plan handler).1.registered = flags := hrep.flags_eq
  have hrunning : (handler' (Process.world process.server plan)).1.isSome =
      (handler (server.world plan)).1.isSome := by
    generalize (handler (server.world plan)).1 = outcome at houtcome
    generalize (handler' (Process.world process.server plan)).1 = outcome' at houtcome
    cases houtcome <;> rfl
  refine ⟨⟨fun next => ?_, ?_, hstands.accepted, hrunning⟩, hrep.sent⟩
  · rw [hflagsEq]
    exact hrep.restart next
  · rw [hflagsEq]
    exact hflags

/-- A newly accepted session gets its entry, its flag and its id. -/
theorem Stands.connect {server : HandleServer} {process : Process}
    (hstands : Stands participantId server process) (session : Handle)
    (hrunning : server.running = true) :
    Stands participantId (server.connect (participantId session) session)
      ⟨process.server.connect (participantId session), true⟩ := by
  refine ⟨fun next => ?_, Finset.insert_subset_insert session hstands.registered_accepted, ?_,
    hrunning.symm⟩
  · have hrep := hstands.represents next
    refine { hrep with flags_eq := rfl, registry := ?_, owner := ?_, registered := ?_ }
    · intro id
      have hbefore : id ∈ process.server.registry ↔
          ∃ session, server.sessions.lookup id = some session := hrep.registry id
      change id ∈ insert (participantId session) process.server.registry ↔
        ∃ other, (server.sessions.insert (participantId session) session).lookup id = some other
      by_cases hid : id = participantId session
      · subst hid
        simp
      · simp [hid, hbefore]
    · intro id other hlookup
      change (server.sessions.insert (participantId session) session).lookup id =
        some other at hlookup
      by_cases hid : id = participantId session
      · subst hid
        rw [Finmap.lookup_insert] at hlookup
        obtain rfl := Option.some.inj hlookup
        exact ⟨Finset.mem_insert_self _ _, rfl⟩
      · rw [Finmap.lookup_insert_of_ne _ hid] at hlookup
        obtain ⟨hflag, howner⟩ := hrep.owner id other hlookup
        exact ⟨Finset.mem_insert_of_mem hflag, howner⟩
    · have hbefore : process.server.registered = server.registered.image participantId :=
        hrep.registered
      change insert (participantId session) process.server.registered =
        (insert session server.registered).image participantId
      rw [hbefore, Finset.image_insert]
  · change insert (participantId session) process.server.accepted =
      (insert session server.accepted).image participantId
    rw [hstands.accepted, Finset.image_insert]

/-- A step of the server of objects is a step of the server of ids, or does nothing. -/
theorem Stands.step {server server' : HandleServer} {process : Process} {event : Event}
    {posts : List (Handle × Json)} (hstands : Stands participantId server process)
    (hinj : Set.InjOn participantId server'.accepted)
    (hstep : (machine parse participantId).step server event = some (server', posts)) :
    (posts = [] ∧ Stands participantId server' process) ∨
      ∃ event' process', (Process.machine parse).step process event' =
          some (process', postedAll participantId posts) ∧
        Stands participantId server' process' := by
  have hmono := accepted_mono hstep
  simp only [machine] at hstep
  by_cases hrunning : server.running = true
  swap
  · rw [if_neg hrunning] at hstep
    cases hstep
  rw [if_pos hrunning] at hstep
  have hrunning' : process.running = true := hstands.running.trans hrunning
  cases event with
  | connect session plan =>
      simp only at hstep
      by_cases hold : session ∈ server.accepted
      · rw [if_pos hold] at hstep
        cases hstep
      rw [if_neg hold] at hstep
      -- The new session is accepted now, so its id is new too.
      have hnew : insert session server.accepted = server'.accepted →
          participantId session ∉ process.server.accepted := by
        intro haccepted hmem
        rw [hstands.accepted] at hmem
        obtain ⟨other, hother, hsame⟩ := Finset.mem_image.mp hmem
        have hself : session ∈ server'.accepted := haccepted ▸ Finset.mem_insert_self _ _
        exact hold (hinj (hmono hother) hself hsame ▸ hother)
      refine Or.inr ⟨⟨.connect (participantId session), plan⟩, ?_⟩
      by_cases hfault : plan.points.getD 0 false = true
      · rw [if_pos hfault] at hstep
        obtain ⟨rfl, rfl⟩ := Prod.mk.inj (Option.some.inj hstep)
        refine ⟨⟨{ process.server with
          accepted := insert (participantId session) process.server.accepted }, false⟩, ?_, ?_⟩
        · simp only [Process.machine, hrunning', if_true, if_neg (hnew rfl), hfault]
          rfl
        · refine ⟨hstands.represents,
            hstands.registered_accepted.trans (Finset.subset_insert _ _), ?_, rfl⟩
          change insert (participantId session) process.server.accepted = _
          rw [hstands.accepted, Finset.image_insert]
      · rw [if_neg hfault] at hstep
        obtain ⟨rfl, rfl⟩ := Prod.mk.inj (Option.some.inj hstep)
        refine ⟨_, ?_, hstands.connect session hrunning⟩
        simp only [Process.machine, hrunning', if_true, if_neg (hnew rfl), if_neg hfault]
        rfl
  | frame session frame draws plan =>
      simp only at hstep
      split_ifs at hstep with haccepted
      obtain ⟨rfl, rfl⟩ := Prod.mk.inj (Option.some.inj hstep)
      have hmem : participantId session ∈ process.server.accepted := by
        rw [hstands.accepted]
        exact Finset.mem_image_of_mem participantId haccepted
      obtain ⟨houtcome, hrep⟩ := related_onFrame parse draws session frame _ _
        (hstands.represents plan)
      obtain ⟨hstands', hposts⟩ := hstands.run hstands.registered_accepted houtcome hrep
      refine Or.inr ⟨⟨.frame (participantId session) frame draws, plan⟩, _, ?_, hstands'⟩
      simp only [Process.machine, hrunning', if_true, if_pos hmem]
      exact congrArg some (Prod.ext rfl hposts)
  | disconnect session order plan =>
      obtain ⟨rfl, rfl⟩ := Prod.mk.inj (Option.some.inj hstep)
      by_cases haccepted : session ∈ server.accepted
      · obtain ⟨houtcome, hrep⟩ := represents_removeFromRegistry (hstands.represents plan) hinj
          hstands.registered_accepted haccepted order
        obtain ⟨hstands', hposts⟩ := hstands.run
          ((Finset.erase_subset _ _).trans hstands.registered_accepted) houtcome hrep
        refine Or.inr ⟨⟨.disconnect (participantId session) order, plan⟩, _, ?_, hstands'⟩
        simp only [Process.machine, hrunning', if_true]
        exact congrArg some (Prod.ext rfl hposts)
      · -- A session that was never accepted is not registered: nothing happens.
        have hnot : session ∉ (server.world plan).registered :=
          fun hmem => haccepted (hstands.registered_accepted hmem)
        have hidle : HandleSession.removeFromRegistry participantId order session
            (server.world plan) = (some (), server.world plan) := by
          rw [HandleSession.removeFromRegistry, if_neg hnot]
        refine Or.inl ⟨?_, ?_⟩
        · simp only [hidle]
          rfl
        · simp only [hidle]
          exact ⟨hstands.represents, hstands.registered_accepted, hstands.accepted, hrunning'⟩

theorem stands_of_run {history : List (EventMachine.Step HandleServer Event (Handle × Json))}
    {server : HandleServer} (hrun : (machine parse participantId).Run history server)
    (hinj : Set.InjOn participantId server.accepted) :
    ∃ history' process, (Process.machine parse).Run history' process ∧
      Stands participantId server process ∧
      EventMachine.trace history' = postedAll participantId (EventMachine.trace history) := by
  induction hrun with
  | nil =>
      refine ⟨[], _, .nil, ⟨fun plan => ?_, Finset.Subset.refl _, rfl, rfl⟩, rfl⟩
      exact ⟨rfl, rfl, by simp [Process.machine, machine, Process.world, world], by
        simp [machine, world], rfl, rfl, rfl⟩
  | @snoc history server event server' posts hprev hlast ih =>
      have hbefore : Set.InjOn participantId server.accepted :=
        hinj.mono (Finset.coe_subset.mpr (accepted_mono hlast))
      obtain ⟨history', process, hrun', hstands, htrace⟩ := ih hbefore
      rcases hstands.step hinj hlast with ⟨rfl, hidle⟩ | ⟨event', process', hstep', hstands'⟩
      · refine ⟨history', process, hrun', hidle, ?_⟩
        rw [htrace, EventMachine.trace_concat, List.append_nil]
      · refine ⟨_, process', hrun'.snoc hstep', hstands', ?_⟩
        rw [EventMachine.trace_concat, EventMachine.trace_concat, htrace, postedAll, postedAll,
          postedAll, List.map_append]

/-- **Session objects refine their ids.**  For every sequence of draws: in every run of the server of
objects in which the accepted sessions have different draws, whatever throws, the server of ids has a
run beside it that ends in the state standing for the same rooms, registry and flags, and posts the
same messages, in the same order, to the ids of the same sessions.  Different draws always give
different ids. -/
theorem handles_refine_ids (draws : Handle → UInt64)
    {history : List (EventMachine.Step HandleServer Event (Handle × Json))}
    {server : HandleServer}
    (hrun : (machine parse fun session => generateParticipantId (draws session)).Run history
      server)
    (hdistinct : ∀ session ∈ server.accepted, ∀ other ∈ server.accepted,
      draws session = draws other → session = other) :
    (∀ draw draw', draw ≠ draw' → generateParticipantId draw ≠ generateParticipantId draw') ∧
    ∃ history' process, (Process.machine parse).Run history' process ∧
      process.server.rooms = server.rooms ∧
      (∀ id, id ∈ process.server.registry ↔
        ∃ session ∈ server.registered, generateParticipantId (draws session) = id ∧
          server.sessions.find id = some session) ∧
      process.running = server.running ∧
      EventMachine.trace history' = postedAll (fun session => generateParticipantId (draws session))
        (EventMachine.trace history) := by
  have hinj : Set.InjOn (fun session => generateParticipantId (draws session))
      server.accepted := by
    intro session hsession other hother hsame
    exact hdistinct session hsession other hother (generateParticipantId_injective hsame)
  obtain ⟨history', process, hrun', hstands, htrace⟩ := stands_of_run hrun hinj
  have hrep := hstands.represents ⟨[], []⟩
  refine ⟨fun draw draw' hne hsame => hne (generateParticipantId_injective hsame), history', process,
    hrun', congrArg Store.rooms hrep.store, fun id => ?_, hstands.running, htrace⟩
  constructor
  · intro hmem
    obtain ⟨session, hlookup⟩ := (hrep.registry id).mp hmem
    obtain ⟨hflag, howner⟩ := hrep.owner id session hlookup
    exact ⟨session, hflag, howner, hlookup⟩
  · rintro ⟨session, -, -, hfind⟩
    exact (hrep.registry id).mpr ⟨session, hfind⟩

/-- Two sessions: the first one creates a room, the second one joins it, and the first one goes. -/
def twoObjects (codes : Nat → Draw) : List Event :=
  let plan : FaultPlan := ⟨[], []⟩
  [.connect 0 plan, .connect 1 plan,
    .frame 0 (.text Server.createText.toUTF8) codes plan,
    .frame 1 (.text Server.joinText.toUTF8) codes plan,
    .disconnect 0 .ascending plan]

/-- Both are answered under their own ids, the first one is told of the join and the second one of the
leave, and the second one is left in the stored room. -/
theorem two_objects_refine :
    let draws : Handle → UInt64 := fun session => session.toUInt64
    ∃ history server history' process,
      (machine Server.sampleParse fun session => generateParticipantId (draws session)).exec
        (twoObjects fun _ => 0) = some (history, server) ∧
      (Process.machine Server.sampleParse).Run history' process ∧
      process.server.rooms = server.rooms ∧
      server.rooms.lookup "000000" =
        some ⟨"000000", some "k", [⟨"p_0000000000000001", "Bob"⟩]⟩ ∧
      (EventMachine.trace history').map Prod.fst = ["p_0000000000000000", "p_0000000000000001",
        "p_0000000000000000", "p_0000000000000001"] := by
  intro draws
  -- What the run comes to, evaluated once.
  have hsummary : ((machine Server.sampleParse fun session =>
      generateParticipantId (draws session)).exec (twoObjects fun _ => 0)).map (fun result =>
        (result.2.rooms.lookup "000000", result.2.accepted, (EventMachine.trace result.1).map
          fun post => generateParticipantId (draws post.1))) =
      some (some ⟨"000000", some "k", [⟨"p_0000000000000001", "Bob"⟩]⟩, {0, 1},
        ["p_0000000000000000", "p_0000000000000001", "p_0000000000000000",
          "p_0000000000000001"]) := by
    decide +kernel
  obtain ⟨⟨history, server⟩, hexec, hresult⟩ := Option.map_eq_some_iff.mp hsummary
  obtain ⟨hroom, haccepted, hposted⟩ : _ ∧ _ ∧ _ := by simpa only [Prod.mk.injEq] using hresult
  have hdistinct : ∀ session ∈ server.accepted, ∀ other ∈ server.accepted,
      draws session = draws other → session = other := by
    rw [haccepted]
    decide
  obtain ⟨-, history', process, hrun', hrooms, -, -, htrace⟩ :=
    handles_refine_ids draws (EventMachine.run_of_exec hexec) hdistinct
  refine ⟨history, server, history', process, hexec, hrun', hrooms, hroom, ?_⟩
  rw [htrace, postedAll, List.map_map]
  exact hposted

end HandleServer

end Net
end BuzzWeb
