import Mathlib.Algebra.GroupWithZero.Nat
import BuzzWeb.App.ClientView
import BuzzWeb.Net.QuietSession

/-!
# Replies when the response handler throws

The handler that `HandleMessage` gives to `Dispatch` replies and then delivers the room events, all
inside the `try` block of `Dispatch`.  A fault during the delivery is caught there and answered
with an internal error, although the requester already has its reply.

`Scripted` says how a handler meets the planned faults: it throws at the first one that falls on
one of its points, or it passes all its points and returns.  From it follows exactly which fault
plans give a second reply: those whose first fault falls on a point of the delivery, and which let
the two points of the second reply through.
-/

namespace BuzzWeb
namespace Net

open Domain App

namespace Session

/-- No fault is planned for the first `n` points. -/
def Clear (faults : List Bool) (n : Nat) : Prop :=
  ∀ i, i < n → faults.getD i false = false

/-- The first planned fault is the one of point `k`. -/
def FirstAt (faults : List Bool) (k : Nat) : Prop :=
  Clear faults k ∧ faults.getD k false = true

/-- The world some posts and `n` points later. -/
def pass (world : World) (posts : List Posted) (n : Nat) : World :=
  { world with sent := world.sent ++ posts, faults := world.faults.drop n }

@[simp] theorem pass_registry (world : World) (posts : List Posted) (n : Nat) :
    (pass world posts n).registry = world.registry := rfl

@[simp] theorem pass_sent (world : World) (posts : List Posted) (n : Nat) :
    (pass world posts n).sent = world.sent ++ posts := rfl

@[simp] theorem pass_faults (world : World) (posts : List Posted) (n : Nat) :
    (pass world posts n).faults = world.faults.drop n := rfl

theorem pass_pass (world : World) (first second : List Posted) (n m : Nat) :
    pass (pass world first n) second m = pass world (first ++ second) (n + m) := by
  simp [pass, List.drop_drop]

theorem getD_drop (faults : List Bool) (n i : Nat) :
    (faults.drop n).getD i false = faults.getD (n + i) false := by
  rw [List.getD_eq_getElem?_getD, List.getD_eq_getElem?_getD, List.getElem?_drop]

theorem clear_add {faults : List Bool} {n m : Nat} (hfirst : Clear faults n)
    (hrest : Clear (faults.drop n) m) : Clear faults (n + m) := by
  intro i hi
  by_cases hbefore : i < n
  · exact hfirst i hbefore
  · have hshift := hrest (i - n) (by omega)
    rw [getD_drop] at hshift
    rwa [show n + (i - n) = i by omega] at hshift

theorem firstAt_add {faults : List Bool} {n k : Nat} (hfirst : Clear faults n)
    (hrest : FirstAt (faults.drop n) k) : FirstAt faults (n + k) := by
  refine ⟨clear_add hfirst hrest.1, ?_⟩
  rw [← getD_drop]
  exact hrest.2

/-- There is only one first fault. -/
theorem FirstAt.unique {faults : List Bool} {k l : Nat} (hk : FirstAt faults k)
    (hl : FirstAt faults l) : k = l := by
  rcases Nat.lt_trichotomy k l with hlt | heq | hgt
  · have hclear := hl.1 k hlt
    rw [hk.2] at hclear
    cases hclear
  · exact heq
  · have hclear := hk.1 l hgt
    rw [hl.2] at hclear
    cases hclear

/-- The action has `n` points, posts only what is allowed, and returns `x` unless it throws at
the first planned fault. -/
def Scripted {α : Type} (registry : SessionRegistry) (allowed : Posted → Prop) (n : Nat) (x : α)
    (action : Throwing World α) : Prop :=
  ∀ world : World, world.registry = registry → ∃ posts, (∀ sent ∈ posts, allowed sent) ∧
    ((∃ k < n, FirstAt world.faults k ∧ action world = (none, pass world posts (k + 1))) ∨
      (Clear world.faults n ∧ action world = (some x, pass world posts n)))

theorem point_apply (world : World) :
    point world =
      (if world.faults.getD 0 false then none else some (), pass world [] 1) := by
  obtain ⟨store, registry, registered, sent, faults⟩ := world
  cases faults <;> simp [point, pass]

variable {registry : SessionRegistry} {allowed : Posted → Prop} {α β : Type}

theorem scripted_pure (x : α) :
    Scripted registry allowed 0 x (pure x : Throwing World α) := by
  intro world hregistry
  refine ⟨[], by simp, Or.inr ⟨?_, ?_⟩⟩
  · intro i hi
    omega
  · simp [pass]

theorem scripted_point : Scripted registry allowed 1 () point := by
  intro world hregistry
  refine ⟨[], by simp, ?_⟩
  cases hfault : world.faults.getD 0 false with
  | true =>
      refine Or.inl ⟨0, by omega, ⟨?_, hfault⟩, ?_⟩
      · intro i hi
        omega
      · rw [point_apply, hfault]
        rfl
  | false =>
      refine Or.inr ⟨?_, ?_⟩
      · intro i hi
        obtain rfl : i = 0 := by omega
        exact hfault
      · rw [point_apply, hfault]
        rfl

/-- Points add up along a sequence. -/
theorem Scripted.bind {n m : Nat} {x : α} {y : β} {action : Throwing World α}
    {next : α → Throwing World β} (hfirst : Scripted registry allowed n x action)
    (hnext : Scripted registry allowed m y (next x)) :
    Scripted registry allowed (n + m) y (action >>= next) := by
  intro world hregistry
  obtain ⟨posts, hposts, ⟨k, hk, hfault, hthrow⟩ | ⟨hclear, hreturn⟩⟩ := hfirst world hregistry
  · exact ⟨posts, hposts, Or.inl ⟨k, by omega, hfault, Throwing.bind_of_none hthrow⟩⟩
  · have hregistry' : (pass world posts n).registry = registry := hregistry
    obtain ⟨later, hlater, hcases⟩ := hnext (pass world posts n) hregistry'
    have hall : ∀ sent ∈ posts ++ later, allowed sent := by
      intro sent hmem
      rcases List.mem_append.mp hmem with hold | hnew
      · exact hposts sent hold
      · exact hlater sent hnew
    refine ⟨posts ++ later, hall, ?_⟩
    rcases hcases with ⟨k, hk, hfault, hthrow⟩ | ⟨hclear', hreturn'⟩
    · refine Or.inl ⟨n + k, by omega, firstAt_add hclear hfault, ?_⟩
      rw [Throwing.bind_of_some hreturn, hthrow, pass_pass, Nat.add_assoc]
    · refine Or.inr ⟨clear_add hclear hclear', ?_⟩
      rw [Throwing.bind_of_some hreturn, hreturn', pass_pass]

theorem scripted_encode (json : Json) : Scripted registry allowed 1 json (encode json) :=
  scripted_point.bind (m := 0) (scripted_pure json)

theorem scripted_find (participantId : ParticipantId) :
    Scripted registry allowed 1 (registry.find participantId) (find participantId) := by
  refine scripted_point.bind (m := 0) ?_
  intro world hregistry
  subst hregistry
  refine ⟨[], by simp, Or.inr ⟨?_, ?_⟩⟩
  · intro i hi
    omega
  · simp [pass]

theorem scripted_send {session : ParticipantId} {message : Json}
    (hallowed : allowed (session, message)) :
    Scripted registry allowed 1 () (send session message) := by
  refine scripted_point.bind (m := 0) ?_
  intro world hregistry
  refine ⟨[(session, message)], ?_, Or.inr ⟨?_, ?_⟩⟩
  · intro sent hmem
    rw [List.mem_singleton.mp hmem]
    exact hallowed
  · intro i hi
    omega
  · simp [pass]

/-- A loop has the points of its bodies. -/
theorem scripted_forEach {body : α → Throwing World Unit} {points : α → Nat}
    (hbody : ∀ x, Scripted registry allowed (points x) () (body x)) (items : List α) :
    Scripted registry allowed (items.map points).sum () (Throwing.forEach body items) := by
  induction items with
  | nil => exact scripted_pure ()
  | cons item rest ih =>
      rw [List.map_cons, List.sum_cons]
      exact (hbody item).bind ih

/-! ## The points of a delivery -/

/-- The points of one round of the receiver loop: none for the one who joined, a lookup for
everybody else, and a send for those who are registered. -/
def receiverPoints (registry : SessionRegistry) (event : ControlDispatcherEvent)
    (participant : Participant) : Nat :=
  if skips event participant then 0 else if participant.id ∈ registry then 2 else 1

/-- The points of delivering one event: its encoding, and the receivers. -/
def deliveryPoints (registry : SessionRegistry) (event : ControlDispatcherEvent) : Nat :=
  1 + (event.eventReceivers.map (receiverPoints registry event)).sum

/-- Copies of the event, to whomever. -/
def IsCopy (event : ControlDispatcherEvent) (sent : Posted) : Prop :=
  sent.2 = ProtocolCodec.encodeEvent event

theorem scripted_deliverTo (event : ControlDispatcherEvent) (participant : Participant) :
    Scripted registry (IsCopy event) (receiverPoints registry event participant) ()
      (deliverTo event (ProtocolCodec.encodeEvent event) participant) := by
  unfold deliverTo receiverPoints
  cases hskip : skips event participant with
  | true => exact scripted_pure ()
  | false =>
      simp only [Bool.false_eq_true, if_false]
      by_cases hmem : participant.id ∈ registry
      · rw [if_pos hmem]
        refine (scripted_find participant.id).bind (m := 1) ?_
        simp only [SessionRegistry.find, hmem, if_true]
        exact scripted_send rfl
      · rw [if_neg hmem]
        refine (scripted_find participant.id).bind (m := 0) ?_
        simp only [SessionRegistry.find, hmem, if_false]
        exact scripted_pure ()

theorem scripted_deliverEvents (event : ControlDispatcherEvent) :
    Scripted registry (IsCopy event) (deliveryPoints registry event) ()
      (deliverEvents [event]) := by
  have hevent : Scripted registry (IsCopy event) (deliveryPoints registry event) ()
      (deliverEvent event) :=
    (scripted_encode _).bind (scripted_forEach (scripted_deliverTo event) event.eventReceivers)
  exact hevent.bind (m := 0) (scripted_pure ())

/-! ## The replies -/

/-- The direct responses among the posts: `*_result` and `error` messages to the requester. -/
def directReplies (self : ParticipantId) (sent : List Posted) : List Posted :=
  sent.filter fun post => post.1 = self && ClientView.isReply post.2

theorem directReplies_append (self : ParticipantId) (first second : List Posted) :
    directReplies self (first ++ second) = directReplies self first ++ directReplies self second :=
  List.filter_append first second

theorem directReplies_response (self : ParticipantId) (response : ControlDispatcherResponse) :
    directReplies self [(self, ProtocolCodec.encodeResponse response)] =
      [(self, ProtocolCodec.encodeResponse response)] := by
  simp [directReplies, ClientView.isReply_encodeResponse]

theorem directReplies_copies {self : ParticipantId} {event : ControlDispatcherEvent}
    {posts : List Posted} (hcopies : ∀ sent ∈ posts, IsCopy event sent) :
    directReplies self posts = [] := by
  refine List.filter_eq_nil_iff.mpr ?_
  intro sent hmem
  have hcopy : sent.2 = ProtocolCodec.encodeEvent event := hcopies sent hmem
  simp [hcopy, ClientView.isReply_encodeEvent]

/-- A reply has two points; it is posted when both let it through. -/
theorem reply_apply (self : ParticipantId) (response : ControlDispatcherResponse)
    (world : World) :
    reply self response world =
      if world.faults.getD 0 false then (none, pass world [] 1)
      else if world.faults.getD 1 false then (none, pass world [] 2)
      else (some (), pass world [(self, ProtocolCodec.encodeResponse response)] 2) := by
  obtain ⟨store, registry, registered, sent, faults⟩ := world
  rcases faults with _ | ⟨first, _ | ⟨second, rest⟩⟩
  · simp [reply, encode, send, point, pass, Throwing.bind_apply]
  · cases first <;> simp [reply, encode, send, point, pass, Throwing.bind_apply]
  · cases first <;> cases second <;>
      simp [reply, encode, send, point, pass, Throwing.bind_apply]

/-- The action throws before it has replied, or returns with at most one reply. -/
def RepliesLast (self : ParticipantId) (registry : SessionRegistry)
    (action : Throwing World Unit) : Prop :=
  ∀ world : World, world.registry = registry → ∃ posts n,
    (action world = (none, pass world posts n) ∧ directReplies self posts = []) ∨
    (action world = (some (), pass world posts n) ∧ (directReplies self posts).length ≤ 1)

theorem repliesLast_reply (self : ParticipantId) (response : ControlDispatcherResponse) :
    RepliesLast self registry (reply self response) := by
  intro world hregistry
  rw [reply_apply]
  split_ifs with hfirst hsecond
  · exact ⟨[], 1, Or.inl ⟨rfl, rfl⟩⟩
  · exact ⟨[], 2, Or.inl ⟨rfl, rfl⟩⟩
  · refine ⟨_, 2, Or.inr ⟨rfl, ?_⟩⟩
    rw [directReplies_response]
    exact le_refl 1

/-- What posts no reply may come before. -/
theorem RepliesLast.after {self : ParticipantId} {n : Nat} {x : α} {action : Throwing World α}
    {next : α → Throwing World Unit}
    (hfirst : Scripted registry (fun sent => ClientView.isReply sent.2 = false) n x action)
    (hnext : RepliesLast self registry (next x)) :
    RepliesLast self registry (action >>= next) := by
  have hsilent {posts : List Posted}
      (hposts : ∀ sent ∈ posts, ClientView.isReply sent.2 = false) :
      directReplies self posts = [] := by
    refine List.filter_eq_nil_iff.mpr ?_
    intro sent hmem
    simp [hposts sent hmem]
  intro world hregistry
  obtain ⟨posts, hposts, ⟨k, -, -, hthrow⟩ | ⟨-, hreturn⟩⟩ := hfirst world hregistry
  · exact ⟨posts, k + 1, Or.inl ⟨Throwing.bind_of_none hthrow, hsilent hposts⟩⟩
  · have hregistry' : (pass world posts n).registry = registry := hregistry
    obtain ⟨later, m, hcases⟩ := hnext (pass world posts n) hregistry'
    have hreplies : directReplies self (posts ++ later) = directReplies self later := by
      rw [directReplies_append, hsilent hposts, List.nil_append]
    refine ⟨posts ++ later, n + m, ?_⟩
    rw [Throwing.bind_of_some hreturn, ← pass_pass, hreplies]
    exact hcases

theorem replyAndDeliver_of_no_events (self : ParticipantId)
    {response : ControlDispatcherResponse} :
    replyAndDeliver self ⟨response, []⟩ = reply self response := by
  funext world
  simp only [replyAndDeliver, deliverEvents, Throwing.forEach]
  rw [Throwing.bind_apply]
  generalize reply self response world = result
  obtain ⟨outcome, world'⟩ := result
  cases outcome <;> rfl

/-- Without events nothing comes after the reply. -/
theorem repliesLast_of_no_events (self : ParticipantId) (response : ControlDispatcherResponse) :
    RepliesLast self registry (responseHandler self ⟨response, []⟩) := by
  cases response with
  | error requestMeta payload =>
      simp only [responseHandler, replyAndDeliver_of_no_events]
      exact repliesLast_reply self _
  | success requestMeta payload =>
      cases payload with
      | signaling signaling =>
          -- The relay goes out before the reply, and does not count as one.
          refine RepliesLast.after (scripted_find signaling.targetParticipantId) ?_
          by_cases hmem : signaling.targetParticipantId ∈ registry
          · simp only [SessionRegistry.find, hmem, if_true, replyAndDeliver_of_no_events]
            refine RepliesLast.after (scripted_encode _) ?_
            refine RepliesLast.after (scripted_send ?_) (repliesLast_reply self _)
            exact ClientView.isReply_encodeSignalingEvent signaling
          · simp only [SessionRegistry.find, hmem, if_false]
            exact repliesLast_reply self _
      | createRoom response =>
          simp only [responseHandler, replyAndDeliver_of_no_events]
          exact repliesLast_reply self _
      | joinRoom response =>
          simp only [responseHandler, replyAndDeliver_of_no_events]
          exact repliesLast_reply self _
      | leaveRoom response =>
          simp only [responseHandler, replyAndDeliver_of_no_events]
          exact repliesLast_reply self _

/-- The catch of `Dispatch` after an action that threw before its reply, or returned with at most
one: still at most one reply. -/
theorem attempt_of_repliesLast {self : ParticipantId} {requestMeta : RequestMeta}
    {action : Throwing World Unit} {world : World} {posts : List Posted} {n : Nat}
    (hlast : (action world = (none, pass world posts n) ∧ directReplies self posts = []) ∨
      (action world = (some (), pass world posts n) ∧ (directReplies self posts).length ≤ 1))
    (hsent : world.sent = []) :
    (directReplies self (Throwing.attempt action (responseHandler self
      (ControlDispatcher.errorResult requestMeta .internalError)) world).2.sent).length ≤ 1 := by
  rcases hlast with ⟨hthrow, hnone⟩ | ⟨hreturn, hone⟩
  · rw [Throwing.attempt_of_none hthrow]
    have hagain : RepliesLast self (pass world posts n).registry (responseHandler self
        (ControlDispatcher.errorResult requestMeta .internalError)) :=
      repliesLast_of_no_events self _
    obtain ⟨later, m, ⟨hthrow', hnone'⟩ | ⟨hreturn', hone'⟩⟩ := hagain (pass world posts n) rfl
    · rw [hthrow']
      simp [directReplies_append, hsent, hnone, hnone']
    · rw [hreturn']
      simpa [directReplies_append, hsent, hnone] using hone'
  · rw [Throwing.attempt_of_some hreturn]
    simpa [hsent] using hone

/-- The event that an accepted join or leave announces; other requests announce nothing. -/
def announced (rooms : Rooms) (request : ControlDispatcherRequest) :
    Option ControlDispatcherEvent :=
  match request.requestMeta.type, request.command with
  | .joinRoom, .joinRoom command =>
      match rooms.lookup command.roomCode with
      | none => none
      | some room =>
          if room.Admits command.participant command.passwordHash then
            some (.joinedRoom command.roomCode command.participant
              (room.participants ++ [command.participant]))
          else none
  | .leaveRoom, .leaveRoom command =>
      match rooms.lookup command.roomCode with
      | none => none
      | some room =>
          if room.hasParticipant command.participantId then
            some (.leftRoom command.roomCode command.participantId
              (room.without command.participantId).participants)
          else none
  | _, _ => none

/-- The first planned fault falls on one of the `n` points after the reply, and the next two
points, those of another reply, let it through. -/
def FaultAfterReply (faults : List Bool) (n : Nat) : Prop :=
  ∃ k < n, FirstAt faults (2 + k) ∧ faults.getD (2 + k + 1) false = false ∧
    faults.getD (2 + k + 2) false = false

/-- What announces an event is answered by the plain handler, with that one event. -/
theorem serve_of_announced (draws : Nat → Draw) {rooms : Rooms}
    {request : ControlDispatcherRequest} {event : ControlDispatcherEvent}
    (hevent : announced rooms request = some event) :
    Fits request ∧ ∃ response,
      (serve draws rooms request.requestMeta request.command).1 = ⟨response, [event]⟩ ∧
      ∀ self, responseHandler self ⟨response, [event]⟩ =
        replyAndDeliver self ⟨response, [event]⟩ := by
  obtain ⟨⟨type, requestId, signalingType⟩, command⟩ := request
  cases type with
  | joinRoom =>
      cases command with
      | joinRoom command =>
          simp only [announced] at hevent
          split at hevent
          · cases hevent
          · next room hstored =>
              split_ifs at hevent with hadmits
              obtain rfl := Option.some.inj hevent
              refine ⟨trivial, .success ⟨.joinRoom, requestId, signalingType⟩ (.joinRoom
                ⟨command.roomCode, command.participant,
                  room.participants ++ [command.participant]⟩), ?_, fun self => rfl⟩
              simp only [serve, hstored, joinSlot_of_admits hadmits, joinDispatch]
      | _ => cases hevent
  | leaveRoom =>
      cases command with
      | leaveRoom command =>
          simp only [announced] at hevent
          split at hevent
          · cases hevent
          · next room hstored =>
              split_ifs at hevent with hmember
              obtain rfl := Option.some.inj hevent
              refine ⟨trivial, .success ⟨.leaveRoom, requestId, signalingType⟩
                (.leaveRoom ⟨command.roomCode⟩), ?_, fun self => rfl⟩
              simp only [serve, hstored, leaveSlot_of_member hmember, leaveDispatch]
      | _ => cases hevent
  | createRoom => cases command <;> cases hevent
  | signaling => cases command <;> cases hevent

/-- What announces nothing is answered without events. -/
theorem serve_of_not_announced (draws : Nat → Draw) {rooms : Rooms}
    {request : ControlDispatcherRequest} (hfits : Fits request)
    (hevent : announced rooms request = none) :
    ∃ response, (serve draws rooms request.requestMeta request.command).1 = ⟨response, []⟩ := by
  obtain ⟨⟨type, requestId, signalingType⟩, command⟩ := request
  cases command with
  | createRoom command =>
      simp only [serve]
      split <;> exact ⟨_, rfl⟩
  | signaling command =>
      simp only [serve]
      split <;> exact ⟨_, rfl⟩
  | joinRoom command =>
      cases type with
      | joinRoom =>
          rcases joinSlot_cases command.roomCode command.participant command.passwordHash
            (rooms.lookup command.roomCode) with ⟨room, hstored, hadmits⟩ | ⟨error, hjoin⟩
          · -- An admitted join would have been announced.
            simp [announced, hstored, hadmits] at hevent
          · simp only [serve, hjoin, joinDispatch]
            exact ⟨_, rfl⟩
      | _ => exact hfits.elim
  | leaveRoom command =>
      cases type with
      | leaveRoom =>
          rcases leaveSlot_cases command.roomCode command.participantId
            (rooms.lookup command.roomCode) with ⟨room, hstored, hmember⟩ | ⟨-, error, -, hleave⟩
          · -- So would the leave of a member.
            simp [announced, hstored, hmember] at hevent
          · simp only [serve, hleave, leaveDispatch]
            exact ⟨_, rfl⟩
      | _ => exact hfits.elim

/-- The handlers of a dispatch, once the service has answered. -/
theorem dispatchRequest_of_result {draws : Nat → Draw} {self : ParticipantId}
    {request : ControlDispatcherRequest} {world served : World} {result : ControlDispatcherResult}
    (hresult : onStore (ControlDispatcher.resultOf draws request) world = (some result, served)) :
    dispatchRequest draws self request world =
      Throwing.attempt (responseHandler self result) (responseHandler self
        (ControlDispatcher.errorResult request.requestMeta .internalError)) served := by
  have hbind : (onStore (ControlDispatcher.resultOf draws request) >>= responseHandler self) world =
      responseHandler self result served := Throwing.bind_of_some hresult
  change Throwing.attempt _ _ world = _
  rw [Throwing.attempt, Throwing.attempt, hbind]

/-- A request whose command does not fit its type throws before the handler is called. -/
theorem resultOf_of_misfit (draws : Nat → Draw) {request : ControlDispatcherRequest}
    (hmisfit : ¬ Fits request) (store : Store) :
    ControlDispatcher.resultOf draws request store = (none, store) := by
  obtain ⟨⟨type, requestId, signalingType⟩, command⟩ := request
  cases type <;> cases command <;> first | rfl | exact absurd trivial hmisfit

/-- The second handler call, after a delivery that threw, replies when its two points let it. -/
theorem second_reply (self : ParticipantId) (requestMeta : RequestMeta) (world : World) :
    directReplies self (responseHandler self
        (ControlDispatcher.errorResult requestMeta .internalError) world).2.sent =
      directReplies self world.sent ++
        if world.faults.getD 0 false = false ∧ world.faults.getD 1 false = false then
          [(self, ProtocolCodec.encodeResponse (.error requestMeta .internalError))]
        else [] := by
  have hhandler : responseHandler self
      (ControlDispatcher.errorResult requestMeta .internalError) =
        reply self (.error requestMeta .internalError) := replyAndDeliver_of_no_events self
  rw [hhandler, reply_apply]
  cases hfirst : world.faults.getD 0 false with
  | true => simp
  | false =>
      cases hsecond : world.faults.getD 1 false with
      | true => simp
      | false => simp [directReplies_append, directReplies_response]

/-- The two handler calls for a result with an event: the number of replies. -/
theorem replies_of_event (self : ParticipantId) {response : ControlDispatcherResponse}
    {event : ControlDispatcherEvent} {requestMeta : RequestMeta} {world : World}
    (hsent : world.sent = []) :
    (directReplies self (Throwing.attempt (replyAndDeliver self ⟨response, [event]⟩)
      (responseHandler self (ControlDispatcher.errorResult requestMeta .internalError))
        world).2.sent).length ≤ 1 ↔
      ¬ FaultAfterReply world.faults (deliveryPoints world.registry event) := by
  have hreply := reply_apply self response world
  by_cases hclear : Clear world.faults 2
  · -- The reply is posted; what happens next depends on the points of the delivery.
    have hzero := hclear 0 (by omega)
    have hone := hclear 1 (by omega)
    simp only [hzero, hone, Bool.false_eq_true, if_false] at hreply
    obtain ⟨copies, hcopies, hcases⟩ := scripted_deliverEvents event
      (pass world [(self, ProtocolCodec.encodeResponse response)] 2) rfl
    have hsilent : directReplies self copies = [] := directReplies_copies hcopies
    have hfirst : directReplies self ([(self, ProtocolCodec.encodeResponse response)] ++ copies) =
        [(self, ProtocolCodec.encodeResponse response)] := by
      rw [directReplies_append, directReplies_response, hsilent, List.append_nil]
    rcases hcases with ⟨k, hk, hfault, hthrow⟩ | ⟨hpassed, hreturn⟩
    · rw [pass_pass] at hthrow
      have hfault' : FirstAt world.faults (2 + k) := firstAt_add hclear hfault
      have hthrow' : replyAndDeliver self ⟨response, [event]⟩ world = (none, _) :=
        (Throwing.bind_of_some hreply).trans hthrow
      rw [Throwing.attempt_of_none hthrow', second_reply]
      simp only [pass_sent, hsent, List.nil_append, hfirst, pass_faults, getD_drop]
      have hshift : 2 + (k + 1) + 0 = 2 + k + 1 ∧ 2 + (k + 1) + 1 = 2 + k + 2 := by omega
      rw [hshift.1, hshift.2]
      split_ifs with hquiet
      · -- Both points of the second reply let it through.
        have hsecond : FaultAfterReply world.faults (deliveryPoints world.registry event) :=
          ⟨k, hk, hfault', hquiet⟩
        simp [hsecond]
      · have hsecond : ¬ FaultAfterReply world.faults (deliveryPoints world.registry event) := by
          rintro ⟨other, -, hother, hpoints⟩
          have hsame : other = k := by
            have hindex := hother.unique hfault'
            omega
          exact hquiet (hsame ▸ hpoints)
        simp [hsecond]
    · rw [pass_pass] at hreturn
      have hreturn' : replyAndDeliver self ⟨response, [event]⟩ world = (some (), _) :=
        (Throwing.bind_of_some hreply).trans hreturn
      have hnone : ¬ FaultAfterReply world.faults (deliveryPoints world.registry event) := by
        rintro ⟨k, hk, hfault, -⟩
        have hpoint := clear_add hclear hpassed (2 + k) (by rw [pass_registry]; omega)
        rw [hfault.2] at hpoint
        cases hpoint
      rw [Throwing.attempt_of_some hreturn']
      simp only [pass_sent, hsent, List.nil_append, hfirst, hnone, not_false_eq_true, iff_true]
      exact le_refl 1
  · -- The reply itself throws: nothing was posted before the second handler call.
    have hnone : ¬ FaultAfterReply world.faults (deliveryPoints world.registry event) := by
      rintro ⟨k, -, hfault, -⟩
      refine hclear fun i hi => hfault.1 i ?_
      omega
    have hthrow : ∃ n, reply self response world = (none, pass world [] n) := by
      rw [hreply]
      split_ifs with hfirst hsecond
      · exact ⟨1, rfl⟩
      · exact ⟨2, rfl⟩
      · refine absurd ?_ hclear
        intro i hi
        have hi' : i = 0 ∨ i = 1 := by omega
        rcases hi' with rfl | rfl
        · exact Bool.eq_false_iff.mpr hfirst
        · exact Bool.eq_false_iff.mpr hsecond
    obtain ⟨n, hthrow⟩ := hthrow
    have hearly : replyAndDeliver self ⟨response, [event]⟩ world = (none, pass world [] n) :=
      Throwing.bind_of_none hthrow
    simp only [hnone, not_false_eq_true, iff_true]
    exact attempt_of_repliesLast (Or.inl ⟨hearly, rfl⟩) hsent

/-- **When a request gets at most one direct response.**  For every table, registry, request and
plan of faults: the requester is sent at most one reply exactly when the first fault does not fall
on the delivery of the announced event with both points of the error reply let through. -/
theorem at_most_one_reply_iff (rooms : Rooms) (registry : SessionRegistry)
    (registered : Finset ParticipantId) (faults : List Bool) (draws : Nat → Draw)
    (self : ParticipantId) (request : ControlDispatcherRequest) :
    (directReplies self (dispatchRequest draws self request
      ⟨Store.quiet rooms, registry, registered, [], faults⟩).2.sent).length ≤ 1 ↔
      ¬ ∃ event, announced rooms request = some event ∧
        FaultAfterReply faults (deliveryPoints registry event) := by
  by_cases hfits : Fits request
  · have hresult : onStore (ControlDispatcher.resultOf draws request)
        ⟨Store.quiet rooms, registry, registered, [], faults⟩ =
        (some (serve draws rooms request.requestMeta request.command).1,
          ⟨Store.quiet (serve draws rooms request.requestMeta request.command).2, registry,
            registered, [], faults⟩) := by
      simp only [onStore, resultOf_quiet draws rooms request hfits]
    rw [dispatchRequest_of_result hresult]
    cases hevent : announced rooms request with
    | some event =>
        obtain ⟨-, response, hserve, hplain⟩ := serve_of_announced draws hevent
        rw [hserve, hplain, replies_of_event self rfl]
        simp
    | none =>
        obtain ⟨response, hserve⟩ := serve_of_not_announced draws hfits hevent
        rw [hserve]
        have hlast : RepliesLast self registry (responseHandler self ⟨response, []⟩) :=
          repliesLast_of_no_events self response
        obtain ⟨posts, n, hcases⟩ := hlast ⟨Store.quiet
          (serve draws rooms request.requestMeta request.command).2, registry, registered, [],
            faults⟩ rfl
        simp only [reduceCtorEq, false_and, exists_false, not_false_eq_true, iff_true]
        exact attempt_of_repliesLast hcases rfl
  · have hthrow : onStore (ControlDispatcher.resultOf draws request)
        ⟨Store.quiet rooms, registry, registered, [], faults⟩ =
        (none, ⟨Store.quiet rooms, registry, registered, [], faults⟩) := by
      simp only [onStore, resultOf_of_misfit draws hfits]
    -- `std::get` throws before the handler is called, and the catch replies once.
    have hnone : announced rooms request = none := by
      cases hevent : announced rooms request with
      | none => rfl
      | some event => exact absurd (serve_of_announced draws hevent).1 hfits
    have hcatch : dispatchRequest draws self request
        ⟨Store.quiet rooms, registry, registered, [], faults⟩ = responseHandler self
          (ControlDispatcher.errorResult request.requestMeta .internalError)
          ⟨Store.quiet rooms, registry, registered, [], faults⟩ :=
      Throwing.attempt_of_none (Throwing.bind_of_none hthrow)
    rw [hcatch, second_reply]
    simp only [hnone, reduceCtorEq, false_and, exists_false, not_false_eq_true, iff_true]
    split_ifs <;> simp [directReplies]

/-- A join whose event cannot be posted to the other member of the room: the requester is told
`ok: true` and then `ok: false`. -/
theorem join_answered_twice :
    let rooms : Rooms := (∅ : Rooms).insert "000000" ⟨"000000", none, [⟨"p_1", "Ann"⟩]⟩
    let request : ControlDispatcherRequest :=
      ⟨⟨.joinRoom, some "7", none⟩, .joinRoom ⟨"000000", ⟨"p_2", "Bob"⟩, none⟩⟩
    let sent := (dispatchRequest (fun _ => 0) "p_2" request
      ⟨Store.quiet rooms, {"p_1", "p_2"}, {"p_1", "p_2"}, [],
        [false, false, false, false, true]⟩).2.sent
    ¬ (directReplies "p_2" sent).length ≤ 1 ∧
      sent.map (fun post => (post.1, ClientView.okFlag post.2)) =
        [("p_2", some true), ("p_2", some false)] := by
  decide

end Session
end Net
end BuzzWeb
