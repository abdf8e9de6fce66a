import BuzzWeb.Net.RosterReplay

/-!
# Rooms do not influence each other

Take a run and a room code, and delete every message that is not addressed to the room; connects
and disconnects stay, and the remaining creates draw the code first.  The reduced run can be taken,
it ends with the same room under the code, and everything that the room's messages and the
disconnects made the server send on behalf of the room is the same, in the same order.

The proof is an unwinding: the two runs stay related by `SameFor`, which says that they agree on
the slot of the code and on the sessions.
-/

namespace BuzzWeb
namespace Net

open Domain App ClientView

namespace Server

variable {parse : ByteArray → ParseResult}

/-- The room that a frame is addressed to: the one that a join, a leave or a signaling message
names, or the one that a create is given.  A create that finds no code and what does not decode
are addressed to no room. -/
def addressee (parse : ByteArray → ParseResult) (server : Server) (session : ParticipantId)
    (frame : Frame) (draws : Nat → Draw) : Option RoomCode :=
  match Session.requestOf parse session frame with
  | .error _ => none
  | .ok request =>
      match request.command with
      | .createRoom _ => freshCode server.rooms draws RoomService.maxAttempts 0
      | .joinRoom command => some command.roomCode
      | .leaveRoom command => some command.roomCode
      | .signaling command => some command.roomCode

/-- Is it a `participant_left` event about the room? -/
def isLeftOf (code : RoomCode) (post : Posted) : Bool :=
  match observe post.2 with
  | some (.left roomCode _ _) => roomCode = code
  | _ => false

/-- What a step sends on behalf of a room: everything a message addressed to it causes, and the
`participant_left` events about it that a disconnect causes. -/
def sentFor (parse : ByteArray → ParseResult) (code : RoomCode)
    (st : EventMachine.Step Server Event Posted) : List Posted :=
  match st.event with
  | .connect _ => []
  | .frame session frame draws =>
      if addressee parse st.pre session frame draws = some code then st.output else []
  | .disconnect _ _ => st.output.filter (isLeftOf code)

/-- The events of a history reduced to a room.  Walk orders are those of the reduced table, so
they may differ; so may the draws, as long as a create draws the code first. -/
inductive Reduced (parse : ByteArray → ParseResult) (code : RoomCode) :
    List (EventMachine.Step Server Event Posted) → List Event → Prop
  | nil : Reduced parse code [] []
  | connect {history : List (EventMachine.Step Server Event Posted)} {events : List Event}
      {st : EventMachine.Step Server Event Posted} {session : ParticipantId}
      (hevent : st.event = .connect session) (hrest : Reduced parse code history events) :
      Reduced parse code (history ++ [st]) (events ++ [.connect session])
  | disconnect {history : List (EventMachine.Step Server Event Posted)} {events : List Event}
      {st : EventMachine.Step Server Event Posted} {session : ParticipantId} {order : HashOrder}
      (order' : HashOrder) (hevent : st.event = .disconnect session order)
      (hrest : Reduced parse code history events) :
      Reduced parse code (history ++ [st]) (events ++ [.disconnect session order'])
  | kept {history : List (EventMachine.Step Server Event Posted)} {events : List Event}
      {st : EventMachine.Step Server Event Posted} {session : ParticipantId} {frame : Frame}
      {draws : Nat → Draw} (draws' : Nat → Draw) (hevent : st.event = .frame session frame draws)
      (haddressed : addressee parse st.pre session frame draws = some code)
      (hdraw : generateRoomCode (draws' 0) = code ∨ ∀ requestMeta command,
        Session.requestOf parse session frame ≠ .ok ⟨requestMeta, .createRoom command⟩)
      (hrest : Reduced parse code history events) :
      Reduced parse code (history ++ [st]) (events ++ [.frame session frame draws'])
  | deleted {history : List (EventMachine.Step Server Event Posted)} {events : List Event}
      {st : EventMachine.Step Server Event Posted} {session : ParticipantId} {frame : Frame}
      {draws : Nat → Draw} (hevent : st.event = .frame session frame draws)
      (hother : addressee parse st.pre session frame draws ≠ some code)
      (hrest : Reduced parse code history events) :
      Reduced parse code (history ++ [st]) events

/-- Two servers that agree on a room and on the sessions. -/
structure SameFor (code : RoomCode) (server other : Server) : Prop where
  slot : other.rooms.lookup code = server.rooms.lookup code
  registry : other.registry = server.registry
  registered : other.registered = server.registered
  accepted : other.accepted = server.accepted

/-! ## One step of each kind -/

/-- A create whose first draw is free is given that code. -/
theorem freshCode_of_first_draw {rooms : Rooms} {draws : Nat → Draw} {code : RoomCode}
    (hfree : rooms.lookup code = none) (hdraw : generateRoomCode (draws 0) = code) :
    freshCode rooms draws RoomService.maxAttempts 0 = some code := by
  subst hdraw
  refine freshCode_of_first (le_refl 0) (by decide) hfree ?_
  intro m _ hm
  exact absurd hm (Nat.not_lt_zero m)

/-- A request addressed to a room reads and writes the slot of the room only. -/
theorem serve_sameFor {draws draws' : Nat → Draw} {rooms rooms' : Rooms}
    (requestMeta : RequestMeta) {command : Command} {code : RoomCode}
    (hslot : rooms'.lookup code = rooms.lookup code)
    (haddressed : (match command with
      | .createRoom _ => freshCode rooms draws RoomService.maxAttempts 0
      | .joinRoom command => some command.roomCode
      | .leaveRoom command => some command.roomCode
      | .signaling command => some command.roomCode) = some code)
    (hdraw : generateRoomCode (draws' 0) = code ∨ ∀ create, command ≠ .createRoom create) :
    (serve draws' rooms' requestMeta command).1 = (serve draws rooms requestMeta command).1 ∧
      (serve draws' rooms' requestMeta command).2.lookup code =
        (serve draws rooms requestMeta command).2.lookup code := by
  cases command with
  | createRoom command =>
      have hfirst : generateRoomCode (draws' 0) = code := by
        rcases hdraw with hfirst | hnot
        · exact hfirst
        · exact absurd rfl (hnot command)
      have hfresh : freshCode rooms draws RoomService.maxAttempts 0 = some code := haddressed
      have hfree : rooms'.lookup code = none := by
        rw [hslot]
        exact (freshCode_spec hfresh).1
      simp only [serve, hfresh, freshCode_of_first_draw hfree hfirst]
      exact ⟨trivial, by rw [Rooms.lookup_insert_eq, Rooms.lookup_insert_eq, if_pos rfl,
        if_pos rfl]⟩
  | joinRoom command =>
      obtain rfl : command.roomCode = code := Option.some.inj haddressed
      simp only [serve, hslot, Rooms.lookup_setSlot_self, and_self]
  | leaveRoom command =>
      obtain rfl : command.roomCode = code := Option.some.inj haddressed
      simp only [serve, hslot, Rooms.lookup_setSlot_self, and_self]
  | signaling command =>
      obtain rfl : command.roomCode = code := Option.some.inj haddressed
      have hmembers (participantId : ParticipantId) :
          rooms'.participantInRoom participantId command.roomCode =
            rooms.participantInRoom participantId command.roomCode := by
        simp only [Rooms.participantInRoom, hslot]
      simp only [serve, hmembers]
      split_ifs with hboth
      · exact ⟨rfl, hslot⟩
      · exact ⟨rfl, hslot⟩

/-- A message addressed to the room, handled by both servers. -/
theorem SameFor.kept {code : RoomCode} {server server' other : Server} {session : ParticipantId}
    {frame : Frame} {draws draws' : Nat → Draw} {posts : List Posted}
    (hsame : SameFor code server other)
    (hstep : (machine parse).step server (.frame session frame draws) = some (server', posts))
    (haddressed : addressee parse server session frame draws = some code)
    (hdraw : generateRoomCode (draws' 0) = code ∨ ∀ requestMeta command,
      Session.requestOf parse session frame ≠ .ok ⟨requestMeta, .createRoom command⟩) :
    ∃ other', (machine parse).step other (.frame session frame draws') = some (other', posts) ∧
      SameFor code server' other' ∧ addressee parse other session frame draws' = some code := by
  obtain ⟨haccepted, hrun⟩ := run_of_step_frame hstep
  rw [run_onFrame] at hrun
  unfold addressee at haddressed
  cases hrequest : Session.requestOf parse session frame with
  | error answer =>
      rw [hrequest] at haddressed
      cases haddressed
  | ok request =>
      rw [hrequest] at haddressed hrun
      obtain ⟨rfl, rfl⟩ := Prod.mk.inj hrun
      have hdraw' : generateRoomCode (draws' 0) = code ∨
          ∀ create, request.command ≠ .createRoom create := by
        rcases hdraw with hfirst | hnot
        · exact Or.inl hfirst
        · refine Or.inr fun create hcreate => hnot request.requestMeta create ?_
          rw [hrequest, ← hcreate]
      -- Both servers decode the same request, and serve it from the same slot.
      obtain ⟨hresult, hslot⟩ := serve_sameFor request.requestMeta hsame.slot haddressed hdraw'
      refine ⟨{ other with
        rooms := (serve draws' other.rooms request.requestMeta request.command).2 }, ?_,
        ⟨hslot, hsame.registry, hsame.registered, hsame.accepted⟩, ?_⟩
      · simp only [machine, hsame.accepted, haccepted, if_true, run_onFrame, hrequest,
          hsame.registry, hresult]
      · unfold addressee
        rw [hrequest]
        obtain ⟨requestMeta, command⟩ := request
        cases command with
        | createRoom command =>
            have hfirst : generateRoomCode (draws' 0) = code := by
              rcases hdraw' with hfirst | hnot
              · exact hfirst
              · exact absurd rfl (hnot command)
            have hfresh : freshCode server.rooms draws RoomService.maxAttempts 0 = some code :=
              haddressed
            refine freshCode_of_first_draw ?_ hfirst
            rw [hsame.slot]
            exact (freshCode_spec hfresh).1
        | joinRoom command => exact haddressed
        | leaveRoom command => exact haddressed
        | signaling command => exact haddressed

/-- A message addressed elsewhere does not touch what the servers agree on. -/
theorem SameFor.deleted {code : RoomCode} {server server' other : Server}
    {session : ParticipantId} {frame : Frame} {draws : Nat → Draw} {posts : List Posted}
    (hsame : SameFor code server other)
    (hstep : (machine parse).step server (.frame session frame draws) = some (server', posts))
    (hother : addressee parse server session frame draws ≠ some code) :
    SameFor code server' other := by
  have hslot : server'.rooms.lookup code = server.rooms.lookup code := by
    -- Whatever changes the slot is addressed to the room.
    have heffect := slotEffect_of_step hstep code
    generalize server.rooms.lookup code = before at heffect ⊢
    generalize server'.rooms.lookup code = after at heffect ⊢
    cases heffect with
    | same => rfl
    | created hevent haccepted hrequest hfresh =>
        obtain ⟨rfl, rfl, rfl⟩ := Event.frame.inj hevent
        exact absurd (by rw [addressee, hrequest]; exact hfresh) hother
    | joined hevent haccepted hrequest hadmits =>
        obtain ⟨rfl, rfl, rfl⟩ := Event.frame.inj hevent
        exact absurd (by rw [addressee, hrequest]) hother
    | left hleaves hmember =>
        cases hleaves with
        | request hrequest => exact absurd (by rw [addressee, hrequest]) hother
  obtain ⟨hregistry, hregistered, haccepted⟩ :=
    (frameOutcome_of_run (run_of_step_frame hstep).2).sessions_eq
  exact ⟨hsame.slot.trans hslot.symm, hsame.registry.trans hregistry.symm,
    hsame.registered.trans hregistered.symm, hsame.accepted.trans haccepted.symm⟩

/-- The `participant_left` events about the room that a clean-up causes depend on the room and the
registry only. -/
theorem filter_dropPosts (server : Server) (session : ParticipantId) (order : HashOrder)
    (code : RoomCode) :
    (server.dropPosts session order).filter (isLeftOf code) =
      ((leftEvent session code (server.rooms.lookup code)).toList.flatMap
        (Session.eventPosts (server.registry.remove session))).filter (isLeftOf code) := by
  have hother : ∀ event : ControlDispatcherEvent, event.roomCode ≠ code →
      (Session.eventPosts (server.registry.remove session) event).filterMap
        (Option.guard (isLeftOf code)) = [] := by
    intro event hroom
    refine List.filterMap_eq_nil_iff.mpr ?_
    rintro ⟨recipient, message⟩ hmem
    obtain ⟨rfl, -, -⟩ := mem_eventPosts.mp hmem
    have hnot : isLeftOf code (recipient, ProtocolCodec.encodeEvent event) = false := by
      cases event with
      | joinedRoom roomCode participant receivers => simp [isLeftOf, observe_joinedRoom]
      | leftRoom roomCode participantId receivers =>
          simpa [isLeftOf, observe_leftRoom, ControlDispatcherEvent.roomCode] using hroom
    simp [Option.guard, hnot]
  have hpick := pick_dropPosts server session order (Option.guard (isLeftOf code)) hother
  simpa only [List.filterMap_eq_filter] using hpick

/-- A disconnect, handled by both servers, in whatever order each walks its table. -/
theorem SameFor.disconnect {code : RoomCode} {server server' other : Server}
    {session : ParticipantId} {order : HashOrder} {posts : List Posted}
    (hsame : SameFor code server other) (order' : HashOrder)
    (hstep : (machine parse).step server (.disconnect session order) = some (server', posts)) :
    ∃ other' posts', (machine parse).step other (.disconnect session order') =
        some (other', posts') ∧ SameFor code server' other' ∧
      posts'.filter (isLeftOf code) = posts.filter (isLeftOf code) := by
  simp only [machine, run_removeFromRegistry] at hstep ⊢
  rw [hsame.registered]
  split_ifs at hstep with hregistered
  · obtain ⟨rfl, rfl⟩ := Prod.mk.inj (Option.some.inj hstep)
    rw [if_pos hregistered]
    refine ⟨_, _, rfl, ⟨?_, ?_, ?_, hsame.accepted⟩, ?_⟩
    · have hserver := lookup_disconnectRooms order session server.rooms code
      have hother := lookup_disconnectRooms order' session other.rooms code
      rw [hsame.slot] at hother
      exact hother.trans hserver.symm
    · exact congrArg (fun registry : SessionRegistry => registry.remove session) hsame.registry
    · exact congrArg (fun ids : Finset ParticipantId => ids.erase session) hsame.registered
    · rw [filter_dropPosts, filter_dropPosts, hsame.slot, hsame.registry]
  · obtain ⟨rfl, rfl⟩ := Prod.mk.inj (Option.some.inj hstep)
    rw [if_neg hregistered]
    exact ⟨other, [], rfl, hsame, rfl⟩

/-- A connect, handled by both servers. -/
theorem SameFor.connect {code : RoomCode} {server server' other : Server}
    {session : ParticipantId} {posts : List Posted} (hsame : SameFor code server other)
    (hstep : (machine parse).step server (.connect session) = some (server', posts)) :
    (machine parse).step other (.connect session) = some (other.connect session, []) ∧
      SameFor code server' (other.connect session) := by
  simp only [machine] at hstep ⊢
  rw [hsame.accepted]
  split_ifs at hstep with hold
  obtain ⟨rfl, rfl⟩ := Prod.mk.inj (Option.some.inj hstep)
  rw [if_neg hold]
  refine ⟨rfl, hsame.slot, ?_, ?_, ?_⟩
  · exact congrArg (insert session) hsame.registry
  · exact congrArg (insert session) hsame.registered
  · exact congrArg (insert session) hsame.accepted

/-! ## The reduced run -/

/-- Every history has a reduction. -/
theorem exists_reduced (code : RoomCode)
    (history : List (EventMachine.Step Server Event Posted)) :
    ∃ events, Reduced parse code history events := by
  induction history using List.reverseRecOn with
  | nil => exact ⟨[], .nil⟩
  | append_singleton history st ih =>
      obtain ⟨events, hrest⟩ := ih
      cases hevent : st.event with
      | connect session => exact ⟨_, .connect hevent hrest⟩
      | disconnect session order => exact ⟨_, .disconnect order hevent hrest⟩
      | frame session frame draws =>
          by_cases haddressed : addressee parse st.pre session frame draws = some code
          · -- A create was given the code in some attempt; let it be drawn first.
            by_cases hcreate : ∃ requestMeta command,
                Session.requestOf parse session frame = .ok ⟨requestMeta, .createRoom command⟩
            · obtain ⟨requestMeta, command, hrequest⟩ := hcreate
              have hfresh : freshCode st.pre.rooms draws RoomService.maxAttempts 0 =
                  some code := by
                rw [addressee, hrequest] at haddressed
                exact haddressed
              obtain ⟨-, attempt, -, -, rfl⟩ := freshCode_spec hfresh
              exact ⟨_, .kept (fun _ => draws attempt) hevent haddressed (Or.inl rfl) hrest⟩
            · refine ⟨_, .kept draws hevent haddressed (Or.inr ?_) hrest⟩
              intro requestMeta command hrequest
              exact hcreate ⟨requestMeta, command, hrequest⟩
          · exact ⟨_, .deleted hevent haddressed hrest⟩

/-- The unwinding: the reduced run goes along with the full one. -/
theorem reduced_run {code : RoomCode} {history : List (EventMachine.Step Server Event Posted)}
    {events : List Event} (hreduced : Reduced parse code history events) {server : Server}
    (hrun : (machine parse).Run history server) :
    ∃ history' other, (machine parse).Run history' other ∧
      history'.map EventMachine.Step.event = events ∧ SameFor code server other ∧
      history'.flatMap (sentFor parse code) = history.flatMap (sentFor parse code) := by
  -- Along the reduction: what is kept is taken by both servers, what is deleted by one only.
  induction hreduced generalizing server with
  | nil =>
      generalize hnone : ([] : List (EventMachine.Step Server Event Posted)) = none at hrun
      cases hrun with
      | nil => exact ⟨[], _, .nil, rfl, ⟨rfl, rfl, rfl, rfl⟩, rfl⟩
      | snoc hprev hlast => simp at hnone
  | connect hevent hrest ih =>
      rename_i history events st session
      obtain ⟨hprev, hstep, rfl⟩ := hrun.last
      obtain ⟨history', other, hrun', hevents, hsame, hsent⟩ := ih hprev
      rw [hevent] at hstep
      obtain ⟨hstep', hsame'⟩ := hsame.connect hstep
      refine ⟨_, _, hrun'.snoc hstep', ?_, hsame', ?_⟩
      · rw [List.map_append, hevents]
        rfl
      · simp [hsent, sentFor, hevent]
  | disconnect order' hevent hrest ih =>
      rename_i history events st session order
      obtain ⟨hprev, hstep, rfl⟩ := hrun.last
      obtain ⟨history', other, hrun', hevents, hsame, hsent⟩ := ih hprev
      rw [hevent] at hstep
      obtain ⟨other', posts', hstep', hsame', hposts⟩ := hsame.disconnect order' hstep
      refine ⟨_, _, hrun'.snoc hstep', ?_, hsame', ?_⟩
      · rw [List.map_append, hevents]
        rfl
      · simp [hsent, sentFor, hevent, hposts]
  | kept draws' hevent haddressed hdraw hrest ih =>
      rename_i history events st session frame draws
      obtain ⟨hprev, hstep, rfl⟩ := hrun.last
      obtain ⟨history', other, hrun', hevents, hsame, hsent⟩ := ih hprev
      rw [hevent] at hstep
      obtain ⟨other', hstep', hsame', haddressed'⟩ := hsame.kept hstep haddressed hdraw
      refine ⟨_, _, hrun'.snoc hstep', ?_, hsame', ?_⟩
      · rw [List.map_append, hevents]
        rfl
      · simp [hsent, sentFor, hevent, haddressed, haddressed']
  | deleted hevent hother hrest ih =>
      rename_i history events st session frame draws
      obtain ⟨hprev, hstep, rfl⟩ := hrun.last
      obtain ⟨history', other, hrun', hevents, hsame, hsent⟩ := ih hprev
      rw [hevent] at hstep
      refine ⟨history', other, hrun', hevents, hsame.deleted hstep hother, ?_⟩
      simp [hsent, sentFor, hevent, hother]

/-- **Rooms are isolated.**  For every run and every code: the run reduced to the code can be
taken; it ends with the same room under the code, or the same absence of one; and what is sent on
behalf of the room, to whom and in which order, is the same in both runs. -/
theorem room_isolation {history : List (EventMachine.Step Server Event Posted)} {server : Server}
    (hrun : (machine parse).Run history server) {code : RoomCode} {events : List Event}
    (hreduced : Reduced parse code history events) :
    ∃ history' server', (machine parse).Run history' server' ∧
      history'.map EventMachine.Step.event = events ∧
      server'.rooms.lookup code = server.rooms.lookup code ∧
      history'.flatMap (sentFor parse code) = history.flatMap (sentFor parse code) := by
  obtain ⟨history', other, hrun', hevents, hsame, hsent⟩ := reduced_run hreduced hrun
  exact ⟨history', other, hrun', hevents, hsame.slot, hsent⟩

/-- Ann creates the room `000000`, Bob finds the code taken and creates another room, Bob joins
Ann's room and Ann goes.  Without Bob's create Ann's room ends the same. -/
theorem isolation_from_second_room :
    ∃ history server history' server', (machine sampleParse).exec [.connect "p_1",
        .connect "p_2", sends "p_1" createText,
        .frame "p_2" (.text createText.toUTF8) (fun n => if n = 0 then 0 else 1),
        sends "p_2" joinText, .disconnect "p_1" .ascending] = some (history, server) ∧
      (machine sampleParse).Run history' server' ∧
      history'.map EventMachine.Step.event = [.connect "p_1", .connect "p_2",
        sends "p_1" createText, sends "p_2" joinText, .disconnect "p_1" .ascending] ∧
      server'.rooms.lookup "000000" = server.rooms.lookup "000000" ∧
      server.rooms.lookup "000000" = some ⟨"000000", some "k", [⟨"p_2", "Bob"⟩]⟩ := by
  have hexec : (machine sampleParse).exec [.connect "p_1",
      .connect "p_2", sends "p_1" createText,
      .frame "p_2" (.text createText.toUTF8) (fun n => if n = 0 then 0 else 1),
      sends "p_2" joinText, .disconnect "p_1" .ascending] = some (_, _) := rfl
  -- From the last step back: kept, kept, deleted, kept, and the two connects.
  obtain ⟨history', server', hrun', hevents, hslot, -⟩ :=
    room_isolation (EventMachine.run_of_exec hexec)
      (.disconnect .ascending rfl <| .kept (fun _ => 0) rfl rfl (Or.inl rfl) <|
        .deleted rfl (by decide) <| .kept (fun _ => 0) rfl rfl (Or.inl rfl) <|
        .connect rfl <| .connect rfl .nil)
  exact ⟨_, _, history', server', hexec, hrun', hevents, hslot, rfl⟩

end Server
end Net
end BuzzWeb
