import BuzzWeb.Net.SlotEffect

/-!
# Who gets into a protected room

A room code is used many times: a room is removed when its last member leaves, and the code may be
drawn again.  `Provenance` ties a stored room to the history of its current incarnation: the step
that created it, the steps since then, in all of which the code held a room with the same secret,
and for each member the request that let it in.  For a room with a secret, the `password` in the text
of that request was exactly the secret.
-/

namespace BuzzWeb
namespace Net

open Domain App

namespace Server

/-- A step of the server. -/
abbrev ServerStep := EventMachine.Step Server Event Posted

variable {parse : ByteArray → ParseResult}

/-- The frame is a text, and the `password` of its payload is this string (or absent or `null`). -/
def NamesPassword (parse : ByteArray → ParseResult) (frame : Frame)
    (password : Option RoomSecret) : Prop :=
  ∃ message json payload, frame = .text message ∧ parse message = .value json ∧
    json.find? "payload" = some payload ∧
    ProtocolCodec.HoldsOptional payload "password" password

/-- The step handles a create of `creator` whose text names the password `secret`, and puts the room
of that request under the free code. -/
def Creates (parse : ByteArray → ParseResult) (code : RoomCode) (secret : Option RoomSecret)
    (creator : ParticipantId) (st : ServerStep) : Prop :=
  ∃ frame draws requestId displayName, st.event = .frame creator frame draws ∧
    NamesPassword parse frame secret ∧
    Session.requestOf parse creator frame =
      .ok ⟨⟨.createRoom, requestId, none⟩, .createRoom ⟨⟨creator, displayName⟩, secret⟩⟩ ∧
    st.pre.rooms.lookup code = none ∧
    st.post.rooms.lookup code = some ⟨code, secret, [⟨creator, displayName⟩]⟩

/-- The step handles a join of `self` whose text names the password `secret`, and which is answered
`ok: true`. -/
def JoinsWith (parse : ByteArray → ParseResult) (code : RoomCode) (secret : Option RoomSecret)
    (self : ParticipantId) (st : ServerStep) : Prop :=
  ∃ frame draws requestId displayName, st.event = .frame self frame draws ∧
    NamesPassword parse frame secret ∧
    Session.requestOf parse self frame =
      .ok ⟨⟨.joinRoom, requestId, none⟩, .joinRoom ⟨code, ⟨self, displayName⟩, secret⟩⟩ ∧
    ∃ answer, (self, answer) ∈ st.output ∧ ClientView.isReply answer = true ∧
      ClientView.okFlag answer = some true

/-- After the step the code holds a room with this secret. -/
def Keeps (code : RoomCode) (secret : Option RoomSecret) (st : ServerStep) : Prop :=
  ∃ room, st.post.rooms.lookup code = some room ∧ room.roomSecret = secret

/-- The password of a decoded create is the one in the text. -/
theorem namesPassword_of_create {self : ParticipantId} {frame : Frame} {requestId : Option String}
    {displayName : String} {password : Option RoomSecret}
    (hrequest : Session.requestOf parse self frame =
      .ok ⟨⟨.createRoom, requestId, none⟩, .createRoom ⟨⟨self, displayName⟩, password⟩⟩) :
    NamesPassword parse frame password := by
  obtain ⟨message, json, hframe, hparse, hdecoded⟩ := Session.requestOf_ok hrequest
  cases hdecoded with
  | createRoom htype hid hpayload hname hpassword =>
      exact ⟨message, json, _, hframe, hparse, hpayload, hpassword⟩

theorem namesPassword_of_join {self : ParticipantId} {frame : Frame} {requestId : Option String}
    {code : RoomCode} {displayName : String} {password : Option RoomSecret}
    (hrequest : Session.requestOf parse self frame =
      .ok ⟨⟨.joinRoom, requestId, none⟩, .joinRoom ⟨code, ⟨self, displayName⟩, password⟩⟩) :
    NamesPassword parse frame password := by
  obtain ⟨message, json, hframe, hparse, hdecoded⟩ := Session.requestOf_ok hrequest
  cases hdecoded with
  | joinRoom htype hid hpayload hcode hname hpassword =>
      exact ⟨message, json, _, hframe, hparse, hpayload, hpassword⟩

/-- Where a stored room comes from. -/
structure Provenance (parse : ByteArray → ParseResult) (history : List ServerStep)
    (code : RoomCode) (room : Room) where
  before : List ServerStep
  creation : ServerStep
  after : List ServerStep
  creator : ParticipantId
  split : history = before ++ creation :: after
  creates : Creates parse code room.roomSecret creator creation
  keeps : ∀ st ∈ after, Keeps code room.roomSecret st
  members : ∀ participant ∈ room.participants, ∀ secret, room.roomSecret = some secret →
    participant.id = creator ∨ ∃ st ∈ after, JoinsWith parse code (some secret) participant.id st

/-- One more step that keeps the room's secret and lets nobody in unasked. -/
def Provenance.extend {history : List ServerStep} {code : RoomCode} {room room' : Room}
    (prov : Provenance parse history code room) (st : ServerStep)
    (hstored : st.post.rooms.lookup code = some room')
    (hsecret : room'.roomSecret = room.roomSecret)
    (hmembers : ∀ participant ∈ room'.participants, participant ∈ room.participants ∨
      ∀ secret, room.roomSecret = some secret →
        JoinsWith parse code (some secret) participant.id st) :
    Provenance parse (history ++ [st]) code room' where
  before := prov.before
  creation := prov.creation
  after := prov.after ++ [st]
  creator := prov.creator
  split := by
    have hlonger := congrArg (fun steps => steps ++ [st]) prov.split
    simpa only [List.append_assoc, List.cons_append] using hlonger
  creates := by
    rw [hsecret]
    exact prov.creates
  keeps := by
    intro earlier hmem
    rcases List.mem_append.mp hmem with hold | hlast
    · rw [hsecret]
      exact prov.keeps earlier hold
    · rw [List.mem_singleton.mp hlast]
      exact ⟨room', hstored, rfl⟩
  members := by
    intro participant hmem secret hprotected
    rw [hsecret] at hprotected
    rcases hmembers participant hmem with hold | hjoined
    · rcases prov.members participant hold secret hprotected with hcreator | ⟨join, hjoin, hwith⟩
      · exact Or.inl hcreator
      · exact Or.inr ⟨join, List.mem_append_left _ hjoin, hwith⟩
    · exact Or.inr ⟨st, List.mem_append_right _ (List.mem_singleton.mpr rfl),
        hjoined secret hprotected⟩

/-- A join that the stored room admits is answered `ok: true`. -/
theorem answer_of_admitted_join {server server' : Server} {self : ParticipantId} {frame : Frame}
    {draws : Nat → Draw} {posts : List Posted} {requestId : Option String} {code : RoomCode}
    {displayName : String} {password : Option RoomSecret} {room : Room}
    (hstep : (machine parse).step server (.frame self frame draws) = some (server', posts))
    (hrequest : Session.requestOf parse self frame =
      .ok ⟨⟨.joinRoom, requestId, none⟩, .joinRoom ⟨code, ⟨self, displayName⟩, password⟩⟩)
    (hstored : server.rooms.lookup code = some room)
    (hadmits : room.Admits ⟨self, displayName⟩ password) :
    ∃ answer, (self, answer) ∈ posts ∧ ClientView.isReply answer = true ∧
      ClientView.okFlag answer = some true := by
  obtain ⟨-, hrun⟩ := run_of_step_frame hstep
  rw [run_onFrame, hrequest] at hrun
  simp only [serve, hstored, joinSlot_of_admits hadmits, joinDispatch, Session.resultPosts]
    at hrun
  obtain ⟨-, rfl⟩ := Prod.mk.inj hrun
  exact ⟨_, List.mem_cons_self, ClientView.isReply_encodeResponse _,
    ClientView.okFlag_success _ _⟩

/-- Every stored room has a provenance, along every run. -/
theorem provenance_of_run {history : List ServerStep} {server : Server}
    (hrun : (machine parse).Run history server) (code : RoomCode) (room : Room)
    (hstored : server.rooms.lookup code = some room) :
    Nonempty (Provenance parse history code room) := by
  revert code room
  refine EventMachine.Run.invariant (I := fun history server => ∀ code room,
    server.rooms.lookup code = some room → Nonempty (Provenance parse history code room))
    ?_ ?_ hrun
  · intro code room hstored
    cases hstored
  · intro history server event server' posts _ ih hstep code room' hstored
    have heffect := slotEffect_of_step hstep code
    generalize hbefore : server.rooms.lookup code = before at heffect
    rw [hstored] at heffect
    generalize hafter : some room' = after at heffect
    cases heffect with
    | same =>
        obtain ⟨prov⟩ := ih code room' (hbefore.trans hafter.symm)
        exact ⟨prov.extend _ hstored rfl fun _ hmem => Or.inl hmem⟩
    | created hevent haccepted hrequest hfresh =>
        rename_i self frame draws requestId displayName password
        obtain rfl := Option.some.inj hafter
        subst hevent
        -- A new incarnation starts with this very step, and its creator is its only member.
        refine ⟨⟨history, _, [], self, rfl, ?_, by simp, ?_⟩⟩
        · exact ⟨frame, draws, requestId, displayName, rfl, namesPassword_of_create hrequest,
            hrequest, hbefore, hstored⟩
        · intro participant hmem secret _
          rw [List.mem_singleton.mp hmem]
          exact Or.inl rfl
    | joined hevent haccepted hrequest hadmits =>
        rename_i self frame draws requestId displayName password room
        obtain rfl := Option.some.inj hafter
        subst hevent
        obtain ⟨prov⟩ := ih code room hbefore
        have hanswer := answer_of_admitted_join hstep hrequest hbefore hadmits
        refine ⟨prov.extend _ hstored rfl ?_⟩
        intro participant hmem
        rcases List.mem_append.mp hmem with hold | hnew
        · exact Or.inl hold
        · -- The newcomer named the secret, if there is one.
          obtain rfl := List.mem_singleton.mp hnew
          refine Or.inr fun secret hprotected => ?_
          have hgiven : password = some secret := by
            rcases hadmits.2 with hopen | hsame
            · rw [hprotected] at hopen
              cases hopen
            · rw [← hsame, hprotected]
          subst hgiven
          exact ⟨frame, draws, requestId, displayName, rfl, namesPassword_of_join hrequest,
            hrequest, hanswer⟩
    | left hleaves hmember =>
        rename_i self room
        obtain rfl := eq_without_of_remainingSlot hafter.symm
        obtain ⟨prov⟩ := ih code room hbefore
        exact ⟨prov.extend _ hstored rfl fun _ hmem => Or.inl (List.mem_of_mem_filter hmem)⟩

/-- **Protected rooms hold only those who named the secret.**  After every run, for every stored
room: some step created it with its present secret as the password; from that step on the code
always held a room with this secret; and if the room has a secret, each member is the creator, or
has since then been admitted by a join with exactly that secret. -/
theorem members_named_the_secret {history : List ServerStep} {server : Server}
    (hrun : (machine parse).Run history server) {code : RoomCode} {room : Room}
    (hstored : server.rooms.lookup code = some room) :
    ∃ before creation after creator, history = before ++ creation :: after ∧
      Creates parse code room.roomSecret creator creation ∧
      (∀ st ∈ after, Keeps code room.roomSecret st) ∧
      ∀ participant ∈ room.participants, ∀ secret, room.roomSecret = some secret →
        participant.id = creator ∨
          ∃ st ∈ after, JoinsWith parse code (some secret) participant.id st := by
  obtain ⟨prov⟩ := provenance_of_run hrun code room hstored
  exact ⟨prov.before, prov.creation, prov.after, prov.creator, prov.split, prov.creates,
    prov.keeps, prov.members⟩

/-- Ann creates a room with the secret `k`, Bob joins it, Ann leaves: Bob has named the secret. -/
theorem joiner_named_the_secret :
    ∃ history server, (machine sampleParse).exec [.connect "p_1", .connect "p_2",
        sends "p_1" createText, sends "p_2" joinText, sends "p_1" leaveText] =
          some (history, server) ∧
      server.rooms.lookup "000000" = some ⟨"000000", some "k", [⟨"p_2", "Bob"⟩]⟩ ∧
      ∃ before creation after creator, history = before ++ creation :: after ∧
        Creates sampleParse "000000" (some "k") creator creation ∧
        ("p_2" = creator ∨
          ∃ st ∈ after, JoinsWith sampleParse "000000" (some "k") "p_2" st) := by
  have hexec : (machine sampleParse).exec [.connect "p_1", .connect "p_2",
      sends "p_1" createText, sends "p_2" joinText, sends "p_1" leaveText] = some (_, _) := rfl
  refine ⟨_, _, hexec, rfl, ?_⟩
  obtain ⟨before, creation, after, creator, hsplit, hcreates, -, hmembers⟩ :=
    members_named_the_secret (EventMachine.run_of_exec hexec)
      (show Finmap.lookup "000000" (Server.rooms _) =
        some ⟨"000000", some "k", [⟨"p_2", "Bob"⟩]⟩ from rfl)
  exact ⟨before, creation, after, creator, hsplit, hcreates,
    hmembers ⟨"p_2", "Bob"⟩ (List.mem_singleton.mpr rfl) "k" rfl⟩

end Server
end Net
end BuzzWeb
