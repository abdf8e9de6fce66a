import BuzzWeb.App.Interleaving

/-!
# Membership under interleaving

However the calls interleave: a participant is in a room exactly when the last committed update for
the two was a join; a room with somebody in it is not removed; and a successful join or leave
returns the list that its own commit stored.
-/

namespace BuzzWeb
namespace App

open Domain

namespace Thread

/-! ## The records of a step -/

/-- The loop of `LeaveAllRooms` commits nothing between two calls. -/
theorem not_committed_continueSweep {id other : Nat} {participantId pid : ParticipantId}
    {sweep : Sweep} {kind : CommitKind} {code : RoomCode} :
    ThreadRecord.committed other kind code pid ∉ (continueSweep id participantId sweep).2 := by
  unfold continueSweep
  split <;> simp

theorem not_committed_returnLeave {id other : Nat} {participantId pid : ParticipantId}
    {result : ParticipantLeftRoomResult} {sweep : Option Sweep} {kind : CommitKind}
    {code : RoomCode} :
    ThreadRecord.committed other kind code pid ∉
      (returnLeave id participantId result sweep).2 := by
  cases sweep with
  | none => simp [returnLeave]
  | some sweep =>
      intro hmem
      rcases List.mem_cons.mp hmem with hreturned | hnext
      · cases hreturned
      · exact not_committed_continueSweep hnext

/-- Of joins and leaves, the loop returns none and a leave returns its own result. -/
theorem returned_continueSweep {id other : Nat} {participantId : ParticipantId} {sweep : Sweep}
    {result : CallResult}
    (hmem : ThreadRecord.returned other result ∈ (continueSweep id participantId sweep).2) :
    result = .leftAll sweep.results := by
  unfold continueSweep at hmem
  split at hmem
  · have hrecord := List.mem_singleton.mp hmem
    exact (ThreadRecord.returned.inj hrecord).2
  · cases hmem

theorem returned_returnLeave {id other : Nat} {participantId : ParticipantId}
    {result : ParticipantLeftRoomResult} {sweep : Option Sweep} {returned : CallResult}
    (hmem : ThreadRecord.returned other returned ∈
      (returnLeave id participantId result sweep).2) :
    (other = id ∧ returned = .left result) ∨ ∃ results, returned = .leftAll results := by
  cases sweep with
  | none =>
      have hrecord := List.mem_singleton.mp hmem
      exact Or.inl (ThreadRecord.returned.inj hrecord)
  | some sweep =>
      rcases List.mem_cons.mp hmem with hrecord | hnext
      · exact Or.inl (ThreadRecord.returned.inj hrecord)
      · exact Or.inr ⟨_, returned_continueSweep hnext⟩

/-- The loop of `LeaveAllRooms` is over, or goes on to the `Update` of the next leave. -/
theorem continueSweep_thread (id : Nat) (participantId : ParticipantId) (sweep : Sweep) :
    (continueSweep id participantId sweep).1 = .finished ∨
      ∃ code rest, (continueSweep id participantId sweep).1 = .leaveRoom code participantId rest := by
  unfold continueSweep
  split
  · exact Or.inl rfl
  · exact Or.inr ⟨_, _, rfl⟩

/-- So does the thread of a leave that returned. -/
theorem returnLeave_thread (id : Nat) (participantId : ParticipantId)
    (result : ParticipantLeftRoomResult) (sweep : Option Sweep) :
    (returnLeave id participantId result sweep).1 = .finished ∨
      ∃ code rest,
        (returnLeave id participantId result sweep).1 = .leaveRoom code participantId rest := by
  cases sweep with
  | none => exact Or.inl rfl
  | some sweep => exact continueSweep_thread id participantId _

/-- Where a thread goes on after a turn: nowhere, to the next leave of a disconnect, to the next
attempt of a create, to the join of the creator, or from a committed leave to `RemoveIfEmpty`. -/
theorem Turn.next_cases {id : Nat} {rooms rooms' : Rooms} {thread thread' : Thread}
    {records : List ThreadRecord} (turn : Turn id rooms thread rooms' thread' records) :
    thread' = .finished ∨
    (∃ code pid sweep, thread' = .leaveRoom code pid sweep) ∨
    (∃ password remaining creator, thread = .createRoom password (remaining + 1) creator ∧
      thread' = .createRoom password remaining creator) ∨
    (∃ code participant password, thread' = .joinRoom code participant password) ∨
    (∃ code pid sweep, ∃ room : Room, thread' =
        .removeIfEmpty code pid (room.without pid).participants sweep ∧
      rooms'.lookup code = some (room.without pid) ∧
      records = [.committed id .leave code pid]) := by
  -- The turns after which the loop of `LeaveAllRooms` goes on.
  have hreturn (participantId : ParticipantId) (result : ParticipantLeftRoomResult)
      (sweep : Option Sweep) :
      (returnLeave id participantId result sweep).1 = .finished ∨
        ∃ code pid rest,
          (returnLeave id participantId result sweep).1 = .leaveRoom code pid rest := by
    rcases returnLeave_thread id participantId result sweep with hdone | ⟨code, rest, hnext⟩
    · exact Or.inl hdone
    · exact Or.inr ⟨code, participantId, rest, hnext⟩
  cases turn with
  | added hfree =>
      rename_i password remaining creator code
      cases creator with
      | none => exact Or.inl rfl
      | some participant =>
          exact Or.inr (Or.inr (Or.inr (Or.inl ⟨code, participant, password, rfl⟩)))
  | retried => exact Or.inr (Or.inr (Or.inl ⟨_, _, _, rfl, rfl⟩))
  | gaveUp => exact Or.inl rfl
  | joined hstored hadmits => exact Or.inl rfl
  | joinRefused hrefused => exact Or.inl rfl
  | left hstored hmember =>
      exact Or.inr (Or.inr (Or.inr (Or.inr ⟨_, _, _, _, rfl, Finmap.lookup_insert rooms, rfl⟩)))
  | leaveRefused hrefused => exact (hreturn _ _ _).imp_right Or.inl
  | removed hstored hempty => exact (hreturn _ _ _).imp_right Or.inl
  | kept hoccupied => exact (hreturn _ _ _).imp_right Or.inl
  | listed =>
      rename_i participantId codes
      rcases continueSweep_thread id participantId ⟨codes, []⟩ with hdone | ⟨code, rest, hnext⟩
      · exact Or.inl hdone
      · exact Or.inr (Or.inl ⟨code, participantId, rest, hnext⟩)

/-! ## Membership -/

/-- The records have a commit of this kind for the participant and the room. -/
def Commits (kind : CommitKind) (code : RoomCode) (pid : ParticipantId)
    (records : List ThreadRecord) : Prop :=
  ∃ id, ThreadRecord.committed id kind code pid ∈ records

/-- Writing one room does not change who is in the others. -/
theorem participantInRoom_insert (rooms : Rooms) (code other : RoomCode) (room : Room)
    (pid : ParticipantId) :
    Rooms.participantInRoom (rooms.insert code room) pid other =
      if other = code then room.hasParticipant pid else rooms.participantInRoom pid other := by
  simp only [Rooms.participantInRoom, Rooms.lookup_insert_eq]
  split_ifs with hsame
  · rfl
  · rfl

/-- What a turn does to one membership: it commits a join, commits a leave, or leaves it alone. -/
theorem Turn.membership {id : Nat} {rooms rooms' : Rooms} {thread thread' : Thread}
    {records : List ThreadRecord} (turn : Turn id rooms thread rooms' thread' records)
    (code : RoomCode) (pid : ParticipantId) :
    (Commits .join code pid records ∧ rooms'.participantInRoom pid code = true) ∨
    (Commits .leave code pid records ∧ ¬ Commits .join code pid records ∧
      rooms'.participantInRoom pid code = false) ∨
    ((∀ kind, ¬ Commits kind code pid records) ∧
      rooms'.participantInRoom pid code = rooms.participantInRoom pid code) := by
  -- Turns that record no commit and keep the table.
  have hquiet {records : List ThreadRecord}
      (hrecords : ∀ id kind, ThreadRecord.committed id kind code pid ∉ records) :
      ∀ kind, ¬ Commits kind code pid records := by
    rintro kind ⟨id, hmem⟩
    exact hrecords id kind hmem
  cases turn with
  | added hfree =>
      rename_i password remaining creator fresh
      refine Or.inr (Or.inr ⟨hquiet (by simp), ?_⟩)
      rw [participantInRoom_insert]
      split_ifs with hcode
      · subst hcode
        simp [Rooms.participantInRoom, hfree, Room.hasParticipant]
      · rfl
  | retried => exact Or.inr (Or.inr ⟨hquiet (by simp), rfl⟩)
  | gaveUp => exact Or.inr (Or.inr ⟨hquiet (by simp), rfl⟩)
  | joined hstored hadmits =>
      rename_i target participant password room
      by_cases hsame : code = target ∧ pid = participant.id
      · obtain ⟨rfl, rfl⟩ := hsame
        refine Or.inl ⟨⟨id, by simp⟩, ?_⟩
        rw [participantInRoom_insert, if_pos rfl, Room.hasParticipant_append]
        simp
      · refine Or.inr (Or.inr ⟨hquiet ?_, ?_⟩)
        · intro other kind hmem
          have hrecord : code = target ∧ pid = participant.id := by
            simp only [List.mem_cons, ThreadRecord.committed.injEq, List.not_mem_nil, reduceCtorEq,
              or_false] at hmem
            exact ⟨hmem.2.2.1, hmem.2.2.2⟩
          exact hsame hrecord
        · rw [participantInRoom_insert]
          split_ifs with hcode
          · subst hcode
            have hother : participant.id ≠ pid := fun hid => hsame ⟨rfl, hid.symm⟩
            rw [Room.hasParticipant_append, Rooms.participantInRoom, hstored]
            simp [hother]
          · rfl
  | joinRefused hrefused => exact Or.inr (Or.inr ⟨hquiet (by simp), rfl⟩)
  | left hstored hmember =>
      rename_i target leaver sweep room
      by_cases hsame : code = target ∧ pid = leaver
      · obtain ⟨rfl, rfl⟩ := hsame
        refine Or.inr (Or.inl ⟨⟨id, by simp⟩, ?_, ?_⟩)
        · rintro ⟨other, hmem⟩
          simp at hmem
        · rw [participantInRoom_insert, if_pos rfl, Room.hasParticipant_without]
          simp
      · refine Or.inr (Or.inr ⟨hquiet ?_, ?_⟩)
        · intro other kind hmem
          have hrecord : code = target ∧ pid = leaver := by
            have heq := List.mem_singleton.mp hmem
            obtain ⟨-, -, hcode, hpid⟩ := ThreadRecord.committed.inj heq
            exact ⟨hcode, hpid⟩
          exact hsame hrecord
        · rw [participantInRoom_insert]
          split_ifs with hcode
          · subst hcode
            have hother : pid ≠ leaver := fun hid => hsame ⟨rfl, hid⟩
            rw [Room.hasParticipant_without, Rooms.participantInRoom, hstored]
            simp [hother]
          · rfl
  | leaveRefused hrefused =>
      exact Or.inr (Or.inr ⟨hquiet fun _ _ => not_committed_returnLeave, rfl⟩)
  | removed hstored hempty =>
      rename_i target leaver remaining sweep room
      refine Or.inr (Or.inr ⟨hquiet fun _ _ => not_committed_returnLeave, ?_⟩)
      simp only [Rooms.participantInRoom, Rooms.lookup_erase_eq]
      split_ifs with hcode
      · subst hcode
        simp [hstored, Room.hasParticipant, hempty]
      · rfl
  | kept hoccupied =>
      exact Or.inr (Or.inr ⟨hquiet fun _ _ => not_committed_returnLeave, rfl⟩)
  | listed => exact Or.inr (Or.inr ⟨hquiet fun _ _ => not_committed_continueSweep, rfl⟩)

/-- A turn removes empty rooms only. -/
theorem Turn.keeps_occupied {id : Nat} {rooms rooms' : Rooms} {thread thread' : Thread}
    {records : List ThreadRecord} (turn : Turn id rooms thread rooms' thread' records)
    {code : RoomCode} {room : Room} (hstored : rooms.lookup code = some room)
    (hoccupied : room.participants ≠ []) : ∃ room', rooms'.lookup code = some room' := by
  rcases turn.slot_cases code with hslot | ⟨_, _, _, -, -, hfree, -, -⟩ |
    ⟨_, _, before, -, -, hslot⟩ | ⟨_, _, before, -, hslot, -⟩ | ⟨before, hbefore, hempty, -⟩
  · exact ⟨room, hslot.trans hstored⟩
  · cases hfree.symm.trans hstored
  · exact ⟨_, hslot⟩
  · exact ⟨_, hslot⟩
  · obtain rfl := Option.some.inj (hstored.symm.trans hbefore)
    exact absurd hempty hoccupied

/-- A join that returns successfully has just committed, and returns what it stored. -/
theorem Turn.returned_joined {id other : Nat} {rooms rooms' : Rooms} {thread thread' : Thread}
    {records : List ThreadRecord} (turn : Turn id rooms thread rooms' thread' records)
    {joined : ParticipantJoinedRoom}
    (hreturned : ThreadRecord.returned other (.joined (.ok joined)) ∈ records) :
    ThreadRecord.committed other .join joined.roomCode joined.participant.id ∈ records ∧
      ∃ room, rooms'.lookup joined.roomCode = some room ∧
        room.participants = joined.roomParticipants := by
  cases turn with
  | joined hstored hadmits =>
      simp only [List.mem_cons, reduceCtorEq, ThreadRecord.returned.injEq, CallResult.joined.injEq,
        Except.ok.injEq, List.not_mem_nil, or_false, false_or] at hreturned
      obtain ⟨rfl, rfl⟩ := hreturned
      exact ⟨List.mem_cons_self, _, Finmap.lookup_insert rooms, rfl⟩
  | added hfree => simp at hreturned
  | retried => simp at hreturned
  | gaveUp => simp at hreturned
  | joinRefused hrefused => simp at hreturned
  | left hstored hmember => simp at hreturned
  | leaveRefused hrefused =>
      rcases returned_returnLeave hreturned with ⟨-, hcontra⟩ | ⟨results, hcontra⟩ <;> cases hcontra
  | removed hstored hempty =>
      rcases returned_returnLeave hreturned with ⟨-, hcontra⟩ | ⟨results, hcontra⟩ <;> cases hcontra
  | kept hoccupied =>
      rcases returned_returnLeave hreturned with ⟨-, hcontra⟩ | ⟨results, hcontra⟩ <;> cases hcontra
  | listed => cases returned_continueSweep hreturned

/-- A leave that returns successfully was about to remove the room if empty, with the list it
returns. -/
theorem Turn.returned_left {id other : Nat} {rooms rooms' : Rooms} {thread thread' : Thread}
    {records : List ThreadRecord} (turn : Turn id rooms thread rooms' thread' records)
    {left : ParticipantLeftRoom}
    (hreturned : ThreadRecord.returned other (.left (.ok left)) ∈ records) :
    other = id ∧ ∃ sweep, thread =
      .removeIfEmpty left.roomCode left.participantId left.remainingParticipants sweep := by
  cases turn with
  | removed hstored hempty =>
      rcases returned_returnLeave hreturned with ⟨rfl, hresult⟩ | ⟨results, hcontra⟩
      · cases hresult
        exact ⟨rfl, _, rfl⟩
      · cases hcontra
  | kept hoccupied =>
      rcases returned_returnLeave hreturned with ⟨rfl, hresult⟩ | ⟨results, hcontra⟩
      · cases hresult
        exact ⟨rfl, _, rfl⟩
      · cases hcontra
  | leaveRefused hrefused =>
      rcases returned_returnLeave hreturned with ⟨-, hcontra⟩ | ⟨results, hcontra⟩ <;> cases hcontra
  | listed => cases returned_continueSweep hreturned
  | added hfree => simp at hreturned
  | retried => simp at hreturned
  | gaveUp => simp at hreturned
  | joined hstored hadmits => simp at hreturned
  | joinRefused hrefused => simp at hreturned
  | left hstored hmember => simp at hreturned

/-- Only a committed leave is about to remove a room, with the list it stored. -/
theorem Turn.about_to_remove {id : Nat} {rooms rooms' : Rooms} {thread : Thread}
    {records : List ThreadRecord} {code : RoomCode} {pid : ParticipantId}
    {remaining : List Participant} {sweep : Option Sweep}
    (turn : Turn id rooms thread rooms' (.removeIfEmpty code pid remaining sweep) records) :
    ThreadRecord.committed id .leave code pid ∈ records ∧
      ∃ room, rooms'.lookup code = some room ∧ room.participants = remaining := by
  rcases turn.next_cases with hnext | ⟨code', pid', sweep', hnext⟩ |
    ⟨password, attempts, creator, -, hnext⟩ | ⟨code', participant, password, hnext⟩ |
    ⟨code', pid', sweep', room, hnext, hstored, rfl⟩
  · cases hnext
  · cases hnext
  · cases hnext
  · cases hnext
  · cases hnext
    exact ⟨List.mem_singleton.mpr rfl, _, hstored, rfl⟩

end Thread

namespace Interleaved

variable {ω : Type} {start : ω → Thread}

/-- The step commits an update of this kind for the participant and the room. -/
def CommitsStep (kind : CommitKind) (code : RoomCode) (pid : ParticipantId)
    (st : ThreadStep ω) : Prop :=
  Thread.Commits kind code pid st.output

/-- The last committed update for the participant and the room was a join. -/
def LastCommitJoined (code : RoomCode) (pid : ParticipantId)
    (history : List (ThreadStep ω)) : Prop :=
  Since (CommitsStep .join code pid) (fun st => ∀ kind, ¬ CommitsStep kind code pid st) history

/-- One step, from the point of view of one membership. -/
theorem membership_step {history : List (ThreadStep ω)} {state state' : Interleaved}
    {event : Event ω} {records : List ThreadRecord} (code : RoomCode) (pid : ParticipantId)
    (hbefore : state.rooms.participantInRoom pid code = true ↔
      LastCommitJoined code pid history)
    (hstep : (machine start).step state event = some (state', records)) :
    state'.rooms.participantInRoom pid code = true ↔
      LastCommitJoined code pid (history ++ [⟨state, event, records, state'⟩]) := by
  rw [LastCommitJoined, Since.since_concat]
  rcases step_cases hstep with ⟨id, operation, -, -, rfl, rfl⟩ |
    ⟨id, draw, order, thread, rooms', thread', -, -, hturn, rfl⟩
  · -- A new call touches nothing.
    have hnone (kind : CommitKind) : ¬ Thread.Commits kind code pid [] := by
      rintro ⟨other, hmem⟩
      cases hmem
    change state.rooms.participantInRoom pid code = true ↔
      Thread.Commits .join code pid [] ∨ ((∀ kind, ¬ Thread.Commits kind code pid []) ∧ _)
    simp only [hnone, not_false_eq_true, implies_true, true_and, false_or]
    exact hbefore
  · change rooms'.participantInRoom pid code = true ↔
      Thread.Commits .join code pid records ∨
        ((∀ kind, ¬ Thread.Commits kind code pid records) ∧ _)
    -- A commit of the step is the last one; without a commit the earlier ones count.
    rcases hturn.membership code pid with ⟨hjoin, hmember⟩ | ⟨hleave, hjoin, hmember⟩ |
      ⟨hnone, hmember⟩
    · simp [hjoin, hmember]
    · have hcommit : ¬ ∀ kind, ¬ Thread.Commits kind code pid records :=
        fun hnone => hnone .leave hleave
      simp [hjoin, hmember, hcommit]
    · simp only [hnone, not_false_eq_true, implies_true, true_and, false_or, hmember]
      exact hbefore

theorem membership_of_run {history : List (ThreadStep ω)} {state : Interleaved}
    (hrun : (machine start).Run history state) (code : RoomCode) (pid : ParticipantId) :
    state.rooms.participantInRoom pid code = true ↔ LastCommitJoined code pid history := by
  induction hrun with
  | nil =>
      constructor
      · intro hmember
        cases hmember
      · intro hsince
        exact absurd hsince Since.not_since_nil
  | snoc hprev hlast ih => exact membership_step code pid ih hlast

/-- The step is the leave commit of the thread: it stored this list under the code. -/
def LeaveCommit (id : Nat) (left : ParticipantLeftRoom) (st : ThreadStep ω) : Prop :=
  ThreadRecord.committed id .leave left.roomCode left.participantId ∈ st.output ∧
    ∃ room, st.post.rooms.lookup left.roomCode = some room ∧
      room.participants = left.remainingParticipants

/-- A thread that is about to remove a room made its last step when it committed its leave. -/
theorem leaveCommit_of_run
    (hstart : ∀ operation code pid remaining sweep,
      start operation ≠ .removeIfEmpty code pid remaining sweep)
    {history : List (ThreadStep ω)} {state : Interleaved}
    (hrun : (machine start).Run history state) {id : Nat} {left : ParticipantLeftRoom}
    {sweep : Option Sweep}
    (hthread : state.threads id = some (.removeIfEmpty left.roomCode left.participantId
      left.remainingParticipants sweep)) :
    Since (LeaveCommit id left) (fun st => st.event.thread ≠ id) history := by
  induction hrun with
  | nil => cases hthread
  | snoc hprev hlast ih =>
      rcases step_cases hlast with ⟨other, operation, rfl, -, rfl, rfl⟩ |
        ⟨other, draw, order, thread, rooms', thread', rfl, -, hturn, rfl⟩
      · rw [threads_setThread] at hthread
        split_ifs at hthread with hsame
        · exact absurd (Option.some.inj hthread) (hstart _ _ _ _ _)
        · exact (ih hthread).still (Ne.symm hsame)
      · rw [threads_setThread] at hthread
        split_ifs at hthread with hsame
        · subst hsame
          obtain rfl := Option.some.inj hthread
          exact Since.now hturn.about_to_remove
        · exact (ih hthread).still (Ne.symm hsame)

/-- **No lost and no phantom membership.**  However any number of service calls interleave: a
participant is in a room exactly when there was a committed update for the two and the last one was
a join; no step removes a room that has a participant; a `JoinRoom` that returns successfully
committed in that very step and returns the list stored by it; and a `LeaveRoom` that returns
successfully returns the list stored by its own commit, which was the last step of its thread. -/
theorem membership_under_interleaving {history : List (ThreadStep ServiceCall)}
    {state : Interleaved} (hrun : (machine ServiceCall.start).Run history state) :
    (∀ code pid, state.rooms.participantInRoom pid code = true ↔
      LastCommitJoined code pid history) ∧
    (∀ st ∈ history, ∀ code room, st.pre.rooms.lookup code = some room →
      room.participants ≠ [] → ∃ room', st.post.rooms.lookup code = some room') ∧
    (∀ st ∈ history, ∀ id joined, ThreadRecord.returned id (.joined (.ok joined)) ∈ st.output →
      ThreadRecord.committed id .join joined.roomCode joined.participant.id ∈ st.output ∧
      ∃ room, st.post.rooms.lookup joined.roomCode = some room ∧
        room.participants = joined.roomParticipants) ∧
    (∀ before st after, history = before ++ st :: after → ∀ id left,
      ThreadRecord.returned id (.left (.ok left)) ∈ st.output →
      Since (LeaveCommit id left) (fun earlier => earlier.event.thread ≠ id) before) := by
  have hstart : ∀ operation code pid remaining sweep,
      ServiceCall.start operation ≠ .removeIfEmpty code pid remaining sweep := by
    intro operation code pid remaining sweep
    cases operation <;> simp [ServiceCall.start]
  refine ⟨membership_of_run hrun, ?_, ?_, ?_⟩
  · intro st hmem code room hstored hoccupied
    obtain ⟨-, hstep⟩ := hrun.step_of_mem hmem
    rcases step_cases hstep with ⟨id, operation, -, -, hpost, -⟩ |
      ⟨id, draw, order, thread, rooms', thread', -, -, hturn, hpost⟩
    · rw [hpost]
      exact ⟨room, hstored⟩
    · rw [hpost]
      exact hturn.keeps_occupied hstored hoccupied
  · intro st hmem id joined hreturned
    obtain ⟨-, hstep⟩ := hrun.step_of_mem hmem
    rcases step_cases hstep with ⟨other, operation, -, -, -, hnone⟩ |
      ⟨other, draw, order, thread, rooms', thread', -, -, hturn, hpost⟩
    · rw [hnone] at hreturned
      cases hreturned
    · rw [hpost]
      exact hturn.returned_joined hreturned
  · intro before st after hsplit id left hreturned
    -- A leave returns from its second step; its commit is in the history before.
    obtain ⟨hbefore, hstep⟩ := hrun.split hsplit
    rcases step_cases hstep with ⟨other, operation, -, -, -, hnone⟩ |
      ⟨other, draw, order, thread, rooms', thread', -, hthread, hturn, -⟩
    · rw [hnone] at hreturned
      cases hreturned
    · obtain ⟨rfl, sweep, rfl⟩ := hturn.returned_left hreturned
      exact leaveCommit_of_run hstart hbefore hthread

/-- Ann creates the room `000000` and joins it; while she leaves, Bob joins between her two
steps. -/
theorem membership_after_overlapping_leave :
    ∃ history state, (machine ServiceCall.start).exec [
        .call 0 (.createRoom none), .step 0 0 .ascending,
        .call 1 (.joinRoom "000000" ⟨"p_1", "Ann"⟩ none), .step 1 0 .ascending,
        .call 2 (.leaveRoom "000000" "p_1"), .call 3 (.joinRoom "000000" ⟨"p_2", "Bob"⟩ none),
        .step 2 0 .ascending, .step 3 0 .ascending, .step 2 0 .ascending] =
          some (history, state) ∧
      LastCommitJoined "000000" "p_2" history ∧ ¬ LastCommitJoined "000000" "p_1" history := by
  have hexec : (machine ServiceCall.start).exec [
      .call 0 (.createRoom none), .step 0 0 .ascending,
      .call 1 (.joinRoom "000000" ⟨"p_1", "Ann"⟩ none), .step 1 0 .ascending,
      .call 2 (.leaveRoom "000000" "p_1"), .call 3 (.joinRoom "000000" ⟨"p_2", "Bob"⟩ none),
      .step 2 0 .ascending, .step 3 0 .ascending, .step 2 0 .ascending] =
        some (_, _) := rfl
  have hmembership := (membership_under_interleaving (EventMachine.run_of_exec hexec)).1
  refine ⟨_, _, hexec, (hmembership "000000" "p_2").mp (by decide), ?_⟩
  intro hjoined
  have hmember := (hmembership "000000" "p_1").mpr hjoined
  revert hmember
  decide

end Interleaved
end App
end BuzzWeb
