import BuzzWeb.App.ConcurrentMembership

/-!
# The store under interleaving

However the operations of the dispatcher interleave: a room sits under its own code, its ids are
distinct, and an empty room is accounted for.  Either the create that added it has yet to join it,
or a leave that committed on its code has yet to run `RemoveIfEmpty`.

The accounting is about incarnations.  A code can be emptied, erased and added again while an older
call is suspended, so a pending create counts only for the room it added itself, which has been
stored ever since.
-/

namespace BuzzWeb
namespace App

open Domain

namespace Thread

/-- A join with the secret of an empty room is let in. -/
theorem Turn.occupies {id : Nat} {rooms rooms' : Rooms} {thread' : Thread}
    {records : List ThreadRecord} {code : RoomCode} {participant : Participant} {room : Room}
    (turn : Turn id rooms (.joinRoom code participant room.roomSecret) rooms' thread' records)
    (hstored : rooms.lookup code = some room) (hempty : room.participants = []) :
    rooms'.lookup code = some (room.append participant) := by
  cases turn with
  | joined hother hadmits =>
      obtain rfl := Option.some.inj (hstored.symm.trans hother)
      exact Finmap.lookup_insert rooms
  | joinRefused hrefused =>
      have hnew : room.hasParticipant participant.id = false := by
        simp [Room.hasParticipant, hempty]
      exact absurd ⟨hnew, Or.inr rfl⟩ (hrefused room hstored)

/-- `RemoveIfEmpty` leaves no empty room under its code. -/
theorem Turn.clears {id : Nat} {rooms rooms' : Rooms} {thread' : Thread}
    {records : List ThreadRecord} {code : RoomCode} {pid : ParticipantId}
    {remaining : List Participant} {sweep : Option Sweep} {room : Room}
    (turn : Turn id rooms (.removeIfEmpty code pid remaining sweep) rooms' thread' records)
    (hstored : rooms'.lookup code = some room) : room.participants ≠ [] := by
  cases turn with
  | removed hother hempty =>
      rw [Rooms.lookup_erase_eq, if_pos rfl] at hstored
      cases hstored
  | kept hoccupied => exact hoccupied room hstored

end Thread

namespace Interleaved

/-! ## Every create has a creator -/

/-- The dispatcher joins what it creates. -/
def CreatorsKnown (state : Interleaved) : Prop :=
  ∀ id password remaining, state.threads id ≠ some (.createRoom password remaining none)

theorem CreatorsKnown.step {state state' : Interleaved} {event : Event DispatcherOperation}
    {records : List ThreadRecord} (hknown : state.CreatorsKnown)
    (hstep : (machine DispatcherOperation.start).step state event = some (state', records)) :
    state'.CreatorsKnown := by
  intro id password remaining hthread
  rcases step_cases hstep with ⟨other, operation, -, -, rfl, -⟩ |
    ⟨other, draw, order, thread, rooms', thread', -, hother, hturn, rfl⟩
  · rw [threads_setThread] at hthread
    split_ifs at hthread with hsame
    · have hstart := Option.some.inj hthread
      cases operation <;> cases hstart
    · exact hknown id password remaining hthread
  · rw [threads_setThread] at hthread
    split_ifs at hthread with hsame
    · -- Only a create goes on as a create, with the same creator.
      obtain rfl := Option.some.inj hthread
      rcases hturn.next_cases with hnext | ⟨_, _, _, hnext⟩ |
        ⟨password', remaining', creator, hcreate, hnext⟩ | ⟨_, _, _, hnext⟩ |
        ⟨_, _, _, _, hnext, -, -⟩
      · cases hnext
      · cases hnext
      · cases hnext
        rw [hcreate] at hother
        exact hknown other _ _ hother
      · cases hnext
      · cases hnext
    · exact hknown id password remaining hthread

theorem creatorsKnown_of_run {history : List (ThreadStep DispatcherOperation)}
    {state : Interleaved} (hrun : (machine DispatcherOperation.start).Run history state) :
    state.CreatorsKnown := by
  refine hrun.stateInvariant ?_ fun _ _ _ _ hknown hstep => hknown.step hstep
  intro id password remaining hthread
  cases hthread

/-! ## Accounting for empty rooms -/

/-- The step is the `Add` of the thread's create: it put a new room under the free code. -/
def AddsRoom (id : Nat) (code : RoomCode) (secret : Option RoomSecret)
    (st : ThreadStep DispatcherOperation) : Prop :=
  st.event.thread = id ∧ st.pre.rooms.lookup code = none ∧
    st.post.rooms.lookup code = some (Room.create code secret) ∧
    ThreadRecord.returned id (.created (.ok (Room.create code secret))) ∈ st.output

/-- Some operation in flight accounts for the room that is stored under the code. -/
inductive Accounted (history : List (ThreadStep DispatcherOperation)) (state : Interleaved)
    (code : RoomCode) (room : Room) : Prop
  /-- A create that added this incarnation and has made no step since: it is about to join. -/
  | creating {id : Nat} {participant : Participant}
      (hthread : state.threads id = some (.joinRoom code participant room.roomSecret))
      (hadded : Since (AddsRoom id code room.roomSecret)
        (fun later => later.event.thread ≠ id ∧
          ∃ room', later.post.rooms.lookup code = some room') history)
  /-- A leave that committed on this code and has made no step since: it is about to run
  `RemoveIfEmpty`. -/
  | leaving {id : Nat} {left : ParticipantLeftRoom} {sweep : Option Sweep}
      (hcode : left.roomCode = code)
      (hthread : state.threads id = some (.removeIfEmpty left.roomCode left.participantId
        left.remainingParticipants sweep))
      (hcommitted : Since (LeaveCommit id left) (fun later => later.event.thread ≠ id) history)

/-- The laws of one stored room. -/
structure StoredWell (history : List (ThreadStep DispatcherOperation)) (state : Interleaved)
    (code : RoomCode) (room : Room) : Prop where
  code_eq : room.code = code
  nodup : (room.participants.map Participant.id).Nodup
  accounted : room.participants = [] → Accounted history state code room

/-- The thread of a step is the only one that moves. -/
theorem threads_eq_of_step {ω : Type} {start : ω → Thread} {state state' : Interleaved}
    {event : Event ω} {records : List ThreadRecord}
    (hstep : (machine start).step state event = some (state', records)) {id : Nat}
    (hother : event.thread ≠ id) : state'.threads id = state.threads id := by
  rcases step_cases hstep with ⟨stepped, operation, rfl, -, rfl, -⟩ |
    ⟨stepped, draw, order, thread, rooms', thread', rfl, -, -, rfl⟩
  · have hne : id ≠ stepped := Ne.symm hother
    rw [threads_setThread, if_neg hne]
  · have hne : id ≠ stepped := Ne.symm hother
    rw [threads_setThread, if_neg hne]

/-- An empty room that a step leaves as it is stays accounted for: the operation that accounts for
it cannot be the one that stepped. -/
theorem Accounted.step {history : List (ThreadStep DispatcherOperation)}
    {state state' : Interleaved} {event : Event DispatcherOperation}
    {records : List ThreadRecord} {code : RoomCode} {room : Room}
    (haccounted : Accounted history state code room)
    (hstep : (machine DispatcherOperation.start).step state event = some (state', records))
    (hstored : state.rooms.lookup code = some room)
    (hstored' : state'.rooms.lookup code = some room) (hempty : room.participants = []) :
    Accounted (history ++ [⟨state, event, records, state'⟩]) state' code room := by
  cases haccounted with
  | creating hthread hadded =>
      rename_i id participant
      -- The join of the creator would have filled the room.
      have hother : event.thread ≠ id := by
        rintro rfl
        rcases step_cases hstep with ⟨stepped, operation, rfl, hnew, -, -⟩ |
          ⟨stepped, draw, order, thread, rooms', thread', rfl, hrunning, hturn, rfl⟩
        · cases hnew.symm.trans hthread
        · obtain rfl := Option.some.inj (hthread.symm.trans hrunning)
          have hfilled := hturn.occupies hstored hempty
          have hsame : room = room.append participant :=
            Option.some.inj (hstored'.symm.trans hfilled)
          have hone : (room.append participant).participants = [] := by
            rw [← hsame]
            exact hempty
          simp [Room.append] at hone
      refine .creating ((threads_eq_of_step hstep hother).trans hthread) ?_
      exact hadded.still ⟨hother, room, hstored'⟩
  | leaving hcode hthread hcommitted =>
      rename_i id left sweep
      subst hcode
      -- `RemoveIfEmpty` would have removed the room.
      have hother : event.thread ≠ id := by
        rintro rfl
        rcases step_cases hstep with ⟨stepped, operation, rfl, hnew, -, -⟩ |
          ⟨stepped, draw, order, thread, rooms', thread', rfl, hrunning, hturn, rfl⟩
        · cases hnew.symm.trans hthread
        · obtain rfl := Option.some.inj (hthread.symm.trans hrunning)
          exact hturn.clears hstored' hempty
      refine .leaving rfl ((threads_eq_of_step hstep hother).trans hthread) ?_
      exact hcommitted.still hother

/-- One step keeps the laws of every stored room. -/
theorem storedWell_step {history : List (ThreadStep DispatcherOperation)}
    {state state' : Interleaved} {event : Event DispatcherOperation}
    {records : List ThreadRecord} (hknown : state.CreatorsKnown)
    (hwell : ∀ code room, state.rooms.lookup code = some room →
      StoredWell history state code room)
    (hstep : (machine DispatcherOperation.start).step state event = some (state', records))
    {code : RoomCode} {room : Room} (hstored : state'.rooms.lookup code = some room) :
    StoredWell (history ++ [⟨state, event, records, state'⟩]) state' code room := by
  -- A slot that the step does not touch.
  have hsame (hkept : state.rooms.lookup code = some room) :
      StoredWell (history ++ [⟨state, event, records, state'⟩]) state' code room := by
    obtain ⟨hcode, hnodup, haccounted⟩ := hwell code room hkept
    refine ⟨hcode, hnodup, ?_⟩
    intro hempty
    exact (haccounted hempty).step hstep hkept hstored hempty
  rcases step_cases hstep with ⟨id, operation, -, -, rfl, -⟩ |
    ⟨id, draw, order, thread, rooms', thread', rfl, hthread, hturn, rfl⟩
  · exact hsame hstored
  · rcases hturn.slot_cases code with hslot |
      ⟨password, remaining, creator, rfl, rfl, hfree, hslot, rfl⟩ |
      ⟨participant, password, before, hbefore, hadmits, hslot⟩ |
      ⟨pid, sweep, before, hbefore, hslot, rfl⟩ | ⟨before, -, -, hslot⟩
    · exact hsame (hslot.symm.trans hstored)
    · -- A new room: the create that added it goes on to join it.
      obtain rfl := Option.some.inj (hslot.symm.trans hstored)
      refine ⟨rfl, List.nodup_nil, ?_⟩
      intro hempty
      cases creator with
      | none => exact absurd hthread (hknown id password remaining)
      | some participant =>
          have hnext : ({ state with rooms := rooms' }.setThread id
              (.joinRoom code participant password)).threads id =
                some (.joinRoom code participant password) := by
            rw [threads_setThread, if_pos rfl]
          refine .creating hnext (Since.now ⟨rfl, hfree, hslot, ?_⟩)
          exact List.mem_singleton.mpr rfl
    · -- Somebody joined: the room is not empty.
      obtain rfl := Option.some.inj (hslot.symm.trans hstored)
      obtain ⟨hcode, hnodup, -⟩ := hwell code before hbefore
      refine ⟨hcode, Room.nodup_append hadmits.1 hnodup, ?_⟩
      intro hempty
      simp [Room.append] at hempty
    · -- Somebody left: this leave goes on to remove the room if it is empty.
      obtain rfl := Option.some.inj (hslot.symm.trans hstored)
      obtain ⟨hcode, hnodup, -⟩ := hwell code before hbefore
      refine ⟨hcode, Room.nodup_without pid hnodup, ?_⟩
      intro hempty
      have hcommit : LeaveCommit id ⟨code, pid, (before.without pid).participants⟩
          (⟨state, .step id draw order, records, { state with rooms := rooms' }.setThread id
            (.removeIfEmpty code pid (before.without pid).participants sweep)⟩ :
              ThreadStep DispatcherOperation) :=
        hturn.about_to_remove
      have hnext : ({ state with rooms := rooms' }.setThread id
          (.removeIfEmpty code pid (before.without pid).participants sweep)).threads id =
            some (.removeIfEmpty code pid (before.without pid).participants sweep) := by
        rw [threads_setThread, if_pos rfl]
      exact @Accounted.leaving _ _ _ _ id _ sweep rfl hnext (Since.now hcommit)
    · cases hslot.symm.trans hstored

theorem storedWell_of_run {history : List (ThreadStep DispatcherOperation)} {state : Interleaved}
    (hrun : (machine DispatcherOperation.start).Run history state) :
    ∀ code room, state.rooms.lookup code = some room → StoredWell history state code room := by
  induction hrun with
  | nil =>
      intro code room hstored
      cases hstored
  | snoc hprev hlast ih =>
      intro code room hstored
      exact storedWell_step (creatorsKnown_of_run hprev) ih hlast hstored

/-- **The store, and no leaked empty rooms.**  However any number of dispatcher operations
interleave: every stored room sits under its own code, its ids are distinct, and if it is empty,
an operation in flight accounts for it.  So when no operation is in flight, no stored room is
empty. -/
theorem store_under_interleaving {history : List (ThreadStep DispatcherOperation)}
    {state : Interleaved} (hrun : (machine DispatcherOperation.start).Run history state) :
    (∀ code room, state.rooms.lookup code = some room →
      room.code = code ∧ (room.participants.map Participant.id).Nodup ∧
        (room.participants = [] → Accounted history state code room)) ∧
    ((∀ id thread, state.threads id = some thread → thread = .finished) →
      ∀ code room, state.rooms.lookup code = some room → room.participants ≠ []) := by
  constructor
  · intro code room hstored
    obtain ⟨hcode, hnodup, haccounted⟩ := storedWell_of_run hrun code room hstored
    exact ⟨hcode, hnodup, haccounted⟩
  · intro hidle code room hstored hempty
    cases (storedWell_of_run hrun code room hstored).accounted hempty with
    | creating hthread hadded => cases hidle _ _ hthread
    | leaving hcode hthread hcommitted => cases hidle _ _ hthread

/-- Ann has added the room `000000` and not joined it yet; meanwhile Bob joined it and his leave
committed. -/
theorem accounted_between_create_and_join :
    ∃ history state, (machine DispatcherOperation.start).exec [
        .call 0 (.createRoom ⟨"p_1", "Ann"⟩ none), .step 0 0 .ascending,
        .call 1 (.joinRoom "000000" ⟨"p_2", "Bob"⟩ none), .step 1 0 .ascending,
        .call 2 (.leaveRoom "000000" "p_2"), .step 2 0 .ascending] = some (history, state) ∧
      state.rooms.lookup "000000" = some ⟨"000000", none, []⟩ ∧
      Accounted history state "000000" ⟨"000000", none, []⟩ := by
  have hexec : (machine DispatcherOperation.start).exec [
      .call 0 (.createRoom ⟨"p_1", "Ann"⟩ none), .step 0 0 .ascending,
      .call 1 (.joinRoom "000000" ⟨"p_2", "Bob"⟩ none), .step 1 0 .ascending,
      .call 2 (.leaveRoom "000000" "p_2"), .step 2 0 .ascending] = some (_, _) := rfl
  have hstore := (store_under_interleaving (EventMachine.run_of_exec hexec)).1
  exact ⟨_, _, hexec, rfl, (hstore "000000" ⟨"000000", none, []⟩ rfl).2.2 rfl⟩

end Interleaved
end App
end BuzzWeb
