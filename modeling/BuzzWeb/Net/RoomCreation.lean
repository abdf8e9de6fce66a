import BuzzWeb.Net.SlotEffect

/-!
# Creating a room, end to end

`GenerateRoomCode` prints a draw with six digits, so draws and codes correspond one to one.  The
retry loop of `CreateRoom` takes the first of a hundred draws whose code is free, and the join that
the dispatcher makes right after it finds the room it has just added.  Over whole runs, every
stored code came out of the generator.
-/

namespace BuzzWeb
namespace App

open Domain

/-! ## Codes -/

theorem toList_generateRoomCode (draw : Draw) :
    (generateRoomCode draw).toList =
      List.replicate (6 - (Nat.toDigits 10 draw.val).length) '0' ++ Nat.toDigits 10 draw.val := by
  simp [generateRoomCode]

/-- A string of exactly six decimal digits. -/
def SixDigits (code : RoomCode) : Prop :=
  code.toList.length = 6 ∧ ∀ digit ∈ code.toList, digit.isDigit = true

theorem sixDigits_generateRoomCode (draw : Draw) : SixDigits (generateRoomCode draw) := by
  have hlength : (Nat.toDigits 10 draw.val).length ≤ 6 :=
    (Nat.length_toDigits_le_iff (by decide) (by decide)).mpr draw.isLt
  rw [SixDigits, toList_generateRoomCode]
  constructor
  · rw [List.length_append, List.length_replicate]
    omega
  · intro digit hmem
    rcases List.mem_append.mp hmem with hpad | hdigit
    · rw [(List.mem_replicate.mp hpad).2]
      rfl
    · exact Nat.isDigit_of_mem_toDigits (by decide) (by decide) hdigit

/-- The padding does not change the number that is read back. -/
theorem generateRoomCode_injective {draw draw' : Draw}
    (hsame : generateRoomCode draw = generateRoomCode draw') : draw = draw' := by
  have hread (draw : Draw) : Nat.ofDigitChars 10 (generateRoomCode draw).toList 0 = draw.val := by
    rw [toList_generateRoomCode, Nat.ofDigitChars_append, Nat.ofDigitChars_replicate_zero,
      Nat.mul_zero, Nat.ofDigitChars_ten_toDigits]
  apply Fin.ext
  rw [← hread draw, ← hread draw', hsame]

/-! ## The dispatcher's answer -/

/-- Run a service call next to the results handed over so far. -/
def besideResults {α : Type} (action : Throwing Store α) :
    Throwing (Store × List ControlDispatcherResult) α := fun state =>
  let result := action state.1
  (result.1, (result.2, state.2))

/-- A handler that keeps what it is given. -/
def keepResult (result : ControlDispatcherResult) :
    Throwing (Store × List ControlDispatcherResult) Unit :=
  Throwing.modify fun state => (state.1, state.2 ++ [result])

/-- `Dispatch` calls its handler once, with this result, and leaves this table. -/
def Answers (draws : Nat → Draw) (rooms : Rooms) (request : ControlDispatcherRequest)
    (result : ControlDispatcherResult) (rooms' : Rooms) : Prop :=
  ControlDispatcher.dispatch besideResults draws request keepResult (Store.quiet rooms, []) =
    (some (), (Store.quiet rooms', [result]))

/-- A request that fits its type is answered as `serve` says, and in no other way. -/
theorem answers_iff {draws : Nat → Draw} {rooms rooms' : Rooms}
    {request : ControlDispatcherRequest} {result : ControlDispatcherResult}
    (hfits : Fits request) :
    Answers draws rooms request result rooms' ↔
      serve draws rooms request.requestMeta request.command = (result, rooms') := by
  have hstore : besideResults (ControlDispatcher.resultOf draws request) (Store.quiet rooms, []) =
      (some (serve draws rooms request.requestMeta request.command).1,
        (Store.quiet (serve draws rooms request.requestMeta request.command).2, [])) := by
    simp only [besideResults, resultOf_quiet draws rooms request hfits]
  have hdispatch : ControlDispatcher.dispatch besideResults draws request keepResult
      (Store.quiet rooms, []) =
      (some (), (Store.quiet (serve draws rooms request.requestMeta request.command).2,
        [(serve draws rooms request.requestMeta request.command).1])) :=
    Throwing.attempt_of_some (Throwing.bind_of_some hstore)
  rw [Answers, hdispatch]
  constructor
  · intro hsame
    obtain ⟨hrooms, hresult⟩ := Prod.mk.inj (Prod.mk.inj hsame).2
    have htable : (serve draws rooms request.requestMeta request.command).2 = rooms' :=
      congrArg Store.rooms hrooms
    exact Prod.ext (List.singleton_inj.mp hresult) htable
  · intro hsame
    rw [hsame]

end App

namespace Net
namespace Server

open Domain App

variable {parse : ByteArray → ParseResult}

/-- Every stored code came out of the generator. -/
theorem stored_code_was_drawn {history : List (EventMachine.Step Server Event Posted)}
    {server : Server} (hrun : (machine parse).Run history server) :
    AllRooms (fun code _ => ∃ draw, code = generateRoomCode draw) server := by
  refine hrun.stateInvariant ?_ ?_
  · intro code room hstored
    cases hstored
  · intro server event server' posts hall hstep
    refine hall.step hstep ?_ ?_ ?_
    · intro code password participant draws _ hfresh
      obtain ⟨-, n, -, -, hcode⟩ := freshCode_spec hfresh
      exact ⟨draws n, hcode⟩
    · intro code room participant password _ _ hdrawn
      exact hdrawn
    · intro code room participantId hdrawn
      exact hdrawn

/-- **Creating a room allocates a fresh one.**  For every table and every sequence of draws, the
dispatcher gives up, changing nothing, exactly when the first hundred codes are all stored;
otherwise the first free code gets a room with the creator in it and the given secret, and no other
slot changes.  In every run, all stored codes have six digits; distinct draws give distinct
codes. -/
theorem create_room_allocates (parse : ByteArray → ParseResult) :
    (∀ (rooms : Rooms) (draws : Nat → Draw) (requestId : Option String)
      (signalingType : Option SignalingType) (participant : Participant)
      (password : Option RoomSecret),
      let requestMeta : RequestMeta := ⟨.createRoom, requestId, signalingType⟩
      let request : ControlDispatcherRequest :=
        ⟨requestMeta, .createRoom ⟨participant, password⟩⟩
      (Answers draws rooms request
          (ControlDispatcher.errorResult requestMeta .roomCodeGenerationFailed) rooms ↔
        ∀ n < 100, ∃ room, rooms.lookup (generateRoomCode (draws n)) = some room) ∧
      ∀ n < 100, rooms.lookup (generateRoomCode (draws n)) = none →
        (∀ m < n, ∃ room, rooms.lookup (generateRoomCode (draws m)) = some room) →
        ∃ rooms', Answers draws rooms request
            ⟨.success requestMeta (.createRoom
              ⟨generateRoomCode (draws n), participant, [participant]⟩), []⟩ rooms' ∧
          rooms'.lookup (generateRoomCode (draws n)) =
            some ⟨generateRoomCode (draws n), password, [participant]⟩ ∧
          ∀ other, other ≠ generateRoomCode (draws n) →
            rooms'.lookup other = rooms.lookup other) ∧
    (∀ history server code room, (machine parse).Run history server →
      server.rooms.lookup code = some room → SixDigits code) ∧
    ∀ draw draw' : Draw, draw ≠ draw' → generateRoomCode draw ≠ generateRoomCode draw' := by
  refine ⟨?_, ?_, ?_⟩
  · intro rooms draws requestId signalingType participant password requestMeta request
    have hfits : Fits request := trivial
    have hnone := freshCode_eq_none_iff rooms draws RoomService.maxAttempts 0
    constructor
    · rw [answers_iff hfits]
      constructor
      · intro hserve
        cases hfresh : freshCode rooms draws RoomService.maxAttempts 0 with
        | none =>
            intro n hn
            exact hnone.mp hfresh n (Nat.zero_le n) (by simpa [RoomService.maxAttempts] using hn)
        | some code =>
            simp only [request, serve, hfresh] at hserve
            cases congrArg ControlDispatcherResult.response (Prod.mk.inj hserve).1
      · intro hall
        have hfresh : freshCode rooms draws RoomService.maxAttempts 0 = none := by
          refine hnone.mpr ?_
          intro n hle hlt
          exact hall n (by simpa [RoomService.maxAttempts] using hlt)
        simp only [request, serve, hfresh]
    · intro n hn hfree hfirst
      have hfresh : freshCode rooms draws RoomService.maxAttempts 0 =
          some (generateRoomCode (draws n)) := by
        refine freshCode_of_first (Nat.zero_le n) (by simpa [RoomService.maxAttempts] using hn)
          hfree ?_
        intro m _ hm
        exact hfirst m hm
      refine ⟨rooms.insert (generateRoomCode (draws n))
        ⟨generateRoomCode (draws n), password, [participant]⟩, ?_, ?_, ?_⟩
      · rw [answers_iff hfits]
        simp only [request, serve, hfresh]
      · exact Finmap.lookup_insert rooms
      · intro other hother
        exact Finmap.lookup_insert_of_ne rooms hother
  · intro history server code room hrun hstored
    obtain ⟨draw, rfl⟩ := stored_code_was_drawn hrun code room hstored
    exact sixDigits_generateRoomCode draw
  · intro draw draw' hne hsame
    exact hne (generateRoomCode_injective hsame)

end Server
end Net
end BuzzWeb
