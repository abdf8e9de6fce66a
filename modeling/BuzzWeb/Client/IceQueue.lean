import Mathlib.Algebra.Order.Group.Multiset
import Mathlib.Tactic.Abel
import BuzzWeb.Client.PageWrites

/-!
# The queue of ICE candidates

A candidate that arrives before the remote description waits in a queue of at most fifty.  The queue
is emptied by `flushPendingIceCandidates`, one `await` after the other, while further candidates
arrive, while the user hangs up and while other calls of the same function run.  Over every such
interleaving the candidates are accounted for: each one was handed over once, or dropped by a queue
that was full, or thrown away with its peer connection, or it still waits, and those that wait stand
in the order of their arrival.
-/

namespace BuzzWeb
namespace Client

namespace Output

/-- The candidate that an output has made, handed over, dropped or thrown away. -/
def made : Output → Option Json
  | candidateMade candidate => some candidate
  | _ => none

def added : Output → Option Json
  | candidateAdded _ candidate => some candidate
  | _ => none

def dropped : Output → Option Json
  | candidateDropped candidate => some candidate
  | _ => none

def reset : Output → Option Json
  | candidateReset candidate => some candidate
  | _ => none

end Output

namespace Page

/-- The books of the queue, after some outputs. -/
structure Accounted (limit : Nat) (out : List Output) (queue : List Json) : Prop where
  balance : (out.filterMap Output.made : Multiset Json) = out.filterMap Output.added +
    out.filterMap Output.dropped + out.filterMap Output.reset + queue
  bounded : queue.length ≤ limit
  ordered : queue.Sublist (out.filterMap Output.made)
  full : out.filterMap Output.dropped ≠ [] → 50 < (out.filterMap Output.made).length

variable {out : List Output} {queue : List Json}

/-- Outputs about other things. -/
theorem Accounted.other (h : Accounted 50 out queue) {output : Output} (hmade : output.made = none)
    (hadded : output.added = none) (hdropped : output.dropped = none)
    (hreset : output.reset = none) : Accounted 50 (out ++ [output]) queue := by
  constructor
  · simpa [List.filterMap_append, hmade, hadded, hdropped, hreset] using h.balance
  · exact h.bounded
  · simpa [List.filterMap_append, hmade] using h.ordered
  · simpa [List.filterMap_append, hmade, hdropped] using h.full

/-- A new candidate that is handed over at once. -/
theorem Accounted.direct (h : Accounted 50 out queue) (pc : Nat) (candidate : Json) :
    Accounted 50 (out ++ [.candidateMade candidate] ++ [.candidateAdded pc candidate]) queue := by
  constructor
  · simp only [List.filterMap_append, List.filterMap_cons, List.filterMap_nil, Output.made,
      Output.added, Output.dropped, Output.reset, List.append_nil, ← Multiset.coe_add, h.balance]
    abel
  · exact h.bounded
  · simpa [List.filterMap_cons, Output.made] using
      h.ordered.trans (List.sublist_append_left _ [candidate])
  · intro hdropped
    have hbefore : out.filterMap Output.dropped ≠ [] := by
      simpa only [List.filterMap_append, List.filterMap_cons, List.filterMap_nil, Output.dropped,
        List.append_nil] using hdropped
    have hfull := h.full hbefore
    simp only [List.filterMap_append, List.filterMap_cons, List.filterMap_nil, Output.made,
      List.length_append, List.length_singleton, List.length_nil]
    omega

/-- The first candidate of the queue is handed over. -/
theorem Accounted.flush {candidate : Json} {rest : List Json}
    (h : Accounted 50 out (candidate :: rest)) (pc : Nat) :
    Accounted 50 (out ++ [.candidateAdded pc candidate]) rest := by
  constructor
  · have hcons : ((candidate :: rest : List Json) : Multiset Json) =
        ([candidate] : List Json) + rest := rfl
    simp only [List.filterMap_append, List.filterMap_cons, List.filterMap_nil, Output.made,
      Output.added, Output.dropped, Output.reset, List.append_nil, ← Multiset.coe_add, h.balance,
      hcons]
    abel
  · have hlength := h.bounded
    rw [List.length_cons] at hlength
    omega
  · simpa [List.filterMap_cons, Output.made] using (List.sublist_cons_self _ _).trans h.ordered
  · simpa only [List.filterMap_append, List.filterMap_cons, List.filterMap_nil, Output.made,
      Output.dropped, List.append_nil] using h.full

/-- The whole queue is thrown away. -/
theorem Accounted.reset (h : Accounted 50 out queue) :
    Accounted 50 (out ++ queue.map .candidateReset) [] := by
  have hnone (kind : Output → Option Json)
      (hkind : ∀ candidate, kind (.candidateReset candidate) = none) :
      (queue.map .candidateReset).filterMap kind = [] := by
    simp [List.filterMap_map, hkind]
  have hreset : (queue.map .candidateReset).filterMap Output.reset = queue := by
    simp [List.filterMap_map, Function.comp_def, Output.reset]
  have hmade := hnone Output.made fun _ => rfl
  have hadded := hnone Output.added fun _ => rfl
  have hdropped := hnone Output.dropped fun _ => rfl
  constructor
  · simp only [List.filterMap_append, hmade, hadded, hdropped, hreset, List.append_nil,
      ← Multiset.coe_add, h.balance, Multiset.coe_nil, add_zero, add_assoc]
  · exact Nat.zero_le _
  · exact List.nil_sublist _
  · simpa [List.filterMap_append, hmade, hdropped] using h.full

/-- A new candidate at the end of the queue, which may then be one too long. -/
theorem Accounted.push (h : Accounted 50 out queue) (candidate : Json) :
    Accounted 51 (out ++ [.candidateMade candidate]) (queue ++ [candidate]) := by
  constructor
  · simp only [List.filterMap_append, List.filterMap_cons, List.filterMap_nil, Output.made,
      Output.added, Output.dropped, Output.reset, List.append_nil, ← Multiset.coe_add, h.balance,
      add_assoc]
  · have hlength := h.bounded
    rw [List.length_append, List.length_singleton]
    omega
  · simpa [List.filterMap_cons, Output.made] using h.ordered.append (List.Sublist.refl [candidate])
  · intro hdropped
    have hbefore : out.filterMap Output.dropped ≠ [] := by
      simpa only [List.filterMap_append, List.filterMap_cons, List.filterMap_nil, Output.dropped,
        List.append_nil] using hdropped
    have hfull := h.full hbefore
    rw [List.filterMap_append, List.length_append]
    omega

/-- Only a queue of more than fifty loses its first candidate. -/
theorem Accounted.shift {first : Json} {rest : List Json} (h : Accounted 51 out (first :: rest))
    (hlong : rest.length + 1 > 50) : Accounted 50 (out ++ [.candidateDropped first]) rest := by
  have hcons : ((first :: rest : List Json) : Multiset Json) = ([first] : List Json) + rest := rfl
  have hlength := h.bounded
  rw [List.length_cons] at hlength
  constructor
  · simp only [List.filterMap_append, List.filterMap_cons, List.filterMap_nil, Output.made,
      Output.added, Output.dropped, Output.reset, List.append_nil, ← Multiset.coe_add, h.balance,
      hcons]
    abel
  · omega
  · simpa [List.filterMap_cons, Output.made] using (List.sublist_cons_self _ _).trans h.ordered
  · intro _
    have hmade := h.ordered.length_le
    rw [List.length_cons] at hmade
    simp only [List.filterMap_append, List.filterMap_cons, List.filterMap_nil, Output.made,
      List.append_nil]
    omega

theorem Accounted.enqueue {page : Page} {past : List Output}
    (h : Accounted 50 (past ++ page.out) page.pendingIceCandidates) (candidate : Json) :
    Accounted 50 (past ++ (enqueueCandidate candidate
        { page with out := page.out ++ [.candidateMade candidate] }).out)
      (enqueueCandidate candidate
        { page with out := page.out ++ [.candidateMade candidate] }).pendingIceCandidates := by
  have hpushed := h.push candidate
  rw [List.append_assoc] at hpushed
  unfold enqueueCandidate
  cases hqueue : page.pendingIceCandidates ++ [candidate] with
  | nil => simp at hqueue
  | cons first rest =>
      rw [hqueue] at hpushed
      dsimp only
      split_ifs with hlong
      · rw [← List.append_assoc past]
        exact hpushed.shift hlong
      · have hshort : (first :: rest).length ≤ 50 := by
          rw [List.length_cons]
          omega
        exact ⟨hpushed.balance, hshort, hpushed.ordered, hpushed.full⟩

/-- Every write keeps the books. -/
theorem Accounted.write {G : Json → Prop} {viewing : Prop} {past : List Output} {page page' : Page}
    (h : Accounted 50 (past ++ page.out) page.pendingIceCandidates)
    (hwrite : Write G viewing page page') :
    Accounted 50 (past ++ page'.out) page'.pendingIceCandidates := by
  cases hwrite with
  | quiet => exact h
  | view => exact h
  | await => exact h
  | settle => exact h
  | send hopen hrequest =>
      rw [← List.append_assoc]
      exact h.other rfl rfl rfl rfl
  | unhandled type =>
      rw [← List.append_assoc]
      exact h.other rfl rfl rfl rfl
  | connect => exact h
  | reset =>
      rw [← List.append_assoc]
      exact h.reset
  | flush hqueue hpc =>
      rw [hqueue] at h
      rw [← List.append_assoc]
      exact h.flush _
  | direct pc candidate hpc =>
      have hdirect := h.direct pc candidate
      rwa [List.append_assoc, List.append_assoc, ← List.append_assoc page.out] at hdirect
  | queue candidate hpc => exact h.enqueue candidate

/-- **The candidates are accounted for.**  After every run of the page, whatever the user did,
whatever arrived and in whatever order the promises settled: every candidate that was made from a
message was handed to a peer connection, dropped by a full queue, thrown away by a reset or waits,
and each of them exactly once.  Those that wait are at most fifty, in the order of their arrival,
and there is a peer connection to hand them to.  Nothing is dropped before the fifty-first. -/
theorem ice_candidates_accounted {browser : Browser}
    {history : List (EventMachine.Step Page Event Output)} {page : Page}
    (hrun : (machine browser).Run history page) :
    let out := EventMachine.trace history
    (out.filterMap Output.made : Multiset Json) = out.filterMap Output.added +
      out.filterMap Output.dropped + out.filterMap Output.reset + page.pendingIceCandidates ∧
    page.pendingIceCandidates.length ≤ 50 ∧
    page.pendingIceCandidates.Sublist (out.filterMap Output.made) ∧
    (page.pendingIceCandidates ≠ [] → page.pc ≠ none) ∧
    (out.filterMap Output.dropped ≠ [] → 50 < (out.filterMap Output.made).length) := by
  intro out
  have hG : ∀ text : String, (fun _ : Json => True) (.string text) := fun _ => trivial
  have hgood (event : Event) : event.Good fun _ => True :=
    fun _ _ _ _ _ => ⟨fun _ _ => trivial, fun _ _ => trivial⟩
  have hguarded := guarded_of_run hG hrun fun st _ => hgood st.event
  suffices haccounted : Accounted 50 out page.pendingIceCandidates from
    ⟨haccounted.balance, haccounted.bounded, haccounted.ordered, hguarded.connected,
      haccounted.full⟩
  induction hrun with
  | nil =>
      refine ⟨rfl, Nat.zero_le _, List.nil_sublist _, ?_⟩
      intro hdropped
      exact absurd rfl hdropped
  | snoc hprev hlast ih =>
      rename_i history page event page' outputs
      have hbefore := guarded_of_run hG hprev fun st _ => hgood st.event
      obtain ⟨final, hreached, rfl, rfl⟩ := reached_of_step hG hbefore (hgood event) hlast
      -- The books of the whole history, over the writes of the last handler.
      have hfinal := hreached.keeps
        (I := fun page => Accounted 50 (EventMachine.trace history ++ page.out)
          page.pendingIceCandidates) (fun _ _ hbooks hwrite => hbooks.write hwrite)
        (by simpa using ih hbefore)
      simpa [out] using hfinal

/-- A browser that writes other values than strings as one word. -/
def sampleBrowser : Browser where
  text
    | .string value => value
    | _ => "[object Object]"
  text_string := fun _ => rfl
  iceCandidate := fun _ => .ok ()

/-- A message of the server, to the first socket. -/
def received (message : Json) : Event :=
  ⟨0, .messageReceived 0 (.ok message)⟩

/-- A candidate from `p_2`, and its answer. -/
def candidateMessage (text : String) : Json :=
  .object [("payload", .object [("candidate", .object [("candidate", .string text)])]),
    ("type", .string "ice_candidate")]

def answerMessage : Json :=
  .object [("payload", .object [("sdp", .string "v=0")]), ("type", .string "answer")]

/-- Two candidates come before the answer; the flush has handed over the first one. -/
theorem first_candidate_flushed :
    ∃ history page, (machine sampleBrowser).exec [⟨0, .connectClicked (.ok ())⟩,
        ⟨0, .socketOpened 0⟩, received (candidateMessage "a"), received (candidateMessage "b"),
        received answerMessage, ⟨0, .settled 0 (.ok "")⟩] = some (history, page) ∧
      ((EventMachine.trace history).filterMap Output.made).length = 2 ∧
      ((EventMachine.trace history).filterMap Output.added).length = 1 ∧
      page.pendingIceCandidates.length = 1 ∧ page.pc ≠ none := by
  have hexec : (machine sampleBrowser).exec [⟨0, .connectClicked (.ok ())⟩,
      ⟨0, .socketOpened 0⟩, received (candidateMessage "a"), received (candidateMessage "b"),
      received answerMessage, ⟨0, .settled 0 (.ok "")⟩] = some (_, _) := rfl
  refine ⟨_, _, hexec, rfl, rfl, rfl, ?_⟩
  exact (ice_candidates_accounted (EventMachine.run_of_exec hexec)).2.2.2.1 (List.cons_ne_nil _ _)

end Page
end Client
end BuzzWeb
