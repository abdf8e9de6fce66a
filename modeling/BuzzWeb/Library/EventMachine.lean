import Mathlib.Data.List.Forall2

/-!
# Machines driven by events

A machine answers an event with a new state and the list of outputs it caused.  The answer `none`
means that the event cannot happen in that state.  Everything the environment decides (which
handler runs next, what a random generator draws, in which order a hash table is walked) is part
of the event, so a run is determined by its events.

A run keeps its whole history, one `Step` per event, because the laws proved over it relate the
last state to what happened before.  The history grows at the end: `Run.invariant` is the
induction rule, and `Run.split` recovers the run that led to a given step.
-/

universe u v w

/-- A deterministic machine with outputs. -/
structure EventMachine (σ : Type u) (ε : Type v) (ο : Type w) where
  /-- The state before the first event. -/
  init : σ
  /-- One event, when it can happen. -/
  step : σ → ε → Option (σ × List ο)

namespace EventMachine

variable {σ : Type u} {ε : Type v} {ο : Type w}

/-- One event of a history with the states around it and what it caused. -/
structure Step (σ : Type u) (ε : Type v) (ο : Type w) where
  pre : σ
  event : ε
  output : List ο
  post : σ

/-- `M.Run history s`: the events of `history` lead from the initial state to `s`. -/
inductive Run (M : EventMachine σ ε ο) : List (Step σ ε ο) → σ → Prop
  | nil : Run M [] M.init
  | snoc {history : List (Step σ ε ο)} {s : σ} {e : ε} {s' : σ} {out : List ο}
      (hrun : Run M history s) (hstep : M.step s e = some (s', out)) :
      Run M (history ++ [⟨s, e, out, s'⟩]) s'

/-- A state that some run ends in. -/
def Reachable (M : EventMachine σ ε ο) (s : σ) : Prop :=
  ∃ history, M.Run history s

variable {M : EventMachine σ ε ο}

/-- Everything the steps of a history caused, in order. -/
def trace (history : List (Step σ ε ο)) : List ο :=
  history.flatMap Step.output

@[simp] theorem trace_nil : trace ([] : List (Step σ ε ο)) = [] := rfl

@[simp] theorem trace_concat (history : List (Step σ ε ο)) (st : Step σ ε ο) :
    trace (history ++ [st]) = trace history ++ st.output := by
  simp [trace]

/-- Take the events one after the other from `s`, adding their steps to `history`. -/
def execFrom (M : EventMachine σ ε ο) (history : List (Step σ ε ο)) (s : σ) :
    List ε → Option (List (Step σ ε ο) × σ)
  | [] => some (history, s)
  | e :: rest =>
      match M.step s e with
      | none => none
      | some (s', out) => M.execFrom (history ++ [⟨s, e, out, s'⟩]) s' rest

/-- Take the events one after the other from the initial state. -/
def exec (M : EventMachine σ ε ο) (events : List ε) : Option (List (Step σ ε ο) × σ) :=
  M.execFrom [] M.init events

theorem Run.execFrom {history history' : List (Step σ ε ο)} {s s' : σ} {events : List ε}
    (hrun : M.Run history s) (hexec : M.execFrom history s events = some (history', s')) :
    M.Run history' s' := by
  induction events generalizing history s with
  | nil =>
      obtain ⟨rfl, rfl⟩ := Prod.mk.inj (Option.some.inj hexec)
      exact hrun
  | cons e rest ih =>
      rw [EventMachine.execFrom] at hexec
      split at hexec
      · cases hexec
      · next s₁ out hstep => exact ih (hrun.snoc hstep) hexec

/-- Events of a kind that keep an invariant and make a measure smaller can only be taken as often as
the measure says. -/
theorem execFrom_bounded {I : List (Step σ ε ο) → σ → Prop} {E : ε → Prop} {m : σ → Nat}
    (hstep : ∀ history s e s' out, I history s → E e → M.step s e = some (s', out) →
      I (history ++ [⟨s, e, out, s'⟩]) s' ∧ m s' < m s)
    {history history' : List (Step σ ε ο)} {s s' : σ} {events : List ε}
    (hevents : ∀ e ∈ events, E e) (hI : I history s)
    (hexec : M.execFrom history s events = some (history', s')) :
    I history' s' ∧ events.length + m s' ≤ m s := by
  induction events generalizing history s with
  | nil =>
      obtain ⟨rfl, rfl⟩ := Prod.mk.inj (Option.some.inj hexec)
      exact ⟨hI, by simp⟩
  | cons e rest ih =>
      rw [EventMachine.execFrom] at hexec
      split at hexec
      · cases hexec
      · next s₁ out hfirst =>
          obtain ⟨hI₁, hless⟩ := hstep history s e s₁ out hI (hevents e List.mem_cons_self) hfirst
          have hrest : ∀ e ∈ rest, E e := fun e hmem => hevents e (List.mem_cons_of_mem _ hmem)
          obtain ⟨hI', hle⟩ := ih hrest hI₁ hexec
          refine ⟨hI', ?_⟩
          rw [List.length_cons]
          omega

/-- Events that can be taken make a run. -/
theorem run_of_exec {history : List (Step σ ε ο)} {s : σ} {events : List ε}
    (hexec : M.exec events = some (history, s)) : M.Run history s :=
  Run.nil.execFrom hexec

/-- What holds before the first event and is kept by every step of a run holds at the end of
every run. -/
theorem Run.invariant {I : List (Step σ ε ο) → σ → Prop} (hinit : I [] M.init)
    (hstep : ∀ history s e s' out, M.Run history s → I history s →
      M.step s e = some (s', out) → I (history ++ [⟨s, e, out, s'⟩]) s')
    {history : List (Step σ ε ο)} {s : σ} (hrun : M.Run history s) : I history s := by
  induction hrun with
  | nil => exact hinit
  | snoc hprev hlast ih => exact hstep _ _ _ _ _ hprev ih hlast

/-- The invariant rule for properties of the state alone. -/
theorem Run.stateInvariant {I : σ → Prop} (hinit : I M.init)
    (hstep : ∀ s e s' out, I s → M.step s e = some (s', out) → I s')
    {history : List (Step σ ε ο)} {s : σ} (hrun : M.Run history s) : I s :=
  Run.invariant (I := fun _ s => I s) hinit
    (fun _ s e s' out _ hI hlast => hstep s e s' out hI hlast) hrun

theorem Reachable.init : M.Reachable M.init :=
  ⟨[], .nil⟩

theorem Reachable.step {s s' : σ} {e : ε} {out : List ο} (hreach : M.Reachable s)
    (hstep : M.step s e = some (s', out)) : M.Reachable s' := by
  obtain ⟨history, hrun⟩ := hreach
  exact ⟨_, hrun.snoc hstep⟩

/-- Every step of a history was taken from the state its own prefix of the run leads to. -/
theorem Run.split {history : List (Step σ ε ο)} {s : σ} (hrun : M.Run history s)
    {before after : List (Step σ ε ο)} {st : Step σ ε ο}
    (hsplit : history = before ++ st :: after) :
    M.Run before st.pre ∧ M.step st.pre st.event = some (st.post, st.output) := by
  induction hrun generalizing after with
  | nil => simp at hsplit
  | snoc hprev hlast ih =>
      rcases List.eq_nil_or_concat after with rfl | ⟨rest, lastStep, rfl⟩
      · obtain ⟨hbefore, hst⟩ := List.append_inj' hsplit rfl
        obtain rfl := List.singleton_inj.mp hst
        subst hbefore
        exact ⟨hprev, hlast⟩
      · have hassoc : before ++ st :: (rest ++ [lastStep]) = (before ++ st :: rest) ++ [lastStep] := by
          simp
        rw [List.concat_eq_append, hassoc] at hsplit
        exact ih (List.append_inj' hsplit rfl).1

/-- The last step of a run. -/
theorem Run.last {history : List (Step σ ε ο)} {s : σ} {st : Step σ ε ο}
    (hrun : M.Run (history ++ [st]) s) :
    M.Run history st.pre ∧ M.step st.pre st.event = some (st.post, st.output) ∧ s = st.post := by
  have hsplit : history ++ [st] = history ++ st :: [] := rfl
  obtain ⟨hprev, hstep⟩ := hrun.split hsplit
  refine ⟨hprev, hstep, ?_⟩
  generalize hlonger : history ++ [st] = longer at hrun
  cases hrun with
  | nil => simp at hlonger
  | snoc hother hlast =>
      obtain ⟨-, hsame⟩ := List.append_inj' hlonger rfl
      rw [List.singleton_inj.mp hsame]

/-- A list related to a longer one ends in a related element. -/
theorem forall₂_concat_left {α β : Type*} {R : α → β → Prop} {l : List α} {a : α} {m : List β}
    (h : List.Forall₂ R (l ++ [a]) m) :
    ∃ m' b, m = m' ++ [b] ∧ List.Forall₂ R l m' ∧ R a b := by
  induction l generalizing m with
  | nil =>
      cases h with
      | cons hhead htail =>
          cases htail
          exact ⟨[], _, rfl, .nil, hhead⟩
  | cons head rest ih =>
      cases h with
      | cons hhead htail =>
          obtain ⟨m', b, rfl, hrest, hlast⟩ := ih htail
          exact ⟨_ :: m', b, rfl, .cons hhead hrest, hlast⟩

/-- Two machines in lock step.  When related events keep related states related and cause the same
outputs, every run has a run of the other machine beside it, over any events related to its own. -/
theorem Run.lockstep {σ' : Type*} {ε' : Type*} {M' : EventMachine σ' ε' ο} {R : σ → σ' → Prop}
    {E : ε → ε' → Prop} (hinit : R M.init M'.init)
    (hstep : ∀ s s' e e' t out, R s s' → E e e' → M.step s e = some (t, out) →
      ∃ t', M'.step s' e' = some (t', out) ∧ R t t')
    {history : List (Step σ ε ο)} {s : σ} (hrun : M.Run history s) {events : List ε'}
    (hevents : List.Forall₂ (fun st e' => E st.event e') history events) :
    ∃ history' s', M'.Run history' s' ∧ history'.map Step.event = events ∧
      history'.map Step.output = history.map Step.output ∧ R s s' := by
  induction hrun generalizing events with
  | nil =>
      cases hevents
      exact ⟨[], M'.init, .nil, rfl, rfl, hinit⟩
  | snoc hprev hlast ih =>
      obtain ⟨before, e', rfl, hbefore, he⟩ := forall₂_concat_left hevents
      obtain ⟨history', s', hrun', hmap, houtputs, hR⟩ := ih hbefore
      obtain ⟨t', hlast', hR'⟩ := hstep _ _ _ _ _ _ hR he hlast
      refine ⟨_, t', hrun'.snoc hlast', ?_, ?_, hR'⟩
      · simp [hmap]
      · simp [houtputs]

/-- A machine that implements another one.  Some steps count as an event of the other machine,
named by `point`; the others count as nothing.  When the relation `R` is kept in both cases, every
run has a run of the other machine beside it, over exactly these events, in this order. -/
theorem Run.implements {σ' : Type*} {ε' : Type*} {ο' : Type*} {M' : EventMachine σ' ε' ο'}
    {point : Step σ ε ο → Option ε'}
    {R : List (Step σ ε ο) → σ → List (Step σ' ε' ο') → σ' → Prop} (hinit : R [] M.init [] M'.init)
    (hidle : ∀ history s e s' out history' t, M.Run history s → R history s history' t →
      M.step s e = some (s', out) → point ⟨s, e, out, s'⟩ = none →
      R (history ++ [⟨s, e, out, s'⟩]) s' history' t)
    (hpoint : ∀ history s e s' out history' t e', M.Run history s → R history s history' t →
      M.step s e = some (s', out) → point ⟨s, e, out, s'⟩ = some e' →
      ∃ t' out', M'.step t e' = some (t', out') ∧
        R (history ++ [⟨s, e, out, s'⟩]) s' (history' ++ [⟨t, e', out', t'⟩]) t')
    {history : List (Step σ ε ο)} {s : σ} (hrun : M.Run history s) :
    ∃ history' t, M'.Run history' t ∧ history'.map Step.event = history.filterMap point ∧
      R history s history' t := by
  induction hrun with
  | nil => exact ⟨[], M'.init, .nil, rfl, hinit⟩
  | snoc hprev hlast ih =>
      obtain ⟨history', t, hrun', hevents, hR⟩ := ih
      rw [List.filterMap_append, List.filterMap_cons, List.filterMap_nil]
      split
      · next hnone =>
          refine ⟨history', t, hrun', ?_, hidle _ _ _ _ _ _ _ hprev hR hlast hnone⟩
          rw [hevents, List.append_nil]
      · next e' hsome =>
          obtain ⟨t', out', hstep', hR'⟩ := hpoint _ _ _ _ _ _ _ _ hprev hR hlast hsome
          refine ⟨_, t', hrun'.snoc hstep', ?_, hR'⟩
          rw [List.map_append, hevents]
          rfl

/-- The steps of a history are steps of the machine. -/
theorem Run.step_of_mem {history : List (Step σ ε ο)} {s : σ} (hrun : M.Run history s)
    {st : Step σ ε ο} (hmem : st ∈ history) :
    M.Reachable st.pre ∧ M.step st.pre st.event = some (st.post, st.output) := by
  obtain ⟨before, after, hsplit⟩ := List.append_of_mem hmem
  obtain ⟨hbefore, hst⟩ := hrun.split hsplit
  exact ⟨⟨before, hbefore⟩, hst⟩

end EventMachine
