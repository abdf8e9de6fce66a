import Mathlib.Data.List.Basic

/-!
# Code that may throw

A computation over a mutable state that returns a value or throws.  As in the languages it models,
what was written before the throw stays written: the state comes back in both cases.  `none` is a
thrown exception; which exception it was does not matter to any handler modelled with this monad.

The state may carry a list of planned faults.  A *point* takes the next planned fault and throws
when it is set; when the list is used up, nothing throws any more.  A run passes finitely many
points, so lists cover every choice of throwing points.
-/

/-- A computation that returns (`some`) or throws (`none`), and the state it leaves behind. -/
def Throwing (σ : Type) (α : Type) : Type :=
  σ → Option α × σ

namespace Throwing

variable {σ α β : Type}

/-- Sequencing: a throw skips what follows and keeps the state. -/
def bind (a : Throwing σ α) (f : α → Throwing σ β) : Throwing σ β := fun s =>
  match a s with
  | (some x, s') => f x s'
  | (none, s') => (none, s')

instance : Monad (Throwing σ) where
  pure x := fun s => (some x, s)
  bind := bind

/-- Throw an exception. -/
def throw : Throwing σ α := fun s => (none, s)

/-- Read something off the state. -/
def reads (f : σ → α) : Throwing σ α := fun s => (some (f s), s)

/-- Write the state. -/
def modify (f : σ → σ) : Throwing σ Unit := fun s => (some (), f s)

/-- `try a catch h`. -/
def attempt (a h : Throwing σ α) : Throwing σ α := fun s =>
  match a s with
  | (some x, s') => (some x, s')
  | (none, s') => h s'

/-- A range-for loop over a list. -/
def forEach (body : α → Throwing σ Unit) : List α → Throwing σ Unit
  | [] => pure ()
  | x :: xs => do
      body x
      forEach body xs

@[simp] theorem pure_apply (x : α) (s : σ) : (pure x : Throwing σ α) s = (some x, s) := rfl

@[simp] theorem reads_apply (f : σ → α) (s : σ) : reads f s = (some (f s), s) := rfl

@[simp] theorem modify_apply (f : σ → σ) (s : σ) : modify f s = (some (), f s) := rfl

theorem bind_apply (a : Throwing σ α) (f : α → Throwing σ β) (s : σ) :
    (a >>= f) s = match a s with
      | (some x, s') => f x s'
      | (none, s') => (none, s') := rfl

theorem bind_of_some {a : Throwing σ α} {f : α → Throwing σ β} {s s' : σ} {x : α}
    (h : a s = (some x, s')) : (a >>= f) s = f x s' := by
  rw [bind_apply, h]

theorem bind_of_none {a : Throwing σ α} {f : α → Throwing σ β} {s s' : σ}
    (h : a s = (none, s')) : (a >>= f) s = (none, s') := by
  rw [bind_apply, h]

theorem attempt_of_some {a h : Throwing σ α} {s s' : σ} {x : α}
    (hreturn : a s = (some x, s')) : attempt a h s = (some x, s') := by
  rw [attempt, hreturn]

theorem attempt_of_none {a h : Throwing σ α} {s s' : σ}
    (hthrow : a s = (none, s')) : attempt a h s = h s' := by
  rw [attempt, hthrow]

/-- A handler that only returns catches everything. -/
theorem attempt_pure (a : Throwing σ α) (y : α) (s : σ) :
    ∃ x s', attempt a (pure y) s = (some x, s') := by
  rcases hresult : a s with ⟨_ | x, s'⟩
  · exact ⟨y, s', attempt_of_none hresult⟩
  · exact ⟨x, s', attempt_of_some hresult⟩

/-- What throws out of a `try` block has thrown twice: in the block and in its handler. -/
theorem attempt_eq_none_iff {a h : Throwing σ α} {s s' : σ} :
    attempt a h s = (none, s') ↔ ∃ t, a s = (none, t) ∧ h t = (none, s') := by
  rcases hresult : a s with ⟨_ | x, t⟩
  · rw [attempt_of_none hresult]
    constructor
    · intro hthrow
      exact ⟨t, rfl, hthrow⟩
    · rintro ⟨t', hsame, hthrow⟩
      obtain ⟨-, rfl⟩ := Prod.mk.inj hsame
      exact hthrow
  · rw [attempt_of_some hresult]
    constructor
    · intro hthrow
      cases hthrow
    · rintro ⟨t', hsame, -⟩
      cases hsame

/-! ## What a computation does to the state, whether it returns or throws -/

/-- A relation between the states around a computation, told apart by its outcome: `true` when it
throws.  It composes when a further computation may follow a return (`bind`) and a throw
(`attempt`). -/
structure Composes (R : Bool → σ → σ → Prop) : Prop where
  refl : ∀ s, R false s s
  after_return : ∀ {throws s t u}, R false s t → R throws t u → R throws s u
  after_throw : ∀ {throws s t u}, R true s t → R throws t u → R throws s u

/-- The computation takes the state along the relation of its outcome. -/
def ObeysAt (R : Bool → σ → σ → Prop) (a : Throwing σ α) (s : σ) : Prop :=
  R (a s).1.isNone s (a s).2

/-- The computation takes every state along the relation of its outcome. -/
def Obeys (R : Bool → σ → σ → Prop) (a : Throwing σ α) : Prop :=
  ∀ s, ObeysAt R a s

section Obeys

variable {R : Bool → σ → σ → Prop} {a h : Throwing σ α}

theorem ObeysAt.of_some {s s' : σ} {x : α} (ha : ObeysAt R a s) (hreturn : a s = (some x, s')) :
    R false s s' := by
  rwa [ObeysAt, hreturn] at ha

theorem ObeysAt.of_none {s s' : σ} (ha : ObeysAt R a s) (hthrow : a s = (none, s')) :
    R true s s' := by
  rwa [ObeysAt, hthrow] at ha

variable (hR : Composes R)
include hR

theorem obeys_pure (x : α) : Obeys R (pure x : Throwing σ α) :=
  fun s => hR.refl s

theorem obeys_reads (f : σ → α) : Obeys R (reads f) :=
  fun s => hR.refl s

/-- Sequencing: what follows may count on what the first computation returned, and on the state it
left. -/
theorem ObeysAt.bind {f : α → Throwing σ β} {s : σ} (ha : ObeysAt R a s)
    (hf : ∀ x s', a s = (some x, s') → ObeysAt R (f x) s') : ObeysAt R (a >>= f) s := by
  rcases hresult : a s with ⟨result, s'⟩
  cases result with
  | none =>
      rw [ObeysAt, bind_of_none hresult]
      exact ha.of_none hresult
  | some x =>
      rw [ObeysAt, bind_of_some hresult]
      exact hR.after_return (ha.of_some hresult) (hf x s' hresult)

theorem Obeys.bind {f : α → Throwing σ β} (ha : Obeys R a) (hf : ∀ x, Obeys R (f x)) :
    Obeys R (a >>= f) :=
  fun s => ObeysAt.bind hR (ha s) fun x s' _ => hf x s'

theorem Obeys.attempt (ha : Obeys R a) (hh : Obeys R h) : Obeys R (Throwing.attempt a h) := by
  intro s
  rcases hresult : a s with ⟨result, s'⟩
  cases result with
  | none =>
      rw [ObeysAt, attempt_of_none hresult]
      exact hR.after_throw ((ha s).of_none hresult) (hh s')
  | some x =>
      rw [ObeysAt, attempt_of_some hresult]
      exact (ha s).of_some hresult

theorem Obeys.forEach {body : α → Throwing σ Unit} (hbody : ∀ x, Obeys R (body x))
    (items : List α) : Obeys R (forEach body items) := by
  induction items with
  | nil => exact obeys_pure hR ()
  | cons x rest ih => exact Obeys.bind hR (hbody x) fun _ => ih

end Obeys

/-! ## Two computations side by side -/

/-- From related states the two computations both throw, or both return related values, and leave
related states. -/
def Related {σ' α' : Type} (R : σ → σ' → Prop) (V : α → α' → Prop) (a : Throwing σ α)
    (b : Throwing σ' α') : Prop :=
  ∀ s t, R s t → Option.Rel V (a s).1 (b t).1 ∧ R (a s).2 (b t).2

section Related

variable {σ' α' β' : Type} {R : σ → σ' → Prop} {V : α → α' → Prop} {W : β → β' → Prop}
  {a h : Throwing σ α} {b h' : Throwing σ' α'}

theorem related_pure {x : α} {y : α'} (hxy : V x y) :
    Related R V (pure x : Throwing σ α) (pure y : Throwing σ' α') :=
  fun _ _ hst => ⟨.some hxy, hst⟩

theorem Related.bind {f : α → Throwing σ β} {g : α' → Throwing σ' β'} (hab : Related R V a b)
    (hfg : ∀ x y, V x y → Related R W (f x) (g y)) : Related R W (a >>= f) (b >>= g) := by
  intro s t hst
  obtain ⟨hvalues, hstates⟩ := hab s t hst
  rcases ha : a s with ⟨x, s'⟩
  rcases hb : b t with ⟨y, t'⟩
  rw [ha, hb] at hvalues hstates
  cases hvalues with
  | none =>
      rw [bind_of_none ha, bind_of_none hb]
      exact ⟨.none, hstates⟩
  | some hxy =>
      rw [bind_of_some ha, bind_of_some hb]
      exact hfg _ _ hxy s' t' hstates

theorem Related.attempt (hab : Related R V a b) (hhandlers : Related R V h h') :
    Related R V (Throwing.attempt a h) (Throwing.attempt b h') := by
  intro s t hst
  obtain ⟨hvalues, hstates⟩ := hab s t hst
  rcases ha : a s with ⟨x, s'⟩
  rcases hb : b t with ⟨y, t'⟩
  rw [ha, hb] at hvalues hstates
  cases hvalues with
  | none =>
      rw [attempt_of_none ha, attempt_of_none hb]
      exact hhandlers s' t' hstates
  | some hxy =>
      rw [attempt_of_some ha, attempt_of_some hb]
      exact ⟨.some hxy, hstates⟩

theorem Related.forEach {body : α → Throwing σ Unit} {body' : α → Throwing σ' Unit}
    (hbody : ∀ x, Related R Eq (body x) (body' x)) (items : List α) :
    Related R Eq (forEach body items) (Throwing.forEach body' items) := by
  induction items with
  | nil => exact related_pure rfl
  | cons x rest ih => exact Related.bind (hbody x) fun _ _ _ => ih

end Related

end Throwing
