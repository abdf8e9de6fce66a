import Mathlib.Data.List.DropRight
import Mathlib.Control.Lawful
import BuzzWeb.Library.Json

/-!
# Scripts

A script reads parsed JSON and changes the state of its page.  It may throw, and what was written
before the throw stays written.  The first part has the values: truth, members, strict equality,
`trim`, and the insertion-ordered `Map`.  The second part has the computations and a rule for each of
them: what a script keeps whether it returns or throws, and what it returns (`Keeps`).
-/

/-- A computation over a state that returns a value or throws an error with a message. -/
abbrev Script (σ α : Type) :=
  ExceptT String (StateM σ) α

namespace Script

variable {σ α β : Type}

/-! ## Values -/

/-- The number that a JSON number is to a script. -/
def number : Json → Option Float
  | .numberInteger value => some value.toFloat
  | .numberUnsigned value => some value.toFloat
  | .numberFloat bits => some (Float.ofBits bits)
  | _ => none

/-- Does the value count as true? -/
def isTruthy (value : Json) : Bool :=
  match value with
  | .null => false
  | .boolean flag => flag
  | .string text => text != ""
  | .array _ => true
  | .object _ => true
  | other => (number other).any fun number => !(number == 0 || number.isNaN)

/-- A value that may be `undefined` (`none`), when it counts as true.  `a || b` is the value of `a`
under `truthy`, or else `b`. -/
def truthy (value : Option Json) : Option Json :=
  value.filter isTruthy

/-- `===` between values of different texts: arrays and objects are never identical. -/
def strictEquals : Json → Json → Bool
  | .null, .null => true
  | .boolean value, .boolean other => value == other
  | .string value, .string other => value == other
  | .array _, _ => false
  | .object _, _ => false
  | value, other =>
      match number value, number other with
      | some value, some other => value == other
      | _, _ => false

/-- The value, when it is a string. -/
def asString : Option Json → Option String
  | some (.string text) => some text
  | _ => none

/-- White space and line terminators. -/
def isBlank (c : Char) : Bool :=
  c.toNat ∈ [0x9, 0xA, 0xB, 0xC, 0xD, 0x20, 0xA0, 0x1680, 0x2028, 0x2029, 0x202F, 0x205F, 0x3000,
    0xFEFF] || (0x2000 ≤ c.toNat && c.toNat ≤ 0x200A)

/-- `text.trim()`. -/
def trim (text : String) : String :=
  .ofList ((text.toList.dropWhile isBlank).rdropWhile isBlank)

/-- `text.endsWith(suffix)`. -/
def endsWith (text suffix : String) : Bool :=
  suffix.toList.isSuffixOf text.toList

@[simp] theorem truthy_none : truthy none = none := rfl

@[simp] theorem truthy_array (elements : List Json) :
    truthy (some (.array elements)) = some (.array elements) := rfl

@[simp] theorem truthy_string {text : String} (h : text ≠ "") :
    truthy (some (.string text)) = some (.string text) := by
  simp [truthy, isTruthy, h]

theorem truthy_of_isObject {value : Json} (h : value.isObject = true) :
    truthy (some value) = some value := by
  cases value with
  | object entries => rfl
  | _ => simp [Json.isObject] at h

theorem eq_of_truthy {value : Option Json} {json : Json} (h : truthy value = some json) :
    value = some json :=
  (Option.filter_eq_some_iff.mp h).1

theorem isTruthy_of_truthy {value : Option Json} {json : Json} (h : truthy value = some json) :
    isTruthy json = true :=
  (Option.filter_eq_some_iff.mp h).2

theorem isTruthy_string {text : String} (h : text ≠ "") : isTruthy (.string text) = true := by
  simp [isTruthy, h]

@[simp] theorem strictEquals_string (value other : String) :
    strictEquals (.string value) (.string other) = (value == other) := rfl

/-! ## Maps -/

/-- `map.set(key, value)`: a key keeps its place, a new one goes to the end. -/
def assign (key value : Json) : List (Json × Json) → List (Json × Json)
  | [] => [(key, value)]
  | (key', value') :: rest =>
      if strictEquals key' key then (key', value) :: rest else (key', value') :: assign key value rest

/-- `map.delete(key)`. -/
def delete (key : Json) (entries : List (Json × Json)) : List (Json × Json) :=
  entries.filter fun entry => !strictEquals entry.1 key

theorem assign_of_fresh {key : Json} (value : Json) {entries : List (Json × Json)}
    (hfresh : ∀ entry ∈ entries, strictEquals entry.1 key = false) :
    assign key value entries = entries ++ [(key, value)] := by
  induction entries with
  | nil => rfl
  | cons entry rest ih =>
      rw [List.forall_mem_cons] at hfresh
      rw [assign, hfresh.1, ih hfresh.2]
      rfl

/-! ## Computations -/

/-- Run a script: what it returned or threw, and the state it left. -/
def exec (a : Script σ α) (s : σ) : Except String α × σ :=
  a.run.run s

/-- `value[key]`; only `undefined` and `null` have no members at all. -/
def member (value : Option Json) (key : String) : Script σ (Option Json) :=
  match value with
  | none => throw ("Cannot read properties of undefined (reading '" ++ key ++ "')")
  | some .null => throw ("Cannot read properties of null (reading '" ++ key ++ "')")
  | some json => pure (json.find? key)

theorem member_of_isObject {json : Json} (h : json.isObject = true) (key : String) :
    (member (some json) key : Script σ (Option Json)) = pure (json.find? key) := by
  cases json with
  | object entries => rfl
  | _ => simp [Json.isObject] at h

@[simp] theorem exec_pure (x : α) (s : σ) : exec (pure x : Script σ α) s = (.ok x, s) := rfl

@[simp] theorem exec_throw (error : String) (s : σ) :
    exec (throw error : Script σ α) s = (.error error, s) := rfl

@[simp] theorem exec_get (s : σ) : exec (get : Script σ σ) s = (.ok s, s) := rfl

@[simp] theorem exec_set (s s' : σ) : exec (set s' : Script σ PUnit) s = (.ok ⟨⟩, s') := rfl

@[simp] theorem exec_modify (f : σ → σ) (s : σ) :
    exec (modify f : Script σ PUnit) s = (.ok ⟨⟩, f s) := rfl

theorem exec_bind (a : Script σ α) (f : α → Script σ β) (s : σ) :
    exec (a >>= f) s = match exec a s with
      | (.ok x, s') => exec (f x) s'
      | (.error error, s') => (.error error, s') := by
  change (ExceptT.bindCont f (exec a s).1).run (exec a s).2 = _
  rcases exec a s with ⟨_ | x, s'⟩ <;> rfl

theorem exec_tryCatch (a : Script σ α) (handler : String → Script σ α) (s : σ) :
    exec (tryCatch a handler) s = match exec a s with
      | (.ok x, s') => (.ok x, s')
      | (.error error, s') => exec (handler error) s' := by
  rw [exec, ExceptT.run_tryCatch, StateT.run_bind]
  rcases hrun : exec a s with ⟨_ | x, s'⟩
  all_goals
    rw [exec] at hrun
    rw [hrun]
    rfl

/-! ## Invariants -/

/-- The script keeps the invariant, whether it returns or throws, and what it returns has the
property. -/
def Keeps (I : σ → Prop) (P : α → Prop) (a : Script σ α) : Prop :=
  ∀ s, I s → I (exec a s).2 ∧ ∀ x, (exec a s).1 = .ok x → P x

section Keeps

variable {I : σ → Prop} {P P' : α → Prop} {Q : β → Prop} {a : Script σ α}

theorem keeps_pure {x : α} (hx : P x) : Keeps I P (pure x : Script σ α) := by
  intro s hI
  refine ⟨hI, ?_⟩
  rintro y hy
  obtain rfl := Except.ok.inj hy
  exact hx

theorem keeps_throw (error : String) : Keeps I P (throw error : Script σ α) := by
  intro s hI
  refine ⟨hI, ?_⟩
  intro x hx
  cases hx

/-- What is read is a state with the invariant. -/
theorem keeps_get : Keeps I I (get : Script σ σ) := by
  intro s hI
  refine ⟨hI, ?_⟩
  rintro x hx
  obtain rfl := Except.ok.inj hx
  exact hI

theorem keeps_modify {f : σ → σ} (hf : ∀ s, I s → I (f s)) :
    Keeps I (fun _ => True) (modify f : Script σ PUnit) :=
  fun s hI => ⟨hf s hI, fun _ _ => trivial⟩

/-- A member that was read is a member of a value. -/
theorem keeps_member (value : Option Json) (key : String) :
    Keeps I (fun found => ∃ json, value = some json ∧ found = json.find? key)
      (member value key : Script σ (Option Json)) := by
  unfold member
  split
  · exact keeps_throw _
  · exact keeps_throw _
  · next json _ => exact keeps_pure ⟨json, rfl, rfl⟩

theorem Keeps.mono (ha : Keeps I P a) (hP : ∀ x, P x → P' x) : Keeps I P' a :=
  fun s hI => ⟨(ha s hI).1, fun x hx => hP x ((ha s hI).2 x hx)⟩

/-- Sequencing: what follows may count on what was returned. -/
theorem Keeps.bind {f : α → Script σ β} (ha : Keeps I P a) (hf : ∀ x, P x → Keeps I Q (f x)) :
    Keeps I Q (a >>= f) := by
  intro s hI
  rw [exec_bind]
  obtain ⟨hkept, hreturned⟩ := ha s hI
  rcases hresult : exec a s with ⟨error | x, s'⟩
  · rw [hresult] at hkept
    refine ⟨hkept, ?_⟩
    intro x hx
    cases hx
  · rw [hresult] at hkept hreturned
    exact hf x (hreturned x rfl) s' hkept

theorem Keeps.tryCatch {handler : String → Script σ α} (ha : Keeps I P a)
    (hhandler : ∀ error, Keeps I P (handler error)) : Keeps I P (tryCatch a handler) := by
  intro s hI
  rw [exec_tryCatch]
  have hfirst := ha s hI
  rcases hresult : exec a s with ⟨error | x, s'⟩
  · rw [hresult] at hfirst
    exact hhandler error s' hfirst.1
  · rwa [hresult] at hfirst

theorem keeps_forM {f : β → Script σ PUnit} {l : List β}
    (hf : ∀ x ∈ l, Keeps I (fun _ => True) (f x)) : Keeps I (fun _ => True) (l.forM f) := by
  induction l with
  | nil => exact keeps_pure trivial
  | cons x rest ih =>
      rw [List.forall_mem_cons] at hf
      rw [List.forM_eq_forM, List.forM_cons]
      exact hf.1.bind fun _ _ => ih hf.2

end Keeps

end Script
