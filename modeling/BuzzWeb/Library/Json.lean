import Mathlib.Data.List.Induction
import Mathlib.Data.String.Basic

/-!
# JSON values

The value type of a JSON library whose objects are sorted maps: `null`, booleans, strings, the
three machine number kinds, arrays and objects.  An object is kept as the list of its entries in
key order.  `find?` reads a key, `set` writes one (overwriting it, or inserting it in key order),
and `ofEntries` builds an object from an initialiser list.

Only the laws relating `find?` and `set` are needed by users of the type; they hold for every
entry list, sorted or not.
-/

/-- A JSON value.  A float is kept as its bit pattern, so that equality is the equality of the
stored value. -/
inductive Json where
  | null
  | boolean (value : Bool)
  | string (value : String)
  | numberInteger (value : Int64)
  | numberUnsigned (value : UInt64)
  | numberFloat (bits : UInt64)
  | array (elements : List Json)
  | object (entries : List (String × Json))

namespace Json

/-- The value under a key of an entry list. -/
def lookupEntry (key : String) : List (String × Json) → Option Json
  | [] => none
  | (key', value) :: rest => if key' = key then some value else lookupEntry key rest

/-- Write a key of an entry list, keeping the key order. -/
def setEntry (key : String) (value : Json) : List (String × Json) → List (String × Json)
  | [] => [(key, value)]
  | (key', value') :: rest =>
      if key' = key then (key, value) :: rest
      else if key < key' then (key, value) :: (key', value') :: rest
      else (key', value') :: setEntry key value rest

/-- The value under a key; a value that is not an object has no keys. -/
def find? (json : Json) (key : String) : Option Json :=
  match json with
  | .object entries => lookupEntry key entries
  | _ => none

/-- `json[key] = value` on an object; other values are left alone. -/
def set (json : Json) (key : String) (value : Json) : Json :=
  match json with
  | .object entries => .object (setEntry key value entries)
  | other => other

/-- Is the value an object? -/
def isObject : Json → Bool
  | .object _ => true
  | _ => false

/-- An object literal. -/
def ofEntries (entries : List (String × Json)) : Json :=
  .object (entries.foldl (fun done entry => setEntry entry.1 entry.2 done) [])

theorem lookupEntry_setEntry (key key' : String) (value : Json) (entries : List (String × Json)) :
    lookupEntry key' (setEntry key value entries) =
      if key = key' then some value else lookupEntry key' entries := by
  induction entries with
  | nil => simp [setEntry, lookupEntry]
  | cons entry rest ih =>
      obtain ⟨head, headValue⟩ := entry
      by_cases hsame : head = key
      · subst hsame
        by_cases hkey : head = key' <;> simp [setEntry, lookupEntry, hkey]
      by_cases hbefore : key < head
      · simp [setEntry, lookupEntry, hsame, hbefore]
      · have hrest : setEntry key value ((head, headValue) :: rest) =
            (head, headValue) :: setEntry key value rest := by
          simp [setEntry, hsame, hbefore]
        rw [hrest, lookupEntry, lookupEntry, ih]
        -- The head entry shadows both sides, and it is not the written key.
        by_cases hhead : head = key'
        · subst hhead
          simp [Ne.symm hsame]
        · simp [hhead]

/-- Only objects have keys. -/
theorem isObject_of_find? {json value : Json} {key : String} (h : json.find? key = some value) :
    json.isObject = true := by
  cases json with
  | object entries => rfl
  | _ => cases h

/-- Reading after writing, on an object. -/
theorem find?_set {json : Json} (hobject : json.isObject = true) (key key' : String)
    (value : Json) :
    (json.set key value).find? key' = if key = key' then some value else json.find? key' := by
  cases json with
  | object entries => exact lookupEntry_setEntry key key' value entries
  | _ => simp [isObject] at hobject

@[simp] theorem isObject_set {json : Json} (key : String) (value : Json) :
    (json.set key value).isObject = json.isObject := by
  cases json <;> rfl

@[simp] theorem isObject_ofEntries (entries : List (String × Json)) :
    (ofEntries entries).isObject = true := by
  simp [ofEntries, isObject]

/-- A key of an object literal has the value of its last entry. -/
theorem find?_ofEntries (entries : List (String × Json)) (key : String) :
    (ofEntries entries).find? key = lookupEntry key entries.reverse := by
  induction entries using List.reverseRecOn with
  | nil => rfl
  | append_singleton entries entry ih =>
      have hset : ofEntries (entries ++ [entry]) = (ofEntries entries).set entry.1 entry.2 := by
        simp [ofEntries, set]
      rw [hset, find?_set (isObject_ofEntries entries), ih, List.reverse_concat]
      rfl

end Json
