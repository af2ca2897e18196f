/-!
# JSON values

Objects keep the order of their fields. A number that is not written as a plain integer keeps its
spelling.
-/

namespace CardRules

inductive Json where
  | null
  | bool (b : Bool)
  | int (n : Int)
  | real (literal : String)
  | str (s : String)
  /-- A text with half of a surrogate pair in it, where `shown` has the replacement character. -/
  | brokenStr (shown : String)
  | arr (items : List Json)
  | obj (fields : List (String × Json))
  deriving Repr, Inhabited

namespace Json

instance : Coe String Json := ⟨str⟩
instance : Coe Int Json := ⟨int⟩
instance : Coe Bool Json := ⟨bool⟩

def get? (j : Json) (key : String) : Option Json :=
  match j with
  | obj fields => fields.lookup key
  | _ => none

def isNull : Json → Bool
  | null => true
  | _ => false

/-- A list of fields with `key` set to `value`: in its old place, or at the end. -/
def setField (key : String) (value : Json) : List (String × Json) → List (String × Json)
  | [] => [(key, value)]
  | (k, v) :: rest => if k == key then (k, value) :: rest else (k, v) :: setField key value rest

variable {key other : String} {value : Json} {fields : List (String × Json)}

@[simp] theorem lookup_setField_self : (setField key value fields).lookup key = some value := by
  induction fields with
  | nil => simp [setField]
  | cons f rest ih =>
    obtain ⟨k, v⟩ := f
    by_cases h : k = key
    · simp [setField, h]
    · have : (key == k) = false := by simpa using Ne.symm h
      simp [setField, List.lookup_cons, h, this, ih]

theorem lookup_setField_of_ne (h : other ≠ key) :
    (setField key value fields).lookup other = fields.lookup other := by
  have h' : (other == key) = false := by simpa using h
  induction fields with
  | nil => simp [setField, List.lookup_cons, h']
  | cons f rest ih =>
    obtain ⟨k, v⟩ := f
    by_cases hk : k = key
    · subst hk
      simp [setField, List.lookup_cons, h']
    · simp [setField, List.lookup_cons, hk, ih]

theorem setField_setField {first : Json} :
    setField key value (setField key first fields) = setField key value fields := by
  induction fields with
  | nil => simp [setField]
  | cons f rest ih =>
    obtain ⟨k, v⟩ := f
    by_cases hk : k = key
    · simp [setField, hk]
    · simp [setField, hk, ih]

end Json

end CardRules
