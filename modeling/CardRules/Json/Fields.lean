import CardRules.Named

/-!
# Values inside JSON values

Readers for the parts of a JSON value, and writers for common shapes. A value of the wrong
shape is a fault, a word outside its vocabulary another, a field that is needed and missing a
third.
-/

namespace CardRules.Json

/-- The reading of a value as a yes or no: nothing, zero and empty values say no. -/
def isTruthy : Json → Bool
  | null => false
  | bool b => b
  | int n => n != 0
  | real literal => !(Double.ofLiteral literal).isZero
  | str s => s != ""
  | brokenStr _ => true
  | arr items => !items.isEmpty
  | obj fields => !fields.isEmpty

def field (j : Json) (key : String) : Json := (j.get? key).getD .null

def asText : Json → Except Fault String
  | .str s | .brokenStr s => .ok s
  | _ => .error .wrongType

/-- An integer; a yes or no counts as one or zero. -/
def asInteger : Json → Except Fault Int
  | .int n => .ok n
  | .bool b => .ok (if b then 1 else 0)
  | _ => .error .wrongType

/-- A lower bound on integers; one with a fraction is rounded up. -/
def asLeast : Json → Except Fault Int
  | .real literal => ((Double.ofLiteral literal).ceil?.map .ok).getD (.error .wrongType)
  | j => asInteger j

/-- An upper bound on integers; one with a fraction is rounded down. -/
def asGreatest : Json → Except Fault Int
  | .real literal => ((Double.ofLiteral literal).floor?.map .ok).getD (.error .wrongType)
  | j => asInteger j

def asList {α : Type} (item : Json → Except Fault α) : Json → Except Fault (List α)
  | .arr xs => xs.mapM item
  | _ => .error .wrongType

def asOption {α : Type} (value : Json → Except Fault α) : Json → Except Fault (Option α)
  | .null => .ok none
  | j => (value j).map some

def need {α : Type} (j : Json) (key : String) (value : Json → Except Fault α) : Except Fault α :=
  match j.get? key with
  | some v => value v
  | none => .error .missingKey

def getOr {α : Type} (j : Json) (key : String) (default : α) (value : Json → Except Fault α) :
    Except Fault α :=
  match j.get? key with
  | some v => value v
  | none => .ok default

def perhaps {α : Type} (j : Json) (key : String) (value : Json → Except Fault α) :
    Except Fault (Option α) :=
  j.getOr key none fun v => (value v).map some

def listAt {α : Type} (j : Json) (key : String) (item : Json → Except Fault α) :
    Except Fault (List α) :=
  j.getOr key [] (asList item)

def asWord (α : Type) [Named α] : Json → Except Fault α
  | .str s => Named.read s
  | j => .error (Named.unknown α j)

def fields : Json → List (String × Json)
  | .obj fields => fields
  | _ => []

theorem sizeOf_lt_of_lookup {key : String} {v : Json} {fields : List (String × Json)}
    (h : fields.lookup key = some v) : sizeOf v < sizeOf fields := by
  induction fields with
  | nil => simp at h
  | cons f rest ih =>
    obtain ⟨k, w⟩ := f
    simp only [List.lookup_cons] at h
    split at h
    · simp only [Option.some.injEq] at h
      subst h
      simp
      omega
    · have := ih h
      simp
      omega

theorem sizeOf_lt_of_get? {j v : Json} {key : String} (h : j.get? key = some v) :
    sizeOf v < sizeOf j := by
  cases j with
  | obj fields =>
    have := sizeOf_lt_of_lookup (show fields.lookup key = some v from h)
    simp
    omega
  | _ => simp [get?] at h

theorem sizeOf_lt_of_mem {j x : Json} {key : String} {xs : List Json}
    (h : j.get? key = some (.arr xs)) (hx : x ∈ xs) : sizeOf x < sizeOf j := by
  have hj := sizeOf_lt_of_get? h
  have := List.sizeOf_lt_of_mem hx
  simp at hj
  omega

/-- The items of a list that a field holds, each with the bound on its size. -/
def items {j : Json} {key : String} {xs : List Json} (h : j.get? key = some (.arr xs)) :
    List { x : Json // sizeOf x < sizeOf j } :=
  xs.attach.map fun x => ⟨x.1, sizeOf_lt_of_mem h x.2⟩

def parts (j : Json) (key : String) : Except Fault (List { x : Json // sizeOf x < sizeOf j }) :=
  match h : j.get? key with
  | none => .ok []
  | some (.arr _) => .ok (items h)
  | some _ => .error .wrongType

def ofOption {α : Type} (write : α → Json) : Option α → Json
  | some a => write a
  | none => .null

def ofTexts (xs : List String) : Json := .arr (xs.map .str)

def ofNames {α : Type} [Named α] (xs : List α) : Json := .arr (xs.map fun x => .str (Named.name x))

/-- An object without the fields that are absent or hold an empty list. -/
def sparse (fields : List (String × Option Json)) : Json :=
  .obj (fields.filterMap fun (k, v) => match v with
    | none | some (.arr []) => none
    | some v => some (k, v))

end CardRules.Json
