import Mathlib.Data.List.Basic

/-!
JSON values and the ways the repository looks into them (`serde_json::Value`).
The text of a number is kept as it is: nothing computes with it.
-/
namespace VibeBridge.Json

inductive Value
  | null
  | bool (value : Bool)
  | number (text : String)
  | string (text : String)
  | array (items : List Value)
  | object (fields : List (String × Value))

/-- `value.get(key)`: a field of an object. -/
def Value.get (value : Value) (key : String) : Option Value :=
  match value with
  | .object fields => fields.lookup key
  | _ => none

def Value.as_str : Value → Option String
  | .string text => some text
  | _ => none

def Value.as_bool : Value → Option Bool
  | .bool value => some value
  | _ => none

def Value.as_array : Value → Option (List Value)
  | .array items => some items
  | _ => none

/-- The text at a key, as `get(key).and_then(Value::as_str)` reads it. -/
def Value.text_at (value : Value) (key : String) : Option String := (value.get key).bind (·.as_str)

/-! ## Changing a field -/

/-- A map keeps its keys sorted: a key that is new goes before the first greater one. -/
def place (key : String) (value : Value) : List (String × Value) → List (String × Value)
  | [] => [(key,value)]
  | field :: rest => if key < field.1 then (key,value) :: field :: rest else field :: place key value rest

/-- A key that is there gets another value in its place. -/
def replace (key : String) (value : Value) : List (String × Value) → List (String × Value)
  | [] => []
  | field :: rest => if field.1 = key then (key,value) :: rest else field :: replace key value rest

/-- `Map::insert`. -/
def Value.insert (object : Value) (key : String) (value : Value) : Value :=
  match object with
  | .object fields => .object (if (fields.lookup key).isSome then replace key value fields else place key value fields)
  | other => other

def Value.is_object : Value → Bool
  | .object _ => true
  | _ => false

theorem get_object {value found : Value} {key : String} (there : value.get key = some found) : value.is_object = true := by
  cases value with
  | object fields => rfl
  | _ => cases there

theorem lookup_cons (key : String) (field : String × Value) (rest : List (String × Value)) :
    (field :: rest).lookup key = if field.1 = key then some field.2 else rest.lookup key := by
  rw [List.lookup_cons]
  by_cases same : field.1 = key
  · simp [same]
  · rw [if_neg same,show (key == field.1) = false by simpa using Ne.symm same]

theorem lookup_place (key : String) (value : Value) (fields : List (String × Value)) (absent : fields.lookup key = none)
    (key' : String) : (place key value fields).lookup key' = if key' = key then some value else fields.lookup key' := by
  induction fields with
  | nil =>
    rw [place,lookup_cons]
    by_cases same : key = key'
    · simp [same]
    · simp [same,Ne.symm same]
  | cons field rest ih =>
    rw [lookup_cons] at absent
    by_cases here : field.1 = key
    · rw [if_pos here] at absent
      cases absent
    · rw [if_neg here] at absent
      rw [place]
      split
      · rw [lookup_cons]
        by_cases same : key = key'
        · simp [same]
        · simp [same,Ne.symm same]
      · rw [lookup_cons,lookup_cons,ih absent]
        by_cases found : field.1 = key'
        · rw [if_pos found,if_pos found,if_neg (found ▸ here)]
        · rw [if_neg found,if_neg found]

theorem lookup_replace (key : String) (value : Value) (fields : List (String × Value)) (there : (fields.lookup key).isSome)
    (key' : String) : (replace key value fields).lookup key' = if key' = key then some value else fields.lookup key' := by
  induction fields with
  | nil => cases there
  | cons field rest ih =>
    rw [lookup_cons] at there
    rw [replace]
    by_cases here : field.1 = key
    · rw [if_pos here,lookup_cons,lookup_cons,here]
      by_cases same : key = key'
      · simp [same]
      · simp [same,Ne.symm same]
    · rw [if_neg here] at there
      rw [if_neg here,lookup_cons,lookup_cons,ih there]
      by_cases found : field.1 = key'
      · rw [if_pos found,if_pos found,if_neg (found ▸ here)]
      · rw [if_neg found,if_neg found]

/-- What an object has at each key after one is written. -/
theorem get_insert {object : Value} (is_object : object.is_object = true) (key : String) (value : Value) (key' : String) :
    (object.insert key value).get key' = if key' = key then some value else object.get key' := by
  cases object with
  | object fields =>
    simp only [Value.insert,Value.get]
    split
    · rename_i there
      exact lookup_replace key value fields there key'
    · rename_i absent
      exact lookup_place key value fields (Option.not_isSome_iff_eq_none.mp absent) key'
  | _ => cases is_object

theorem insert_object (object : Value) (key : String) (value : Value) :
    (object.insert key value).is_object = object.is_object := by
  cases object <;> rfl

theorem replace_same (key : String) (value : Value) (fields : List (String × Value)) (found : fields.lookup key = some value) :
    replace key value fields = fields := by
  induction fields with
  | nil => rfl
  | cons field rest ih =>
    rw [lookup_cons] at found
    rw [replace]
    by_cases here : field.1 = key
    · rw [if_pos here] at found ⊢
      cases found
      rw [← here]
    · rw [if_neg here] at found ⊢
      rw [ih found]

theorem replace_replace (key : String) (value value' : Value) (fields : List (String × Value)) :
    replace key value' (replace key value fields) = replace key value' fields := by
  induction fields with
  | nil => rfl
  | cons field rest ih =>
    rw [replace]
    by_cases here : field.1 = key
    · rw [if_pos here,replace,if_pos rfl,replace,if_pos here]
    · rw [if_neg here,replace,if_neg here,ih,replace,if_neg here]

theorem replace_place (key : String) (value value' : Value) (fields : List (String × Value)) (absent : fields.lookup key = none) :
    replace key value' (place key value fields) = place key value' fields := by
  induction fields with
  | nil =>
    rw [place,replace,if_pos rfl,place]
  | cons field rest ih =>
    rw [lookup_cons] at absent
    by_cases here : field.1 = key
    · rw [if_pos here] at absent
      cases absent
    · rw [if_neg here] at absent
      rw [place,place]
      by_cases before : key < field.1
      · rw [if_pos before,if_pos before,replace,if_pos rfl]
      · rw [if_neg before,if_neg before,replace,if_neg here,ih absent]

/-- Only the last value that is written at a key counts. -/
theorem insert_insert (object : Value) (key : String) (value value' : Value) :
    (object.insert key value).insert key value' = object.insert key value' := by
  cases object with
  | object fields =>
    have kept := get_insert (show (Value.object fields).is_object = true from rfl) key value key
    rw [if_pos rfl] at kept
    simp only [Value.insert,Value.get] at kept ⊢
    rw [kept,Option.isSome_some,if_pos rfl]
    split
    · rw [replace_replace]
    · rename_i absent
      rw [replace_place key value value' fields (Option.not_isSome_iff_eq_none.mp absent)]
  | _ => rfl

/-- Writing what is there changes nothing. -/
theorem insert_same {object value : Value} {key : String} (there : object.get key = some value) :
    object.insert key value = object := by
  cases object with
  | object fields =>
    simp only [Value.insert,Value.get] at there ⊢
    rw [there,Option.isSome_some,if_pos rfl,replace_same key value fields there]
  | _ => rfl

end VibeBridge.Json
