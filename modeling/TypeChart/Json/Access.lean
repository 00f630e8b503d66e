/-
**Access to JSON values.**

A value only gives what it holds: a member is given by an object that has it, a text by a string, a
truth value by a boolean. Any other access raises a `Json.TypeError`. So whoever reads a document
has to ask what a value is before anything is taken from it.

* `Json.member`, `Json.text`, `Json.flag`: the accesses that may raise.
* `Json.askHolds`, `Json.askText`, `Json.askFlag`, `Json.askEach`, `Json.askTexts`, `Json.askSaid`,
  `Json.askOne`: accesses that ask first. None of them raises, and each comes to what the lenient
  accessor of the same value says: `Json.askText_eq_ok` and its siblings.
-/

import TypeChart.Json.Basic

namespace TypeChart.Json

/-! ### Questions -/

def isString : Json → Bool
  | string _ => true
  | _ => false

def isBool : Json → Bool
  | bool _ => true
  | _ => false

def isArray : Json → Bool
  | array _ => true
  | _ => false

def isObject : Json → Bool
  | object _ => true
  | _ => false

def isNull : Json → Bool
  | null => true
  | _ => false

/-- Whether there is a member of a name; in a value that is no object there is none. -/
def contains (json : Json) (name : String) : Bool :=
  (json.get? name).isSome

/-- The word for the type of a value. -/
def typeWord : Json → String
  | null => "null"
  | bool _ => "boolean"
  | number _ => "number"
  | string _ => "string"
  | array _ => "array"
  | object _ => "object"

/-! ### Accesses that may raise -/

/-- What an access raises. -/
inductive TypeError where
  /-- A member was asked of a value that is no object. -/
  | noObject (found : String)
  /-- A member was asked of an object that has none of this name. -/
  | noMember (name : String)
  /-- A value of one type was asked for, and one of another type found. -/
  | otherType (asked found : String)
  deriving DecidableEq, Repr

def TypeError.message : TypeError → String
  | noObject found =>
    "[json.exception.type_error.305] cannot use operator[] with a string argument with " ++ found
  | noMember name => "[json.exception.out_of_range.403] key '" ++ name ++ "' not found"
  | otherType asked found =>
    "[json.exception.type_error.302] type must be " ++ asked ++ ", but is " ++ found

/-- What an access comes to. -/
abbrev Raising : Type → Type :=
  Except TypeError

/-- A value inside another one. -/
abbrev Inner (json : Json) : Type :=
  { value : Json // sizeOf value < sizeOf json }

/-- The member of a name. -/
def member (json : Json) (name : String) : Raising json.Inner :=
  match found : json.get? name with
  | some value => .ok ⟨value, sizeOf_get? found⟩
  | none => .error (if json.isObject then .noMember name else .noObject json.typeWord)

/-- The text that a string is. -/
def text : Json → Raising String
  | string value => .ok value
  | other => .error (.otherType "string" other.typeWord)

/-- The truth value that a boolean is. -/
def flag : Json → Raising Bool
  | bool value => .ok value
  | other => .error (.otherType "boolean" other.typeWord)

/-- What a loop over a value runs through: the items of an array and the values of an object. It
passes over `null`, and any other value is its own only item. A loop raises nothing. -/
def elements : Json → List Json
  | null => []
  | array items => items
  | object members => members.map Prod.snd
  | other => [other]

theorem sizeOf_elements_le {json element : Json} (member : element ∈ json.elements) :
    sizeOf element ≤ sizeOf json := by
  cases json with
  | null => cases member
  | array items =>
    have listed : element ∈ items := member
    have below := List.sizeOf_lt_of_mem listed
    simp only [array.sizeOf_spec]
    omega
  | object members =>
    obtain ⟨⟨name, value⟩, listed, rfl⟩ := List.mem_map.mp member
    have below := List.sizeOf_lt_of_mem listed
    simp only [Prod.mk.sizeOf_spec] at below
    simp only [object.sizeOf_spec]
    omega
  | bool | number | string => exact Nat.le_of_eq (congrArg sizeOf (List.mem_singleton.mp member))

/-- What a loop over a value inside another one runs through. -/
def Inner.elements {json : Json} (value : json.Inner) : List json.Inner :=
  value.val.elements.attach.map fun element =>
    ⟨element.val, Nat.lt_of_le_of_lt (sizeOf_elements_le element.property) value.property⟩

theorem Inner.map_val_elements {json : Json} (value : json.Inner) :
    value.elements.map Subtype.val = value.val.elements := by
  rw [Inner.elements, List.map_map]
  exact value.val.elements.attach_map_subtype_val

/-! ### Accesses that ask first -/

section Asking

variable {α : Type}

/-- Whether a value is an object with a member of a name and of a kind. -/
def askHolds (json : Json) (name : String) (fits : Json → Bool) : Raising Bool := do
  if json.isObject && json.contains name then
    return fits (← json.member name).val
  else
    return false

/-- The text under a name, or the empty text. -/
def askText (json : Json) (name : String) : Raising String := do
  if json.contains name then
    if (← json.member name).val.isString then
      (← json.member name).val.text
    else
      return ""
  else
    return ""

/-- The truth value under a name, or the given one. -/
def askFlag (json : Json) (name : String) (otherwise : Bool) : Raising Bool := do
  if json.contains name then
    if (← json.member name).val.isBool then
      (← json.member name).val.flag
    else
      return otherwise
  else
    return otherwise

/-- The items of the array under a name, or no items. -/
def askItems (json : Json) (name : String) : Raising (List json.Inner) := do
  if json.contains name then
    if (← json.member name).val.isArray then
      return (← json.member name).elements
    else
      return []
  else
    return []

/-- What is read of each item of the array under a name. -/
def askEach (json : Json) (name : String) (read : json.Inner → Raising α) : Raising (List α) := do
  (← json.askItems name).mapM read

/-- The text that a string is, if it is one. -/
def textIfString (json : Json) : Raising (Option String) := do
  if json.isString then
    return some (← json.text)
  else
    return none

/-- The texts in the array under a name, without its other items. -/
def askTexts (json : Json) (name : String) : Raising (List String) := do
  return (← json.askEach name fun item => item.val.textIfString).filterMap id

/-- What is read of the value under a name, if there is one and it is not `null`. -/
def askSaid (json : Json) (name : String) (read : json.Inner → Raising α) : Raising (List α) := do
  if json.contains name then
    if (← json.member name).val.isNull then
      return []
    else
      return [← read (← json.member name)]
  else
    return []

/-- What is read of the value under a name, or the given result. -/
def askOne (json : Json) (name : String) (otherwise : α) (read : json.Inner → Raising α) :
    Raising α := do
  if json.contains name then
    read (← json.member name)
  else
    return otherwise

/-! ### Asking raises nothing -/

variable {json value : Json} {name : String}

theorem contains_of_get? (found : json.get? name = some value) : json.contains name = true := by
  rw [contains, found]
  rfl

theorem not_contains_of_get? (absent : json.get? name = none) : ¬ json.contains name = true := by
  rw [contains, absent]
  exact nofun

theorem isObject_of_get? (found : json.get? name = some value) : json.isObject = true := by
  cases json with
  | object => rfl
  | _ => cases found

theorem member_eq_ok (found : json.get? name = some value) :
    json.member name = .ok ⟨value, sizeOf_get? found⟩ := by
  unfold member
  split
  · rename_i other same
    obtain rfl := Option.some.inj (found.symm.trans same)
    rfl
  · rename_i absent
    cases found.symm.trans absent

/-- Items that raise nothing one by one raise nothing together. -/
theorem mapM_eq_ok {β ε : Type} {read : α → Except ε β} {meaning : α → β}
    (each : ∀ item, read item = .ok (meaning item)) (items : List α) :
    items.mapM read = .ok (items.map meaning) := by
  rw [show read = fun item => pure (meaning item) from funext each, List.mapM_pure]
  rfl

variable (json name)

theorem askHolds_eq_ok (fits : Json → Bool) :
    json.askHolds name fits = .ok ((json.get? name).any fits) := by
  unfold askHolds
  cases found : json.get? name with
  | none =>
    rw [eq_false_of_ne_true (not_contains_of_get? found), Bool.and_false]
    rfl
  | some value =>
    rw [isObject_of_get? found, contains_of_get? found, member_eq_ok found]
    rfl

theorem askText_eq_ok : json.askText name = .ok (json.textAt name) := by
  unfold askText textAt
  cases found : json.get? name with
  | none => rw [if_neg (not_contains_of_get? found)]; rfl
  | some value =>
    rw [if_pos (contains_of_get? found), member_eq_ok found]
    cases value <;> rfl

theorem askFlag_eq_ok (otherwise : Bool) :
    json.askFlag name otherwise = .ok (json.flagAt name otherwise) := by
  unfold askFlag flagAt
  cases found : json.get? name with
  | none => rw [if_neg (not_contains_of_get? found)]; rfl
  | some value =>
    rw [if_pos (contains_of_get? found), member_eq_ok found]
    cases value <;> rfl

theorem exists_askItems_eq_ok :
    ∃ items, json.askItems name = .ok items ∧ items.map Subtype.val = json.itemsAt name := by
  unfold askItems itemsAt
  cases found : json.get? name with
  | none =>
    rw [if_neg (not_contains_of_get? found)]
    exact ⟨[], rfl, rfl⟩
  | some value =>
    rw [if_pos (contains_of_get? found), member_eq_ok found]
    cases value with
    | array items => exact ⟨_, rfl, Inner.map_val_elements _⟩
    | _ => exact ⟨[], rfl, rfl⟩

variable {json}

theorem askEach_eq_ok {read : json.Inner → Raising α} {meaning : Json → α}
    (each : ∀ item, read item = .ok (meaning item.val)) :
    json.askEach name read = .ok ((json.itemsAt name).map meaning) := by
  obtain ⟨items, asked, same⟩ := json.exists_askItems_eq_ok name
  rw [askEach, asked, ← same, List.map_map]
  exact mapM_eq_ok each items

theorem askSaid_eq_ok {read : json.Inner → Raising α} {meaning : Json → α}
    (each : ∀ item, read item = .ok (meaning item.val)) :
    json.askSaid name read = .ok ((json.saidAt name).map meaning) := by
  unfold askSaid saidAt
  cases found : json.get? name with
  | none => rw [if_neg (not_contains_of_get? found)]; rfl
  | some value =>
    rw [if_pos (contains_of_get? found), member_eq_ok found]
    cases value with
    | null => rfl
    | _ =>
      show (do return [← read _] : Raising (List α)) = _
      rw [each]
      rfl

theorem askOne_eq_ok {read : json.Inner → Raising α} {meaning : Json → α}
    (each : ∀ item, read item = .ok (meaning item.val)) (otherwise : α) :
    json.askOne name otherwise read = .ok (((json.get? name).map meaning).getD otherwise) := by
  unfold askOne
  cases found : json.get? name with
  | none => rw [if_neg (not_contains_of_get? found)]; rfl
  | some value =>
    rw [if_pos (contains_of_get? found), member_eq_ok found]
    exact each _

variable (json)

theorem askTexts_eq_ok : json.askTexts name = .ok (json.textsAt name) := by
  let meaning : Json → Option String
    | .string value => some value
    | _ => none
  have each (item : json.Inner) : item.val.textIfString = .ok (meaning item.val) := by
    cases item.val <;> rfl
  rw [askTexts, askEach_eq_ok name each]
  show Except.ok (((json.itemsAt name).map meaning).filterMap id) = _
  rw [List.filterMap_map]
  rfl

end Asking

end TypeChart.Json
