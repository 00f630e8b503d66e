/-
**JSON values.**

A `Json` is what a document says once its text is read. Objects keep their members in document
order; where a name is repeated, the last member of that name counts (`Json.get?`). The accessors
are lenient: a member that is missing or of another type answers as if nothing had been said.

Who turns a text into a value is left open here: a `Json.Parser` is whatever does.
-/

namespace TypeChart

/-- A JSON value. A number is kept as the text that wrote it. -/
inductive Json where
  | null
  | bool (value : Bool)
  | number (literal : String)
  | string (value : String)
  | array (items : List Json)
  | object (members : List (String × Json))
  deriving Inhabited

namespace Json

/-- The last value under a name. -/
def lastOf (name : String) : List (String × Json) → Option Json
  | [] => none
  | (other, value) :: rest =>
    match lastOf name rest with
    | some later => some later
    | none => if other = name then some value else none

theorem lastOf_cons (name other : String) (value : Json) (rest : List (String × Json)) :
    lastOf name ((other, value) :: rest) =
      (lastOf name rest).or (if other = name then some value else none) := by
  rw [lastOf]
  cases lastOf name rest <;> rfl

theorem lastOf_append (name : String) (front back : List (String × Json)) :
    lastOf name (front ++ back) = (lastOf name back).or (lastOf name front) := by
  induction front with
  | nil => exact Option.or_none.symm
  | cons member rest ih => rw [List.cons_append, lastOf_cons, ih, lastOf_cons, Option.or_assoc]

/-- The member of an object under a name; any other value has none. -/
def get? (json : Json) (name : String) : Option Json :=
  match json with
  | .object members => lastOf name members
  | _ => none

/-- The text under a name, or the empty text. -/
def textAt (json : Json) (name : String) : String :=
  match json.get? name with
  | some (.string value) => value
  | _ => ""

/-- The truth value under a name, or the given one. -/
def flagAt (json : Json) (name : String) (otherwise : Bool) : Bool :=
  match json.get? name with
  | some (.bool value) => value
  | _ => otherwise

/-- The items of the array under a name, or no items. -/
def itemsAt (json : Json) (name : String) : List Json :=
  match json.get? name with
  | some (.array items) => items
  | _ => []

/-- The texts in the array under a name, without its other items. -/
def textsAt (json : Json) (name : String) : List String :=
  (json.itemsAt name).filterMap fun
    | .string value => some value
    | _ => none

/-- The value under a name as a list of at most one value; nothing is said by `null`. -/
def saidAt (json : Json) (name : String) : List Json :=
  match json.get? name with
  | none => []
  | some .null => []
  | some value => [value]

theorem saidAt_of_get? {json value : Json} {name : String} (found : json.get? name = some value)
    (tells : value ≠ .null) : json.saidAt name = [value] := by
  unfold saidAt
  rw [found]
  cases value with
  | null => exact absurd rfl tells
  | _ => rfl

/-! ### Values below a value -/

theorem sizeOf_lastOf {name : String} {members : List (String × Json)} {value : Json}
    (found : lastOf name members = some value) : sizeOf value < sizeOf members := by
  induction members with
  | nil => simp [lastOf] at found
  | cons member rest ih =>
    obtain ⟨other, first⟩ := member
    simp only [lastOf] at found
    split at found
    · rename_i later inRest
      have below := ih (inRest.trans found)
      simp only [List.cons.sizeOf_spec]
      omega
    · split at found
      · simp only [Option.some.injEq] at found
        subst found
        simp only [List.cons.sizeOf_spec, Prod.mk.sizeOf_spec]
        omega
      · simp at found

theorem sizeOf_get? {json value : Json} {name : String} (found : json.get? name = some value) :
    sizeOf value < sizeOf json := by
  cases json with
  | object members =>
    have below := sizeOf_lastOf found
    simp only [object.sizeOf_spec]
    omega
  | _ => simp [get?] at found

theorem sizeOf_itemsAt {json item : Json} {name : String} (member : item ∈ json.itemsAt name) :
    sizeOf item < sizeOf json := by
  unfold itemsAt at member
  split at member
  · rename_i items found
    have below := sizeOf_get? found
    have inside := List.sizeOf_lt_of_mem member
    simp only [array.sizeOf_spec] at below
    omega
  · simp at member

theorem sizeOf_saidAt {json value : Json} {name : String} (member : value ∈ json.saidAt name) :
    sizeOf value < sizeOf json := by
  unfold saidAt at member
  split at member
  · simp at member
  · simp at member
  · rename_i found
    rw [List.mem_singleton.mp member]
    exact sizeOf_get? found

/-! ### Parsers -/

/-- A parser of JSON texts: the value that a text writes, or what is wrong with the text, in words.
Which texts it takes is its own affair. -/
abbrev Parser : Type :=
  String → Except String Json

end Json

end TypeChart
