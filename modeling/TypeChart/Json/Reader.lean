/-
**Reading JSON text.**

`Json.read` accepts exactly one value with blanks around it, in the strict grammar: no comments, no
trailing commas, no leading zeros, no control characters inside strings. An escaped character
beyond the basic plane is written as a pair of surrogates, and half a pair is refused.

This is one parser of many (`Json.parser`); nothing that is said of documents depends on which one
is used.

Every reader returns what it read together with a `Rest`: what is left of the text and a proof that
this is shorter, which is why the readers end.
-/

import TypeChart.Json.Basic

namespace TypeChart.Json

/-- Why a text is no JSON document. -/
inductive Fault where
  | endOfText
  | unexpected (found : Char)
  deriving DecidableEq, Repr

/-- The fault in words. -/
def Fault.message : Fault → String
  | endOfText => "unexpected end of text"
  | unexpected found => "unexpected character '" ++ found.toString ++ "'"

/-- What is left of a text after something was read. -/
abbrev Rest (text : List Char) : Type :=
  { rest : List Char // rest.length < text.length }

/-- What a reader makes of a text. -/
abbrev Reading (α : Type) (text : List Char) : Type :=
  Except Fault (α × Rest text)

/-- A rest of an inner text is a rest of any text that is no shorter. -/
def Rest.widen {inner text : List Char} (rest : Rest inner) (le : inner.length ≤ text.length) :
    Rest text :=
  ⟨rest.val, Nat.lt_of_lt_of_le rest.property le⟩

/-- The fault of a text that should begin in another way. -/
def faultAt : List Char → Fault
  | [] => .endOfText
  | found :: _ => .unexpected found

/-! ### Blanks -/

/-- The four characters that may stand between tokens. -/
def isBlank (c : Char) : Bool :=
  c == ' ' || c == '\t' || c == '\n' || c == '\r'

/-- A text without the blanks that begin it. -/
def skipBlanks (text : List Char) : List Char :=
  text.dropWhile isBlank

theorem length_skipBlanks_le (text : List Char) : (skipBlanks text).length ≤ text.length :=
  (List.dropWhile_sublist _).length_le

/-! ### Strings -/

def hexValue? (c : Char) : Option Nat :=
  if '0' ≤ c ∧ c ≤ '9' then some (c.toNat - '0'.toNat)
  else if 'a' ≤ c ∧ c ≤ 'f' then some (c.toNat - 'a'.toNat + 10)
  else if 'A' ≤ c ∧ c ≤ 'F' then some (c.toNat - 'A'.toNat + 10)
  else none

/-- Four hexadecimal digits: one unit of sixteen bits. -/
def readUnit : (text : List Char) → Reading Nat text
  | a :: b :: c :: d :: rest =>
    match hexValue? a, hexValue? b, hexValue? c, hexValue? d with
    | some a, some b, some c, some d =>
      .ok (((a * 16 + b) * 16 + c) * 16 + d, ⟨rest, by simp only [List.length_cons]; omega⟩)
    | _, _, _, _ => .error (.unexpected a)
  | _ => .error .endOfText

/-- The character of an escape by units, of which the `u` is read: one unit, or a pair of
surrogates. -/
def readCodePoint (text : List Char) : Reading Char text :=
  match readUnit text with
  | .error fault => .error fault
  | .ok (high, ⟨rest, shorter⟩) =>
    if 0xD800 ≤ high ∧ high < 0xDC00 then
      match rest with
      | '\\' :: 'u' :: second =>
        match readUnit second with
        | .error fault => .error fault
        | .ok (low, ⟨after, shorterStill⟩) =>
          if 0xDC00 ≤ low ∧ low < 0xE000 then
            .ok (Char.ofNat (0x10000 + (high - 0xD800) * 0x400 + (low - 0xDC00)),
              ⟨after, by simp only [List.length_cons] at shorter; omega⟩)
          else .error (faultAt second)
      | other => .error (faultAt other)
    else if 0xDC00 ≤ high ∧ high < 0xE000 then .error (faultAt text)
    else .ok (Char.ofNat high, ⟨rest, shorter⟩)

/-- The character of an escape, of which the backslash is read. -/
def readEscape : (text : List Char) → Reading Char text
  | [] => .error .endOfText
  | 'u' :: rest => do
    let (c, after) ← readCodePoint rest
    return (c, after.widen (by simp))
  | c :: rest =>
    let plain (meant : Char) : Reading Char (c :: rest) := .ok (meant, ⟨rest, by simp⟩)
    match c with
    | '"' => plain '"'
    | '\\' => plain '\\'
    | '/' => plain '/'
    | 'b' => plain '\x08'
    | 'f' => plain '\x0c'
    | 'n' => plain '\n'
    | 'r' => plain '\r'
    | 't' => plain '\t'
    | _ => .error (.unexpected c)

/-- The characters of a string up to its closing quote, of which the opening quote is read. -/
def readString : (text : List Char) → Reading (List Char) text
  | [] => .error .endOfText
  | '"' :: rest => .ok ([], ⟨rest, by simp⟩)
  | '\\' :: rest => do
    let (c, ⟨after, shorter⟩) ← readEscape rest
    let (cs, last) ← readString after
    return (c :: cs, last.widen (by simp only [List.length_cons]; omega))
  | c :: rest =>
    if c < ' ' then .error (.unexpected c)
    else do
      let (cs, last) ← readString rest
      return (c :: cs, last.widen (by simp))
termination_by text => text.length
decreasing_by all_goals simp only [List.length_cons]; omega

/-! ### Numbers -/

/-- One or more digits. -/
def readDigits : (text : List Char) → Reading (List Char) text
  | [] => .error .endOfText
  | c :: rest =>
    if c.isDigit then
      .ok (c :: rest.takeWhile Char.isDigit, ⟨rest.dropWhile Char.isDigit, by
        have shorter := (List.dropWhile_sublist Char.isDigit (l := rest)).length_le
        simp only [List.length_cons]
        omega⟩)
    else .error (.unexpected c)

/-- The integer part: a zero alone, or digits that do not begin with one. -/
def readInteger : (text : List Char) → Reading (List Char) text
  | '0' :: rest => .ok (['0'], ⟨rest, by simp⟩)
  | text => readDigits text

/-- What is left of a text after something was read that may be empty. -/
abbrev Tail (text : List Char) : Type :=
  { rest : List Char // rest.length ≤ text.length }

/-- Digits after a point, if there is a point. -/
def readFraction (text : List Char) : Except Fault (List Char × Tail text) :=
  match text with
  | '.' :: rest => do
    let (digits, ⟨after, shorter⟩) ← readDigits rest
    return ('.' :: digits, ⟨after, by simp only [List.length_cons]; omega⟩)
  | text => .ok ([], ⟨text, Nat.le_refl _⟩)

/-- An exponent with or without a sign, if there is one. -/
def readExponent (text : List Char) : Except Fault (List Char × Tail text) :=
  match text with
  | [] => .ok ([], ⟨[], Nat.le_refl _⟩)
  | e :: rest =>
    if e = 'e' ∨ e = 'E' then
      match rest with
      | [] => .error .endOfText
      | sign :: digits =>
        if sign = '+' ∨ sign = '-' then do
          let (digits, ⟨after, shorter⟩) ← readDigits digits
          return (e :: sign :: digits, ⟨after, by simp only [List.length_cons]; omega⟩)
        else do
          let (digits, ⟨after, shorter⟩) ← readDigits (sign :: digits)
          return (e :: digits, ⟨after, by simp only [List.length_cons] at shorter ⊢; omega⟩)
    else .ok ([], ⟨e :: rest, Nat.le_refl _⟩)

/-- A number without its sign. -/
def readMagnitude (text : List Char) : Reading (List Char) text := do
  let (integer, ⟨afterInteger, shorter⟩) ← readInteger text
  let (fraction, ⟨afterFraction, noLonger⟩) ← readFraction afterInteger
  let (exponent, ⟨after, stillNoLonger⟩) ← readExponent afterFraction
  return (integer ++ fraction ++ exponent, ⟨after, by omega⟩)

def readNumber : (text : List Char) → Reading (List Char) text
  | '-' :: rest => do
    let (magnitude, after) ← readMagnitude rest
    return ('-' :: magnitude, after.widen (by simp))
  | text => readMagnitude text

/-! ### Values -/

/-- The name of a member, its colon and the blanks around that. -/
def readName : (text : List Char) → Reading String text
  | '"' :: rest => do
    let (cs, ⟨afterName, shorter⟩) ← readString rest
    have inside := length_skipBlanks_le afterName
    match same : skipBlanks afterName with
    | ':' :: after =>
      have inner := length_skipBlanks_le after
      return (String.ofList cs, ⟨skipBlanks after, by
        simp only [same, List.length_cons] at inside ⊢; omega⟩)
    | other => .error (faultAt other)
  | text => .error (faultAt text)

mutual

/-- A value at the very beginning of a text. -/
def readValue : (text : List Char) → Reading Json text
  | [] => .error .endOfText
  | '"' :: rest => do
    let (cs, after) ← readString rest
    return (.string (String.ofList cs), after.widen (by simp))
  | '[' :: rest =>
    have inside := length_skipBlanks_le rest
    match same : skipBlanks rest with
    | ']' :: after => .ok (.array [], ⟨after, by
        simp only [same, List.length_cons] at inside ⊢; omega⟩)
    | inner => do
      let (items, after) ← readItems inner
      return (.array items, after.widen (by simp only [← same, List.length_cons]; omega))
  | '\x7b' :: rest =>
    have inside := length_skipBlanks_le rest
    match same : skipBlanks rest with
    | '\x7d' :: after => .ok (.object [], ⟨after, by
        simp only [same, List.length_cons] at inside ⊢; omega⟩)
    | inner => do
      let (members, after) ← readMembers inner
      return (.object members, after.widen (by simp only [← same, List.length_cons]; omega))
  | 'n' :: 'u' :: 'l' :: 'l' :: rest =>
    .ok (.null, ⟨rest, by simp only [List.length_cons]; omega⟩)
  | 't' :: 'r' :: 'u' :: 'e' :: rest =>
    .ok (.bool true, ⟨rest, by simp only [List.length_cons]; omega⟩)
  | 'f' :: 'a' :: 'l' :: 's' :: 'e' :: rest =>
    .ok (.bool false, ⟨rest, by simp only [List.length_cons]; omega⟩)
  | text => do
    let (literal, after) ← readNumber text
    return (.number (String.ofList literal), after)
termination_by text => (text.length, 0)
decreasing_by
  all_goals
    apply Prod.Lex.left
    simp only [← same, List.length_cons]
    omega

/-- The items of an array up to its closing bracket: at least one, with commas between. -/
def readItems (text : List Char) : Reading (List Json) text := do
  let (item, ⟨rest, shorter⟩) ← readValue text
  have inside := length_skipBlanks_le rest
  match same : skipBlanks rest with
  | ']' :: after =>
    return ([item], ⟨after, by simp only [same, List.length_cons] at inside; omega⟩)
  | ',' :: more =>
    have inner := length_skipBlanks_le more
    let (items, after) ← readItems (skipBlanks more)
    return (item :: items, after.widen (by simp only [same, List.length_cons] at inside; omega))
  | other => .error (faultAt other)
termination_by (text.length, 1)
decreasing_by
  · apply Prod.Lex.right
    omega
  · apply Prod.Lex.left
    simp only [same, List.length_cons] at inside
    omega

/-- The members of an object up to its closing brace: at least one, with commas between. -/
def readMembers (text : List Char) : Reading (List (String × Json)) text := do
  let (name, ⟨afterName, shortName⟩) ← readName text
  let (value, ⟨rest, shorter⟩) ← readValue afterName
  have inside := length_skipBlanks_le rest
  match same : skipBlanks rest with
  | '\x7d' :: after =>
    return ([(name, value)], ⟨after, by simp only [same, List.length_cons] at inside; omega⟩)
  | ',' :: more =>
    have inner := length_skipBlanks_le more
    let (members, after) ← readMembers (skipBlanks more)
    return ((name, value) :: members,
      after.widen (by simp only [same, List.length_cons] at inside; omega))
  | other => .error (faultAt other)
termination_by (text.length, 1)
decreasing_by
  · apply Prod.Lex.left
    omega
  · apply Prod.Lex.left
    simp only [same, List.length_cons] at inside
    omega

end

/-- The value that a whole text writes. -/
def read (text : String) : Except Fault Json := do
  let (value, ⟨rest, _⟩) ← readValue (skipBlanks text.toList)
  match skipBlanks rest with
  | [] => return value
  | other => .error (faultAt other)

/-- A member with others behind it is read before them. -/
theorem readMembers_cons {text more : List Char} {name : String} {afterName : Rest text}
    {value : Json} {rest : Rest afterName.val} {members : List (String × Json)}
    {last : Rest (skipBlanks more)} (isName : readName text = .ok (name, afterName))
    (isValue : readValue afterName.val = .ok (value, rest))
    (comma : skipBlanks rest.val = ',' :: more)
    (others : readMembers (skipBlanks more) = .ok (members, last)) :
    ∃ after : Rest text, readMembers text = .ok ((name, value) :: members, after) ∧
      after.val = last.val := by
  rw [readMembers, isName]
  simp only [bind, Except.bind]
  rw [isValue]
  dsimp only
  split
  · rename_i same
    cases comma.symm.trans same
  · rename_i same
    obtain rfl : more = _ := (List.cons.inj (comma.symm.trans same)).2
    rw [others]
    exact ⟨_, rfl, rfl⟩
  · rename_i other
    exact absurd comma (other more)

/-- An object that has members is read as these are. -/
theorem readValue_object (text : List Char) {letters : List Char} {members : List (String × Json)}
    {last : Rest letters} (starts : skipBlanks text = letters)
    (isRead : readMembers letters = .ok (members, last)) :
    ∃ after : Rest ('\x7b' :: text), readValue ('\x7b' :: text) = .ok (.object members, after) ∧
      after.val = last.val := by
  subst starts
  rw [readValue]
  dsimp only
  split
  · rename_i same
    -- a brace begins no member
    simp [same, readMembers, readName, bind, Except.bind] at isRead
  · rw [isRead]
    exact ⟨_, rfl, rfl⟩

/-- A value at the beginning of a text, with nothing but blanks after it, is what is read. -/
theorem read_of_readValue {text : String} {letters : List Char} {json : Json}
    {rest : Rest letters} (starts : skipBlanks text.toList = letters)
    (value : readValue letters = .ok (json, rest)) (ends : skipBlanks rest.val = []) :
    read text = .ok json := by
  subst starts
  unfold read
  rw [value]
  simp only [bind, Except.bind, ends]
  rfl

/-- The strict reader as a parser. -/
def parser : Parser :=
  fun text => (read text).mapError Fault.message

theorem parser_eq_ok {text : String} {json : Json} (isRead : read text = .ok json) :
    parser text = .ok json := by
  rw [parser, isRead]
  rfl

theorem parser_eq_error {text : String} {fault : Fault} (isRefused : read text = .error fault) :
    parser text = .error fault.message := by
  rw [parser, isRefused]
  rfl

end TypeChart.Json
