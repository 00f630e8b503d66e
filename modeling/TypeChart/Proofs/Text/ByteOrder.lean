/-
**The order of bytes.**

Keys are compared by code point, and a sorted map of texts compares bytes. The two orders are one,
because UTF-8 was made that way: a greater code point has a greater first byte, or the same first
byte, as many continuation bytes, and greater digits in them.

* `continuation_lt`: continuation bytes are ordered as the digits that they hold.
* `utf8EncodeChar_append_lt`: the greater character decides, whatever follows.
* `bytes_lt_iff`: the order of texts is the order of their bytes.
-/

import Mathlib.Data.String.Basic
import Mathlib.Tactic.SplitIfs
import TypeChart.Scope

namespace TypeChart

/-! ### The bytes of one character -/

/-- So many continuation bytes, which hold the low digits of a code point in base 64. -/
def continuation : Nat → Nat → List UInt8
  | 0, _ => []
  | count + 1, code => UInt8.ofNat (code / 64 ^ count % 64 + 128) :: continuation count code

/-- The number of continuation bytes of a code point. -/
def continuationCount (code : Nat) : Nat :=
  if code ≤ 0x7f then 0 else if code ≤ 0x7ff then 1 else if code ≤ 0xffff then 2 else 3

/-- The first byte of a code point, which tells how many follow and holds the digits they lack. -/
def leadingByte (code : Nat) : Nat :=
  if code ≤ 0x7f then code
  else if code ≤ 0x7ff then code / 64 % 32 + 192
  else if code ≤ 0xffff then code / 4096 % 16 + 224
  else code / 262144 % 8 + 240

theorem utf8EncodeChar_eq (c : Char) :
    String.utf8EncodeChar c =
      UInt8.ofNat (leadingByte c.toNat) ::
        continuation (continuationCount c.toNat) c.toNat := by
  unfold String.utf8EncodeChar leadingByte continuationCount Char.toNat
  dsimp only
  split_ifs <;> simp [continuation]

theorem cons_ofNat_lt {first second : Nat} {front back : List UInt8} (isByte : second < 256)
    (less : first < second ∨ first = second ∧ front < back) :
    UInt8.ofNat first :: front < UInt8.ofNat second :: back := by
  rw [List.cons_lt_cons_iff, UInt8.lt_iff_toNat_lt, UInt8.toNat_ofNat', UInt8.toNat_ofNat']
  rcases less with less | ⟨rfl, less⟩
  · exact .inl (by omega)
  · exact .inr ⟨rfl, less⟩

/-- Continuation bytes are ordered as the digits that they hold. -/
theorem continuation_lt {count first second : Nat}
    (less : first % 64 ^ count < second % 64 ^ count) (front back : List UInt8) :
    continuation count first ++ front < continuation count second ++ back := by
  induction count with
  | zero => simp [Nat.mod_one] at less
  | succ count ih =>
    refine cons_ofNat_lt (by omega) ?_
    rw [Nat.mod_pow_succ, Nat.mod_pow_succ] at less
    have low := Nat.mod_lt second (Nat.pow_pos (n := count) (by decide : 0 < 64))
    rcases Nat.lt_trichotomy (first / 64 ^ count % 64) (second / 64 ^ count % 64) with
      digit | digit | digit
    · exact .inl (by omega)
    · rw [digit] at less ⊢
      exact .inr ⟨rfl, ih (by omega)⟩
    · have step := Nat.mul_le_mul_left (64 ^ count) (Nat.succ_le_of_lt digit)
      rw [Nat.mul_succ] at step
      omega

theorem leadingByte_lt {first second : Nat} (less : first < second) (isCode : second < 0x110000) :
    leadingByte first < leadingByte second ∨
      leadingByte first = leadingByte second ∧
        continuationCount first = continuationCount second ∧
        first % 64 ^ continuationCount first < second % 64 ^ continuationCount second := by
  unfold leadingByte continuationCount
  split_ifs <;> omega

theorem leadingByte_lt_256 (code : Nat) : leadingByte code < 256 := by
  unfold leadingByte
  split_ifs <;> omega

/-- **The greater character decides**, whatever follows it. -/
theorem utf8EncodeChar_append_lt {c d : Char} (less : c < d) (front back : List UInt8) :
    String.utf8EncodeChar c ++ front < String.utf8EncodeChar d ++ back := by
  have isCode : d.toNat < 0x110000 := by
    have valid := d.valid
    simp only [UInt32.isValidChar, Nat.isValidChar] at valid
    show d.val.toNat < 0x110000
    omega
  rw [utf8EncodeChar_eq, utf8EncodeChar_eq]
  refine cons_ofNat_lt (leadingByte_lt_256 d.toNat) ?_
  have codes : c.toNat < d.toNat := less
  rcases leadingByte_lt codes isCode with lead | ⟨lead, count, digits⟩
  · exact .inl lead
  · refine .inr ⟨lead, ?_⟩
    rw [← count] at digits ⊢
    exact continuation_lt digits front back

/-! ### The bytes of a text -/

/-- The bytes of a text in UTF-8. -/
def bytes (text : String) : List UInt8 :=
  text.toUTF8.data.toList

theorem bytes_eq (text : String) : bytes text = text.toList.flatMap String.utf8EncodeChar := by
  unfold bytes
  rw [String.toUTF8_eq_toByteArray, ← String.utf8Encode_toList, List.utf8Encode]
  simp

theorem flatMap_utf8EncodeChar_lt {front back : List Char} (less : front < back) :
    front.flatMap String.utf8EncodeChar < back.flatMap String.utf8EncodeChar := by
  induction front generalizing back with
  | nil =>
    cases back with
    | nil => cases less
    | cons d rest =>
      rw [List.flatMap_nil, List.flatMap_cons, utf8EncodeChar_eq]
      exact List.nil_lt_cons _ _
  | cons c front ih =>
    cases back with
    | nil => cases less
    | cons d back =>
      rw [List.flatMap_cons, List.flatMap_cons]
      rcases List.cons_lt_cons_iff.mp less with first | ⟨rfl, rest⟩
      · exact utf8EncodeChar_append_lt first _ _
      · exact List.append_left_lt (ih rest)

/-- **The order of texts is the order of their bytes.** -/
theorem bytes_lt_iff {first second : String} : bytes first < bytes second ↔ first < second := by
  have forward : ∀ {lower upper : String}, lower < upper → bytes lower < bytes upper := by
    intro lower upper less
    rw [bytes_eq, bytes_eq]
    exact flatMap_utf8EncodeChar_lt (String.lt_iff.mp less)
  refine ⟨fun less => ?_, forward⟩
  rcases lt_trichotomy first second with before | rfl | after
  · exact before
  · exact absurd less (List.lt_irrefl _)
  · exact absurd (List.lt_trans less (forward after)) (List.lt_irrefl _)

end TypeChart
