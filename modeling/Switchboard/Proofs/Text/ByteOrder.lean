import Mathlib.Data.List.Basic
import Mathlib.Data.Nat.Basic
import Mathlib.Data.String.Basic

/-!
# The order of texts and of their bytes

Texts are ordered letter by letter.  Written in UTF-8 they are in the same
order byte by byte: the bytes of a letter are its number to base 64 behind a
mark that grows with their count, so where two letters differ, their bytes
settle the order before whatever follows them.
-/

namespace Switchboard.Text

/-- The bytes of a text in UTF-8. -/
def utf8Bytes (text : String) : List UInt8 := text.toUTF8.data.toList

/-- How many bytes follow the first byte of the letter with a number. -/
def trailing (number : Nat) : Nat :=
  if number ≤ 0x7f then 0
  else if number ≤ 0x7ff then 1
  else if number ≤ 0xffff then 2
  else 3

/-- The mark in the first byte of a letter that so many bytes follow. -/
def mark : Nat → Nat
  | 0 => 0
  | 1 => 0xc0
  | 2 => 0xe0
  | _ => 0xf0

/-- The first byte of the letter with a number: its leading digits behind the
mark. -/
def leading (number : Nat) : Nat :=
  number / 64 ^ trailing number + mark (trailing number)

/-- The last digits of a number to base 64, each in a byte. -/
def sextets : Nat → Nat → List UInt8
  | 0, _ => []
  | count + 1, number =>
      sextets count (number / 64) ++ [UInt8.ofNat (number % 64 + 0x80)]

theorem toNat_lt (c : Char) : c.toNat < 0x110000 := by
  rcases c.valid with low | ⟨_, high⟩
  · exact low.trans (by decide)
  · exact high

theorem utf8EncodeChar_eq (c : Char) :
    String.utf8EncodeChar c =
      UInt8.ofNat (leading c.toNat) ::
        sextets (trailing c.toNat) c.toNat := by
  have bound := toNat_lt c
  have number : c.val.toNat = c.toNat := rfl
  rw [String.utf8EncodeChar, number]
  unfold leading trailing
  -- The leading digits fit beside the mark, so no digit of them is cut off.
  split_ifs
  · simp [sextets, mark]
  · have whole : c.toNat / 64 % 32 = c.toNat / 64 := by omega
    simp [sextets, mark, whole]
  · have whole : c.toNat / 4096 % 16 = c.toNat / 4096 := by omega
    simp [sextets, mark, whole]
  · have whole : c.toNat / 262144 % 8 = c.toNat / 262144 := by omega
    simp [sextets, mark, whole, Nat.div_div_eq_div_mul]

theorem leading_lt_size (c : Char) : leading c.toNat < UInt8.size := by
  have bound := toNat_lt c
  unfold leading trailing
  split_ifs <;> simp only [mark, UInt8.size] <;> omega

theorem leading_lt_or_eq {number other : Nat} (less : number < other) :
    leading number < leading other ∨
      leading number = leading other ∧ trailing number = trailing other ∧
        number / 64 ^ trailing number = other / 64 ^ trailing number := by
  unfold leading trailing
  split_ifs <;> simp only [mark, true_and] <;> omega

theorem sextets_append_lt {count number other : Nat} (less : number < other)
    (same : number / 64 ^ count = other / 64 ^ count)
    (after behind : List UInt8) :
    sextets count number ++ after < sextets count other ++ behind := by
  induction count generalizing number other after behind with
  | zero =>
      rw [Nat.pow_zero, Nat.div_one, Nat.div_one] at same
      exact absurd same (Nat.ne_of_lt less)
  | succ count induction =>
      rw [sextets, sextets, List.append_assoc, List.append_assoc]
      rcases Nat.lt_or_eq_of_le (Nat.div_le_div_right (c := 64) less.le) with
        above | equal
      · refine induction above ?_ _ _
        rwa [Nat.div_div_eq_div_mul, Nat.div_div_eq_div_mul, ← Nat.pow_succ']
      · rw [equal]
        refine List.append_left_lt (List.Lex.rel ?_)
        rw [UInt8.lt_iff_toNat_lt, UInt8.toNat_ofNat', UInt8.toNat_ofNat']
        omega

theorem utf8EncodeChar_append_lt {c d : Char} (less : c < d)
    (after behind : List UInt8) :
    String.utf8EncodeChar c ++ after <
      String.utf8EncodeChar d ++ behind := by
  rw [utf8EncodeChar_eq, utf8EncodeChar_eq, List.cons_append,
    List.cons_append, List.cons_lt_cons_iff]
  rcases leading_lt_or_eq (show c.toNat < d.toNat from less) with
    lead | ⟨lead, count, digits⟩
  · left
    rwa [UInt8.lt_iff_toNat_lt, UInt8.toNat_ofNat_of_lt' (leading_lt_size c),
      UInt8.toNat_ofNat_of_lt' (leading_lt_size d)]
  · right
    rw [lead, ← count]
    exact ⟨rfl, sextets_append_lt less digits after behind⟩

theorem flatMap_utf8EncodeChar_lt {letters others : List Char}
    (less : letters < others) :
    letters.flatMap String.utf8EncodeChar <
      others.flatMap String.utf8EncodeChar := by
  induction less with
  | nil =>
      obtain ⟨first, rest, bytes⟩ :=
        List.exists_cons_of_ne_nil String.utf8EncodeChar_ne_nil
      rw [List.flatMap_cons, bytes]
      exact List.Lex.nil
  | rel less => exact utf8EncodeChar_append_lt less _ _
  | cons _ induction => exact List.append_left_lt induction

theorem utf8Bytes_eq_flatMap (text : String) :
    utf8Bytes text = text.toList.flatMap String.utf8EncodeChar := by
  rw [utf8Bytes, String.toUTF8, ← String.utf8Encode_toList, List.utf8Encode,
    List.toList_data_toByteArray]

theorem utf8Bytes_lt {text other : String} (less : text < other) :
    utf8Bytes text < utf8Bytes other := by
  rw [utf8Bytes_eq_flatMap, utf8Bytes_eq_flatMap]
  exact flatMap_utf8EncodeChar_lt (String.lt_iff_toList_lt.mp less)

theorem utf8Bytes_lt_iff {text other : String} :
    utf8Bytes text < utf8Bytes other ↔ text < other := by
  refine ⟨fun less => ?_, utf8Bytes_lt⟩
  rcases lt_trichotomy text other with before | rfl | after
  · exact before
  · exact absurd less (List.lt_irrefl _)
  · exact absurd less (List.lt_asymm (utf8Bytes_lt after))

theorem utf8Bytes_le_iff {text other : String} :
    utf8Bytes text ≤ utf8Bytes other ↔ text ≤ other := by
  rw [← List.not_lt, utf8Bytes_lt_iff, not_lt]

end Switchboard.Text
