import Mathlib.Data.String.Basic

/-!
# Order of bytes

Texts are compared character by character, and whoever reads them as bytes
compares byte by byte.  Main statement: in UTF-8 the two orders are the same.
The code of a smaller character differs from that of a greater one in a byte
that both have, and is smaller there, so nothing that follows can matter.
-/

namespace SqlWeave.Text

/-- The bytes of a text in UTF-8. -/
def utf8Bytes (text : String) : List UInt8 := text.toUTF8.data.toList

theorem utf8Bytes_eq_flatMap (text : String) :
    utf8Bytes text = text.toList.flatMap String.utf8EncodeChar := by
  have hencode : text.toUTF8 = text.toList.utf8Encode := String.utf8Encode_toList.symm
  rw [utf8Bytes, hencode, List.utf8Encode, List.toList_data_toByteArray]

/-- The left bytes come before the right ones, whatever follows the two. -/
def Precedes (left right : List UInt8) : Prop :=
  ∀ leftRest rightRest, left ++ leftRest < right ++ rightRest

namespace Precedes

variable {left right : List UInt8}

theorem of_head {before after : UInt8} (h : before < after) :
    Precedes (before :: left) (after :: right) := by
  intro leftRest rightRest
  exact List.Lex.rel h

theorem append (h : Precedes left right) (leftBack rightBack : List UInt8) :
    Precedes (left ++ leftBack) (right ++ rightBack) := by
  intro leftRest rightRest
  rw [List.append_assoc, List.append_assoc]
  exact h (leftBack ++ leftRest) (rightBack ++ rightRest)

theorem append_left (front : List UInt8) (h : Precedes left right) :
    Precedes (front ++ left) (front ++ right) := by
  intro leftRest rightRest
  rw [List.append_assoc, List.append_assoc]
  exact List.append_left_lt (h leftRest rightRest)

end Precedes

/-- A number spread over bytes: six bits of it on every continuation byte, and what is left
of it on top of the marker in the leading byte. -/
def digits (marker : Nat) : Nat → Nat → List UInt8
  | 0, number => [UInt8.ofNat (marker + number)]
  | continuations + 1, number =>
    digits marker continuations (number / 64) ++ [UInt8.ofNat (0x80 + number % 64)]

theorem exists_digits_eq_cons (marker continuations number : Nat) :
    ∃ rest, digits marker continuations number =
      UInt8.ofNat (marker + number / 64 ^ continuations) :: rest := by
  induction continuations generalizing number with
  | zero => exact ⟨[], by simp [digits]⟩
  | succ continuations ih =>
      obtain ⟨rest, hrest⟩ := ih (number / 64)
      refine ⟨rest ++ [UInt8.ofNat (0x80 + number % 64)], ?_⟩
      rw [digits, hrest, Nat.div_div_eq_div_mul, ← Nat.pow_succ', List.cons_append]

/-- Of two numbers on equally many bytes the smaller comes first. -/
theorem digits_precedes {marker continuations number other : Nat} (hlt : number < other)
    (hbyte : marker + other / 64 ^ continuations < 256) :
    Precedes (digits marker continuations number) (digits marker continuations other) := by
  induction continuations generalizing number other with
  | zero =>
      rw [Nat.pow_zero, Nat.div_one] at hbyte
      have hlead := Nat.add_lt_add_left hlt marker
      exact .of_head ((UInt8.ofNat_lt_iff_lt (hlead.trans hbyte) hbyte).2 hlead)
  | succ continuations ih =>
      rw [Nat.pow_succ', ← Nat.div_div_eq_div_mul] at hbyte
      -- the upper bits decide, and only where they agree the last byte does
      rcases Nat.lt_or_eq_of_le (Nat.div_le_div_right (c := 64) hlt.le) with hhigh | hhigh
      · exact (ih hhigh hbyte).append _ _
      · have hlow : 0x80 + number % 64 < 0x80 + other % 64 := by omega
        have hsmall : 0x80 + other % 64 < 256 := by omega
        rw [digits, digits, hhigh]
        exact .append_left _ (.of_head
          ((UInt8.ofNat_lt_iff_lt (hlow.trans hsmall) hsmall).2 hlow))

/-- The number of continuation bytes in the code of a character. -/
def continuations (number : Nat) : Nat :=
  if number ≤ 0x7f then 0 else if number ≤ 0x7ff then 1 else if number ≤ 0xffff then 2 else 3

/-- The marker that tells the number of continuation bytes. -/
def marker : Nat → Nat
  | 0 => 0
  | 1 => 0xc0
  | 2 => 0xe0
  | _ => 0xf0

/-- The code of a character. -/
def code (number : Nat) : List UInt8 :=
  digits (marker (continuations number)) (continuations number) number

/-- The leading byte of the code of a character. -/
def leading (number : Nat) : Nat :=
  marker (continuations number) + number / 64 ^ continuations number

theorem toNat_lt_ceiling (c : Char) : c.toNat < 0x110000 := by
  rcases c.valid with hlow | ⟨-, hhigh⟩
  · exact Nat.lt_trans hlow (by decide)
  · exact hhigh

theorem utf8EncodeChar_eq_code (c : Char) : String.utf8EncodeChar c = code c.toNat := by
  have hceiling := toNat_lt_ceiling c
  rw [String.utf8EncodeChar, Char.toNat_val, code, continuations]
  split_ifs with hone htwo hthree
  · rw [digits, marker, Nat.zero_add]
  -- below the ceiling and in its range, no number loses bits of its leading byte
  all_goals
    simp only [digits, marker, Nat.div_div_eq_div_mul, List.cons_append, List.nil_append,
      List.cons.injEq, and_true]
  · exact ⟨congrArg _ (by omega), congrArg _ (by omega)⟩
  · exact ⟨congrArg _ (by omega), congrArg _ (by omega), congrArg _ (by omega)⟩
  · exact ⟨congrArg _ (by omega), congrArg _ (by omega), congrArg _ (by omega),
      congrArg _ (by omega)⟩

theorem leading_lt_size {number : Nat} (hceiling : number < 0x110000) : leading number < 256 := by
  rw [leading, continuations]
  split_ifs with hone htwo hthree <;> simp only [marker] <;> omega

theorem continuations_mono {number other : Nat} (hle : number ≤ other) :
    continuations number ≤ continuations other := by
  rw [continuations, continuations]
  split_ifs <;> omega

/-- The leading byte grows with the number of continuation bytes. -/
theorem leading_lt_of_continuations_lt {number other : Nat}
    (hlt : continuations number < continuations other) : leading number < leading other := by
  simp only [leading, continuations] at hlt ⊢
  split_ifs at hlt ⊢ <;> simp only [marker] <;> omega

/-- The code of a smaller character comes before the code of a greater one. -/
theorem code_precedes {number other : Nat} (hlt : number < other) (hceiling : other < 0x110000) :
    Precedes (code number) (code other) := by
  have hbyte := leading_lt_size hceiling
  rcases Nat.lt_or_eq_of_le (continuations_mono hlt.le) with hshorter | hequal
  · obtain ⟨rest, hrest⟩ := exists_digits_eq_cons (marker (continuations number))
      (continuations number) number
    obtain ⟨otherRest, hotherRest⟩ := exists_digits_eq_cons (marker (continuations other))
      (continuations other) other
    have hlead := leading_lt_of_continuations_lt hshorter
    rw [code, code, hrest, hotherRest]
    exact .of_head ((UInt8.ofNat_lt_iff_lt (hlead.trans hbyte) hbyte).2 hlead)
  · rw [code, code, hequal]
    exact digits_precedes hlt hbyte

/-- The first characters that differ decide, whatever the lengths of their codes. -/
theorem flatMap_utf8EncodeChar_lt {left right : List Char} (hlt : left < right) :
    left.flatMap String.utf8EncodeChar < right.flatMap String.utf8EncodeChar := by
  induction hlt with
  | @nil c rest =>
      obtain ⟨byte, bytes, hcode⟩ :=
        List.exists_cons_of_ne_nil (@String.utf8EncodeChar_ne_nil c)
      rw [List.flatMap_cons, hcode]
      exact List.nil_lt_cons byte _
  | @rel c leftRest d rightRest hlt =>
      rw [List.flatMap_cons, List.flatMap_cons, utf8EncodeChar_eq_code, utf8EncodeChar_eq_code]
      exact code_precedes hlt (toNat_lt_ceiling d) _ _
  | cons _ ih =>
      rw [List.flatMap_cons, List.flatMap_cons]
      exact List.append_left_lt ih

/-- Texts are in the order of their bytes. -/
theorem utf8Bytes_lt_utf8Bytes_iff (left right : String) :
    utf8Bytes left < utf8Bytes right ↔ left < right := by
  have hmono : ∀ {before after : String}, before < after → utf8Bytes before < utf8Bytes after := by
    intro before after hlt
    rw [utf8Bytes_eq_flatMap, utf8Bytes_eq_flatMap]
    exact flatMap_utf8EncodeChar_lt hlt
  refine ⟨fun hbytes => ?_, hmono⟩
  rcases lt_trichotomy left right with hlt | rfl | hgt
  · exact hlt
  · exact absurd hbytes (List.lt_irrefl _)
  · exact absurd hbytes (List.lt_asymm (hmono hgt))

example : "\uffff" < "😀" ∧ utf8Bytes "\uffff" = [0xef, 0xbf, 0xbf] ∧
    utf8Bytes "😀" = [0xf0, 0x9f, 0x98, 0x80] := by decide

end SqlWeave.Text
