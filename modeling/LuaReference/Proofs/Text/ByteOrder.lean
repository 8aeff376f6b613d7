import LuaReference.Text.Bytes
import LuaReference.Text.NameSet
import Mathlib.Algebra.Group.Nat.Defs
import Mathlib.Tactic.SplitIfs

/-!
# The order of texts and of their bytes

Texts are compared by code points. That is the order of their bytes: more bytes follow a greater first
byte, and the bytes after it are digits.

* `digits k n` : the last `k` digits of a code point in base 64, as bytes;
* `trailing`, `lead` : how many of them there are, and what their number adds to the first byte;
* `utf8EncodeChar_eq` : the bytes of a character in these terms;
* `encode_lt_iff` : a text is before another just when its bytes are.
-/

namespace LuaReference.Text

/-- The last digits of a code point in base 64, as bytes. -/
def digits : Nat → Nat → Bytes
  | 0, _ => []
  | k + 1, n => UInt8.ofNat (n / 64 ^ k % 64 + 128) :: digits k n

/-- The number of bytes after the first. -/
def trailing (n : Nat) : Nat :=
  if n < 0x80 then 0 else if n < 0x800 then 1 else if n < 0x10000 then 2 else 3

/-- What the number of bytes after the first adds to the first. -/
def lead : Nat → Nat
  | 0 => 0
  | 1 => 192
  | 2 => 224
  | _ => 240

theorem lt_of_char (c : Char) : c.toNat < 0x110000 := by
  rcases c.valid with hlow | hhigh
  · exact Nat.lt_trans hlow (by decide)
  · exact hhigh.2

theorem utf8EncodeChar_eq (c : Char) :
    String.utf8EncodeChar c =
      UInt8.ofNat (c.toNat / 64 ^ trailing c.toNat + lead (trailing c.toNat)) ::
        digits (trailing c.toNat) c.toNat := by
  have hc : c.val.toNat < 0x110000 := lt_of_char c
  have hval : c.toNat = c.val.toNat := rfl
  rw [hval]
  unfold String.utf8EncodeChar
  generalize c.val.toNat = n at hc
  dsimp only
  by_cases hone : n < 0x80
  · have hk : trailing n = 0 := by simp [trailing, hone]
    rw [if_pos (by omega), hk]
    simp [lead, digits]
  · by_cases htwo : n < 0x800
    · have hk : trailing n = 1 := by simp [trailing, hone, htwo]
      have hmod : n / 64 % 32 = n / 64 := Nat.mod_eq_of_lt (by omega)
      rw [if_neg (by omega), if_pos (by omega), hk, hmod]
      simp [lead, digits]
    · by_cases hthree : n < 0x10000
      · have hk : trailing n = 2 := by simp [trailing, hone, htwo, hthree]
        have hmod : n / 4096 % 16 = n / 4096 := Nat.mod_eq_of_lt (by omega)
        rw [if_neg (by omega), if_neg (by omega), if_pos (by omega), hk, hmod]
        simp [lead, digits]
      · have hk : trailing n = 3 := by simp [trailing, hone, htwo, hthree]
        have hmod : n / 262144 % 8 = n / 262144 := Nat.mod_eq_of_lt (by omega)
        rw [if_neg (by omega), if_neg (by omega), if_neg (by omega), hk, hmod]
        simp [lead, digits]

theorem byte_lt {a b : Nat} (h : a < b) (hb : b < 256) : UInt8.ofNat a < UInt8.ofNat b := by
  rw [UInt8.lt_iff_toNat_lt, UInt8.toNat_ofNat', UInt8.toNat_ofNat']
  omega

/-- Of two numbers that agree above their last digits, the smaller one has the smaller digits. -/
theorem digits_lt {k m n : Nat} (h : m < n) (hsame : m / 64 ^ k = n / 64 ^ k) (s t : Bytes) :
    digits k m ++ s < digits k n ++ t := by
  induction k with
  | zero =>
    rw [Nat.pow_zero, Nat.div_one, Nat.div_one] at hsame
    omega
  | succ k ih =>
    rw [Nat.pow_succ, ← Nat.div_div_eq_div_mul, ← Nat.div_div_eq_div_mul] at hsame
    rw [digits, digits, List.cons_append, List.cons_append, List.cons_lt_cons_iff]
    rcases Nat.lt_or_eq_of_le (Nat.div_le_div_right (c := 64 ^ k) (Nat.le_of_lt h)) with hlt | heq
    · exact Or.inl (byte_lt (by omega) (by omega))
    · exact Or.inr ⟨by rw [heq], ih heq⟩

theorem trailing_mono {m n : Nat} (h : m < n) : trailing m ≤ trailing n := by
  unfold trailing
  split_ifs <;> omega

theorem first_byte_lt {m n : Nat} (h : trailing m < trailing n) :
    m / 64 ^ trailing m + lead (trailing m) < n / 64 ^ trailing n + lead (trailing n) := by
  revert h
  unfold trailing
  split_ifs <;> simp only [lead] <;> omega

theorem first_byte_fits {n : Nat} (h : n < 0x110000) : n / 64 ^ trailing n + lead (trailing n) < 256 := by
  unfold trailing
  split_ifs <;> simp only [lead] <;> omega

/-- The bytes of a character are before those of a greater one, whatever follows. -/
theorem utf8EncodeChar_lt {c d : Char} (h : c < d) (s t : Bytes) :
    String.utf8EncodeChar c ++ s < String.utf8EncodeChar d ++ t := by
  have hcode : c.toNat < d.toNat := h
  have hfits := first_byte_fits (lt_of_char d)
  rw [utf8EncodeChar_eq, utf8EncodeChar_eq, List.cons_append, List.cons_append, List.cons_lt_cons_iff]
  rcases Nat.lt_or_eq_of_le (trailing_mono hcode) with hshort | hlength
  · exact Or.inl (byte_lt (first_byte_lt hshort) hfits)
  · rw [hlength]
    have hle := Nat.div_le_div_right (c := 64 ^ trailing d.toNat) (Nat.le_of_lt hcode)
    rcases Nat.lt_or_eq_of_le hle with hlt | heq
    · exact Or.inl (byte_lt (by omega) hfits)
    · exact Or.inr ⟨by rw [heq], digits_lt hcode heq s t⟩

theorem encode_cons (c : Char) (t : Text) : encode (c :: t) = String.utf8EncodeChar c ++ encode t :=
  List.flatMap_cons

theorem encode_lt {a b : Text} (h : a < b) : encode a < encode b := by
  induction h with
  | @nil d b =>
    rw [encode_cons, utf8EncodeChar_eq]
    exact List.nil_lt_cons _ _
  | @rel c a d b hlt =>
    rw [encode_cons, encode_cons]
    exact utf8EncodeChar_lt hlt _ _
  | @cons c a b _ ih =>
    rw [encode_cons, encode_cons]
    exact List.append_left_lt ih

/-- A text is before another just when its bytes are. -/
theorem encode_lt_iff {a b : Text} : encode a < encode b ↔ a < b := by
  refine ⟨fun h => ?_, encode_lt⟩
  by_cases hlt : a < b
  · exact hlt
  · by_cases hsame : a = b
    · exact absurd h (hsame ▸ List.lt_irrefl _)
    · exact absurd h (List.lt_asymm (encode_lt (lt_of_not_lt hlt hsame)))

end LuaReference.Text
