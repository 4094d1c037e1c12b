import Mathlib
import TableSeed.Proofs.Lua.KeyOrder

/-!
# The order of texts and of their bytes

Texts stand in the order of their code points. UTF-8 keeps that order: the first byte of a character
tells how many follow, more for greater code points, and each of them has six more bits of the code
point, the highest first. So texts that are compared as strings of bytes stand in the same order.
-/

namespace TableSeed

namespace Bytes

/-- Numbers are in the order of their groups of six bits. -/
theorem sixBits_lt {m n : ℕ} (less : m < n) :
    m / 64 / 64 / 64 < n / 64 / 64 / 64 ∨
      m / 64 / 64 / 64 = n / 64 / 64 / 64 ∧ (m / 64 / 64 % 64 < n / 64 / 64 % 64 ∨
        m / 64 / 64 % 64 = n / 64 / 64 % 64 ∧ (m / 64 % 64 < n / 64 % 64 ∨
          m / 64 % 64 = n / 64 % 64 ∧ m % 64 < n % 64)) := by
  have step {a b : ℕ} (less : a < b) : a / 64 < b / 64 ∨ a / 64 = b / 64 ∧ a % 64 < b % 64 := by
    omega
  obtain third | ⟨third, fourth⟩ := step less
  · obtain second | ⟨second, third⟩ := step third
    · obtain first | ⟨first, second⟩ := step second
      · exact .inl first
      · exact .inr ⟨first, .inl second⟩
    · exact .inr ⟨by rw [second], .inr ⟨by rw [second], .inl third⟩⟩
  · exact .inr ⟨by rw [third], .inr ⟨by rw [third], .inr ⟨by rw [third], fourth⟩⟩⟩

/-- The greater character has the greater bytes, whatever follows. Characters of different lengths
differ in the first byte. -/
theorem utf8EncodeChar_lt {c d : Char} (less : c < d) (after after' : List UInt8) :
    String.utf8EncodeChar c ++ after < String.utf8EncodeChar d ++ after' := by
  have less : c.val.toNat < d.val.toNat := UInt32.lt_iff_toNat_lt.mp less
  have bound (e : Char) : e.val.toNat < 1114112 := by
    obtain low | high := e.valid
    · omega
    · exact high.2
  have boundC := bound c
  have boundD := bound d
  unfold String.utf8EncodeChar
  generalize c.val.toNat = m at less boundC ⊢
  generalize d.val.toNat = n at less boundD ⊢
  have groups := sixBits_lt less
  have second (k : ℕ) : k / 4096 = k / 64 / 64 := by omega
  have first (k : ℕ) : k / 262144 = k / 64 / 64 / 64 := by omega
  have lead (k : ℕ) (bound : k < 1114112) :
      (k / 64 / 64 / 64 % 8 + 240) % 256 = k / 64 / 64 / 64 + 240 := by omega
  have follow (k : ℕ) : (k % 64 + 128) % 256 = k % 64 + 128 := by omega
  dsimp only
  split_ifs <;>
    simp only [List.cons_append, List.nil_append, List.cons_lt_cons_iff, UInt8.lt_iff_toNat_lt,
      ← UInt8.toNat_inj, UInt8.toNat_ofNat', Nat.reducePow, first, second, lead, boundC, boundD,
      follow, Nat.add_lt_add_iff_right, Nat.add_right_cancel_iff] <;>
    omega

/-- The greater text has the greater bytes. -/
theorem flatMap_utf8EncodeChar_lt {cs ds : List Char} (less : cs < ds) :
    cs.flatMap String.utf8EncodeChar < ds.flatMap String.utf8EncodeChar := by
  induction less with
  | @nil d ds =>
    rw [List.flatMap_nil, List.flatMap_cons]
    have encoded : String.utf8EncodeChar d ≠ [] := by
      unfold String.utf8EncodeChar
      dsimp only
      split_ifs <;> exact List.cons_ne_nil _ _
    obtain ⟨byte, rest, bytes⟩ := List.exists_cons_of_ne_nil encoded
    rw [bytes, List.cons_append]
    exact List.Lex.nil
  | cons later ih =>
    rw [List.flatMap_cons, List.flatMap_cons]
    exact List.append_left_lt ih
  | rel first =>
    rw [List.flatMap_cons, List.flatMap_cons]
    exact utf8EncodeChar_lt first _ _

/-- Bytes come before others in the order of lists. -/
theorem compare_eq_lt {as bs : List UInt8} : compare as bs = .lt ↔ as < bs := by
  induction as generalizing bs with
  | nil => cases bs <;> simp
  | cons a as ih =>
    cases bs with
    | nil => simp
    | cons b bs =>
      rw [List.compare_cons_cons, List.cons_lt_cons_iff, ← ih, Ordering.then_eq_lt,
        Std.compare_eq_lt, Std.compare_eq_iff_eq]

/-- A text before another has its bytes before those of the other. -/
theorem order_ofText {a b : String} (less : a < b) : order (ofText a) (ofText b) = .lt := by
  have bytes (s : String) : (ofText s).data.toList = s.toList.flatMap String.utf8EncodeChar := by
    rw [ofText, String.toUTF8_eq_toByteArray, ← String.utf8Encode_toList, List.utf8Encode,
      List.toList_data_toByteArray]
  rw [order_eq, compare_eq_lt, bytes, bytes]
  exact flatMap_utf8EncodeChar_lt (String.lt_iff_toList_lt.mp less)

end Bytes

end TableSeed
