import KvTables.Sorted
import Mathlib.Algebra.Group.Nat.Defs

/-! Texts are ordered as their UTF-8 bytes are.

The code of a character is spread over a leading byte, which says how many bytes follow, and over six
bits in each of those. Greater codes have greater leading bytes, or the same and greater bytes behind.
-/

set_option autoImplicit false

namespace KvTables

namespace Utf8

def bytes (text : String) : List UInt8 := text.toUTF8.data.toList

/-- How many bytes follow the leading one. -/
def width (code : Nat) : Nat :=
  if code ≤ 127 then 0 else if code ≤ 2047 then 1 else if code ≤ 65535 then 2 else 3

def lead (code : Nat) : Nat :=
  if code ≤ 127 then code else if code ≤ 2047 then code / 64 + 192
  else if code ≤ 65535 then code / 4096 + 224 else code / 262144 + 240

def trailing (code : Nat) : Nat → List UInt8
  | 0 => []
  | rest + 1 => UInt8.ofNat (code / 64 ^ rest % 64 + 128) :: trailing code rest

theorem lt_of_char (code : Char) : code.toNat < 1114112 := by
  rcases code.valid with low | ⟨-, high⟩
  · exact Nat.lt_trans low (by decide)
  · exact high

theorem encode_eq (code : Char) : String.utf8EncodeChar code =
    UInt8.ofNat (lead code.toNat) :: trailing code.toNat (width code.toNat) := by
  have small := lt_of_char code
  simp only [String.utf8EncodeChar, lead, width, Char.toNat] at small ⊢
  by_cases one : code.val.toNat ≤ 127
  · simp only [if_pos one, trailing]
  · by_cases two : code.val.toNat ≤ 2047
    · simp only [if_neg one, if_pos two, trailing, Nat.reducePow, Nat.div_one,
        Nat.mod_eq_of_lt (by omega : code.val.toNat / 64 < 32)]
    · by_cases three : code.val.toNat ≤ 65535
      · simp only [if_neg one, if_neg two, if_pos three, trailing, Nat.reducePow, Nat.div_one,
          Nat.mod_eq_of_lt (by omega : code.val.toNat / 4096 < 16)]
      · simp only [if_neg one, if_neg two, if_neg three, trailing, Nat.reducePow, Nat.div_one,
          Nat.mod_eq_of_lt (by omega : code.val.toNat / 262144 < 8)]

theorem ofNat_lt {low high : Nat} (below : low < high) (small : high < 256) :
    UInt8.ofNat low < UInt8.ofNat high :=
  (UInt8.ofNat_lt_iff_lt (Nat.lt_trans below small) small).2 below

/-- Codes that agree in all bits before are ordered by the bytes that follow. -/
theorem trailing_lt {low high : Nat} (below : low < high) (count : Nat)
    (same : low / 64 ^ count = high / 64 ^ count) (after behind : List UInt8) :
    trailing low count ++ after < trailing high count ++ behind := by
  induction count with
  | zero =>
    rw [Nat.pow_zero, Nat.div_one, Nat.div_one] at same
    omega
  | succ count ih =>
    rw [Nat.pow_succ, ← Nat.div_div_eq_div_mul, ← Nat.div_div_eq_div_mul] at same
    rw [trailing, trailing, List.cons_append, List.cons_append, List.cons_lt_cons_iff]
    -- The six bits of this byte decide, unless the codes agree in them as well.
    have ordered : low / 64 ^ count ≤ high / 64 ^ count := Nat.div_le_div_right (Nat.le_of_lt below)
    obtain equal | differ := Nat.eq_or_lt_of_le ordered
    · rw [equal]
      exact .inr ⟨rfl, ih equal⟩
    · exact .inl (ofNat_lt (by omega) (by omega))

theorem lead_small {code : Nat} (small : code < 1114112) : lead code < 256 := by
  unfold lead
  split
  · omega
  · split
    · omega
    · split <;> omega

theorem lead_lt {low high : Nat} (below : low < high) (small : high < 1114112) :
    lead low < lead high ∨ lead low = lead high ∧ width low = width high ∧
      low / 64 ^ width low = high / 64 ^ width high := by
  unfold lead width
  by_cases one : high ≤ 127
  · simp only [if_pos one, if_pos (by omega : low ≤ 127)]
    omega
  · by_cases two : high ≤ 2047
    · simp only [if_neg one, if_pos two, if_pos (by omega : low ≤ 2047)]
      split <;> omega
    · by_cases three : high ≤ 65535
      · simp only [if_neg one, if_neg two, if_pos three, if_pos (by omega : low ≤ 65535)]
        split
        · omega
        · split <;> omega
      · simp only [if_neg one, if_neg two, if_neg three]
        split
        · omega
        · split
          · omega
          · split <;> omega

theorem encode_lt {low high : Char} (below : low < high) (after behind : List UInt8) :
    String.utf8EncodeChar low ++ after < String.utf8EncodeChar high ++ behind := by
  rw [encode_eq, encode_eq, List.cons_append, List.cons_append, List.cons_lt_cons_iff]
  have codes : low.toNat < high.toNat := below
  obtain less | ⟨same, wide, above⟩ := lead_lt codes (lt_of_char high)
  · exact .inl (ofNat_lt less (lead_small (lt_of_char high)))
  · rw [same, wide]
    exact .inr ⟨rfl, trailing_lt codes _ (wide ▸ above) after behind⟩

theorem bytes_eq (text : String) : bytes text = text.toList.flatMap String.utf8EncodeChar := by
  have encoded : text.toByteArray = text.toList.utf8Encode := by
    rw [← String.toByteArray_ofList, String.ofList_toList]
  change text.toByteArray.data.toList = _
  rw [encoded, List.utf8Encode, List.data_toByteArray]

/-- The order of texts is that of their bytes. -/
theorem bytes_lt {low high : String} (below : low < high) : bytes low < bytes high := by
  rw [bytes_eq, bytes_eq]
  have chars : List.Lex (· < ·) low.toList high.toList := String.lt_iff.1 below
  generalize low.toList = first at chars ⊢
  generalize high.toList = second at chars ⊢
  induction chars with
  | @nil code rest =>
    rw [List.flatMap_cons, encode_eq]
    exact List.nil_lt_cons _ _
  | rel less => exact encode_lt less _ _
  | cons _ ih => exact List.append_left_lt ih

end Utf8

/-- Keys increase strictly in their bytes. -/
theorem Sorted.pairwise_bytes {α : Type} (sorted : Sorted α) :
    sorted.keys.Pairwise fun key other => Utf8.bytes key < Utf8.bytes other :=
  List.pairwise_map.2 (sorted.increasing.imp Utf8.bytes_lt)

end KvTables
