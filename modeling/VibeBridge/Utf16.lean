import Mathlib.Data.List.Count
import Mathlib.Data.List.Flatten

/-!
Texts in UTF-16, where a character from 2^16 on is a pair of surrogates, and the
lossy way back, in which a surrogate without its partner becomes U+FFFD. ASCII
characters are units of their own, before and after (`decode_lossy_count`).
-/
namespace Utf16

def encode_char (c : Char) : List UInt16 :=
  if c.toNat < 0x10000 then [UInt16.ofNat c.toNat]
  else [UInt16.ofNat (0xD800 + (c.toNat - 0x10000) / 0x400),UInt16.ofNat (0xDC00 + (c.toNat - 0x10000) % 0x400)]

def encode (text : List Char) : List UInt16 := text.flatMap encode_char

def is_high (u : UInt16) : Bool := 0xD800 ≤ u.toNat && u.toNat < 0xDC00

def is_low (u : UInt16) : Bool := 0xDC00 ≤ u.toNat && u.toNat < 0xE000

/-- The character of a unit that has no partner. -/
def lone (u : UInt16) : Char := if is_high u || is_low u then Char.ofNat 0xFFFD else Char.ofNat u.toNat

/-- The character of a pair of surrogates. -/
def paired (u v : UInt16) : Char := Char.ofNat (0x10000 + (u.toNat - 0xD800) * 0x400 + (v.toNat - 0xDC00))

def decode_lossy : List UInt16 → List Char
  | [] => []
  | [u] => [lone u]
  | u :: v :: rest => if is_high u && is_low v then paired u v :: decode_lossy rest else lone u :: decode_lossy (v :: rest)

theorem ofNat_toNat {n : Nat} (valid : n.isValidChar) : (Char.ofNat n).toNat = n := by
  rw [Char.ofNat,dif_pos valid]
  rfl

theorem encode_nil : encode [] = [] := rfl

theorem encode_cons (c : Char) (text : List Char) : encode (c :: text) = encode_char c ++ encode text := List.flatMap_cons

theorem encode_append (s t : List Char) : encode (s ++ t) = encode s ++ encode t := List.flatMap_append

/-- A character that is no surrogate. -/
theorem char_range (c : Char) : c.toNat < 0xD800 ∨ 0xE000 ≤ c.toNat ∧ c.toNat < 0x110000 := by
  rcases c.valid with small | ⟨large,bound⟩
  · exact .inl small
  · refine .inr ⟨?_,bound⟩
    change 0xDFFF < c.toNat at large
    omega

/-- What is read back is what was written. -/
theorem decode_encode (text : List Char) : decode_lossy (encode text) = text := by
  induction text with
  | nil => rfl
  | cons c text ih =>
    rw [encode_cons,encode_char]
    have range := char_range c
    split
    · rename_i small
      have unit : (UInt16.ofNat c.toNat).toNat = c.toNat := UInt16.toNat_ofNat_of_lt' small
      have plain : is_high (UInt16.ofNat c.toNat) = false := by
        simp only [is_high,unit,Bool.and_eq_false_iff,decide_eq_false_iff_not]
        omega
      have single : is_low (UInt16.ofNat c.toNat) = false := by
        simp only [is_low,unit,Bool.and_eq_false_iff,decide_eq_false_iff_not]
        omega
      have same : lone (UInt16.ofNat c.toNat) = c := by
        rw [lone,plain,single,unit]
        exact Char.ofNat_toNat c
      rw [List.singleton_append]
      cases after : encode text with
      | nil =>
        rw [after] at ih
        rw [decode_lossy,same,← ih]
        rfl
      | cons v rest => rw [decode_lossy,plain,Bool.false_and,if_neg (by decide),same,← after,ih]
    · rename_i large
      have high : (UInt16.ofNat (0xD800 + (c.toNat - 0x10000) / 0x400)).toNat = 0xD800 + (c.toNat - 0x10000) / 0x400 :=
        UInt16.toNat_ofNat_of_lt' (by simp only [UInt16.size]; omega)
      have low : (UInt16.ofNat (0xDC00 + (c.toNat - 0x10000) % 0x400)).toNat = 0xDC00 + (c.toNat - 0x10000) % 0x400 :=
        UInt16.toNat_ofNat_of_lt' (by simp only [UInt16.size]; omega)
      have partners : (is_high (UInt16.ofNat (0xD800 + (c.toNat - 0x10000) / 0x400)) &&
          is_low (UInt16.ofNat (0xDC00 + (c.toNat - 0x10000) % 0x400))) = true := by
        simp only [is_high,is_low,high,low,Bool.and_eq_true,decide_eq_true_eq]
        omega
      have whole : 0x10000 + (0xD800 + (c.toNat - 0x10000) / 0x400 - 0xD800) * 0x400 +
          (0xDC00 + (c.toNat - 0x10000) % 0x400 - 0xDC00) = c.toNat := by omega
      rw [List.cons_append,List.singleton_append,decode_lossy,if_pos partners,ih,paired,high,low,whole,Char.ofNat_toNat]

/-- An ASCII unit stands for its character only. -/
theorem encode_char_count {u : UInt16} (ascii : u.toNat < 0x80) (c : Char) :
    (encode_char c).count u = if c.toNat = u.toNat then 1 else 0 := by
  have range := char_range c
  rw [encode_char]
  split
  · rename_i small
    have unit : (UInt16.ofNat c.toNat).toNat = c.toNat := UInt16.toNat_ofNat_of_lt' small
    rw [List.count_singleton]
    simp only [beq_iff_eq,← UInt16.toNat_inj,unit]
  · rename_i large
    have high : (UInt16.ofNat (0xD800 + (c.toNat - 0x10000) / 0x400)).toNat = 0xD800 + (c.toNat - 0x10000) / 0x400 :=
      UInt16.toNat_ofNat_of_lt' (by simp only [UInt16.size]; omega)
    have low : (UInt16.ofNat (0xDC00 + (c.toNat - 0x10000) % 0x400)).toNat = 0xDC00 + (c.toNat - 0x10000) % 0x400 :=
      UInt16.toNat_ofNat_of_lt' (by simp only [UInt16.size]; omega)
    have first : UInt16.ofNat (0xD800 + (c.toNat - 0x10000) / 0x400) ≠ u := by
      rw [ne_eq,← UInt16.toNat_inj,high]
      omega
    have second : UInt16.ofNat (0xDC00 + (c.toNat - 0x10000) % 0x400) ≠ u := by
      rw [ne_eq,← UInt16.toNat_inj,low]
      omega
    rw [List.count_cons_of_ne first,List.count_cons_of_ne second,List.count_nil,if_neg (by omega)]

theorem mem_encode {c : Char} {u : UInt16} (ascii : u.toNat < 0x80) (same : c.toNat = u.toNat) {text : List Char} :
    u ∈ encode text ↔ c ∈ text := by
  have here (d : Char) : u ∈ encode_char d ↔ d = c := by
    rw [← List.count_pos_iff,encode_char_count ascii,← same,← Char.toNat_inj]
    split <;> simp_all
  rw [encode,List.mem_flatMap]
  constructor
  · rintro ⟨d,member,inside⟩
    exact (here d).mp inside ▸ member
  · intro member
    exact ⟨c,member,(here c).mpr rfl⟩

/-- There are as many of an ASCII unit in what is read back. -/
theorem decode_lossy_count {u : UInt16} (ascii : u.toNat < 0x80) (units : List UInt16) :
    (encode (decode_lossy units)).count u = units.count u := by
  have surrogate (v : UInt16) (found : is_high v = true ∨ is_low v = true) : 0xD800 ≤ v.toNat := by
    simp only [is_high,is_low,Bool.and_eq_true,decide_eq_true_eq] at found
    omega
  have other (v : UInt16) (found : is_high v = true ∨ is_low v = true) : v ≠ u := by
    rintro rfl
    have large := surrogate v found
    omega
  have alone (v : UInt16) : (encode_char (lone v)).count u = [v].count u := by
    rw [encode_char_count ascii,lone]
    split
    · rename_i found
      rw [Bool.or_eq_true] at found
      rw [ofNat_toNat (by decide),if_neg (by omega),List.count_cons_of_ne (other v found),List.count_nil]
    · rename_i plain
      have bound := v.toNat_lt
      have valid : v.toNat.isValidChar := by
        simp only [is_high,is_low,Bool.or_eq_true,Bool.and_eq_true,decide_eq_true_eq] at plain
        change v.toNat < 0xD800 ∨ 0xDFFF < v.toNat ∧ v.toNat < 0x110000
        omega
      rw [ofNat_toNat valid,List.count_singleton]
      simp only [beq_iff_eq,← UInt16.toNat_inj]
  fun_induction decode_lossy units with
  | case1 => rfl
  | case2 v => rw [encode_cons,encode_nil,List.append_nil,alone]
  | case3 v w rest pair ih =>
    rw [Bool.and_eq_true] at pair
    have large : ¬ (paired v w).toNat = u.toNat := by
      have high := pair.1
      have low := pair.2
      simp only [is_high,is_low,Bool.and_eq_true,decide_eq_true_eq] at high low
      rw [paired,ofNat_toNat (by change _ < 0xD800 ∨ 0xDFFF < _ ∧ _ < 0x110000; omega)]
      omega
    rw [encode_cons,List.count_append,encode_char_count ascii,if_neg large,ih,List.count_cons_of_ne (other v (.inl pair.1)),
      List.count_cons_of_ne (other w (.inr pair.2)),Nat.zero_add]
  | case4 v w rest apart ih =>
    have parts : (v :: w :: rest).count u = [v].count u + (w :: rest).count u := by
      rw [← List.count_append]
      rfl
    rw [encode_cons,List.count_append,alone,ih,parts]

end Utf16
