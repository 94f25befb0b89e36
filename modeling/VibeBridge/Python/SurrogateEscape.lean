import VibeBridge.Python.LcdText

/-!
UTF-8 with `surrogateescape`. A byte that is no part of a well-formed sequence is
decoded to a surrogate of its own, an escape, and encoded to itself again
(`encode_decode`). Without the handler a surrogate is not encoded at all.
-/
namespace VibeBridge.Python.Lcd

def is_surrogate (c : Nat) : Bool := 0xd800 ≤ c && c ≤ 0xdfff

/-- A surrogate that stands for a byte. -/
def is_escape (c : Nat) : Bool := 0xdc80 ≤ c && c ≤ 0xdcff

def continues (byte : UInt8) : Bool := 0x80 ≤ byte && byte ≤ 0xbf

/-- The character that bytes begin with, and its length. -/
def utf8_char : List UInt8 → Option (Nat × Nat)
  | [] => none
  | b0 :: rest =>
    if b0 < 0x80 then some (b0.toNat,1)
    else if 0xc2 ≤ b0 ∧ b0 ≤ 0xdf then
      match rest with
      | b1 :: _ => if continues b1 then some ((b0.toNat - 0xc0) * 0x40 + (b1.toNat - 0x80),2) else none
      | _ => none
    else if 0xe0 ≤ b0 ∧ b0 ≤ 0xef then
      match rest with
      | b1 :: b2 :: _ =>
        let c := (b0.toNat - 0xe0) * 0x1000 + (b1.toNat - 0x80) * 0x40 + (b2.toNat - 0x80)
        if continues b1 ∧ continues b2 ∧ 0x800 ≤ c ∧ is_surrogate c = false then some (c,3) else none
      | _ => none
    else if 0xf0 ≤ b0 ∧ b0 ≤ 0xf4 then
      match rest with
      | b1 :: b2 :: b3 :: _ =>
        let c := (b0.toNat - 0xf0) * 0x40000 + (b1.toNat - 0x80) * 0x1000 + (b2.toNat - 0x80) * 0x40 + (b3.toNat - 0x80)
        if continues b1 ∧ continues b2 ∧ continues b3 ∧ 0x10000 ≤ c ∧ c ≤ 0x10ffff then some (c,4) else none
      | _ => none
    else none

/-- After so many bytes that belong to a character. -/
def decode_from : Nat → List UInt8 → Str
  | _, [] => []
  | skipped + 1, _ :: rest => decode_from skipped rest
  | 0, byte :: rest =>
    match utf8_char (byte :: rest) with
    | some (c,length) => c :: decode_from (length - 1) rest
    | none => (0xdc00 + byte.toNat) :: decode_from 0 rest

/-- `chunk.decode("utf-8", errors="surrogateescape")` -/
def decode (bytes : List UInt8) : Str := decode_from 0 bytes

/-- The bytes that a text has escapes for. -/
def undecodable (text : Str) : List UInt8 := (text.filter is_escape).map (fun c => UInt8.ofNat (c - 0xdc00))

/-- `UnicodeEncodeError`: the character that is not encoded. -/
structure UnicodeEncodeError where
  character : Nat
  deriving DecidableEq

/-- `text.encode("utf-8")` -/
def encode_strict (text : Str) : Except UnicodeEncodeError (List UInt8) :=
  match text.find? is_surrogate with
  | some c => .error ⟨c⟩
  | none => .ok (encode text)

/-- `text.encode("utf-8", errors="surrogateescape")` -/
def encode_escaped (text : Str) : Except UnicodeEncodeError (List UInt8) :=
  match text.find? (fun c => is_surrogate c && !is_escape c) with
  | some c => .error ⟨c⟩
  | none => .ok (encode text)

/-! ## Round trip -/

theorem byte_eq {n : Nat} {byte : UInt8} (same : n = byte.toNat) : UInt8.ofNat n = byte := by
  rw [same,UInt8.ofNat_toNat]

theorem continues_iff {byte : UInt8} : continues byte = true ↔ 0x80 ≤ byte.toNat ∧ byte.toNat ≤ 0xbf := by
  simp [continues,UInt8.le_iff_toNat_le]

theorem not_surrogate {c : Nat} : is_surrogate c = false ↔ c < 0xd800 ∨ 0xdfff < c := by
  rw [is_surrogate,Bool.and_eq_false_iff,decide_eq_false_iff_not,decide_eq_false_iff_not]
  omega

theorem encode_two {b0 b1 : UInt8} {c : Nat} (lead : 0xc2 ≤ b0.toNat ∧ b0.toNat ≤ 0xdf) (more : 0x80 ≤ b1.toNat ∧ b1.toNat ≤ 0xbf)
    (same : c = (b0.toNat - 0xc0) * 0x40 + (b1.toNat - 0x80)) : encode_char c = [b0,b1] := by
  rw [encode_char,if_neg (by omega),if_pos (by omega),byte_eq (show 0xc0 + c / 0x40 = b0.toNat by omega),
    byte_eq (show 0x80 + c % 0x40 = b1.toNat by omega)]

theorem encode_three {b0 b1 b2 : UInt8} {c : Nat} (lead : 0xe0 ≤ b0.toNat ∧ b0.toNat ≤ 0xef)
    (more : 0x80 ≤ b1.toNat ∧ b1.toNat ≤ 0xbf) (more' : 0x80 ≤ b2.toNat ∧ b2.toNat ≤ 0xbf)
    (same : c = (b0.toNat - 0xe0) * 0x1000 + (b1.toNat - 0x80) * 0x40 + (b2.toNat - 0x80)) (long : 0x800 ≤ c)
    (apart : c < 0xd800 ∨ 0xdfff < c) : encode_char c = [b0,b1,b2] := by
  rw [encode_char,if_neg (by omega),if_neg (by omega),if_neg (by omega),if_pos (by omega),
    byte_eq (show 0xe0 + c / 0x1000 = b0.toNat by omega),byte_eq (show 0x80 + c / 0x40 % 0x40 = b1.toNat by omega),
    byte_eq (show 0x80 + c % 0x40 = b2.toNat by omega)]

theorem encode_four {b0 b1 b2 b3 : UInt8} {c : Nat} (lead : 0xf0 ≤ b0.toNat ∧ b0.toNat ≤ 0xf4)
    (more : 0x80 ≤ b1.toNat ∧ b1.toNat ≤ 0xbf) (more' : 0x80 ≤ b2.toNat ∧ b2.toNat ≤ 0xbf)
    (more'' : 0x80 ≤ b3.toNat ∧ b3.toNat ≤ 0xbf) (same : c = (b0.toNat - 0xf0) * 0x40000 + (b1.toNat - 0x80) * 0x1000 +
      (b2.toNat - 0x80) * 0x40 + (b3.toNat - 0x80)) (long : 0x10000 ≤ c) : encode_char c = [b0,b1,b2,b3] := by
  rw [encode_char,if_neg (by omega),if_neg (by omega),if_neg (by omega),if_neg (by omega),
    byte_eq (show 0xf0 + c / 0x40000 = b0.toNat by omega),byte_eq (show 0x80 + c / 0x1000 % 0x40 = b1.toNat by omega),
    byte_eq (show 0x80 + c / 0x40 % 0x40 = b2.toNat by omega),byte_eq (show 0x80 + c % 0x40 = b3.toNat by omega)]

/-- A character that is read is no surrogate, and is encoded as the bytes that it is read from. -/
theorem utf8_char_some {bytes : List UInt8} {c length : Nat} (read : utf8_char bytes = some (c,length)) :
    is_surrogate c = false ∧ (encode_char c).length = length ∧ ∃ rest, bytes = encode_char c ++ rest := by
  cases bytes with
  | nil => cases read
  | cons b0 rest =>
    rw [utf8_char.eq_def] at read
    simp only [UInt8.lt_iff_toNat_lt,UInt8.le_iff_toNat_le] at read
    split at read
    · rename_i small
      simp only [UInt8.reduceToNat] at small
      obtain ⟨rfl,rfl⟩ := Prod.mk.inj (Option.some.inj read)
      have single : encode_char b0.toNat = [b0] := by
        rw [encode_char,if_pos small,UInt8.ofNat_toNat]
      rw [single]
      exact ⟨not_surrogate.mpr (.inl (by omega)),rfl,rest,rfl⟩
    · split at read
      · rename_i lead
        cases rest with
        | nil => cases read
        | cons b1 rest =>
          obtain ⟨more,found⟩ := Option.ite_none_right_eq_some.mp read
          obtain ⟨rfl,rfl⟩ := Prod.mk.inj (Option.some.inj found)
          rw [continues_iff] at more
          simp only [UInt8.reduceToNat] at lead
          rw [encode_two lead more rfl]
          exact ⟨not_surrogate.mpr (.inl (by omega)),rfl,rest,rfl⟩
      · split at read
        · rename_i lead
          cases rest with
          | nil => cases read
          | cons b1 rest =>
            cases rest with
            | nil => cases read
            | cons b2 rest =>
              obtain ⟨⟨more,more',long,apart⟩,found⟩ := Option.ite_none_right_eq_some.mp read
              obtain ⟨rfl,rfl⟩ := Prod.mk.inj (Option.some.inj found)
              rw [continues_iff] at more more'
              simp only [UInt8.reduceToNat] at lead
              rw [encode_three lead more more' rfl long (not_surrogate.mp apart)]
              exact ⟨apart,rfl,rest,rfl⟩
        · split at read
          · rename_i lead
            cases rest with
            | nil => cases read
            | cons b1 rest =>
              cases rest with
              | nil => cases read
              | cons b2 rest =>
                cases rest with
                | nil => cases read
                | cons b3 rest =>
                  obtain ⟨⟨more,more',more'',long,_⟩,found⟩ := Option.ite_none_right_eq_some.mp read
                  obtain ⟨rfl,rfl⟩ := Prod.mk.inj (Option.some.inj found)
                  rw [continues_iff] at more more' more''
                  simp only [UInt8.reduceToNat] at lead
                  rw [encode_four lead more more' more'' rfl long]
                  exact ⟨not_surrogate.mpr (.inr (by omega)),rfl,rest,rfl⟩
          · cases read

theorem utf8_char_none {byte : UInt8} {rest : List UInt8} (unread : utf8_char (byte :: rest) = none) : 0x80 ≤ byte.toNat := by
  by_contra small
  rw [utf8_char.eq_def] at unread
  simp only [UInt8.lt_iff_toNat_lt] at unread
  rw [if_pos (by simpa using small)] at unread
  cases unread

theorem escape_char {byte : UInt8} (high : 0x80 ≤ byte.toNat) :
    is_escape (0xdc00 + byte.toNat) = true ∧ encode_char (0xdc00 + byte.toNat) = [byte] := by
  have small := byte.toNat_lt
  refine ⟨by simp [is_escape]; omega,?_⟩
  rw [encode_char,if_neg (by omega),if_neg (by omega),if_pos (by omega),
    byte_eq (show 0xdc00 + byte.toNat - 0xdc00 = byte.toNat by omega)]

theorem encode_char_length (c : Nat) : 0 < (encode_char c).length := by
  rw [encode_char]
  split_ifs <;> simp

theorem encode_decode_from (skipped : Nat) (bytes : List UInt8) : encode (decode_from skipped bytes) = bytes.drop skipped := by
  induction bytes generalizing skipped with
  | nil => cases skipped <;> rfl
  | cons byte rest ih =>
    cases skipped with
    | succ skipped => exact ih skipped
    | zero =>
      rw [decode_from]
      cases read : utf8_char (byte :: rest) with
      | none =>
        show encode_char (0xdc00 + byte.toNat) ++ encode (decode_from 0 rest) = byte :: rest
        rw [(escape_char (utf8_char_none read)).2,ih,List.drop_zero]
        rfl
      | some found =>
        obtain ⟨c,length⟩ := found
        obtain ⟨_,size,more,split⟩ := utf8_char_some read
        have some_there := encode_char_length c
        have left : rest.drop (length - 1) = more := by
          have after : (byte :: rest).drop length = more := by rw [split,← size,List.drop_left]
          obtain ⟨less,rfl⟩ : ∃ less, length = less + 1 := ⟨length - 1,by omega⟩
          exact after
        show encode_char c ++ encode (decode_from (length - 1) rest) = byte :: rest
        rw [ih,left,← split]

/-- What is decoded is encoded to the same bytes. -/
theorem encode_decode (bytes : List UInt8) : encode (decode bytes) = bytes := encode_decode_from 0 bytes

/-! ## Escapes -/

/-- The surrogates of a text are escapes. -/
def Escaped (text : Str) : Prop := ∀ c ∈ text, is_surrogate c = true → is_escape c = true

theorem decode_from_escaped (skipped : Nat) (bytes : List UInt8) : Escaped (decode_from skipped bytes) := by
  induction bytes generalizing skipped with
  | nil => cases skipped <;> exact fun c member => by cases member
  | cons byte rest ih =>
    cases skipped with
    | succ skipped => exact ih skipped
    | zero =>
      rw [decode_from]
      cases read : utf8_char (byte :: rest) with
      | none => exact List.forall_mem_cons.mpr ⟨fun _ => (escape_char (utf8_char_none read)).1,ih 0⟩
      | some found =>
        refine List.forall_mem_cons.mpr ⟨fun surrogate => ?_,ih _⟩
        rw [(utf8_char_some read).1] at surrogate
        cases surrogate

theorem decode_escaped (bytes : List UInt8) : Escaped (decode bytes) := decode_from_escaped 0 bytes

theorem escape_surrogate {c : Nat} (escape : is_escape c = true) : is_surrogate c = true := by
  simp only [is_escape,is_surrogate,Bool.and_eq_true,decide_eq_true_eq] at escape ⊢
  omega

theorem undecodable_none {text : Str} : undecodable text = [] ↔ ∀ c ∈ text, is_escape c = false := by
  rw [undecodable,List.map_eq_nil_iff,List.filter_eq_nil_iff]
  simp

theorem encode_escaped_ok {text : Str} (escaped : Escaped text) : encode_escaped text = .ok (encode text) := by
  rw [encode_escaped]
  cases found : text.find? (fun c => is_surrogate c && !is_escape c) with
  | none => rfl
  | some c =>
    have other := List.find?_some found
    simp only [Bool.and_eq_true] at other
    rw [escaped c (List.mem_of_find?_eq_some found) other.1] at other
    exact absurd other.2 (by decide)

/-- Without the handler a text is encoded when it has no escapes. -/
theorem encode_strict_ok {text : Str} (escaped : Escaped text) (none : undecodable text = []) :
    encode_strict text = .ok (encode text) := by
  rw [encode_strict]
  cases found : text.find? is_surrogate with
  | none => rfl
  | some c =>
    have member := List.mem_of_find?_eq_some found
    have wrong := undecodable_none.mp none c member
    rw [escaped c member (List.find?_some found)] at wrong
    cases wrong

theorem encode_strict_error {text : Str} (some_there : undecodable text ≠ []) : ∃ err, encode_strict text = .error err := by
  rw [encode_strict]
  cases found : text.find? is_surrogate with
  | some c => exact ⟨⟨c⟩,rfl⟩
  | none =>
    refine absurd (undecodable_none.mpr (fun c member => ?_)) some_there
    by_contra escape
    exact List.find?_eq_none.mp found c member (escape_surrogate (by simpa using escape))

end VibeBridge.Python.Lcd
