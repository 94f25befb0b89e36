import VibeBridge.Protocol

/-!
The daemon's base64. What is encoded decodes to itself (`decode_encode`), and what
decodes is no longer than the text that it was (`decode_length`). The bits that are
shifted together are apart, so the numbers are sums (`joined_sum`, `joined_values_sum`).
-/
namespace VibeBridge.Base64
open VibeBridge.Text VibeBridge.Protocol

def ALPHABET : List Char := "ABCDEFGHIJKLMNOPQRSTUVWXYZabcdefghijklmnopqrstuvwxyz0123456789+/".toList

/-- `ALPHABET[(n & 0x3f) as usize]` -/
def digit (n : Nat) : Char := ALPHABET.getD (n &&& 0x3f) 'A'

/-- `(b0 << 16) | (b1 << 8) | b2`, with 0 for the bytes that the chunk does not have. -/
def joined (chunk : List UInt8) : Nat :=
  (chunk.getD 0 0).toNat <<< 16 ||| (chunk.getD 1 0).toNat <<< 8 ||| (chunk.getD 2 0).toNat

def encode_chunk (chunk : List UInt8) : List Char :=
  let n := joined chunk
  [digit (n >>> 18),digit (n >>> 12),if chunk.length ≥ 2 then digit (n >>> 6) else '=',
    if chunk.length ≥ 3 then digit n else '=']

def base64_encode_bytes (input : List UInt8) : String := String.ofList ((chunks 3 input).flatMap encode_chunk)

def is_ascii_whitespace (byte : UInt8) : Bool :=
  byte == 0x20 || byte == 0x09 || byte == 0x0A || byte == 0x0C || byte == 0x0D

def value_of (byte : UInt8) : Except String Nat :=
  if 65 ≤ byte ∧ byte ≤ 90 then .ok (byte.toNat - 65)
  else if 97 ≤ byte ∧ byte ≤ 122 then .ok (byte.toNat - 97 + 26)
  else if 48 ≤ byte ∧ byte ≤ 57 then .ok (byte.toNat - 48 + 52)
  else if byte = 43 then .ok 62
  else if byte = 47 then .ok 63
  else .error s!"invalid base64 byte: 0x{format_02x byte}"

/-- The loop over the bytes of a chunk: their values, and how many are padding. -/
def read_values : List UInt8 → Nat → Except String (List Nat × Nat)
  | [], padding => .ok ([],padding)
  | byte :: rest, padding =>
    if byte = 61 then do
      let (values,padding) ← read_values rest (padding + 1)
      return (0 :: values,padding)
    else if padding > 0 then .error "base64 padding appears before the end"
    else do
      let value ← value_of byte
      let (values,padding) ← read_values rest padding
      return (value :: values,padding)

/-- `(values[0] << 18) | (values[1] << 12) | (values[2] << 6) | values[3]` -/
def joined_values (values : List Nat) : Nat :=
  values.getD 0 0 <<< 18 ||| values.getD 1 0 <<< 12 ||| values.getD 2 0 <<< 6 ||| values.getD 3 0

def decode_chunk (chunk : List UInt8) : Except String (List UInt8) := do
  let (values,padding) ← read_values chunk 0
  if padding > 2 then .error "base64 has too much padding"
  else
    let n := joined_values values
    return [UInt8.ofNat (n >>> 16 &&& 0xff)] ++ (if padding < 2 then [UInt8.ofNat (n >>> 8 &&& 0xff)] else []) ++
      (if padding < 1 then [UInt8.ofNat (n &&& 0xff)] else [])

def base64_decode_bytes (input : String) : Except String (List UInt8) :=
  let clean := (as_bytes input).filter (fun byte => !is_ascii_whitespace byte)
  if clean.length % 4 ≠ 0 then .error "base64 length is not a multiple of 4"
  else (·.flatten) <$> (chunks 4 clean).mapM decode_chunk

/-! ## Digits -/

/-- The byte of a character of the encoding. -/
def byte_of (c : Char) : UInt8 := c.val.toUInt8

theorem digit_cases : ∀ n < 64, (digit n).val ≤ 127 ∧ is_whitespace (digit n) = false ∧ digit n ≠ '"' ∧
    is_ascii_whitespace (byte_of (digit n)) = false ∧ byte_of (digit n) ≠ 61 ∧ value_of (byte_of (digit n)) = .ok n := by
  decide +kernel

/-- `n & 0x3f` -/
theorem and_six_bits (n : Nat) : n &&& 0x3f = n % 64 := Nat.and_two_pow_sub_one_eq_mod n 6

theorem digit_mod (n : Nat) : digit n = digit (n % 64) := by rw [digit,digit,and_six_bits,and_six_bits,Nat.mod_mod]

theorem value_digit (n : Nat) : value_of (byte_of (digit n)) = .ok (n % 64) := by
  rw [digit_mod]
  exact (digit_cases (n % 64) (Nat.mod_lt n (by decide))).2.2.2.2.2

/-- A character that an encoding can have. -/
def Coded (c : Char) : Prop := (∃ n, c = digit n) ∨ c = '='

theorem coded_plain {c : Char} (coded : Coded c) :
    c.val ≤ 127 ∧ is_whitespace c = false ∧ c ≠ '"' ∧ is_ascii_whitespace (byte_of c) = false := by
  rcases coded with ⟨n,rfl⟩ | rfl
  · rw [digit_mod]
    obtain ⟨ascii,solid,unquoted,clean,_⟩ := digit_cases (n % 64) (Nat.mod_lt n (by decide))
    exact ⟨ascii,solid,unquoted,clean⟩
  · decide

theorem encode_coded (input : List UInt8) : ∀ c ∈ (chunks 3 input).flatMap encode_chunk, Coded c := by
  intro c member
  obtain ⟨chunk,_,within⟩ := List.mem_flatMap.mp member
  simp only [encode_chunk,List.mem_cons,List.not_mem_nil,or_false] at within
  rcases within with rfl | rfl | within | within
  · exact .inl ⟨_,rfl⟩
  · exact .inl ⟨_,rfl⟩
  · split at within
    · exact .inl ⟨_,within⟩
    · exact .inr within
  · split at within
    · exact .inl ⟨_,within⟩
    · exact .inr within

/-! ## Bits -/

/-- The number of a chunk, as a sum. -/
theorem joined_sum (chunk : List UInt8) : joined chunk =
    (chunk.getD 0 0).toNat * 0x10000 + (chunk.getD 1 0).toNat * 0x100 + (chunk.getD 2 0).toNat := by
  have middle := (chunk.getD 1 0).toNat_lt
  have last := (chunk.getD 2 0).toNat_lt
  have low : (chunk.getD 1 0).toNat <<< 8 + (chunk.getD 2 0).toNat < 2 ^ 16 := by
    rw [Nat.shiftLeft_eq]
    omega
  rw [joined,Nat.or_assoc,← Nat.shiftLeft_add_eq_or_of_lt last,← Nat.shiftLeft_add_eq_or_of_lt low,Nat.shiftLeft_eq,Nat.shiftLeft_eq,
    ← Nat.add_assoc]

/-- The number of four values, as a sum, if they have six bits. -/
theorem joined_values_sum {v0 v1 v2 v3 : Nat} (b1 : v1 < 64) (b2 : v2 < 64) (b3 : v3 < 64) :
    joined_values [v0,v1,v2,v3] = v0 * 0x40000 + v1 * 0x1000 + v2 * 0x40 + v3 := by
  have low : v2 <<< 6 + v3 < 2 ^ 12 := by
    rw [Nat.shiftLeft_eq]
    omega
  have middle : v1 <<< 12 + (v2 <<< 6 + v3) < 2 ^ 18 := by
    rw [Nat.shiftLeft_eq,Nat.shiftLeft_eq]
    omega
  change v0 <<< 18 ||| v1 <<< 12 ||| v2 <<< 6 ||| v3 = _
  rw [Nat.or_assoc,Nat.or_assoc,← Nat.shiftLeft_add_eq_or_of_lt (show v3 < 2 ^ 6 from b3) v2,← Nat.shiftLeft_add_eq_or_of_lt low,
    ← Nat.shiftLeft_add_eq_or_of_lt middle]
  simp only [Nat.shiftLeft_eq]
  omega

/-- The digits of a chunk, as those of its number. -/
theorem encode_chunk_digits (chunk : List UInt8) : encode_chunk chunk =
    [digit (joined chunk / 0x40000),digit (joined chunk / 0x1000),if chunk.length ≥ 2 then digit (joined chunk / 0x40) else '=',
      if chunk.length ≥ 3 then digit (joined chunk) else '='] := by
  simp only [encode_chunk,Nat.shiftRight_eq_div_pow]

theorem ofNat_and (n : Nat) : UInt8.ofNat (n &&& 0xff) = UInt8.ofNat n := by
  have low : n &&& 0xff = n % 256 := Nat.and_two_pow_sub_one_eq_mod n 8
  rw [low]
  apply UInt8.toNat_inj.mp
  rw [UInt8.toNat_ofNat',UInt8.toNat_ofNat']
  exact Nat.mod_mod n 256

/-! ## Round trip -/

theorem read_digit (n : Nat) {rest : List UInt8} {values : List Nat} {padding : Nat}
    (later : read_values rest 0 = .ok (values,padding)) :
    read_values (byte_of (digit n) :: rest) 0 = .ok (n % 64 :: values,padding) := by
  have other : byte_of (digit n) ≠ 61 := by
    rw [digit_mod]
    exact (digit_cases (n % 64) (Nat.mod_lt n (by decide))).2.2.2.2.1
  rw [read_values,if_neg other,if_neg (by decide),value_digit,later]
  rfl

/-- The bytes that a chunk decodes to, when its values are read. -/
theorem decode_read {chunk : List UInt8} {values : List Nat} {padding : Nat} (read : read_values chunk 0 = .ok (values,padding))
    (few : padding ≤ 2) : decode_chunk chunk = .ok ([UInt8.ofNat (joined_values values / 0x10000)] ++
      (if padding < 2 then [UInt8.ofNat (joined_values values / 0x100)] else []) ++
      (if padding < 1 then [UInt8.ofNat (joined_values values)] else [])) := by
  rw [decode_chunk,read]
  change (if padding > 2 then _ else _) = _
  rw [if_neg (by omega)]
  simp only [ofNat_and,Nat.shiftRight_eq_div_pow]
  rfl

/-- The byte that a number ends in. -/
theorem ofNat_byte (byte : UInt8) {n : Nat} (same : n % 256 = byte.toNat) : UInt8.ofNat n = byte := by
  apply UInt8.toNat_inj.mp
  rw [UInt8.toNat_ofNat']
  exact same

theorem round_trip_one (b0 : UInt8) : decode_chunk ((encode_chunk [b0]).map byte_of) = .ok [b0] := by
  have low := b0.toNat_lt
  have number : joined [b0] = b0.toNat * 0x10000 := by simp [joined_sum]
  have read : read_values ((encode_chunk [b0]).map byte_of) 0 =
      .ok ([joined [b0] / 0x40000 % 64,joined [b0] / 0x1000 % 64,0,0],2) := by
    rw [encode_chunk_digits]
    exact read_digit _ (read_digit _ rfl)
  have top : UInt8.ofNat (joined_values [joined [b0] / 0x40000 % 64,joined [b0] / 0x1000 % 64,0,0] / 0x10000) = b0 := by
    refine ofNat_byte b0 ?_
    rw [number,joined_values_sum (by omega) (by omega) (by omega)]
    omega
  rw [decode_read read (by omega),top,if_neg (by omega),if_neg (by omega)]
  rfl

theorem round_trip_two (b0 b1 : UInt8) : decode_chunk ((encode_chunk [b0,b1]).map byte_of) = .ok [b0,b1] := by
  have low := b0.toNat_lt
  have low' := b1.toNat_lt
  have number : joined [b0,b1] = b0.toNat * 0x10000 + b1.toNat * 0x100 := by simp [joined_sum]
  have read : read_values ((encode_chunk [b0,b1]).map byte_of) 0 =
      .ok ([joined [b0,b1] / 0x40000 % 64,joined [b0,b1] / 0x1000 % 64,joined [b0,b1] / 0x40 % 64,0],1) := by
    rw [encode_chunk_digits]
    exact read_digit _ (read_digit _ (read_digit _ rfl))
  have same : joined_values [joined [b0,b1] / 0x40000 % 64,joined [b0,b1] / 0x1000 % 64,joined [b0,b1] / 0x40 % 64,0] =
      b0.toNat * 0x10000 + b1.toNat * 0x100 := by
    rw [number,joined_values_sum (by omega) (by omega) (by omega)]
    omega
  rw [decode_read read (by omega),same,ofNat_byte b0 (by omega),if_pos (by omega),ofNat_byte b1 (by omega),if_neg (by omega)]
  rfl

theorem round_trip_three (b0 b1 b2 : UInt8) : decode_chunk ((encode_chunk [b0,b1,b2]).map byte_of) = .ok [b0,b1,b2] := by
  have low := b0.toNat_lt
  have low' := b1.toNat_lt
  have low'' := b2.toNat_lt
  have number : joined [b0,b1,b2] = b0.toNat * 0x10000 + b1.toNat * 0x100 + b2.toNat := by simp [joined_sum]
  have read : read_values ((encode_chunk [b0,b1,b2]).map byte_of) 0 = .ok ([joined [b0,b1,b2] / 0x40000 % 64,
      joined [b0,b1,b2] / 0x1000 % 64,joined [b0,b1,b2] / 0x40 % 64,joined [b0,b1,b2] % 64],0) := by
    rw [encode_chunk_digits]
    exact read_digit _ (read_digit _ (read_digit _ (read_digit _ rfl)))
  have same : joined_values [joined [b0,b1,b2] / 0x40000 % 64,joined [b0,b1,b2] / 0x1000 % 64,
      joined [b0,b1,b2] / 0x40 % 64,joined [b0,b1,b2] % 64] = b0.toNat * 0x10000 + b1.toNat * 0x100 + b2.toNat := by
    rw [number,joined_values_sum (by omega) (by omega) (by omega)]
    omega
  rw [decode_read read (by omega),same,ofNat_byte b0 (by omega),if_pos (by omega),ofNat_byte b1 (by omega),
    if_pos (by omega),ofNat_byte b2 (by omega)]
  rfl

theorem chunk_round_trip {chunk : List UInt8} (some_there : chunk ≠ []) (short : chunk.length ≤ 3) :
    decode_chunk ((encode_chunk chunk).map byte_of) = .ok chunk := by
  match chunk with
  | [] => exact absurd rfl some_there
  | [b0] => exact round_trip_one b0
  | [b0,b1] => exact round_trip_two b0 b1
  | [b0,b1,b2] => exact round_trip_three b0 b1 b2
  | b0 :: b1 :: b2 :: b3 :: rest =>
    simp only [List.length_cons] at short
    omega

theorem encode_length (chunk : List UInt8) : (encode_chunk chunk).length = 4 := rfl

/-- The bytes of an encoding. -/
theorem encode_bytes (input : List UInt8) :
    as_bytes (base64_encode_bytes input) = (chunks 3 input).flatMap (fun chunk => (encode_chunk chunk).map byte_of) := by
  rw [base64_encode_bytes,as_bytes_ascii (fun c member => (coded_plain (encode_coded input c member)).1),List.map_flatMap]
  rfl

theorem mapM_undone {α β ε : Type} {f : β → Except ε α} {g : α → β} {xs : List α} (each : ∀ x ∈ xs, f (g x) = .ok x) :
    (xs.map g).mapM f = .ok xs := by
  induction xs with
  | nil => rfl
  | cons x rest ih =>
    rw [List.map_cons,List.mapM_cons,each x List.mem_cons_self,ih (fun y later => each y (List.mem_cons_of_mem x later))]
    rfl

theorem map_ok {ε α β : Type} (f : α → β) (value : α) : f <$> (Except.ok value : Except ε α) = .ok (f value) := rfl

theorem encode_clean (input : List UInt8) :
    (as_bytes (base64_encode_bytes input)).filter (fun byte => !is_ascii_whitespace byte) =
      as_bytes (base64_encode_bytes input) := by
  rw [List.filter_eq_self,encode_bytes,← List.map_flatMap]
  intro byte member
  obtain ⟨c,within,rfl⟩ := List.mem_map.mp member
  rw [(coded_plain (encode_coded input c within)).2.2.2]
  rfl

theorem encode_pieces (input : List UInt8) : chunks 4 (as_bytes (base64_encode_bytes input)) =
    (chunks 3 input).map (fun chunk => (encode_chunk chunk).map byte_of) := by
  rw [encode_bytes]
  exact chunks_flatMap (by decide) _ _ (fun chunk _ => List.length_map byte_of)

theorem encode_whole (input : List UInt8) : (as_bytes (base64_encode_bytes input)).length % 4 = 0 := by
  rw [encode_bytes,List.length_flatMap]
  simp [encode_length]

/-- What is encoded decodes to itself. -/
theorem decode_encode (input : List UInt8) : base64_decode_bytes (base64_encode_bytes input) = .ok input := by
  have each : ∀ chunk ∈ chunks 3 input, decode_chunk ((encode_chunk chunk).map byte_of) = .ok chunk := by
    intro chunk member
    refine chunk_round_trip ?_ (chunks_bound member)
    rintro rfl
    exact chunksFrom_ne_nil (by decide) input.length input member
  rw [base64_decode_bytes,encode_clean,if_neg (Decidable.not_not.mpr (encode_whole input)),encode_pieces,
    mapM_undone each,map_ok,chunks_flatten (by decide)]

/-! ## Lengths -/

theorem decode_chunk_length {chunk bytes : List UInt8} (decoded : decode_chunk chunk = .ok bytes) : bytes.length ≤ 3 := by
  cases read : read_values chunk 0 with
  | error err =>
    rw [decode_chunk,read] at decoded
    cases decoded
  | ok values =>
    obtain ⟨values,padding⟩ := values
    by_cases many : padding > 2
    · have failed : decode_chunk chunk = .error "base64 has too much padding" := by
        rw [decode_chunk,read]
        exact if_pos many
      rw [failed] at decoded
      cases decoded
    · rw [decode_read read (by omega)] at decoded
      cases decoded
      simp only [List.length_append,List.length_singleton]
      split <;> split <;> simp

theorem mapM_flatten_length {α β ε : Type} {f : α → Except ε (List β)} {k : Nat}
    (each : ∀ x ys, f x = .ok ys → ys.length ≤ k) {xs : List α} {yss : List (List β)} (all : xs.mapM f = .ok yss) :
    yss.flatten.length ≤ k * xs.length := by
  induction xs generalizing yss with
  | nil =>
    cases all
    exact Nat.zero_le _
  | cons x rest ih =>
    rw [List.mapM_cons] at all
    cases first : f x with
    | error err =>
      rw [first] at all
      cases all
    | ok ys =>
      cases later : rest.mapM f with
      | error err =>
        rw [first,later] at all
        cases all
      | ok others =>
        rw [first,later] at all
        cases all
        have here := each x ys first
        have there := ih later
        rw [List.flatten_cons,List.length_append,List.length_cons,Nat.mul_succ]
        omega

/-- What decodes is no longer than the text. -/
theorem decode_length {input : String} {bytes : List UInt8} (decoded : base64_decode_bytes input = .ok bytes) :
    bytes.length ≤ (as_bytes input).length := by
  rw [base64_decode_bytes] at decoded
  have fewer := List.length_filter_le (fun byte => !is_ascii_whitespace byte) (as_bytes input)
  generalize (as_bytes input).filter (fun byte => !is_ascii_whitespace byte) = clean at *
  by_cases whole : clean.length % 4 ≠ 0
  · rw [if_pos whole] at decoded
    cases decoded
  · rw [if_neg whole] at decoded
    cases all : (chunks 4 clean).mapM decode_chunk with
    | error err =>
      rw [all] at decoded
      cases decoded
    | ok yss =>
      rw [all] at decoded
      cases decoded
      have long := mapM_flatten_length (fun chunk ys => decode_chunk_length) all
      rw [chunks_length (by decide)] at long
      show yss.flatten.length ≤ (as_bytes input).length
      omega

end VibeBridge.Base64
