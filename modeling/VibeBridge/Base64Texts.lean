import Mathlib.Algebra.Ring.Nat
import VibeBridge.Base64

/-!
Which texts are base64. The encoder of `vb-host` takes each digit from the bytes
beside it and writes the same text as the one of the daemon (`host_encode_eq`).
White space between the characters of an encoding is as if it were not there
(`decode_spaced`). What the decoder accepts is made of groups of four, each of which
may be padded (`decode_ok_iff`); a group that is padded need not be the last.
-/
namespace VibeBridge.Base64
open VibeBridge.Text VibeBridge.Protocol

/-! ## The encoder of `vb-host` -/

/-- `ALPHABET[index as usize]` -/
def letter (index : UInt8) : Char := ALPHABET.getD index.toNat 'A'

namespace Host

def encode_chunk (chunk : List UInt8) : List Char :=
  let b0 := chunk.getD 0 0
  let b1 := chunk.getD 1 0
  let b2 := chunk.getD 2 0
  [letter (b0 >>> 2),letter (((b0 &&& 0x03) <<< 4) ||| (b1 >>> 4)),
    if chunk.length > 1 then letter (((b1 &&& 0x0f) <<< 2) ||| (b2 >>> 6)) else '=',
    if chunk.length > 2 then letter (b2 &&& 0x3f) else '=']

def base64_encode_bytes (input : List UInt8) : String := String.ofList ((chunks 3 input).flatMap encode_chunk)

end Host

theorem letter_digit {index : UInt8} {n : Nat} (same : index.toNat = n % 64) : letter index = digit n := by
  rw [letter,same,digit,and_six_bits]

/-- The high bits of a byte, before the low bits of another. -/
theorem joined_bits (high low : UInt8) {k : Nat} (few : k < 8) (apart : low.toNat < 2 ^ k)
    (fits : high.toNat * 2 ^ k < 256) : (high <<< UInt8.ofNat k ||| low).toNat = high.toNat * 2 ^ k + low.toNat := by
  have shift : (UInt8.ofNat k).toNat % 8 = k := by
    rw [UInt8.toNat_ofNat']
    omega
  rw [UInt8.toNat_or,UInt8.toNat_shiftLeft,shift,Nat.shiftLeft_eq,Nat.mod_eq_of_lt (by simpa using fits),← Nat.shiftLeft_eq,
    ← Nat.shiftLeft_add_eq_or_of_lt apart]

theorem low_bits (byte : UInt8) : (byte &&& 0x03).toNat = byte.toNat % 4 ∧ (byte &&& 0x0f).toNat = byte.toNat % 16 ∧
    (byte &&& 0x3f).toNat = byte.toNat % 64 := by
  simp only [UInt8.toNat_and]
  exact ⟨Nat.and_two_pow_sub_one_eq_mod byte.toNat 2,Nat.and_two_pow_sub_one_eq_mod byte.toNat 4,
    Nat.and_two_pow_sub_one_eq_mod byte.toNat 6⟩

theorem high_bits (byte : UInt8) : (byte >>> 2).toNat = byte.toNat / 4 ∧ (byte >>> 4).toNat = byte.toNat / 16 ∧
    (byte >>> 6).toNat = byte.toNat / 64 := by
  simp [UInt8.toNat_shiftRight,Nat.shiftRight_eq_div_pow]

/-- Each digit that is taken from the bytes beside it is the one of the number of the chunk. -/
theorem host_encode_chunk (chunk : List UInt8) : Host.encode_chunk chunk = encode_chunk chunk := by
  have bound0 := (chunk.getD 0 0).toNat_lt
  have bound1 := (chunk.getD 1 0).toNat_lt
  have bound2 := (chunk.getD 2 0).toNat_lt
  simp only [Host.encode_chunk,encode_chunk_digits,joined_sum]
  generalize chunk.getD 0 0 = b0 at *
  generalize chunk.getD 1 0 = b1 at *
  generalize chunk.getD 2 0 = b2 at *
  have low0 := (low_bits b0).1
  have low1 := (low_bits b1).2.1
  have low2 := (low_bits b2).2.2
  have high0 := (high_bits b0).1
  have high1 := (high_bits b1).2.1
  have high2 := (high_bits b2).2.2
  have first : letter (b0 >>> 2) = digit ((b0.toNat * 0x10000 + b1.toNat * 0x100 + b2.toNat) / 0x40000) :=
    letter_digit (by omega)
  have second : letter ((b0 &&& 0x03) <<< 4 ||| b1 >>> 4) =
      digit ((b0.toNat * 0x10000 + b1.toNat * 0x100 + b2.toNat) / 0x1000) := by
    refine letter_digit ?_
    have value : ((b0 &&& 0x03) <<< 4 ||| b1 >>> 4).toNat = (b0 &&& 0x03).toNat * 2 ^ 4 + (b1 >>> 4).toNat :=
      joined_bits (b0 &&& 0x03) (b1 >>> 4) (k := 4) (by omega) (by omega) (by omega)
    rw [value]
    omega
  have third : letter ((b1 &&& 0x0f) <<< 2 ||| b2 >>> 6) =
      digit ((b0.toNat * 0x10000 + b1.toNat * 0x100 + b2.toNat) / 0x40) := by
    refine letter_digit ?_
    have value : ((b1 &&& 0x0f) <<< 2 ||| b2 >>> 6).toNat = (b1 &&& 0x0f).toNat * 2 ^ 2 + (b2 >>> 6).toNat :=
      joined_bits (b1 &&& 0x0f) (b2 >>> 6) (k := 2) (by omega) (by omega) (by omega)
    rw [value]
    omega
  have fourth : letter (b2 &&& 0x3f) = digit (b0.toNat * 0x10000 + b1.toNat * 0x100 + b2.toNat) :=
    letter_digit (by omega)
  rw [first,second,third,fourth]
  rfl

theorem host_encode_eq (input : List UInt8) : Host.base64_encode_bytes input = base64_encode_bytes input := by
  rw [Host.base64_encode_bytes,base64_encode_bytes,funext host_encode_chunk]

/-! ## White space -/

/-- `u8::is_ascii_whitespace` of the characters that are one byte. -/
def WHITESPACE : List Char := [' ','\t','\n','\x0c','\r']

/-- A text, and the same with white space anywhere in it. -/
inductive Spaced : List Char → List Char → Prop
  | done : Spaced [] []
  | keep (c : Char) {text spaced : List Char} (later : Spaced text spaced) : Spaced (c :: text) (c :: spaced)
  | space {c : Char} {text spaced : List Char} (white : c ∈ WHITESPACE) (later : Spaced text spaced) : Spaced text (c :: spaced)

/-- The bytes of an input that the decoder looks at. -/
def clean (input : String) : List UInt8 := (as_bytes input).filter (fun byte => !is_ascii_whitespace byte)

theorem decode_clean (input : String) : base64_decode_bytes input =
    if (clean input).length % 4 ≠ 0 then .error "base64 length is not a multiple of 4"
    else (·.flatten) <$> (chunks 4 (clean input)).mapM decode_chunk := rfl

theorem white_byte : ∀ c ∈ WHITESPACE, c.val ≤ 127 ∧ is_ascii_whitespace (byte_of c) = true :=
  List.forall_iff_forall_mem.mp (by decide)

theorem spaced_bytes {text spaced : List Char} (inserted : Spaced text spaced) (coded : ∀ c ∈ text, Coded c) :
    (∀ c ∈ spaced, c.val ≤ 127) ∧
      (spaced.map byte_of).filter (fun byte => !is_ascii_whitespace byte) = text.map byte_of := by
  induction inserted with
  | done => exact ⟨by simp,rfl⟩
  | keep c later ih =>
    obtain ⟨ascii,same⟩ := ih (fun d member => coded d (List.mem_cons_of_mem c member))
    obtain ⟨small,_,_,solid⟩ := coded_plain (coded c List.mem_cons_self)
    refine ⟨List.forall_mem_cons.mpr ⟨small,ascii⟩,?_⟩
    rw [List.map_cons,List.map_cons,List.filter_cons_of_pos (by simp [solid]),same]
  | space white later ih =>
    obtain ⟨ascii,same⟩ := ih coded
    obtain ⟨small,blank⟩ := white_byte _ white
    refine ⟨List.forall_mem_cons.mpr ⟨small,ascii⟩,?_⟩
    rw [List.map_cons,List.filter_cons_of_neg (by simp [blank]),same]

theorem clean_spaced {input : List UInt8} {text : String}
    (inserted : Spaced (base64_encode_bytes input).toList text.toList) : clean text = clean (base64_encode_bytes input) := by
  have coded : ∀ c ∈ (base64_encode_bytes input).toList, Coded c := by
    rw [base64_encode_bytes,String.toList_ofList]
    exact encode_coded input
  obtain ⟨ascii,same⟩ := spaced_bytes inserted coded
  have bytes : as_bytes text = text.toList.map byte_of := by
    have whole := as_bytes_ascii ascii
    rwa [String.ofList_toList] at whole
  have own : as_bytes (base64_encode_bytes input) = (base64_encode_bytes input).toList.map byte_of := by
    have whole := as_bytes_ascii (fun c member => (coded_plain (coded c member)).1)
    rwa [String.ofList_toList] at whole
  rw [clean,bytes,same,clean,encode_clean,own]

/-- White space in an encoding does not matter. -/
theorem decode_spaced {input : List UInt8} {text : String}
    (inserted : Spaced (base64_encode_bytes input).toList text.toList) : base64_decode_bytes text = .ok input := by
  rw [decode_clean,clean_spaced inserted,← decode_clean]
  exact decode_encode input

/-- Both encoders write the same, and the decoder reads it back with any white space in it. -/
theorem encodings_read_back (input : List UInt8) : Host.base64_encode_bytes input = base64_encode_bytes input ∧
    ∀ text : String, Spaced (base64_encode_bytes input).toList text.toList → base64_decode_bytes text = .ok input :=
  ⟨host_encode_eq input,fun _ inserted => decode_spaced inserted⟩

theorem encodings_read_back_witness : Host.base64_encode_bytes [0x4d,0x61] = "TWE=" ∧
    base64_decode_bytes " TW\r\nE=\t" = .ok [0x4d,0x61] := by
  have encoded : base64_encode_bytes [0x4d,0x61] = "TWE=" := by decide +kernel
  have inserted : Spaced "TWE=".toList " TW\r\nE=\t".toList :=
    .space (by decide) (.keep 'T' (.keep 'W' (.space (by decide) (.space (by decide)
      (.keep 'E' (.keep '=' (.space (by decide) .done)))))))
  obtain ⟨same,decoded⟩ := encodings_read_back [0x4d,0x61]
  exact ⟨same.trans encoded,decoded " TW\r\nE=\t" (by rw [encoded]; exact inserted)⟩

/-! ## Padding -/

/-- A byte that stands for six bits. -/
def Digit (byte : UInt8) : Prop := ∃ c ∈ ALPHABET, byte = byte_of c

/-- At least two digits, and padding up to four bytes. -/
def Group (group : List UInt8) : Prop := ∃ digits, (∀ byte ∈ digits, Digit byte) ∧ 2 ≤ digits.length ∧ digits.length ≤ 4 ∧
  group = digits ++ List.replicate (4 - digits.length) 61

/-- Padding only at the end, of two bytes at most. -/
def PaddedAtEnd (text : List UInt8) : Prop := ∃ body n, 61 ∉ body ∧ n ≤ 2 ∧ text = body ++ List.replicate n 61

theorem alphabet_bytes : ALPHABET.map (fun c => (byte_of c).toNat) = List.range' 65 26 ++ List.range' 97 26 ++ List.range' 48 10 ++
    [43,47] := by
  decide

theorem value_of_range : ∀ n < 256, (value_of (UInt8.ofNat n)).isOk =
    (List.range' 65 26 ++ List.range' 97 26 ++ List.range' 48 10 ++ [43,47]).elem n := by
  decide +kernel

theorem value_ok_iff (byte : UInt8) : (∃ value, value_of byte = .ok value) ↔ Digit byte := by
  have here := value_of_range byte.toNat byte.toNat_lt
  rw [UInt8.ofNat_toNat,← alphabet_bytes] at here
  have digit : Digit byte ↔ (value_of byte).isOk = true := by
    rw [here,List.elem_iff,List.mem_map]
    exact exists_congr (fun c => and_congr_right (fun _ => by rw [UInt8.toNat_inj,eq_comm]))
  rw [digit]
  cases value_of byte with
  | ok value => exact ⟨fun _ => rfl,fun _ => ⟨value,rfl⟩⟩
  | error err =>
    constructor
    · rintro ⟨_,wrong⟩
      cases wrong
    · intro wrong
      cases wrong

theorem digit_unpadded {byte : UInt8} (digit : Digit byte) : byte ≠ 61 := by
  obtain ⟨c,member,rfl⟩ := digit
  have apart : ∀ c ∈ ALPHABET, byte_of c ≠ 61 := List.forall_iff_forall_mem.mp (by decide)
  exact apart c member

theorem digits_unpadded {digits : List UInt8} (all : ∀ byte ∈ digits, Digit byte) : 61 ∉ digits :=
  fun member => digit_unpadded (all 61 member) rfl

/-! ### A group -/

theorem read_padding (n padding : Nat) :
    read_values (List.replicate n 61) padding = .ok (List.replicate n 0,padding + n) := by
  induction n generalizing padding with
  | zero => rfl
  | succ n ih =>
    rw [List.replicate_succ,read_values,if_pos rfl,ih,List.replicate_succ,Nat.add_right_comm]
    rfl

theorem read_digits {digits : List UInt8} (all : ∀ byte ∈ digits, Digit byte) (n : Nat) :
    ∃ values, read_values (digits ++ List.replicate n 61) 0 = .ok (values,n) := by
  induction digits with
  | nil => exact ⟨List.replicate n 0,by rw [List.nil_append,read_padding,Nat.zero_add]⟩
  | cons byte rest ih =>
    obtain ⟨values,later⟩ := ih (fun other member => all other (List.mem_cons_of_mem byte member))
    have digit := all byte List.mem_cons_self
    obtain ⟨value,first⟩ := (value_ok_iff byte).mpr digit
    refine ⟨value :: values,?_⟩
    rw [List.cons_append,read_values,if_neg (digit_unpadded digit),if_neg (by omega),first,later]
    rfl

/-- What is read is digits and then padding. -/
theorem read_ok {chunk : List UInt8} {padding : Nat} {values : List Nat} {total : Nat}
    (read : read_values chunk padding = .ok (values,total)) : ∃ digits n, (∀ byte ∈ digits, Digit byte) ∧
      (0 < padding → digits = []) ∧ chunk = digits ++ List.replicate n 61 ∧ total = padding + n := by
  induction chunk generalizing padding values total with
  | nil =>
    cases read
    exact ⟨[],0,by simp,fun _ => rfl,rfl,rfl⟩
  | cons byte rest ih =>
    rw [read_values] at read
    by_cases pad : byte = 61
    · rw [if_pos pad] at read
      cases later : read_values rest (padding + 1) with
      | error err =>
        rw [later] at read
        cases read
      | ok found =>
        rw [later] at read
        cases read
        obtain ⟨digits,n,_,none,split,count⟩ := ih later
        rw [none (by omega),List.nil_append] at split
        exact ⟨[],n + 1,by simp,fun _ => rfl,by rw [pad,split]; rfl,by omega⟩
    · rw [if_neg pad] at read
      by_cases padded : padding > 0
      · rw [if_pos padded] at read
        cases read
      · rw [if_neg padded] at read
        cases first : value_of byte with
        | error err =>
          rw [first] at read
          cases read
        | ok value =>
          cases later : read_values rest padding with
          | error err =>
            rw [first,later] at read
            cases read
          | ok found =>
            rw [first,later] at read
            cases read
            obtain ⟨digits,n,all,_,split,count⟩ := ih later
            have digit := (value_ok_iff byte).mp ⟨value,first⟩
            exact ⟨byte :: digits,n,List.forall_mem_cons.mpr ⟨digit,all⟩,fun more => absurd more padded,
              by rw [split]; rfl,count⟩

theorem decode_chunk_ok_iff {chunk : List UInt8} (four : chunk.length = 4) :
    (∃ bytes, decode_chunk chunk = .ok bytes) ↔ Group chunk := by
  constructor
  · rintro ⟨bytes,decoded⟩
    cases read : read_values chunk 0 with
    | error err =>
      rw [decode_chunk,read] at decoded
      cases decoded
    | ok found =>
      obtain ⟨values,padding⟩ := found
      obtain ⟨digits,n,all,_,split,count⟩ := read_ok read
      have lengths : chunk.length = digits.length + n := by rw [split,List.length_append,List.length_replicate]
      by_cases many : padding > 2
      · have failed : decode_chunk chunk = .error "base64 has too much padding" := by
          rw [decode_chunk,read]
          exact if_pos many
        rw [failed] at decoded
        cases decoded
      · have rest : 4 - digits.length = n := by omega
        exact ⟨digits,all,by omega,by omega,by rw [rest]; exact split⟩
  · rintro ⟨digits,all,enough,_,rfl⟩
    obtain ⟨values,read⟩ := read_digits all (4 - digits.length)
    exact ⟨_,decode_read read (by omega)⟩

theorem group_length {group : List UInt8} (shape : Group group) : group.length = 4 := by
  obtain ⟨digits,_,_,few,rfl⟩ := shape
  rw [List.length_append,List.length_replicate]
  omega

/-! ### All groups -/

theorem mapM_ok_iff {α β ε : Type} {f : α → Except ε β} (xs : List α) :
    (∃ ys, xs.mapM f = .ok ys) ↔ ∀ x ∈ xs, ∃ y, f x = .ok y := by
  induction xs with
  | nil => exact ⟨by simp,fun _ => ⟨[],rfl⟩⟩
  | cons x rest ih =>
    rw [List.mapM_cons,List.forall_mem_cons,← ih]
    cases first : f x with
    | error err =>
      constructor
      · rintro ⟨_,wrong⟩
        cases wrong
      · rintro ⟨⟨_,wrong⟩,_⟩
        cases wrong
    | ok y =>
      cases later : rest.mapM f with
      | error err =>
        constructor
        · rintro ⟨_,wrong⟩
          cases wrong
        · rintro ⟨_,_,wrong⟩
          cases wrong
      | ok ys => exact ⟨fun _ => ⟨⟨y,rfl⟩,ys,rfl⟩,fun _ => ⟨y :: ys,rfl⟩⟩

theorem fours {l : List UInt8} (whole : l.length % 4 = 0) : ∃ groups : List (List UInt8),
    (∀ group ∈ groups, group.length = 4) ∧ l = groups.flatten := by
  match l with
  | [] => exact ⟨[],by simp,rfl⟩
  | [_] | [_,_] | [_,_,_] => simp at whole
  | a :: b :: c :: d :: rest =>
    obtain ⟨groups,each,same⟩ := fours (l := rest) (by simp only [List.length_cons] at whole; omega)
    exact ⟨[a,b,c,d] :: groups,List.forall_mem_cons.mpr ⟨rfl,each⟩,by rw [same]; rfl⟩

theorem chunks_groups {groups : List (List UInt8)} (each : ∀ group ∈ groups, group.length = 4) :
    chunks 4 groups.flatten = groups := by
  rw [← List.flatMap_id',chunks_flatMap (by decide) (fun group => group) groups each,List.map_id']

theorem flatten_fours {groups : List (List UInt8)} (each : ∀ group ∈ groups, group.length = 4) :
    groups.flatten.length % 4 = 0 := by
  rw [List.length_flatten,List.map_congr_left each]
  simp

/-- The decoder accepts groups, whether they are padded or not. -/
theorem decode_ok_iff (input : String) : (∃ bytes, base64_decode_bytes input = .ok bytes) ↔
    ∃ groups : List (List UInt8), (∀ group ∈ groups, Group group) ∧ clean input = groups.flatten := by
  rw [decode_clean]
  by_cases whole : (clean input).length % 4 = 0
  · obtain ⟨groups,each,same⟩ := fours whole
    rw [if_neg (by simpa using whole),same,chunks_groups each]
    have parts : (∃ bytes, (·.flatten) <$> groups.mapM decode_chunk = Except.ok bytes) ↔ ∃ yss, groups.mapM decode_chunk = .ok yss := by
      cases groups.mapM decode_chunk with
      | error err =>
        constructor <;> rintro ⟨_,wrong⟩ <;> cases wrong
      | ok yss => exact ⟨fun _ => ⟨yss,rfl⟩,fun _ => ⟨yss.flatten,rfl⟩⟩
    rw [parts,mapM_ok_iff]
    constructor
    · intro all
      exact ⟨groups,fun group member => (decode_chunk_ok_iff (each group member)).mp (all group member),rfl⟩
    · rintro ⟨others,all,split⟩ group member
      have same := chunks_groups each
      rw [split,chunks_groups (fun other within => group_length (all other within))] at same
      exact (decode_chunk_ok_iff (each group member)).mpr (all group (same ▸ member))
  · rw [if_pos whole]
    constructor
    · rintro ⟨_,wrong⟩
      cases wrong
    · rintro ⟨groups,all,same⟩
      rw [same] at whole
      exact absurd (flatten_fours (fun group member => group_length (all group member))) whole

/-! ### Padding before the end -/

theorem padded_after {text front rest : List UInt8} {byte : UInt8} (padded : PaddedAtEnd text)
    (split : text = front ++ 61 :: rest) (later : byte ∈ rest) : byte = 61 := by
  obtain ⟨body,n,unpadded,_,same⟩ := padded
  have cut := split.symm.trans same
  rcases List.append_eq_append_iff.mp cut with ⟨more,body',rest'⟩ | ⟨more,_,rest'⟩
  · cases more with
    | nil =>
      rw [List.nil_append] at rest'
      have inside : byte ∈ List.replicate n 61 := rest' ▸ List.mem_cons_of_mem 61 later
      exact List.eq_of_mem_replicate inside
    | cons first more =>
      refine absurd ?_ unpadded
      rw [body',← (List.cons.inj rest').1]
      simp
  · have inside : byte ∈ List.replicate n 61 := rest' ▸ List.mem_append_right more (List.mem_cons_of_mem 61 later)
    exact List.eq_of_mem_replicate inside

/-- Only the last of the groups may be padded. -/
theorem padded_groups {groups : List (List UInt8)} (each : ∀ group ∈ groups, Group group) :
    PaddedAtEnd groups.flatten ↔ ∀ group ∈ groups.dropLast, 61 ∉ group := by
  rcases groups.eq_nil_or_concat with rfl | ⟨front,last,rfl⟩
  · exact ⟨fun _ group member => by simp at member,fun _ => ⟨[],0,by simp,by omega,rfl⟩⟩
  · rw [List.concat_eq_append] at each ⊢
    rw [List.dropLast_concat]
    obtain ⟨digits,all,enough,few,shape⟩ := each last (by simp)
    constructor
    · intro padded group member inside
      obtain ⟨before,after,rfl⟩ := List.append_of_mem member
      obtain ⟨start,rest,rfl⟩ := List.append_of_mem inside
      obtain ⟨digit,first⟩ := List.exists_mem_of_length_pos (l := digits) (by omega)
      have split : (before ++ (start ++ 61 :: rest) :: after ++ [last]).flatten =
          (before.flatten ++ start) ++ 61 :: (rest ++ (after.flatten ++ last)) := by simp
      refine digit_unpadded (all digit first) (padded_after padded split ?_)
      rw [shape]
      simp [first]
    · intro unpadded
      refine ⟨front.flatten ++ digits,4 - digits.length,?_,by omega,by rw [shape]; simp⟩
      rw [List.mem_append]
      rintro (inside | inside)
      · obtain ⟨group,member,within⟩ := List.mem_flatten.mp inside
        exact unpadded group member within
      · exact digits_unpadded all inside

/-- A text with padding that is not at its end is rejected, unless the padding ends a group before the last. -/
theorem padding_checked_iff (input : String) :
    (¬ PaddedAtEnd (clean input) → ∃ err, base64_decode_bytes input = .error err) ↔
      ¬ ∃ groups : List (List UInt8), (∀ group ∈ groups, Group group) ∧ clean input = groups.flatten ∧
        ∃ group ∈ groups.dropLast, 61 ∈ group := by
  have accepted := decode_ok_iff input
  cases decoded : base64_decode_bytes input with
  | error err =>
    rw [decoded] at accepted
    refine ⟨fun _ => ?_,fun _ _ => ⟨err,rfl⟩⟩
    rintro ⟨groups,each,same,_⟩
    obtain ⟨_,wrong⟩ := accepted.mpr ⟨groups,each,same⟩
    cases wrong
  | ok bytes =>
    rw [decoded] at accepted
    obtain ⟨groups,each,same⟩ := accepted.mp ⟨bytes,rfl⟩
    constructor
    · rintro rejected ⟨others,each',same',group,member,inside⟩
      have unpadded : ¬ PaddedAtEnd (clean input) := by
        rw [same',padded_groups each']
        exact fun all => all group member inside
      obtain ⟨_,wrong⟩ := rejected unpadded
      cases wrong
    · intro none unpadded
      rw [same,padded_groups each] at unpadded
      simp only [not_forall,not_not] at unpadded
      obtain ⟨group,member,inside⟩ := unpadded
      exact absurd ⟨groups,each,same,group,member,inside⟩ none

theorem inner_padding_accepted : base64_decode_bytes "QQ==QQ==" = .ok [0x41,0x41] ∧ ¬ PaddedAtEnd (clean "QQ==QQ==") := by
  refine ⟨by decide +kernel,fun padded => ?_⟩
  have split : clean "QQ==QQ==" = [81,81] ++ 61 :: [61,81,81,61,61] := by decide +kernel
  have digit : (81 : UInt8) ∈ [61,81,81,61,61] := by decide
  exact absurd (padded_after padded split digit) (by decide)

end VibeBridge.Base64
