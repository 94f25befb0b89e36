import VibeBridge.Delimited
import VibeBridge.Base64Texts
import VibeBridge.Words
import VibeBridge.Python.SendMarkdown

/-!
Images in a stream for the device, as the scripts write them. An image is sent as
Kitty graphics blocks with its base64 text in pieces, the last of them marked by
`m=0`. A terminal that joins the pieces of each image reads the images that were
put into a text, whatever text is around them (`images_received`).
-/
namespace VibeBridge.Python.SendMarkdown
open VibeBridge.Text VibeBridge.Base64 VibeBridge.Python.Lcd Delimited

def KITTY_START : List UInt8 := [0x1b,0x5f,0x47]
def KITTY_END : List UInt8 := [0x1b,0x5c]

theorem start_unbordered : Unbordered KITTY_START := by
  have each : ∀ part ∈ KITTY_START.inits, part <:+ KITTY_START → part = [] ∨ part = KITTY_START := by decide
  exact fun part ends begins => each part ((List.mem_inits _ _).mpr begins) ends

/-- The markers of a Kitty block. -/
def KITTY : Markers UInt8 where
  opening := KITTY_START
  closing := KITTY_END
  some_there := by decide
  unbordered := start_unbordered

/-- The chunks between and in Kitty blocks; each turn looks for the next start, and then for the end after it. -/
def split_preserving_kitty_blocks (data : List UInt8) : List (Bool × List UInt8) := split KITTY data

/-! ## The rendering of a stream -/

section
variable {σ ε : Type}

/-- A chunk that is marked as a block is kept. -/
def render_chunk (render_image : RenderImage σ ε) : Bool × List UInt8 → σ → Except (Raised ε) (List UInt8 × σ)
  | (true,chunk), s => .ok (chunk,s)
  | (false,chunk), s => render_text_chunk chunk render_image s

/-- The loop over the chunks. -/
def render_chunks (render_image : RenderImage σ ε) : List (Bool × List UInt8) → σ → Except (Raised ε) (List UInt8 × σ)
  | [], s => .ok ([],s)
  | chunk :: rest, s => do
    let (out,s) ← render_chunk render_image chunk s
    let (later,s) ← render_chunks render_image rest s
    return (out ++ later,s)

def render_markdown_stream (data : List UInt8) (render_image : RenderImage σ ε) (s : σ) : Except (Raised ε) (List UInt8 × σ) :=
  render_chunks render_image (split_preserving_kitty_blocks data) s

end

/-! ## The blocks of an image -/

/-- `range(0, stop, step)`, for a positive step. -/
def range_to (stop step : Nat) : List Nat := (List.range ((stop + step - 1) / step)).map (· * step)

/-- `str(n)` -/
def decimal_int : Int → Str
  | .ofNat n => decimal n
  | .negSucc n => 0x2d :: decimal (n + 1)

/-- Where an image is to be shown, and as which. -/
structure Placement where
  cols : Int
  rows : Int
  image_id : Int
  placement_id : Int
  deriving DecidableEq

/-- The control text of a block, before its `m=`. -/
def Placement.text (at_place : Placement) : Str :=
  str "q=2,c=" ++ decimal_int at_place.cols ++ str ",r=" ++ decimal_int at_place.rows ++ str ",i=" ++
    decimal_int at_place.image_id ++ str ",p=" ++ decimal_int at_place.placement_id

/-- The control text of `send_markdown_to_device.py`. -/
def markdown_control (at_place : Placement) (more : Bool) : Str :=
  str "a=T,f=100,t=d," ++ at_place.text ++ str ",m=" ++ (if more then str "1" else str "0")

/-- The control text of `send_kitty_png.py`. -/
def png_control (at_place : Placement) (more : Bool) : Str :=
  str "a=T,f=100,t=d,m=" ++ (if more then str "1" else str "0") ++ str "," ++ at_place.text

/-- The body of a block: its control text and a piece of the data. -/
def block_body (control : Bool → Str) (encoded : List UInt8) (chunk_size off : Nat) : List UInt8 :=
  encode (control (off + chunk_size < encoded.length)) ++ 0x3b :: (encoded.drop off).take chunk_size

/-- `build_kitty_png_sequence`, with the control text that the script writes. -/
def kitty_sequence (control : Bool → Str) (png : List UInt8) (chunk_size : Nat) : List UInt8 :=
  let encoded := as_bytes (base64_encode_bytes png)
  (range_to encoded.length chunk_size).flatMap (fun off => KITTY_START ++ (block_body control encoded chunk_size off ++ KITTY_END))

/-- `build_kitty_png_sequence` of `send_markdown_to_device.py` -/
def build_kitty_png_sequence (png : List UInt8) (at_place : Placement) (chunk_size : Nat) : List UInt8 :=
  kitty_sequence (markdown_control at_place) png chunk_size

/-- `build_kitty_png_sequence` of `send_kitty_png.py` -/
def build_kitty_png_sequence_png (png : List UInt8) (at_place : Placement) (chunk_size : Nat) : List UInt8 :=
  kitty_sequence (png_control at_place) png chunk_size

/-! ## What a terminal reads -/

/-- What a terminal takes from a block: whether more of the data is to come, and its piece of it. -/
def read_block (block : List UInt8) : Bool × List UInt8 :=
  let inner := (block.drop KITTY_START.length).take (block.length - KITTY_START.length - KITTY_END.length)
  let keys := (inner.takeWhile (· ≠ 0x3b)).splitOn 0x2c
  (keys.contains (encode (str "m=1")),(inner.dropWhile (· ≠ 0x3b)).drop 1)

/-- The data of each transmission; its pieces are joined up to the first without `m=1`. -/
def transmissions : List UInt8 → List (List UInt8) → List (List UInt8)
  | _, [] => []
  | pending, block :: rest =>
    let (more,piece) := read_block block
    if more then transmissions (pending ++ piece) rest else (pending ++ piece) :: transmissions [] rest

/-- The images that a terminal reads in a stream. -/
def received_images (stream : List UInt8) : List (Option (Except String (List UInt8))) :=
  (transmissions [] (blocks KITTY stream)).map (fun data => (from_utf8 data).map base64_decode_bytes)

/-! ## The control text -/

theorem decimal_int_low (n : Int) : ∀ c ∈ decimal_int n, c = 0x2d ∨ (0x30 ≤ c ∧ c ≤ 0x39) := by
  have digits : ∀ n : Nat, ∀ c ∈ decimal n, 0x30 ≤ c ∧ c ≤ 0x39 := by
    intro n c member
    obtain ⟨digit,own,rfl⟩ := List.mem_map.mp member
    exact Char.isDigit_iff_toNat.mp (Nat.isDigit_of_mem_toDigits (by decide) (by decide) own)
  cases n with
  | ofNat n => exact fun c member => .inr (digits n c member)
  | negSucc n =>
    intro c member
    rcases List.mem_cons.mp member with rfl | own
    · exact .inl rfl
    · exact .inr (digits (n + 1) c own)

/-- A text of ASCII characters has a byte for each. -/
theorem encode_low {text : Str} (low : ∀ c ∈ text, c < 0x80) : encode text = text.map UInt8.ofNat := by
  induction text with
  | nil => rfl
  | cons c rest ih =>
    obtain ⟨here,later⟩ := List.forall_mem_cons.mp low
    rw [List.map_cons,← ih later]
    show encode_char c ++ encode rest = _
    rw [encode_char,if_pos here]
    rfl

theorem bytes_back {text : Str} (low : ∀ c ∈ text, c < 0x80) : (text.map UInt8.ofNat).map UInt8.toNat = text := by
  rw [List.map_map]
  refine (List.map_congr_left (fun c own => ?_)).trans (List.map_id text)
  have small := low c own
  simp only [Function.comp_apply,UInt8.toNat_ofNat',id_eq]
  omega

/-- The characters that a key of the control text can have. -/
def is_key_char (c : Nat) : Bool := c < 0x80 && c != 0x1b && c != 0x3b && c != 0x2c

theorem key_char {c : Nat} (key : is_key_char c = true) : c < 0x80 ∧ c ≠ 0x1b ∧ c ≠ 0x3b ∧ c ≠ 0x2c := by
  simpa [is_key_char,and_assoc] using key

/-- The keys of the control text of a placement. -/
def placement_keys (at_place : Placement) : List Str :=
  [str "q=2",str "c=" ++ decimal_int at_place.cols,str "r=" ++ decimal_int at_place.rows,
    str "i=" ++ decimal_int at_place.image_id,str "p=" ++ decimal_int at_place.placement_id]

def more_key (more : Bool) : Str := if more then str "m=1" else str "m=0"

def markdown_keys (at_place : Placement) (more : Bool) : List Str :=
  [str "a=T",str "f=100",str "t=d"] ++ placement_keys at_place ++ [more_key more]

def png_keys (at_place : Placement) (more : Bool) : List Str :=
  [str "a=T",str "f=100",str "t=d",more_key more] ++ placement_keys at_place

theorem markdown_control_keys (at_place : Placement) (more : Bool) :
    markdown_control at_place more = [0x2c].intercalate (markdown_keys at_place more) := by
  cases more <;> simp [markdown_control,markdown_keys,placement_keys,more_key,Placement.text,List.intercalate,str]

theorem png_control_keys (at_place : Placement) (more : Bool) :
    png_control at_place more = [0x2c].intercalate (png_keys at_place more) := by
  cases more <;> simp [png_control,png_keys,placement_keys,more_key,Placement.text,List.intercalate,str]

/-- A control text that lists its keys, and says with `m=1` that more is to come. -/
structure Announces (control : Bool → Str) (keys : Bool → List Str) : Prop where
  joined : ∀ more, control more = [0x2c].intercalate (keys more)
  plain : ∀ more, ∀ key ∈ keys more, ∀ c ∈ key, is_key_char c = true
  some_there : ∀ more, keys more ≠ []
  more : ∀ more, str "m=1" ∈ keys more ↔ more = true

theorem placement_plain (at_place : Placement) : ∀ key ∈ placement_keys at_place, ∀ c ∈ key, is_key_char c = true := by
  have digits : ∀ n : Int, ∀ c ∈ decimal_int n, is_key_char c = true := by
    intro n c own
    rcases decimal_int_low n c own with rfl | range
    · decide
    · simp only [is_key_char,Bool.and_eq_true,decide_eq_true_eq,bne_iff_ne]
      omega
  have named : ∀ name : Str, name.all is_key_char → ∀ n : Int, ∀ c ∈ name ++ decimal_int n, is_key_char c = true := by
    intro name plain n c own
    rcases List.mem_append.mp own with own | own
    · exact List.all_eq_true.mp plain c own
    · exact digits n c own
  simp only [placement_keys,List.forall_mem_cons]
  exact ⟨List.all_eq_true.mp (by decide),named _ (by decide) _,named _ (by decide) _,named _ (by decide) _,
    named _ (by decide) _,by simp⟩

theorem placement_other (at_place : Placement) : str "m=1" ∉ placement_keys at_place := by
  simp [placement_keys,str]

theorem more_key_plain (more : Bool) : ∀ c ∈ more_key more, is_key_char c = true := by
  cases more <;> exact List.all_eq_true.mp (by decide)

theorem more_key_iff (more : Bool) : str "m=1" = more_key more ↔ more = true := by
  cases more <;> decide

theorem markdown_announces (at_place : Placement) : Announces (markdown_control at_place) (markdown_keys at_place) where
  joined := markdown_control_keys at_place
  plain more key own := by
    simp only [markdown_keys,List.mem_append,List.mem_singleton] at own
    rcases own with (own | own) | rfl
    · have each : ∀ key ∈ [str "a=T",str "f=100",str "t=d"], key.all is_key_char = true := by decide
      exact List.all_eq_true.mp (each key own)
    · exact placement_plain at_place key own
    · exact more_key_plain more
  some_there more := by simp [markdown_keys]
  more more := by
    have others := placement_other at_place
    rw [← more_key_iff more]
    simp only [markdown_keys,List.mem_append,others,or_false,List.mem_singleton]
    exact or_iff_right (by decide)

theorem png_announces (at_place : Placement) : Announces (png_control at_place) (png_keys at_place) where
  joined := png_control_keys at_place
  plain more key own := by
    simp only [png_keys,List.mem_append,List.mem_cons,List.not_mem_nil,or_false] at own
    rcases own with (rfl | rfl | rfl | rfl) | own
    · exact List.all_eq_true.mp (by decide)
    · exact List.all_eq_true.mp (by decide)
    · exact List.all_eq_true.mp (by decide)
    · exact more_key_plain more
    · exact placement_plain at_place key own
  some_there more := by simp [png_keys]
  more more := by
    have others := placement_other at_place
    have apart : str "m=1" ≠ str "a=T" ∧ str "m=1" ≠ str "f=100" ∧ str "m=1" ≠ str "t=d" := by decide
    rw [← more_key_iff more]
    simp [png_keys,others,apart]

section
variable {control : Bool → Str} {keys : Bool → List Str}

theorem control_char (announces : Announces control keys) (more : Bool) :
    ∀ c ∈ control more, c < 0x80 ∧ c ≠ 0x1b ∧ c ≠ 0x3b := by
  intro c own
  rw [announces.joined] at own
  rcases Words.mem_intercalate own with comma | ⟨key,within,own⟩
  · obtain rfl := List.mem_singleton.mp comma
    decide
  · obtain ⟨low,esc,semicolon,_⟩ := key_char (announces.plain more key within c own)
    exact ⟨low,esc,semicolon⟩

theorem encode_control (announces : Announces control keys) (more : Bool) :
    encode (control more) = (control more).map UInt8.ofNat :=
  encode_low (fun c own => (control_char announces more c own).1)

theorem control_byte (announces : Announces control keys) (more : Bool) :
    ∀ byte ∈ encode (control more), byte ≠ 0x1b ∧ byte ≠ 0x3b := by
  intro byte own
  rw [encode_control announces] at own
  obtain ⟨c,within,rfl⟩ := List.mem_map.mp own
  obtain ⟨low,esc,semicolon⟩ := control_char announces more c within
  have back : (UInt8.ofNat c).toNat = c := by
    rw [UInt8.toNat_ofNat']
    omega
  exact ⟨fun same => esc (by rw [← back,same]; rfl),fun same => semicolon (by rw [← back,same]; rfl)⟩

theorem map_intercalate {α β : Type} (f : α → β) (sep : List α) (ls : List (List α)) :
    (sep.intercalate ls).map f = (sep.map f).intercalate (ls.map (List.map f)) := by
  induction ls with
  | nil => rfl
  | cons l rest ih =>
    cases rest with
    | nil => simp
    | cons l' rest =>
      rw [List.map_cons] at ih
      simp only [List.intercalate_cons_cons,List.map_append,List.map_cons,ih]

/-- A terminal finds `m=1` in the control text if it is there. -/
theorem control_more (announces : Announces control keys) (more : Bool) :
    ((encode (control more)).splitOn 0x2c).contains (encode (str "m=1")) = more := by
  have low : ∀ key ∈ keys more, ∀ c ∈ key, c < 0x80 := fun key within c own => (key_char (announces.plain more key within c own)).1
  have none : ∀ key ∈ (keys more).map (List.map UInt8.ofNat), (0x2c : UInt8) ∉ key := by
    intro key within own
    obtain ⟨text,there,rfl⟩ := List.mem_map.mp within
    obtain ⟨c,member,same⟩ := List.mem_map.mp own
    obtain ⟨small,_,_,comma⟩ := key_char (announces.plain more text there c member)
    have back := congrArg UInt8.toNat same
    rw [UInt8.toNat_ofNat',Nat.mod_eq_of_lt (by omega)] at back
    exact comma back
  have split : (encode (control more)).splitOn 0x2c = (keys more).map (List.map UInt8.ofNat) := by
    rw [encode_control announces,announces.joined,map_intercalate]
    exact List.splitOn_intercalate 0x2c none (by simpa using announces.some_there more)
  rw [split,Bool.eq_iff_iff,List.contains_iff_mem,← announces.more more]
  have asked : encode (str "m=1") = (str "m=1").map UInt8.ofNat := encode_low (by decide)
  rw [asked]
  constructor
  · intro member
    obtain ⟨key,within,same⟩ := List.mem_map.mp member
    have back := congrArg (List.map UInt8.toNat) same
    rw [bytes_back (low key within),bytes_back (by decide)] at back
    exact back ▸ within
  · exact fun within => List.mem_map_of_mem within

/-! ## The pieces of an image -/

theorem read_wrapped (announces : Announces control keys) (more : Bool) (piece : List UInt8) :
    read_block (KITTY.wrap (encode (control more) ++ 0x3b :: piece)) = (more,piece) := by
  have inner : ((KITTY.wrap (encode (control more) ++ 0x3b :: piece)).drop KITTY_START.length).take
      ((KITTY.wrap (encode (control more) ++ 0x3b :: piece)).length - KITTY_START.length - KITTY_END.length) =
        encode (control more) ++ 0x3b :: piece := by
    have size : (KITTY.wrap (encode (control more) ++ 0x3b :: piece)).length - KITTY_START.length - KITTY_END.length =
        (encode (control more) ++ 0x3b :: piece).length := by
      simp only [Markers.wrap,KITTY,List.length_append]
      omega
    rw [size]
    show ((KITTY_START ++ (_ ++ KITTY_END)).drop KITTY_START.length).take _ = _
    rw [List.drop_left,List.take_left]
  have plain : ∀ byte ∈ encode (control more), decide (byte ≠ 0x3b) = true :=
    fun byte own => decide_eq_true (control_byte announces more byte own).2
  have front : (encode (control more) ++ 0x3b :: piece).takeWhile (· ≠ 0x3b) = encode (control more) := by
    rw [List.takeWhile_append_of_pos plain,List.takeWhile_cons_of_neg (by decide),List.append_nil]
  have back : ((encode (control more) ++ 0x3b :: piece).dropWhile (· ≠ 0x3b)).drop 1 = piece := by
    rw [List.dropWhile_append_of_pos plain,List.dropWhile_cons_of_neg (by decide)]
    rfl
  rw [read_block,inner,front,back,control_more announces]

/-- Pieces from an offset on, of which only the last announces no more, are one transmission. -/
theorem transmissions_from (announces : Announces control keys) (encoded : List UInt8) {chunk_size : Nat}
    (positive : 0 < chunk_size) (n i : Nat) (enough : i * chunk_size < encoded.length)
    (last : i + n + 1 = (encoded.length + chunk_size - 1) / chunk_size) (pending : List UInt8) (rest : List (List UInt8)) :
    transmissions pending (((List.range' i (n + 1)).map (fun k => KITTY.wrap (block_body control encoded chunk_size (k * chunk_size)))) ++ rest) =
      (pending ++ encoded.drop (i * chunk_size)) :: transmissions [] rest := by
  induction n generalizing i pending with
  | zero =>
    have over_end : encoded.length ≤ i * chunk_size + chunk_size := by
      have less : (encoded.length + chunk_size - 1) / chunk_size < i + 2 := by omega
      rw [Nat.div_lt_iff_lt_mul positive,Nat.add_mul] at less
      omega
    have whole : (encoded.drop (i * chunk_size)).take chunk_size = encoded.drop (i * chunk_size) :=
      List.take_of_length_le (by rw [List.length_drop]; omega)
    show transmissions pending (KITTY.wrap (block_body control encoded chunk_size (i * chunk_size)) :: rest) = _
    rw [transmissions,block_body,read_wrapped announces,whole]
    simp [show ¬ i * chunk_size + chunk_size < encoded.length by omega]
  | succ n ih =>
    have inside : i * chunk_size + chunk_size < encoded.length := by
      have more : i + 2 ≤ (encoded.length + chunk_size - 1) / chunk_size := by omega
      rw [Nat.le_div_iff_mul_le positive,Nat.add_mul] at more
      omega
    have next : (i + 1) * chunk_size = i * chunk_size + chunk_size := Nat.succ_mul i chunk_size
    rw [List.range'_succ,List.map_cons,List.cons_append,transmissions,block_body,read_wrapped announces]
    simp only [decide_eq_true inside,if_pos]
    rw [ih (i + 1) (by omega) (by omega),next,List.append_assoc]
    congr 2
    rw [← List.drop_drop]
    exact List.take_append_drop chunk_size _

/-- The bodies of the blocks of an image. -/
def image_bodies (control : Bool → Str) (png : List UInt8) (chunk_size : Nat) : List (List UInt8) :=
  let encoded := as_bytes (base64_encode_bytes png)
  (range_to encoded.length chunk_size).map (block_body control encoded chunk_size)

theorem kitty_sequence_wraps (png : List UInt8) (chunk_size : Nat) :
    kitty_sequence control png chunk_size = (image_bodies control png chunk_size).flatMap KITTY.wrap := by
  rw [image_bodies,List.flatMap_map]
  rfl

theorem encoded_bytes (png : List UInt8) : as_bytes (base64_encode_bytes png) = ((base64_encode_bytes png).toList).map byte_of ∧
    ∀ c ∈ (base64_encode_bytes png).toList, Coded c := by
  have coded : ∀ c ∈ (base64_encode_bytes png).toList, Coded c := by
    rw [base64_encode_bytes,String.toList_ofList]
    exact encode_coded png
  refine ⟨?_,coded⟩
  have same := as_bytes_ascii (fun c own => (coded_plain (coded c own)).1)
  rwa [String.ofList_toList] at same

theorem encoded_byte (png : List UInt8) : ∀ byte ∈ as_bytes (base64_encode_bytes png), byte ≠ 0x1b := by
  obtain ⟨same,coded⟩ := encoded_bytes png
  rw [same]
  rintro byte own rfl
  obtain ⟨c,within,back⟩ := List.mem_map.mp own
  have digits : ∀ n < 64, byte_of (digit n) ≠ 0x1b := by decide +kernel
  rcases coded c within with ⟨n,rfl⟩ | rfl
  · rw [digit_mod] at back
    exact digits (n % 64) (Nat.mod_lt n (by decide)) back
  · exact absurd back (by decide)

theorem encoded_some {png : List UInt8} (some_there : png ≠ []) : as_bytes (base64_encode_bytes png) ≠ [] := by
  intro none
  have same := as_bytes_empty.mp none
  have back := decode_encode png
  rw [same] at back
  exact some_there (Except.ok.inj back).symm

theorem bodies_run (announces : Announces control keys) (png : List UInt8) (chunk_size : Nat) :
    ∀ body ∈ image_bodies control png chunk_size, Runs KITTY body := by
  intro body member
  obtain ⟨off,_,rfl⟩ := List.mem_map.mp member
  refine runs_without (show KITTY.closing = [0x1b,0x5c] from rfl) (fun own => ?_)
  rw [block_body,List.mem_append,List.mem_cons] at own
  rcases own with own | own | own
  · exact (control_byte announces _ 0x1b own).1 rfl
  · exact absurd own (by decide)
  · exact encoded_byte png 0x1b (List.mem_of_mem_drop (List.mem_of_mem_take own)) rfl

theorem bodies_some {png : List UInt8} (some_there : png ≠ []) {chunk_size : Nat} (positive : 0 < chunk_size) :
    0 < ((as_bytes (base64_encode_bytes png)).length + chunk_size - 1) / chunk_size ∧
      image_bodies control png chunk_size ≠ [] := by
  have long := List.length_pos_iff.mpr (encoded_some some_there)
  have count : 0 < ((as_bytes (base64_encode_bytes png)).length + chunk_size - 1) / chunk_size := Nat.div_pos (by omega) positive
  refine ⟨count,fun none => ?_⟩
  have size := congrArg List.length none
  simp only [image_bodies,range_to,List.length_map,List.length_range,List.length_nil] at size
  omega

/-- The blocks of an image are one transmission of its text. -/
theorem image_transmission (announces : Announces control keys) {png : List UInt8} (some_there : png ≠ []) {chunk_size : Nat}
    (positive : 0 < chunk_size) (rest : List (List UInt8)) :
    transmissions [] ((image_bodies control png chunk_size).map KITTY.wrap ++ rest) =
      as_bytes (base64_encode_bytes png) :: transmissions [] rest := by
  obtain ⟨count,_⟩ : _ ∧ image_bodies control png chunk_size ≠ [] := bodies_some some_there positive
  obtain ⟨n,same⟩ : ∃ n, ((as_bytes (base64_encode_bytes png)).length + chunk_size - 1) / chunk_size = n + 1 :=
    ⟨_,(Nat.succ_pred_eq_of_pos count).symm⟩
  have long := List.length_pos_iff.mpr (encoded_some some_there)
  have run := transmissions_from announces (as_bytes (base64_encode_bytes png)) positive n 0 (by omega) (by omega) [] rest
  rw [Nat.zero_mul,List.drop_zero,List.nil_append] at run
  rw [← run,image_bodies,range_to,same,List.range_eq_range',List.map_map,List.map_map]
  rfl

end

/-! ## A stream with images -/

/-- An image that a script puts into a stream. -/
structure SentImage where
  /-- Whether `send_kitty_png.py` sends it, and not `send_markdown_to_device.py`. -/
  by_png : Bool
  png : List UInt8
  at_place : Placement
  chunk_size : Nat
  some_there : png ≠ []
  positive : 0 < chunk_size

def SentImage.sequence (image : SentImage) : List UInt8 :=
  if image.by_png then build_kitty_png_sequence_png image.png image.at_place image.chunk_size
  else build_kitty_png_sequence image.png image.at_place image.chunk_size

def SentImage.bodies (image : SentImage) : List (List UInt8) :=
  image_bodies (if image.by_png then png_control image.at_place else markdown_control image.at_place) image.png image.chunk_size

theorem sequence_announces (image : SentImage) : ∃ keys, Announces
    (if image.by_png then png_control image.at_place else markdown_control image.at_place) keys := by
  split
  · exact ⟨_,png_announces image.at_place⟩
  · exact ⟨_,markdown_announces image.at_place⟩

theorem sequence_wraps (image : SentImage) : image.sequence = image.bodies.flatMap KITTY.wrap := by
  rw [SentImage.sequence,SentImage.bodies,← kitty_sequence_wraps]
  split <;> rfl

/-- A terminal reads the images of a stream in their order, each as it was. -/
theorem images_received (items : List (List UInt8 × SentImage)) (tail : List UInt8)
    (texts : ∀ item ∈ items, ¬ KITTY_START <:+: item.1) (plain : ¬ KITTY_START <:+: tail) :
    received_images (items.flatMap (fun item => item.1 ++ item.2.sequence) ++ tail) =
      items.map (fun item => some (.ok item.2.png)) := by
  suffices data : transmissions [] (blocks KITTY (items.flatMap (fun item => item.1 ++ item.2.sequence) ++ tail)) =
      items.map (fun item => as_bytes (base64_encode_bytes item.2.png)) by
    rw [received_images,data,List.map_map]
    refine List.map_congr_left (fun item _ => ?_)
    rw [Function.comp_apply,from_utf8_as_bytes,Option.map_some,decode_encode]
  induction items with
  | nil =>
    rw [List.flatMap_nil,List.nil_append,blocks_text plain]
    rfl
  | cons item rest ih =>
    obtain ⟨here,later⟩ := List.forall_mem_cons.mp texts
    obtain ⟨keys,announces⟩ := sequence_announces item.2
    have front := blocks_wraps (m := KITTY) here (bodies_some item.2.some_there item.2.positive).2
      (bodies_run announces item.2.png item.2.chunk_size) (rest.flatMap (fun item => item.1 ++ item.2.sequence) ++ tail)
    rw [List.flatMap_cons,List.append_assoc,List.append_assoc,sequence_wraps,SentImage.bodies,front,
      image_transmission announces item.2.some_there item.2.positive,ih later,List.map_cons]

/-- An image of each script. -/
def two_images : List (List UInt8 × SentImage) :=
  [([0x61],⟨false,[0x89,0x50,0x4e,0x47],⟨24,8,1,1⟩,4,by decide,by decide⟩),
    ([0x1b,0x5f],⟨true,[0x00],⟨-1,0,2,2⟩,3072,by decide,by decide⟩)]

theorem images_received_two :
    received_images (two_images.flatMap (fun item => item.1 ++ item.2.sequence) ++ [0x0d,0x0a]) =
      [some (.ok [0x89,0x50,0x4e,0x47]),some (.ok [0x00])] :=
  images_received two_images [0x0d,0x0a] (by decide) (by decide)

end VibeBridge.Python.SendMarkdown
