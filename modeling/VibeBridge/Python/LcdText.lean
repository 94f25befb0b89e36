import Mathlib.Data.List.MinMax
import VibeBridge.Lines
import VibeBridge.Substitution
import VibeBridge.Words

/-!
The functions on texts behind the adapter for the LCD. A text of Python is the
list of its code points: undecodable bytes are in it as surrogates, so it is no
`String`. The regular expressions are deterministic, and are written as patterns
that tell the length of a match.
-/
namespace VibeBridge.Python.Lcd
open VibeBridge.Substitution

abbrev Str := List Nat

def str (text : String) : Str := text.toList.map Char.toNat

def ESC : Nat := 0x1b
def CR : Nat := 0x0d
def LF : Nat := 0x0a
def BAR : Nat := 0x7c

/-! ## What Python's texts do -/

/-- `str.isspace`, and `\s` of a regular expression. -/
def is_space (c : Nat) : Bool :=
  (0x09 ≤ c && c ≤ 0x0d) || (0x1c ≤ c && c ≤ 0x20) || c == 0x85 || c == 0xa0 || c == 0x1680 ||
    (0x2000 ≤ c && c ≤ 0x200a) || c == 0x2028 || c == 0x2029 || c == 0x202f || c == 0x205f || c == 0x3000

/-- The ends of lines that `str.splitlines` knows. -/
def is_line_end (c : Nat) : Bool :=
  (0x0a ≤ c && c ≤ 0x0d) || (0x1c ≤ c && c ≤ 0x1e) || c == 0x85 || c == 0x2028 || c == 0x2029

/-- A line is over after its end, but a CR and an LF are one end. -/
def breaks (c : Nat) (next : Option Nat) : Bool := is_line_end c && !(c == CR && next == some LF)

/-- `str.splitlines(keepends=True)` -/
def splitlines (text : Str) : List Str := Lines.split breaks text

def strip (text : Str) : Str := Words.trim is_space text

def rstrip (text : Str) : Str := (text.reverse.dropWhile is_space).reverse

/-- Of the letters beyond ASCII, those in whose lower case an ASCII letter stands are the Kelvin sign and the
    dotted I. The others are kept: the lower case is only compared with ASCII texts. -/
def lower (text : Str) : Str :=
  text.flatMap (fun c => if 0x41 ≤ c ∧ c ≤ 0x5a then [c + 32] else if c = 0x212a then [0x6b]
    else if c = 0x130 then [0x69,0x307] else [c])

/-- `str(n)` -/
def decimal (n : Nat) : Str := (Nat.toDigits 10 n).map Char.toNat

/-! ## Escape sequences -/

def is_param (c : Nat) : Bool := (0x30 ≤ c && c ≤ 0x39) || c == 0x3b || c == 0x3a

/-- `SGR_RE`, with its group. -/
def SGR_RE (text : Str) : Option (Str × Nat) :=
  match text with
  | esc :: bracket :: rest =>
    let params := rest.takeWhile is_param
    if esc = ESC ∧ bracket = 0x5b ∧ (rest.dropWhile is_param).head? = some 0x6d then some (params,params.length + 3) else none
  | _ => none

/-- The length of the text up to and with the end of a control string, as `.*?` finds it. -/
def control_end (bell : Bool) : Str → Option Nat
  | [] => none
  | [c] => if bell && c == 0x07 then some 1 else none
  | c :: d :: rest =>
    if bell && c == 0x07 then some 1
    else if c = ESC ∧ d = 0x5c then some 2
    else (control_end bell (d :: rest)).map (· + 1)

/-- `ANSI_RE` -/
def ANSI_RE (text : Str) : Option (Unit × Nat) :=
  match text with
  | esc :: kind :: rest =>
    if esc ≠ ESC then none
    else if kind = 0x5b then
      let params := rest.takeWhile (fun c => c == 0x3f || is_param c)
      match (rest.dropWhile (fun c => c == 0x3f || is_param c)).head? with
      | some final => if 0x40 ≤ final ∧ final ≤ 0x7e then some ((),params.length + 3) else none
      | none => none
    else if kind = 0x5d then (control_end true rest).map (fun length => ((),length + 2))
    else if kind = 0x5f ∨ kind = 0x50 ∨ kind = 0x58 ∨ kind = 0x5e then
      (control_end false rest).map (fun length => ((),length + 2))
    else none
  | _ => none

def strip_sgr (text : Str) : Str := substitute SGR_RE (fun _ => []) text

def strip_ansi (text : Str) : Str := substitute ANSI_RE (fun _ => []) text

/-- `re.fullmatch(r"\x1b(?:\[?[0-9;:]*)?", tail)` -/
def is_incomplete_sgr (tail : Str) : Bool :=
  match tail with
  | [] => false
  | esc :: rest => esc == ESC && (match rest with
    | [] => true
    | c :: more => (c == 0x5b || is_param c) && more.all is_param)

/-- The text before the last escape, and the text from it on. -/
def split_at_escape (text : Str) : Str × Str :=
  if ESC ∈ text then
    let after := (text.reverse.takeWhile (· ≠ ESC)).reverse
    (text.take (text.length - (after.length + 1)),ESC :: after)
  else (text,[])

def split_incomplete_sgr_tail (text : Str) : Str × Str :=
  let (front,tail) := split_at_escape text
  if tail.isEmpty then (text,[])
  else if (SGR_RE tail).any (fun found => found.2 = tail.length) then (text,[])
  else if is_incomplete_sgr tail then (front,tail)
  else (text,[])

/-! ## Lines of the output -/

def strip_line_ending (line : Str) : Str × Str :=
  if [CR,LF].isSuffixOf line then (line.take (line.length - 2),[CR,LF])
  else if line.getLast? = some LF ∨ line.getLast? = some CR then (line.dropLast,line.drop (line.length - 1))
  else (line,[])

/-- The bullet that `re.sub(r"^[>*›\-\s]*[·•*.]\s+(?=\|)", "", body)` removes: no bar is in it, so it is all
    that stands before the first bar. -/
def is_bullet (front : Str) : Bool :=
  match front.reverse.dropWhile is_space with
  | bullet :: before =>
    (front.getLast?.any is_space) && (bullet == 0xb7 || bullet == 0x2022 || bullet == 0x2a || bullet == 0x2e) &&
      before.all (fun c => c == 0x3e || c == 0x2a || c == 0x203a || c == 0x2d || is_space c)
  | [] => false

def strip_bullet (body : Str) : Str :=
  if BAR ∈ body ∧ is_bullet (body.takeWhile (· ≠ BAR)) then body.dropWhile (· ≠ BAR) else body

def parse_markdown_table_row (line : Str) : Option (List Str) :=
  let body := strip_bullet (strip (strip_line_ending line).1)
  if BAR ∉ body then none
  else
    let body := if body.head? = some BAR then body.drop 1 else body
    let body := if body.getLast? = some BAR then body.dropLast else body
    let cells := (body.splitOn BAR).map strip
    if cells.length ≥ 2 then some cells else none

/-- What the lines of the user and of the system begin with. -/
def NON_REPLY_MARKS : List Str := [">","›","❯","❱","╭","╰","┌","└","│","┃","┏","┗"].map str

def NON_REPLY_WORDS : List Str :=
  ["openai codex","model:","directory:","tip:","gpt-","claude","aikb","vt100"].map str

def is_non_reply_line (line : Str) : Bool :=
  if str "\x1b[7m" <:+: line then true
  else
    let plain := strip (strip_ansi line)
    if plain.isEmpty then false
    else if NON_REPLY_MARKS.any (·.isPrefixOf plain) then true
    else NON_REPLY_WORDS.any (·.isPrefixOf (lower plain))

/-- `TABLE_SEP_CELL_RE.match` -/
def is_separator_cell (cell : Str) : Bool :=
  let cell := if cell.head? = some 0x3a then cell.drop 1 else cell
  let cell := if cell.getLast? = some 0x3a then cell.dropLast else cell
  cell.length ≥ 3 && cell.all (· == 0x2d)

def is_markdown_table_separator (line : Str) : Bool :=
  let body := strip (strip_line_ending (strip_ansi line)).1
  if body.count BAR ≥ 2 && body.all (fun c => c == BAR || is_space c || c == 0x3a || c == 0x2d) then true
  else
    match parse_markdown_table_row line with
    | none => false
    | some cells => cells.all (fun cell => is_separator_cell (cell.filter (· ≠ 0x20)))

/-! ## Tables -/

def lcd_text_width (text : Str) : Nat :=
  (text.map (fun cp => if (0x1100 ≤ cp ∧ cp ≤ 0x115f) ∨ (0x2e80 ≤ cp ∧ cp ≤ 0xa4cf) ∨ (0xac00 ≤ cp ∧ cp ≤ 0xd7a3) ∨
    (0xf900 ≤ cp ∧ cp ≤ 0xfaff) ∨ (0xfe10 ≤ cp ∧ cp ≤ 0xfe6f) ∨ (0xff00 ≤ cp ∧ cp ≤ 0xff60) ∨
    (0xffe0 ≤ cp ∧ cp ≤ 0xffe6) ∨ (0x20000 ≤ cp ∧ cp ≤ 0x3fffd) then 2 else 1)).foldl (· + ·) 0

def pad_lcd_text (text : Str) (width : Nat) : Str := text ++ List.replicate (width - lcd_text_width text) 0x20

def maximum (numbers : List Nat) : Nat := numbers.foldl max 0

def render_lcd_table (rows : List (List Str)) : Str :=
  if rows.isEmpty then []
  else
    let col_count := maximum (rows.map (·.length))
    let padded := rows.map (fun row => row ++ List.replicate (col_count - row.length) [])
    let widths := (List.range col_count).map (fun col => maximum (padded.map (fun row => lcd_text_width (row.getD col []))))
    let rendered := padded.map (fun row => rstrip ([0x20,0x20].intercalate (List.zipWith pad_lcd_text row widths)))
    -- an empty line stands for the separator
    [LF].intercalate (rendered.take 1 ++ [] :: rendered.drop 1) ++ [LF]

/-! ## Colors -/

abbrev Rgb := Nat × Nat × Nat

def GRUVBOX_DARK_BG : Rgb := (40,40,40)
def GRUVBOX_SOFT_BG : Rgb := (60,56,54)
def GRUVBOX_DEFAULT_FG : Rgb := (235,219,178)

def GRUVBOX_PALETTE : List Rgb :=
  [(29,32,33),(40,40,40),(50,48,47),(60,56,54),(80,73,69),(102,92,84),(124,111,100),(146,131,116),(249,245,215),
    (251,241,199),(242,229,188),(235,219,178),(213,196,161),(189,174,147),(168,153,132),(251,73,52),(184,187,38),
    (250,189,47),(131,165,152),(211,134,155),(142,192,124),(254,128,25),(204,36,29),(152,151,26),(215,153,33),
    (69,133,136),(177,98,134),(104,157,106),(214,93,14),(157,0,6),(121,116,14),(181,118,20),(7,102,120),(143,63,113),
    (66,123,88),(175,58,3)]

def GRUVBOX_ANSI : List Rgb :=
  [(40,40,40),(204,36,29),(152,151,26),(215,153,33),(69,133,136),(177,98,134),(104,157,106),(168,153,132),
    (146,131,116),(251,73,52),(184,187,38),(250,189,47),(131,165,152),(211,134,155),(142,192,124),(235,219,178)]

def rgb_sgr (kind : Nat) (rgb : Rgb) : Str :=
  [ESC,0x5b] ++ [0x3b].intercalate ([kind,2,rgb.1,rgb.2.1,rgb.2.2].map decimal) ++ [0x6d]

def rgb_params (kind : Nat) (rgb : Rgb) : List Str := [kind,2,rgb.1,rgb.2.1,rgb.2.2].map decimal

/-- `int(part)`, which reads no more than 4300 digits. -/
def parse_param (part : Str) : Nat :=
  if part.length > 4300 then 0 else part.foldl (fun n c => n * 10 + (c - 0x30)) 0

def parse_sgr_params (raw : Str) : List Nat :=
  ((raw.map (fun c => if c = 0x3a then 0x3b else c)).splitOn 0x3b).map parse_param

def remap_sgr_for_lcd_terminal (raw : Str) : Str :=
  let out := (parse_sgr_params raw).flatMap (fun code =>
    if code = 7 then rgb_params 38 (249,245,215) ++ rgb_params 48 (80,73,69)
    else if code = 27 then [decimal 39,decimal 49]
    else [decimal code])
  [ESC,0x5b] ++ [0x3b].intercalate out ++ [0x6d]

def distance (first second : Rgb) : Int :=
  let square := fun n : Int => n * n
  square (first.1 - second.1) + square (first.2.1 - second.2.1) + square (first.2.2 - second.2.2)

/-- `min` keeps the first of the nearest. -/
def nearest_gruvbox (rgb : Rgb) : Rgb :=
  (GRUVBOX_PALETTE.drop 1).foldl (fun best color => if distance color rgb < distance best rgb then color else best)
    (GRUVBOX_PALETTE.headD GRUVBOX_DARK_BG)

def nearest_gruvbox_bg (_rgb : Rgb) : Rgb := GRUVBOX_SOFT_BG

def gruvbox_ansi (index : Nat) : Rgb := GRUVBOX_ANSI.getD index GRUVBOX_DARK_BG

def xterm_256_rgb (idx : Nat) : Rgb :=
  let idx := min 255 idx
  if idx < 16 then gruvbox_ansi idx
  else if idx ≤ 231 then
    let n := idx - 16
    let level := fun i => [0,95,135,175,215,255].getD i 0
    (level (n / 36),level (n / 6 % 6),level (n % 6))
  else
    let gray := 8 + (idx - 232) * 10
    (gray,gray,gray)

/-- The parameters of a color, of the foreground or of the background. -/
def nearest_params (code : Nat) (rgb : Rgb) : List Str := rgb_params code (if code = 38 then rgb else nearest_gruvbox_bg rgb)

/-- The loop of `_remap_sgr_to_gruvbox`. -/
def gruvbox_params : List Nat → List Str
  | [] => []
  | code :: rest =>
    if code = 0 then decimal 0 :: (rgb_params 38 GRUVBOX_DEFAULT_FG ++ rgb_params 48 GRUVBOX_DARK_BG) ++ gruvbox_params rest
    else if code = 39 then rgb_params 38 GRUVBOX_DEFAULT_FG ++ gruvbox_params rest
    else if code = 49 then rgb_params 48 GRUVBOX_DARK_BG ++ gruvbox_params rest
    else if code = 7 ∨ code = 27 then gruvbox_params rest
    else if 30 ≤ code ∧ code ≤ 37 then rgb_params 38 (gruvbox_ansi (code - 30)) ++ gruvbox_params rest
    else if 90 ≤ code ∧ code ≤ 97 then rgb_params 38 (gruvbox_ansi (code - 90 + 8)) ++ gruvbox_params rest
    else if 40 ≤ code ∧ code ≤ 47 then rgb_params 48 GRUVBOX_SOFT_BG ++ gruvbox_params rest
    else if 100 ≤ code ∧ code ≤ 107 then rgb_params 48 GRUVBOX_SOFT_BG ++ gruvbox_params rest
    else if code = 38 ∨ code = 48 then
      match rest with
      | 2 :: r :: g :: b :: more => nearest_params code (nearest_gruvbox (r,g,b)) ++ gruvbox_params more
      | 5 :: idx :: more =>
        let rgb := if idx ≤ 15 then gruvbox_ansi idx else nearest_gruvbox (xterm_256_rgb idx)
        nearest_params code rgb ++ gruvbox_params more
      | rest => decimal code :: gruvbox_params rest
    else decimal code :: gruvbox_params rest

def remap_sgr_to_gruvbox (raw : Str) : Str :=
  if raw.isEmpty then [ESC,0x5b,0x30,0x6d] ++ rgb_sgr 38 GRUVBOX_DEFAULT_FG ++ rgb_sgr 48 GRUVBOX_DARK_BG
  else
    let out := gruvbox_params (parse_sgr_params raw)
    if out.isEmpty then [] else [ESC,0x5b] ++ [0x3b].intercalate out ++ [0x6d]

/-! ## Characters -/

/-- The replacements, of which each character has one. -/
def LCD_CHAR_REPLACEMENTS : List (Char × String) :=
  [('⏺',"·"),('⎿',"`"),('·',"·"),('∙',"·"),('•',"·"),('◦',"·"),('▪',"·"),('▫',"·"),('■',"·"),('□',"·"),('◆',"·"),
    ('◇',"·"),('●',"·"),('○',"o"),('✓',"v"),('✔',"v"),('✗',"x"),('✘',"x"),('×',"x"),('…',"..."),('→',"->"),('←',"<-"),
    ('›',">"),('❯',">"),('❱',">"),('❭',">"),('⟩',">"),('▸',">"),('▹',">"),('▶',">"),('▻',">"),('‹',"<"),('❮',"<"),
    ('❰',"<"),('❬',"<"),('⟨',"<"),('◂',"<"),('◃',"<"),('◀',"<"),('◅',"<"),('“',"\""),('”',"\""),('‘',"\x27"),
    ('’',"\x27")]

/-- `text.translate(LCD_CHAR_REPLACEMENTS)` -/
def translate (text : Str) : Str :=
  text.flatMap (fun c => match LCD_CHAR_REPLACEMENTS.find? (fun entry => entry.1.toNat == c) with
    | some (_,replacement) => str replacement
    | none => [c])

/-- UTF-8, where a surrogate that stands for a byte is that byte. The decoder makes no other surrogates. -/
def encode_char (c : Nat) : List UInt8 :=
  if c < 0x80 then [UInt8.ofNat c]
  else if c < 0x800 then [UInt8.ofNat (0xc0 + c / 0x40),UInt8.ofNat (0x80 + c % 0x40)]
  else if 0xdc80 ≤ c ∧ c ≤ 0xdcff then [UInt8.ofNat (c - 0xdc00)]
  else if c < 0x10000 then
    [UInt8.ofNat (0xe0 + c / 0x1000),UInt8.ofNat (0x80 + c / 0x40 % 0x40),UInt8.ofNat (0x80 + c % 0x40)]
  else [UInt8.ofNat (0xf0 + c / 0x40000),UInt8.ofNat (0x80 + c / 0x1000 % 0x40),UInt8.ofNat (0x80 + c / 0x40 % 0x40),
    UInt8.ofNat (0x80 + c % 0x40)]

def encode (text : Str) : List UInt8 := text.flatMap encode_char

end VibeBridge.Python.Lcd
