import VibeBridge.Python.LcdText
import VibeBridge.Transducer

/-!
The adapter of the output for the LCD. The bytes of a chunk go through the
incremental decoder, the replacement of characters, the live rendering of tables
and the remapping of colors; each stage keeps what it cannot use yet. The decoder
is an argument.
-/
namespace VibeBridge.Python.Lcd
open VibeBridge.Substitution VibeBridge.Transducer

/-- The incremental UTF-8 decoder with `surrogateescape`. -/
structure IncrementalDecoder where
  State : Type
  start : State
  decode : State → List UInt8 → Str × State

/-- What the rendering of tables keeps: a row that may be a header, with its line; the rows of the table that is
    open; and the end of a chunk that is held back. -/
structure Markdown where
  pending_table_header : Option (List Str × Str) := none
  table_rows : Option (List (List Str)) := none
  partial_line : Str := []

/-- What the remapping of colors keeps: whether the theme has begun, and the ends of chunks that are held back. -/
structure Colors where
  theme_started : Bool := false
  theme_tail : Str := []
  compat_tail : Str := []

structure LcdOutputAdapter (decoder : IncrementalDecoder) where
  decoder_state : decoder.State
  markdown : Markdown := {}
  theme : Str
  colors : Colors := {}

/-! ## Tables -/

/-- What `_flush_table_state` writes. -/
def flushed (self : Markdown) : Str :=
  (self.table_rows.map render_lcd_table).getD [] ++ (self.pending_table_header.map (·.2)).getD []

/-- What `_flush_table_state` leaves. -/
def Markdown.closed (self : Markdown) : Markdown := { partial_line := self.partial_line }

/-- `_process_complete_line` where no table is open, no header is pending and the line may be a row. -/
def process_reply_line (self : Markdown) (line : Str) : Str × Markdown :=
  match parse_markdown_table_row (strip_ansi line) with
  | some row => ([],{ self with pending_table_header := some (row,line) })
  | none => (line,self)

/-- The calls of itself come after the table or the header is gone, and find the line to be no line of the user or
    of the system again: they are calls of `process_reply_line`. -/
def process_complete_line (self : Markdown) (line : Str) : Str × Markdown :=
  if is_non_reply_line line then (flushed self ++ line,self.closed)
  else
    match self.table_rows with
    | some rows =>
      match parse_markdown_table_row (strip_ansi line) with
      | some row => ([],{ self with table_rows := some (rows ++ [row]) })
      | none =>
        let (out,after) := process_reply_line self.closed line
        (flushed self ++ out,after)
    | none =>
      match self.pending_table_header with
      | some (header,original) =>
        if is_markdown_table_separator line then ([],{ self with pending_table_header := none, table_rows := some [header] })
        else
          let (out,after) := process_reply_line self.closed line
          (original ++ out,after)
      | none => process_reply_line self line

/-- The loop over the complete lines. -/
def process_lines (self : Markdown) (lines : List Str) : Str × Markdown := run process_complete_line self lines

/-- `line.endswith(("\n", "\r"))` -/
def ends_line (line : Str) : Bool := line.getLast? == some LF || line.getLast? == some CR

def is_open (self : Markdown) : Bool := self.table_rows.isSome || self.pending_table_header.isSome

def render_live_markdown (self : Markdown) (text : Str) : Str × Markdown :=
  let pending := self.partial_line ++ text
  let self := { self with partial_line := [] }
  let lines := splitlines pending
  let cut := lines.getLast?.any (fun line => !ends_line line)
  let tail := if cut then lines.getLastD [] else []
  let (out,self) := process_lines self (if cut then lines.dropLast else lines)
  if tail.isEmpty then (out,self)
  else if is_open self || decide (BAR ∈ strip_sgr tail) then (out,{ self with partial_line := tail })
  else (out ++ tail,self)

/-! ## Colors -/

def apply_gruvbox_theme (self : Colors) (text : Str) : Str × Colors :=
  let (body,theme_tail) := split_incomplete_sgr_tail (self.theme_tail ++ text)
  let self := { self with theme_tail }
  if body.isEmpty then ([],self)
  else
    let body := substitute SGR_RE remap_sgr_to_gruvbox body
    if self.theme_started then (body,self)
    else (rgb_sgr 38 GRUVBOX_DEFAULT_FG ++ rgb_sgr 48 GRUVBOX_DARK_BG ++ body,{ self with theme_started := true })

def apply_terminal_compat (self : Colors) (text : Str) : Str × Colors :=
  let (body,compat_tail) := split_incomplete_sgr_tail (self.compat_tail ++ text)
  let self := { self with compat_tail }
  if body.isEmpty then ([],self) else (substitute SGR_RE remap_sgr_for_lcd_terminal body,self)

/-! ## The adapter -/

def LcdOutputAdapter.new (decoder : IncrementalDecoder) (theme : Option Str) : LcdOutputAdapter decoder where
  decoder_state := decoder.start
  theme := lower (strip (theme.getD []))

def LcdOutputAdapter.feed {decoder : IncrementalDecoder} (self : LcdOutputAdapter decoder) (data : List UInt8) :
    List UInt8 × LcdOutputAdapter decoder :=
  let (text,decoder_state) := decoder.decode self.decoder_state data
  let self := { self with decoder_state }
  if text.isEmpty then ([],self)
  else
    let (text,markdown) := render_live_markdown self.markdown (translate text)
    let (text,colors) := if self.theme = str "gruvbox" then apply_gruvbox_theme self.colors text
      else apply_terminal_compat self.colors text
    (encode text,{ self with markdown, colors })

/-- The outputs of the chunks, one after the other. -/
def LcdOutputAdapter.feed_all {decoder : IncrementalDecoder} (self : LcdOutputAdapter decoder)
    (chunks : List (List UInt8)) : List UInt8 × LcdOutputAdapter decoder :=
  run LcdOutputAdapter.feed self chunks

end VibeBridge.Python.Lcd
