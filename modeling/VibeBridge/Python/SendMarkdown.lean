import VibeBridge.Python.SurrogateEscape

/-!
The script that sends a Markdown text to the device. A chunk is decoded with
`surrogateescape` and rendered line by line: fences, headings, tables, images and
plain lines. The text of a heading and of a table is encoded without the handler,
so an undecodable byte in it raises; everywhere else, images apart, such a byte
is in the output as it is (`render_text_chunk_iff`). The rendering of images is an
argument, with the state that it keeps.
-/
namespace VibeBridge.Python.SendMarkdown
open VibeBridge.Substitution VibeBridge.Python.Lcd

/-! ## Lines -/

/-- `stripped.startswith("```") or stripped.startswith("~~~")`, of the line without its indentation. -/
def is_fence (line : Str) : Bool :=
  let stripped := line.dropWhile is_space
  (str "```").isPrefixOf stripped || (str "~~~").isPrefixOf stripped

/-- What is written for the fence that opens. -/
def fence_label (line : Str) : Str :=
  let lang := strip ((line.dropWhile is_space).drop 3)
  (if lang.isEmpty then str "Code:" else str "Code: " ++ lang) ++ (strip_line_ending line).2

def is_blank (c : Nat) : Bool := c == 0x20 || c == 0x09

/-- The second group of `MARKDOWN_HEADING_RE.match`, of a text without white space at its ends. -/
def heading_title (text : Str) : Option Str :=
  let marks := (text.takeWhile (· == 0x23)).length
  let rest := text.dropWhile (· == 0x23)
  let title := rest.dropWhile is_blank
  if 1 ≤ marks ∧ marks ≤ 6 ∧ rest.head?.any is_blank ∧ title ≠ [] then
    let short := (title.reverse.dropWhile (fun c => is_blank c || c == 0x23)).reverse
    some (if short.isEmpty then title.take 1 else short)
  else none

/-- What is written for a heading. -/
def heading_text (line title : Str) : Str := str "== " ++ title ++ str " ==" ++ (strip_line_ending line).2

/-- A match of `MARKDOWN_IMAGE_RE`: its second group, and all of it. -/
structure Link where
  target : Str
  matched : Str
  deriving DecidableEq

def ends_target (c : Nat) : Bool := c == 0x29 || c == CR || c == LF

/-- `MARKDOWN_IMAGE_RE` -/
def MARKDOWN_IMAGE_RE (text : Str) : Option (Link × Nat) :=
  match text with
  | bang :: bracket :: rest =>
    let alt := rest.takeWhile (· ≠ 0x5d)
    match rest.dropWhile (· ≠ 0x5d) with
    | _ :: paren :: rest =>
      let target := rest.takeWhile (fun c => !ends_target c)
      if bang = 0x21 ∧ bracket = 0x5b ∧ paren = 0x28 ∧ target ≠ [] ∧ (rest.dropWhile (fun c => !ends_target c)).head? = some 0x29 then
        let length := alt.length + target.length + 5
        some (⟨target,text.take length⟩,length)
      else none
    | _ => none
  | _ => none

/-- `MARKDOWN_IMAGE_RE.fullmatch` -/
def fullmatch_image (text : Str) : Option Link :=
  match MARKDOWN_IMAGE_RE text with
  | some (link,length) => if length = text.length then some link else none
  | none => none

/-! ## Tables -/

def parse_table_row (line : Str) : Option (List Str) :=
  let body := strip (strip_line_ending line).1
  if BAR ∉ body then none
  else
    let body := if body.head? = some BAR then body.drop 1 else body
    let body := if body.getLast? = some BAR then body.dropLast else body
    let cells := (body.splitOn BAR).map strip
    if cells.length ≥ 2 then some cells else none

def is_table_separator (line : Str) : Bool :=
  match parse_table_row line with
  | none => false
  | some cells => cells.all (fun cell => is_separator_cell (cell.filter (· ≠ 0x20)))

def is_markdown_table_header (line next_line : Str) : Bool := (parse_table_row line).isSome && is_table_separator next_line

/-- The lines that go on with a table after its separator (`collect_markdown_table`). -/
def table_rows (lines : List Str) : List Str := lines.takeWhile (fun line => (parse_table_row line).isSome)

def ljust (cell : Str) (width : Nat) : Str := cell ++ List.replicate (width - cell.length) 0x20

def table_border (widths : List Nat) : Str :=
  str "+" ++ (str "+").intercalate (widths.map (fun width => List.replicate (width + 2) 0x2d)) ++ str "+"

def table_row (widths : List Nat) (row : List Str) : Str :=
  str "|" ++ (str "|").intercalate (List.zipWith (fun cell width => str " " ++ ljust cell width ++ str " ") row widths) ++ str "|"

def render_markdown_table (rows : List (List Str)) : Str :=
  if rows.isEmpty then []
  else
    let col_count := maximum (rows.map (·.length))
    let padded := rows.map (fun row => row ++ List.replicate (col_count - row.length) [])
    let widths := (List.range col_count).map (fun col => maximum (padded.map (fun row => (row.getD col []).length)))
    let border := table_border widths
    let rendered := padded.map (table_row widths)
    -- a border stands before and after the first row, and at the end
    [LF].intercalate (border :: (rendered.take 1 ++ border :: rendered.drop 1) ++ [border]) ++ [LF]

/-! ## Passages -/

/-- What one turn of the loop renders. -/
inductive Passage
  | opening (line : Str)
  | closing (line : Str)
  | fenced (line : Str)
  | heading (line title : Str)
  | table (header separator : Str) (rows : List Str)
  | image (line : Str) (link : Link)
  | plain (line : Str)

/-- A line that is neither a heading nor the first of a table. -/
def line_passage (line : Str) : Passage :=
  match fullmatch_image (strip (strip_line_ending line).1) with
  | some link => .image line link
  | none => .plain line

/-- The passage outside a fence that a line begins, with the lines after it. -/
def next_passage (line : Str) (rest : List Str) : Passage :=
  match heading_title (strip (strip_line_ending line).1) with
  | some title => .heading line title
  | none =>
    match rest with
    | separator :: more =>
      if is_markdown_table_header line separator then .table line separator (table_rows more) else line_passage line
    | [] => line_passage line

def Passage.lines : Passage → List Str
  | .opening line => [line]
  | .closing line => [line]
  | .fenced line => [line]
  | .heading line _ => [line]
  | .table header separator rows => header :: separator :: rows
  | .image line _ => [line]
  | .plain line => [line]

/-- The turns of the loop, after so many lines that belong to a table; `in_fence` as in the source. -/
def passages_from : Nat → Bool → List Str → List Passage
  | _, _, [] => []
  | skipped + 1, in_fence, _ :: rest => passages_from skipped in_fence rest
  | 0, in_fence, line :: rest =>
    if is_fence line then (if in_fence then .closing line else .opening line) :: passages_from 0 (!in_fence) rest
    else if in_fence then .fenced line :: passages_from 0 in_fence rest
    else next_passage line rest :: passages_from ((next_passage line rest).lines.length - 1) in_fence rest

def passages (lines : List Str) : List Passage := passages_from 0 false lines

/-! ## Rendering -/

section
variable {σ ε : Type}

/-- The callback `render_image`, with the state that it keeps; it may raise. -/
abbrev RenderImage (σ ε : Type) := Str → σ → Except ε (List UInt8 × σ)

/-- What `render_text_chunk` may raise. -/
inductive Raised (ε : Type)
  | encode (err : UnicodeEncodeError)
  | image (err : ε)

/-- What is appended to `out`: a text that was encoded, or an image. -/
inductive Part
  | text (text : Str)
  | image (bytes : List UInt8)

def Part.bytes : Part → List UInt8
  | .text written => encode written
  | .image bytes => bytes

def append_escaped (text : Str) : Except (Raised ε) Part :=
  match encode_escaped text with
  | .ok _ => .ok (.text text)
  | .error err => .error (.encode err)

def append_strict (text : Str) : Except (Raised ε) Part :=
  match encode_strict text with
  | .ok _ => .ok (.text text)
  | .error err => .error (.encode err)

def append_image (render_image : RenderImage σ ε) (link : Link) (s : σ) : Except (Raised ε) (Part × σ) :=
  match render_image link.target s with
  | .ok (bytes,s) => .ok (.image bytes,s)
  | .error err => .error (.image err)

/-- The loop over `MARKDOWN_IMAGE_RE.finditer(line)`. -/
def render_segments (render_image : RenderImage σ ε) : List (Str × Link) → σ → Except (Raised ε) (List Part × σ)
  | [], s => .ok ([],s)
  | (text,link) :: rest, s => do
    let text ← append_escaped text
    let (image,s) ← append_image render_image link s
    let (parts,s) ← render_segments render_image rest s
    return (text :: image :: parts,s)

/-- The cells of the rows of a table. -/
def table_cells (lines : List Str) : List (List Str) := lines.filterMap parse_table_row

def render_passage (render_image : RenderImage σ ε) (passage : Passage) (s : σ) : Except (Raised ε) (List Part × σ) :=
  match passage with
  | .opening line => do return ([← append_escaped (fence_label line)],s)
  | .closing _ => .ok ([],s)
  | .fenced line => do return ([← append_escaped (str "  " ++ line)],s)
  | .heading line title => do return ([← append_strict (heading_text line title)],s)
  | .table header _ rows => do return ([← append_strict (render_markdown_table (table_cells (header :: rows)))],s)
  | .image _ link => do
    let (image,s) ← append_image render_image link s
    return ([image],s)
  | .plain line => do
    let (parts,s) ← render_segments render_image (segments MARKDOWN_IMAGE_RE line).1 s
    return (parts ++ [← append_escaped (segments MARKDOWN_IMAGE_RE line).2],s)

/-- The loop over the lines. -/
def render_passages (render_image : RenderImage σ ε) : List Passage → σ → Except (Raised ε) (List Part × σ)
  | [], s => .ok ([],s)
  | passage :: rest, s => do
    let (parts,s) ← render_passage render_image passage s
    let (later,s) ← render_passages render_image rest s
    return (parts ++ later,s)

/-- The turns of the loop for a chunk. -/
def chunk_passages (chunk : List UInt8) : List Passage := passages (splitlines (decode chunk))

def render_text_chunk (chunk : List UInt8) (render_image : RenderImage σ ε) (s : σ) : Except (Raised ε) (List UInt8 × σ) := do
  let (parts,s) ← render_passages render_image (chunk_passages chunk) s
  return (parts.flatMap Part.bytes,s)

end

end VibeBridge.Python.SendMarkdown
