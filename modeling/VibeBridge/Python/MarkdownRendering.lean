import VibeBridge.Python.MarkdownBytes

/-!
When the script renders a chunk. The surrogates of a decoded chunk are escapes, so
a text that is encoded with the handler is always encoded, and one that is encoded
without it is if it has none. A chunk is rendered if that holds of its headings and
its tables and the callback returns for its images, and nothing undecodable is lost
if the links have none either (`render_text_chunk_iff`).
-/
namespace VibeBridge.Python.SendMarkdown
open VibeBridge.Substitution VibeBridge.Python.Lcd

/-! ## Undecodable bytes -/

theorem surrogate_high : High is_surrogate := by
  intro c surrogate
  simp only [is_surrogate,Bool.and_eq_true,decide_eq_true_eq] at surrogate
  exact surrogate.1

theorem escape_high : High is_escape := fun c escape => surrogate_high c (escape_surrogate escape)

theorem other_high : High (fun c => is_surrogate c && !is_escape c) :=
  fun c other => surrogate_high c (Bool.and_eq_true_iff.mp other).1

theorem escaped_filter {text : Str} : Escaped text ↔ text.filter (fun c => is_surrogate c && !is_escape c) = [] := by
  simp [Escaped,List.filter_eq_nil_iff]

theorem flatMap_undecodable (texts : List Str) :
    texts.flatMap undecodable = (texts.flatMap (List.filter is_escape)).map (fun c => UInt8.ofNat (c - 0xdc00)) :=
  List.map_flatMap.symm

theorem rendered_lines {passage : Passage} {line : Str} (member : line ∈ passage.rendered) : line ∈ passage.lines := by
  cases passage with
  | closing _ => cases member
  | _ => exact member

theorem texts_escaped {passage : Passage} (reads : passage.Reads) (escaped : ∀ line ∈ passage.lines, Escaped line) :
    ∀ text ∈ passage.texts, Escaped text := by
  have none : passage.rendered.flatMap (List.filter (fun c => is_surrogate c && !is_escape c)) = [] :=
    List.flatMap_eq_nil_iff.mpr (fun line member => escaped_filter.mp (escaped line (rendered_lines member)))
  have part := (filter_texts other_high reads).1
  rw [none,List.sublist_nil,List.flatMap_eq_nil_iff] at part
  exact fun text member => escaped_filter.mpr (part text member)

/-- What is undecodable in the texts is what is in the lines, but for what is in links. -/
theorem texts_part {passages : List Passage} (reads : ∀ passage ∈ passages, passage.Reads) :
    ((passages.flatMap Passage.texts).flatMap undecodable).Sublist ((passages.flatMap Passage.rendered).flatMap undecodable) ∧
      ((passages.flatMap Passage.texts).flatMap undecodable).length +
          ((passages.flatMap Passage.links).flatMap (fun link => undecodable link.matched)).length =
        ((passages.flatMap Passage.rendered).flatMap undecodable).length := by
  induction passages with
  | nil => exact ⟨List.Sublist.refl _,rfl⟩
  | cons passage rest ih =>
    obtain ⟨here,later⟩ := List.forall_mem_cons.mp reads
    obtain ⟨part,count⟩ := filter_texts escape_high here
    obtain ⟨parts,counts⟩ := ih later
    have links : passage.links.flatMap (fun link => undecodable link.matched) =
        (passage.links.flatMap (fun link => link.matched.filter is_escape)).map (fun c => UInt8.ofNat (c - 0xdc00)) :=
      List.map_flatMap.symm
    simp only [List.flatMap_cons,List.flatMap_append,List.length_append]
    rw [flatMap_undecodable passage.texts,flatMap_undecodable passage.rendered,links,List.length_map,List.length_map,
      List.length_map]
    refine ⟨(part.map _).append parts,?_⟩
    omega

/-- All that is undecodable is in the texts if nothing of it is in links. -/
theorem texts_kept_iff {passages : List Passage} (reads : ∀ passage ∈ passages, passage.Reads) :
    (passages.flatMap Passage.texts).flatMap undecodable = (passages.flatMap Passage.rendered).flatMap undecodable ↔
      ∀ passage ∈ passages, ∀ link ∈ passage.links, undecodable link.matched = [] := by
  obtain ⟨part,count⟩ := texts_part reads
  have none : (passages.flatMap Passage.links).flatMap (fun link => undecodable link.matched) = [] ↔
      ∀ passage ∈ passages, ∀ link ∈ passage.links, undecodable link.matched = [] := by
    simp only [List.flatMap_eq_nil_iff,List.mem_flatMap,forall_exists_index,and_imp]
    exact ⟨fun free passage member link own => free link passage member own,
      fun free link passage member own => free passage member link own⟩
  rw [← none,← List.length_eq_zero_iff]
  constructor
  · intro same
    have sizes := congrArg List.length same
    omega
  · exact fun free => part.eq_of_length (by omega)

/-! ## Rendering -/

section
variable {σ ε : Type}

/-- The undecodable bytes of what is appended, in the texts. -/
def Part.kept : Part → List UInt8
  | .text written => Lcd.undecodable written
  | .image _ => []

/-- The images of links, one after the other. -/
def call_images (render_image : RenderImage σ ε) : List Link → σ → Except ε σ
  | [], s => .ok s
  | link :: rest, s => do
    let (_,s) ← render_image link.target s
    call_images render_image rest s

variable {render_image : RenderImage σ ε}

theorem bind_ok {α β δ : Type} {x : Except δ α} {f : α → Except δ β} {result : β} :
    x >>= f = .ok result ↔ ∃ a, x = .ok a ∧ f a = .ok result := by
  cases x with
  | ok a => simp [bind,Except.bind]
  | error err => simp [bind,Except.bind]

theorem call_images_cons (link : Link) (rest : List Link) (s s' : σ) : call_images render_image (link :: rest) s = .ok s' ↔
    ∃ bytes between, render_image link.target s = .ok (bytes,between) ∧ call_images render_image rest between = .ok s' := by
  rw [call_images,bind_ok]
  exact ⟨fun ⟨image,called,later⟩ => ⟨image.1,image.2,called,later⟩,
    fun ⟨bytes,between,called,later⟩ => ⟨(bytes,between),called,later⟩⟩

theorem call_images_append (links more : List Link) (s s' : σ) : call_images render_image (links ++ more) s = .ok s' ↔
    ∃ between, call_images render_image links s = .ok between ∧ call_images render_image more between = .ok s' := by
  induction links generalizing s with
  | nil => simp [call_images]
  | cons link links ih =>
    simp only [List.cons_append,call_images_cons,ih]
    exact ⟨fun ⟨bytes,first,called,between,before,after⟩ => ⟨between,⟨bytes,first,called,before⟩,after⟩,
      fun ⟨between,⟨bytes,first,called,before⟩,after⟩ => ⟨bytes,first,called,between,before,after⟩⟩

theorem append_escaped_ok {text : Str} (escaped : Escaped text) :
    (append_escaped text : Except (Raised ε) Part) = .ok (.text text) := by
  rw [append_escaped,encode_escaped_ok escaped]

theorem append_strict_iff {text : Str} (escaped : Escaped text) {part : Part} :
    (append_strict text : Except (Raised ε) Part) = .ok part ↔ undecodable text = [] ∧ part = .text text := by
  rw [append_strict]
  by_cases none : undecodable text = []
  · rw [encode_strict_ok escaped none]
    simp [none,eq_comm]
  · obtain ⟨err,raised⟩ := encode_strict_error none
    rw [raised]
    simp [none]

theorem append_image_iff {link : Link} {s s' : σ} {part : Part} : append_image render_image link s = .ok (part,s') ↔
    ∃ bytes, render_image link.target s = .ok (bytes,s') ∧ part = .image bytes := by
  rw [append_image]
  cases called : render_image link.target s with
  | error err => simp
  | ok image =>
    obtain ⟨bytes,after⟩ := image
    simp [eq_comm,and_comm]

theorem render_segments_cons {text : Str} (escaped : Escaped text) (link : Link) (rest : List (Str × Link)) (s s' : σ)
    (parts : List Part) : render_segments render_image ((text,link) :: rest) s = .ok (parts,s') ↔
      ∃ bytes between later, render_image link.target s = .ok (bytes,between) ∧
        render_segments render_image rest between = .ok (later,s') ∧ parts = .text text :: .image bytes :: later := by
  rw [render_segments,append_escaped_ok escaped]
  simp only [bind_ok,Except.ok.injEq,exists_eq_left',Prod.exists,append_image_iff]
  constructor
  · rintro ⟨_,between,⟨bytes,called,rfl⟩,later,_,rendered,same⟩
    cases same
    exact ⟨bytes,between,later,called,rendered,rfl⟩
  · rintro ⟨bytes,between,later,called,rendered,rfl⟩
    exact ⟨_,between,⟨bytes,called,rfl⟩,later,s',rendered,rfl⟩

/-- Between the links nothing but their images can fail. -/
theorem render_segments_iff {segments : List (Str × Link)} (escaped : ∀ text ∈ segments.map (·.1), Escaped text) (s s' : σ) :
    (∃ parts, render_segments render_image segments s = .ok (parts,s')) ↔
      call_images render_image (segments.map (·.2)) s = .ok s' := by
  induction segments generalizing s with
  | nil => simp [render_segments,call_images]
  | cons segment segments ih =>
    obtain ⟨text,link⟩ := segment
    obtain ⟨here,later⟩ := List.forall_mem_cons.mp escaped
    rw [List.map_cons,call_images_cons]
    constructor
    · rintro ⟨parts,rendered⟩
      obtain ⟨bytes,between,rest,called,rendered,-⟩ := (render_segments_cons here link segments s s' parts).mp rendered
      exact ⟨bytes,between,called,(ih later between).mp ⟨rest,rendered⟩⟩
    · rintro ⟨bytes,between,called,images⟩
      obtain ⟨rest,rendered⟩ := (ih later between).mpr images
      exact ⟨_,(render_segments_cons here link segments s s' _).mpr ⟨bytes,between,rest,called,rendered,rfl⟩⟩

theorem render_segments_kept {segments : List (Str × Link)} (escaped : ∀ text ∈ segments.map (·.1), Escaped text)
    {s s' : σ} {parts : List Part} (rendered : render_segments render_image segments s = .ok (parts,s')) :
    parts.flatMap Part.kept = (segments.map (·.1)).flatMap undecodable := by
  induction segments generalizing s parts with
  | nil =>
    cases rendered
    rfl
  | cons segment segments ih =>
    obtain ⟨text,link⟩ := segment
    obtain ⟨here,later⟩ := List.forall_mem_cons.mp escaped
    obtain ⟨bytes,between,rest,-,more,rfl⟩ := (render_segments_cons here link segments s s' parts).mp rendered
    show undecodable text ++ rest.flatMap Part.kept = undecodable text ++ (segments.map (·.1)).flatMap undecodable
    rw [ih later more]

theorem render_plain_iff {line : Str} (escaped : ∀ text ∈ (Passage.plain line).texts, Escaped text) (s s' : σ)
    (parts : List Part) : render_passage render_image (.plain line) s = .ok (parts,s') ↔
      ∃ front, render_segments render_image (segments MARKDOWN_IMAGE_RE line).1 s = .ok (front,s') ∧
        parts = front ++ [.text (segments MARKDOWN_IMAGE_RE line).2] := by
  have last : Escaped (segments MARKDOWN_IMAGE_RE line).2 := escaped _ (List.mem_append_right _ List.mem_cons_self)
  rw [render_passage]
  simp only [bind_ok,append_escaped_ok last,Except.ok.injEq,exists_eq_left',Prod.exists]
  constructor
  · rintro ⟨front,_,rendered,same⟩
    cases same
    exact ⟨front,rendered,rfl⟩
  · rintro ⟨front,rendered,rfl⟩
    exact ⟨front,s',rendered,rfl⟩

/-- A passage is rendered if the handler is not missed, and its images are. -/
theorem render_passage_iff {passage : Passage} (reads : passage.Reads) (escaped : ∀ line ∈ passage.lines, Escaped line)
    (s s' : σ) : (∃ parts, render_passage render_image passage s = .ok (parts,s')) ↔
      (∀ line ∈ passage.strict, undecodable line = []) ∧ call_images render_image passage.links s = .ok s' := by
  have written := texts_escaped reads escaped
  have strict : ∀ {text : Str}, passage.texts = [text] → passage.strict = passage.rendered → passage.links = [] →
      ((∃ parts, (do return ([← append_strict text],s) : Except (Raised ε) (List Part × σ)) = .ok (parts,s')) ↔
        (∀ line ∈ passage.strict, undecodable line = []) ∧ call_images render_image passage.links s = .ok s') := by
    intro text single lines none
    have one : ∀ other ∈ [passage], other.Reads := by simpa using reads
    have alone := (texts_kept_iff one).mpr (by simp [none])
    simp only [List.flatMap_singleton,single] at alone
    have clean : undecodable text = [] ↔ ∀ line ∈ passage.strict, undecodable line = [] := by
      rw [alone,lines,List.flatMap_eq_nil_iff]
    rw [single] at written
    rw [← clean,none]
    simp only [bind_ok,append_strict_iff (written text List.mem_cons_self),call_images]
    constructor
    · rintro ⟨parts,_,⟨free,rfl⟩,same⟩
      cases same
      exact ⟨free,rfl⟩
    · rintro ⟨free,same⟩
      cases same
      exact ⟨_,_,⟨free,rfl⟩,rfl⟩
  cases passage with
  | opening line =>
    rw [render_passage,append_escaped_ok (written _ List.mem_cons_self)]
    simp [Passage.strict,Passage.links,call_images]
  | closing line => simp [render_passage,Passage.strict,Passage.links,call_images]
  | fenced line =>
    rw [render_passage,append_escaped_ok (written _ List.mem_cons_self)]
    simp [Passage.strict,Passage.links,call_images]
  | heading line title => exact strict rfl rfl rfl
  | table header separator rows => exact strict rfl rfl rfl
  | image line link =>
    simp only [Passage.strict,Passage.links,call_images,render_passage,bind_ok,Prod.exists,append_image_iff]
    constructor
    · rintro ⟨parts,_,between,⟨bytes,called,rfl⟩,same⟩
      cases same
      exact ⟨by simp,bytes,s',called,rfl⟩
    · rintro ⟨-,bytes,between,called,same⟩
      cases same
      exact ⟨_,_,s',⟨bytes,called,rfl⟩,rfl⟩
  | plain line =>
    have texts : ∀ text ∈ (segments MARKDOWN_IMAGE_RE line).1.map (·.1), Escaped text :=
      fun text member => written text (List.mem_append_left _ member)
    simp only [Passage.strict,Passage.links,← render_segments_iff texts,render_plain_iff written]
    simp

theorem render_passage_kept {passage : Passage} (reads : passage.Reads) (escaped : ∀ line ∈ passage.lines, Escaped line)
    {s s' : σ} {parts : List Part} (rendered : render_passage render_image passage s = .ok (parts,s')) :
    parts.flatMap Part.kept = passage.texts.flatMap undecodable := by
  have written := texts_escaped reads escaped
  have strict : ∀ {text : Str}, Escaped text →
      (do return ([← append_strict text],s) : Except (Raised ε) (List Part × σ)) = .ok (parts,s') →
        parts.flatMap Part.kept = [text].flatMap undecodable := by
    intro text escaped written
    obtain ⟨part,appended,same⟩ := bind_ok.mp written
    obtain ⟨-,rfl⟩ := (append_strict_iff escaped).mp appended
    cases same
    rfl
  cases passage with
  | opening line =>
    rw [render_passage,append_escaped_ok (written _ List.mem_cons_self)] at rendered
    cases rendered
    rfl
  | closing line =>
    cases rendered
    rfl
  | fenced line =>
    rw [render_passage,append_escaped_ok (written _ List.mem_cons_self)] at rendered
    cases rendered
    rfl
  | heading line title => exact strict (written _ List.mem_cons_self) rendered
  | table header separator rows => exact strict (written _ List.mem_cons_self) rendered
  | image line link =>
    simp only [render_passage,bind_ok,Prod.exists,append_image_iff] at rendered
    obtain ⟨_,between,⟨bytes,-,rfl⟩,same⟩ := rendered
    cases same
    rfl
  | plain line =>
    obtain ⟨front,between,rfl⟩ := (render_plain_iff written s s' parts).mp rendered
    have texts : ∀ text ∈ (segments MARKDOWN_IMAGE_RE line).1.map (·.1), Escaped text :=
      fun text member => written text (List.mem_append_left _ member)
    rw [List.flatMap_append,render_segments_kept texts between,Passage.texts,List.flatMap_append]
    rfl

theorem render_passages_cons (passage : Passage) (rest : List Passage) (s s' : σ) (parts : List Part) :
    render_passages render_image (passage :: rest) s = .ok (parts,s') ↔
      ∃ first between later, render_passage render_image passage s = .ok (first,between) ∧
        render_passages render_image rest between = .ok (later,s') ∧ parts = first ++ later := by
  simp only [render_passages,bind_ok,Prod.exists]
  constructor
  · rintro ⟨first,between,here,later,_,rendered,same⟩
    cases same
    exact ⟨first,between,later,here,rendered,rfl⟩
  · rintro ⟨first,between,later,here,rendered,rfl⟩
    exact ⟨first,between,here,later,s',rendered,rfl⟩

theorem render_passages_iff {passages : List Passage} (reads : ∀ passage ∈ passages, passage.Reads)
    (escaped : ∀ passage ∈ passages, ∀ line ∈ passage.lines, Escaped line) (s s' : σ) :
    (∃ parts, render_passages render_image passages s = .ok (parts,s')) ↔
      (∀ passage ∈ passages, ∀ line ∈ passage.strict, undecodable line = []) ∧
        call_images render_image (passages.flatMap Passage.links) s = .ok s' := by
  induction passages generalizing s with
  | nil => simp [render_passages,call_images]
  | cons passage rest ih =>
    obtain ⟨reads_here,reads_later⟩ := List.forall_mem_cons.mp reads
    obtain ⟨here,later⟩ := List.forall_mem_cons.mp escaped
    rw [List.forall_mem_cons,List.flatMap_cons,call_images_append]
    constructor
    · rintro ⟨parts,rendered⟩
      obtain ⟨first,between,others,one,more,-⟩ := (render_passages_cons passage rest s s' parts).mp rendered
      obtain ⟨clean,called⟩ := (render_passage_iff reads_here here s between).mp ⟨first,one⟩
      obtain ⟨cleans,images⟩ := (ih reads_later later between).mp ⟨others,more⟩
      exact ⟨⟨clean,cleans⟩,between,called,images⟩
    · rintro ⟨⟨clean,cleans⟩,between,called,images⟩
      obtain ⟨first,one⟩ := (render_passage_iff reads_here here s between).mpr ⟨clean,called⟩
      obtain ⟨others,more⟩ := (ih reads_later later between).mpr ⟨cleans,images⟩
      exact ⟨_,(render_passages_cons passage rest s s' _).mpr ⟨first,between,others,one,more,rfl⟩⟩

theorem render_passages_kept {passages : List Passage} (reads : ∀ passage ∈ passages, passage.Reads)
    (escaped : ∀ passage ∈ passages, ∀ line ∈ passage.lines, Escaped line) {s s' : σ} {parts : List Part}
    (rendered : render_passages render_image passages s = .ok (parts,s')) :
    parts.flatMap Part.kept = (passages.flatMap Passage.texts).flatMap undecodable := by
  induction passages generalizing s parts with
  | nil =>
    cases rendered
    rfl
  | cons passage rest ih =>
    obtain ⟨reads_here,reads_later⟩ := List.forall_mem_cons.mp reads
    obtain ⟨here,later⟩ := List.forall_mem_cons.mp escaped
    obtain ⟨first,between,others,one,more,rfl⟩ := (render_passages_cons passage rest s s' parts).mp rendered
    rw [List.flatMap_append,render_passage_kept reads_here here one,ih reads_later later more,List.flatMap_cons,
      List.flatMap_append]

/-- The undecodable bytes of a text stand in what it is encoded to. -/
theorem kept_bytes (part : Part) : part.kept.Sublist part.bytes := by
  cases part with
  | image bytes => exact List.nil_sublist _
  | text written =>
    show (undecodable written).Sublist (encode written)
    induction written with
    | nil => exact List.nil_sublist _
    | cons c written ih =>
      by_cases escape : is_escape c = true
      · have range : 0xdc80 ≤ c ∧ c ≤ 0xdcff := by simpa [is_escape] using escape
        have byte : encode_char c = [UInt8.ofNat (c - 0xdc00)] := by
          rw [encode_char,if_neg (by omega),if_neg (by omega),if_pos range]
        rw [undecodable,List.filter_cons_of_pos escape,encode,List.flatMap_cons,byte]
        exact ih.cons_cons _
      · rw [undecodable,List.filter_cons_of_neg escape]
        exact ih.trans (List.sublist_append_right _ _)

/-! ## A chunk -/

theorem chunk_lines_escaped (chunk : List UInt8) : ∀ passage ∈ chunk_passages chunk, ∀ line ∈ passage.lines, Escaped line := by
  intro passage member line own c inside
  have there : line ∈ splitlines (decode chunk) := by
    rw [← chunk_passages_lines]
    exact List.mem_flatMap.mpr ⟨passage,member,own⟩
  refine decode_escaped chunk c ?_
  rw [← Lines.split_flatten breaks (decode chunk)]
  exact List.mem_flatten.mpr ⟨line,there,inside⟩

/-- No heading and no table has an undecodable byte. -/
def StrictDecodable (chunk : List UInt8) : Prop :=
  ∀ passage ∈ chunk_passages chunk, ∀ line ∈ passage.strict, undecodable line = []

/-- No link has an undecodable byte. -/
def LinksDecodable (chunk : List UInt8) : Prop :=
  ∀ passage ∈ chunk_passages chunk, ∀ link ∈ passage.links, undecodable link.matched = []

/-- The callback returns for the images of a chunk, one after the other. -/
def ImagesReturn (render_image : RenderImage σ ε) (chunk : List UInt8) (s : σ) : Prop :=
  ∃ s', call_images render_image ((chunk_passages chunk).flatMap Passage.links) s = .ok s'

/-- The chunk is rendered, and the undecodable bytes of the lines that are rendered are those of its texts, in their order. -/
def Preserving (render_image : RenderImage σ ε) (chunk : List UInt8) (s : σ) : Prop :=
  ∃ parts s', render_passages render_image (chunk_passages chunk) s = .ok (parts,s') ∧
    render_text_chunk chunk render_image s = .ok (parts.flatMap Part.bytes,s') ∧
      parts.flatMap Part.kept = ((chunk_passages chunk).flatMap Passage.rendered).flatMap undecodable

/-- These bytes are then in the output. -/
theorem Preserving.appear {chunk : List UInt8} {s : σ} (preserving : Preserving render_image chunk s) : ∃ bytes s',
    render_text_chunk chunk render_image s = .ok (bytes,s') ∧
      (((chunk_passages chunk).flatMap Passage.rendered).flatMap undecodable).Sublist bytes := by
  obtain ⟨parts,s',-,returned,kept⟩ := preserving
  refine ⟨_,s',returned,?_⟩
  rw [← kept]
  clear kept returned
  induction parts with
  | nil => exact List.Sublist.refl _
  | cons part parts ih => exact (kept_bytes part).append ih

theorem render_text_chunk_ok (chunk : List UInt8) (s s' : σ) (bytes : List UInt8) :
    render_text_chunk chunk render_image s = .ok (bytes,s') ↔
      ∃ parts, render_passages render_image (chunk_passages chunk) s = .ok (parts,s') ∧ bytes = parts.flatMap Part.bytes := by
  simp only [render_text_chunk,bind_ok,Prod.exists]
  constructor
  · rintro ⟨parts,_,rendered,same⟩
    cases same
    exact ⟨parts,rendered,rfl⟩
  · rintro ⟨parts,rendered,rfl⟩
    exact ⟨parts,s',rendered,rfl⟩

/-- A chunk is rendered exactly when its headings and tables have no undecodable byte and the callback returns, and
    keeps its undecodable bytes exactly when no link has one either. -/
theorem render_text_chunk_iff (render_image : RenderImage σ ε) (chunk : List UInt8) (s : σ) :
    ((∃ bytes s', render_text_chunk chunk render_image s = .ok (bytes,s')) ↔
        StrictDecodable chunk ∧ ImagesReturn render_image chunk s) ∧
      (Preserving render_image chunk s ↔
        StrictDecodable chunk ∧ ImagesReturn render_image chunk s ∧ LinksDecodable chunk) := by
  have reads := chunk_passages_reads chunk
  have escaped := chunk_lines_escaped chunk
  have rendering : ∀ s', (∃ parts, render_passages render_image (chunk_passages chunk) s = .ok (parts,s')) ↔
      StrictDecodable chunk ∧ call_images render_image ((chunk_passages chunk).flatMap Passage.links) s = .ok s' :=
    render_passages_iff reads escaped s
  constructor
  · simp only [render_text_chunk_ok]
    constructor
    · rintro ⟨bytes,s',parts,rendered,-⟩
      obtain ⟨strict,images⟩ := (rendering s').mp ⟨parts,rendered⟩
      exact ⟨strict,s',images⟩
    · rintro ⟨strict,s',images⟩
      obtain ⟨parts,rendered⟩ := (rendering s').mpr ⟨strict,images⟩
      exact ⟨_,s',parts,rendered,rfl⟩
  · constructor
    · rintro ⟨parts,s',rendered,-,kept⟩
      obtain ⟨strict,images⟩ := (rendering s').mp ⟨parts,rendered⟩
      rw [render_passages_kept reads escaped rendered,texts_kept_iff reads] at kept
      exact ⟨strict,⟨s',images⟩,kept⟩
    · rintro ⟨strict,⟨s',images⟩,links⟩
      obtain ⟨parts,rendered⟩ := (rendering s').mpr ⟨strict,images⟩
      refine ⟨parts,s',rendered,(render_text_chunk_ok chunk s s' _).mpr ⟨parts,rendered,rfl⟩,?_⟩
      rw [render_passages_kept reads escaped rendered]
      exact (texts_kept_iff reads).mpr links

/-- A byte that is no text raises in a heading and in a table, and is kept in a plain line. -/
theorem undecodable_raises :
    let render_image : RenderImage Unit Empty := fun _ s => .ok ([],s)
    render_text_chunk [0x23,0x20,0xff] render_image () = .error (.encode ⟨0xdcff⟩) ∧
      render_text_chunk [0x61,0x7c,0xff,0x0a,0x2d,0x2d,0x2d,0x7c,0x2d,0x2d,0x2d] render_image () = .error (.encode ⟨0xdcff⟩) ∧
      render_text_chunk [0x61,0xff] render_image () = .ok ([0x61,0xff],()) := by
  refine ⟨?_,?_,?_⟩
  · rfl
  · rfl
  · rfl

end

end VibeBridge.Python.SendMarkdown
