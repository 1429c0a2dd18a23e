import Rosmon.Library.Sequences

namespace Rosmon.Library.Html

/-- A tag that is being read. -/
@[ext]
structure Tag where
  closing : Bool
  name : List Char
  attributes : List (List Char × List Char)
  deriving DecidableEq

inductive Token
  | doctype
  | start (name : List Char) (attributes : List (List Char × List Char))
  | stop (name : List Char)
  | char (c : Char)
  deriving DecidableEq

/-- Where the tokenizer is, between two references. The text of a `title` or a `style` is read up
to its end tag, of which `seen` may be the start; that of a `title` has references. What is outside
the part of HTML that is here ends in `unknown`. -/
inductive Mode
  | data
  | tagOpen
  | endTagOpen
  | declaration (text : List Char)
  | tagName (tag : Tag)
  | beforeAttributeName (tag : Tag)
  | attributeName (tag : Tag) (name : List Char)
  | beforeAttributeValue (tag : Tag) (name : List Char)
  | attributeValue (tag : Tag) (name value : List Char)
  | selfClosing (tag : Tag)
  | raw (references : Bool) (name seen : List Char)
  | unknown
  deriving DecidableEq

/-- The tokenizer of HTML, with what it has read of a reference. -/
structure State where
  mode : Mode
  reference : Option (List Char)
  deriving DecidableEq

def start : State := ⟨.data, none⟩

/-- The character that a reference is for. -/
def decode (name : List Char) : Option Char :=
  match name with
  | '#' :: digits =>
    let n := digits.foldl (fun n c ↦ n * 10 + (c.toNat - '0'.toNat)) 0
    if digits.all Char.isDigit ∧ 32 ≤ n ∧ n < 127 then some (Char.ofNat n) else none
  | ['a', 'm', 'p'] => some '&'
  | ['l', 't'] => some '<'
  | ['g', 't'] => some '>'
  | ['q', 'u', 'o', 't'] => some '"'
  | _ => none

def isSpace (c : Char) : Bool := c = ' ' || c = '\n' || c = '\t' || c = '\x0c'

def orReplacement (c : Char) : Char := if c = '\x00' then '\uFFFD' else c

/-- The elements that the tokenizer does not read the content of as it does here. -/
def special : List (List Char) :=
  ["script", "textarea", "xmp", "iframe", "noembed", "noframes", "noscript", "plaintext", "svg",
    "math"].map String.toList

namespace Mode

/-- Text, each of its characters for itself. -/
def putAll (m : Mode) (text : List Char) : Mode × List Token :=
  match m with
  | attributeValue tag name value =>
    (attributeValue tag name (value ++ text.map orReplacement), [])
  | raw references name seen =>
    (raw references name [], (seen ++ text.map orReplacement).map .char)
  | m => (m, text.map .char)

def put (m : Mode) (c : Char) : Mode × List Token := m.putAll [c]

def close (tag : Tag) : Mode × List Token :=
  if tag.closing then (data, [.stop tag.name])
  else if tag.name ∈ special then (unknown, [])
  else if tag.name = "style".toList then
    (raw false tag.name [], [.start tag.name tag.attributes])
  else if tag.name = "title".toList then
    (raw true tag.name [], [.start tag.name tag.attributes])
  else (data, [.start tag.name tag.attributes])

def endOf (name : List Char) : List Char := '<' :: '/' :: name ++ ['>']

/-- A character that is not part of a reference and starts none. -/
def feed (m : Mode) (c : Char) : Mode × List Token :=
  match m with
  | data => if c = '<' then (tagOpen, []) else data.put c
  | tagOpen =>
    if c = '!' then (declaration [], [])
    else if c = '/' then (endTagOpen, [])
    else if c.isAlpha then (tagName ⟨false, [c.toLower], []⟩, [])
    else (unknown, [])
  | endTagOpen => if c.isAlpha then (tagName ⟨true, [c.toLower], []⟩, []) else (unknown, [])
  | declaration text =>
    if c ≠ '>' then (declaration (text ++ [c.toLower]), [])
    else if text = "doctype html".toList then (data, [.doctype])
    else (unknown, [])
  | tagName tag =>
    if isSpace c then (beforeAttributeName tag, [])
    else if c = '/' then (selfClosing tag, [])
    else if c = '>' then close tag
    else (tagName { tag with name := tag.name ++ [c.toLower] }, [])
  | beforeAttributeName tag =>
    if isSpace c then (m, [])
    else if c = '/' then (selfClosing tag, [])
    else if c = '>' then close tag
    else if c = '=' then (unknown, [])
    else (attributeName tag [c.toLower], [])
  | attributeName tag name =>
    if c = '=' then
      if name ∈ tag.attributes.map Prod.fst then (unknown, [])
      else (beforeAttributeValue tag name, [])
    else if isSpace c || c = '/' || c = '>' then (unknown, [])
    else (attributeName tag (name ++ [c.toLower]), [])
  | beforeAttributeValue tag name =>
    if isSpace c then (m, [])
    else if c = '"' then (attributeValue tag name [], [])
    else (unknown, [])
  | attributeValue tag name value =>
    if c = '"' then
      (beforeAttributeName { tag with attributes := tag.attributes ++ [(name, value)] }, [])
    else (attributeValue tag name value).put c
  | selfClosing tag => if c = '>' then close tag else (unknown, [])
  | raw references name seen =>
    let read := seen ++ [c]
    if read.map Char.toLower = endOf name then (data, [.stop name])
    else if (read.map Char.toLower).isPrefixOf (endOf name) then (raw references name read, [])
    else if seen.length = name.length + 2 ∧ (isSpace c ∨ c = '/') then (unknown, [])
    else if c = '<' then (raw references name ['<'], seen.map .char)
    else (raw references name seen).put c
  | unknown => (unknown, [])

def hasReferences : Mode → Bool
  | data | attributeValue .. => true
  | raw references _ _ => references
  | _ => false

end Mode

/-- One character of the stream, after its newlines were made one kind. -/
def State.step (s : State) (c : Char) : State × List Token :=
  match s.reference with
  | some name =>
    if c.isAlphanum || c = '#' then (⟨s.mode, some (name ++ [c])⟩, [])
    else
      match if c = ';' then decode name else none with
      | some d => (⟨(s.mode.put d).1, none⟩, (s.mode.put d).2)
      | none => (⟨.unknown, none⟩, [])
  | none =>
    if c = '&' ∧ s.mode.hasReferences then (⟨s.mode, some []⟩, [])
    else (⟨(s.mode.feed c).1, none⟩, (s.mode.feed c).2)

def State.read (s : State) (cs : List Char) : State × List Token := thread State.step s cs

section Escape

def escapeChar (c : Char) : List Char :=
  match c with
  | '&' => "&amp;".toList
  | '<' => "&lt;".toList
  | '>' => "&gt;".toList
  | '"' => "&quot;".toList
  | '\'' => "&#039;".toList
  | c => [c]

def escape (text : List Char) : List Char := text.flatMap escapeChar

/-- Where a reference stands for its character, and no other character has a meaning that
`escape` leaves it. -/
def Mode.takesText : Mode → Bool
  | .data | .attributeValue .. => true
  | .raw references _ seen => references && seen.isEmpty
  | _ => false

namespace Mode

variable {m : Mode}

theorem putAll_nil (h : m.takesText) : m.putAll [] = (m, []) := by
  cases m <;> simp_all [takesText, putAll]

theorem putAll_cons (m : Mode) (c : Char) (text : List Char) :
    m.putAll (c :: text) =
      (((m.put c).1.putAll text).1, (m.put c).2 ++ ((m.put c).1.putAll text).2) := by
  cases m <;> simp [put, putAll]

theorem takesText_put (h : m.takesText) (c : Char) : (m.put c).1.takesText := by
  cases m <;> simp_all [takesText, put, putAll]

theorem hasReferences_of_takesText (h : m.takesText) : m.hasReferences := by
  cases m <;> simp_all [takesText, hasReferences]

theorem toLower_ne {c : Char} (h : c ≠ '<') : c.toLower ≠ '<' := by
  unfold Char.toLower
  split
  next upper =>
    intro heq
    have sum := congrArg (·.val.toNat) heq
    have low := UInt32.le_iff_toNat_le.mp upper.1
    have high := UInt32.le_iff_toNat_le.mp upper.2
    simp at sum low high
    omega
  next => exact h

theorem feed_eq (h : m.takesText) {c : Char} (hc : c ≠ '<') (hq : c ≠ '"') :
    m.feed c = m.put c := by
  cases m with
  | data => simp [feed, hc]
  | attributeValue tag name value => simp [feed, hq]
  | raw references name seen =>
    simp only [takesText, Bool.and_eq_true, List.isEmpty_iff] at h
    obtain ⟨-, rfl⟩ := h
    simp [feed, endOf, hc, toLower_ne hc]
  | _ => simp [takesText] at h

end Mode

namespace State

/-- The state after text, and the text. -/
def putAll (s : State) (text : List Char) : State × List Token :=
  (⟨(s.mode.putAll text).1, s.reference⟩, (s.mode.putAll text).2)

def put (s : State) (c : Char) : State × List Token :=
  (⟨(s.mode.put c).1, s.reference⟩, (s.mode.put c).2)

theorem putAll_cons (s : State) (c : Char) (text : List Char) :
    s.putAll (c :: text) =
      (((s.put c).1.putAll text).1, (s.put c).2 ++ ((s.put c).1.putAll text).2) := by
  unfold putAll
  rw [Mode.putAll_cons]
  rfl

theorem read_reference {m : Mode} (h : m.takesText) (name : List Char) {d : Char}
    (hname : ∀ c ∈ name, c.isAlphanum ∨ c = '#') (hd : decode name = some d) :
    (⟨m, none⟩ : State).read ('&' :: name ++ [';']) = (⟨m, none⟩ : State).put d := by
  have collect (read rest : List Char) (hrest : ∀ c ∈ rest, c.isAlphanum ∨ c = '#') :
      thread step ⟨m, some read⟩ rest = (⟨m, some (read ++ rest)⟩, []) := by
    induction rest generalizing read with
    | nil => simp
    | cons c rest ih =>
      have hc := hrest c List.mem_cons_self
      simp [step, hc, ih _ fun c hc ↦ hrest c (List.mem_cons_of_mem _ hc)]
  have first : step ⟨m, none⟩ '&' = (⟨m, some []⟩, []) := by
    simp [step, Mode.hasReferences_of_takesText h]
  have last : step ⟨m, some name⟩ ';' = (⟨m, none⟩ : State).put d := by
    simp [step, hd, put, show Char.isAlphanum ';' = false from rfl]
  unfold read
  rw [List.cons_append, thread_cons, thread_append, first, collect [] name hname]
  simp [last]

theorem read_escapeChar {m : Mode} (h : m.takesText) (c : Char) :
    (⟨m, none⟩ : State).read (escapeChar c) = (⟨m, none⟩ : State).put c := by
  unfold escapeChar
  split
  · exact read_reference h "amp".toList (by simp) rfl
  · exact read_reference h "lt".toList (by simp) rfl
  · exact read_reference h "gt".toList (by simp) rfl
  · exact read_reference h "quot".toList (by simp) rfl
  · exact read_reference h "#039".toList (by simp) rfl
  · next hand hlt hgt hquot hapos =>
    have plain : step ⟨m, none⟩ c = (⟨m, none⟩ : State).put c := by
      simp only [step, Mode.feed_eq h hlt hquot, put]
      exact if_neg fun h ↦ hand h.1
    simp [read, plain]

/-- Escaped text is read as the text. -/
theorem read_escape {m : Mode} (h : m.takesText) (text : List Char) :
    (⟨m, none⟩ : State).read (escape text) = (⟨m, none⟩ : State).putAll text := by
  induction text generalizing m with
  | nil => simp [escape, read, putAll, Mode.putAll_nil h]
  | cons c text ih =>
    have first := read_escapeChar h c
    have rest := ih (Mode.takesText_put h c)
    unfold read at first rest ⊢
    rw [escape, List.flatMap_cons, thread_append, first, ← escape]
    rw [putAll_cons, show (put ⟨m, none⟩ c).1 = ⟨(m.put c).1, none⟩ from rfl, rest]

end State

end Escape

section Templates

/-- What a page is put together from: markup as it is written, and text that is escaped. -/
inductive Piece
  | markup (m : List Char)
  | text (value : String)

def Piece.written : Piece → List Char
  | markup m => m
  | text value => escape value.toList

@[simp]
theorem Piece.markup_written (m : List Char) : (Piece.markup m).written = m := rfl

@[simp]
theorem Piece.text_written (value : String) : (Piece.text value).written = escape value.toList := rfl

namespace State

/-- A page that is read as it was meant: the markup by the tokenizer, the text as text. -/
def accept (s : State) : Piece → State × List Token
  | .markup m => s.read m
  | .text value => s.putAll value.toList

def fits (s : State) : Piece → Bool
  | .markup _ => true
  | .text _ => s.reference.isNone && s.mode.takesText

/-- Each text is where text can be. -/
def placed (s : State) : List Piece → Bool
  | [] => true
  | p :: ps => s.fits p && (s.accept p).1.placed ps

theorem read_written_of_fits {s : State} {p : Piece} (h : s.fits p) :
    s.read p.written = s.accept p := by
  cases p with
  | markup m => rfl
  | text value =>
    rcases s with ⟨m, reference⟩
    simp only [fits, Bool.and_eq_true, Option.isNone_iff_eq_none] at h
    obtain ⟨rfl, h⟩ := h
    exact read_escape h value.toList

/-- Where each text is placed well, the page is read as it was meant. -/
theorem read_page {s : State} {page : List Piece} (h : s.placed page) :
    s.read (page.flatMap Piece.written) = thread accept s page := by
  induction page generalizing s with
  | nil => rfl
  | cons p page ih =>
    simp only [placed, Bool.and_eq_true] at h
    have first := read_written_of_fits h.1
    have rest := ih h.2
    unfold read at first rest ⊢
    rw [List.flatMap_cons, thread_append, first, rest, thread_cons]

theorem placed_append (s : State) (page rest : List Piece) :
    s.placed (page ++ rest) = (s.placed page && (thread accept s page).1.placed rest) := by
  induction page generalizing s with
  | nil => rfl
  | cons p page ih => simp [placed, ih, Bool.and_assoc]

end State

end Templates

section Hidden

/-- A tag but for the values of its attributes. -/
def Tag.hide (t : Tag) : Tag := { t with attributes := t.attributes.map fun a ↦ (a.1, []) }

def Mode.hide : Mode → Mode
  | .tagName tag => .tagName tag.hide
  | .beforeAttributeName tag => .beforeAttributeName tag.hide
  | .attributeName tag name => .attributeName tag.hide name
  | .beforeAttributeValue tag name => .beforeAttributeValue tag.hide name
  | .attributeValue tag name _ => .attributeValue tag.hide name []
  | .selfClosing tag => .selfClosing tag.hide
  | m => m

def State.hide (s : State) : State := ⟨s.mode.hide, s.reference⟩

/-- A token of markup but for the values of its attributes. -/
def Token.shape? : Token → Option Token
  | .char _ => none
  | .start name attributes => some (.start name (attributes.map fun a ↦ (a.1, [])))
  | t => some t

/-- The markup of a page but for the values of its attributes. -/
def shape (tokens : List Token) : List Token := tokens.filterMap Token.shape?

def Piece.hide : Piece → Piece
  | markup m => markup m
  | text _ => text ""

@[simp]
theorem Piece.hide_hide (p : Piece) : p.hide.hide = p.hide := by cases p <;> rfl

@[simp]
theorem shape_nil : shape [] = [] := rfl

@[simp]
theorem shape_append (ts us : List Token) : shape (ts ++ us) = shape ts ++ shape us :=
  List.filterMap_append

@[simp]
theorem shape_chars (text : List Char) : shape (text.map .char) = [] := by
  simp [shape, Token.shape?]

@[simp]
theorem Tag.names_hide (t : Tag) : t.hide.attributes.map Prod.fst = t.attributes.map Prod.fst := by
  simp [hide]

@[simp]
theorem Tag.hide_hide (t : Tag) : t.hide.hide = t.hide := by simp [hide]

namespace Mode

@[simp]
theorem hide_hide (m : Mode) : m.hide.hide = m.hide := by cases m <;> simp [hide]

theorem putAll_hide (m : Mode) (text : List Char) :
    (m.putAll text).1.hide = (m.hide.putAll []).1.hide ∧ shape (m.putAll text).2 = [] := by
  cases m <;> simp [putAll, hide, shape, Token.shape?]

theorem put_hide (m : Mode) (c : Char) :
    (m.put c).1.hide = (m.hide.put c).1.hide ∧ shape (m.put c).2 = shape (m.hide.put c).2 := by
  have here := putAll_hide m [c]
  have there := putAll_hide m.hide [c]
  rw [hide_hide] at there
  exact ⟨here.1.trans there.1.symm, here.2.trans there.2.symm⟩

theorem close_hide (tag : Tag) :
    (close tag).1.hide = (close tag.hide).1.hide ∧
      shape (close tag).2 = shape (close tag.hide).2 := by
  unfold close
  simp only [show tag.hide.closing = tag.closing from rfl, show tag.hide.name = tag.name from rfl]
  split_ifs <;> simp [hide, shape, Token.shape?, Tag.hide]

theorem feed_hide (m : Mode) (c : Char) :
    (m.feed c).1.hide = (m.hide.feed c).1.hide ∧
      shape (m.feed c).2 = shape (m.hide.feed c).2 := by
  have text (m : Mode) : (m.put c).1.hide = (m.hide.put c).1.hide ∧
      shape (m.put c).2 = shape (m.hide.put c).2 := put_hide m c
  cases m with
  | tagName tag | beforeAttributeName tag | selfClosing tag =>
    have hclose := close_hide tag
    simp only [feed, hide]
    split_ifs <;> first | exact hclose | simp [Tag.hide]
  | attributeName tag name =>
    simp only [feed, hide, Tag.names_hide]
    split_ifs <;> simp
  | beforeAttributeValue tag name =>
    simp only [feed, hide]
    split_ifs <;> simp
  | attributeValue tag name value =>
    have htext := text (attributeValue tag name value)
    simp only [feed, hide] at htext ⊢
    split_ifs
    · simp [Tag.hide]
    · exact htext
  | _ => exact ⟨rfl, rfl⟩

theorem hasReferences_hide (m : Mode) : m.hide.hasReferences = m.hasReferences := by cases m <;> rfl

theorem takesText_hide (m : Mode) : m.hide.takesText = m.takesText := by cases m <;> rfl

end Mode

namespace State

theorem step_hide (s : State) (c : Char) :
    (s.step c).1.hide = (s.hide.step c).1.hide ∧
      shape (s.step c).2 = shape (s.hide.step c).2 := by
  obtain ⟨m, reference⟩ := s
  cases reference with
  | none =>
    have hfeed := Mode.feed_hide m c
    simp only [step, hide, Mode.hasReferences_hide]
    split_ifs
    · simp
    · exact ⟨congrArg (State.mk · none) hfeed.1, hfeed.2⟩
  | some name =>
    simp only [step, hide]
    split_ifs with hc hend
    · simp
    · cases decode name with
      | none => simp
      | some d =>
        have hput := Mode.put_hide m d
        exact ⟨congrArg (State.mk · none) hput.1, hput.2⟩
    · simp

theorem accept_hide (s : State) (p : Piece) :
    (s.accept p).1.hide = (s.hide.accept p.hide).1.hide ∧
      shape (s.accept p).2 = shape (s.hide.accept p.hide).2 := by
  cases p with
  | markup m =>
    have here (s : State) : s.hide = s.hide.hide := by simp [hide]
    exact thread_hidden step_hide (here s) rfl
  | text value =>
    have hput := Mode.putAll_hide s.mode value.toList
    exact ⟨congrArg (State.mk · s.reference) hput.1,
      hput.2.trans (Mode.putAll_hide s.mode.hide []).2.symm⟩

theorem fits_hide (s : State) (p : Piece) : s.hide.fits p.hide = s.fits p := by
  cases p with
  | markup m => rfl
  | text value => simp [fits, hide, Piece.hide, Mode.takesText_hide]

variable {s t : State} {page other : List Piece}

/-- Texts do not matter to the markup of the page. -/
theorem shape_page (h : s.hide = t.hide) (hpage : page.map Piece.hide = other.map Piece.hide) :
    (thread accept s page).1.hide = (thread accept t other).1.hide ∧
      shape (thread accept s page).2 = shape (thread accept t other).2 :=
  thread_hidden accept_hide h hpage

theorem placed_congr (h : s.hide = t.hide) (hpage : page.map Piece.hide = other.map Piece.hide) :
    s.placed page = t.placed other := by
  induction page generalizing s t other with
  | nil =>
    obtain rfl : other = [] := by simpa using hpage.symm
    rfl
  | cons p page ih =>
    cases other with
    | nil => simp at hpage
    | cons q other =>
      rw [List.map_cons, List.map_cons, List.cons.injEq] at hpage
      have hs := (accept_hide s p).1
      have ht := (accept_hide t q).1
      rw [← h, ← hpage.1, ← hs] at ht
      rw [placed, placed, ih ht.symm hpage.2, ← fits_hide s, ← fits_hide t, h, hpage.1]

end State

end Hidden

end Rosmon.Library.Html
