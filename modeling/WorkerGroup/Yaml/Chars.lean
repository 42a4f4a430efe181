/-
The characters of YAML: line breaks, gaps, indicators and the marks between documents.

A text is read after its line breaks have been made alike: a carriage return, alone or
before a line feed, and the control that means "next line" are all a line feed. The two
Unicode separators break lines too but stay what they are.
-/
set_option autoImplicit false

namespace WorkerGroup.Yaml

/-- The character that separates lines. -/
def lineSeparator : Char := '\u2028'

/-- The character that separates paragraphs. -/
def paragraphSeparator : Char := '\u2029'

/-- Whether a character breaks a line. -/
def isBreak (c : Char) : Bool :=
  c == '\n' || c == lineSeparator || c == paragraphSeparator

/-- Whether a character is a gap inside a line. -/
def isGap (c : Char) : Bool :=
  c == ' ' || c == '\t'

/-- Whether a text is at a gap, at a break or at its end. -/
def atBlank : List Char → Bool
  | [] => true
  | c :: _ => isGap c || isBreak c

/-- The text with its line breaks made alike. -/
def normalizeBreaks : List Char → List Char
  | [] => []
  | '\r' :: '\n' :: rest => '\n' :: normalizeBreaks rest
  | c :: rest => (if c = '\r' ∨ c = '\x85' then '\n' else c) :: normalizeBreaks rest

/-- Whether a character may stand in a document at all. -/
def isPermitted (c : Char) : Bool :=
  let n := c.toNat
  n == 0x09 || n == 0x0A || n == 0x0D || (0x20 ≤ n && n ≤ 0x7E) || n == 0x85 ||
    (0xA0 ≤ n && n ≤ 0xD7FF) || (0xE000 ≤ n && n ≤ 0xFFFD) || 0x10000 ≤ n

/-- Whether a text is at a sequence entry: a hyphen with a blank after it. -/
def atDash : List Char → Bool
  | '-' :: rest => atBlank rest
  | _ => false

/-- Whether a text is at the mark of an explicit key: a question mark with a blank after
it. -/
def atQuestion : List Char → Bool
  | '?' :: rest => atBlank rest
  | _ => false

/-- Whether a text is at the mark of a value: a colon with a blank after it. -/
def atColon : List Char → Bool
  | ':' :: rest => atBlank rest
  | _ => false

/-- Whether a text is at a property of a node, an anchor or a tag. -/
def atProperty : List Char → Bool
  | '&' :: _ => true
  | '!' :: _ => true
  | _ => false

/-- Whether a text is at the marker of a block scalar. -/
def atBlockScalar : List Char → Bool
  | '|' :: _ => true
  | '>' :: _ => true
  | _ => false

/-- Whether a text, at the start of a line, is at the mark that starts a document. -/
def atDocumentStart : List Char → Bool
  | '-' :: '-' :: '-' :: rest => atBlank rest
  | _ => false

/-- Whether a text, at the start of a line, is at the mark that ends a document. -/
def atDocumentEnd : List Char → Bool
  | '.' :: '.' :: '.' :: rest => atBlank rest
  | _ => false

/-- Whether a text, at the start of a line, is at a mark between documents. -/
def atMark (cs : List Char) : Bool :=
  atDocumentStart cs || atDocumentEnd cs

/-- The mark of the byte order, which is passed over at the start of a line. It takes up
the line's first column. -/
def byteOrderMark : Char := '\uFEFF'

/-- Whether a character may be part of the name of an anchor, of a directive or of the
handle of a tag. -/
def isNameChar (c : Char) : Bool :=
  c.isAlphanum || c == '-' || c == '_'

/-- How many bytes a text takes up. -/
def byteLength (cs : List Char) : Nat :=
  cs.foldr (fun c bytes => c.utf8Size + bytes) 0

/-- Whether a character has a meaning of its own at the start of a node. -/
def isIndicator (c : Char) : Bool :=
  [',', '[', ']', '\x7b', '\x7d', '#', '&', '*', '!', '|', '>', '\'', '"', '%', '@',
    '\x60'].contains c

/-- Whether a character ends a plain scalar inside brackets. -/
def isFlowIndicator (c : Char) : Bool :=
  [',', '[', ']', '\x7b', '\x7d'].contains c

/-- Whether a text starts with a plain scalar, inside brackets or outside. -/
def atPlain (flow : Bool) : List Char → Bool
  | [] => false
  | c :: rest =>
    if c = '-' then !atBlank rest
    else if c = '?' ∨ c = ':' then !flow && !atBlank rest
    else !isIndicator c && !isGap c && !isBreak c

/-- What a run of gaps and breaks inside a scalar stands for. Without a break it is
itself. One line feed is a space; of more breaks the first line feed is dropped, and the
gaps around breaks always are. -/
def folded (run : List Char) : List Char :=
  match run.filter isBreak with
  | [] => run
  | ['\n'] => [' ']
  | '\n' :: more => more
  | breaks => breaks

end WorkerGroup.Yaml
