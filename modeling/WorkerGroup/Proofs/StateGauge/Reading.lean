/-
Reading the gauge.

Who scrapes the gauge has its text and nothing else. The reader here goes by the rules of
the text alone: a line is a sample unless it is empty or a comment, a label's value ends at
the first quote that has no backslash in front of it, and the sample's value is the last
character. It knows neither the groups nor the states there are.

The collector writes the values of labels as they are. So a group is read back under its own
name when nothing in the name would have to be written with a backslash (`Verbatim`); braces,
commas, blanks and equals signs are no harm, because inside of quotes nothing but the three
characters that are left out there means anything (`read?_line`).
-/
import WorkerGroup.Metrics
import WorkerGroup.Proofs.Text.Pieces

set_option autoImplicit false

namespace WorkerGroup.Collector

/-! ## The reader -/

/-- A series of the gauge: a group, a state, and whether the group is in it. -/
structure Series where
  group : String
  state : String
  isCurrent : Bool
deriving DecidableEq

/-- The character that is written as another one with a backslash in front. -/
def unescape? : Char → Option Char
  | '\\' => some '\\'
  | '"' => some '"'
  | 'n' => some '\n'
  | _ => none

/-- The value of a label, up to the quote that ends it, and what comes behind the quote. -/
def labelValue? : List Char → Option (List Char × List Char)
  | [] => none
  | '\\' :: e :: rest => do
    let c ← unescape? e
    let (item, behind) ← labelValue? rest
    some (c :: item, behind)
  | c :: rest =>
    if c = '"' then some ([], rest)
    else if c = '\\' ∨ c = '\n' then none
    else do
      let (item, behind) ← labelValue? rest
      some (c :: item, behind)

/-- The series a line is a sample of. -/
def Series.read? (line : String) : Option Series := do
  let atGroup ← line.toList.dropPrefix? (gauge ++ "\x7binstancegroup=\"").toList
  let (group, behindGroup) ← labelValue? atGroup
  let atState ← behindGroup.dropPrefix? ",state=\"".toList
  let (state, behindState) ← labelValue? atState
  match behindState with
  | ['}', ' ', '1'] => some ⟨String.ofList group, String.ofList state, true⟩
  | ['}', ' ', '0'] => some ⟨String.ofList group, String.ofList state, false⟩
  | _ => none

/-- Whether a line is a sample: it is neither empty nor a comment. -/
def isSample (line : String) : Bool :=
  line.toList.head?.any (· ≠ '#')

/-- The series of a text, in order. -/
def series? (text : String) : Option (List Series) :=
  ((Text.pieces '\n' text).filter isSample).mapM Series.read?

/-- The state each group is in according to a text. -/
def readSnapshot? (text : String) : Option (Table String) :=
  (series? text).map fun read =>
    Table.ofList ((read.filter (·.isCurrent)).map fun x => (x.group, x.state))

/-! ## Reading one line -/

/-- A text that stands as it is in the value of a label: it has no quote, no backslash and
no line feed. -/
def Verbatim (s : String) : Prop :=
  ∀ c ∈ s.toList, c ≠ '"' ∧ c ≠ '\\' ∧ c ≠ '\n'

-- By the characters of the text, not by trying all characters there are.
instance (s : String) : Decidable (Verbatim s) :=
  List.decidableBAll _ _

theorem Verbatim.notMem {s : String} (h : Verbatim s) : '\n' ∉ s.toList :=
  fun listed => (h _ listed).2.2 rfl

theorem verbatim_name (s : ReconcileState) : Verbatim s.name := by
  cases s <;> decide

/-- The line of a series, without what ends it. -/
def Series.line (x : Series) : String :=
  gauge ++ "\x7binstancegroup=\"" ++ x.group ++ "\",state=\"" ++ x.state ++ "\"\x7d " ++
    if x.isCurrent then "1" else "0"

/-- The end of a value is found wherever it stands, if nothing before it means anything. -/
theorem labelValue?_append {item : List Char} (h : ∀ c ∈ item, c ≠ '"' ∧ c ≠ '\\' ∧ c ≠ '\n')
    (behind : List Char) : labelValue? (item ++ '"' :: behind) = some (item, behind) := by
  induction item with
  | nil => rfl
  | cons c item ih =>
    obtain ⟨⟨quote, backslash, feed⟩, later⟩ := List.forall_mem_cons.1 h
    have plain : ¬(c = '\\' ∨ c = '\n') := not_or.2 ⟨backslash, feed⟩
    rw [List.cons_append, labelValue?, if_neg quote, if_neg plain, ih later]
    · rfl
    · exact fun _ _ escape _ => backslash escape

theorem dropPrefix?_append (l behind : List Char) :
    (l ++ behind).dropPrefix? l = some behind :=
  List.dropPrefix?_eq_some_iff.2 ⟨l, rfl, beq_self_eq_true l⟩

/-- **A line gives back the series it was written for.** -/
theorem read?_line {x : Series} (group : Verbatim x.group) (state : Verbatim x.state) :
    Series.read? x.line = some x := by
  have laid_out : x.line.toList =
      (gauge ++ "\x7binstancegroup=\"").toList ++ (x.group.toList ++ '"' ::
        (",state=\"".toList ++ (x.state.toList ++ '"' :: ['}', ' ',
          if x.isCurrent then '1' else '0']))) := by
    cases h : x.isCurrent <;> simp [Series.line, h]
  rw [Series.read?, laid_out]
  simp only [dropPrefix?_append, labelValue?_append group, labelValue?_append state,
    Option.bind_eq_bind, Option.bind_some]
  obtain ⟨g, s, current⟩ := x
  cases current <;> simp

/-- A line has no end inside of it. -/
theorem notMem_line {x : Series} (group : Verbatim x.group) (state : Verbatim x.state) :
    '\n' ∉ x.line.toList := by
  have fixed : ∀ t ∈ [gauge, "\x7binstancegroup=\"", "\",state=\"", "\"\x7d ", "1", "0"],
      '\n' ∉ t.toList := by decide
  simp only [List.forall_mem_cons] at fixed
  obtain ⟨name, opening, between, closing, one, zero, -⟩ := fixed
  have value : '\n' ∉ (if x.isCurrent then "1" else "0").toList := by
    cases x.isCurrent
    · exact zero
    · exact one
  simp only [Series.line, String.toList_append, List.mem_append, not_or]
  exact ⟨⟨⟨⟨⟨⟨name, opening⟩, group.notMem⟩, between⟩, state.notMem⟩, closing⟩, value⟩

/-- A line is a sample. -/
theorem isSample_line (x : Series) : isSample x.line = true := by
  have first : x.line.toList.head? = some 'i' := by
    simp [Series.line, gauge]
  rw [isSample, first]
  rfl

end WorkerGroup.Collector
