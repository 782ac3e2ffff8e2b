import RecordTypes.Report.Csv

/-! Comma-separated text read back, character by character. A record ends at a line feed outside of
quotation marks and nowhere else: a carriage return is a character like any other. -/

namespace RecordTypes

/-- Where in a cell a reader stands: at its front, in bare text, between quotation marks, or behind
a quotation mark there, which ends the cell unless another one follows. -/
inductive CellPlace where
  | front
  | bare
  | quoted
  | closed
  deriving DecidableEq

/-- The open cell, the cells before it in its record, and the records before that. -/
structure CsvReader where
  place : CellPlace
  cell : List Char
  cells : List String
  records : List (List String)

namespace CsvReader

def start : CsvReader := ⟨.front, [], [], []⟩

def endCell (r : CsvReader) : CsvReader :=
  ⟨.front, [], r.cells ++ [String.ofList r.cell], r.records⟩

def endRecord (r : CsvReader) : CsvReader :=
  ⟨.front, [], [], r.records ++ [r.cells ++ [String.ofList r.cell]]⟩

def outside (r : CsvReader) (c : Char) : CsvReader :=
  if c == ',' then r.endCell
  else if c == '\n' then r.endRecord
  else { r with place := .bare, cell := r.cell ++ [c] }

def next (r : CsvReader) (c : Char) : CsvReader :=
  match r.place with
  | .front => if c == quotationMark then { r with place := .quoted } else r.outside c
  | .bare => r.outside c
  | .quoted =>
    if c == quotationMark then { r with place := .closed } else { r with cell := r.cell ++ [c] }
  | .closed =>
    if c == quotationMark then { r with place := .quoted, cell := r.cell ++ [c] } else r.outside c

def run (r : CsvReader) (s : List Char) : CsvReader := s.foldl next r

end CsvReader

/-- The records of a text, unless it breaks off within one. -/
def readCsv (text : String) : Option (List (List String)) :=
  let r := CsvReader.start.run text.toList
  if r.place = .front ∧ r.cells = [] then some r.records else none

namespace CsvReader

theorem run_append (r : CsvReader) (s t : List Char) : r.run (s ++ t) = (r.run s).run t :=
  List.foldl_append

section
variable (cells : List String) (records : List (List String))

/-! ## Cells -/

theorem run_bare (cell : List Char) {s : List Char} (h : ∀ c ∈ s, c ≠ ',' ∧ c ≠ '\n') :
    run ⟨.bare, cell, cells, records⟩ s = ⟨.bare, cell ++ s, cells, records⟩ := by
  induction s generalizing cell with
  | nil => simp [run]
  | cons c s ih =>
    obtain ⟨hc, hs⟩ := List.forall_mem_cons.mp h
    have hnext : next ⟨.bare, cell, cells, records⟩ c = ⟨.bare, cell ++ [c], cells, records⟩ := by
      simp [next, outside, hc]
    have hrest := ih (cell ++ [c]) hs
    rw [run, List.foldl_cons, hnext]
    simpa [run] using hrest

theorem run_quoted (cell s : List Char) :
    run ⟨.quoted, cell, cells, records⟩ (s.flatMap doubledQuote) =
      ⟨.quoted, cell ++ s, cells, records⟩ := by
  induction s generalizing cell with
  | nil => simp [run]
  | cons c s ih =>
    have hdoubled : run ⟨.quoted, cell, cells, records⟩ (doubledQuote c) =
        ⟨.quoted, cell ++ [c], cells, records⟩ := by
      by_cases hc : c = quotationMark
      · simp [doubledQuote, hc, run, next]
      · simp [doubledQuote, hc, run, next]
    rw [List.flatMap_cons, run_append, hdoubled, ih, List.append_assoc]
    rfl

theorem run_csvCell (s : List Char) : ∃ place ≠ .quoted,
    run ⟨.front, [], cells, records⟩ (csvCell s) = ⟨place, s, cells, records⟩ := by
  by_cases hquotes : needsQuotes s = true
  · refine ⟨.closed, by decide, ?_⟩
    have hopening : run ⟨.front, [], cells, records⟩ [quotationMark] =
        ⟨.quoted, [], cells, records⟩ := by simp [run, next]
    have hclosing : run ⟨.quoted, s, cells, records⟩ [quotationMark] =
        ⟨.closed, s, cells, records⟩ := by simp [run, next]
    have hcell : csvCell s = [quotationMark] ++ (s.flatMap doubledQuote ++ [quotationMark]) := by
      simp [csvCell, hquotes]
    rw [hcell, run_append, hopening, run_append, run_quoted, List.nil_append, hclosing]
  · have hplain : ∀ c ∈ s, c ≠ ',' ∧ c ≠ quotationMark ∧ c ≠ '\n' := by
      simpa [needsQuotes, and_assoc] using hquotes
    have hcell : csvCell s = s := by simp [csvCell, hquotes]
    rw [hcell]
    cases s with
    | nil => exact ⟨.front, by decide, rfl⟩
    | cons c s =>
      obtain ⟨hc, hs⟩ := List.forall_mem_cons.mp hplain
      have hnext : next ⟨.front, [], cells, records⟩ c = ⟨.bare, [c], cells, records⟩ := by
        simp [next, outside, hc]
      have hrest : run ⟨.bare, [c], cells, records⟩ s = ⟨.bare, [c] ++ s, cells, records⟩ :=
        run_bare cells records [c] fun d hd => ⟨(hs d hd).1, (hs d hd).2.2⟩
      refine ⟨.bare, by decide, ?_⟩
      rw [run, List.foldl_cons, hnext]
      exact hrest

theorem next_comma (cell : List Char) {place : CellPlace} (h : place ≠ .quoted) :
    next ⟨place, cell, cells, records⟩ ',' =
      ⟨.front, [], cells ++ [String.ofList cell], records⟩ := by
  cases place with
  | quoted => exact absurd rfl h
  | front | bare | closed => rfl

theorem next_lineFeed (cell : List Char) {place : CellPlace} (h : place ≠ .quoted) :
    next ⟨place, cell, cells, records⟩ '\n' =
      ⟨.front, [], [], records ++ [cells ++ [String.ofList cell]]⟩ := by
  cases place with
  | quoted => exact absurd rfl h
  | front | bare | closed => rfl

/-! ## Records -/

theorem csvRow_cons_cons (s t : List Char) (rest : List (List Char)) :
    csvRow (s :: t :: rest) = csvCell s ++ ',' :: csvRow (t :: rest) := by
  simp [csvRow, List.intercalate_cons_cons]

theorem run_csvRow (s : List Char) (rest : List (List Char)) :
    run ⟨.front, [], cells, records⟩ (csvRow (s :: rest)) =
      ⟨.front, [], [], records ++ [cells ++ (s :: rest).map String.ofList]⟩ := by
  induction rest generalizing s cells with
  | nil =>
    obtain ⟨place, hplace, hcell⟩ := run_csvCell cells records s
    have hrow : csvRow [s] = csvCell s ++ ['\n'] := by simp [csvRow]
    rw [hrow, run_append, hcell]
    exact next_lineFeed cells records s hplace
  | cons t rest ih =>
    obtain ⟨place, hplace, hcell⟩ := run_csvCell cells records s
    have hnext := next_comma cells records s hplace
    have hrest := ih (cells ++ [String.ofList s]) t
    rw [csvRow_cons_cons, run_append, hcell, run, List.foldl_cons, hnext]
    simpa [run] using hrest

end

theorem run_csvText {rows : List (List String)} (h : ∀ row ∈ rows, row ≠ [])
    (records : List (List String)) :
    run ⟨.front, [], [], records⟩ (csvText rows).toList = ⟨.front, [], [], records ++ rows⟩ := by
  rw [csvText, String.toList_ofList]
  induction rows generalizing records with
  | nil => simp [run]
  | cons row rows ih =>
    obtain ⟨hrow, hrows⟩ := List.forall_mem_cons.mp h
    obtain ⟨cell, rest, rfl⟩ := List.exists_cons_of_ne_nil hrow
    have hread := run_csvRow [] records cell.toList (rest.map String.toList)
    have hnames : (cell.toList :: rest.map String.toList).map String.ofList = cell :: rest := by
      simp [Function.comp_def]
    rw [hnames, List.nil_append] at hread
    rw [List.flatMap_cons, run_append, List.map_cons, hread, ih hrows, List.append_assoc]
    rfl

end CsvReader

theorem readCsv_csvText {rows : List (List String)} (h : ∀ row ∈ rows, row ≠ []) :
    readCsv (csvText rows) = some rows := by
  have hrun := CsvReader.run_csvText h []
  simp only [readCsv, CsvReader.start, hrun, List.nil_append, and_self, if_true]

example : readCsv "a,\"b,\n\"\"\"\n" = some [["a", "b,\n\""]] := by decide

end RecordTypes
