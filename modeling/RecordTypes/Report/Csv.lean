import RecordTypes.Text.Quoted

/-! Rows of cells as comma-separated text. A cell stands between quotation marks if it holds a
comma, a quotation mark or a line feed; inside, a quotation mark is written twice. -/

namespace RecordTypes

def needsQuotes (cell : List Char) : Bool :=
  cell.any fun c => c == ',' || c == quotationMark || c == '\n'

def doubledQuote (c : Char) : List Char :=
  if c == quotationMark then [quotationMark, quotationMark] else [c]

def csvCell (cell : List Char) : List Char :=
  if needsQuotes cell then quotationMark :: (cell.flatMap doubledQuote ++ [quotationMark])
  else cell

def csvRow (cells : List (List Char)) : List Char :=
  [','].intercalate (cells.map csvCell) ++ ['\n']

def csvText (rows : List (List String)) : String :=
  String.ofList (rows.flatMap fun row => csvRow (row.map String.toList))

end RecordTypes
