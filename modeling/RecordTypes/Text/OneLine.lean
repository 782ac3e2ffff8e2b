import RecordTypes.Text.Blank
import RecordTypes.Text.Quoted

/-! Text that goes into a comment or a docstring of one line: nothing in it ends a comment or a
docstring, and all white space is single blanks between words. -/

namespace RecordTypes

def disarmed (s : List Char) : List Char :=
  replacePair '*' '/' ['*', ' ', '/']
    (replaceTriple quotationMark quotationMark quotationMark [apostrophe, apostrophe, apostrophe] s)

def oneLine (s : List Char) : List Char := joinWith [' '] (splitBlanks (disarmed s))

end RecordTypes
