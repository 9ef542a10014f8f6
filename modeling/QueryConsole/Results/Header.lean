/-
# Column labels

The label of a column is its key with spaces for underscores and with every word, up to the next
blank character, starting with a capital.

Models `format_column_name`.
-/

import QueryConsole.Text.Blank
import QueryConsole.Text.Capital

namespace QueryConsole
namespace Header

/-- The label of the rest of a key; `wordStart` tells whether a word may start here. -/
def labelFrom (wordStart : Bool) : List Char → List Char
  | [] => []
  | c :: rest =>
    let c := if c = '_' then ' ' else c
    let blank := Text.isBlank c
    (if wordStart && !blank then Capital.ofChar c else [c]) ++ labelFrom blank rest

/-- The label of a key. -/
def label (key : String) : String := String.ofList (labelFrom true key.toList)

end Header
end QueryConsole
