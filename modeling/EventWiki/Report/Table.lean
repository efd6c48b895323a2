import EventWiki.Text.Width

namespace EventWiki.Report

def columnWidths (header : List String) (rows : List (List String)) : List Nat :=
  rows.foldl (fun widths row => List.zipWith max widths (row.map Text.width))
    (header.map Text.width)

/-- A cell with a space before it and at least one behind it. -/
def cell (width : Nat) (text : String) : String :=
  " " ++ text ++ String.ofList (List.replicate (width - Text.width text + 1) ' ')

def row (widths : List Nat) (cells : List String) : String :=
  "│" ++ String.intercalate " " (List.zipWith cell widths cells) ++ "│"

def rule (left stroke right : Char) (widths : List Nat) : String :=
  let length := widths.foldr (fun width length => width + 2 + length) (widths.length - 1)
  String.ofList (left :: List.replicate length stroke ++ [right])

def table (header : List String) (rows : List (List String)) : String :=
  let widths := columnWidths header rows
  String.intercalate "\n"
    ([rule '┌' '─' '┐' widths, row widths header, rule '╞' '═' '╡' widths] ++
      rows.map (row widths) ++ [rule '└' '─' '┘' widths])

end EventWiki.Report
