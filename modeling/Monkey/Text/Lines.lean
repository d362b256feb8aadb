import Monkey.Text.Blank

/-!
# Lines and padding

Cutting a text into lines and laying words out in columns.

- `lines` cuts where a file read as text ends its lines: at `\n`, `\r\n` and `\r`; `asRead`
  gives the text so read, each line end a `\n`.
- `breakLines` cuts at every line boundary of Unicode text: also at vertical tab, form feed,
  the file, group and record separators, next line, and the line and paragraph separators.
- `trim` drops blank characters at both ends.
- `padRight` and `padLeft` fill a text with spaces up to a width; a longer text is kept whole.
-/

namespace Monkey

namespace Text

/-- The lines of a text read as a file: cut at `\n`, `\r\n` and `\r`, without the ends. A
final line end makes no empty last line. -/
def lines (s : String) : List String :=
  let rec go : List Char → List Char → List String
    | [], [] => []
    | [], cur => [String.ofList cur.reverse]
    | '\r' :: '\n' :: rest, cur => String.ofList cur.reverse :: go rest []
    | '\n' :: rest, cur => String.ofList cur.reverse :: go rest []
    | '\r' :: rest, cur => String.ofList cur.reverse :: go rest []
    | c :: rest, cur => go rest (c :: cur)
  go s.toList []

/-- A text read as a file: each `\r\n` and each other `\r` read as `\n`. -/
def asRead (s : String) : String :=
  let rec go : List Char → List Char
    | [] => []
    | '\r' :: '\n' :: rest => '\n' :: go rest
    | '\r' :: rest => '\n' :: go rest
    | c :: rest => c :: go rest
  String.ofList (go s.toList)

/-- Whether a character ends a line of Unicode text (besides `\r\n`, which is one end). -/
def isLineBreak (c : Char) : Bool :=
  [0x0A, 0x0B, 0x0C, 0x0D, 0x1C, 0x1D, 0x1E, 0x85, 0x2028, 0x2029].contains c.toNat

/-- The lines of Unicode text, cut at every line boundary. A final boundary makes no empty
last line. -/
def breakLines (s : String) : List String :=
  let rec go : List Char → List Char → List String
    | [], [] => []
    | [], cur => [String.ofList cur.reverse]
    | '\r' :: '\n' :: rest, cur => String.ofList cur.reverse :: go rest []
    | c :: rest, cur =>
      if isLineBreak c then String.ofList cur.reverse :: go rest [] else go rest (c :: cur)
  go s.toList []

/-- A text without the blank characters at its ends. -/
def trim (s : String) : String :=
  String.ofList (((s.toList.dropWhile isBlank).reverse.dropWhile isBlank).reverse)

/-- A text followed by spaces up to a width. -/
def padRight (s : String) (width : Nat) : String :=
  s ++ String.ofList (List.replicate (width - s.length) ' ')

/-- A text preceded by spaces up to a width. -/
def padLeft (s : String) (width : Nat) : String :=
  String.ofList (List.replicate (width - s.length) ' ') ++ s

end Text

end Monkey
