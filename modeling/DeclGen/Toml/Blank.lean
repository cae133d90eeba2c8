/-! Blanks, newlines and comments of a document, and the characters it may hold at all. -/

namespace DeclGen.Toml

/-- Whether a character is a blank within a line. -/
def isBlank (c : Char) : Bool := c = ' ' || c = '\t'

/-- Whether a character may stand in a comment or in a literal: a control character may not. -/
def isPlainChar (c : Char) : Bool := c = '\t' || (' ' ≤ c && c ≠ '\x7f')

/-- Leaves out a byte order mark at the very start of a document. -/
def skipMark : List Char → List Char
  | '\uFEFF' :: rest => rest
  | text => text

/-- Skips blanks. -/
def skipBlanks (text : List Char) : List Char := text.dropWhile isBlank

/--
Skips the rest of a comment, and outside of one all blanks, newlines and comments.

It stops at a character that may not stand in a comment, which nothing else starts with.
-/
def skipFrom (inComment : Bool) : List Char → List Char
  | [] => []
  | '\r' :: '\n' :: rest | '\n' :: rest => skipFrom false rest
  | c :: rest =>
    if inComment && isPlainChar c || isBlank c then skipFrom inComment rest
    else if !inComment && c = '#' then skipFrom true rest
    else c :: rest

/-- Skips blanks, newlines and comments, as between the items of an array or between lines. -/
def skipTrivia (text : List Char) : List Char := skipFrom false text

/-- Reads a newline, or the end of the text in its place. -/
def readNewline : List Char → Option (List Char)
  | [] => some []
  | '\n' :: rest | '\r' :: '\n' :: rest => some rest
  | _ => none

/-- Reads the end of a line that holds nothing more than blanks and a comment. -/
def readLineEnd (text : List Char) : Option (List Char) :=
  match skipBlanks text with
  -- A control character ends the comment early, and then no newline follows.
  | '#' :: rest => readNewline (rest.dropWhile isPlainChar)
  | rest => readNewline rest

end DeclGen.Toml
