import CorpusLint.Text.Cursor
import CorpusLint.Text.Lines

/-!
# Header and body

A document may open with a header between two delimiter lines, which hold three hyphens and no more
than blanks after them. The header is what stands between the first two such lines of the text, the
body is what follows the second. A text with fewer delimiter lines has no header, and all of it is
body. Both are also cut out of the stored form by offsets that are counted line by line.

A header line declares a field when it begins with the field's name and a colon. The first
declaration counts. Its value stands on the same line or, where that is blank, in the list items
directly below. A list item is a line that begins, after blanks, with a hyphen and a space.
-/

namespace CorpusLint

/-! ## Header and body -/

/-- A document's text, cut at its delimiter lines. -/
structure Sections where
  /-- The text between the first two delimiter lines. -/
  header : Text
  /-- The text after the second delimiter line. -/
  body : Text
deriving DecidableEq, Repr

namespace Frontmatter

/-- Whether a line is a delimiter: three hyphens, followed by nothing but blanks. -/
def isDelimiter (line : Text) : Bool :=
  line.trimEnd == "---".toList

/-- The header and the body of a text. -/
def split (raw : Text) : Sections :=
  match raw.pieces.dropWhile (fun piece => !isDelimiter piece) with
  | [] => ⟨[], raw⟩
  | _ :: inner =>
    match inner.dropWhile (fun piece => !isDelimiter piece) with
    | [] => ⟨[], raw⟩
    | _ :: body => ⟨(inner.takeWhile (fun piece => !isDelimiter piece)).flatten, body.flatten⟩

/-- The sections of a text, from the pieces that are left at a byte offset. Where the first
delimiter line has been seen, `opened` is the offset behind it. There is no answer where a slice
does not exist. -/
def splitFrom? (raw : Text) (opened : Option Nat) (offset : Nat) : List Text → Option Sections
  | [] => some ⟨[], raw⟩
  | piece :: rest =>
    let next := offset + Text.byteSize piece
    if isDelimiter piece then
      match opened with
      | none => splitFrom? raw (some next) next rest
      | some start =>
        (raw.slice? start offset).bind fun header =>
          (raw.slice? next raw.byteSize).map fun body => ⟨header, body⟩
    else splitFrom? raw opened next rest

/-- The header and the body of a text, taken from the stored form as two slices. -/
def splitBySlice? (raw : Text) : Option Sections :=
  splitFrom? raw none 0 raw.pieces

end Frontmatter

/-! ## Fields -/

namespace Frontmatter

/-- What follows the colon on a line that declares `name`. -/
def declared? (name line : Text) : Option Text :=
  Text.dropStart? (name ++ [':']) line

def hasField (header name : Text) : Bool :=
  header.lines.any (fun line => (declared? name line).isSome)

/-- The item that a line holds, trimmed. -/
def item? (line : Text) : Option Text :=
  (Text.dropStart? "- ".toList line.trim).map Text.trim

/-- The items of the lines up to the first that holds none. -/
def leadingItems : List Text → List Text
  | [] => []
  | line :: rest =>
    match item? line with
    | some item => item :: leadingItems rest
    | none => []

/-- The value of a field among the lines of a header. -/
def valueAmong (name : Text) : List Text → Option Text
  | [] => none
  | line :: rest =>
    match declared? name line with
    | none => valueAmong name rest
    | some written =>
      if !written.isBlank then some written.trim
      else
        match leadingItems rest with
        | [] => none
        | items => some (Text.joinWith ", ".toList items)

/-- The value of a header's field: that of its first declaration. Items are joined by commas. -/
def fieldValue? (header name : Text) : Option Text :=
  valueAmong name header.lines

/-- The items of all lists of a header, in order. -/
def listItems (header : Text) : List Text :=
  header.lines.filterMap item?

end Frontmatter

end CorpusLint
