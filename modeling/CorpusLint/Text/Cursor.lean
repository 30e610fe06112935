import CorpusLint.Text.Basic
import CorpusLint.Text.Lines

/-!
# Places in a text

A cursor stands between two characters of a text. It knows the characters before it, nearest first,
and those after it, so that the line it stands in can be read off in both directions. A byte offset
names a cursor only where a character begins or the text ends (`Cursor.atByte?`).

A text is stored as the bytes of its UTF-8 form, and an offset counts these bytes. A slice between
two offsets exists only where both are the beginning of a character or the end of the text, and come
in order. The line of an offset is found by slices alone too (`Text.lineAt?`), which fails where one
of them does not exist.

Main statement: moving a cursor does not change its text (`text_atByte?`).
-/

namespace CorpusLint

/-! ## Cursors -/

/-- A place in a text. -/
structure Cursor where
  /-- The characters before the place, the nearest first. -/
  seen : Text
  /-- The characters after the place, the nearest first. -/
  rest : Text
deriving DecidableEq, Repr

namespace Cursor

/-- The text that the cursor stands in. -/
def text (place : Cursor) : Text :=
  place.seen.reverse ++ place.rest

/-- The number of the line that the cursor stands in: one more than the line feeds before it. -/
def lineNumber (place : Cursor) : Nat :=
  place.seen.count '\n' + 1

/-- The line that the cursor stands in, without its line feed and without any carriage return at its
end. -/
def line (place : Cursor) : Text :=
  let whole := (place.seen.takeWhile (· != '\n')).reverse ++ place.rest.takeWhile (· != '\n')
  (whole.reverse.dropWhile (· == '\r')).reverse

/-- The place `offset` bytes after the character list `seen`, in what follows it. -/
def afterBytes? (seen : Text) (offset : Nat) : Text → Option Cursor
  | [] => if offset = 0 then some ⟨seen, []⟩ else none
  | c :: t =>
    if offset = 0 then some ⟨seen, c :: t⟩
    else if c.utf8Size ≤ offset then afterBytes? (c :: seen) (offset - c.utf8Size) t
    else none

/-- The place `offset` bytes into the UTF-8 form of a text. There is none inside a character and
none past the end. -/
def atByte? (t : Text) (offset : Nat) : Option Cursor :=
  afterBytes? [] offset t

theorem text_afterBytes? {seen t : Text} {offset : Nat} {place : Cursor}
    (h : afterBytes? seen offset t = some place) : place.text = seen.reverse ++ t := by
  induction t generalizing seen offset with
  | nil =>
    simp only [afterBytes?] at h
    split at h
    · obtain rfl := Option.some.inj h
      simp [text]
    · simp at h
  | cons c t ih =>
    simp only [afterBytes?] at h
    split at h
    · obtain rfl := Option.some.inj h
      simp [text]
    · split at h
      · simpa using ih h
      · simp at h

theorem text_atByte? {t : Text} {offset : Nat} {place : Cursor}
    (h : atByte? t offset = some place) : place.text = t := by
  simpa using text_afterBytes? h

end Cursor

/-! ## Slices of the stored form -/

namespace Text

/-- The text before a byte offset and the text from there on. There is no such cut inside a
character and none past the end. -/
def cutAt? : Text → Nat → Option (Text × Text)
  | t, 0 => some ([], t)
  | [], _ + 1 => none
  | c :: t, n + 1 =>
    if c.utf8Size ≤ n + 1 then
      (cutAt? t (n + 1 - c.utf8Size)).map fun (before, after) => (c :: before, after)
    else none

/-- The text between two byte offsets. -/
def slice? (t : Text) (start stop : Nat) : Option Text :=
  if start ≤ stop then
    (cutAt? t stop).bind fun (before, _) => (cutAt? before start).map (·.2)
  else none

def firstLineFeed? : Text → Option Nat
  | [] => none
  | c :: t => if c = '\n' then some 0 else (firstLineFeed? t).map (c.utf8Size + ·)

def lastLineFeed? : Text → Option Nat
  | [] => none
  | c :: t =>
    match lastLineFeed? t with
    | some n => some (c.utf8Size + n)
    | none => if c = '\n' then some 0 else none

/-- The number of the line at a byte offset. -/
def lineNumberAt? (t : Text) (offset : Nat) : Option Nat :=
  (t.slice? 0 offset).map (·.count '\n' + 1)

/-- The line at a byte offset, without its line feed and without any carriage return at its end. It
runs from behind the last line feed before the offset to the first one after it. -/
def lineAt? (t : Text) (offset : Nat) : Option Text :=
  (t.slice? 0 offset).bind fun before =>
    (t.slice? offset t.byteSize).bind fun after =>
      let start := (lastLineFeed? before).elim 0 (· + 1)
      let stop := (firstLineFeed? after).elim t.byteSize (offset + ·)
      (t.slice? start stop).map fun line => (line.reverse.dropWhile (· == '\r')).reverse

end Text

end CorpusLint
