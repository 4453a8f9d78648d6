/-!
# Frames in a stream of bytes

A raw socket carries messages back to back, each ended by a fixed sequence of bytes.  What is read
at once may hold any part of that stream, so bytes are kept until their delimiter arrives.

Main definitions:

- `Splitter`: the delimiter, the greatest length of an unfinished message, and the bytes kept.
- `Splitter.ofDelimiter`: a splitter that keeps nothing yet.
- `Splitter.push`: the messages that a read completes.
- `Splitter.encode`: a message as it goes on the wire.
-/

namespace TerminalGateway.Frame

/-- What a read brings to light. -/
inductive Cut where
  /-- A message without its delimiter. -/
  | frame (bytes : List UInt8)
  /-- The unfinished message had grown past this limit and was thrown away. -/
  | oversize (limit : Nat)
deriving Repr, DecidableEq

/-- The wording for a message that was thrown away. -/
def oversizeMessage (limit : Nat) : String :=
  s!"Buffered frame exceeds {limit} bytes"

/-- The greatest length of an unfinished message unless told otherwise. -/
def defaultMaxLength : Nat :=
  4 * 1024 * 1024

/-- The delimiter of the terminal's socket bridge. -/
def defaultDelimiter : String :=
  "message:"

/-- A stream of bytes on its way to being split. -/
structure Splitter where
  delimiter : List UInt8
  /-- The greatest length of an unfinished message. -/
  maxLength : Nat
  /-- The bytes of the unfinished message. -/
  buffer : List UInt8 := []
  /-- No delimiter ends within this many bytes of the buffer. -/
  scanned : Nat := 0
  delimiter_ne : delimiter ≠ []

namespace Splitter

/-- The wording for an empty delimiter. -/
def emptyDelimiter : String :=
  "delimiter must not be empty"

/-- A splitter that keeps nothing yet; there is none for an empty delimiter. -/
def ofDelimiter (delimiter : List UInt8) (maxLength : Nat) : Except String Splitter :=
  if h : delimiter = [] then .error emptyDelimiter
  else .ok { delimiter := delimiter, maxLength := maxLength, delimiter_ne := h }

/-- The number of bytes kept. -/
def pending (s : Splitter) : Nat :=
  s.buffer.length

/-- A message with its delimiter. -/
def encode (s : Splitter) (frame : List UInt8) : List UInt8 :=
  frame ++ s.delimiter

/-! ## Finding a delimiter -/

/-- The position of the first occurrence of a pattern in a text, counted from `position`. -/
def findFrom (pattern : List UInt8) (position : Nat) : List UInt8 → Option Nat
  | [] => if pattern.isEmpty then some position else none
  | b :: rest =>
      if pattern.isPrefixOf (b :: rest) then some position
      else findFrom pattern (position + 1) rest

/-- The buffer is shorter than the delimiter. -/
def isShort (s : Splitter) : Bool :=
  (s.buffer.drop (s.delimiter.length - 1)).isEmpty

/-- Where the search goes on: where it stopped, less a delimiter that was cut. -/
def resumeAt (s : Splitter) : Nat :=
  s.scanned - (s.delimiter.length - 1)

/-- The position of the first delimiter in the buffer. -/
def find? (s : Splitter) : Option Nat :=
  findFrom s.delimiter s.resumeAt (s.buffer.drop s.resumeAt)

/-- The splitter after the message that ends at a delimiter's position was taken. -/
def advance (s : Splitter) (position : Nat) : Splitter :=
  { s with buffer := s.buffer.drop (position + s.delimiter.length), scanned := 0 }

theorem length_advance_lt {s : Splitter} (h : s.isShort = false) (position : Nat) :
    (s.advance position).buffer.length < s.buffer.length := by
  have hd : 0 < s.delimiter.length := List.length_pos_iff.2 s.delimiter_ne
  have hb : s.delimiter.length - 1 < s.buffer.length := by
    have : s.buffer.drop (s.delimiter.length - 1) ≠ [] := by
      intro hnil
      simp [isShort, hnil] at h
    simpa using this
  simp only [advance, List.length_drop]
  omega

/-! ## Splitting -/

/-- All complete segments of the buffer, empty ones among them, behind those found before in
reverse order, and the splitter with the rest. -/
def segments (found : List (List UInt8)) (s : Splitter) : List (List UInt8) × Splitter :=
  if _short : s.isShort then (found.reverse, s)
  else
    match s.find? with
    | none => (found.reverse, { s with scanned := s.buffer.length })
    | some position => segments (s.buffer.take position :: found) (s.advance position)
termination_by s.buffer.length
decreasing_by exact length_advance_lt (by simpa using _short) position

/-- Takes a read.  Empty messages are passed over; an unfinished message that is too long is
thrown away after the complete ones. -/
def push (s : Splitter) (data : List UInt8) : List Cut × Splitter :=
  let (parts, rest) := segments [] { s with buffer := s.buffer ++ data }
  let frames := (parts.filter fun part => !part.isEmpty).map Cut.frame
  if rest.buffer.length ≤ rest.maxLength then (frames, rest)
  else (frames ++ [.oversize rest.maxLength], { rest with buffer := [], scanned := 0 })

end Splitter

end TerminalGateway.Frame
