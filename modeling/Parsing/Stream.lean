/-!
A stream is a position in a fixed text of characters. The text is an index of the type, so an
operation on a stream, and every parser, hands back a position in the same text, and the
position never passes the end of it. Offsets count characters, not bytes.
-/

namespace Parsing

/-- A position in `text`: how many characters lie before it. It never passes the end. -/
@[ext]
structure Stream (text : Array Char) where
  offset : Nat
  offset_le : offset ≤ text.size
deriving DecidableEq

namespace Stream

variable {text : Array Char}

def start (text : Array Char) : Stream text := ⟨0, Nat.zero_le _⟩

def ofString (input : String) : Stream input.toList.toArray := start _

def peek (s : Stream text) : Option Char := text[s.offset]?

/-- The next position; at the end the stream stays where it is. -/
def advance (s : Stream text) : Stream text :=
  ⟨min (s.offset + 1) text.size, Nat.min_le_right _ _⟩

def isEof (s : Stream text) : Bool := text.size ≤ s.offset

/-- Whether the whole text is empty, wherever the position is. -/
def isEmpty (_ : Stream text) : Bool := text.size == 0

def rest (s : Stream text) : List Char := text.toList.drop s.offset

def remaining (s : Stream text) : String := String.ofList s.rest

def slice (s t : Stream text) : List Char := (text.toList.take t.offset).drop s.offset

inductive Move where
  | advance
  | reset
deriving DecidableEq, Repr

def move (s : Stream text) : Move → Stream text
  | .advance => s.advance
  | .reset => start text

def moves (text : Array Char) (ms : List Move) : Stream text := ms.foldl move (start text)

@[simp] theorem offset_start : (start text).offset = 0 := rfl

@[simp] theorem offset_advance (s : Stream text) :
    s.advance.offset = min (s.offset + 1) text.size := rfl

theorem isEof_iff (s : Stream text) : s.isEof = true ↔ s.offset = text.size := by
  have := s.offset_le
  simp only [isEof, decide_eq_true_eq]
  omega

theorem peek_eq_none_iff (s : Stream text) : s.peek = none ↔ s.isEof = true := by
  simp [peek, isEof]

theorem offset_advance_of_lt (s : Stream text) (h : s.offset < text.size) :
    s.advance.offset = s.offset + 1 := by
  simp only [offset_advance]
  omega

@[simp] theorem move_advance (s : Stream text) : s.move .advance = s.advance := rfl

@[simp] theorem move_reset (s : Stream text) : s.move .reset = start text := rfl

theorem offset_advance_of_eof (s : Stream text) (h : s.isEof = true) :
    s.advance = s := by
  rw [isEof_iff] at h
  ext
  simp only [offset_advance]
  omega

end Stream

end Parsing
