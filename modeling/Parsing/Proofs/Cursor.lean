import Mathlib.Data.List.Induction
import Parsing.Proofs.Literals

/-!
# The cursor over a run of moves

A stream is moved one character on, or back to the start of its text. From the start, after any
sequence of such moves, the offset is the number of advances since the last reset, cut off at the
end of the text: an advance at the end leaves the stream where it is, and a reset forgets every
advance before it. Everything else a stream shows is read at its offset (the text after it, the
character under it, whether it stands at the end), except whether the text is empty, which looks
at the text alone.
-/

namespace Parsing

namespace Stream

set_option autoImplicit false

variable {text : Array Char}

/-- How many advances follow the last reset of a sequence of moves, or its start if it has no
reset. -/
def advancesSinceReset (ms : List Move) : Nat :=
  (ms.reverse.takeWhile (· != .reset)).count .advance

@[simp] theorem advances_since_reset_nil : advancesSinceReset [] = 0 := rfl

@[simp] theorem advances_since_reset_advance (ms : List Move) :
    advancesSinceReset (ms ++ [.advance]) = advancesSinceReset ms + 1 := by
  simp [advancesSinceReset]

@[simp] theorem advances_since_reset_reset (ms : List Move) :
    advancesSinceReset (ms ++ [.reset]) = 0 := by
  simp [advancesSinceReset]

theorem moves_append_move (ms : List Move) (m : Move) :
    moves text (ms ++ [m]) = (moves text ms).move m := by
  simp only [moves, List.foldl_append, List.foldl_cons, List.foldl_nil]

theorem offset_moves (ms : List Move) :
    (moves text ms).offset = min (advancesSinceReset ms) text.size := by
  -- one move at a time at the end, where `advancesSinceReset` is read
  induction ms using List.reverseRecOn with
  | nil => simp [moves]
  | append_singleton ms m before =>
    rw [moves_append_move]
    cases m with
    | advance =>
      rw [move_advance, offset_advance, before, advances_since_reset_advance]
      omega
    | reset => simp

example : (moves #['a', 'b'] [.advance, .advance, .advance, .reset, .advance]).offset = 1 := by
  decide

/-- What a stream shows when it stands `o` characters into its text: the text from `o` on, the
character at `o`, the end exactly when `o` is the length, and an empty text only when the text
is empty. -/
structure ShowsOffset (s : Stream text) (o : Nat) : Prop where
  offset_eq : s.offset = o
  remaining_eq : s.remaining = String.ofList (text.extract o).toList
  peek_eq : s.peek = text[o]?
  isEof_iff : s.isEof = true ↔ o = text.size
  isEmpty_iff : s.isEmpty = true ↔ text.size = 0

theorem rest_eq_extract (s : Stream text) : s.rest = (text.extract s.offset).toList := by
  rw [rest, Array.toList_extract, List.extract_eq_take_drop, List.take_of_length_le]
  simp

theorem shows_own_offset (s : Stream text) : ShowsOffset s s.offset where
  offset_eq := rfl
  remaining_eq := by rw [remaining, rest_eq_extract]
  peek_eq := rfl
  isEof_iff := isEof_iff s
  isEmpty_iff := by simp [isEmpty]

/-- After any run of advances and resets from the start of a text, the stream stands at the
advances since the last reset, cut off at the end, and shows what lies there. -/
theorem cursor_follows_moves (text : Array Char) (ms : List Move) :
    ShowsOffset (moves text ms) (min (advancesSinceReset ms) text.size) := by
  rw [← offset_moves]
  exact shows_own_offset _

end Stream

end Parsing
