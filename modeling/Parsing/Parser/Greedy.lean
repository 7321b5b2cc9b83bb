import Parsing.Parser.Basic

/-!
Greedy repetition. `greedy m p` runs `p` once, then again while input is left and each run
consumes, and combines the values by `m`. The first run must succeed; a later recoverable error
ends the repetition where the last run stopped. A run that consumes nothing would repeat
forever, so it is a fatal error at the position where it started. The loop is well-founded on the
number of characters left, which every continuing step lowers.
-/

namespace Parsing

namespace Parser

variable {α : Type}

/-- The repetition after its first run: from `current`, with `acc` gathered so far. -/
def greedyFrom (m : Monoid α) (p : Parser α) {text : Array Char} (current : Stream text)
    (acc : α) : Outcome text α :=
  if current.offset < text.size then
    match p.parse current with
    | .ok (next, a) =>
      if current.offset < next.offset then greedyFrom m p next (m.combine acc a)
      else .error (.fatal current.offset ParseError.noProgress)
    | .error e => if e.isFatal then .error e else .ok (current, acc)
  else .ok (current, acc)
termination_by text.size - current.offset
decreasing_by have := next.offset_le; omega

/-- Runs `p` as often as it succeeds and consumes, at least once, and combines the values. -/
def greedy (m : Monoid α) (p : Parser α) : Parser α where
  parse s :=
    match p.parse s with
    | .error e => .error e
    | .ok (next, a) =>
      if s.offset < next.offset then greedyFrom m p next a
      else .error (.fatal s.offset ParseError.noProgress)

def many1 (p : Parser α) : Parser (List α) := greedy (Monoid.list α) p.toList

theorem greedyFrom_eq (m : Monoid α) (p : Parser α) {text : Array Char} (current : Stream text)
    (acc : α) :
    greedyFrom m p current acc =
      if current.offset < text.size then
        match p.parse current with
        | .ok (next, a) =>
          if current.offset < next.offset then greedyFrom m p next (m.combine acc a)
          else .error (.fatal current.offset ParseError.noProgress)
        | .error e => if e.isFatal then .error e else .ok (current, acc)
      else .ok (current, acc) := by
  rw [greedyFrom]

end Parser

end Parsing
