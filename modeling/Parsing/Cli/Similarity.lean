/-!
Similarity of short strings, for suggesting a near name after a typing mistake. The Jaro
similarity counts the characters of each string that match a character of the other within a
window of half the longer length, less one; a match is taken at the first unmatched position in
the window. With `m` matches and `t` half the number of matched characters out of order, the
similarity is the mean of `m / |a|`, `m / |b|` and `(m - t) / m`, and zero without matches.
-/

namespace Parsing

namespace Cli

/-- Marks, for each character of `a` in turn, the first unmatched equal character of `b` within
the window. Returns the marks of `a` and of `b`. -/
def matchMarks (a b : Array Char) (window : Nat) : Array Bool × Array Bool :=
  (List.range a.size).foldl (fun (marksA, marksB) i =>
    let lo := i - window
    let hi := min b.size (i + window + 1)
    match (List.range' lo (hi - lo)).find? fun j => a[i]? = b[j]? ∧ marksB[j]? = some false with
    | some j => (marksA.setIfInBounds i true, marksB.setIfInBounds j true)
    | none => (marksA, marksB))
    (Array.replicate a.size false, Array.replicate b.size false)

def jaro (s t : String) : Float :=
  let a := s.toList.toArray
  let b := t.toList.toArray
  if a.size = 0 ∧ b.size = 0 then 1
  else if a.size = 0 ∨ b.size = 0 then 0
  else
    let window := max a.size b.size / 2 - 1
    let (marksA, marksB) := matchMarks a b window
    let matchedA := (List.range a.size).filterMap fun i => if marksA[i]? = some true then a[i]? else none
    let matchedB := (List.range b.size).filterMap fun j => if marksB[j]? = some true then b[j]? else none
    let m := matchedA.length
    if m = 0 then 0
    else
      let t := ((matchedA.zip matchedB).filter fun p => p.1 ≠ p.2).length / 2
      (m.toFloat / a.size.toFloat + m.toFloat / b.size.toFloat +
        (m - t).toFloat / m.toFloat) / 3

/-- The candidate most similar to `s`, if any is similar enough (above 0.7); of equally similar
ones the last. -/
def suggest (s : String) (candidates : List String) : Option String :=
  (candidates.foldl (fun best c =>
    let score := jaro s c
    if score > 0.7 then
      match best with
      | some (_, top) => if score < top then best else some (c, score)
      | none => some (c, score)
    else best) none).map Prod.fst

end Cli

end Parsing
