import Parsing.Stream
import Parsing.ParseError
import Parsing.Monoid

/-!
Parsers and the combinators that build them. A parser reads from a stream over any text and
gives back a stream over the same text with a value, or a parse error. Sequencing combines the
values by a monoid; an alternative tries its second branch only after a recoverable error of the
first, from the same position; a fatal error passes through every combinator unchanged.
-/

namespace Parsing

abbrev Outcome (text : Array Char) (α : Type) := Except ParseError (Stream text × α)

/-- A parser of values of `α` over streams of characters. -/
structure Parser (α : Type) where
  parse : {text : Array Char} → Stream text → Outcome text α

namespace Parser

variable {α β γ δ : Type}

def run (p : Parser α) (input : String) : Except ParseError α :=
  (p.parse (Stream.ofString input)).map Prod.snd

/-- Runs a parser on a string from its start: the value, the offset where the parser stopped, and
the text after it. -/
def parseString (p : Parser α) (input : String) : Except ParseError (α × Nat × String) :=
  (p.parse (Stream.ofString input)).map fun (s, a) => (a, s.offset, s.remaining)

def predicate (accepts : Char → Bool) (value : Char → α) (expected : String) : Parser α where
  parse s :=
    match s.peek with
    | none => .error (.endOfInput s.offset expected)
    | some c => if accepts c then .ok (s.advance, value c) else .error (.failure s.offset expected)

def chain (m : Monoid α) (first second : Parser α) : Parser α where
  parse s :=
    match first.parse s with
    | .error e => .error e
    | .ok (s₁, a) =>
      match second.parse s₁ with
      | .error e => .error e
      | .ok (s₂, b) => .ok (s₂, m.combine a b)

/-- Runs `first`; after a recoverable error runs `second` from the same position. When both
fail recoverably, the error is `either` of the two. -/
def alt (first second : Parser α) : Parser α where
  parse s :=
    match first.parse s with
    | .ok r => .ok r
    | .error e₁ =>
      if e₁.isFatal then .error e₁
      else
        match second.parse s with
        | .ok r => .ok r
        | .error e₂ => if e₂.isFatal then .error e₂ else .error (e₁.either e₂)

/-- Runs `p`; a recoverable error becomes the identity, with nothing consumed. -/
def optional (m : Monoid α) (p : Parser α) : Parser α where
  parse s :=
    match p.parse s with
    | .ok r => .ok r
    | .error e => if e.isFatal then .error e else .ok (s, m.identity)

def map (p : Parser α) (f : α → β) : Parser β where
  parse s :=
    match p.parse s with
    | .error e => .error e
    | .ok (s₁, a) => .ok (s₁, f a)

def fatal (message : String) : Parser α where
  parse s := .error (.fatal s.offset message)

def chainAll (m : Monoid α) (first : Parser α) (rest : List (Parser α)) : Parser α where
  parse s :=
    rest.foldl
      (fun acc q =>
        match acc with
        | .error e => .error e
        | .ok (s₁, a) =>
          match q.parse s₁ with
          | .error e => .error e
          | .ok (s₂, b) => .ok (s₂, m.combine a b))
      (first.parse s)

def noParsers : String := "chain_many requires at least one parser"

/-- Runs a list of parsers in turn and combines their values; on the empty list it fails
fatally. -/
def chainMany (m : Monoid α) : List (Parser α) → Parser α
  | [] => fatal noParsers
  | p :: ps => chainAll m p ps

def surrounded (opening : Parser β) (closing : Parser γ) (inner : Parser α) : Parser α where
  parse s :=
    match opening.parse s with
    | .error e => .error e
    | .ok (s₁, _) =>
      match inner.parse s₁ with
      | .error e => .error e
      | .ok (s₂, a) =>
        match closing.parse s₂ with
        | .error e => .error e
        | .ok (s₃, _) => .ok (s₃, a)

def between (delimiter : Parser β) (inner : Parser α) : Parser α :=
  surrounded delimiter delimiter inner

def toList (p : Parser α) : Parser (List α) := p.map fun a => [a]

@[simp] theorem map_parse (p : Parser α) (f : α → β) {text : Array Char} (s : Stream text) :
    (p.map f).parse s = (p.parse s).map fun r => (r.1, f r.2) := by
  simp only [map]
  cases p.parse s <;> rfl

@[simp] theorem fatal_parse (message : String) {text : Array Char} (s : Stream text) :
    (fatal message : Parser α).parse s = .error (.fatal s.offset message) := rfl

end Parser

end Parsing
