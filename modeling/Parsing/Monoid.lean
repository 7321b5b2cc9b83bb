/-!
Accumulation strategies. A parser's results are combined by a monoid: an identity for "nothing
yet" and an associative operation. Text parsers append strings, list parsers append lists.
-/

namespace Parsing

/-- A way to combine the results of consecutive parsers. -/
structure Monoid (α : Type) where
  identity : α
  combine : α → α → α

namespace Monoid

variable {α : Type}

def text : Monoid String := ⟨"", (· ++ ·)⟩

def list (α : Type) : Monoid (List α) := ⟨[], (· ++ ·)⟩

def concat (m : Monoid α) (values : List α) : α :=
  values.foldl m.combine m.identity

structure Lawful (m : Monoid α) : Prop where
  identity_combine : ∀ a, m.combine m.identity a = a
  combine_identity : ∀ a, m.combine a m.identity = a
  combine_assoc : ∀ a b c, m.combine (m.combine a b) c = m.combine a (m.combine b c)

theorem text_lawful : text.Lawful :=
  ⟨fun _ => String.empty_append, fun _ => String.append_empty,
    fun _ _ _ => String.append_assoc⟩

theorem list_lawful (α : Type) : (list α).Lawful :=
  ⟨List.nil_append, List.append_nil, List.append_assoc⟩

end Monoid

end Parsing
