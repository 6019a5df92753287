import Galley.Pool

/-!
Where the words of a page are kept. Each goes to its pool as soon as it is finished, or, in stream
order, to the end of a list.
-/

namespace Galley

/-- The words of a page in the place where the settings want them; the other one stays empty. -/
structure WordStore (α : Type) where
  pools : Pools α
  /-- The words in stream order, latest first. -/
  latest : List (Word α)
deriving Repr

namespace WordStore

variable {α : Type} [Scalar α]

omit [Scalar α] in
def empty (bucketHeight : α) : WordStore α := ⟨.empty bucketHeight, []⟩

/-- Put a finished word in its place. -/
def put (settings : Settings α) (store : WordStore α) (w : Word α) : WordStore α :=
  if settings.streamOrder then { store with latest := w :: store.latest }
  else { store with pools := store.pools.add w }

omit [Scalar α] in
/-- The words in stream order. -/
def stream (store : WordStore α) : List (Word α) := store.latest.reverse

end WordStore
end Galley
