import Spreadsheet.Sheet.Unseen

/-!
# Invalidation

When a cell changes, the values of the cells that read it, directly or through others, are out of
date. `Store.affected` collects them from some addresses along the dependants, and
`Store.invalidateFrom` forgets their values.
-/

namespace Spreadsheet.Store

/-- The addresses in `seen`, and those that the pending ones reach along dependants. -/
def reach (s : Store) (seen : AddressSet) : List Address → AddressSet
  | [] => seen
  | a :: pending =>
    if _seen : seen.contains a then reach s seen pending
    else reach s (seen.insert a) ((s.dependants a).toList ++ pending)
termination_by pending => (s.unseen seen, pending.length)
decreasing_by
  · exact Prod.Lex.right _ (by simp)
  · by_cases stored : a ∈ s.entries
    · exact Prod.Lex.left _ _ (unseen_insert_lt stored (by simpa using _seen))
    · rcases Nat.lt_or_eq_of_le (unseen_insert_le s seen a) with smaller | same
      · exact Prod.Lex.left _ _ smaller
      · rw [same]
        refine Prod.Lex.right _ ?_
        simp [dependants_of_not_mem stored]

/-- The addresses that some addresses reach along dependants, themselves included. -/
def affected (s : Store) (seeds : List Address) : AddressSet :=
  s.reach ∅ seeds

/-- Forgets the values of all addresses in a set. -/
def invalidateAll (s : Store) (stale : AddressSet) : Store :=
  stale.toList.foldl invalidate s

/-- Forgets the values of some addresses and of all that depends on them, and answers which. -/
def invalidateFrom (s : Store) (seeds : List Address) : AddressSet × Store :=
  let stale := s.affected seeds
  (stale, s.invalidateAll stale)

end Spreadsheet.Store
