import PartsList.Proofs.Store.Delivery

/-!
# Deliveries that are repeated

What a delivery leaves under a key of the tables it leaves there whatever they held before, or it
does not touch the key.  So a batch that is delivered twice in a row leaves what it leaves when it
is delivered once, also when a result has rows of another file.
-/

namespace PartsList

namespace StoredRow

theorem sameKey_congr {row other : StoredRow} (same : row.sameKey other = true)
    (third : StoredRow) :
    other.sameKey third = row.sameKey third := by
  simp only [sameKey, Bool.and_eq_true, beq_iff_eq] at same
  obtain ⟨⟨path, page⟩, index⟩ := same
  rw [sameKey, sameKey, path, page, index]

theorem filePath_of_sameKey {row other : StoredRow} (same : row.sameKey other = true) :
    row.filePath = other.filePath := by
  simp only [sameKey, Bool.and_eq_true, beq_iff_eq] at same
  exact same.1.1

end StoredRow

namespace ExtractionResult

/-- The rows that a result brings to the table. -/
def storedRows (result : ExtractionResult) : List StoredRow :=
  if result.success then result.rows.map StoredRow.ofRow else []

/-- What a result leaves under the key of a row, if it touches the key. -/
def leaves? (key : StoredRow) (result : ExtractionResult) : Option (List StoredRow) :=
  match result.storedRows.reverse.find? key.sameKey with
  | some row => some [row]
  | none => if result.filePath.spelling = key.filePath then some [] else none

/-- What the last of several results that touches a key leaves there. -/
def lastLeft? (key : StoredRow) (results : List ExtractionResult) : Option (List StoredRow) :=
  results.reverse.findSome? (leaves? key)

end ExtractionResult

namespace Store

open ExtractionResult

/-- Both stores hold the same under every key. -/
structure Same (store other : Store) : Prop where
  /-- The rows. -/
  rows : ∀ key : StoredRow, store.rows.filter key.sameKey = other.rows.filter key.sameKey
  /-- The summaries. -/
  summaries : ∀ path, store.summaries.filter (·.filePath == path) =
    other.summaries.filter (·.filePath == path)

theorem Same.refl (store : Store) : store.Same store :=
  ⟨fun _ => rfl, fun _ => rfl⟩

variable {key : StoredRow}

theorem filter_key_putRow (rows : List StoredRow) (row : StoredRow) :
    (putRow rows row).filter key.sameKey =
      if key.sameKey row then [row] else rows.filter key.sameKey := by
  rw [putRow, List.filter_append, List.filter_filter]
  cases same : key.sameKey row with
  | true =>
      have none : (rows.filter fun other => key.sameKey other && !row.sameKey other) = [] := by
        refine List.filter_eq_nil_iff.2 fun other _ => ?_
        rw [StoredRow.sameKey_congr same]
        simp
      rw [none]
      simp [same]
  | false =>
      have apart : (rows.filter fun other => key.sameKey other && !row.sameKey other) =
          rows.filter key.sameKey := by
        refine List.filter_congr fun other _ => ?_
        cases its : key.sameKey other with
        | false => rfl
        | true =>
            have others : row.sameKey other = false := by
              by_contra joined
              have back := StoredRow.sameKey_congr (Bool.not_eq_false _ ▸ joined) row
              rw [StoredRow.sameKey_congr its, same] at back
              simp [StoredRow.sameKey] at back
            rw [others]
            rfl
      rw [apart]
      simp [same]

theorem filter_key_foldl_putRow (rows stored : List StoredRow) :
    (rows.foldl putRow stored).filter key.sameKey =
      match rows.reverse.find? key.sameKey with
      | some row => [row]
      | none => stored.filter key.sameKey := by
  induction rows using List.reverseRecOn with
  | nil => rfl
  | append_singleton rows row induction =>
      rw [List.foldl_append, List.foldl_cons, List.foldl_nil, filter_key_putRow, induction,
        List.reverse_append, List.reverse_singleton, List.singleton_append, List.find?_cons]
      cases key.sameKey row <;> rfl

theorem filter_key_dropRows (path : String) (stored : List StoredRow) :
    (dropRows path stored).filter key.sameKey =
      if path = key.filePath then [] else stored.filter key.sameKey := by
  rw [dropRows, List.filter_filter]
  split
  · next same =>
      refine List.filter_eq_nil_iff.2 fun row _ both => ?_
      obtain ⟨its, apart⟩ := Bool.and_eq_true_iff.1 both
      rw [← StoredRow.filePath_of_sameKey its, same] at apart
      simp at apart
  · next other =>
      refine List.filter_congr fun row _ => ?_
      cases its : key.sameKey row with
      | false => rfl
      | true =>
          have apart : row.filePath ≠ path := fun same =>
            other (same.symm.trans (StoredRow.filePath_of_sameKey its).symm)
          simpa using apart

theorem filter_key_deliverRows (stored : List StoredRow) (result : ExtractionResult) :
    (deliverRows stored result).filter key.sameKey =
      (leaves? key result).getD (stored.filter key.sameKey) := by
  have rows : deliverRows stored result =
      result.storedRows.foldl putRow (dropRows result.filePath.spelling stored) := by
    unfold deliverRows storedRows
    split <;> rfl
  rw [rows, filter_key_foldl_putRow, leaves?, filter_key_dropRows]
  cases result.storedRows.reverse.find? key.sameKey with
  | some row => rfl
  | none =>
      dsimp only
      split <;> rfl

/-- The rows under a key are those that the last result left there. -/
theorem filter_key_deliverAll (store : Store) (results : List ExtractionResult) :
    (store.deliverAll results).rows.filter key.sameKey =
      (lastLeft? key results).getD (store.rows.filter key.sameKey) := by
  induction results using List.reverseRecOn with
  | nil => rfl
  | append_singleton results result induction =>
      rw [deliverAll, List.foldl_append, List.foldl_cons, List.foldl_nil, lastLeft?,
        List.reverse_append, List.reverse_singleton, List.singleton_append, List.findSome?_cons]
      refine (filter_key_deliverRows _ result).trans ?_
      cases leaves? key result with
      | some left => rfl
      | none => exact induction

/-- A batch that is delivered once more in between leaves the same. -/
theorem same_deliverAll_repeat (store : Store) (front batch back : List ExtractionResult) :
    (store.deliverAll (front ++ (batch ++ (batch ++ back)))).Same
      (store.deliverAll (front ++ (batch ++ back))) where
  rows key := by
    rw [filter_key_deliverAll, filter_key_deliverAll]
    congr 1
    simp only [lastLeft?, List.reverse_append, List.findSome?_append, Option.or_assoc]
    cases back.reverse.findSome? (leaves? key) with
    | some left => rfl
    | none => cases batch.reverse.findSome? (leaves? key) <;> rfl
  summaries path := by
    rw [filter_summaries_deliverAll, filter_summaries_deliverAll, last?_repeat]

end Store

end PartsList
