import PartsList.Path
import PartsList.Proofs.Sorting

/-!
# The order of paths

Paths are ordered by their components, from the first one on, and components by their kind and then
by their names.  Any two paths are comparable, and the order is transitive.
-/

namespace PartsList

namespace Component

/-- The name, if the component is one. -/
def text : Component → String
  | normal name => name
  | root | current | parent => ""

theorem order_eq_compareLex : order = compareLex (compareOn rank) (compareOn text) := by
  funext left right
  cases left <;> cases right <;> rfl

instance : Std.TransCmp order :=
  order_eq_compareLex ▸ inferInstance

end Component

namespace Path

theorem orderComponents_eq_compareLex (left right : List Component) :
    orderComponents left right = List.compareLex Component.order left right := by
  induction left generalizing right with
  | nil => cases right <;> rfl
  | cons first rest induction =>
      cases right with
      | nil => rfl
      | cons other others => rw [orderComponents, induction, List.compareLex_cons_cons]

theorem order_eq_compareLex (path other : Path) :
    path.order other = List.compareLex Component.order path.components other.components :=
  orderComponents_eq_compareLex _ _

instance : Std.TransCmp order where
  eq_swap {path other} := by
    rw [order_eq_compareLex, order_eq_compareLex]
    exact Std.OrientedCmp.eq_swap
  isLE_trans {path other third} first second := by
    rw [order_eq_compareLex] at first second ⊢
    exact Std.TransCmp.isLE_trans first second

theorem ranked_trans (path other third : Path) (first : path.ranked other)
    (second : other.ranked third) : path.ranked third :=
  Std.TransCmp.isLE_trans first second

theorem ranked_total (path other : Path) : path.ranked other || other.ranked path := by
  rw [ranked, ranked, @Std.OrientedCmp.eq_swap _ order]
  cases other.order path <;> rfl

/-- Sorted paths, computed by a sort that recurs on the list itself. -/
theorem sort_eq_insertionSort (paths : List Path) :
    sort paths = paths.insertionSort fun path other => path.ranked other = true :=
  mergeSort_eq_insertionSort ⟨ranked_trans, ranked_total⟩ paths

end Path

end PartsList
