import Mathlib.Data.List.Perm.Basic
import Mathlib.Data.List.Sort

/-!
# Sorted lists

Sorting keeps elements that share a place in the order in which they were.  So it may change places
with filtering, two lists that agree on the elements with each key are the same when they are sorted
by it, and inserting one element after the other comes to the same as sorting.
-/

namespace PartsList

variable {α β : Type} {le : α → α → Bool} {next : α → α → Prop}

/-! ## Stable order -/

/-- The order places all elements in one line, where several may share a place. -/
structure IsLinear (le : α → α → Bool) : Prop where
  /-- What comes later than a later element comes later. -/
  trans : ∀ a b c, le a b → le b c → le a c
  /-- Of two elements one comes no later than the other. -/
  total : ∀ a b, le a b || le b a

theorem IsLinear.comap (linear : IsLinear le) (place : β → α) :
    IsLinear fun a b => le (place a) (place b) where
  trans _ _ _ := linear.trans _ _ _
  total _ _ := linear.total _ _

/-- The first element comes before the second by the order, or shares its place and comes before it
by the other order. -/
def TieBroken (le : α → α → Bool) (next : α → α → Prop) (first second : α) : Prop :=
  le first second = true ∧ (le second first = true → next first second)

/-- The second list is the first one sorted, and elements that share a place stand in it as they
stood in the first.  The elements are told apart by their positions. -/
def IsStableSort (le : α → α → Bool) (list sorted : List α) : Prop :=
  ∃ places : List (α × ℕ), places.Perm list.zipIdx ∧ places.map Prod.fst = sorted ∧
    places.Pairwise (TieBroken (fun first second => le first.1 second.1) (·.2 < ·.2))

theorem pairwise_zipIdx (list : List α) : list.zipIdx.Pairwise (·.2 < ·.2) := by
  rw [← List.pairwise_map (f := Prod.snd), List.zipIdx_map_snd]
  exact List.pairwise_lt_range' 1

theorem eq_of_mem_zipIdx {list : List α} {place other : α × ℕ} (mem : place ∈ list.zipIdx)
    (mem' : other ∈ list.zipIdx) (same : place.2 = other.2) : place = other := by
  rw [List.mem_zipIdx_iff_getElem?] at mem mem'
  rw [same, mem'] at mem
  exact Prod.ext (Option.some.inj mem.symm) same

theorem isLinear_position : IsLinear fun place other : α × ℕ => decide (place.2 ≤ other.2) where
  trans place other third := by
    simp only [decide_eq_true_iff]
    exact Nat.le_trans
  total place other := by
    simp only [Bool.or_eq_true, decide_eq_true_iff]
    exact Nat.le_total _ _

/-- Elements that share a place stay in any order that they were in. -/
theorem pairwise_mergeSort_tieBroken (linear : IsLinear le) {list : List α}
    (ordered : list.Pairwise next) : (list.mergeSort le).Pairwise (TieBroken le next) := by
  induction list with
  | nil => simp
  | cons first list induction =>
    -- Sorting puts the first element in front of all that share its place.
    obtain ⟨lower, upper, sorted, rest, below⟩ :=
      List.mergeSort_cons linear.trans linear.total first list
    obtain ⟨before, ordered⟩ := List.pairwise_cons.1 ordered
    have perm : (lower ++ upper).Perm list := rest ▸ List.mergeSort_perm list le
    have ranks := List.pairwise_mergeSort linear.trans linear.total (first :: list)
    have ties := induction ordered
    rw [rest, List.pairwise_append] at ties
    rw [sorted, List.pairwise_append, List.pairwise_cons] at ranks
    rw [sorted, List.pairwise_append, List.pairwise_cons]
    refine ⟨ties.1, ⟨fun other mem => ?_, ties.2.1⟩, fun other mem another mem' => ?_⟩
    · refine ⟨ranks.2.1.1 other mem, fun _ => ?_⟩
      exact before other (perm.mem_iff.1 (List.mem_append_right lower mem))
    · rcases List.mem_cons.1 mem' with rfl | mem'
      · refine ⟨ranks.2.2 other mem another List.mem_cons_self, fun same => ?_⟩
        have apart := below other mem
        simp [same] at apart
      · exact ties.2.2 other mem another mem'

/-- Two arrangements of the same elements are one, if the orders tell the elements apart. -/
theorem eq_of_pairwise_tieBroken {list list' : List α} (perm : list.Perm list')
    (sorted : list.Pairwise (TieBroken le next)) (sorted' : list'.Pairwise (TieBroken le next))
    (apart : ∀ a ∈ list, ∀ b ∈ list, le a b → le b a → next a b → next b a → a = b) :
    list = list' := by
  refine List.Perm.eq_of_pairwise (fun a b mem mem' before after => ?_) sorted sorted' perm
  exact apart a mem b (perm.mem_iff.2 mem') before.1 after.1 (before.2 after.1) (after.2 before.1)

theorem isStableSort_mergeSort (linear : IsLinear le) (list : List α) :
    IsStableSort le list (list.mergeSort le) := by
  refine ⟨list.zipIdx.mergeSort fun first second => le first.1 second.1,
    List.mergeSort_perm _ _, ?_, ?_⟩
  · rw [List.map_mergeSort (s := le) fun _ _ _ _ => rfl, List.zipIdx_map_fst]
  · exact pairwise_mergeSort_tieBroken (linear.comap Prod.fst) (pairwise_zipIdx list)

/-! ## Sorting by insertion -/

/-- An element is inserted between those that it comes behind and those that come behind it. -/
theorem orderedInsert_eq {a : α} {lower upper : List α} (low : ∀ b ∈ lower, le a b = false)
    (high : ∀ b ∈ upper, le a b) :
    (lower ++ upper).orderedInsert (fun a b => le a b = true) a = lower ++ a :: upper := by
  induction lower with
  | nil =>
      cases upper with
      | nil => rfl
      | cons b upper => exact if_pos (high b List.mem_cons_self)
  | cons b lower induction =>
      have behind : ¬le a b = true := by simp [low b List.mem_cons_self]
      refine (if_neg behind).trans (congrArg (b :: ·) ?_)
      exact induction fun c mem => low c (List.mem_cons_of_mem b mem)

/-- Sorting puts one element after the other in front of the first that it does not come behind.
This way of sorting recurs on the list itself, so that sorted lists can be computed. -/
theorem mergeSort_eq_insertionSort (linear : IsLinear le) (values : List α) :
    values.mergeSort le = values.insertionSort fun a b => le a b = true := by
  induction values with
  | nil => exact List.mergeSort_nil
  | cons a values induction =>
      obtain ⟨lower, upper, sorted, rest, low⟩ :=
        List.mergeSort_cons linear.trans linear.total a values
      have ordered := List.pairwise_mergeSort linear.trans linear.total (a :: values)
      rw [List.insertionSort_cons, ← induction, rest, sorted]
      rw [sorted] at ordered
      exact (orderedInsert_eq (fun b mem => by simpa using low b mem)
        (List.pairwise_cons.1 (List.pairwise_append.1 ordered).2.1).1).symm

/-! ## Sorting and filtering -/

theorem eq_of_append_eq {keep : α → Bool} {front back front' back' : List α}
    (kept : ∀ a ∈ front, keep a) (dropped : ∀ a ∈ back, ¬keep a) (kept' : ∀ a ∈ front', keep a)
    (dropped' : ∀ a ∈ back', ¬keep a) (same : front ++ back = front' ++ back') :
    front = front' ∧ back = back' := by
  have fronts := congrArg (List.filter keep) same
  rw [List.filter_append, List.filter_append, List.filter_eq_self.2 kept,
    List.filter_eq_self.2 kept', List.filter_eq_nil_iff.2 dropped,
    List.filter_eq_nil_iff.2 dropped', List.append_nil, List.append_nil] at fronts
  subst fronts
  exact ⟨rfl, List.append_cancel_left same⟩

/-- Sorting and filtering may change places, since sorting keeps equal elements in their order. -/
theorem filter_mergeSort (trans : ∀ a b c, le a b → le b c → le a c)
    (total : ∀ a b, le a b || le b a) (keep : α → Bool) (values : List α) :
    (values.mergeSort le).filter keep = (values.filter keep).mergeSort le := by
  induction values with
  | nil => simp
  | cons a values induction =>
      obtain ⟨lower, upper, sorted, rest, low⟩ := List.mergeSort_cons trans total a values
      rw [rest, List.filter_append] at induction
      rw [sorted, List.filter_append, List.filter_cons, List.filter_cons]
      cases kept : keep a with
      | false => simpa using induction
      | true =>
          obtain ⟨lower', upper', sorted', rest', low'⟩ :=
            List.mergeSort_cons trans total a (values.filter keep)
          have above {lower upper values : List α}
              (sorted : values.mergeSort le = lower ++ a :: upper) :
              ∀ b ∈ upper, ¬(!le a b) = true := by
            have ordered := List.pairwise_mergeSort trans total values
            rw [sorted, List.pairwise_append, List.pairwise_cons] at ordered
            intro b mem
            simpa using ordered.2.1.1 b mem
          have parts := eq_of_append_eq
            (fun b mem => low b (List.mem_filter.1 mem).1)
            (fun b mem => above sorted b (List.mem_filter.1 mem).1) low' (above sorted')
            (induction.trans rest')
          rw [if_pos rfl, if_pos rfl, sorted', parts.1, parts.2]

/-- Two lists that are sorted by a key and agree on the elements with each key are the same. -/
theorem eq_of_filter_key_eq {key : α → String} {values others : List α}
    (sorted : values.Pairwise (key · ≤ key ·)) (sorted' : others.Pairwise (key · ≤ key ·))
    (same : ∀ k, values.filter (key · == k) = others.filter (key · == k)) : values = others := by
  have least {a b : α} {values others : List α} (sorted : (a :: values).Pairwise (key · ≤ key ·))
      (same : ∀ k, (a :: values).filter (key · == k) = (b :: others).filter (key · == k)) :
      key a ≤ key b := by
    have inside : b ∈ (a :: values).filter (key · == key b) := by
      rw [same]
      exact List.mem_filter.2 ⟨List.mem_cons_self, beq_self_eq_true _⟩
    rcases List.mem_cons.1 (List.mem_filter.1 inside).1 with rfl | mem
    · exact String.le_refl _
    · exact (List.pairwise_cons.1 sorted).1 b mem
  induction values generalizing others with
  | nil =>
      cases others with
      | nil => rfl
      | cons b others => simpa using same (key b)
  | cons a values induction =>
      cases others with
      | nil => simpa using same (key a)
      | cons b others =>
          have keys : key a = key b :=
            String.le_antisymm (least sorted same) (least sorted' fun k => (same k).symm)
          have heads := same (key a)
          rw [List.filter_cons, List.filter_cons, ← keys, if_pos (beq_self_eq_true _),
            if_pos (beq_self_eq_true _)] at heads
          obtain ⟨rfl, -⟩ := List.cons.inj heads
          refine congrArg (a :: ·) (induction sorted.of_cons sorted'.of_cons fun k => ?_)
          have tails := same k
          rw [List.filter_cons, List.filter_cons] at tails
          split at tails
          · exact (List.cons.inj tails).2
          · exact tails

/-- Lists that agree on the elements with each key are the same when they are sorted by it. -/
theorem mergeSort_eq_of_filter_key_eq {key : α → String}
    (trans : ∀ a b c, le a b → le b c → le a c) (total : ∀ a b, le a b || le b a)
    (keys : ∀ a b, le a b → key a ≤ key b) {values others : List α}
    (same : ∀ k, values.filter (key · == k) = others.filter (key · == k)) :
    values.mergeSort le = others.mergeSort le := by
  have sorted (values : List α) : (values.mergeSort le).Pairwise (key · ≤ key ·) :=
    (List.pairwise_mergeSort trans total values).imp (keys _ _)
  refine eq_of_filter_key_eq (sorted values) (sorted others) fun k => ?_
  rw [filter_mergeSort trans total, filter_mergeSort trans total, same k]

end PartsList
