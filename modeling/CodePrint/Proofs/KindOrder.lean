import CodePrint.Variant
import Mathlib.Data.List.Nodup
import Mathlib.Data.List.Perm.Basic

/-! # The order of kinds

The kinds of variants have an order, in which all of them can be listed. Keeping the kinds of a list
in that order is the same as sorting them, provided that none of them comes twice.
-/

namespace CodePrint

/-- Items that are sorted by rank stand in the order of their ranks. -/
theorem pairwise_mergeSort_rank {α : Type} (rank : α → Nat) (items : List α) :
    (items.mergeSort fun a b => rank a ≤ rank b).Pairwise fun item later =>
      rank item ≤ rank later := by
  have trans (a b c : α) : decide (rank a ≤ rank b) = true → decide (rank b ≤ rank c) = true →
      decide (rank a ≤ rank c) = true := by
    simpa using Nat.le_trans
  have total (a b : α) : (decide (rank a ≤ rank b) || decide (rank b ≤ rank a)) = true := by
    simpa using Nat.le_total (rank a) (rank b)
  have ranked := List.pairwise_mergeSort trans total items
  simp only [decide_eq_true_eq] at ranked
  exact ranked

namespace VariantKind

/-- The kinds of a list, each once, in the order of all kinds. -/
def inOrder (kinds : List VariantKind) : List VariantKind :=
  all.filter (· ∈ kinds)

/-- The list of all kinds has every kind. -/
theorem mem_all (kind : VariantKind) : kind ∈ all := by
  cases kind <;> decide

/-- No two kinds have the same rank. -/
theorem rank_injective {kind other : VariantKind} (same : kind.rank = other.rank) :
    kind = other := by
  revert same
  cases kind <;> cases other <;> decide

/-- No two kinds have the same name. -/
theorem name_injective : Function.Injective name := by
  intro kind other same
  revert same
  cases kind <;> cases other <;> decide

/-- Putting kinds in order loses none and adds none. -/
@[simp] theorem mem_inOrder {kind : VariantKind} {kinds : List VariantKind} :
    kind ∈ inOrder kinds ↔ kind ∈ kinds := by
  simp [inOrder, mem_all]

/-- The list of all kinds has each of them once. -/
theorem all_nodup : all.Nodup := by decide

/-- Kinds that are put in order are listed once each. -/
theorem inOrder_nodup (kinds : List VariantKind) : (inOrder kinds).Nodup :=
  all_nodup.sublist List.filter_sublist

/-- Kinds that are put in order have ranks that never decrease. -/
theorem inOrder_ranked (kinds : List VariantKind) :
    (inOrder kinds).Pairwise fun kind later => kind.rank ≤ later.rank :=
  List.Pairwise.sublist List.filter_sublist
    (by decide : all.Pairwise fun kind later => kind.rank ≤ later.rank)

/-- The order of kinds depends on which kinds are listed, not on where or how often. -/
theorem inOrder_congr {kinds others : List VariantKind}
    (same : ∀ kind, kind ∈ kinds ↔ kind ∈ others) : inOrder kinds = inOrder others := by
  refine List.filter_congr fun kind _ => ?_
  rw [decide_eq_decide]
  exact same kind

/-- Kinds in order stay as they are when they are put in order again. -/
theorem inOrder_inOrder (kinds : List VariantKind) : inOrder (inOrder kinds) = inOrder kinds :=
  inOrder_congr fun _ => mem_inOrder

/-- Putting kinds in order loses none of them. -/
theorem inOrder_ne_nil {kinds : List VariantKind} (inhabited : kinds ≠ []) :
    inOrder kinds ≠ [] := by
  obtain ⟨kind, member⟩ := List.exists_mem_of_ne_nil kinds inhabited
  exact List.ne_nil_of_mem (mem_inOrder.mpr member)

/-- Distinct kinds are sorted by keeping them in the order of all kinds. -/
theorem sort_eq_inOrder {kinds : List VariantKind} (distinct : kinds.Nodup) :
    sort kinds = inOrder kinds := by
  have sorted : (sort kinds).Pairwise fun kind later => kind.rank ≤ later.rank :=
    pairwise_mergeSort_rank rank kinds
  have permuted : (sort kinds).Perm kinds := List.mergeSort_perm kinds _
  refine List.Perm.eq_of_pairwise (fun kind later _ _ below above => ?_) sorted
    (inOrder_ranked kinds) ?_
  · exact rank_injective (Nat.le_antisymm below above)
  · refine (List.perm_ext_iff_of_nodup (permuted.nodup_iff.mpr distinct)
      (inOrder_nodup kinds)).mpr fun kind => ?_
    rw [permuted.mem_iff, mem_inOrder]

end VariantKind

end CodePrint
