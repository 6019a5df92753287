import Galley.Proofs.Line.Bucketing
import Galley.Rendering.Grid

/-!
This module contains what the cell of a grid depends on: once its width is set, on the sizes of the
words alone, in whatever order they are kept.
-/

namespace Galley.Rendering

open Binary64

theorem order_ne_gt_eq_atMost
    : (fun a b : Float => Scalar.order a b != .gt) = atMost orderKey := by
  funext a b
  unfold atMost
  rw [Bool.eq_iff_iff, bne_iff_ne, decide_eq_true_iff]
  exact Int.compare_ne_gt

theorem medianSize_of_perm {words words' : List (Word Float)}
    (h : (words'.map Word.size).Perm (words.map Word.size))
    : medianSize words' = medianSize words := by
  have hsorted : ∀ sizes : List Float,
      (sizes.mergeSort (atMost orderKey)).Pairwise fun a b => atMost orderKey a b = true :=
    List.pairwise_mergeSort (atMost_trans orderKey) (atMost_total orderKey)
  have hperm := ((List.mergeSort_perm _ (atMost orderKey)).trans h).trans
    (List.mergeSort_perm _ (atMost orderKey)).symm
  have hsizes := List.Perm.eq_of_pairwise (by
    intro a b _ _ hab hba
    unfold atMost at hab hba
    rw [decide_eq_true_iff] at hab hba
    exact orderKey_inj (by omega)) (hsorted _) (hsorted _) hperm
  unfold medianSize
  rw [order_ne_gt_eq_atMost, hsizes]

theorem cell_ofWords {options : GridOptions Float} (hwidth : options.cellWidth.isSome)
    {drawn drawn' : List (Word Float)} (h : drawn'.map Word.size = drawn.map Word.size)
    (bucketHeight bucketHeight' : Float)
    : cell options (.ofWords bucketHeight' drawn')
        =
      cell options (.ofWords bucketHeight drawn) := by
  have hperm : ((Pools.ofWords bucketHeight' drawn').words.map Word.size).Perm
      ((Pools.ofWords bucketHeight drawn).words.map Word.size) := by
    apply ((Pools.words_ofWords_perm bucketHeight' drawn').map Word.size).trans
    rw [h]
    exact ((Pools.words_ofWords_perm bucketHeight drawn).map Word.size).symm
  obtain ⟨width, hsome⟩ := Option.isSome_iff_exists.mp hwidth
  unfold cell
  dsimp only
  rw [medianSize_of_perm hperm, hsome, Option.getD_some, Option.getD_some]

end Galley.Rendering
