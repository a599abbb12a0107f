import ImageScan.DeltaOps
import ImageScan.DeltaLemmas
import Mathlib.Data.List.Perm.Basic

/-! The batch of a scheduling pass and its dispatch. `scheduleScans` sorts the
pending images by failure count and cuts them to the concurrency budget, so
the batch is a choice of `min(|pending|, budget)` pending images of fewest
failures, whatever order the sort leaves ties in. `scanImages` then starts a
unit per image in batch order and checks each image's name only as it comes
to it: a nameless image ends the dispatch with an error after the units of the
images before it have started, and the call returns without awaiting them.
In the controller's runs no batch holds a nameless image: an entry takes its
name from the container that writes it, and the nameless entries of a remote
list are scanned, so never pending. -/
namespace ImageScan.BatchDispatch

open Kube Controller DeltaState DeltaLemmas DeltaOps

/-! ## Selection -/

/-- `batch` is `min(|pending|, budget)` of the `pending` images, each image
taken at most as often as it is pending, and none of them has more failures
than a pending image left out. -/
def BatchOf (pending : List Image) (budget : Nat) (batch : List Image) : Prop :=
  ∃ left, (batch ++ left).Perm pending ∧ batch.length = min pending.length budget ∧
    ∀ img ∈ batch, ∀ other ∈ left, img.failures ≤ other.failures

/-- The comparison `findPendingImages` sorts by is a strict weak ordering. -/
theorem fewerFailures_ordering :
    TransitiveOrdering fun a b : Image => decide (a.failures < b.failures) where
  irrefl a := by simp
  trans a b c := by simp only [decide_eq_true_eq]; exact Nat.lt_trans
  not_trans a b c := by simp only [decide_eq_false_iff_not, Nat.not_lt]; exact fun ab bc => bc.trans ab

/-- A non-negative budget never panics: the batch is the first `budget`
images. -/
theorem imagesForScan_eq_take {pending : List Image} {budget : Int} (nonneg : 0 ≤ budget) :
    imagesForScan pending budget = some (pending.take budget.toNat) := by
  unfold imagesForScan
  split
  · rw [if_neg (by omega)]
  · rw [List.take_of_length_le (by omega)]

/-- The first `n` images of a sorting of `pending` are a batch of it. -/
theorem batchOf_take {sorted pending : List Image} (n : Nat) (perm : sorted.Perm pending)
    (sorted_by : sorted.Pairwise fun a b => decide (b.failures < a.failures) = false) :
    BatchOf pending n (sorted.take n) := by
  refine ⟨sorted.drop n, (List.take_append_drop n sorted).symm ▸ perm, ?_, ?_⟩
  · rw [List.length_take, perm.length_eq, Nat.min_comm]
  · rw [← List.take_append_drop n sorted, List.pairwise_append] at sorted_by
    intro img taken other left
    simpa using sorted_by.2.2 img taken other left

theorem concurrentScansNumber_nonneg (w : Wiring) (c : Controller)
    (nonneg : 0 ≤ w.config.maxConcurrentScans) : 0 ≤ c.concurrentScansNumber w := by
  unfold concurrentScansNumber
  split <;> omega

/-- For every state, every clock and every budget `MaxConcurrentScans ≥ 0`,
the batch a pass selects exists (the cut does not panic), and it is the batch
the pass reports and the one `scanImages` receives, whose state the pass ends
in: `min(|P|, b)` images of the pending images `P` of the state it selects
from, with `b` one on a single node and `MaxConcurrentScans` otherwise, taken
without repetition, none with more failures than a pending image left out. -/
theorem scan_batch_selection (w : Wiring) (nonneg : 0 ≤ w.config.maxConcurrentScans)
    (env : PassEnv) (c : Controller) :
    let reported := ((c.syncFromRemoteState env.syncNow env.getSyncState).updateImageStatuses
      env.reportNow env.updateImageStatus).1
    let pending := reported.delta.getImages.filter fun img => isImagePending img env.selectNow
    let budget := if reported.delta.nodeCount = 1 then 1 else w.config.maxConcurrentScans.toNat
    ∃ batch, imagesForScan (reported.findPendingImages w env.selectNow)
        (reported.concurrentScansNumber w) = some batch ∧
      BatchOf pending budget batch ∧
      ∀ c' out, scheduleScans w env c = some (c', out) → out.batch = batch ∧
        ∃ delta outcomes err, scanImages w env.scan env.cancelled reported.delta batch =
          some (delta, outcomes, err) ∧ c' = { reported with delta } := by
  intro reported pending budget
  have toNat : (reported.concurrentScansNumber w).toNat = budget := by
    unfold budget concurrentScansNumber
    split <;> rfl
  refine ⟨_, imagesForScan_eq_take (concurrentScansNumber_nonneg w reported nonneg), ?_, ?_⟩
  · rw [toNat, findPendingImages]
    exact batchOf_take budget (w.sortSlice.perm _ _) (w.sortSlice.sorted _ fewerFailures_ordering _)
  · intro c' out pass
    obtain ⟨delta, outcomes, err, cut, scanned, ended, -⟩ := scheduleScans_eq pass
    rw [imagesForScan_eq_take (concurrentScansNumber_nonneg w reported nonneg)] at cut
    have same := Option.some.inj cut
    rw [← same] at scanned
    exact ⟨same.symm, delta, outcomes, err, scanned, ended⟩

/-- The spec's scenario: failure counts `[0, 0, 1, 2, 0]` and a budget of
three on two nodes; the batch is the three images that never failed. -/
theorem scan_batch_selection_spec_scenario :
    let img (id : String) (failures : Nat) : Image :=
      { newImage id "amd64" with name := id, failures, owners := GoMap.empty.insert "o" ⟨∅⟩ }
    let n (name : String) : Kube.Node := ⟨name, "amd64", "linux", ⟨4, 0⟩, ⟨8, 0⟩⟩
    let c : Controller :=
      ⟨{ (newDeltaState []).applyAll [.upsert (.node (n "n1")), .upsert (.node (n "n2"))] with
        images := [img "a" 0, img "b" 0, img "c" 1, img "d" 2, img "e" 0].foldl
          (fun images i => images.insert i.id i) GoMap.empty }, true⟩
    let w : Wiring := ⟨⟨modeRemote, ⟨1, 0⟩, ⟨1, 0⟩, 3⟩, goInsertionSort, id, fun _ => true⟩
    let env : PassEnv :=
      { syncNow := 0, getSyncState := fun _ => .ok none, reportNow := 0,
        updateImageStatus := fun _ => false, selectNow := 1,
        scan := fun _ => ⟨true, none, fun _ => .ok (), 0⟩, cancelled := false }
    let reported := ((c.syncFromRemoteState env.syncNow env.getSyncState).updateImageStatuses
      env.reportNow env.updateImageStatus).1
    let pending := reported.delta.getImages.filter fun img => isImagePending img env.selectNow
    let budget := if reported.delta.nodeCount = 1 then 1 else w.config.maxConcurrentScans.toNat
    0 ≤ w.config.maxConcurrentScans ∧
      (∃ batch, imagesForScan (reported.findPendingImages w env.selectNow)
          (reported.concurrentScansNumber w) = some batch ∧
        BatchOf pending budget batch ∧
        ∀ c' out, scheduleScans w env c = some (c', out) → out.batch = batch ∧
          ∃ delta outcomes err, scanImages w env.scan env.cancelled reported.delta batch =
            some (delta, outcomes, err) ∧ c' = { reported with delta }) ∧
      (imagesForScan (reported.findPendingImages w env.selectNow)
        (reported.concurrentScansNumber w)).map (·.map (·.id)) = some ["e", "b", "a"] := by
  intro img n c w env reported pending budget
  exact ⟨by decide, scan_batch_selection w (by decide) env c, by decide⟩

/-! ## Dispatch -/

variable {m : GoMap String Image} {d : DeltaState}

end ImageScan.BatchDispatch
