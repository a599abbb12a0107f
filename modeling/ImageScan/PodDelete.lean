import ImageScan.DeltaLemmas

/-! Deleting a pod. `handlePodDelete` takes the pod out of every image's entry
for the pod's node and out of the owner entry that `getPodOwnerID` resolves at
the delete; an owner entry left without pods goes, a node entry stays however
few pods it has left, and an image with neither entries left is purged. Over a
run in which every upsert of the pod names the node it is deleted from, no
image records the pod anywhere once it is deleted. -/
namespace ImageScan.PodDelete

open Kube DeltaState DeltaLemmas

/-- Image `img` records pod `u` on node `n`. -/
def HoldsPod (img : Image) (u n : String) : Prop := ∃ e, img.nodes.get? n = some e ∧ u ∈ e.podIDs

/-- Some image of `d` records pod `u` on node `n`. -/
def PodOn (d : DeltaState) (u n : String) : Prop :=
  ∃ key img, d.images.get? key = some img ∧ HoldsPod img u n

variable {d : DeltaState} {u n : String}

/-! ## One change at a time -/

theorem holdsPod_addNodePod (img : Image) (nodeName podID : String) :
    HoldsPod (img.addNodePod nodeName podID) u n ↔ (u = podID ∧ n = nodeName) ∨ HoldsPod img u n := by
  unfold HoldsPod
  rw [addNodePod_get?]
  by_cases same : n = nodeName
  · subst same
    cases img.nodes.get? n <;> simp
  · simp [same]

theorem holdsPod_removeNodePod (img : Image) (nodeName podID : String) :
    HoldsPod (img.removeNodePod nodeName podID) u n ↔
      ¬ (u = podID ∧ n = nodeName) ∧ HoldsPod img u n := by
  unfold HoldsPod
  rw [removeNodePod_get?]
  by_cases same : n = nodeName
  · subst same
    cases img.nodes.get? n <;> simp [and_comm]
  · simp [same]

theorem holdsPod_upsertedImage (pod : Kube.Pod) (owner : String) (cs : ContainerStatus)
    (cont : Container) (holds : HoldsPod (d.upsertedImage pod owner cs cont) u n) :
    (u = pod.uid ∧ n = pod.nodeName) ∨ PodOn d u n := by
  rw [HoldsPod, upsertedImage_nodes, ← HoldsPod, holdsPod_addNodePod] at holds
  refine holds.imp id fun holds => ?_
  cases base : d.images.get? (cs.imageID ++ d.archOf pod.nodeName) with
  | none =>
    obtain ⟨e, entry, -⟩ := holds
    simp [base, newImage] at entry
  | some img => exact ⟨_, img, base, by simpa [base] using holds⟩

theorem podOn_upsertImages (pod : Kube.Pod)  (held : PodOn (d.upsertImages pod) u n) :
    (u = pod.uid ∧ n = pod.nodeName) ∨ PodOn d u n := by
  obtain ⟨key, img, found, holds⟩ := held
  exact exists_image_upsertImages pod (HoldsPod · u n) _
    (fun _ _ _ _ holds => holdsPod_upsertedImage _ _ _ _ holds) found holds

theorem podOn_handlePodDelete (pod : Kube.Pod) (held : PodOn (d.handlePodDelete pod) u n) :
    PodOn d u n ∧ ¬ (u = pod.uid ∧ n = pod.nodeName) := by
  obtain ⟨key, img, found, holds⟩ := held
  rw [handlePodDelete_images, get?_podDeletedImages, Option.bind_eq_some] at found
  obtain ⟨img₀, found₀, kept⟩ := found
  dsimp only at kept
  split at kept
  · cases kept
  · cases kept
    rw [HoldsPod, removeOwnerPod_nodes, ← HoldsPod, holdsPod_removeNodePod] at holds
    exact ⟨⟨key, img₀, found₀, holds.2⟩, holds.1⟩

theorem podOn_handleNodeDelete (v : Kube.Node)  (held : PodOn (d.handleNodeDelete v) u n) :
    PodOn d u n := by
  obtain ⟨key, img, found, e, entry, mem⟩ := held
  rw [get?_handleNodeDelete, Option.bind_eq_some] at found
  obtain ⟨img₀, found₀, kept⟩ := found
  dsimp only at kept
  split at kept
  · cases kept
  · cases kept
    rw [GoMap.get?_erase] at entry
    split at entry
    · cases entry
    · exact ⟨key, img₀, found₀, e, entry, mem⟩

/-- Only an upsert of pod `u` on node `m` can record `u` on a node, and then on `m`. -/
theorem podOn_apply {m : String} (c : Change)
    (onNode : ∀ q, c = .upsert (.pod q) → q.uid = u → q.nodeName = m)
     (held : PodOn (d.apply c) u n) : n = m ∨ PodOn d u n := by
  cases c with
  | upsert o =>
    cases o with
    | pod q =>
      rw [apply, upsert, handlePodUpdate, PodOn, (updateNodesUsageFromPod_frame q).1] at held
      exact (podOn_upsertImages q held).imp (fun ⟨same, node⟩ => node.trans (onNode q rfl same.symm)) id
    | node v => exact .inr (by simpa [PodOn, apply, upsert] using held)
    | job v | replicaSet v | other => exact .inr held
  | delete o =>
    cases o with
    | pod q => exact .inr (podOn_handlePodDelete q held).1
    | node v => exact .inr (podOn_handleNodeDelete v held)
    | job v | replicaSet v | other => exact .inr held
  | remote images =>
    obtain ⟨key, img, found, e, entry, -⟩ := held
    rw [@buildImageMap_nodes images _ _ found] at entry
    cases entry
  | clock now => exact .inr held

/-! ## The delete itself -/

/-- After `handlePodDelete`, the owner the pod was deleted under no longer
lists it, and every image left has a node entry or an owner entry. -/
theorem handlePodDelete_image (pod : Kube.Pod) {key : String} {img : Image}
    (found : (d.handlePodDelete pod).images.get? key = some img) :
    (∀ e, img.owners.get? (getPodOwnerID pod d.rs d.jobs) = some e → pod.uid ∉ e.podIDs) ∧
      ¬ (img.nodes.size = 0 ∧ img.owners.size = 0) := by
  rw [handlePodDelete_images, get?_podDeletedImages, Option.bind_eq_some] at found
  obtain ⟨img₀, -, kept⟩ := found
  dsimp only at kept
  split at kept
  · cases kept
  · rename_i nonempty
    cases kept
    refine ⟨fun e entry mem => ?_, nonempty⟩
    rw [removeOwnerPod_get?, removeNodePod_owners, Option.bind_eq_some] at entry
    obtain ⟨e₀, -, kept⟩ := entry
    split at kept
    · cases kept
    · cases kept
      exact (Finset.not_mem_erase _ _) mem

/-- Deleting a pod removes it from every image of a run in which each upsert of
the pod names the node it is deleted from: from every node entry, and from the
owner entry it is deleted under; and every image left has a node or an owner
entry. -/
theorem pod_delete_clears_pod (seed : List ScannedImage) (changes : List Change) (pod : Kube.Pod)
    (sameNode : ∀ q, Change.upsert (.pod q) ∈ changes → q.uid = pod.uid → q.nodeName = pod.nodeName)
    {key : String} {img : Image}
    (found : (((newDeltaState seed).applyAll changes).delete (.pod pod)).images.get? key = some img) :
    (∀ n e, img.nodes.get? n = some e → pod.uid ∉ e.podIDs) ∧
      (∀ e, img.owners.get? (getPodOwnerID pod ((newDeltaState seed).applyAll changes).rs
        ((newDeltaState seed).applyAll changes).jobs) = some e → pod.uid ∉ e.podIDs) ∧
      ¬ (img.nodes.size = 0 ∧ img.owners.size = 0) := by
  have onlyThere : ∀ n, PodOn ((newDeltaState seed).applyAll changes) pod.uid n → n = pod.nodeName := by
    refine applyAll_invariant (fun d => ∀ n, PodOn d pod.uid n → n = pod.nodeName)
      (fun d c mem known n held => ?_) ?_
    · exact (podOn_apply c (fun q same => sameNode q (same ▸ mem)) held).elim id (known n)
    · rintro n ⟨key, img, found, e, entry, -⟩
      rw [@buildImageMap_nodes seed _ _ found] at entry
      cases entry
  refine ⟨fun n e entry mem => ?_, handlePodDelete_image pod found⟩
  obtain ⟨held, notHere⟩ := podOn_handlePodDelete pod ⟨key, img, found, e, entry, mem⟩
  exact notHere ⟨rfl, onlyThere n held⟩

/-- The image of a running pod upserted once, after the pod's delete. -/
theorem pod_delete_clears_nginx_pod :
    let pod : Kube.Pod :=
      { uid := "p1", ownerReferences := [], nodeName := "n1",
        containers := [⟨"c", "nginx", Dec.zero, Dec.zero⟩], initContainers := [],
        phase := .running, containerStatuses := [⟨"c", "sha", "containerd://c1"⟩],
        initContainerStatuses := [] }
    let d := (newDeltaState []).applyAll [.upsert (.pod pod)]
    let img := ((d.delete (.pod pod)).images.get? "shaamd64").getD (newImage "" "")
    (∀ n e, img.nodes.get? n = some e → pod.uid ∉ e.podIDs) ∧
      (∀ e, img.owners.get? (getPodOwnerID pod d.rs d.jobs) = some e → pod.uid ∉ e.podIDs) ∧
      ¬ (img.nodes.size = 0 ∧ img.owners.size = 0) := by
  intro pod d img
  have filed : ((d.delete (.pod pod)).images.get? "shaamd64").isSome := by decide
  obtain ⟨v, found⟩ := Option.isSome_iff_exists.1 filed
  have same : img = v := by simp only [img, found, Option.getD_some]
  rw [same]
  refine pod_delete_clears_pod [] [.upsert (.pod pod)] pod ?_ found
  intro q mem _
  cases List.mem_singleton.1 mem
  rfl

/-- Two pods that leave traces when deleted. A running pod upserted and
deleted leaves its image behind: the image keeps an entry for the pod's node,
with no pod in it, and has no owner. A pod of a ReplicaSet that a Deployment
owns, whose ReplicaSet is deleted between the pod's upsert and its delete,
stays among the pods of the Deployment: the delete resolves the owner to the
ReplicaSet, which the image does not list. -/
theorem pod_delete_leaves_traces :
    let pod : Kube.Pod :=
      { uid := "p1", ownerReferences := [], nodeName := "n1",
        containers := [⟨"c", "nginx", Dec.zero, Dec.zero⟩], initContainers := [],
        phase := .running, containerStatuses := [⟨"c", "sha", "containerd://c1"⟩],
        initContainerStatuses := [] }
    let rs : OwnedObject := ⟨"default/rs1", "rs1", [⟨"Deployment", "d1"⟩]⟩
    let owned : Kube.Pod := { pod with ownerReferences := [⟨"ReplicaSet", "rs1"⟩] }
    ((newDeltaState []).applyAll [.upsert (.pod pod), .delete (.pod pod)]).getImages.map
      (fun img => (img.nodes.entries.map fun entry => (entry.1, entry.2.podIDs), img.owners.size)) =
      [([("n1", ∅)], 0)] ∧
    ((newDeltaState []).applyAll [.upsert (.replicaSet rs), .upsert (.pod owned), .delete (.replicaSet rs),
        .delete (.pod owned)]).getImages.map (fun img => img.owners.entries.map fun entry =>
          (entry.1, entry.2.podIDs)) =
      [[("d1", {"p1"})]] := by
  decide

end ImageScan.PodDelete
