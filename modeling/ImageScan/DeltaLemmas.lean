import ImageScan.Delta

/-! What each delta operation does to one image: the spec lemmas the
invariant proofs cite instead of unfolding the operations. An image after
`upsertImages` is an image from before or the one a container wrote; an image
after a delete is an image from before, with the pod or node taken out. -/
namespace ImageScan.DeltaLemmas

open Kube DeltaState

variable {d : DeltaState} {n : String}

/-! ## The image record -/

theorem addOwnerPod_nodes (img : Image) (owner podID : String) (now : Time) :
    (img.addOwnerPod owner podID now).nodes = img.nodes := by
  unfold Image.addOwnerPod; split <;> rfl

theorem addNodePod_owners (img : Image) (nodeName podID : String) :
    (img.addNodePod nodeName podID).owners = img.owners := by
  unfold Image.addNodePod; split <;> rfl

theorem addNodePod_get? (img : Image) (nodeName podID : String) :
    (img.addNodePod nodeName podID).nodes.get? n =
      if n = nodeName then some ⟨insert podID ((img.nodes.get? nodeName).map (·.podIDs) |>.getD ∅)⟩
      else img.nodes.get? n := by
  unfold Image.addNodePod
  split <;> rename_i found <;> simp [found]

theorem mem_nodes_addNodePod (img : Image) (nodeName podID : String) :
    n ∈ (img.addNodePod nodeName podID).nodes.keys ↔ n = nodeName ∨ n ∈ img.nodes.keys := by
  simp only [GoMap.mem_keys, addNodePod_get?]
  split <;> simp [*]

theorem removeNodePod_owners (img : Image) (nodeName podID : String) :
    (img.removeNodePod nodeName podID).owners = img.owners := by
  unfold Image.removeNodePod; split <;> rfl

theorem removeNodePod_get? (img : Image) (nodeName podID : String) :
    (img.removeNodePod nodeName podID).nodes.get? n =
      if n = nodeName then (img.nodes.get? n).map fun e => ⟨e.podIDs.erase podID⟩
      else img.nodes.get? n := by
  unfold Image.removeNodePod
  split <;> rename_i found
  · simp only [GoMap.get?_insert]
    split <;> simp_all
  · split <;> simp_all

theorem removeOwnerPod_nodes (img : Image) (owner podID : String) (now : Time) :
    (img.removeOwnerPod owner podID now).nodes = img.nodes := by
  unfold Image.removeOwnerPod
  split
  · rfl
  · split <;> rfl

/-- The owner a pod is deleted under loses the pod, or goes when it had no other. -/
theorem removeOwnerPod_get? (img : Image) (owner podID : String) (now : Time) :
    (img.removeOwnerPod owner podID now).owners.get? owner =
      (img.owners.get? owner).bind fun e =>
        if e.podIDs.erase podID = ∅ then none else some ⟨e.podIDs.erase podID⟩ := by
  unfold Image.removeOwnerPod
  split <;> rename_i found
  · simp [found]
  · split <;> simp [found, *]

theorem mem_nodes_removeNodePod (img : Image) (nodeName podID : String) :
    n ∈ (img.removeNodePod nodeName podID).nodes.keys ↔ n ∈ img.nodes.keys := by
  simp only [GoMap.mem_keys, removeNodePod_get?]
  split
  · cases img.nodes.get? n <;> simp
  · rfl

/-! ## `upsertImages` -/

theorem addNodePod_nodes_congr {img img' : Image} (same : img.nodes = img'.nodes)
    (nodeName podID : String) :
    (img.addNodePod nodeName podID).nodes = (img'.addNodePod nodeName podID).nodes := by
  simp only [Image.addNodePod, same]
  split <;> rfl

/-- The nodes of the image a container writes: the pod added, on its node, to
the nodes of the image filed under the key, or of a new image. -/
theorem upsertedImage_nodes (pod : Kube.Pod) (owner : String) (cs : ContainerStatus)
    (cont : Container) :
    (d.upsertedImage pod owner cs cont).nodes =
      (((d.images.get? (cs.imageID ++ d.archOf pod.nodeName)).getD
        (newImage cs.imageID (d.archOf pod.nodeName))).addNodePod pod.nodeName pod.uid).nodes := by
  unfold upsertedImage
  dsimp only
  rw [addNodePod_nodes_congr (addOwnerPod_nodes ..)]
  apply addNodePod_nodes_congr
  rfl

/-- A property of images that an image a container writes can only have
through `extra` or through an image already there holds after `upsertImages`
only through `extra` or an image already there. -/
theorem exists_image_upsertImages (pod : Kube.Pod) (Has : Image → Prop) (extra : Prop)
    (step : ∀ (d' : DeltaState) owner cs cont, Has (d'.upsertedImage pod owner cs cont) →
      extra ∨ ∃ key img, d'.images.get? key = some img ∧ Has img)
    {key : String} {img : Image} (found : (d.upsertImages pod).images.get? key = some img)
    (has : Has img) : extra ∨ ∃ key img, d.images.get? key = some img ∧ Has img := by
  unfold upsertImages at found
  split at found
  · exact .inr ⟨key, img, found, has⟩
  · generalize pod.containers ++ pod.initContainers = containers at found
    induction containers generalizing d with
    | nil => exact .inr ⟨key, img, found, has⟩
    | cons cont containers ih =>
      refine (ih found).elim .inl fun ⟨key, img, found, has⟩ => ?_
      dsimp only at found
      rcases upsertContainer_eq (d := d) pod (getPodOwnerID pod d.rs d.jobs)
        (pod.containerStatuses ++ pod.initContainerStatuses) cont with same | ⟨cs, -, -, -, same⟩
      · exact .inr ⟨key, img, same ▸ found, has⟩
      · rw [same, putImage_images, GoMap.get?_insert] at found
        split at found
        · cases found; exact step d _ cs cont has
        · exact .inr ⟨key, img, found, has⟩

/-- A property of delta states that every container's image write keeps is
kept by `upsertImages`. -/
theorem upsertImages_invariant (pod : Kube.Pod) (P : DeltaState → Prop)
    (step : ∀ (d' : DeltaState) owner cs cont, cs ∈ pod.containerStatuses ++ pod.initContainerStatuses →
      cont.image ≠ "" → P d' → P (d'.putImage (cs.imageID ++ d'.archOf pod.nodeName) (d'.upsertedImage pod owner cs cont)))
    (initial : P d) : P (d.upsertImages pod) := by
  unfold upsertImages
  split
  · exact initial
  · generalize pod.containers ++ pod.initContainers = containers
    induction containers generalizing d with
    | nil => exact initial
    | cons cont containers ih =>
      apply ih
      show P (d.upsertContainer pod (getPodOwnerID pod d.rs d.jobs)
        (pod.containerStatuses ++ pod.initContainerStatuses) cont)
      rcases upsertContainer_eq (d := d) pod (getPodOwnerID pod d.rs d.jobs)
        (pod.containerStatuses ++ pod.initContainerStatuses) cont with same | ⟨cs, found, -, named, same⟩ <;>
        rw [same]
      · exact initial
      · exact step d _ cs cont (List.mem_of_find?_eq_some found) named initial

/-- The image a container writes: the image filed under the key, or a new
one, with the status's image ID, and its architecture, scan state and last
error kept. -/
theorem upsertedImage_fields (pod : Kube.Pod) (owner : String) (cs : ContainerStatus)
    (cont : Container) :
    let base := (d.images.get? (cs.imageID ++ d.archOf pod.nodeName)).getD
      (newImage cs.imageID (d.archOf pod.nodeName))
    (d.upsertedImage pod owner cs cont).id = cs.imageID ∧
      (d.upsertedImage pod owner cs cont).architecture = base.architecture ∧
      (d.upsertedImage pod owner cs cont).lastScanErr = base.lastScanErr ∧
      (d.upsertedImage pod owner cs cont).scanned = base.scanned := by
  unfold upsertedImage Image.addNodePod Image.addOwnerPod
  dsimp only
  split <;> split <;> exact ⟨rfl, rfl, rfl, rfl⟩

/-- `upsertImages` writes images only for a running pod. -/
theorem upsertImages_not_running (pod : Kube.Pod) (other : pod.phase ≠ .running) :
    d.upsertImages pod = d := by
  rw [upsertImages, if_pos other]

/-! ## Deletes -/

theorem get?_podDeletedImages (pod : Kube.Pod) (key : String) :
    (d.podDeletedImages pod).get? key = (d.images.get? key).bind fun img =>
      let img := (img.removeNodePod pod.nodeName pod.uid).removeOwnerPod
        (getPodOwnerID pod d.rs d.jobs) pod.uid d.clock
      if img.nodes.size = 0 ∧ img.owners.size = 0 then none else some img := by
  simp [podDeletedImages]

theorem get?_handleNodeDelete (v : Kube.Node) (key : String) :
    (d.handleNodeDelete v).images.get? key = (d.images.get? key).bind fun img =>
      let img := { img with nodes := img.nodes.erase v.name }
      if img.isUnused then none else some img := by
  simp [handleNodeDelete]

/-- The images of `buildImageMap` run on no node. -/
theorem buildImageMap_nodes {images : List ScannedImage} {key : String} {img : Image}
    (found : (buildImageMap images).get? key = some img) : img.nodes = GoMap.empty := by
  obtain ⟨s, -, -, rfl⟩ := buildImageMap_get? found
  rfl

end ImageScan.DeltaLemmas
