import ImageScan.Controller
import ImageScan.DeltaLemmas

/-! Every node an image runs on has a node record. A Running pod's images
gain its node in `upsertImages` before `updateNodesUsageFromPod` files the node,
a node delete scrubs the node from every image, and nothing else gives an image
a node; so the invariant holds in every state `NewDeltaState` reaches, and
`filterWindowsNodes` never reads a record that is not there. -/
namespace ImageScan.NodeMembership

open Kube DeltaState DeltaLemmas

/-- Some image of `d` runs on node `n`. -/
def RunsOn (d : DeltaState) (n : String) : Prop :=
  ∃ key img, d.images.get? key = some img ∧ n ∈ img.nodes.keys

/-- Every node an image runs on is a key of `d.nodes`. -/
def NodesKnown (d : DeltaState) : Prop := ∀ n, RunsOn d n → n ∈ d.nodes.keys

variable {d : DeltaState} {n : String}

/-! ## One change at a time -/

theorem mem_nodes_upsertedImage (pod : Kube.Pod) (owner : String) (cs : ContainerStatus)
    (cont : Container) (mem : n ∈ (d.upsertedImage pod owner cs cont).nodes.keys) :
    n = pod.nodeName ∨ RunsOn d n := by
  rw [upsertedImage_nodes, mem_nodes_addNodePod] at mem
  refine mem.imp id fun mem => ?_
  cases found : d.images.get? (cs.imageID ++ d.archOf pod.nodeName) with
  | none => simp [found, newImage, GoMap.mem_keys_empty] at mem
  | some img => exact ⟨_, img, found, by simpa [found] using mem⟩

theorem runsOn_upsertImages (pod : Kube.Pod) (runs : RunsOn (d.upsertImages pod) n) :
    n = pod.nodeName ∨ RunsOn d n := by
  obtain ⟨key, img, found, mem⟩ := runs
  exact exists_image_upsertImages pod (n ∈ ·.nodes.keys) _
    (fun _ _ _ _ mem => mem_nodes_upsertedImage _ _ _ _ mem) found mem

theorem mem_nodes_updateNodesUsageFromPod (v : Kube.Pod) (known : n ∈ d.nodes.keys) :
    n ∈ (d.updateNodesUsageFromPod v).nodes.keys := by
  unfold updateNodesUsageFromPod
  split
  · exact (GoMap.mem_keys_insert ..).2 (.inr known)
  · exact (GoMap.mem_keys_insert ..).2 (.inr known)
  · exact mem_nodes_releasePod.2 known

theorem nodeName_mem_updateNodesUsageFromPod (v : Kube.Pod) (running : v.phase = .running) :
    v.nodeName ∈ (d.updateNodesUsageFromPod v).nodes.keys := by
  unfold updateNodesUsageFromPod
  rw [running]
  exact (GoMap.mem_keys_insert ..).2 (.inl rfl)

theorem nodesKnown_handlePodUpdate (v : Kube.Pod) (known : NodesKnown d) :
    NodesKnown (d.handlePodUpdate v) := by
  intro n runs
  rw [handlePodUpdate, RunsOn, (updateNodesUsageFromPod_frame v).1] at runs
  rcases runsOn_upsertImages v runs with rfl | runs
  · by_cases running : v.phase = .running
    · exact nodeName_mem_updateNodesUsageFromPod v running
    · obtain ⟨key, img, found, mem⟩ := runs
      rw [upsertImages, if_pos running] at found
      exact mem_nodes_updateNodesUsageFromPod v
        (by rw [(upsertImages_frame v).1]; exact known _ ⟨key, img, found, mem⟩)
  · refine mem_nodes_updateNodesUsageFromPod v ?_
    rw [(upsertImages_frame v).1]
    exact known n runs

theorem nodesKnown_updateNodeUsage (v : Kube.Node) (known : NodesKnown d) :
    NodesKnown (d.updateNodeUsage v) := by
  intro n runs
  rw [RunsOn, updateNodeUsage_images] at runs
  unfold updateNodeUsage
  split <;> exact (GoMap.mem_keys_insert ..).2 (.inr (known n runs))

theorem nodesKnown_handlePodDelete (pod : Kube.Pod) (known : NodesKnown d) :
    NodesKnown (d.handlePodDelete pod) := by
  intro n ⟨key, img, found, mem⟩
  simp only [handlePodDelete_images, podDeletedImages, GoMap.get?_filterMap,
    Option.bind_eq_some] at found
  obtain ⟨img₀, found₀, kept⟩ := found
  split at kept
  · cases kept
  · cases kept
    rw [removeOwnerPod_nodes, mem_nodes_removeNodePod] at mem
    exact mem_nodes_releasePod.2 (known n ⟨key, img₀, found₀, mem⟩)

theorem nodesKnown_handleNodeDelete (v : Kube.Node) (known : NodesKnown d) :
    NodesKnown (d.handleNodeDelete v) := by
  intro n ⟨key, img, found, mem⟩
  simp only [handleNodeDelete, GoMap.get?_filterMap, Option.bind_eq_some] at found
  obtain ⟨img₀, found₀, kept⟩ := found
  split at kept
  · cases kept
  · cases kept
    obtain ⟨other, mem⟩ := (GoMap.mem_keys_erase ..).1 mem
    exact (GoMap.mem_keys_erase ..).2 ⟨other, known n ⟨key, img₀, found₀, mem⟩⟩

theorem nodesKnown_apply (c : Change) (known : NodesKnown d) : NodesKnown (d.apply c) := by
  cases c with
  | upsert o =>
    cases o with
    | pod v => exact nodesKnown_handlePodUpdate v known
    | node v => exact nodesKnown_updateNodeUsage v known
    | job v | replicaSet v | other => exact known
  | delete o =>
    cases o with
    | pod v => exact nodesKnown_handlePodDelete v known
    | node v => exact nodesKnown_handleNodeDelete v known
    | job v | replicaSet v | other => exact known
  | remote images =>
    intro n ⟨key, img, found, mem⟩
    rw [buildImageMap_nodes found] at mem
    exact absurd mem (GoMap.mem_keys_empty _)
  | clock now => exact known

theorem nodesKnown_reachable (reachable : Reachable d) : NodesKnown d := by
  obtain ⟨seed, changes, rfl⟩ := reachable
  refine applyAll_invariant NodesKnown (fun d c _ => nodesKnown_apply c) ?_
  intro n ⟨key, img, found, mem⟩
  rw [buildImageMap_nodes found] at mem
  exact absurd mem (GoMap.mem_keys_empty _)

/-! ## No nil node in placement -/

/-- `filterWindowsNodes` returns exactly when every name has a record. -/
theorem filterWindowsNodes_isSome (names : List String) :
    (filterWindowsNodes d names).isSome ↔ ∀ name ∈ names, name ∈ d.nodes.keys := by
  induction names with
  | nil => simp [filterWindowsNodes]
  | cons name names ih =>
    simp only [filterWindowsNodes, List.mem_cons, forall_eq_or_imp, GoMap.mem_keys]
    cases d.nodes.get? name with
    | none => simp
    | some n => simp [ih, GoMap.mem_keys]

/-- The names `findBestNodeAndMode` places on are the image's nodes or the
cluster's. -/
theorem candidateNodes_subset (w : Wiring) (img : Image) {mode : String} {names : List String}
    (placed : candidateNodes w d img = .ok (mode, names)) :
    ∀ name ∈ names, name ∈ img.nodes.keys ∨ name ∈ d.nodes.keys := by
  rcases candidateNodes_eq placed with ⟨-, -, rfl⟩ | ⟨-, -, -, -, rfl⟩ | ⟨-, -, -, -, rfl⟩
  · exact fun name mem => .inr mem
  · exact fun name mem => .inr mem
  · exact fun name mem => .inl (List.mem_filter.1 mem).1

/-- Every node an image runs on is a known node, in every state reachable from
`NewDeltaState`; so placement never dereferences a missing node. -/
theorem image_nodes_known (reachable : Reachable d) {key : String} {img : Image}
    (found : d.images.get? key = some img) :
    (∀ n ∈ img.nodes.keys, n ∈ d.nodes.keys) ∧ ∀ w, (findBestNodeAndMode w d img).isSome := by
  have known : ∀ n ∈ img.nodes.keys, n ∈ d.nodes.keys :=
    fun n mem => nodesKnown_reachable reachable n ⟨key, img, found, mem⟩
  refine ⟨known, fun w => ?_⟩
  unfold findBestNodeAndMode
  split
  · rfl
  · rename_i mode names placed
    rw [Option.isSome_map', filterWindowsNodes_isSome]
    exact fun name mem => (candidateNodes_subset w img placed name mem).elim (known name) id

/-- The image of a running pod runs only on the pod's node, which is known. -/
theorem image_nodes_known_nginx_pod :
    let pod : Kube.Pod :=
      { uid := "p1", ownerReferences := [], nodeName := "n1",
        containers := [⟨"c", "nginx", Dec.zero, Dec.zero⟩], initContainers := [],
        phase := .running, containerStatuses := [⟨"c", "sha", "containerd://c1"⟩],
        initContainerStatuses := [] }
    let d := (newDeltaState []).applyAll [.upsert (.pod pod)]
    let img := (d.images.get? "shaamd64").getD (newImage "" "")
    (∀ n ∈ img.nodes.keys, n ∈ d.nodes.keys) ∧ ∀ w, (findBestNodeAndMode w d img).isSome := by
  intro pod d img
  exact @image_nodes_known d ⟨[], [.upsert (.pod pod)], rfl⟩ "shaamd64" img rfl

end ImageScan.NodeMembership
