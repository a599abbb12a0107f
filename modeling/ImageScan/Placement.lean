import ImageScan.NodeFit
import ImageScan.Controller

/-! Placement: `findBestNodeAndMode` and the two halves it is written in.
A placement it returns is on a known node with the configured memory and CPU
available, remote after a missing layer, and in hostfs mode on a linux node
CAST AI manages among the image's own nodes. Every placement is on a linux
node but one: when no managed linux node of a hostfs image fits, the retry
takes every known node without dropping the windows ones. It fails only for a
hostfs image with no nodes, or when no linux node fits. It never reads
`hostFSDisabled`, which `setImageScanError` sets on a missing layer. -/
namespace ImageScan.Placement

open Kube DeltaState

/-- A known node whose OS is linux. -/
def LinuxNode (d : DeltaState) (name : String) : Prop :=
  ∃ n, d.nodes.get? name = some n ∧ n.os = "linux"

variable {w : Wiring} {d : DeltaState} {img : Image}

/-- When `findBestNodeAndMode` retries a hostfs placement: the image is placed
in hostfs mode, CAST AI manages some of its nodes, and no linux node among
those has the configured requests available. -/
def HostFSRetry (w : Wiring) (d : DeltaState) (img : Image) : Prop :=
  scanMode w img = modeHostFS ∧ filterCastAIManagedNodes w img.nodes.keys ≠ [] ∧
    ∀ node, LinuxNode d node →
      ¬ Fits d (filterCastAIManagedNodes w img.nodes.keys) w.config.memoryRequest w.config.cpuRequest node

/-! ## The two halves -/

/-- `filterWindowsNodes` keeps exactly the named linux nodes. -/
theorem mem_filterWindowsNodes {names filtered : List String}
    (kept : filterWindowsNodes d names = some filtered) (name : String) :
    name ∈ filtered ↔ name ∈ names ∧ LinuxNode d name := by
  induction names generalizing filtered with
  | nil => cases kept; simp
  | cons first names ih =>
    unfold filterWindowsNodes at kept
    split at kept
    · cases kept
    · rename_i n found
      obtain ⟨rest, restKept, rfl⟩ := Option.map_eq_some'.1 kept
      have linux : LinuxNode d first ↔ n.os = "linux" := by simp [LinuxNode, found]
      by_cases same : name = first
      · subst same
        split <;> simp_all
      · split <;> simp [same, ih restKept]

/-- A fitting node among any names fits among all known nodes. -/
theorem fits_keys {names : List String} {m c : Dec} {name : String}
    (fits : Fits d names m c name) : Fits d d.nodes.keys m c name :=
  ⟨GoMap.mem_keys.2 (fits.2.imp fun _ => And.left), fits.2⟩

theorem fits_filterWindowsNodes {names filtered : List String} {m c : Dec} {name : String}
    (kept : filterWindowsNodes d names = some filtered) :
    Fits d filtered m c name ↔ Fits d names m c name ∧ LinuxNode d name := by
  simp only [Fits, mem_filterWindowsNodes kept]
  exact and_right_comm

/-- `resolveNode` places on a fitting node under the mode it was given, or,
from hostfs when no named node fits, on any fitting known node in remote mode. -/
theorem resolveNode_ok {mode : String} {names : List String} {node mode' : String}
    (resolved : resolveNode w d mode names = .ok (node, mode')) :
    (mode' = mode ∧ Fits d names w.config.memoryRequest w.config.cpuRequest node) ∨
      (mode = modeHostFS ∧ mode' = modeRemote ∧
        (∀ named, ¬ Fits d names w.config.memoryRequest w.config.cpuRequest named) ∧
        Fits d d.nodes.keys w.config.memoryRequest w.config.cpuRequest node) := by
  unfold resolveNode at resolved
  split at resolved
  · rename_i found
    cases resolved
    exact .inl ⟨rfl, findBestNode_fits _ found⟩
  · rename_i failed
    split at resolved
    · rename_i retry
      split at resolved
      · rename_i found
        cases resolved
        exact .inr ⟨retry.2, rfl, (findBestNode_error _ failed).2, findBestNode_fits _ found⟩
      · cases resolved
    · cases resolved

/-- `resolveNode` fails only with `errNoCandidates`, when no named node fits,
and from hostfs only when no known node fits. -/
theorem resolveNode_error {mode : String} {names : List String} {err : GoError}
    (resolved : resolveNode w d mode names = .error err) :
    err = .noCandidates ∧
      (∀ node, ¬ Fits d names w.config.memoryRequest w.config.cpuRequest node) ∧
      (mode = modeHostFS → ∀ node, ¬ Fits d d.nodes.keys w.config.memoryRequest w.config.cpuRequest node) := by
  unfold resolveNode at resolved
  split at resolved
  · cases resolved
  · rename_i first failed
    have none := (findBestNode_error _ failed).2
    split at resolved
    · rename_i retry
      split at resolved
      · cases resolved
      · rename_i again
        cases resolved
        exact ⟨(findBestNode_error _ again).1, none, fun _ => (findBestNode_error _ again).2⟩
    · rename_i noRetry
      cases resolved
      refine ⟨(findBestNode_error _ failed).1, none, fun hostfs => ?_⟩
      exact absurd ⟨(findBestNode_error _ failed).1, hostfs⟩ noRetry

/-! ## `findBestNodeAndMode` -/

theorem modeRemote_ne_modeHostFS : modeRemote ≠ modeHostFS := by decide

/-- A missing layer makes the scan remote. -/
theorem scanMode_layerNotFound (layer : img.lastScanErr = some .imageLayerNotFound) :
    scanMode w img = modeRemote :=
  if_pos layer

/-- `candidateNodes` fails only on a hostfs image with no nodes. -/
theorem candidateNodes_error {err : GoError} (failed : candidateNodes w d img = .error err) :
    scanMode w img = modeHostFS ∧ img.nodes.keys = [] ∧ err = .message "image with empty nodes" := by
  unfold candidateNodes at failed
  split_ifs at failed with hostfs empty
  cases failed
  exact ⟨hostfs, empty, rfl⟩

/-- `candidateNodes` picks hostfs only for a hostfs image with managed nodes,
and then names those. -/
theorem candidateNodes_hostFS {names : List String}
    (picked : candidateNodes w d img = .ok (modeHostFS, names)) :
    scanMode w img = modeHostFS ∧ filterCastAIManagedNodes w img.nodes.keys ≠ [] ∧
      names = filterCastAIManagedNodes w img.nodes.keys := by
  rcases candidateNodes_eq picked with ⟨other, same, -⟩ | ⟨-, -, -, same, -⟩ | ⟨hostfs, -, managed, -, rfl⟩
  · exact absurd same.symm other
  · exact absurd same.symm modeRemote_ne_modeHostFS
  · exact ⟨hostfs, managed, rfl⟩

/-- A placement is on a known node with the requests available, remote after a
missing layer, and in hostfs mode on a managed linux node among the image's.
It is on a linux node unless it comes from the hostfs retry, which places in
remote mode on any known node. -/
theorem findBestNodeAndMode_ok {node mode : String}
    (placed : findBestNodeAndMode w d img = some (.ok (node, mode))) :
    Fits d d.nodes.keys w.config.memoryRequest w.config.cpuRequest node ∧
      (img.lastScanErr = some .imageLayerNotFound → mode = modeRemote) ∧
      (mode = modeHostFS → LinuxNode d node ∧ node ∈ img.nodes.keys ∧
        node ∈ filterCastAIManagedNodes w img.nodes.keys) ∧
      (LinuxNode d node ∨ mode = modeRemote ∧ HostFSRetry w d img) := by
  unfold findBestNodeAndMode at placed
  split at placed
  · cases placed
  · rename_i mode₀ names candidates
    obtain ⟨filtered, kept, resolved⟩ := Option.map_eq_some'.1 placed
    rcases resolveNode_ok resolved with ⟨rfl, fits⟩ | ⟨rfl, rfl, none, fits⟩
    · obtain ⟨fits, linux⟩ := (fits_filterWindowsNodes kept).1 fits
      refine ⟨fits_keys fits, fun layer => ?_, fun hostfs => ?_, .inl linux⟩
      · rcases candidateNodes_eq candidates with ⟨-, rfl, -⟩ | ⟨-, -, -, rfl, -⟩ | ⟨hostfs, -⟩
        · exact scanMode_layerNotFound layer
        · rfl
        · exact absurd (scanMode_layerNotFound layer ▸ hostfs) modeRemote_ne_modeHostFS
      · subst hostfs
        obtain ⟨-, -, rfl⟩ := candidateNodes_hostFS candidates
        exact ⟨linux, (List.mem_filter.1 fits.1).1, fits.1⟩
    · obtain ⟨configured, managed, rfl⟩ := candidateNodes_hostFS candidates
      exact ⟨fits, fun _ => rfl, fun hostfs => absurd hostfs modeRemote_ne_modeHostFS,
        .inr ⟨rfl, configured, managed, fun named linux fits =>
          none named ((fits_filterWindowsNodes kept).2 ⟨fits, linux⟩)⟩⟩

/-- A failed placement is a hostfs image with no nodes, or no linux node fits. -/
theorem findBestNodeAndMode_error {err : GoError}
    (failed : findBestNodeAndMode w d img = some (.error err)) :
    (scanMode w img = modeHostFS ∧ img.nodes.keys = [] ∧ err = .message "image with empty nodes") ∨
      (err = .noCandidates ∧ ∀ node, LinuxNode d node →
        ¬ Fits d d.nodes.keys w.config.memoryRequest w.config.cpuRequest node) := by
  unfold findBestNodeAndMode at failed
  split at failed
  · rename_i candidates
    cases failed
    exact .inl (candidateNodes_error candidates)
  · rename_i mode names candidates
    obtain ⟨filtered, kept, resolved⟩ := Option.map_eq_some'.1 failed
    obtain ⟨rfl, none, noneKnown⟩ := resolveNode_error resolved
    refine .inr ⟨rfl, fun node linux fits => ?_⟩
    rcases candidateNodes_eq candidates with ⟨-, -, rfl⟩ | ⟨-, -, -, -, rfl⟩ | ⟨-, -, -, hostfs, -⟩
    · exact none node ((fits_filterWindowsNodes kept).2 ⟨fits, linux⟩)
    · exact none node ((fits_filterWindowsNodes kept).2 ⟨fits, linux⟩)
    · exact noneKnown hostfs node fits

/-- Placement is sound and complete: a placement is on a known node with the
requests available, remote after a missing layer, in hostfs mode on a linux
node CAST AI manages among the image's nodes, and on a linux node unless it is
the hostfs retry; a failure is either a hostfs image with no nodes, or no linux
node fitting. -/
theorem findBestNodeAndMode_sound_complete (w : Wiring) (d : DeltaState) (img : Image) :
    (∀ node mode, findBestNodeAndMode w d img = some (.ok (node, mode)) →
      Fits d d.nodes.keys w.config.memoryRequest w.config.cpuRequest node ∧
      (img.lastScanErr = some .imageLayerNotFound → mode = modeRemote) ∧
      (mode = modeHostFS → LinuxNode d node ∧ node ∈ img.nodes.keys ∧
        node ∈ filterCastAIManagedNodes w img.nodes.keys) ∧
      (LinuxNode d node ∨ mode = modeRemote ∧ HostFSRetry w d img)) ∧
    (∀ err, findBestNodeAndMode w d img = some (.error err) →
      (scanMode w img = modeHostFS ∧ img.nodes.keys = [] ∧ err = .message "image with empty nodes") ∨
      (err = .noCandidates ∧ ∀ node, LinuxNode d node →
        ¬ Fits d d.nodes.keys w.config.memoryRequest w.config.cpuRequest node)) :=
  ⟨fun _ _ => findBestNodeAndMode_ok, fun _ => findBestNodeAndMode_error⟩

/-- The hostfs retry places on a windows node. The pod's linux node n1 has no
CPU to spare, so the retry takes every known node, unfiltered, and places the
image in remote mode on the windows node w1. -/
theorem findBestNodeAndMode_retries_on_windows_node :
    let n1 : Kube.Node := ⟨"n1", "amd64", "linux", Dec.zero, ⟨8, 0⟩⟩
    let w1 : Kube.Node := ⟨"w1", "amd64", "windows", ⟨4, 0⟩, ⟨8, 0⟩⟩
    let pod : Kube.Pod :=
      { uid := "p1", ownerReferences := [], nodeName := "n1",
        containers := [⟨"c", "nginx", Dec.zero, Dec.zero⟩], initContainers := [],
        phase := .running, containerStatuses := [⟨"c", "sha", "containerd://c1"⟩],
        initContainerStatuses := [] }
    let d := (newDeltaState []).applyAll [.upsert (.node n1), .upsert (.node w1), .upsert (.pod pod)]
    let w : Wiring := ⟨⟨modeHostFS, ⟨1, 0⟩, ⟨1, 0⟩, 1⟩, goInsertionSort, id, fun _ => true⟩
    let img := (d.images.get? "shaamd64").getD (newImage "" "")
    findBestNodeAndMode w d img = some (.ok ("w1", modeRemote)) ∧ ¬ LinuxNode d "w1" ∧
      HostFSRetry w d img := by
  intro n1 w1 pod d w img
  have placed : findBestNodeAndMode w d img = some (.ok ("w1", modeRemote)) := by decide
  have windows : ¬ LinuxNode d "w1" := fun ⟨n, found, linux⟩ => by
    have os : (d.nodes.get? "w1").map Node.os = some "windows" := by decide
    rw [found, Option.map_some', linux] at os
    exact absurd os (by decide)
  exact ⟨placed, windows,
    (((findBestNodeAndMode_sound_complete w d img).1 _ _ placed).2.2.2.resolve_left windows).2⟩

/-- A running pod's node is deleted while the pod is not: its image, now on
no node, fails placement in hostfs mode though a linux node fits. -/
theorem findBestNodeAndMode_fails_image_without_nodes :
    let n1 : Kube.Node := ⟨"n1", "amd64", "linux", ⟨4, 0⟩, ⟨8, 0⟩⟩
    let n2 : Kube.Node := ⟨"n2", "amd64", "linux", ⟨4, 0⟩, ⟨8, 0⟩⟩
    let pod : Kube.Pod :=
      { uid := "p1", ownerReferences := [], nodeName := "n1",
        containers := [⟨"c", "nginx", Dec.zero, Dec.zero⟩], initContainers := [],
        phase := .running, containerStatuses := [⟨"c", "sha", "containerd://c1"⟩],
        initContainerStatuses := [] }
    let d := (newDeltaState []).applyAll
      [.upsert (.node n1), .upsert (.node n2), .upsert (.pod pod), .delete (.node n1)]
    let w : Wiring := ⟨⟨modeHostFS, ⟨1, 0⟩, ⟨1, 0⟩, 1⟩, goInsertionSort, id, fun _ => true⟩
    let img := (d.images.get? "shaamd64").getD (newImage "" "")
    findBestNodeAndMode w d img = some (.error (.message "image with empty nodes")) ∧
      LinuxNode d "n2" ∧ Fits d d.nodes.keys w.config.memoryRequest w.config.cpuRequest "n2" := by
  intro n1 n2 pod d w img
  refine ⟨by decide, ⟨_, rfl, rfl⟩, by decide, _, rfl, ?_, ?_⟩
  · exact (Dec.cmp_nonneg_iff _ _).1 (by decide)
  · exact (Dec.cmp_nonneg_iff _ _).1 (by decide)

/-! ## `hostFSDisabled` -/

theorem filterWindowsNodes_hostFSDisabled (disabled : Bool) (names : List String) :
    filterWindowsNodes { d with hostFSDisabled := disabled } names = filterWindowsNodes d names := by
  induction names with
  | nil => rfl
  | cons name names ih => simp only [filterWindowsNodes, ih]

/-- Placement never reads `hostFSDisabled`. -/
theorem findBestNodeAndMode_hostFSDisabled (disabled : Bool) :
    findBestNodeAndMode w { d with hostFSDisabled := disabled } img = findBestNodeAndMode w d img := by
  unfold findBestNodeAndMode
  simp only [filterWindowsNodes_hostFSDisabled]
  rfl

/-- After a missing layer on one image has disabled hostfs, another image of
the same node is still placed in hostfs mode, as it would be with hostfs
enabled. -/
theorem hostfs_placement_after_layer_not_found :
    let n1 : Kube.Node := ⟨"n1", "amd64", "linux", ⟨4, 0⟩, ⟨8, 0⟩⟩
    let podA : Kube.Pod :=
      { uid := "pa", ownerReferences := [], nodeName := "n1",
        containers := [⟨"a", "app-a", Dec.zero, Dec.zero⟩], initContainers := [],
        phase := .running, containerStatuses := [⟨"a", "a", "containerd://a1"⟩],
        initContainerStatuses := [] }
    let podB : Kube.Pod :=
      { uid := "pb", ownerReferences := [], nodeName := "n1",
        containers := [⟨"b", "app-b", Dec.zero, Dec.zero⟩], initContainers := [],
        phase := .running, containerStatuses := [⟨"b", "b", "containerd://b1"⟩],
        initContainerStatuses := [] }
    let d := (newDeltaState []).applyAll [.upsert (.node n1), .upsert (.pod podA), .upsert (.pod podB)]
    let w : Wiring := ⟨⟨modeHostFS, ⟨1, 0⟩, ⟨1, 0⟩, 2⟩, goInsertionSort, id, fun _ => true⟩
    let failed := d.setImageScanError ((d.images.get? "aamd64").getD (newImage "" ""))
      (.message "open /layers/a: no such file or directory") 0
    failed.isHostFsDisabled = true ∧
      findBestNodeAndMode w failed ((failed.images.get? "bamd64").getD (newImage "" "")) =
        some (.ok ("n1", modeHostFS)) := by
  intro n1 podA podB d w failed
  refine ⟨by decide, ?_⟩
  rw [← findBestNodeAndMode_hostFSDisabled (d := failed) false]
  decide

end ImageScan.Placement
