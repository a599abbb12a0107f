import ImageScan.Controller

/-! Node accounting. A node record is filed by a Node upsert or by the upsert
of a running or pending pod naming the node, whatever the pod's node name is,
the empty name of an unscheduled pod included, and only a Node delete removes
it. A pod's reservation on a node is set by its running or pending upserts
naming that node and cleared by its other events naming that node, and by a
Node delete; an event naming another node leaves it alone. So after any
history, whether a name has a record, and what a pod reserves on it, is what
the last event that speaks to it says. -/
namespace ImageScan.NodeAccounting

open Kube DeltaState

/-- The phases in which `updateNodesUsageFromPod` reserves for a pod. -/
def reserving : PodPhase → Bool
  | .running | .pending => true
  | _ => false

/-- The memory and CPU pod `u` has reserved on node `n`, if any. -/
def reservation (d : DeltaState) (u n : String) : Option (Dec × Dec) :=
  ((d.nodes.get? n).bind fun r => r.pods.get? u).map fun p => (p.requestMemory, p.requestCPU)

/-! ## What an event says -/

/-- What a change says about whether node `n` has a record: `some true` when
it files one, `some false` when it removes it, `none` when it leaves that as it
was. -/
def filesNode (n : String) : Change → Option Bool
  | .upsert (.node v) => if v.name = n then some true else none
  | .upsert (.pod q) => if q.nodeName = n ∧ reserving q.phase = true then some true else none
  | .delete (.node v) => if v.name = n then some false else none
  | _ => none

/-- What a change says about the reservation of pod `u` on node `n`. -/
def reservesPod (u n : String) : Change → Option (Option (Dec × Dec))
  | .upsert (.pod q) =>
    if q.uid = u ∧ q.nodeName = n then
      some (if reserving q.phase then some (sumPodRequestMemory q, sumPodRequestCPU q) else none)
    else none
  | .delete (.pod q) => if q.uid = u ∧ q.nodeName = n then some none else none
  | .delete (.node v) => if v.name = n then some none else none
  | _ => none

/-- The last say of a history, or `init` when no change in it speaks. -/
def lastSay {α : Type} (say : Change → Option α) (init : α) (changes : List Change) : α :=
  changes.foldl (fun current c => (say c).getD current) init

variable {d : DeltaState} {u n : String}

/-! ## One operation at a time -/

theorem reservation_putNode {name : String} {r : Node} {same : r.name = name} :
    reservation (d.putNode name r same) u n =
      if n = name then (r.pods.get? u).map fun p => (p.requestMemory, p.requestCPU)
      else reservation d u n := by
  unfold reservation
  split <;> simp [*]

theorem nodeOrFresh_pods_get? (name : String) :
    (d.nodeOrFresh name).pods.get? u = (d.nodes.get? name).bind fun r => r.pods.get? u := by
  unfold nodeOrFresh
  cases d.nodes.get? name <;> rfl

theorem reservation_releasePod (nodeName uid : String) :
    reservation (d.releasePod nodeName uid) u n =
      if uid = u ∧ nodeName = n then none else reservation d u n := by
  unfold releasePod
  split
  · rename_i r found
    rw [reservation_putNode]
    by_cases here : n = nodeName
    · subst here
      simp only [if_true, GoMap.get?_erase, reservation, found, Option.some_bind]
      by_cases mine : u = uid
      · simp [mine]
      · simp [mine, Ne.symm mine]
    · simp [here, Ne.symm here]
  · rename_i found
    split
    · rename_i mine
      obtain ⟨rfl, rfl⟩ := mine
      simp [reservation, found]
    · rfl

theorem reservation_updateNodesUsageFromPod (v : Kube.Pod) :
    reservation (d.updateNodesUsageFromPod v) u n =
      if v.uid = u ∧ v.nodeName = n then
        (if reserving v.phase then some (sumPodRequestMemory v, sumPodRequestCPU v) else none)
      else reservation d u n := by
  unfold updateNodesUsageFromPod
  cases phase : v.phase
  case running | pending =>
    simp only [reservation_putNode, GoMap.get?_insert, nodeOrFresh_pods_get?, reserving]
    by_cases here : n = v.nodeName
    · subst here
      by_cases mine : u = v.uid
      · simp [mine]
      · simp [mine, Ne.symm mine, reservation]
    · simp [here, Ne.symm here]
  all_goals simp [reservation_releasePod, reserving]

theorem mem_keys_updateNodesUsageFromPod (v : Kube.Pod) :
    n ∈ (d.updateNodesUsageFromPod v).nodes.keys ↔
      (v.nodeName = n ∧ reserving v.phase = true) ∨ n ∈ d.nodes.keys := by
  unfold updateNodesUsageFromPod
  cases phase : v.phase
  case running | pending => simp [GoMap.mem_keys_insert, reserving, eq_comm]
  all_goals simp [mem_nodes_releasePod, reserving]

theorem reservation_congr {d' : DeltaState} (same : d.nodes = d'.nodes) :
    reservation d u n = reservation d' u n := by
  rw [reservation, reservation, same]

theorem reservation_updateNodeUsage (v : Kube.Node) :
    reservation (d.updateNodeUsage v) u n = reservation d u n := by
  unfold updateNodeUsage
  split <;> rename_i found <;> rw [reservation_putNode] <;> split
  · subst n; simp [reservation, found]
  · rfl
  · subst n; simp [reservation, found]
  · rfl

theorem mem_keys_updateNodeUsage (v : Kube.Node) :
    n ∈ (d.updateNodeUsage v).nodes.keys ↔ v.name = n ∨ n ∈ d.nodes.keys := by
  unfold updateNodeUsage
  split <;> simp [GoMap.mem_keys_insert, eq_comm]

theorem reservation_handleNodeDelete (v : Kube.Node) :
    reservation (d.handleNodeDelete v) u n = if v.name = n then none else reservation d u n := by
  unfold reservation handleNodeDelete
  dsimp only
  rw [GoMap.get?_erase]
  by_cases here : v.name = n
  · rw [if_pos here.symm, if_pos here]
    rfl
  · rw [if_neg (Ne.symm here), if_neg here]

/-! ## Over a history -/

theorem mem_keys_apply (c : Change) :
    decide (n ∈ (d.apply c).nodes.keys) = (filesNode n c).getD (decide (n ∈ d.nodes.keys)) := by
  cases c with
  | upsert o =>
    cases o with
    | pod q =>
      simp only [apply, upsert, handlePodUpdate, mem_keys_updateNodesUsageFromPod,
        (upsertImages_frame q).1, filesNode]
      split <;> simp_all
    | node v =>
      simp only [apply, upsert, mem_keys_updateNodeUsage, filesNode]
      split <;> simp_all
    | job v | replicaSet v | other => rfl
  | delete o =>
    cases o with
    | pod q => simp only [apply, delete, handlePodDelete, mem_nodes_releasePod]; rfl
    | node v =>
      simp only [apply, delete, handleNodeDelete, GoMap.mem_keys_erase, filesNode]
      split <;> simp_all [eq_comm]
    | job v | replicaSet v | other => rfl
  | remote images | clock _ => rfl

theorem reservation_apply (c : Change) :
    reservation (d.apply c) u n = (reservesPod u n c).getD (reservation d u n) := by
  cases c with
  | upsert o =>
    cases o with
    | pod q =>
      simp only [apply, upsert, handlePodUpdate, reservation_updateNodesUsageFromPod,
        reservation_congr (upsertImages_frame q).1, reservesPod]
      split <;> rfl
    | node v => exact reservation_updateNodeUsage v
    | job v | replicaSet v | other => rfl
  | delete o =>
    cases o with
    | pod q =>
      simp only [apply, delete, handlePodDelete, reservation_releasePod, reservesPod]
      split <;> rfl
    | node v =>
      simp only [apply, delete, reservation_handleNodeDelete, reservesPod]
      split <;> rfl
    | job v | replicaSet v | other => rfl
  | remote images | clock _ => rfl

/-- After any history of changes, from any state, a name has a node record
exactly when the last change speaking to it files one (or, when none speaks,
when it had one), and a pod's reservation on a node is what the last change
speaking to it says (or, when none speaks, what it was): a running or pending
upsert of the pod naming the node reserves its requests, the pod's other
events naming the node and a delete of the node clear it, and nothing else
touches it. -/
theorem node_records_last_say (d : DeltaState) (changes : List Change) (u n : String) :
    (n ∈ (d.applyAll changes).nodes.keys ↔
      lastSay (filesNode n) (decide (n ∈ d.nodes.keys)) changes = true) ∧
    reservation (d.applyAll changes) u n = lastSay (reservesPod u n) (reservation d u n) changes := by
  induction changes generalizing d with
  | nil => simp [applyAll, lastSay]
  | cons c changes ih =>
    have step := ih (d.apply c)
    rw [mem_keys_apply, reservation_apply] at step
    exact step

/-- A pod is first seen pending with no node name, then running on n1, whose
Node is then upserted, and then the pod is deleted. The pending upsert filed a
record under the empty name with the pod's reservation in it, and the delete,
which names n1, releases nothing there: the cluster of one node counts at least
two records and gets the configured number of concurrent scans, not one. -/
theorem unscheduled_pod_leaves_node_record :
    let n1 : Kube.Node := ⟨"n1", "amd64", "linux", ⟨4, 0⟩, ⟨8, 0⟩⟩
    let pending : Kube.Pod :=
      { uid := "q", ownerReferences := [], nodeName := "",
        containers := [⟨"c", "nginx", ⟨1, 0⟩, Dec.zero⟩], initContainers := [],
        phase := .pending, containerStatuses := [], initContainerStatuses := [] }
    let running : Kube.Pod :=
      { uid := "q", ownerReferences := [], nodeName := "n1",
        containers := [⟨"c", "nginx", ⟨1, 0⟩, Dec.zero⟩], initContainers := [],
        phase := .running, containerStatuses := [⟨"c", "sha", "containerd://c1"⟩],
        initContainerStatuses := [] }
    let changes : List Change :=
      [.upsert (.pod pending), .upsert (.pod running), .upsert (.node n1), .delete (.pod running)]
    let d := (newDeltaState []).applyAll changes
    let w : Wiring := ⟨⟨modeHostFS, ⟨1, 0⟩, ⟨1, 0⟩, 4⟩, goInsertionSort, id, fun _ => true⟩
    "" ∈ d.nodes.keys ∧ reservation d "q" "" = some (Dec.zero, ⟨1, 0⟩) ∧ 2 ≤ d.nodeCount ∧
      Controller.concurrentScansNumber w ⟨d, false⟩ = 4 := by
  intro n1 pending running changes d w
  have lastSays := node_records_last_say (newDeltaState []) changes "q"
  have unnamed : "" ∈ d.nodes.keys := (lastSays "").1.2 (by decide)
  have counted : 2 ≤ d.nodeCount :=
    GoMap.two_le_size (by decide) unnamed ((lastSays "n1").1.2 (by decide))
  refine ⟨unnamed, (lastSays "").2.trans (by decide), counted, ?_⟩
  rw [Controller.concurrentScansNumber, if_neg (show d.nodeCount ≠ 1 by omega)]

/-! ## Node architecture -/

/-- Node `n`'s record, if `d` has one, is still in `d'`, with the same architecture. -/
def KeepsArchitecture (n : String) (d d' : DeltaState) : Prop :=
  ∀ r, d.nodes.get? n = some r → ∃ r', d'.nodes.get? n = some r' ∧ r'.architecture = r.architecture

theorem keepsArchitecture_trans {d' d'' : DeltaState} (first : KeepsArchitecture n d d')
    (second : KeepsArchitecture n d' d'') : KeepsArchitecture n d d'' := fun r found =>
  let ⟨r', found', same'⟩ := first r found
  let ⟨r'', found'', same''⟩ := second r' found'
  ⟨r'', found'', same''.trans same'⟩

theorem keepsArchitecture_putNode {name : String} {r : Node} {same : r.name = name}
    (kept : ∀ r₀, d.nodes.get? name = some r₀ → r.architecture = r₀.architecture) :
    KeepsArchitecture n d (d.putNode name r same) := by
  intro r₀ found
  by_cases here : n = name
  · subst here
    exact ⟨r, by simp, kept r₀ found⟩
  · exact ⟨r₀, by simp [here, found], rfl⟩

theorem keepsArchitecture_releasePod (nodeName uid : String) :
    KeepsArchitecture n d (d.releasePod nodeName uid) := by
  unfold releasePod
  split
  · rename_i r found
    exact keepsArchitecture_putNode fun r₀ found₀ => by cases found.symm.trans found₀; rfl
  · exact fun r found => ⟨r, found, rfl⟩

theorem keepsArchitecture_updateNodesUsageFromPod (v : Kube.Pod) :
    KeepsArchitecture n d (d.updateNodesUsageFromPod v) := by
  have reserved (r : Node) (same : r.name = v.nodeName)
      (arch : r.architecture = (d.nodeOrFresh v.nodeName).architecture) :
      KeepsArchitecture n d (d.putNode v.nodeName r same) :=
    keepsArchitecture_putNode fun r₀ found => by rw [arch, nodeOrFresh, found, Option.getD_some]
  unfold updateNodesUsageFromPod
  split
  · exact reserved _ _ rfl
  · exact reserved _ _ rfl
  · exact keepsArchitecture_releasePod _ _

theorem keepsArchitecture_updateNodeUsage (v : Kube.Node) :
    KeepsArchitecture n d (d.updateNodeUsage v) := by
  unfold updateNodeUsage
  split <;> rename_i found
  · exact keepsArchitecture_putNode fun r₀ found₀ => by cases found.symm.trans found₀; rfl
  · exact keepsArchitecture_putNode fun r₀ found₀ => by cases found.symm.trans found₀

theorem keepsArchitecture_apply (c : Change) (kept : ∀ v, c = .delete (.node v) → v.name ≠ n) :
    KeepsArchitecture n d (d.apply c) := by
  cases c with
  | upsert o =>
    cases o with
    | pod q =>
      intro r found
      rw [← (upsertImages_frame q).1] at found
      exact keepsArchitecture_updateNodesUsageFromPod q r found
    | node v => exact keepsArchitecture_updateNodeUsage v
    | job v | replicaSet v | other => exact fun r found => ⟨r, found, rfl⟩
  | delete o =>
    cases o with
    | pod q =>
      exact fun r found =>
        keepsArchitecture_releasePod (d := { d with images := d.podDeletedImages q }) _ _ r found
    | node v =>
      intro r found
      exact ⟨r, by simp [apply, delete, handleNodeDelete, (kept v rfl).symm, found], rfl⟩
    | job v | replicaSet v | other => exact fun r found => ⟨r, found, rfl⟩
  | remote images | clock _ => exact fun r found => ⟨r, found, rfl⟩

/-- A node record keeps the architecture it was filed with through every
history without a delete of the node: a Node upsert updates only the
allocatable resources of a record that is already there. -/
theorem architecture_fixed (changes : List Change)
    (noDelete : ∀ v, Change.delete (.node v) ∈ changes → v.name ≠ n) :
    KeepsArchitecture n d (d.applyAll changes) := by
  induction changes generalizing d with
  | nil => exact fun r found => ⟨r, found, rfl⟩
  | cons c changes ih =>
    refine keepsArchitecture_trans (keepsArchitecture_apply c fun v same => ?_)
      (ih fun v mem => noDelete v (List.mem_cons_of_mem _ mem))
    exact noDelete v (same ▸ List.mem_cons_self _ _)

/-- A running or pending pod scheduled to a node with no record files one with
no architecture. -/
theorem updateNodesUsageFromPod_files_no_architecture (v : Kube.Pod)
    (reserves : reserving v.phase = true) (absent : d.nodes.get? v.nodeName = none) :
    ((d.updateNodesUsageFromPod v).nodes.get? v.nodeName).map Node.architecture = some "" := by
  unfold updateNodesUsageFromPod
  cases phase : v.phase <;> rw [phase] at reserves <;> simp_all [reserving, nodeOrFresh]

/-- A pending pod seen before its Node: the Node upsert leaves the record's
architecture empty, and the image of the pod, once running, is filed under its
image ID alone. -/
theorem node_upsert_keeps_pod_filed_architecture :
    let n1 : Kube.Node := ⟨"n1", "arm64", "linux", ⟨4, 0⟩, ⟨8, 0⟩⟩
    let pending : Kube.Pod :=
      { uid := "q", ownerReferences := [], nodeName := "n1",
        containers := [⟨"c", "nginx", Dec.zero, Dec.zero⟩], initContainers := [],
        phase := .pending, containerStatuses := [], initContainerStatuses := [] }
    let running : Kube.Pod :=
      { uid := "q", ownerReferences := [], nodeName := "n1",
        containers := [⟨"c", "nginx", Dec.zero, Dec.zero⟩], initContainers := [],
        phase := .running, containerStatuses := [⟨"c", "sha", "containerd://c1"⟩],
        initContainerStatuses := [] }
    let d := (newDeltaState []).applyAll
      [.upsert (.pod pending), .upsert (.node n1), .upsert (.pod running)]
    (d.nodes.get? "n1").map Node.architecture = some "" ∧ d.images.keys = ["sha"] ∧
      (d.images.values.map Image.architecture) = [""] := by
  intro n1 pending running d
  have filed : (((newDeltaState []).apply (.upsert (.pod pending))).nodes.get? "n1").map Node.architecture =
      some "" :=
    updateNodesUsageFromPod_files_no_architecture (d := (newDeltaState []).upsertImages pending) pending rfl rfl
  obtain ⟨r, found, blank⟩ := Option.map_eq_some'.1 filed
  obtain ⟨r', found', same⟩ :=
    architecture_fixed [.upsert (.node n1), .upsert (.pod running)] (by simp) r found
  have kept : d.nodes.get? "n1" = some r' := found'
  exact ⟨by rw [kept, Option.map_some', same, blank], by decide, by decide⟩

end ImageScan.NodeAccounting
