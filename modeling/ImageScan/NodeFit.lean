import ImageScan.Delta
import ImageScan.Sort

/-! `findBestNode`, the placement query of the delta state: among the named
nodes with enough memory and CPU available, the first after sorting by a
comparison of available CPU. The sort is any `SortSlice`. It finds a node
exactly when one of the named nodes fits, and the node it finds fits; but the
comparison it sorts by sets one node's available CPU against the other's
allocatable CPU, so the node it finds need not be the one with the most CPU
available. -/
namespace ImageScan

namespace DeltaState

/-- The candidate test of `findBestNode`: a known node with at least the
required memory and CPU available. -/
def candidate (d : DeltaState) (requiredMemory requiredCPU : Dec) (name : String) : Option Node :=
  match d.nodes.get? name with
  | some n =>
    if 0 ≤ n.availableMemory.cmp requiredMemory ∧ 0 ≤ n.availableCPU.cmp requiredCPU then some n
    else none
  | none => none

/-- The `less` that `findBestNode` hands `sort.Slice`: one candidate's
available CPU against the other's allocatable CPU. -/
def moreCPU (a b : Node) : Bool := decide (0 < a.availableCPU.cmp b.allocatableCPU)

/-- `findBestNode`. -/
def findBestNode (sortSlice : SortSlice) (d : DeltaState) (nodeNames : List String)
    (requiredMemory requiredCPU : Dec) : Except GoError String :=
  if d.nodes.size = 0 then .error .noCandidates
  else
    let candidates := nodeNames.filterMap (d.candidate requiredMemory requiredCPU)
    if candidates.length = 0 then .error .noCandidates
    else
      match sortSlice.sort moreCPU candidates with
      | best :: _ => .ok best.name
      | [] => .error .noCandidates

/-- A known node among `nodeNames` with the required memory and CPU available. -/
def Fits (d : DeltaState) (nodeNames : List String) (requiredMemory requiredCPU : Dec)
    (name : String) : Prop :=
  name ∈ nodeNames ∧ ∃ n, d.nodes.get? name = some n ∧
    requiredMemory.val ≤ n.availableMemory.val ∧ requiredCPU.val ≤ n.availableCPU.val

variable {d : DeltaState} {requiredMemory requiredCPU : Dec}

theorem candidate_eq_some {name : String} {n : Node} :
    d.candidate requiredMemory requiredCPU name = some n ↔
      d.nodes.get? name = some n ∧
        requiredMemory.val ≤ n.availableMemory.val ∧ requiredCPU.val ≤ n.availableCPU.val := by
  unfold candidate
  cases d.nodes.get? name with
  | none => simp
  | some n' =>
    simp only [Dec.cmp_nonneg_iff]
    split_ifs with fits
    · simp only [Option.some.injEq]
      exact ⟨fun same => ⟨same, same ▸ fits⟩, fun ⟨same, _⟩ => same⟩
    · simp only [reduceCtorEq, Option.some.injEq, false_iff, not_and]
      exact fun same => same ▸ not_and.1 fits

/-- The candidates are the fitting nodes, each under its name. -/
theorem mem_candidates {nodeNames : List String} {n : Node} :
    n ∈ nodeNames.filterMap (d.candidate requiredMemory requiredCPU) ↔
      Fits d nodeNames requiredMemory requiredCPU n.name ∧ d.nodes.get? n.name = some n := by
  simp only [List.mem_filterMap, candidate_eq_some, Fits]
  constructor
  · rintro ⟨name, mem, found, fits⟩
    cases d.nodes_named name n found
    exact ⟨⟨mem, n, found, fits⟩, found⟩
  · rintro ⟨⟨mem, n', found', fits⟩, found⟩
    cases found.symm.trans found'
    exact ⟨n.name, mem, found, fits⟩

/-- The node `findBestNode` finds fits. -/
theorem findBestNode_fits (sortSlice : SortSlice) {nodeNames : List String} {name : String}
    (found : d.findBestNode sortSlice nodeNames requiredMemory requiredCPU = .ok name) :
    Fits d nodeNames requiredMemory requiredCPU name := by
  unfold findBestNode at found
  split at found
  · cases found
  · dsimp only at found
    split at found
    · cases found
    · split at found
      · rename_i best _ sorted
        cases found
        have mem := (sortSlice.mem_sort _ _ best).1 (sorted ▸ List.mem_cons_self _ _)
        exact (mem_candidates.1 mem).1
      · cases found

/-- `findBestNode` fails only with `errNoCandidates`, and only when no named
node fits. -/
theorem findBestNode_error (sortSlice : SortSlice) {nodeNames : List String} {err : GoError}
    (failed : d.findBestNode sortSlice nodeNames requiredMemory requiredCPU = .error err) :
    err = .noCandidates ∧ ∀ name, ¬ Fits d nodeNames requiredMemory requiredCPU name := by
  unfold findBestNode at failed
  split at failed
  · rename_i empty
    cases failed
    exact ⟨rfl, fun name ⟨_, n, found, _⟩ => by simp [GoMap.size_eq_zero_iff.1 empty name] at found⟩
  · dsimp only at failed
    split at failed
    · rename_i none
      cases failed
      refine ⟨rfl, fun name ⟨mem, n, found, fits⟩ => ?_⟩
      have named := d.nodes_named name n found
      subst named
      exact List.not_mem_nil n (List.length_eq_zero.1 none ▸ mem_candidates.2 ⟨⟨mem, n, found, fits⟩, found⟩)
    · split at failed
      · cases failed
      · rename_i none _ sorted
        exact absurd (List.length_eq_zero.2 ((sortSlice.sort_eq_nil _ _).1 sorted)) none

/-- `findBestNode` finds a node exactly when one of the named nodes fits. -/
theorem findBestNode_isOk_iff (sortSlice : SortSlice) (nodeNames : List String) :
    (∃ name, d.findBestNode sortSlice nodeNames requiredMemory requiredCPU = .ok name) ↔
      ∃ name, Fits d nodeNames requiredMemory requiredCPU name := by
  constructor
  · exact fun ⟨name, found⟩ => ⟨name, findBestNode_fits sortSlice found⟩
  · intro ⟨name, fits⟩
    cases result : d.findBestNode sortSlice nodeNames requiredMemory requiredCPU with
    | error err => exact absurd fits ((findBestNode_error sortSlice result).2 name)
    | ok found => exact ⟨found, rfl⟩

/-- Two nodes, `n1` with ten CPUs of which a pending pod reserves eight, and
`n2` with five: with Go's sort on two elements, `findBestNode` picks `n1`, two
CPUs available, over `n2`, five. -/
theorem findBestNode_prefers_less_available :
    let n1 : Kube.Node := ⟨"n1", "amd64", "linux", ⟨10, 0⟩, Dec.zero⟩
    let n2 : Kube.Node := ⟨"n2", "amd64", "linux", ⟨5, 0⟩, Dec.zero⟩
    let pod : Kube.Pod :=
      { uid := "p1", ownerReferences := [], nodeName := "n1",
        containers := [⟨"c", "busybox", ⟨8, 0⟩, Dec.zero⟩], initContainers := [],
        phase := .pending, containerStatuses := [], initContainerStatuses := [] }
    let d := (newDeltaState []).applyAll [.upsert (.node n1), .upsert (.node n2), .upsert (.pod pod)]
    d.findBestNode goInsertionSort ["n1", "n2"] Dec.zero Dec.zero = .ok "n1" ∧
      (d.nodes.get? "n1").map Node.availableCPU = some ⟨2, 0⟩ ∧
      (d.nodes.get? "n2").map Node.availableCPU = some ⟨5, 0⟩ :=
  ⟨rfl, rfl, rfl⟩

end DeltaState

end ImageScan
