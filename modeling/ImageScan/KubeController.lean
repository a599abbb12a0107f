import ImageScan.Objects

/-! The `Controller` of package `kube`, by the caches it keeps for owner
resolution: ReplicaSets, Deployments and Jobs, each filed under its UID by
`handleDeltaUpsert` and dropped by `handleDeltaDelete`, and `GetPodOwnerID`,
which reads them. A ReplicaSet or a Job that is in no cache resolves to the pod
itself. The Deployment fallback tries every cached Deployment, in whatever
order the map yields them and whatever its namespace, and takes the first
whose selector matches the pod's labels. -/
namespace ImageScan

/-- `metav1.LabelSelectorRequirement`. -/
structure LabelSelectorRequirement where
  key : String
  operator : String
  values : List String
  deriving DecidableEq, Repr

/-- `metav1.LabelSelector`. -/
structure LabelSelector where
  matchLabels : GoMap String String
  matchExpressions : List LabelSelectorRequirement
  deriving DecidableEq, Repr

/-- `metav1.LabelSelectorAsSelector(selector)` and then
`Matches(labels.Set(podLabels))`, library code taken as given: `none` when the
selector does not convert. -/
abbrev SelectorMatches := Option LabelSelector → GoMap String String → Option Bool

namespace Kube

/-- `appsv1.Deployment`, by its UID, namespace and `Spec.Selector`. -/
structure Deployment where
  uid : String
  /-- `ObjectMeta.Namespace`. -/
  ns : String
  selector : Option LabelSelector
  deriving DecidableEq, Repr

/-- The objects whose events change the caches of the kube `Controller`;
every other kind leaves them as they are. -/
inductive CachedObject
  | replicaSet (v : OwnedObject)
  | deployment (v : Deployment)
  | job (v : OwnedObject)
  | other
  deriving DecidableEq, Repr

end Kube

open Kube

/-- The kube `Controller`, by the three caches owner resolution reads. -/
structure KubeController where
  replicaSets : GoMap String OwnedObject
  deployments : GoMap String Deployment
  jobs : GoMap String OwnedObject

namespace KubeController

/-- `NewController`: empty caches. -/
def new : KubeController := ⟨GoMap.empty, GoMap.empty, GoMap.empty⟩

/-- `handleDeltaUpsert`. -/
def handleDeltaUpsert (c : KubeController) : CachedObject → KubeController
  | .replicaSet v => { c with replicaSets := c.replicaSets.insert v.uid v }
  | .deployment v => { c with deployments := c.deployments.insert v.uid v }
  | .job v => { c with jobs := c.jobs.insert v.uid v }
  | .other => c

/-- `handleDeltaDelete`. -/
def handleDeltaDelete (c : KubeController) : CachedObject → KubeController
  | .replicaSet v => { c with replicaSets := c.replicaSets.erase v.uid }
  | .deployment v => { c with deployments := c.deployments.erase v.uid }
  | .job v => { c with jobs := c.jobs.erase v.uid }
  | .other => c

/-- `handleEvent`, by its effect on the caches: a delete drops the object, an
add or an update files it. -/
def handleEvent (c : KubeController) (event : Event) (o : CachedObject) : KubeController :=
  match event with
  | .delete => c.handleDeltaDelete o
  | .add | .update => c.handleDeltaUpsert o

end KubeController

/-- `findNextOwnerID`: an object with no owner is its own owner; otherwise
its first owner of the expected kind, if any. -/
def findNextOwnerID (obj : OwnedObject) (expectedKind : String) : Option String :=
  match obj.ownerReferences with
  | [] => some obj.uid
  | refs => (refs.find? (·.kind = expectedKind)).map (·.uid)

/-- `findOwnerFromDeployments`: the first Deployment, in map order, whose
selector converts and matches the pod's labels. -/
def findOwnerFromDeployments (selectorMatches : SelectorMatches) (items : GoMap String Deployment)
    (pod : Kube.Pod) : Option String :=
  (items.values.find? fun deployment => selectorMatches deployment.selector pod.labels = some true).map
    (·.uid)

namespace KubeController

/-- The `"ReplicaSet"` case of `GetPodOwnerID`: the cached ReplicaSet's next
Deployment owner, else a Deployment whose selector matches, else the cached
ReplicaSet, else the pod. -/
def replicaSetOwner (selectorMatches : SelectorMatches) (c : KubeController) (pod : Kube.Pod)
    (ref : OwnerReference) : String :=
  let rs := c.replicaSets.get? ref.uid
  match rs.bind (findNextOwnerID · "Deployment") with
  | some owner => owner
  | none =>
    match findOwnerFromDeployments selectorMatches c.deployments pod with
    | some owner => owner
    | none => (rs.map (·.uid)).getD pod.uid

/-- The `"Job"` case of `GetPodOwnerID`: the cached Job's next CronJob owner,
else the cached Job, else the pod. -/
def jobOwner (c : KubeController) (pod : Kube.Pod) (ref : OwnerReference) : String :=
  match c.jobs.get? ref.uid with
  | some job => (findNextOwnerID job "CronJob").getD job.uid
  | none => pod.uid

/-- `Controller.GetPodOwnerID`. -/
def getPodOwnerID (selectorMatches : SelectorMatches) (c : KubeController) (pod : Kube.Pod) : String :=
  match pod.ownerReferences with
  | [] => pod.uid
  | ref :: _ =>
    match ref.kind with
    | "DaemonSet" | "StatefulSet" => ref.uid
    | "ReplicaSet" => c.replicaSetOwner selectorMatches pod ref
    | "Job" => c.jobOwner pod ref
    | _ => pod.uid

/-! ## Owner resolution -/

/-- The owner resolution is to find for a pod, case by case: the pod itself
when it has no owner; a DaemonSet or StatefulSet owner as it stands; for a
ReplicaSet owner, the cached ReplicaSet itself when it has no owner, its first
Deployment owner when it has one, and otherwise some cached Deployment whose
selector matches the pod's labels, or failing that the cached ReplicaSet, or
the pod when the ReplicaSet is not cached; for a Job owner, the cached Job's
first CronJob owner, else the cached Job, or the pod when the Job is not
cached. -/
inductive OwnerOf (selectorMatches : SelectorMatches) (c : KubeController) (pod : Kube.Pod) :
    String → Prop
  | unowned (none : pod.ownerReferences = []) : OwnerOf selectorMatches c pod pod.uid
  | workload {ref : OwnerReference} {rest : List OwnerReference}
      (first : pod.ownerReferences = ref :: rest)
      (kind : ref.kind = "DaemonSet" ∨ ref.kind = "StatefulSet") :
      OwnerOf selectorMatches c pod ref.uid
  | bareReplicaSet {ref : OwnerReference} {rest : List OwnerReference} {rs : OwnedObject}
      (first : pod.ownerReferences = ref :: rest) (kind : ref.kind = "ReplicaSet")
      (cached : c.replicaSets.get? ref.uid = some rs) (bare : rs.ownerReferences = []) :
      OwnerOf selectorMatches c pod rs.uid
  | deployment {ref : OwnerReference} {rest : List OwnerReference} {rs : OwnedObject}
      {owner : OwnerReference} (first : pod.ownerReferences = ref :: rest)
      (kind : ref.kind = "ReplicaSet") (cached : c.replicaSets.get? ref.uid = some rs)
      (owned : rs.ownerReferences.find? (·.kind = "Deployment") = some owner) :
      OwnerOf selectorMatches c pod owner.uid
  | selected {ref : OwnerReference} {rest : List OwnerReference} {deployment : Deployment}
      (first : pod.ownerReferences = ref :: rest) (kind : ref.kind = "ReplicaSet")
      (unowned : ∀ rs, c.replicaSets.get? ref.uid = some rs →
        rs.ownerReferences ≠ [] ∧ rs.ownerReferences.find? (·.kind = "Deployment") = none)
      (mem : deployment ∈ c.deployments.values)
      (selects : selectorMatches deployment.selector pod.labels = some true) :
      OwnerOf selectorMatches c pod deployment.uid
  | replicaSet {ref : OwnerReference} {rest : List OwnerReference} {rs : OwnedObject}
      (first : pod.ownerReferences = ref :: rest) (kind : ref.kind = "ReplicaSet")
      (cached : c.replicaSets.get? ref.uid = some rs)
      (unowned : rs.ownerReferences ≠ [] ∧ rs.ownerReferences.find? (·.kind = "Deployment") = none)
      (unselected : ∀ deployment ∈ c.deployments.values,
        selectorMatches deployment.selector pod.labels ≠ some true) :
      OwnerOf selectorMatches c pod rs.uid
  | uncachedReplicaSet {ref : OwnerReference} {rest : List OwnerReference}
      (first : pod.ownerReferences = ref :: rest) (kind : ref.kind = "ReplicaSet")
      (uncached : c.replicaSets.get? ref.uid = none)
      (unselected : ∀ deployment ∈ c.deployments.values,
        selectorMatches deployment.selector pod.labels ≠ some true) :
      OwnerOf selectorMatches c pod pod.uid
  | cronJob {ref : OwnerReference} {rest : List OwnerReference} {job : OwnedObject}
      {owner : OwnerReference} (first : pod.ownerReferences = ref :: rest) (kind : ref.kind = "Job")
      (cached : c.jobs.get? ref.uid = some job)
      (owned : job.ownerReferences.find? (·.kind = "CronJob") = some owner) :
      OwnerOf selectorMatches c pod owner.uid
  | job {ref : OwnerReference} {rest : List OwnerReference} {job : OwnedObject}
      (first : pod.ownerReferences = ref :: rest) (kind : ref.kind = "Job")
      (cached : c.jobs.get? ref.uid = some job)
      (unowned : job.ownerReferences.find? (·.kind = "CronJob") = none) :
      OwnerOf selectorMatches c pod job.uid
  | uncachedJob {ref : OwnerReference} {rest : List OwnerReference}
      (first : pod.ownerReferences = ref :: rest) (kind : ref.kind = "Job")
      (uncached : c.jobs.get? ref.uid = none) :
      OwnerOf selectorMatches c pod pod.uid

variable {selectorMatches : SelectorMatches} {c : KubeController} {pod : Kube.Pod}
  {ref : OwnerReference} {rest : List OwnerReference}

theorem findNextOwnerID_eq_some {obj : OwnedObject} {kind owner : String} :
    findNextOwnerID obj kind = some owner ↔ (obj.ownerReferences = [] ∧ owner = obj.uid) ∨
      ∃ r, obj.ownerReferences.find? (·.kind = kind) = some r ∧ owner = r.uid := by
  unfold findNextOwnerID
  cases obj.ownerReferences with
  | nil => simp [eq_comm]
  | cons r refs =>
    simp only [reduceCtorEq, false_and, false_or, Option.map_eq_some']
    exact exists_congr fun r => and_congr_right fun _ => eq_comm

theorem findNextOwnerID_eq_none {obj : OwnedObject} {kind : String} :
    findNextOwnerID obj kind = none ↔
      obj.ownerReferences ≠ [] ∧ obj.ownerReferences.find? (·.kind = kind) = none := by
  unfold findNextOwnerID
  cases obj.ownerReferences with
  | nil => simp
  | cons r refs => simp

theorem findOwnerFromDeployments_eq_some {items : GoMap String Deployment} {owner : String}
    (found : findOwnerFromDeployments selectorMatches items pod = some owner) :
    ∃ deployment ∈ items.values, selectorMatches deployment.selector pod.labels = some true ∧
      owner = deployment.uid := by
  obtain ⟨deployment, first, rfl⟩ := Option.map_eq_some'.1 found
  exact ⟨deployment, List.mem_of_find?_eq_some first, by simpa using List.find?_some first, rfl⟩

theorem findOwnerFromDeployments_eq_none {items : GoMap String Deployment}
    (none : findOwnerFromDeployments selectorMatches items pod = none) :
    ∀ deployment ∈ items.values, selectorMatches deployment.selector pod.labels ≠ some true := by
  intro deployment mem
  simpa using List.find?_eq_none.1 (Option.map_eq_none'.1 none) deployment mem

theorem getPodOwnerID_replicaSet (first : pod.ownerReferences = ref :: rest)
    (kind : ref.kind = "ReplicaSet") :
    c.getPodOwnerID selectorMatches pod = c.replicaSetOwner selectorMatches pod ref := by
  rw [getPodOwnerID, first]
  simp only [kind]

theorem getPodOwnerID_job (first : pod.ownerReferences = ref :: rest) (kind : ref.kind = "Job") :
    c.getPodOwnerID selectorMatches pod = c.jobOwner pod ref := by
  rw [getPodOwnerID, first]
  simp only [kind]

theorem getPodOwnerID_workload (first : pod.ownerReferences = ref :: rest)
    (kind : ref.kind = "DaemonSet" ∨ ref.kind = "StatefulSet") :
    c.getPodOwnerID selectorMatches pod = ref.uid := by
  rw [getPodOwnerID, first]
  rcases kind with kind | kind <;> simp only [kind]

theorem ownerOf_replicaSetOwner (first : pod.ownerReferences = ref :: rest)
    (kind : ref.kind = "ReplicaSet") :
    OwnerOf selectorMatches c pod (c.replicaSetOwner selectorMatches pod ref) := by
  unfold replicaSetOwner
  dsimp only
  cases next : (c.replicaSets.get? ref.uid).bind (findNextOwnerID · "Deployment") with
  | some owner =>
    obtain ⟨rs, cached, next⟩ := Option.bind_eq_some.1 next
    rcases findNextOwnerID_eq_some.1 next with ⟨bare, rfl⟩ | ⟨deployment, owned, rfl⟩
    · exact .bareReplicaSet first kind cached bare
    · exact .deployment first kind cached owned
  | none =>
    have unowned rs (cached : c.replicaSets.get? ref.uid = some rs) :=
      findNextOwnerID_eq_none.1 (Option.bind_eq_none.1 next rs cached)
    cases found : findOwnerFromDeployments selectorMatches c.deployments pod with
    | some owner =>
      obtain ⟨deployment, mem, selects, rfl⟩ := findOwnerFromDeployments_eq_some found
      exact .selected first kind unowned mem selects
    | none =>
      have unselected := findOwnerFromDeployments_eq_none found
      cases cached : c.replicaSets.get? ref.uid with
      | none => exact .uncachedReplicaSet first kind cached unselected
      | some rs => exact .replicaSet first kind cached (unowned rs cached) unselected

theorem ownerOf_jobOwner (first : pod.ownerReferences = ref :: rest) (kind : ref.kind = "Job") :
    OwnerOf selectorMatches c pod (c.jobOwner pod ref) := by
  unfold jobOwner
  cases cached : c.jobs.get? ref.uid with
  | none => exact .uncachedJob first kind cached
  | some job =>
    dsimp only
    cases next : findNextOwnerID job "CronJob" with
    | some owner =>
      rcases findNextOwnerID_eq_some.1 next with ⟨bare, rfl⟩ | ⟨cron, owned, rfl⟩
      · exact .job first kind cached (by simp [bare])
      · exact .cronJob first kind cached owned
    | none => exact .job first kind cached (findNextOwnerID_eq_none.1 next).2

/-- Owner resolution finds the owner `OwnerOf` describes, for every pod whose
first owner, if any, is a ReplicaSet, a Job, a DaemonSet or a StatefulSet, and
whatever the caches hold. -/
theorem getPodOwnerID_ownerOf (selectorMatches : SelectorMatches) (c : KubeController)
    (pod : Kube.Pod) (kinds : ∀ ref rest, pod.ownerReferences = ref :: rest →
      ref.kind = "ReplicaSet" ∨ ref.kind = "Job" ∨ ref.kind = "DaemonSet" ∨ ref.kind = "StatefulSet") :
    OwnerOf selectorMatches c pod (c.getPodOwnerID selectorMatches pod) := by
  cases first : pod.ownerReferences with
  | nil =>
    have unowned : c.getPodOwnerID selectorMatches pod = pod.uid := by rw [getPodOwnerID, first]
    exact unowned ▸ .unowned first
  | cons ref rest =>
    rcases kinds ref rest first with kind | kind | kind | kind
    · rw [getPodOwnerID_replicaSet first kind]; exact ownerOf_replicaSetOwner first kind
    · rw [getPodOwnerID_job first kind]; exact ownerOf_jobOwner first kind
    · rw [getPodOwnerID_workload first (.inl kind)]; exact .workload first (.inl kind)
    · rw [getPodOwnerID_workload first (.inr kind)]; exact .workload first (.inr kind)

/-- A pod of a ReplicaSet that a Deployment owns resolves to the Deployment. -/
theorem getPodOwnerID_ownerOf_deployment_pod :
    let pod : Kube.Pod :=
      { uid := "p1", ownerReferences := [⟨"ReplicaSet", "rs1"⟩], nodeName := "n1",
        containers := [], initContainers := [], phase := .running, containerStatuses := [],
        initContainerStatuses := [] }
    let c := KubeController.new.handleDeltaUpsert (.replicaSet ⟨"default/rs1", "rs1", [⟨"Deployment", "d1"⟩]⟩)
    (∀ ref rest, pod.ownerReferences = ref :: rest →
      ref.kind = "ReplicaSet" ∨ ref.kind = "Job" ∨ ref.kind = "DaemonSet" ∨ ref.kind = "StatefulSet") ∧
      OwnerOf (fun _ _ => none) c pod (c.getPodOwnerID (fun _ _ => none) pod) ∧
      c.getPodOwnerID (fun _ _ => none) pod = "d1" := by
  intro pod c
  have kinds : ∀ ref rest, pod.ownerReferences = ref :: rest →
      ref.kind = "ReplicaSet" ∨ ref.kind = "Job" ∨ ref.kind = "DaemonSet" ∨ ref.kind = "StatefulSet" := by
    intro ref rest first
    cases first
    exact .inl rfl
  exact ⟨kinds, getPodOwnerID_ownerOf _ c pod kinds, by decide⟩

/-- Three pods whose owner is not the one the definition by cases gives. A
pod owned by a ReplicaSet or a Job that no cache holds resolves to the pod
itself, not to the ReplicaSet or the Job it names. A pod in namespace a whose
cached ReplicaSet has an owner but no Deployment resolves to a Deployment of
namespace b that selects its labels. A pod whose cached ReplicaSet has no owner
resolves to the ReplicaSet, though a Deployment of its own namespace selects
it. The selectors here are match labels only, which select a pod carrying
every label they list. -/
theorem getPodOwnerID_not_by_definition :
    let pod : Kube.Pod :=
      { uid := "p1", ownerReferences := [⟨"Job", "j1"⟩], nodeName := "n1", containers := [],
        initContainers := [], phase := .running, containerStatuses := [], initContainerStatuses := [] }
    let selectorMatches : SelectorMatches := fun selector labels =>
      selector.map fun s => s.matchLabels.entries.all fun e => labels.get? e.1 == some e.2
    let web : GoMap String String := GoMap.empty.insert "app" "web"
    let replicaSetPod : Kube.Pod :=
      { pod with ns := "a", labels := web, ownerReferences := [⟨"ReplicaSet", "rs1"⟩] }
    let rollout : OwnedObject := ⟨"a/rs1", "rs1", [⟨"Rollout", "ro1"⟩]⟩
    let bare : OwnedObject := ⟨"a/rs1", "rs1", []⟩
    (KubeController.new.getPodOwnerID (fun _ _ => some true) pod = "p1" ∧
      KubeController.new.getPodOwnerID (fun _ _ => some true)
        { pod with ownerReferences := [⟨"ReplicaSet", "rs1"⟩] } = "p1") ∧
    ((KubeController.new.handleDeltaUpsert (.replicaSet rollout)).handleDeltaUpsert
        (.deployment ⟨"d2", "b", some ⟨web, []⟩⟩)).getPodOwnerID selectorMatches replicaSetPod = "d2" ∧
    ((KubeController.new.handleDeltaUpsert (.replicaSet bare)).handleDeltaUpsert
        (.deployment ⟨"d1", "a", some ⟨web, []⟩⟩)).getPodOwnerID selectorMatches replicaSetPod = "rs1" := by
  decide

end KubeController

end ImageScan
