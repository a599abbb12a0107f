import ImageScan.GoMap
import ImageScan.Quantity
import Mathlib.Data.List.Infix

/-! The Kubernetes objects the image-scan delta state consumes, each with the
fields the code reads, and the small Go values the scheduler keeps: times and
durations, the retry backoff of `k8s.io/apimachinery/pkg/util/wait`, and the
errors it tells apart. -/
namespace ImageScan

/-- `time.Time`, in nanoseconds since Go's zero time, so `IsZero` is `= 0`. -/
abbrev Time := Int

/-- `time.Duration`, in nanoseconds. -/
abbrev Duration := Int

/-- `time.Second`. -/
def second : Duration := 1000000000

/-- `time.Minute`. -/
def minute : Duration := 60 * second

/-- `strings.Contains`. -/
def contains (s substr : String) : Bool := decide (substr.data <:+: s.data)

namespace Kube

/-- `metav1.OwnerReference`, by the two fields the code reads. -/
structure OwnerReference where
  kind : String
  uid : String
  deriving DecidableEq, Repr

/-- A container of a pod spec. `requestCPU` and `requestMemory` are
`Resources.Requests.Cpu()` and `.Memory()` as decimals, zero when unset. -/
structure Container where
  name : String
  image : String
  requestCPU : Dec
  requestMemory : Dec
  deriving DecidableEq, Repr

/-- `corev1.ContainerStatus`. -/
structure ContainerStatus where
  name : String
  imageID : String
  containerID : String
  deriving DecidableEq, Repr

/-- `corev1.PodPhase`. -/
inductive PodPhase
  | pending
  | running
  | succeeded
  | failed
  | unknown
  deriving DecidableEq, Repr

/-- `corev1.Pod`: metadata, `Spec` and `Status` as far as they are read. -/
structure Pod where
  uid : String
  /-- `ObjectMeta.Namespace`. -/
  ns : String := ""
  ownerReferences : List OwnerReference
  labels : GoMap String String := GoMap.empty
  nodeName : String
  containers : List Container
  initContainers : List Container
  phase : PodPhase
  containerStatuses : List ContainerStatus
  initContainerStatuses : List ContainerStatus
  deriving DecidableEq, Repr

/-- `corev1.Node`: its name, `Status.NodeInfo` and `Status.Allocatable`. -/
structure Node where
  name : String
  architecture : String
  operatingSystem : String
  allocatableCPU : Dec
  allocatableMemory : Dec
  deriving DecidableEq, Repr

/-- A `ReplicaSet` or a `Job` as owner resolution reads it. `key` is
`controller.ObjectKey(o)`, under which the delta state files it. -/
structure OwnedObject where
  key : String
  uid : String
  ownerReferences : List OwnerReference
  deriving DecidableEq, Repr

/-- `controller.Object`, by the kinds `upsert` and `delete` dispatch on. -/
inductive Object
  | pod (v : Pod)
  | node (v : Node)
  | job (v : OwnedObject)
  | replicaSet (v : OwnedObject)
  | other
  deriving DecidableEq, Repr

/-- `kube.Event`. -/
inductive Event
  | add
  | update
  | delete
  deriving DecidableEq, Repr

end Kube

/-- The `error` values the image-scan code tells apart: its sentinels, which
`errors.Is` compares by identity, and any other error by its text. -/
inductive GoError
  | noCandidates
  | imageLayerNotFound
  | privateImage
  | message (text : String)
  deriving DecidableEq, Repr

/-- Results of fallible functions compare by value. -/
instance instDecidableEqExcept {ε α : Type} [DecidableEq ε] [DecidableEq α] :
    DecidableEq (Except ε α)
  | .error a, .error b =>
    if same : a = b then isTrue (same ▸ rfl) else isFalse fun eq => same (Except.error.inj eq)
  | .ok a, .ok b =>
    if same : a = b then isTrue (same ▸ rfl) else isFalse fun eq => same (Except.ok.inj eq)
  | .error _, .ok _ => isFalse fun eq => Except.noConfusion eq
  | .ok _, .error _ => isFalse fun eq => Except.noConfusion eq

/-- `err.Error()`. -/
def GoError.error : GoError → String
  | .noCandidates => "no candidates"
  | .imageLayerNotFound => "image layer not found"
  | .privateImage => "private image"
  | .message text => text

/-- `wait.Backoff` with the fields `Step` reads. Every backoff of this program
has no jitter, so `Jitter` is left out; `Factor` is a float in Go, and the
program's factor 3 multiplies its durations, all below `2^53` ns, exactly. -/
structure Backoff where
  duration : Duration
  factor : Nat
  steps : Nat
  cap : Duration
  deriving DecidableEq, Repr

/-- `Backoff.Step`: the delay to wait now, and the backoff for the next call.
Once the steps are spent the delay stays where it is. -/
def Backoff.step (b : Backoff) : Duration × Backoff :=
  if b.steps < 1 then (b.duration, b)
  else if b.factor = 0 then (b.duration, { b with steps := b.steps - 1 })
  else
    let grown := b.duration * b.factor
    if 0 < b.cap ∧ b.cap < grown then (b.duration, { b with duration := b.cap, steps := 0 })
    else (b.duration, { b with duration := grown, steps := b.steps - 1 })

end ImageScan
