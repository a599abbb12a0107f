import ImageScan.GoMap
import ImageScan.Objects
import Mathlib.Data.Finset.Basic

/-! The delta state of `imagescan/delta.go`: the images running in the cluster
with their owners and nodes, and every node with the pods reserving capacity on
it, kept up to date from Pod, Node, ReplicaSet and Job events. Pointers the Go
code mutates in place are values here that each operation writes back. -/
namespace ImageScan

open Kube

/-- `imageNode`: the pods through which an image runs on one node. -/
structure ImageNode where
  podIDs : Finset String
  deriving DecidableEq

/-- `imageOwner`: the pods through which one owner uses an image. -/
structure ImageOwner where
  podIDs : Finset String
  deriving DecidableEq

/-- `ownerChanges`: owners gained and lost since the last report. -/
structure OwnerChanges where
  addedIDS : List String
  removedIDs : List String
  deriving DecidableEq

/-- `image`. Its last three times are not in the image of src/, while the
controller of src/ reads them: the spec says an image's owner set is reported
when it changed after the image's last report, which is what `ownerChangedAt`
and `resourcesUpdatedAt` record; the controller writes the other two. -/
structure Image where
  /-- The ImageID of the container status, image name and digest. -/
  id : String
  /-- The image name of the container spec, which may not be fully qualified. -/
  name : String
  /-- The architecture of the node the image was seen on. -/
  architecture : String
  /-- The runtime the container ID names, docker or containerd, or empty. -/
  containerRuntime : String
  /-- The resources the image affects, each with the pods through which it
  uses the image. -/
  owners : GoMap String ImageOwner
  /-- The nodes the image runs on, each with the pods that run it there. -/
  nodes : GoMap String ImageNode
  /-- Owners gained and lost since the last report, kept for a scanned image. -/
  ownerChanges : OwnerChanges
  /-- Whether a scan of the image succeeded, here or as the remote side reports. -/
  scanned : Bool
  /-- The error of the last failed scan. -/
  lastScanErr : Option GoError
  /-- Failed scans so far, which pending images are sorted by. -/
  failures : Nat
  /-- The retry state of a failed image. -/
  retryBackoff : Backoff
  /-- When a failed image may be scanned again, set from the backoff. -/
  nextScan : Time
  /-- When the owner set last changed. -/
  ownerChangedAt : Time
  /-- When the image was last reported to the remote side. -/
  resourcesUpdatedAt : Time
  /-- When the remote side was last asked whether the image is scanned. -/
  lastRemoteSyncAt : Time

/-- `image.cacheKey`: the key an image is filed under. -/
def Image.cacheKey (img : Image) : String := img.id ++ img.architecture

/-- `image.isUnused`. -/
def Image.isUnused (img : Image) : Bool := img.nodes.size = 0 && img.owners.size = 0

/-- `pod`: the requests one pod reserves on its node. -/
structure Pod where
  id : String
  requestCPU : Dec
  requestMemory : Dec
  deriving DecidableEq

/-- `node`. The record under src/ has no `os`, which the controller reads.
Modelled from the spec: a node has an OS, taken from the Node object where
its architecture is. -/
structure Node where
  /-- The name it is filed under. -/
  name : String
  /-- The architecture of the Node that filed the record, empty when a pod
  filed it first. -/
  architecture : String
  /-- The OS of the Node that filed the record, empty when a pod filed it first. -/
  os : String
  /-- `Status.Allocatable` memory of the Node, updated by every Node upsert. -/
  allocatableMem : Dec
  /-- `Status.Allocatable` CPU of the Node, updated by every Node upsert. -/
  allocatableCPU : Dec
  /-- The pods reserving capacity on the node, by UID. -/
  pods : GoMap String Pod

/-- `node.availableMemory`: allocatable memory less every pod's request. -/
def Node.availableMemory (n : Node) : Dec :=
  n.pods.values.foldl (fun result p => result.sub p.requestMemory) (Dec.zero.add n.allocatableMem)

/-- `node.availableCPU`. -/
def Node.availableCPU (n : Node) : Dec :=
  n.pods.values.foldl (fun result p => result.sub p.requestCPU) (Dec.zero.add n.allocatableCPU)

/-- `castai.ScannedImage`, which src/ does not declare. Modelled from the
spec: an image the remote side has scanned, by digest and architecture, with
the resources that use it; its `CacheKey` is the image's. -/
structure ScannedImage where
  id : String
  architecture : String
  resourceIDs : List String
  deriving DecidableEq, Repr

/-- `ScannedImage.CacheKey`, modelled from the spec as `image.cacheKey`. -/
def ScannedImage.cacheKey (s : ScannedImage) : String := s.id ++ s.architecture

/-- `deltaState`, without its two channels: the order in which the controller
drains them is the order of its actions. Every node is filed under its name. -/
structure DeltaState where
  /-- The cluster's images by cache key, with their owners and nodes. -/
  images : GoMap String Image
  /-- ReplicaSets by object key, read by owner resolution. -/
  rs : GoMap String OwnedObject
  /-- Jobs by object key, read by owner resolution. -/
  jobs : GoMap String OwnedObject
  /-- Node records by name, with the pods reserving capacity on each. -/
  nodes : GoMap String Node
  /-- Set by a scan that failed for a missing layer: hostfs is meant to be off
  for every later scan. -/
  hostFSDisabled : Bool
  /-- The wall clock, as the handlers read it with `time.Now()`; not a field of
  `deltaState`, whose handlers read the system clock. -/
  clock : Time
  nodes_named : ∀ name n, nodes.get? name = some n → n.name = name

/-- `newImage`. -/
def newImage (imageID architecture : String) : Image where
  id := imageID
  name := ""
  architecture := architecture
  containerRuntime := ""
  owners := GoMap.empty
  nodes := GoMap.empty
  ownerChanges := ⟨[], []⟩
  scanned := false
  lastScanErr := none
  failures := 0
  retryBackoff := { duration := 60 * second, factor := 3, steps := 8, cap := 0 }
  nextScan := 0
  ownerChangedAt := 0
  resourcesUpdatedAt := 0
  lastRemoteSyncAt := 0

/-- One entry of `buildImageMap`: an image the remote side reports scanned. -/
def scannedImageEntry (s : ScannedImage) : Image :=
  { newImage s.id s.architecture with
    scanned := true
    owners := s.resourceIDs.foldl (fun owners id => owners.insert id ⟨∅⟩) GoMap.empty }

/-- `buildImageMap`. -/
def buildImageMap (scannedImages : List ScannedImage) : GoMap String Image :=
  scannedImages.foldl (fun images s => images.insert s.cacheKey (scannedImageEntry s)) GoMap.empty

/-- `NewDeltaState`. -/
def newDeltaState (scannedImages : List ScannedImage) : DeltaState where
  images := buildImageMap scannedImages
  rs := GoMap.empty
  jobs := GoMap.empty
  nodes := GoMap.empty
  hostFSDisabled := false
  clock := 0
  nodes_named _ _ found := by simp at found

/-- `getContainerRuntime`; the runtimes `imgcollectorconfig.RuntimeDocker`
and `RuntimeContainerd` are taken to be the prefixes they are named after. -/
def getContainerRuntime (containerID : String) : String :=
  match containerID.splitOn "://" with
  | [cr, _] => if cr = "docker" ∨ cr = "containerd" then cr else ""
  | _ => ""

/-- The loop of `getPodOwnerID` over a cache of ReplicaSets or Jobs: the first
cached object with the reference's UID gives its own first owner, if it has
one, and otherwise the reference itself. -/
def ownerFromCache (objects : GoMap String OwnedObject) (ref : OwnerReference) : String :=
  match objects.values.find? (·.uid = ref.uid) with
  | some val => match val.ownerReferences with
    | owner :: _ => owner.uid
    | [] => ref.uid
  | none => ref.uid

/-- `getPodOwnerID`: the top-level owner of a pod. -/
def getPodOwnerID (pod : Kube.Pod) (rsMap jobsMap : GoMap String OwnedObject) : String :=
  match pod.ownerReferences with
  | [] => pod.uid
  | ref :: _ =>
    if ref.kind = "ReplicaSet" then ownerFromCache rsMap ref
    else if ref.kind = "Job" then ownerFromCache jobsMap ref
    else ref.uid

/-- `sumPodRequestMemory`, over the pod's containers (not its init containers). -/
def sumPodRequestMemory (pod : Kube.Pod) : Dec :=
  pod.containers.foldl (fun result c => result.add c.requestMemory) Dec.zero

/-- `sumPodRequestCPU`. -/
def sumPodRequestCPU (pod : Kube.Pod) : Dec :=
  pod.containers.foldl (fun result c => result.add c.requestCPU) Dec.zero

namespace Image

/-- The owner half of one container of `upsertImages`, at time `now`: the pod
joins the owner's pods, and an owner new to the image changes its owner set at
`now`, and is recorded for an already scanned image. The time is modelled from
the spec, as the image of src/ has no `ownerChangedAt`. -/
def addOwnerPod (img : Image) (ownerResourceID podID : String) (now : Time) : Image :=
  match img.owners.get? ownerResourceID with
  | some owner => { img with owners := img.owners.insert ownerResourceID ⟨insert podID owner.podIDs⟩ }
  | none =>
    { img with
      owners := img.owners.insert ownerResourceID ⟨{podID}⟩
      ownerChanges := if img.scanned then
        { img.ownerChanges with addedIDS := img.ownerChanges.addedIDS ++ [ownerResourceID] }
        else img.ownerChanges
      ownerChangedAt := now }

/-- The node half of one container of `upsertImages`. -/
def addNodePod (img : Image) (nodeName podID : String) : Image :=
  match img.nodes.get? nodeName with
  | some n => { img with nodes := img.nodes.insert nodeName ⟨insert podID n.podIDs⟩ }
  | none => { img with nodes := img.nodes.insert nodeName ⟨{podID}⟩ }

/-- The node block of the image loop of `handlePodDelete`: the pod leaves the
node's pods; the node entry stays, however few pods it has left. -/
def removeNodePod (img : Image) (nodeName podID : String) : Image :=
  match img.nodes.get? nodeName with
  | some n => { img with nodes := img.nodes.insert nodeName ⟨n.podIDs.erase podID⟩ }
  | none => img

/-- The owner block of the image loop of `handlePodDelete`, at time `now`: the
pod leaves the owner's pods, and an owner left with none is dropped, which
changes the owner set at `now` (and is recorded, for a scanned image). -/
def removeOwnerPod (img : Image) (ownerResourceID podID : String) (now : Time) : Image :=
  match img.owners.get? ownerResourceID with
  | none => img
  | some owner =>
    if owner.podIDs.erase podID = ∅ then
      { img with
        owners := img.owners.erase ownerResourceID
        ownerChanges := if img.scanned then
          { img.ownerChanges with removedIDs := img.ownerChanges.removedIDs ++ [ownerResourceID] }
          else img.ownerChanges
        ownerChangedAt := now }
    else { img with owners := img.owners.insert ownerResourceID ⟨owner.podIDs.erase podID⟩ }

end Image

namespace DeltaState

/-- A node map whose records carry their keys keeps that when a record with
the same name is written. -/
theorem named_insert {nodes : GoMap String Node}
    (named : ∀ name n, nodes.get? name = some n → n.name = name) {key : String} {n : Node}
    (same : n.name = key) : ∀ name m, (nodes.insert key n).get? name = some m → m.name = name := by
  intro name m found
  rw [GoMap.get?_insert] at found
  split at found
  · cases found; subst name; exact same
  · exact named name m found

theorem named_erase {nodes : GoMap String Node}
    (named : ∀ name n, nodes.get? name = some n → n.name = name) (key : String) :
    ∀ name m, (nodes.erase key).get? name = some m → m.name = name := by
  intro name m found
  rw [GoMap.get?_erase] at found
  split at found
  · cases found
  · exact named name m found

/-- `d.nodes[name] = n` for a record `n` named `name`. -/
def putNode (d : DeltaState) (name : String) (n : Node) (same : n.name = name) : DeltaState :=
  { d with nodes := d.nodes.insert name n, nodes_named := named_insert d.nodes_named same }

/-- `d.images[key] = img`. -/
def putImage (d : DeltaState) (key : String) (img : Image) : DeltaState :=
  { d with images := d.images.insert key img }

/-- The record filed under `name`, or a fresh one with that name and none of
the Node's data, as the pod handlers create it. -/
def nodeOrFresh (d : DeltaState) (name : String) : Node :=
  (d.nodes.get? name).getD
    { name, architecture := "", os := "", allocatableMem := Dec.zero, allocatableCPU := Dec.zero,
      pods := GoMap.empty }

theorem nodeOrFresh_name (d : DeltaState) (name : String) : (d.nodeOrFresh name).name = name := by
  unfold nodeOrFresh
  cases found : d.nodes.get? name with
  | none => rfl
  | some n => exact d.nodes_named name n found

/-- `updateNodeUsage`: a Node event. A new record takes the Node's
architecture; an existing one only its allocatable resources. -/
def updateNodeUsage (d : DeltaState) (v : Kube.Node) : DeltaState :=
  match found : d.nodes.get? v.name with
  | some n =>
    d.putNode v.name { n with allocatableMem := v.allocatableMemory, allocatableCPU := v.allocatableCPU }
      (d.nodes_named _ n found)
  | none =>
    d.putNode v.name
      { name := v.name, architecture := v.architecture, os := v.operatingSystem,
        allocatableMem := v.allocatableMemory, allocatableCPU := v.allocatableCPU,
        pods := GoMap.empty } rfl

/-- `if n, found := d.nodes[nodeName]; found { delete(n.pods, uid) }`, the
release of a pod's reservation in `handlePodDelete` and in
`updateNodesUsageFromPod` alike. -/
def releasePod (d : DeltaState) (nodeName uid : String) : DeltaState :=
  match found : d.nodes.get? nodeName with
  | some n => d.putNode nodeName { n with pods := n.pods.erase uid } (d.nodes_named _ n found)
  | none => d

/-- `updateNodesUsageFromPod`: a running or pending pod reserves its requests
on its node, creating the node's record if there is none; a pod in any other
phase gives its reservation up. -/
def updateNodesUsageFromPod (d : DeltaState) (v : Kube.Pod) : DeltaState :=
  match v.phase with
  | .running | .pending =>
    let n := d.nodeOrFresh v.nodeName
    let p := (n.pods.get? v.uid).getD ⟨v.uid, Dec.zero, Dec.zero⟩
    let p := { p with requestMemory := sumPodRequestMemory v, requestCPU := sumPodRequestCPU v }
    d.putNode v.nodeName { n with pods := n.pods.insert v.uid p } (d.nodeOrFresh_name v.nodeName)
  | _ => d.releasePod v.nodeName v.uid

/-- The architecture `upsertImages` files a pod's images under: its node's, or
`amd64` for a node with no record. -/
def archOf (d : DeltaState) (nodeName : String) : String :=
  match d.nodes.get? nodeName with
  | some n => n.architecture
  | none => "amd64"

/-- The image one container of `upsertImages` writes: the one filed under the
status's image ID and the node's architecture, or a new one, renamed after the
container and joined by the pod under its owner, at the handler's clock, and
its node. -/
def upsertedImage (d : DeltaState) (pod : Kube.Pod) (ownerResourceID : String)
    (cs : ContainerStatus) (cont : Container) : Image :=
  let arch := d.archOf pod.nodeName
  let img := (d.images.get? (cs.imageID ++ arch)).getD (newImage cs.imageID arch)
  let img := { img with
    id := cs.imageID, name := cont.image, containerRuntime := getContainerRuntime cs.containerID }
  (img.addOwnerPod ownerResourceID pod.uid d.clock).addNodePod pod.nodeName pod.uid

/-- One container of `upsertImages`: a container whose status names an image
and whose spec names one writes that image. -/
def upsertContainer (d : DeltaState) (pod : Kube.Pod) (ownerResourceID : String)
    (containerStatuses : List ContainerStatus) (cont : Container) : DeltaState :=
  match containerStatuses.find? (·.name = cont.name) with
  | none => d
  | some cs =>
    if cs.imageID = "" then d
    else if cont.image = "" then d
    else d.putImage (cs.imageID ++ d.archOf pod.nodeName) (d.upsertedImage pod ownerResourceID cs cont)

/-- `upsertImages`: only a running pod's images are tracked. -/
def upsertImages (d : DeltaState) (pod : Kube.Pod) : DeltaState :=
  if pod.phase ≠ .running then d
  else
    (pod.containers ++ pod.initContainers).foldl
      (fun d cont => d.upsertContainer pod (getPodOwnerID pod d.rs d.jobs)
        (pod.containerStatuses ++ pod.initContainerStatuses) cont) d

/-- `handlePodUpdate`. -/
def handlePodUpdate (d : DeltaState) (v : Kube.Pod) : DeltaState :=
  (d.upsertImages v).updateNodesUsageFromPod v

/-- The image loop of `handlePodDelete`: the pod leaves every image, at the
handler's clock, and images left with neither nodes nor owners are purged. -/
def podDeletedImages (d : DeltaState) (pod : Kube.Pod) : GoMap String Image :=
  let ownerResourceID := getPodOwnerID pod d.rs d.jobs
  d.images.filterMap fun _ img =>
    let img := (img.removeNodePod pod.nodeName pod.uid).removeOwnerPod ownerResourceID pod.uid d.clock
    if img.nodes.size = 0 ∧ img.owners.size = 0 then none else some img

/-- `handlePodDelete`. -/
def handlePodDelete (d : DeltaState) (pod : Kube.Pod) : DeltaState :=
  { d with images := d.podDeletedImages pod }.releasePod pod.nodeName pod.uid

/-- `handleNodeDelete`: the node goes, and leaves every image; images left
unused are purged. -/
def handleNodeDelete (d : DeltaState) (node : Kube.Node) : DeltaState :=
  { d with
    nodes := d.nodes.erase node.name
    nodes_named := named_erase d.nodes_named node.name
    images := d.images.filterMap fun _ img =>
      let img := { img with nodes := img.nodes.erase node.name }
      if img.isUnused then none else some img }

/-- `deltaState.upsert`. -/
def upsert (d : DeltaState) : Kube.Object → DeltaState
  | .pod v => d.handlePodUpdate v
  | .node v => d.updateNodeUsage v
  | .job v => { d with jobs := d.jobs.insert v.key v }
  | .replicaSet v => { d with rs := d.rs.insert v.key v }
  | .other => d

/-- `deltaState.delete`. -/
def delete (d : DeltaState) : Kube.Object → DeltaState
  | .pod v => d.handlePodDelete v
  | .node v => d.handleNodeDelete v
  | .job v => { d with jobs := d.jobs.erase v.key }
  | .replicaSet v => { d with rs := d.rs.erase v.key }
  | .other => d

/-- `updateImagesFromRemote`: the images are replaced by the remote ones. -/
def updateImagesFromRemote (d : DeltaState) (images : List ScannedImage) : DeltaState :=
  { d with images := buildImageMap images }

/-- `getImages`. -/
def getImages (d : DeltaState) : List Image := d.images.values

/-- `nodeCount`. -/
def nodeCount (d : DeltaState) : Nat := d.nodes.size

/-- `isHostFsDisabled`. -/
def isHostFsDisabled (d : DeltaState) : Bool := d.hostFSDisabled

/-- `updateImage`: applies `change` to the image filed under `i`'s key. -/
def updateImage (d : DeltaState) (i : Image) (change : Image → Image) : DeltaState :=
  match d.images.get? i.cacheKey with
  | some img => d.putImage i.cacheKey (change img)
  | none => d

/-- The registry answers `setImageScanError` reads as a missing image layer. -/
def isLayerNotFoundText (text : String) : Bool :=
  contains text "no such file or directory" || contains text "failed to get the layer"

/-- The registry answers `setImageScanError` reads as a private image. -/
def isPrivateImageText (text : String) : Bool :=
  contains text "UNAUTHORIZED" || contains text "MANIFEST_UNKNOWN" || contains text "DENIED"

/-- `setImageScanError` at wall-clock time `now`: one more failure, the error
recorded (as `errImageScanLayerNotFound` or `errPrivateImage` when its text
says so, a missing layer also disabling hostfs), and the next scan put off by
the next backoff step. -/
def setImageScanError (d : DeltaState) (i : Image) (err : GoError) (now : Time) : DeltaState :=
  match d.images.get? i.cacheKey with
  | none => d
  | some img =>
    let layerNotFound := isLayerNotFoundText err.error
    let lastScanErr := if layerNotFound then GoError.imageLayerNotFound
      else if isPrivateImageText err.error then GoError.privateImage else err
    let (delay, retryBackoff) := img.retryBackoff.step
    { d with
      hostFSDisabled := d.hostFSDisabled || layerNotFound
      images := d.images.insert i.cacheKey
        { img with failures := img.failures + 1, lastScanErr, retryBackoff, nextScan := now + delay } }

/-- `setImageScanned`, which src/ does not hold. Modelled from the spec: an
image the remote side reports scanned is marked scanned. -/
def setImageScanned (d : DeltaState) (s : ScannedImage) : DeltaState :=
  match d.images.get? s.cacheKey with
  | some img => d.putImage s.cacheKey { img with scanned := true }
  | none => d

/-- What drives a delta state: an object of the event queue upserted or
deleted, an image list from the `remoteImagesUpdate` channel, or the passing
of time, which moves the clock the handlers read. -/
inductive Change
  | upsert (o : Object)
  | delete (o : Object)
  | remote (images : List ScannedImage)
  | clock (now : Time)

/-- Applying one change. -/
def apply (d : DeltaState) : Change → DeltaState
  | .upsert o => d.upsert o
  | .delete o => d.delete o
  | .remote images => d.updateImagesFromRemote images
  | .clock now => { d with clock := now }

/-- Applying changes in order. -/
def applyAll (d : DeltaState) (changes : List Change) : DeltaState := changes.foldl apply d

/-- The states `NewDeltaState` reaches, whatever its seed. -/
def Reachable (d : DeltaState) : Prop := ∃ seed changes, d = (newDeltaState seed).applyAll changes

private theorem foldl_insert_get? {images : List ScannedImage} {start : GoMap String Image}
    {key : String} {img : Image}
    (found : (images.foldl (fun m s => m.insert s.cacheKey (scannedImageEntry s)) start).get? key =
      some img) :
    start.get? key = some img ∨ ∃ s ∈ images, key = s.cacheKey ∧ img = scannedImageEntry s := by
  induction images generalizing start with
  | nil => exact .inl found
  | cons s images ih =>
    rcases ih found with found | ⟨s', mem, rfl, rfl⟩
    · rw [GoMap.get?_insert] at found
      split at found
      · cases found; exact .inr ⟨s, List.mem_cons_self _ _, by assumption, rfl⟩
      · exact .inl found
    · exact .inr ⟨s', List.mem_cons_of_mem _ mem, rfl, rfl⟩

/-- Every image of `buildImageMap` is the entry of a remote image, filed under
its cache key. -/
theorem buildImageMap_get? {images : List ScannedImage} {key : String} {img : Image}
    (found : (buildImageMap images).get? key = some img) :
    ∃ s ∈ images, key = s.cacheKey ∧ img = scannedImageEntry s :=
  (foldl_insert_get? found).resolve_left (by simp)

/-- A property every change of a sequence keeps holds after the sequence. -/
theorem applyAll_invariant (P : DeltaState → Prop) {changes : List Change}
    (preserved : ∀ d, ∀ c ∈ changes, P d → P (d.apply c)) {d : DeltaState} (initial : P d) :
    P (d.applyAll changes) := by
  induction changes generalizing d with
  | nil => exact initial
  | cons c changes ih =>
    exact ih (fun d c mem => preserved d c (List.mem_cons_of_mem _ mem))
      (preserved d c (List.mem_cons_self _ _) initial)

@[simp] theorem applyAll_append (d : DeltaState) (changes changes' : List Change) :
    d.applyAll (changes ++ changes') = (d.applyAll changes).applyAll changes' := by
  simp [applyAll, List.foldl_append]

/-! ## What each operation leaves alone -/

variable {d : DeltaState}

@[simp] theorem putImage_images {key : String} {img : Image} :
    (d.putImage key img).images = d.images.insert key img := rfl

@[simp] theorem putImage_nodes {key : String} {img : Image} : (d.putImage key img).nodes = d.nodes := rfl

@[simp] theorem putImage_rs {key : String} {img : Image} : (d.putImage key img).rs = d.rs := rfl

@[simp] theorem putImage_jobs {key : String} {img : Image} : (d.putImage key img).jobs = d.jobs := rfl

@[simp] theorem putNode_nodes {name : String} {n : Node} {same : n.name = name} :
    (d.putNode name n same).nodes = d.nodes.insert name n := rfl

@[simp] theorem putNode_images {name : String} {n : Node} {same : n.name = name} :
    (d.putNode name n same).images = d.images := rfl

@[simp] theorem putNode_rs {name : String} {n : Node} {same : n.name = name} :
    (d.putNode name n same).rs = d.rs := rfl

@[simp] theorem putNode_jobs {name : String} {n : Node} {same : n.name = name} :
    (d.putNode name n same).jobs = d.jobs := rfl

/-- What one container of `upsertImages` can do: nothing, or write one image. -/
theorem upsertContainer_eq (pod : Kube.Pod) (ownerResourceID : String)
    (statuses : List ContainerStatus) (cont : Container) :
    d.upsertContainer pod ownerResourceID statuses cont = d ∨
      ∃ cs, statuses.find? (·.name = cont.name) = some cs ∧ cs.imageID ≠ "" ∧ cont.image ≠ "" ∧
        d.upsertContainer pod ownerResourceID statuses cont =
          d.putImage (cs.imageID ++ d.archOf pod.nodeName) (d.upsertedImage pod ownerResourceID cs cont) := by
  unfold upsertContainer
  split
  · exact .inl rfl
  · rename_i cs found
    split
    · exact .inl rfl
    · split
      · exact .inl rfl
      · exact .inr ⟨cs, found, by assumption, by assumption, rfl⟩

theorem upsertContainer_frame (pod : Kube.Pod) (ownerResourceID : String)
    (statuses : List ContainerStatus) (cont : Container) :
    (d.upsertContainer pod ownerResourceID statuses cont).nodes = d.nodes ∧
      (d.upsertContainer pod ownerResourceID statuses cont).rs = d.rs ∧
      (d.upsertContainer pod ownerResourceID statuses cont).jobs = d.jobs := by
  rcases upsertContainer_eq (d := d) pod ownerResourceID statuses cont with same | ⟨_, _, _, _, same⟩ <;>
    rw [same] <;> exact ⟨rfl, rfl, rfl⟩

/-- `upsertImages` touches images only. -/
theorem upsertImages_frame (pod : Kube.Pod) :
    (d.upsertImages pod).nodes = d.nodes ∧ (d.upsertImages pod).rs = d.rs ∧
      (d.upsertImages pod).jobs = d.jobs := by
  unfold upsertImages
  split
  · exact ⟨rfl, rfl, rfl⟩
  · generalize pod.containers ++ pod.initContainers = containers
    induction containers generalizing d with
    | nil => exact ⟨rfl, rfl, rfl⟩
    | cons cont containers ih =>
      obtain ⟨nodes, rs, jobs⟩ := upsertContainer_frame (d := d) pod
        (getPodOwnerID pod d.rs d.jobs) (pod.containerStatuses ++ pod.initContainerStatuses) cont
      obtain ⟨nodes', rs', jobs'⟩ := ih (d := d.upsertContainer pod (getPodOwnerID pod d.rs d.jobs)
        (pod.containerStatuses ++ pod.initContainerStatuses) cont)
      exact ⟨nodes'.trans nodes, rs'.trans rs, jobs'.trans jobs⟩

theorem releasePod_frame {nodeName uid : String} :
    (d.releasePod nodeName uid).images = d.images ∧ (d.releasePod nodeName uid).rs = d.rs ∧
      (d.releasePod nodeName uid).jobs = d.jobs := by
  unfold releasePod; split <;> exact ⟨rfl, rfl, rfl⟩

theorem mem_nodes_releasePod {nodeName uid n : String} :
    n ∈ (d.releasePod nodeName uid).nodes.keys ↔ n ∈ d.nodes.keys := by
  unfold releasePod
  split
  · rename_i entry found
    exact GoMap.mem_keys_insert_of_mem (GoMap.mem_keys.2 ⟨entry, found⟩)
  · rfl

@[simp] theorem handlePodDelete_images (pod : Kube.Pod) :
    (d.handlePodDelete pod).images = d.podDeletedImages pod :=
  releasePod_frame.1

/-- `updateNodesUsageFromPod` touches nodes only. -/
theorem updateNodesUsageFromPod_frame (v : Kube.Pod) :
    (d.updateNodesUsageFromPod v).images = d.images ∧ (d.updateNodesUsageFromPod v).rs = d.rs ∧
      (d.updateNodesUsageFromPod v).jobs = d.jobs := by
  unfold updateNodesUsageFromPod
  split
  · exact ⟨rfl, rfl, rfl⟩
  · exact ⟨rfl, rfl, rfl⟩
  · exact releasePod_frame

@[simp] theorem updateNodeUsage_images (v : Kube.Node) : (d.updateNodeUsage v).images = d.images := by
  unfold updateNodeUsage; split <;> rfl

@[simp] theorem updateNodeUsage_rs (v : Kube.Node) : (d.updateNodeUsage v).rs = d.rs := by
  unfold updateNodeUsage; split <;> rfl

@[simp] theorem updateNodeUsage_jobs (v : Kube.Node) : (d.updateNodeUsage v).jobs = d.jobs := by
  unfold updateNodeUsage; split <;> rfl

end DeltaState

end ImageScan
