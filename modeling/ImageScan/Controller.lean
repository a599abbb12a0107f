import ImageScan.NodeFit

/-! The image-scan `Controller` of the `imagescan` package: its scheduling
pass (`scheduleScans`), which reconciles with the remote side, reports image
statuses, selects the pending images and dispatches a bounded batch of scans,
and the actions a run of the controller is made of. The remote API, the scan
backend and the cluster answer through the environment of each action; a Go
panic is `none`. -/
namespace ImageScan

open Kube

/-- `imgcollectorconfig.ModeHostFS`: scanning the layers on a node's disk. -/
def modeHostFS : String := "hostfs"

/-- `imgcollectorconfig.ModeRemote`: scanning an image pulled anew. -/
def modeRemote : String := "remote"

/-- `config.ImageScan`, by the fields the scheduler reads. `MemoryRequest`
and `CPURequest` are the quantities `resource.MustParse` makes of them. -/
structure Config where
  mode : String
  memoryRequest : Dec
  cpuRequest : Dec
  maxConcurrentScans : Int

/-- What the controller takes from code that is not under src/: its
configuration, the library sort, `parseErrorFromLog`, and which nodes CAST AI
manages (what `filterCastAIManagedNodes` tests). -/
structure Wiring where
  config : Config
  sortSlice : SortSlice
  parseErrorFromLog : GoError → GoError
  castAIManaged : String → Bool

/-- `Controller`, by its mutable state. -/
structure Controller where
  /-- The delta state the main loop drains the queues into. -/
  delta : DeltaState
  /-- Whether a report of the complete image list has been accepted. -/
  fullSnapshotSent : Bool

/-- `kube.KvisorImageDetails`. -/
structure KvisorImageDetails where
  imageName : String
  imagePullSecrets : List String
  deriving DecidableEq, Repr

/-- `ScanImageParams`, without `Os`: the image record under src/ has no OS. -/
structure ScanImageParams where
  imageName : String
  imageID : String
  containerRuntime : String
  mode : String
  resourceIDs : List String
  nodeName : String
  deleteFinishedJob : Bool
  waitForCompletion : Bool
  waitDurationAfterCompletion : Duration
  architecture : String
  collectorImageDetails : KvisorImageDetails
  deriving DecidableEq, Repr

/-- `castai.ImageScanStatus`. -/
inductive ImageScanStatus
  | unset
  | pending
  | error
  deriving DecidableEq, Repr

/-- `castai.Image`, one entry of a status report. -/
structure ImageStatus where
  id : String
  architecture : String
  resourceIDs : List String
  imageName : String
  status : ImageScanStatus
  errorMsg : String
  deriving DecidableEq, Repr

/-- `castai.UpdateImagesStatusRequest`. -/
structure UpdateImagesStatusRequest where
  fullSnapshot : Bool
  images : List ImageStatus
  deriving DecidableEq, Repr

/-- `resp.Images` of `castai.SyncStateResponse`. -/
structure SyncImages where
  scannedImages : List ScannedImage
  fullResourcesResyncRequired : Bool
  deriving DecidableEq, Repr

/-- What one scan unit meets outside the process. -/
structure ScanEnv where
  /-- `ctx.Err() != nil` as the unit starts. -/
  cancelled : Bool
  /-- `kubeController.GetKvisorImageDetails()`. -/
  kvisorImageDetails : Option KvisorImageDetails
  /-- `imageScanner.ScanImage`: the scan job's verdict on these parameters. -/
  scanImage : ScanImageParams → Except GoError Unit
  /-- `time.Now()` when a failure is recorded. -/
  now : Time

/-- What one scheduling pass meets outside the process: the clock each time
`timeGetter` is read, the remote API's answers, each unit's environment, and
whether the pass's context is done when the batch is awaited. -/
structure PassEnv where
  syncNow : Time
  getSyncState : List String → Except GoError (Option SyncImages)
  reportNow : Time
  updateImageStatus : UpdateImagesStatusRequest → Bool
  selectNow : Time
  scan : Image → ScanEnv
  cancelled : Bool

/-- `isImagePrivate`. -/
def isImagePrivate (v : Image) : Bool := v.lastScanErr = some .privateImage

/-- `isImagePending`: not scanned, owned, not private, and due. -/
def isImagePending (v : Image) (now : Time) : Bool :=
  !v.scanned && decide (0 < v.owners.size) && !isImagePrivate v && (v.nextScan = 0 || v.nextScan < now)

/-- `filterCastAIManagedNodes`, which src/ does not hold. Modelled from the
spec: the named nodes recognised as managed by CAST AI. -/
def filterCastAIManagedNodes (w : Wiring) (nodeNames : List String) : List String :=
  nodeNames.filter w.castAIManaged

/-- `filterWindowsNodes`: the named nodes whose OS is linux. A name with no
record is a nil dereference, a panic. -/
def filterWindowsNodes (d : DeltaState) : List String → Option (List String)
  | [] => some []
  | name :: names =>
    match d.nodes.get? name with
    | none => none
    | some n => (filterWindowsNodes d names).map fun filtered =>
        if n.os ≠ "linux" then filtered else name :: filtered

/-- The mode `findBestNodeAndMode` starts from: remote after a missing layer,
the configured one otherwise. -/
def scanMode (w : Wiring) (img : Image) : String :=
  if img.lastScanErr = some .imageLayerNotFound then modeRemote else w.config.mode

/-- The first half of `findBestNodeAndMode`: the mode, and the node names to
place on. In hostfs the image's nodes, falling back to remote when CAST AI
manages none of them. -/
def candidateNodes (w : Wiring) (d : DeltaState) (img : Image) : Except GoError (String × List String) :=
  if scanMode w img = modeHostFS then
    if img.nodes.keys = [] then .error (.message "image with empty nodes")
    else if filterCastAIManagedNodes w img.nodes.keys = [] then .ok (modeRemote, d.nodes.keys)
    else .ok (modeHostFS, filterCastAIManagedNodes w img.nodes.keys)
  else .ok (scanMode w img, d.nodes.keys)

/-- The three ways `candidateNodes` can succeed. -/
theorem candidateNodes_eq {w : Wiring} {d : DeltaState} {img : Image} {mode : String}
    {names : List String} (placed : candidateNodes w d img = .ok (mode, names)) :
    (scanMode w img ≠ modeHostFS ∧ mode = scanMode w img ∧ names = d.nodes.keys) ∨
    (scanMode w img = modeHostFS ∧ img.nodes.keys ≠ [] ∧
      filterCastAIManagedNodes w img.nodes.keys = [] ∧ mode = modeRemote ∧ names = d.nodes.keys) ∨
    (scanMode w img = modeHostFS ∧ img.nodes.keys ≠ [] ∧
      filterCastAIManagedNodes w img.nodes.keys ≠ [] ∧ mode = modeHostFS ∧
      names = filterCastAIManagedNodes w img.nodes.keys) := by
  unfold candidateNodes at placed
  by_cases hostfs : scanMode w img = modeHostFS
  · rw [if_pos hostfs] at placed
    by_cases empty : img.nodes.keys = []
    · rw [if_pos empty] at placed; cases placed
    · rw [if_neg empty] at placed
      by_cases unmanaged : filterCastAIManagedNodes w img.nodes.keys = []
      · rw [if_pos unmanaged] at placed; cases placed
        exact .inr (.inl ⟨hostfs, empty, unmanaged, rfl, rfl⟩)
      · rw [if_neg unmanaged] at placed; cases placed
        exact .inr (.inr ⟨hostfs, empty, unmanaged, rfl, rfl⟩)
  · rw [if_neg hostfs] at placed; cases placed
    exact .inl ⟨hostfs, rfl, rfl⟩

/-- The second half of `findBestNodeAndMode`: the best node among the linux
ones, and in hostfs, when none fits, one more try among all nodes, remote. -/
def resolveNode (w : Wiring) (d : DeltaState) (mode : String) (nodeNames : List String) :
    Except GoError (String × String) :=
  match d.findBestNode w.sortSlice nodeNames w.config.memoryRequest w.config.cpuRequest with
  | .ok node => .ok (node, mode)
  | .error err =>
    if err = .noCandidates ∧ mode = modeHostFS then
      match d.findBestNode w.sortSlice d.nodes.keys w.config.memoryRequest w.config.cpuRequest with
      | .ok node => .ok (node, modeRemote)
      | .error err => .error err
    else .error err

/-- `findBestNodeAndMode`. -/
def findBestNodeAndMode (w : Wiring) (d : DeltaState) (img : Image) :
    Option (Except GoError (String × String)) :=
  match candidateNodes w d img with
  | .error err => some (.error err)
  | .ok (mode, nodeNames) => (filterWindowsNodes d nodeNames).map (resolveNode w d mode)

/-- The `ScanImageParams` that `scanImage` passes `imageScanner.ScanImage`. -/
def scanImageParams (img : Image) (node mode : String) (details : KvisorImageDetails) :
    ScanImageParams :=
  { imageName := img.name, imageID := img.id, containerRuntime := img.containerRuntime,
    mode, resourceIDs := img.owners.keys, nodeName := node, deleteFinishedJob := true,
    waitForCompletion := true, waitDurationAfterCompletion := 30 * second,
    architecture := img.architecture, collectorImageDetails := details }

/-- `scanImage`: place the image, find the kvisor image, and run the scan. -/
def scanImage (w : Wiring) (d : DeltaState) (env : ScanEnv) (img : Image) :
    Option (Except GoError Unit) :=
  (findBestNodeAndMode w d img).map fun
    | .error err => .error err
    | .ok (node, mode) =>
      match env.kvisorImageDetails with
      | none => .error (.message "kvisor image details not found")
      | some details => env.scanImage (scanImageParams img node mode details)

/-- `updateImageStatusAsFailed`: the single-image report of a failed scan. -/
def updateImageStatusAsFailed (img : Image) (scanJobError : GoError) : UpdateImagesStatusRequest :=
  let updatedImage : ImageStatus :=
    { id := img.id, architecture := img.architecture, resourceIDs := [], imageName := img.name,
      status := .error, errorMsg := scanJobError.error }
  { fullSnapshot := false, images := [updatedImage] }

/-- What one scan unit of `scanImages` did. -/
inductive UnitOutcome
  /-- The pass was cancelled before the unit started. -/
  | skipped
  /-- `scanImage` failed; its parsed error was recorded and reported. -/
  | failed (err : GoError)
  /-- The image was scanned. -/
  | scanned
  deriving DecidableEq, Repr

/-- The goroutine `scanImages` starts for one image. -/
def scanUnit (w : Wiring) (env : ScanEnv) (d : DeltaState) (img : Image) :
    Option (UnitOutcome × DeltaState) :=
  if env.cancelled then some (.skipped, d)
  else
    (scanImage w d env img).map fun
      | .error err =>
        (.failed (w.parseErrorFromLog err), d.setImageScanError img (w.parseErrorFromLog err) env.now)
      | .ok () => (.scanned, d.updateImage img fun i => { i with scanned := true })

/-- `scanImages`: a unit per image in batch order, until an image without a
name ends the dispatch with an error; units already started run to their end.
The result is the delta state, each dispatched image with its outcome, and the
error returned. -/
def scanImages (w : Wiring) (envs : Image → ScanEnv) (cancelled : Bool) (d : DeltaState) :
    List Image → Option (DeltaState × List (Image × UnitOutcome) × Option GoError)
  | [] => some (d, [], if cancelled then some (.message "context canceled") else none)
  | img :: images =>
    if img.name = "" then some (d, [], some (.message ("no image name set, image_id=" ++ img.id)))
    else
      match scanUnit w (envs img) d img with
      | none => none
      | some (outcome, d) => (scanImages w envs cancelled d images).map fun (d, outcomes, err) =>
          (d, (img, outcome) :: outcomes, err)

namespace Controller

/-- `findPendingImages`: the pending images, fewest failures first. -/
def findPendingImages (w : Wiring) (c : Controller) (now : Time) : List Image :=
  w.sortSlice.sort (fun a b => decide (a.failures < b.failures))
    (c.delta.getImages.filter fun v => isImagePending v now)

/-- `concurrentScansNumber`: one scan at a time on a single node. -/
def concurrentScansNumber (w : Wiring) (c : Controller) : Int :=
  if c.delta.nodeCount = 1 then 1 else w.config.maxConcurrentScans

/-- The status `updateImageStatuses` reports for an image. -/
def imageStatus (now : Time) (img : Image) : ImageStatus :=
  { id := img.id, architecture := img.architecture, resourceIDs := img.owners.keys,
    imageName := img.name, status := if isImagePending img now then .pending else .unset,
    errorMsg := "" }

/-- Whether `updateImageStatuses` reports an image: every image until a full
snapshot has been sent, then those whose owners changed since their last report. -/
def reportsImage (c : Controller) (img : Image) : Bool :=
  !c.fullSnapshotSent || decide (img.resourcesUpdatedAt < img.ownerChangedAt)

/-- `updateImageStatuses`: the report sent, if any, and on success the
reported images stamped and the full snapshot marked sent. -/
def updateImageStatuses (c : Controller) (now : Time)
    (updateImageStatus : UpdateImagesStatusRequest → Bool) :
    Controller × Option UpdateImagesStatusRequest :=
  let images := c.delta.getImages.filter c.reportsImage
  if images.length = 0 then (c, none)
  else
    let report : UpdateImagesStatusRequest :=
      { fullSnapshot := c.fullSnapshotSent, images := images.map (imageStatus now) }
    if updateImageStatus report then
      let images := c.delta.images.filterMap fun _ img =>
        some (if c.reportsImage img then { img with resourcesUpdatedAt := now } else img)
      ({ delta := { c.delta with images }, fullSnapshotSent := true }, some report)
    else (c, some report)

/-- Whether `syncFromRemoteState` asks the remote side about an image. -/
def notSynced (now : Time) (img : Image) : Bool :=
  !img.scanned && decide (img.lastRemoteSyncAt < now - 10 * minute)

/-- `syncFromRemoteState`: images unscanned and not asked about for ten
minutes are asked about; those the answer names are marked scanned, and an
answer asking for a full resync clears `fullSnapshotSent`. -/
def syncFromRemoteState (c : Controller) (now : Time)
    (getSyncState : List String → Except GoError (Option SyncImages)) : Controller :=
  let images := c.delta.getImages.filter (notSynced now)
  if images.length = 0 then c
  else
    match getSyncState (images.map (·.id)) with
    | .error _ => c
    | .ok none => c
    | .ok (some resp) =>
      let images := c.delta.images.filterMap fun _ img =>
        some (if notSynced now img then { img with lastRemoteSyncAt := now } else img)
      { delta := resp.scannedImages.foldl DeltaState.setImageScanned { c.delta with images }
        fullSnapshotSent := if resp.fullResourcesResyncRequired then false else c.fullSnapshotSent }

/-- The images `scheduleScans` hands `scanImages`: the pending ones cut to the
budget, where a negative budget is a slice-bounds panic. -/
def imagesForScan (pending : List Image) (budget : Int) : Option (List Image) :=
  if budget < pending.length then
    if budget < 0 then none else some (pending.take budget.toNat)
  else some pending

/-- What one pass reports beyond its new state. -/
structure PassOutput where
  report : Option UpdateImagesStatusRequest
  batch : List Image
  outcomes : List (Image × UnitOutcome)
  err : Option GoError

/-- `scheduleScans`. -/
def scheduleScans (w : Wiring) (env : PassEnv) (c : Controller) : Option (Controller × PassOutput) :=
  let c := c.syncFromRemoteState env.syncNow env.getSyncState
  let (c, report) := c.updateImageStatuses env.reportNow env.updateImageStatus
  match imagesForScan (c.findPendingImages w env.selectNow) (c.concurrentScansNumber w) with
  | none => none
  | some [] => some (c, { report, batch := [], outcomes := [], err := none })
  | some batch => (scanImages w env.scan env.cancelled c.delta batch).map fun (delta, outcomes, err) =>
      ({ c with delta }, { report, batch, outcomes, err })

theorem mem_findPendingImages {w : Wiring} {c : Controller} {now : Time} {img : Image} :
    img ∈ c.findPendingImages w now ↔ img ∈ c.delta.getImages ∧ isImagePending img now = true := by
  rw [findPendingImages, SortSlice.mem_sort, List.mem_filter]

/-- The batch is a prefix of the pending images. -/
theorem batch_prefix_of_imagesForScan {pending batch : List Image} {budget : Int}
    (cut : imagesForScan pending budget = some batch) : batch <+: pending := by
  unfold imagesForScan at cut
  split at cut
  · split at cut
    · cases cut
    · cases cut; exact List.take_prefix _ _
  · cases cut; exact List.prefix_refl _

/-- What a pass does, in order: sync, report, select a batch from the
reported state, and scan it. -/
theorem scheduleScans_eq {w : Wiring} {env : PassEnv} {c c' : Controller} {out : PassOutput}
    (pass : scheduleScans w env c = some (c', out)) :
    let reported := ((c.syncFromRemoteState env.syncNow env.getSyncState).updateImageStatuses
      env.reportNow env.updateImageStatus).1
    ∃ delta outcomes err,
      imagesForScan (reported.findPendingImages w env.selectNow) (reported.concurrentScansNumber w) =
        some out.batch ∧
      scanImages w env.scan env.cancelled reported.delta out.batch = some (delta, outcomes, err) ∧
      c' = { reported with delta } ∧
      out.report = ((c.syncFromRemoteState env.syncNow env.getSyncState).updateImageStatuses
        env.reportNow env.updateImageStatus).2 := by
  unfold scheduleScans at pass
  dsimp only at pass
  generalize (c.syncFromRemoteState env.syncNow env.getSyncState).updateImageStatuses
    env.reportNow env.updateImageStatus = r at pass ⊢
  obtain ⟨reported, report⟩ := r
  dsimp only at pass ⊢
  split at pass
  · cases pass
  · rename_i cut
    cases pass
    exact ⟨_, [], _, cut, rfl, rfl, rfl⟩
  · rename_i batch _ cut
    obtain ⟨⟨delta, outcomes, err⟩, scanned, same⟩ := Option.map_eq_some'.1 pass
    cases same
    exact ⟨delta, outcomes, err, cut, scanned, rfl, rfl⟩

/-- `handleDelta`. -/
def handleDelta (c : Controller) (event : Event) (o : Object) : Controller :=
  match event with
  | .add | .update => { c with delta := c.delta.upsert o }
  | .delete => { c with delta := c.delta.delete o }

end Controller

/-- One step of a run of the controller: an event drained from the delta
queue, a remote image list, a tick of the scan ticker, or the passing of time,
which moves the clock the delta state's handlers read. -/
inductive Action
  | delta (event : Event) (o : Object)
  | remoteImages (images : List ScannedImage)
  | pass (env : PassEnv)
  | clock (now : Time)

namespace Controller

/-- `NewController`, with the delta state seeded from the remote side. -/
def new (scannedImages : List ScannedImage) : Controller := ⟨newDeltaState scannedImages, false⟩

/-- One action of the main loop of `Run`. -/
def step (w : Wiring) (c : Controller) : Action → Option Controller
  | .delta event o => some (c.handleDelta event o)
  | .remoteImages images => some { c with delta := c.delta.updateImagesFromRemote images }
  | .pass env => (scheduleScans w env c).map Prod.fst
  | .clock now => some { c with delta := c.delta.apply (.clock now) }

/-- A run: the actions in order, stopped by a panic. -/
def run (w : Wiring) (c : Controller) : List Action → Option Controller
  | [] => some c
  | a :: actions => (c.step w a).bind fun c => run w c actions

/-- A pass step is a scheduling pass that does not panic. -/
theorem step_pass_eq_some {w : Wiring} {c c' : Controller} {env : PassEnv} :
    c.step w (.pass env) = some c' ↔ ∃ out, scheduleScans w env c = some (c', out) := by
  rw [step, Option.map_eq_some']
  exact ⟨fun ⟨⟨_, out⟩, pass, same⟩ => same ▸ ⟨out, pass⟩, fun ⟨out, pass⟩ => ⟨(c', out), pass, rfl⟩⟩

theorem run_append (w : Wiring) (c : Controller) (actions more : List Action) :
    run w c (actions ++ more) = (run w c actions).bind fun c => run w c more := by
  induction actions generalizing c with
  | nil => rfl
  | cons a actions ih => simp only [List.cons_append, run, Option.bind_assoc, ← ih]; rfl

theorem run_snoc (w : Wiring) (c : Controller) (actions : List Action) (a : Action) :
    run w c (actions ++ [a]) = (run w c actions).bind fun c => c.step w a := by
  rw [run_append]
  congr 1
  funext c
  simp [run]

/-- `P` holds at every state a run passes through, the last included. -/
def Throughout (w : Wiring) (P : Controller → Prop) : Controller → List Action → Prop
  | c, [] => P c
  | c, a :: actions => P c ∧ ∀ c', c.step w a = some c' → Throughout w P c' actions

theorem throughout_snoc {w : Wiring} {P : Controller → Prop} {c c₁ c₂ : Controller}
    {actions : List Action} {a : Action} (throughout : Throughout w P c actions)
    (ran : run w c actions = some c₁) (stepped : c₁.step w a = some c₂) (last : P c₂) :
    Throughout w P c (actions ++ [a]) := by
  induction actions generalizing c with
  | nil =>
    cases ran
    exact ⟨throughout, fun c' stepped' => (Option.some.inj (stepped'.symm.trans stepped)) ▸ last⟩
  | cons b actions ih =>
    obtain ⟨first, rest⟩ := throughout
    obtain ⟨c', stepped', ran⟩ := Option.bind_eq_some.1 ran
    refine ⟨first, fun c'' stepped'' => ?_⟩
    cases stepped'.symm.trans stepped''
    exact ih (rest c' stepped') ran

end Controller

end ImageScan
