import ImageScan.ScanOutcomes
import ImageScan.StatusReporting

/-! The writes of the delta state, one operation per write the controller
performs: an event of the delta queue, a remote image list or the passing of
time, the stamps of the remote sync and of the status report,
`setImageScanned`, and the two
writes of a scan unit, `setImageScanError` and `updateImage`. Every step of
the controller is a sequence of them, and a pass writes, after its sync and
its report, exactly the writes of its units' outcomes, in batch order. -/
namespace ImageScan

open Kube DeltaState

/-- One write of the delta state. -/
inductive DeltaOp
  /-- An event of the delta queue, a remote image list, or the passing of time. -/
  | change (c : Change)
  /-- The loop of `syncFromRemoteState` over the images it asked about. -/
  | stampRemoteSync (now : Time)
  /-- `setImageScanned`, for an image the remote side reports scanned. -/
  | setImageScanned (s : ScannedImage)
  /-- The loop of `updateImageStatuses` over the images it reported. -/
  | stampReported (reports : Image → Bool) (now : Time)
  /-- `setImageScanError`, for a failed scan unit. -/
  | setImageScanError (i : Image) (err : GoError) (now : Time)
  /-- `updateImage` marking an image scanned, for a successful scan unit. -/
  | setScanned (i : Image)

/-- A write that replaces the whole image map, re-creating every entry. -/
def DeltaOp.recreates : DeltaOp → Bool
  | .change (.remote _) => true
  | _ => false

/-- A call of `setImageScanError` that lands on the entry under `key`. -/
def DeltaOp.isErrorOn (key : String) : DeltaOp → Bool
  | .setImageScanError i _ _ => i.cacheKey = key
  | _ => false

/-- A write that only restamps the entries it keeps: every write but a pod
upsert, a remote image list and `setImageScanError`. -/
def DeltaOp.restamps : DeltaOp → Bool
  | .change (.upsert (.pod _)) | .change (.remote _) | .setImageScanError _ _ _ => false
  | _ => true

/-- What a restamping write keeps of an entry: its identity, name, last scan
error, failure count and backoff, its scan mark once set, and the time of its
last remote sync, which it only moves forward. -/
structure Image.Restamp (img img' : Image) : Prop where
  id : img'.id = img.id
  architecture : img'.architecture = img.architecture
  name : img'.name = img.name
  lastScanErr : img'.lastScanErr = img.lastScanErr
  failures : img'.failures = img.failures
  retryBackoff : img'.retryBackoff = img.retryBackoff
  scanned : img.scanned = true → img'.scanned = true
  lastRemoteSyncAt : img.lastRemoteSyncAt ≤ img'.lastRemoteSyncAt

namespace DeltaState

/-- Performing one write. -/
def applyOp (d : DeltaState) : DeltaOp → DeltaState
  | .change c => d.apply c
  | .stampRemoteSync now =>
    let stamp (img : Image) : Image :=
      if Controller.notSynced now img then { img with lastRemoteSyncAt := now } else img
    { d with images := d.images.filterMap fun _ img => some (stamp img) }
  | .setImageScanned s => d.setImageScanned s
  | .stampReported reports now =>
    let stamp (img : Image) : Image :=
      if reports img then { img with resourcesUpdatedAt := now } else img
    { d with images := d.images.filterMap fun _ img => some (stamp img) }
  | .setImageScanError i err now => d.setImageScanError i err now
  | .setScanned i => d.updateImage i fun img => { img with scanned := true }

/-- Performing writes in order. -/
def applyOps (d : DeltaState) (ops : List DeltaOp) : DeltaState := ops.foldl applyOp d

end DeltaState

namespace DeltaOps

open DeltaState Controller ScanOutcomes StatusReporting

variable {w : Wiring} {c c' : Controller}

theorem applyOps_append (d : DeltaState) (ops more : List DeltaOp) :
    d.applyOps (ops ++ more) = (d.applyOps ops).applyOps more :=
  List.foldl_append ..

/-- Every write restamps, or is a pod upsert, a remote image list or a failure
of a scan unit. -/
theorem restamps_cases (op : DeltaOp) :
    op.restamps = true ∨ (∃ pod, op = .change (.upsert (.pod pod))) ∨
      (∃ images, op = .change (.remote images)) ∨ ∃ i err now, op = .setImageScanError i err now := by
  cases op with
  | change c =>
    cases c with
    | upsert o =>
      cases o with
      | pod pod => exact .inr (.inl ⟨pod, rfl⟩)
      | _ => exact .inl rfl
    | delete o => exact .inl rfl
    | remote images => exact .inr (.inr (.inl ⟨images, rfl⟩))
    | clock now => exact .inl rfl
  | setImageScanError i err now => exact .inr (.inr (.inr ⟨i, err, now, rfl⟩))
  | _ => exact .inl rfl

theorem restamp_refl (img : Image) : img.Restamp img := ⟨rfl, rfl, rfl, rfl, rfl, rfl, id, Int.le_refl _⟩

theorem applyOp_pod_images {d : DeltaState} (pod : Kube.Pod) :
    (d.applyOp (.change (.upsert (.pod pod)))).images = (d.upsertImages pod).images :=
  (updateNodesUsageFromPod_frame pod).1

theorem restamp_filterMap {m : GoMap String Image} (f : String → Image → Option Image)
    (kept : ∀ k img img', f k img = some img' → img.Restamp img') {key : String} {img' : Image}
    (found' : (m.filterMap f).get? key = some img') : ∃ img, m.get? key = some img ∧ img.Restamp img' := by
  rw [GoMap.get?_filterMap, Option.bind_eq_some] at found'
  obtain ⟨img, found, made⟩ := found'
  exact ⟨img, found, kept key img img' made⟩

theorem restamp_insert_scanned {m : GoMap String Image} {k key : String} {img img' : Image}
    (filed : m.get? k = some img) (found' : (m.insert k { img with scanned := true }).get? key = some img') :
    ∃ img, m.get? key = some img ∧ img.Restamp img' := by
  rw [GoMap.get?_insert] at found'
  split at found'
  · rename_i same
    subst same
    cases found'
    exact ⟨img, filed, rfl, rfl, rfl, rfl, rfl, rfl, fun _ => rfl, Int.le_refl _⟩
  · exact ⟨img', found', restamp_refl img'⟩

/-- An image a remote sync asks about was last asked about over ten minutes
before, and so before the sync. -/
theorem lastRemoteSyncAt_le_of_notSynced {now : Time} {img : Image} (asked : notSynced now img = true) :
    img.lastRemoteSyncAt ≤ now := by
  simp only [notSynced, Bool.and_eq_true, decide_eq_true_eq] at asked
  exact Int.le_of_lt (Int.lt_of_lt_of_le asked.2 (Int.sub_le_self now (by decide)))

/-- Every entry a restamping write leaves was filed under its key before, and
is that entry restamped. -/
theorem restamp_applyOp {d : DeltaState} {op : DeltaOp} (restamps : op.restamps = true) {key : String}
    {img' : Image} (found' : (d.applyOp op).images.get? key = some img') :
    ∃ img, d.images.get? key = some img ∧ img.Restamp img' := by
  have unchanged (same : (d.applyOp op).images = d.images) : ∃ img, d.images.get? key = some img ∧
      img.Restamp img' := ⟨img', same ▸ found', restamp_refl img'⟩
  cases op with
  | change c =>
    cases c with
    | upsert o =>
      cases o with
      | pod v => cases restamps
      | node v => exact unchanged (updateNodeUsage_images v)
      | job v | replicaSet v | other => exact unchanged rfl
    | delete o =>
      cases o with
      | pod v =>
        rw [applyOp, apply, delete, handlePodDelete_images, podDeletedImages] at found'
        refine restamp_filterMap _ (fun k img img' kept => ?_) found'
        dsimp only at kept
        split at kept
        · cases kept
        · cases kept
          unfold Image.removeNodePod Image.removeOwnerPod
          repeat' split
          all_goals exact ⟨rfl, rfl, rfl, rfl, rfl, rfl, id, Int.le_refl _⟩
      | node v =>
        refine restamp_filterMap _ (fun k img img' kept => ?_) found'
        dsimp only at kept
        split at kept
        · cases kept
        · cases kept
          exact ⟨rfl, rfl, rfl, rfl, rfl, rfl, id, Int.le_refl _⟩
      | job v | replicaSet v | other => exact unchanged rfl
    | remote images => cases restamps
    | clock now => exact unchanged rfl
  | stampRemoteSync now =>
    refine restamp_filterMap _ (fun k img img' kept => ?_) found'
    cases kept
    dsimp only
    split
    · rename_i asked
      exact ⟨rfl, rfl, rfl, rfl, rfl, rfl, id, lastRemoteSyncAt_le_of_notSynced asked⟩
    · exact restamp_refl img
  | stampReported reports now =>
    refine restamp_filterMap _ (fun k img img' kept => ?_) found'
    cases kept
    dsimp only
    split <;> exact ⟨rfl, rfl, rfl, rfl, rfl, rfl, id, Int.le_refl _⟩
  | setImageScanned s =>
    change (d.setImageScanned s).images.get? key = some img' at found'
    unfold setImageScanned at found'
    split at found'
    · rename_i img filed
      exact restamp_insert_scanned filed found'
    · exact ⟨img', found', restamp_refl img'⟩
  | setImageScanError i err now => cases restamps
  | setScanned i =>
    change (d.updateImage i fun img => { img with scanned := true }).images.get? key = some img' at found'
    unfold updateImage at found'
    split at found'
    · rename_i img filed
      exact restamp_insert_scanned filed found'
    · exact ⟨img', found', restamp_refl img'⟩

/-! ## Controller steps as writes -/

end DeltaOps

end ImageScan
