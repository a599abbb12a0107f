import ImageScan.ScanOutcomes
import ImageScan.StatusReporting
import ImageScan.DeltaLemmas

/-! Private images. `isImagePending` leaves out an image whose last scan error
is `errPrivateImage`, and only `setImageScanError`, for an image whose cache
key is the entry's key, overwrites that error. A record's cache key is the key
it is filed under as long as no image ID is a proper prefix of another, so that
a key `ID ++ architecture` names one pair; then an entry once private is not
dispatched again while it stays in the map. Without that condition two pairs
can share a key, an upsert rewrites the ID of the record filed there, and a
scan error of that record lands on another, private, entry. -/
namespace ImageScan.PrivateImages

open Kube DeltaState DeltaLemmas ScanOutcomes

/-- No string of `S` is a proper prefix of another. -/
def PrefixFree (S : String → Prop) : Prop := ∀ a b, S a → S b → a.data <+: b.data → a = b

/-- Every record is filed under its cache key, and its image ID is in `S`. -/
def KeysSound (S : String → Prop) (d : DeltaState) : Prop :=
  ∀ key img, d.images.get? key = some img → img.cacheKey = key ∧ S img.id

/-- The entry under `key`, if any, is private or scanned, so not pending. -/
def Settled (key : String) (d : DeltaState) : Prop :=
  ∀ img, d.images.get? key = some img → img.lastScanErr = some .privateImage ∨ img.scanned = true

/-- Every record of `d'` is filed under the key of a record of `d` with the
same image ID and architecture. -/
def KeepsKeys (d d' : DeltaState) : Prop :=
  ∀ key img', d'.images.get? key = some img' →
    ∃ img, d.images.get? key = some img ∧ img'.id = img.id ∧ img'.architecture = img.architecture

/-- A record carried over: ID, architecture and last scan error kept, and still
scanned if it was. -/
def CarriedOver (img img' : Image) : Prop :=
  img'.id = img.id ∧ img'.architecture = img.architecture ∧ img'.lastScanErr = img.lastScanErr ∧
    (img.scanned = true → img'.scanned = true)

/-- Every record of `d'` is a record of `d` under the same key, carried over. -/
def Carries (d d' : DeltaState) : Prop :=
  ∀ key img', d'.images.get? key = some img' → ∃ img, d.images.get? key = some img ∧ CarriedOver img img'

variable {S : String → Prop} {d d' d'' : DeltaState} {key : String}

/-! ## Keys -/

theorem append_eq_of_prefixFree (free : PrefixFree S) {a b x y : String} (sa : S a) (sb : S b)
    (same : a ++ x = b ++ y) : a = b ∧ x = y := by
  have data : a.data ++ x.data = b.data ++ y.data := congrArg String.data same
  have ab : a = b := by
    rcases List.append_eq_append_iff.1 data with ⟨rest, hb, -⟩ | ⟨rest, ha, -⟩
    · exact free a b sa sb ⟨rest, hb.symm⟩
    · exact (free b a sb sa ⟨rest, ha.symm⟩).symm
  subst ab
  exact ⟨rfl, String.ext (List.append_cancel_left data)⟩

theorem keysSound_of_keepsKeys (keeps : KeepsKeys d d') (sound : KeysSound S d) : KeysSound S d' := by
  intro key img' found'
  obtain ⟨img, found, id, arch⟩ := keeps key img' found'
  rw [Image.cacheKey, id, arch]
  exact ⟨(sound key img found).1, id ▸ (sound key img found).2⟩

theorem keepsKeys_of_carries (carries : Carries d d') : KeepsKeys d d' := fun key img' found' =>
  let ⟨img, found, id, arch, _⟩ := carries key img' found'
  ⟨img, found, id, arch⟩

theorem settled_of_carries (carries : Carries d d') (settled : Settled key d) : Settled key d' := by
  intro img' found'
  obtain ⟨img, found, -, -, err, scanned⟩ := carries key img' found'
  rw [err]
  exact (settled img found).imp id scanned

theorem carries_trans (first : Carries d d') (second : Carries d' d'') : Carries d d'' := by
  intro key img'' found''
  obtain ⟨img', found', id', arch', err', scanned'⟩ := second key img'' found''
  obtain ⟨img, found, id, arch, err, scanned⟩ := first key img' found'
  exact ⟨img, found, id'.trans id, arch'.trans arch, err'.trans err, scanned' ∘ scanned⟩

theorem carries_of_images_eq (same : d'.images = d.images) : Carries d d' :=
  fun _ img found => ⟨img, same ▸ found, rfl, rfl, rfl, id⟩

theorem carries_filterMap (f : String → Image → Option Image)
    (carried : ∀ key img img', f key img = some img' → CarriedOver img img') :
    Carries d { d with images := d.images.filterMap f } := by
  intro key img' found'
  rw [GoMap.get?_filterMap, Option.bind_eq_some] at found'
  obtain ⟨img, found, kept⟩ := found'
  exact ⟨img, found, carried key img img' kept⟩

theorem carries_putImage {img img' : Image} (found : d.images.get? key = some img)
    (carried : CarriedOver img img') : Carries d (d.putImage key img') := by
  intro key' img'' found''
  rw [putImage_images, GoMap.get?_insert] at found''
  split at found''
  · rename_i same
    subst same
    cases found''
    exact ⟨img, found, carried⟩
  · exact ⟨img'', found'', rfl, rfl, rfl, id⟩

/-! ## The delta state -/

theorem carriedOver_podDeleted (img : Image) (nodeName owner uid : String) (now : Time) :
    CarriedOver img ((img.removeNodePod nodeName uid).removeOwnerPod owner uid now) := by
  unfold Image.removeNodePod Image.removeOwnerPod
  repeat' split
  all_goals exact ⟨rfl, rfl, rfl, id⟩

theorem carries_handlePodDelete (pod : Kube.Pod) : Carries d (d.handlePodDelete pod) := by
  intro key img' found'
  rw [handlePodDelete_images, get?_podDeletedImages, Option.bind_eq_some] at found'
  obtain ⟨img, found, kept⟩ := found'
  dsimp only at kept
  split at kept
  · cases kept
  · cases kept
    exact ⟨img, found, carriedOver_podDeleted img _ _ _ _⟩

theorem carries_handleNodeDelete (v : Kube.Node) : Carries d (d.handleNodeDelete v) := by
  intro key img' found'
  rw [get?_handleNodeDelete, Option.bind_eq_some] at found'
  obtain ⟨img, found, kept⟩ := found'
  dsimp only at kept
  split at kept
  · cases kept
  · cases kept
    exact ⟨img, found, rfl, rfl, rfl, id⟩

theorem carries_updateImage (i : Image) :
    Carries d (d.updateImage i fun img => { img with scanned := true }) := by
  unfold updateImage
  split
  · rename_i img found
    exact carries_putImage found ⟨rfl, rfl, rfl, fun _ => rfl⟩
  · exact carries_of_images_eq rfl

theorem carries_setImageScanned (s : ScannedImage) : Carries d (d.setImageScanned s) := by
  unfold setImageScanned
  split
  · rename_i img found
    exact carries_putImage found ⟨rfl, rfl, rfl, fun _ => rfl⟩
  · exact carries_of_images_eq rfl

theorem get?_setImageScanError_of_ne {i : Image} {err : GoError} {now : Time}
    (other : key ≠ i.cacheKey) :
    (d.setImageScanError i err now).images.get? key = d.images.get? key := by
  unfold setImageScanError
  split
  · rfl
  · simp [other]

theorem keepsKeys_setImageScanError (i : Image) (err : GoError) (now : Time) :
    KeepsKeys d (d.setImageScanError i err now) := by
  intro key img' found'
  by_cases here : key = i.cacheKey
  · subst here
    unfold setImageScanError at found'
    split at found'
    · exact ⟨img', found', rfl, rfl⟩
    · rename_i img found
      simp only [GoMap.get?_insert, if_true, Option.some.injEq] at found'
      subst found'
      exact ⟨img, found, rfl, rfl⟩
  · exact ⟨img', (get?_setImageScanError_of_ne here) ▸ found', rfl, rfl⟩

/-- With image IDs from a prefix-free set, the image a container writes is
filed under its cache key. -/
theorem keysSound_upsertImages (free : PrefixFree S) (pod : Kube.Pod)
    (ids : ∀ cs ∈ pod.containerStatuses ++ pod.initContainerStatuses, S cs.imageID)
    (sound : KeysSound S d) : KeysSound S (d.upsertImages pod) := by
  refine upsertImages_invariant pod (KeysSound S) (fun d' owner cs cont mem _ sound' => ?_) sound
  intro key img found
  rw [putImage_images, GoMap.get?_insert] at found
  split at found
  · rename_i same
    subst same
    cases found
    obtain ⟨id, arch, -, -⟩ := upsertedImage_fields (d := d') pod owner cs cont
    refine ⟨?_, id ▸ ids cs mem⟩
    rw [Image.cacheKey, id, arch]
    cases base : d'.images.get? (cs.imageID ++ d'.archOf pod.nodeName) with
    | none => rfl
    | some b =>
      obtain ⟨filed, sb⟩ := sound' _ b base
      rw [Option.getD_some, (append_eq_of_prefixFree free sb (ids cs mem) filed).2]
  · exact sound' key img found

/-- An upsert leaves an entry that was already there private or scanned if it
was. -/
theorem settled_upsertImages (pod : Kube.Pod) (present : key ∈ d.images.keys)
    (settled : Settled key d) : Settled key (d.upsertImages pod) := by
  refine (upsertImages_invariant pod (fun d => Settled key d ∧ key ∈ d.images.keys)
    (fun d' owner cs cont _ _ kept => ?_) ⟨settled, present⟩).1
  obtain ⟨settled', present'⟩ := kept
  refine ⟨fun img found => ?_, (GoMap.mem_keys_insert ..).2 (.inr present')⟩
  rw [putImage_images, GoMap.get?_insert] at found
  split at found
  · rename_i same
    subst same
    cases found
    obtain ⟨-, -, err, scanned⟩ := upsertedImage_fields (d := d') pod owner cs cont
    obtain ⟨b, base⟩ := GoMap.mem_keys.1 present'
    simp only [base, Option.getD_some] at err scanned
    rw [err, scanned]
    exact settled' b base
  · exact settled' img found

theorem keysSound_updateImagesFromRemote (images : List ScannedImage) (ids : ∀ s ∈ images, S s.id) :
    KeysSound S (d.updateImagesFromRemote images) := by
  intro key img found
  obtain ⟨s, mem, rfl, rfl⟩ := buildImageMap_get? found
  exact ⟨rfl, ids s mem⟩

theorem settled_updateImagesFromRemote (images : List ScannedImage) :
    Settled key (d.updateImagesFromRemote images) := by
  intro img found
  obtain ⟨s, -, -, rfl⟩ := buildImageMap_get? found
  exact .inr rfl

theorem handlePodUpdate_images (q : Kube.Pod) :
    (d.handlePodUpdate q).images = (d.upsertImages q).images :=
  (updateNodesUsageFromPod_frame q).1

/-- An upsert writes images only for a pod, with the image IDs the pod brings. -/
theorem keysSound_upsert (free : PrefixFree S) (o : Object)
    (ids : ∀ q, o = .pod q → ∀ cs ∈ q.containerStatuses ++ q.initContainerStatuses, S cs.imageID)
    (sound : KeysSound S d) : KeysSound S (d.upsert o) := by
  cases o with
  | pod q =>
    intro key img found
    rw [upsert, handlePodUpdate_images] at found
    exact keysSound_upsertImages free q (ids q rfl) sound key img found
  | node v =>
    exact keysSound_of_keepsKeys (keepsKeys_of_carries (carries_of_images_eq (updateNodeUsage_images v)))
      sound
  | job v | replicaSet v | other =>
    exact keysSound_of_keepsKeys (keepsKeys_of_carries (carries_of_images_eq rfl)) sound

theorem settled_upsert (o : Object) (present : key ∈ d.images.keys) (settled : Settled key d) :
    Settled key (d.upsert o) := by
  cases o with
  | pod q =>
    intro img found
    rw [upsert, handlePodUpdate_images] at found
    exact settled_upsertImages q present settled img found
  | node v => exact settled_of_carries (carries_of_images_eq (updateNodeUsage_images v)) settled
  | job v | replicaSet v | other => exact settled_of_carries (carries_of_images_eq rfl) settled

theorem carries_delete (o : Object) : Carries d (d.delete o) := by
  cases o with
  | pod q => exact carries_handlePodDelete q
  | node v => exact carries_handleNodeDelete v
  | job v | replicaSet v | other => exact carries_of_images_eq rfl

/-! ## The controller -/

open Controller

theorem carries_foldl_setImageScanned (scanned : List ScannedImage) :
    Carries d (scanned.foldl setImageScanned d) := by
  induction scanned generalizing d with
  | nil => exact carries_of_images_eq rfl
  | cons s scanned ih => exact carries_trans (carries_setImageScanned s) ih

theorem carries_syncFromRemoteState (c : Controller) (now : Time)
    (getSyncState : List String → Except GoError (Option SyncImages)) :
    Carries c.delta (c.syncFromRemoteState now getSyncState).delta := by
  unfold syncFromRemoteState
  dsimp only
  split
  · exact carries_of_images_eq rfl
  · split
    · exact carries_of_images_eq rfl
    · exact carries_of_images_eq rfl
    · refine carries_trans (carries_filterMap _ fun key img img' kept => ?_)
        (carries_foldl_setImageScanned _)
      cases kept
      split <;> exact ⟨rfl, rfl, rfl, id⟩

theorem carries_updateImageStatuses (c : Controller) (now : Time)
    (send : UpdateImagesStatusRequest → Bool) :
    Carries c.delta (c.updateImageStatuses now send).1.delta := by
  rcases StatusReporting.updateImageStatuses_eq c now send with
    ⟨-, same⟩ | ⟨-, -, same⟩ | ⟨-, -, same⟩ <;> rw [same]
  · exact carries_of_images_eq rfl
  · refine carries_filterMap _ fun key img img' kept => ?_
    cases kept
    split <;> exact ⟨rfl, rfl, rfl, id⟩
  · exact carries_of_images_eq rfl

/-- No pending image is the record filed under a settled key. -/
theorem cacheKey_ne_of_pending {w : Wiring} {c : Controller} {now : Time} {img : Image}
    (sound : KeysSound S c.delta) (settled : Settled key c.delta)
    (pending : img ∈ c.findPendingImages w now) : img.cacheKey ≠ key := by
  obtain ⟨mem, isPending⟩ := mem_findPendingImages.1 pending
  obtain ⟨filed, found⟩ := GoMap.mem_values.1 mem
  rw [(sound filed img found).1]
  rintro rfl
  rcases settled img found with priv | scanned
  · simp [isImagePending, isImagePrivate, priv] at isPending
  · simp [isImagePending, scanned] at isPending

/-- The sync and the status report that open a pass keep every entry. -/
theorem carries_reported (c : Controller) (env : PassEnv) :
    Carries c.delta ((c.syncFromRemoteState env.syncNow env.getSyncState).updateImageStatuses
      env.reportNow env.updateImageStatus).1.delta :=
  carries_trans (carries_syncFromRemoteState c env.syncNow env.getSyncState)
    (carries_updateImageStatuses _ env.reportNow env.updateImageStatus)

/-- A pass keeps the keys sound. -/
theorem scheduleScans_keysSound {w : Wiring} {env : PassEnv} {c c' : Controller} {out : PassOutput}
    (sound : KeysSound S c.delta) (pass : scheduleScans w env c = some (c', out)) :
    KeysSound S c'.delta := by
  obtain ⟨delta, outcomes, err, -, scanned, rfl, -⟩ := scheduleScans_eq pass
  refine scanImages_invariant (KeysSound S) (fun d₀ d₁ img outcome _ sound₀ unit => ?_)
    (keysSound_of_keepsKeys (keepsKeys_of_carries (carries_reported c env)) sound) scanned
  rcases scanUnit_state unit with rfl | ⟨e, rfl⟩ | rfl
  · exact sound₀
  · exact keysSound_of_keepsKeys (keepsKeys_setImageScanError _ _ _) sound₀
  · exact keysSound_of_keepsKeys (keepsKeys_of_carries (carries_updateImage _)) sound₀

/-- A pass from a state whose keys are sound dispatches no image of a settled
key, and leaves the key settled. -/
theorem scheduleScans_settled {w : Wiring} {env : PassEnv} {c c' : Controller} {out : PassOutput}
    (sound : KeysSound S c.delta) (settled : Settled key c.delta)
    (pass : scheduleScans w env c = some (c', out)) :
    (∀ img ∈ out.batch, img.cacheKey ≠ key) ∧ Settled key c'.delta := by
  obtain ⟨delta, outcomes, err, cut, scanned, rfl, -⟩ := scheduleScans_eq pass
  have carried := carries_reported c env
  have settled₁ := settled_of_carries carried settled
  have fresh : ∀ img ∈ out.batch, img.cacheKey ≠ key := fun img mem =>
    cacheKey_ne_of_pending (keysSound_of_keepsKeys (keepsKeys_of_carries carried) sound) settled₁
      ((batch_prefix_of_imagesForScan cut).subset mem)
  refine ⟨fresh, scanImages_invariant (Settled key)
    (fun d₀ d₁ img outcome mem settled₀ unit => ?_) settled₁ scanned⟩
  rcases scanUnit_state unit with rfl | ⟨e, rfl⟩ | rfl
  · exact settled₀
  · exact fun i found => settled₀ i ((get?_setImageScanError_of_ne (Ne.symm (fresh img mem))) ▸ found)
  · exact settled_of_carries (carries_updateImage _) settled₀

/-- Pod events and remote image lists bring only image IDs of `S`. -/
def ActionIdsIn (S : String → Prop) : Action → Prop
  | .delta _ (.pod q) => ∀ cs ∈ q.containerStatuses ++ q.initContainerStatuses, S cs.imageID
  | .remoteImages images => ∀ s ∈ images, S s.id
  | _ => True

theorem step_keysSound (free : PrefixFree S) {w : Wiring} {a : Action} {c c' : Controller}
    (ids : ActionIdsIn S a) (sound : KeysSound S c.delta) (stepped : c.step w a = some c') :
    KeysSound S c'.delta := by
  cases a with
  | delta event o =>
    cases stepped
    cases event
    case delete => exact keysSound_of_keepsKeys (keepsKeys_of_carries (carries_delete o)) sound
    all_goals exact keysSound_upsert free o (fun q same => by subst same; exact ids) sound
  | remoteImages images => cases stepped; exact keysSound_updateImagesFromRemote images ids
  | clock now => cases stepped; exact sound
  | pass env =>
    obtain ⟨out, pass⟩ := step_pass_eq_some.1 stepped
    exact scheduleScans_keysSound sound pass

theorem step_settled {w : Wiring} {a : Action} {c c' : Controller} (sound : KeysSound S c.delta)
    (present : key ∈ c.delta.images.keys) (settled : Settled key c.delta)
    (stepped : c.step w a = some c') : Settled key c'.delta := by
  cases a with
  | delta event o =>
    cases stepped
    cases event
    case delete => exact settled_of_carries (carries_delete o) settled
    all_goals exact settled_upsert o present settled
  | remoteImages images => cases stepped; exact settled_updateImagesFromRemote images
  | clock now => cases stepped; exact settled
  | pass env =>
    obtain ⟨out, pass⟩ := step_pass_eq_some.1 stepped
    exact (scheduleScans_settled sound settled pass).2

theorem run_keysSound (free : PrefixFree S) {w : Wiring} {c c' : Controller} {actions : List Action}
    (ids : ∀ a ∈ actions, ActionIdsIn S a) (sound : KeysSound S c.delta)
    (ran : run w c actions = some c') : KeysSound S c'.delta := by
  induction actions generalizing c with
  | nil => cases ran; exact sound
  | cons a actions ih =>
    obtain ⟨c₁, stepped, ran⟩ := Option.bind_eq_some.1 ran
    exact ih (fun a mem => ids a (List.mem_cons_of_mem _ mem))
      (step_keysSound free (ids a (List.mem_cons_self _ _)) sound stepped) ran

theorem run_settled (free : PrefixFree S) {w : Wiring} {c c' : Controller} {actions : List Action}
    (ids : ∀ a ∈ actions, ActionIdsIn S a) (sound : KeysSound S c.delta) (settled : Settled key c.delta)
    (stays : Throughout w (fun c => key ∈ c.delta.images.keys) c actions)
    (ran : run w c actions = some c') : Settled key c'.delta := by
  induction actions generalizing c with
  | nil => cases ran; exact settled
  | cons a actions ih =>
    obtain ⟨present, stays⟩ := stays
    obtain ⟨c₁, stepped, ran⟩ := Option.bind_eq_some.1 ran
    exact ih (fun a mem => ids a (List.mem_cons_of_mem _ mem))
      (step_keysSound free (ids a (List.mem_cons_self _ _)) sound stepped)
      (step_settled sound present settled stepped) (stays c₁ stepped) ran

theorem keysSound_new (seed : List ScannedImage) (ids : ∀ s ∈ seed, S s.id) :
    KeysSound S (Controller.new seed).delta := by
  intro key img found
  obtain ⟨s, mem, rfl, rfl⟩ := buildImageMap_get? found
  exact ⟨rfl, ids s mem⟩

/-- In every run of the controller whose image IDs (of the seed, of pod
statuses and of remote image lists) form a prefix-free set, an entry that
once has `errPrivateImage` as its last scan error is, for as long as it stays
in the map, in no result of `findPendingImages`, and no pass dispatches an
image filed under its key. -/
theorem private_entry_not_dispatched (w : Wiring) (free : PrefixFree S) (seed : List ScannedImage)
    (seedIds : ∀ s ∈ seed, S s.id) {pre mid : List Action}
    (ids : ∀ a ∈ pre ++ mid, ActionIdsIn S a) {c c₀ : Controller}
    (reached : run w (Controller.new seed) pre = some c) {img : Image}
    (found : c.delta.images.get? key = some img) (priv : img.lastScanErr = some .privateImage)
    (stays : Throughout w (fun c => key ∈ c.delta.images.keys) c mid)
    (ran : run w c mid = some c₀) :
    (∀ now, ∀ i ∈ c₀.findPendingImages w now, i.cacheKey ≠ key) ∧
      ∀ env c₁ out, scheduleScans w env c₀ = some (c₁, out) → ∀ i ∈ out.batch, i.cacheKey ≠ key := by
  have sound := run_keysSound free (fun a mem => ids a (List.mem_append_left _ mem))
    (keysSound_new seed seedIds) reached
  have settled : Settled key c.delta := fun i found' => .inl (Option.some.inj (found.symm.trans found') ▸ priv)
  have idsMid := fun a mem => ids a (List.mem_append_right pre mem)
  have sound₀ := run_keysSound free idsMid sound ran
  have settled₀ := run_settled free idsMid sound settled stays ran
  exact ⟨fun now i pending => cacheKey_ne_of_pending sound₀ settled₀ pending,
    fun env c₁ out pass => (scheduleScans_settled sound₀ settled₀ pass).1⟩

/-- A run in which a registry refuses the one image: its entry becomes private,
and a later pass, once its retry time has passed, does not dispatch it. -/
theorem private_entry_not_dispatched_unauthorized :
    let n1 : Kube.Node := ⟨"n1", "amd64", "linux", ⟨4, 0⟩, ⟨8, 0⟩⟩
    let pod : Kube.Pod :=
      { uid := "p1", ownerReferences := [], nodeName := "n1",
        containers := [⟨"c", "nginx", Dec.zero, Dec.zero⟩], initContainers := [],
        phase := .running, containerStatuses := [⟨"c", "sha", "containerd://c1"⟩],
        initContainerStatuses := [] }
    let w : Wiring := ⟨⟨modeRemote, ⟨1, 0⟩, ⟨1, 0⟩, 2⟩, goInsertionSort, id, fun _ => true⟩
    let pass := fun (now : Time) (answer : Except GoError Unit) =>
      Action.pass ⟨0, fun _ => .ok none, 0, fun _ => true, now,
        fun _ => ⟨false, some ⟨"kvisor", []⟩, fun _ => answer, now⟩, false⟩
    let pre := [.delta .add (.node n1), .delta .add (.pod pod), pass 1 (.error (.message "UNAUTHORIZED"))]
    let later := pass 1000000000000 (.ok ())
    ∃ c c₀ : Controller, run w (Controller.new []) pre = some c ∧ run w c [later] = some c₀ ∧
      (∀ now, ∀ i ∈ c₀.findPendingImages w now, i.cacheKey ≠ "shaamd64") ∧
      ∀ env c₁ out, scheduleScans w env c₀ = some (c₁, out) → ∀ i ∈ out.batch, i.cacheKey ≠ "shaamd64" := by
  intro n1 pod w pass pre later
  have private₀ : ((run w (Controller.new []) pre).map fun c =>
      (c.delta.images.get? "shaamd64").map (·.lastScanErr)) = some (some (some .privateImage)) := by
    unfold pre pass pod n1 w; decide
  have later₀ : ((run w (Controller.new []) pre).map fun c => ((c.step w later).map fun c' =>
      decide ("shaamd64" ∈ c'.delta.images.keys))) = some (some true) := by
    unfold pre later pass pod n1 w; decide
  obtain ⟨c, reached, priv⟩ := Option.map_eq_some'.1 private₀
  obtain ⟨img, found, priv⟩ := Option.map_eq_some'.1 priv
  rw [reached, Option.map_some', Option.some_inj, Option.map_eq_some'] at later₀
  obtain ⟨c₀, stepped, present₀⟩ := later₀
  have ran : run w c [later] = some c₀ := by simp [run, stepped]
  have stays : Throughout w (fun c => "shaamd64" ∈ c.delta.images.keys) c [later] :=
    ⟨GoMap.mem_keys.2 ⟨img, found⟩, fun c' stepped' => by
      cases stepped.symm.trans stepped'; simpa using present₀⟩
  refine ⟨c, c₀, reached, ran, @private_entry_not_dispatched (· = "sha") "shaamd64" w
    (fun a b sa sb _ => sa.trans sb.symm) [] (fun s mem => by cases mem) pre [later] ?_ c c₀
    reached img found priv stays ran⟩
  intro a mem
  simp only [pre, List.cons_append, List.nil_append, List.mem_cons, List.mem_singleton,
    List.not_mem_nil, or_false] at mem
  rcases mem with rfl | rfl | rfl | rfl <;> simp [ActionIdsIn, pod]
/-- Image IDs `i` and `iamd64` on an amd64 node, and `iamd64` again on a node
with no recorded architecture: the keys `iamd64amd64` and `iamd64` collide,
the record filed under `iamd64` takes the ID `iamd64`, and its scan error is
recorded on the private entry under `iamd64amd64`, which a later pass
dispatches though it never left the map. -/
theorem private_entry_dispatched_after_key_collision :
    let n1 : Kube.Node := ⟨"n1", "amd64", "linux", ⟨4, 0⟩, ⟨8, 0⟩⟩
    let podB : Kube.Pod :=
      { uid := "pb", ownerReferences := [], nodeName := "n1",
        containers := [⟨"b", "app-b", Dec.zero, Dec.zero⟩], initContainers := [],
        phase := .running, containerStatuses := [⟨"b", "i", "containerd://b1"⟩],
        initContainerStatuses := [] }
    let podA : Kube.Pod :=
      { uid := "pa", ownerReferences := [], nodeName := "n1",
        containers := [⟨"a", "app-a", Dec.zero, Dec.zero⟩], initContainers := [],
        phase := .running, containerStatuses := [⟨"a", "iamd64", "containerd://a1"⟩],
        initContainerStatuses := [] }
    let podC : Kube.Pod :=
      { uid := "pc", ownerReferences := [], nodeName := "n2",
        containers := [⟨"c", "app-c", Dec.zero, Dec.zero⟩], initContainers := [],
        phase := .pending, containerStatuses := [], initContainerStatuses := [] }
    let podCRunning : Kube.Pod :=
      { uid := "pc", ownerReferences := [], nodeName := "n2",
        containers := [⟨"c", "app-c", Dec.zero, Dec.zero⟩], initContainers := [],
        phase := .running, containerStatuses := [⟨"c", "iamd64", "containerd://c1"⟩],
        initContainerStatuses := [] }
    let w : Wiring := ⟨⟨modeRemote, ⟨1, 0⟩, ⟨1, 0⟩, 2⟩, goInsertionSort, id, fun _ => true⟩
    let pass := fun (now : Time) (answer : Except GoError Unit) =>
      Action.pass ⟨0, fun _ => .ok none, 0, fun _ => true, now,
        fun _ => ⟨false, some ⟨"kvisor", []⟩, fun _ => answer, now⟩, false⟩
    let pre := [.delta .add (.node n1), .delta .add (.pod podB), .delta .add (.pod podA),
      pass 1 (.error (.message "UNAUTHORIZED"))]
    let mid := [.delta .add (.pod podC), .delta .update (.pod podCRunning), pass 2 (.error (.message "boom"))]
    ((run w (Controller.new []) pre).map fun c =>
        (c.delta.images.get? "iamd64amd64").map isImagePrivate) = some (some true) ∧
      (∀ n < 4, (run w (Controller.new []) (pre ++ mid.take n)).map
        (fun c => decide ("iamd64amd64" ∈ c.delta.images.keys)) = some true) ∧
      ((run w (Controller.new []) (pre ++ mid)).bind fun c =>
        (scheduleScans w ⟨0, fun _ => .ok none, 0, fun _ => true, 1000000000000,
          fun _ => ⟨false, some ⟨"kvisor", []⟩, fun _ => .ok (), 1000000000000⟩, false⟩ c).map
          fun result => result.2.batch.map fun i => (i.cacheKey, i.failures)) =
        some [("iamd64amd64", 0), ("iamd64amd64", 2)] := by
  decide
end ImageScan.PrivateImages
