import ImageScan.DeltaOps
import ImageScan.DeltaLemmas

/-! The retry backoff of an image. `newImage` gives every entry the backoff
`60s × 3` for eight steps; each `setImageScanError` on the entry counts a
failure and puts the next scan off by the backoff's next step, and no other
write of the delta state touches the count or the backoff. So the `k`-th
failure of an entry since it was created puts its next scan
`60s × 3^(min(k, 9) - 1)` after the time of the failure. -/
namespace ImageScan.RetryBackoff

open Kube DeltaState DeltaLemmas DeltaOps

/-- The backoff of an entry after `n` failures. -/
def backoffAfter (n : Nat) : Backoff :=
  { duration := 60 * second * 3 ^ min n 8, factor := 3, steps := 8 - min n 8, cap := 0 }

/-- The delay the `k`-th failure sets: `60s × 3^(min(k, 9) - 1)`. -/
def retryDelay (k : Nat) : Duration := 60 * second * 3 ^ (min k 9 - 1)

/-- The calls of `setImageScanError` among `ops` that land on `key`. -/
def errorsOn (key : String) (ops : List DeltaOp) : Nat := ops.countP (DeltaOp.isErrorOn key)

/-- The entry under `key` stays through `ops`: it is there before every write
and after the last, and no remote image list replaces the map. -/
def Stays (key : String) : DeltaState → List DeltaOp → Prop
  | d, [] => key ∈ d.images.keys
  | d, op :: ops => key ∈ d.images.keys ∧ op.recreates = false ∧ Stays key (d.applyOp op) ops

instance instDecidableStays (key : String) : (d : DeltaState) → (ops : List DeltaOp) →
    Decidable (Stays key d ops)
  | d, [] => inferInstanceAs (Decidable (key ∈ d.images.keys))
  | d, op :: ops =>
    have := instDecidableStays key (d.applyOp op) ops
    inferInstanceAs (Decidable (key ∈ d.images.keys ∧ op.recreates = false ∧ Stays key (d.applyOp op) ops))

/-- The failure count and backoff of the entry under `key`, or those an entry
starts with when there is none. -/
def backoffState (m : GoMap String Image) (key : String) : Nat × Backoff :=
  ((m.get? key).map fun img => (img.failures, img.retryBackoff)).getD (0, backoffAfter 0)

/-- The entry under `key` in `m'`, if any, has the failure count and backoff
of the entry in `m`, or those of a new entry when `m` has none: the write
from `m` to `m'` keeps the entry's count and backoff, and creates an entry
only as `newImage` does. -/
def KeepsAt (key : String) (m m' : GoMap String Image) : Prop :=
  ∀ img', m'.get? key = some img' → (img'.failures, img'.retryBackoff) = backoffState m key

variable {d : DeltaState} {key : String} {m : GoMap String Image}

/-! ## The backoff -/

theorem newImage_retryBackoff (id architecture : String) :
    (newImage id architecture).retryBackoff = backoffAfter 0 :=
  rfl

/-- One step of the backoff after `n` failures waits `60s × 3^min(n, 8)` and
leaves the backoff after `n + 1`. -/
theorem backoffAfter_step (n : Nat) :
    (backoffAfter n).step = (60 * second * 3 ^ min n 8, backoffAfter (n + 1)) := by
  unfold Backoff.step backoffAfter
  by_cases spent : 8 ≤ n
  · have later : min (n + 1) 8 = 8 := by omega
    simp only [later, Nat.min_eq_right spent, Nat.sub_self, Nat.lt_irrefl, if_true, Nat.zero_lt_one]
  · have later : min (n + 1) 8 = min n 8 + 1 := by omega
    have steps : ¬ (8 - min n 8 < 1) := by omega
    simp only [steps, later, if_false, pow_succ, Int.mul_assoc, Nat.sub_sub, OfNat.ofNat_ne_zero,
      lt_self_iff_false, false_and, Nat.cast_ofNat]

theorem retryDelay_succ (n : Nat) : retryDelay (n + 1) = 60 * second * 3 ^ min n 8 := by
  unfold retryDelay
  congr 2
  omega

theorem retryDelay_mono {k k' : Nat} (le : k ≤ k') : retryDelay k ≤ retryDelay k' := by
  unfold retryDelay
  have grows : (3 : Int) ^ (min k 9 - 1) ≤ 3 ^ (min k' 9 - 1) := by
    exact_mod_cast Nat.pow_le_pow_right (by decide) (show min k 9 - 1 ≤ min k' 9 - 1 by omega)
  exact Int.mul_le_mul_of_nonneg_left grows (by decide)

theorem retryDelay_of_le {k : Nat} (late : 9 ≤ k) : retryDelay k = 60 * second * 3 ^ 8 := by
  unfold retryDelay
  rw [Nat.min_eq_right late]

/-! ## What each write does to an entry -/

theorem backoffState_of_get? {img : Image} (found : m.get? key = some img) :
    backoffState m key = (img.failures, img.retryBackoff) := by
  rw [backoffState, found]
  rfl

theorem backoffState_insert (k : String) (v : Image) :
    backoffState (m.insert k v) key =
      if key = k then (v.failures, v.retryBackoff) else backoffState m key := by
  unfold backoffState
  rw [GoMap.get?_insert]
  split <;> rfl

/-- The entry under `key`, or a new one, has the count and backoff
`backoffState` reads. -/
theorem backoffState_getD (id architecture : String) :
    let img := (m.get? key).getD (newImage id architecture)
    (img.failures, img.retryBackoff) = backoffState m key := by
  unfold backoffState
  cases m.get? key <;> rfl

theorem keepsAt_refl (m : GoMap String Image) : KeepsAt key m m :=
  fun _ found => (backoffState_of_get? found).symm

theorem keepsAt_insert {k : String} {v : Image}
    (kept : k = key → (v.failures, v.retryBackoff) = backoffState m key) :
    KeepsAt key m (m.insert k v) := by
  intro img' found'
  rw [GoMap.get?_insert] at found'
  split at found'
  · rename_i same
    cases found'
    exact kept same.symm
  · exact (backoffState_of_get? found').symm

/-- `upsertImages` keeps an entry's count and backoff: each container rewrites
the entry it finds, or creates it as `newImage` does. -/
theorem keepsAt_upsertImages (pod : Kube.Pod) : KeepsAt key d.images (d.upsertImages pod).images := by
  have same : backoffState (d.upsertImages pod).images key = backoffState d.images key := by
    refine upsertImages_invariant pod (fun d' => backoffState d'.images key = backoffState d.images key)
      ?_ rfl
    intro d' owner cs cont _ _ kept
    rw [putImage_images, backoffState_insert]
    split
    · rename_i hit
      subst hit
      rw [← kept, ← backoffState_getD cs.imageID (d'.archOf pod.nodeName)]
      unfold upsertedImage Image.addNodePod Image.addOwnerPod
      dsimp only
      split <;> split <;> rfl
    · exact kept
  intro img' found'
  rw [← same, backoffState_of_get? found']

/-- Every write but a remote list and a failure of the entry itself keeps the
entry's failure count and backoff, or creates the entry as `newImage` does. -/
theorem keepsAt_applyOp (op : DeltaOp) (keeps : op.recreates = false)
    (other : op.isErrorOn key = false) : KeepsAt key d.images (d.applyOp op).images := by
  rcases restamps_cases op with restamps | ⟨pod, rfl⟩ | ⟨images, rfl⟩ | ⟨i, err, now, rfl⟩
  · intro img' found'
    obtain ⟨img, found, kept⟩ := restamp_applyOp restamps found'
    rw [backoffState_of_get? found, kept.failures, kept.retryBackoff]
  · rw [applyOp_pod_images]
    exact keepsAt_upsertImages pod
  · cases keeps
  · show KeepsAt key d.images (d.setImageScanError i err now).images
    unfold setImageScanError
    split
    · exact keepsAt_refl _
    · exact keepsAt_insert fun same => absurd same (by simpa [DeltaOp.isErrorOn] using other)

/-- A failure of the entry counts one more failure, steps its backoff, and
puts its next scan off by the step's delay. -/
theorem setImageScanError_entry {i : Image} {img : Image} (err : GoError) (now : Time)
    (found : d.images.get? i.cacheKey = some img) :
    ∃ img', (d.setImageScanError i err now).images.get? i.cacheKey = some img' ∧
      img'.failures = img.failures + 1 ∧ img'.retryBackoff = img.retryBackoff.step.2 ∧
      img'.nextScan = now + img.retryBackoff.step.1 := by
  unfold setImageScanError
  rw [found]
  dsimp only
  generalize img.retryBackoff.step = s
  obtain ⟨delay, backoff⟩ := s
  exact ⟨_, (GoMap.get?_insert ..).trans (if_pos rfl), rfl, rfl, rfl⟩

/-! ## Over a sequence of writes -/

/-- The entry under `key` is there, with `n` failures and the backoff after
`n`. -/
def Tracks (key : String) (n : Nat) (d : DeltaState) : Prop :=
  ∃ img, d.images.get? key = some img ∧ img.failures = n ∧ img.retryBackoff = backoffAfter n

theorem Stays.present {ops : List DeltaOp} (stays : Stays key d ops) : key ∈ d.images.keys := by
  cases ops with
  | nil => exact stays
  | cons op ops => exact stays.1

/-- One write: a failure of the entry counts, any other write keeps the count. -/
theorem tracks_applyOp {n : Nat} {op : DeltaOp} (keeps : op.recreates = false)
    (present : key ∈ (d.applyOp op).images.keys) (tracks : Tracks key n d) :
    Tracks key (n + if op.isErrorOn key then 1 else 0) (d.applyOp op) := by
  obtain ⟨img, found, failures, backoff⟩ := tracks
  cases hit : op.isErrorOn key
  · obtain ⟨img', found'⟩ := GoMap.mem_keys.1 present
    have kept := keepsAt_applyOp op keeps hit img' found'
    rw [backoffState_of_get? found, failures, backoff] at kept
    exact ⟨img', found', (Prod.mk.inj kept).1, (Prod.mk.inj kept).2⟩
  · cases op with
    | setImageScanError i err now =>
      have same : i.cacheKey = key := by simpa [DeltaOp.isErrorOn] using hit
      subst same
      obtain ⟨img', found', failures', backoff', -⟩ := setImageScanError_entry err now found
      refine ⟨img', found', by rw [failures', failures]; rfl, ?_⟩
      rw [backoff', backoff, backoffAfter_step]
      rfl
    | _ => simp [DeltaOp.isErrorOn] at hit

/-- Through writes the entry stays in, its failure count grows by the failures
that land on it, and its backoff follows the count. -/
theorem tracks_applyOps {ops : List DeltaOp} {n : Nat} (stays : Stays key d ops)
    (tracks : Tracks key n d) : Tracks key (n + errorsOn key ops) (d.applyOps ops) := by
  induction ops generalizing d n with
  | nil => exact tracks
  | cons op ops ih =>
    obtain ⟨-, keeps, rest⟩ := stays
    have next := ih rest (tracks_applyOp keeps rest.present tracks)
    have count : n + (if op.isErrorOn key then 1 else 0) + errorsOn key ops = n + errorsOn key (op :: ops) := by
      rw [errorsOn, errorsOn, List.countP_cons]
      omega
    rwa [count] at next

/-- The retry schedule of an entry. From the state where `newImage` created it,
through any writes of the delta state (events, remote syncs, reports, scan
outcomes) while it stays in the map, the `k`-th call of `setImageScanError` on
it leaves `k` failures and puts its next scan `60s × 3^(min(k, 9) - 1)` after
the time of the call; the delays never decrease, and stay at `60s × 3^8` from
the ninth failure on. -/
theorem retry_backoff_schedule {img : Image} (created : d.images.get? key = some img)
    (fresh : img.failures = 0)
    (initial : img.retryBackoff = (newImage img.id img.architecture).retryBackoff)
    {ops : List DeltaOp} (stays : Stays key d ops) (i : Image) (hit : i.cacheKey = key)
    (err : GoError) (now : Time) :
    (∃ img', (d.applyOps (ops ++ [.setImageScanError i err now])).images.get? key = some img' ∧
      img'.failures = errorsOn key ops + 1 ∧
      img'.nextScan = now + retryDelay (errorsOn key ops + 1)) ∧
    (∀ k k', k ≤ k' → retryDelay k ≤ retryDelay k') ∧
    ∀ k, 9 ≤ k → retryDelay k = 60 * second * 3 ^ 8 := by
  have start : Tracks key 0 d := ⟨img, created, fresh, initial.trans (newImage_retryBackoff _ _)⟩
  obtain ⟨img₁, found₁, failures₁, backoff₁⟩ := tracks_applyOps stays start
  subst hit
  obtain ⟨img', found', failures', -, next⟩ := setImageScanError_entry err now found₁
  refine ⟨⟨img', ?_, ?_, ?_⟩, fun k k' le => retryDelay_mono le, fun k late => retryDelay_of_le late⟩
  · rw [applyOps_append]; exact found'
  · rw [failures', failures₁, Nat.zero_add]
  · rw [next, backoff₁, backoffAfter_step, Nat.zero_add, retryDelay_succ]

/-- An image of the seed list fails at times 10 and 20, with a remote sync
between; its third failure, at 30, puts the next scan `60s × 9` later. -/
theorem retry_backoff_schedule_third_failure :
    let i := newImage "sha256:1" "amd64"
    let d := newDeltaState [⟨"sha256:1", "amd64", ["deploy"]⟩]
    let err := GoError.message "i/o timeout"
    let ops := [.setImageScanError i err 10, .stampRemoteSync 12, .setImageScanError i err 20]
    let img := scannedImageEntry ⟨"sha256:1", "amd64", ["deploy"]⟩
    (d.images.get? i.cacheKey = some img ∧ img.failures = 0 ∧
      img.retryBackoff = (newImage img.id img.architecture).retryBackoff ∧ Stays i.cacheKey d ops) ∧
    ((∃ img', (d.applyOps (ops ++ [.setImageScanError i err 30])).images.get? i.cacheKey = some img' ∧
      img'.failures = errorsOn i.cacheKey ops + 1 ∧
      img'.nextScan = 30 + retryDelay (errorsOn i.cacheKey ops + 1)) ∧
    (∀ k k', k ≤ k' → retryDelay k ≤ retryDelay k') ∧
    ∀ k, 9 ≤ k → retryDelay k = 60 * second * 3 ^ 8) ∧
    30 + retryDelay (errorsOn i.cacheKey ops + 1) = 30 + 60 * second * 9 := by
  intro i d err ops img
  have created : d.images.get? i.cacheKey = some img := rfl
  have stays : Stays i.cacheKey d ops := by decide
  exact ⟨⟨created, rfl, rfl, stays⟩,
    retry_backoff_schedule created rfl rfl stays i rfl err 30, by decide⟩

end ImageScan.RetryBackoff
