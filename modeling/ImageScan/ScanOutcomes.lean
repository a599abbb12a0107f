import ImageScan.Controller

/-! What a scan unit does to its image. A unit started after the pass's
context is done leaves its image alone. Any other unit runs `scanImage`, and
every error `scanImage` returns is recorded with `setImageScanError`: an
error of placement and a missing kvisor image as much as a failed scan. A
scan that succeeds marks the image scanned. -/
namespace ImageScan.ScanOutcomes

open Kube

variable {w : Wiring} {env : ScanEnv} {d : DeltaState} {img : Image}

/-- The three ways `scanImage` fails: placement fails, the kvisor image is not
found, or the scan itself fails. -/
def ScanImageFails (w : Wiring) (d : DeltaState) (env : ScanEnv) (img : Image) (err : GoError) : Prop :=
  findBestNodeAndMode w d img = some (.error err) ∨
  (∃ placed, findBestNodeAndMode w d img = some (.ok placed) ∧ env.kvisorImageDetails = none ∧
    err = .message "kvisor image details not found") ∨
  (∃ node mode details, findBestNodeAndMode w d img = some (.ok (node, mode)) ∧
    env.kvisorImageDetails = some details ∧ env.scanImage (scanImageParams img node mode details) = .error err)

theorem scanImage_error_iff {err : GoError} :
    scanImage w d env img = some (.error err) ↔ ScanImageFails w d env img err := by
  unfold scanImage ScanImageFails
  cases found : findBestNodeAndMode w d img with
  | none => simp
  | some result =>
    cases result with
    | error e => simp [eq_comm]
    | ok placement =>
      obtain ⟨node, mode⟩ := placement
      cases details : env.kvisorImageDetails <;> simp [eq_comm, and_assoc]

/-- What one unit of `scanImages` does: nothing once the pass is cancelled;
otherwise it records every error of `scanImage`, whatever its source, with
`setImageScanError`, and marks the image scanned when the scan succeeds. -/
theorem scanUnit_records_scanImage_errors (w : Wiring) (env : ScanEnv) (d : DeltaState) (img : Image)
    {outcome : UnitOutcome} {d' : DeltaState} (ran : scanUnit w env d img = some (outcome, d')) :
    (env.cancelled = true ∧ outcome = .skipped ∧ d' = d) ∨
    (env.cancelled = false ∧ ∃ err, ScanImageFails w d env img err ∧
      outcome = .failed (w.parseErrorFromLog err) ∧
      d' = d.setImageScanError img (w.parseErrorFromLog err) env.now) ∨
    (env.cancelled = false ∧ scanImage w d env img = some (.ok ()) ∧ outcome = .scanned ∧
      d' = d.updateImage img fun i => { i with scanned := true }) := by
  unfold scanUnit at ran
  cases cancelled : env.cancelled
  · rw [cancelled] at ran
    obtain ⟨result, scanned, same⟩ := Option.map_eq_some'.1 ran
    cases result with
    | error err =>
      cases same
      exact .inr (.inl ⟨rfl, err, scanImage_error_iff.1 scanned, rfl, rfl⟩)
    | ok u =>
      cases same
      exact .inr (.inr ⟨rfl, scanned, rfl, rfl⟩)
  · rw [cancelled, if_pos rfl] at ran
    cases ran
    exact .inl ⟨rfl, rfl, rfl⟩

/-- The unit of an image whose node has no Node record: placement fails, and
the placement error is what the unit records. -/
theorem scanUnit_records_unplaced_image :
    let pod : Kube.Pod :=
      { uid := "p1", ownerReferences := [], nodeName := "n1",
        containers := [⟨"c", "nginx", Dec.zero, Dec.zero⟩], initContainers := [],
        phase := .running, containerStatuses := [⟨"c", "sha", "containerd://c1"⟩],
        initContainerStatuses := [] }
    let d := (newDeltaState []).applyAll [.upsert (.pod pod)]
    let w : Wiring := ⟨⟨modeRemote, ⟨1, 0⟩, ⟨1, 0⟩, 2⟩, goInsertionSort, id, fun _ => true⟩
    let env : ScanEnv := ⟨false, some ⟨"kvisor", []⟩, fun _ => .ok (), 5⟩
    let img := (d.images.get? "shaamd64").getD (newImage "" "")
    ScanImageFails w d env img .noCandidates ∧
      (scanUnit w env d img).map Prod.fst = some (.failed .noCandidates) := by
  intro pod d w env img
  have ran : scanUnit w env d img = some (.failed .noCandidates, d.setImageScanError img .noCandidates 5) :=
    rfl
  rcases scanUnit_records_scanImage_errors w env d img ran with
    ⟨cancelled, -⟩ | ⟨-, err, fails, same, -⟩ | ⟨-, -, scanned, -⟩
  · cases cancelled
  · cases same
    exact ⟨fails, by rw [ran]; rfl⟩
  · cases scanned

/-- A running pod on a node with no Node record: its image cannot be placed,
and the pass records the placement error as a scan failure. -/
theorem placement_error_counts_as_failure :
    let pod : Kube.Pod :=
      { uid := "p1", ownerReferences := [], nodeName := "n1",
        containers := [⟨"c", "nginx", Dec.zero, Dec.zero⟩], initContainers := [],
        phase := .running, containerStatuses := [⟨"c", "sha", "containerd://c1"⟩],
        initContainerStatuses := [] }
    let c := (Controller.new []).handleDelta .add (.pod pod)
    let w : Wiring := ⟨⟨modeRemote, ⟨1, 0⟩, ⟨1, 0⟩, 2⟩, goInsertionSort, id, fun _ => true⟩
    let env : PassEnv :=
      { syncNow := 0, getSyncState := fun _ => .ok none, reportNow := 0,
        updateImageStatus := fun _ => true, selectNow := 1,
        scan := fun _ => ⟨false, some ⟨"kvisor", []⟩, fun _ => .ok (), 5⟩, cancelled := false }
    (Controller.scheduleScans w env c).map
        (fun result => (result.2.outcomes.map Prod.snd, result.1.delta.getImages.map Image.failures)) =
      some ([.failed .noCandidates], [1]) := by
  decide

/-! ## A batch -/

/-- The delta state a unit leaves: as it was, with a scan error recorded for
its image, or with its image marked scanned. -/
theorem scanUnit_state {outcome : UnitOutcome} {d' : DeltaState}
    (ran : scanUnit w env d img = some (outcome, d')) :
    d' = d ∨ (∃ err, d' = d.setImageScanError img err env.now) ∨
      d' = d.updateImage img fun i => { i with scanned := true } := by
  unfold scanUnit at ran
  split at ran
  · cases ran; exact .inl rfl
  · obtain ⟨result, -, same⟩ := Option.map_eq_some'.1 ran
    cases result <;> cases same
    · exact .inr (.inl ⟨_, rfl⟩)
    · exact .inr (.inr rfl)

/-- A property of delta states that every unit of a batch keeps holds after
`scanImages`. -/
theorem scanImages_invariant (P : DeltaState → Prop) {envs : Image → ScanEnv} {cancelled : Bool}
    {batch : List Image} {d' : DeltaState} {outcomes : List (Image × UnitOutcome)}
    {err : Option GoError}
    (step : ∀ d₀ d₁ img outcome, img ∈ batch → P d₀ →
      scanUnit w (envs img) d₀ img = some (outcome, d₁) → P d₁)
    (initial : P d) (ran : scanImages w envs cancelled d batch = some (d', outcomes, err)) : P d' := by
  induction batch generalizing d outcomes with
  | nil => cases ran; exact initial
  | cons img batch ih =>
    unfold scanImages at ran
    split at ran
    · cases ran; exact initial
    · split at ran
      · cases ran
      · rename_i outcome d₁ unit
        obtain ⟨⟨d₂, rest, err'⟩, ran, same⟩ := Option.map_eq_some'.1 ran
        cases same
        exact ih (fun d₀ d₁ img outcome mem => step d₀ d₁ img outcome (List.mem_cons_of_mem _ mem))
          (step d d₁ img outcome (List.mem_cons_self _ _) initial unit) ran

end ImageScan.ScanOutcomes
