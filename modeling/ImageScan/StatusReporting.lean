import ImageScan.Controller

/-! Image status reporting. `updateImageStatuses` sends every image until a
full snapshot has been accepted, and then only the images whose owners changed
since their last report; `syncFromRemoteState` asks for the full list again
when the remote side requires a resync. A rejected report changes nothing,
and the flag is set only by an accepted report. The report's `FullSnapshot`
tag, though, is the flag as the call finds it: a report of the complete list
goes out tagged as not a full snapshot, and every later report, built from the
changed images only, goes out tagged as one. An image's owners change when a
pod handler adds or drops an owner, at the time of the handler's clock. Over a
run, a report tagged as a full snapshot always follows an accepted report of
the complete list tagged as not one (`full_tag_after_untagged_full_report`). -/
namespace ImageScan.StatusReporting

open Kube Controller

variable {c : Controller} {now : Time} {send : UpdateImagesStatusRequest → Bool}

/-- The images `updateImageStatuses` reports. -/
def reported (c : Controller) : List Image := c.delta.getImages.filter c.reportsImage

/-- The report `updateImageStatuses` builds from them. -/
def report (c : Controller) (now : Time) : UpdateImagesStatusRequest :=
  { fullSnapshot := c.fullSnapshotSent, images := (reported c).map (imageStatus now) }

/-- The controller after `report c now` was accepted. -/
def stamped (c : Controller) (now : Time) : Controller :=
  let images := c.delta.images.filterMap fun _ img =>
    some (if c.reportsImage img then { img with resourcesUpdatedAt := now } else img)
  { delta := { c.delta with images }, fullSnapshotSent := true }

/-- What `updateImageStatuses` can do: nothing when no image is to be
reported; otherwise send `report c now`, and stamp the reported images and
set the flag exactly when the report is accepted. -/
theorem updateImageStatuses_eq (c : Controller) (now : Time) (send : UpdateImagesStatusRequest → Bool) :
    ((reported c).length = 0 ∧ c.updateImageStatuses now send = (c, none)) ∨
      ((reported c).length ≠ 0 ∧ send (report c now) = true ∧
        c.updateImageStatuses now send = (stamped c now, some (report c now))) ∨
      ((reported c).length ≠ 0 ∧ send (report c now) = false ∧
        c.updateImageStatuses now send = (c, some (report c now))) := by
  unfold updateImageStatuses
  by_cases none : (reported c).length = 0
  · exact .inl ⟨none, if_pos none⟩
  · rw [reported] at none
    rw [if_neg none]
    cases accepted : send (report c now) <;> simp only [report, reported] at accepted <;>
      simp [accepted, none, report, reported, stamped]

/-- The report `updateImageStatuses` sends: none when no image is to be
reported, and `report c now` otherwise, whatever the answer. -/
theorem updateImageStatuses_report (c : Controller) (now : Time) (send : UpdateImagesStatusRequest → Bool) :
    (c.updateImageStatuses now send).2 = if (reported c).length = 0 then none else some (report c now) := by
  rcases updateImageStatuses_eq c now send with ⟨none, same⟩ | ⟨some, -, same⟩ | ⟨some, -, same⟩ <;>
    simp [same, *]

/-- Until a full snapshot has been accepted, every image is reported. -/
theorem reported_of_unsent (unsent : c.fullSnapshotSent = false) : reported c = c.delta.getImages := by
  simp [reported, reportsImage, unsent]

/-- Until a full snapshot has been accepted, the report is the status of every
image, tagged as not a full snapshot. -/
theorem report_of_unsent (unsent : c.fullSnapshotSent = false) :
    report c now = { fullSnapshot := false, images := c.delta.getImages.map (imageStatus now) } := by
  rw [report, reported_of_unsent unsent, unsent]

/-- A rejected report leaves the controller as it was: the flag, and every
image's `resourcesUpdatedAt`. -/
theorem updateImageStatuses_rejected {sent : UpdateImagesStatusRequest}
    (call : (c.updateImageStatuses now send).2 = some sent) (rejected : send sent = false) :
    (c.updateImageStatuses now send).1 = c := by
  rcases updateImageStatuses_eq c now send with ⟨-, same⟩ | ⟨-, accepted, same⟩ | ⟨-, -, same⟩
  · rw [same] at call; cases call
  · rw [same] at call ⊢; cases call; rw [accepted] at rejected; cases rejected
  · rw [same]

/-- The flag after `updateImageStatuses`: set exactly when a report was sent
and accepted. -/
theorem fullSnapshotSent_updateImageStatuses :
    (c.updateImageStatuses now send).1.fullSnapshotSent =
      (c.fullSnapshotSent || ((c.updateImageStatuses now send).2.map send).getD false) := by
  rcases updateImageStatuses_eq c now send with ⟨-, same⟩ | ⟨-, accepted, same⟩ | ⟨-, rejected, same⟩
  · simp [same]
  · simp [same, accepted, stamped]
  · simp [same, rejected]

/-- The report sent while no full snapshot has been accepted: the status of
every image, tagged as not a full snapshot. -/
theorem full_report_tagged_incremental (unsent : c.fullSnapshotSent = false)
    (nonempty : c.delta.getImages.length ≠ 0) :
    (c.updateImageStatuses now send).2 =
      some { fullSnapshot := false, images := c.delta.getImages.map (imageStatus now) } := by
  rw [updateImageStatuses_report, if_neg (by rwa [reported_of_unsent unsent]), report_of_unsent unsent]

/-- The first report of a controller that has seen one running pod. -/
theorem first_report_tagged_incremental :
    let pod : Kube.Pod :=
      { uid := "p1", ownerReferences := [], nodeName := "n1",
        containers := [⟨"c", "nginx", Dec.zero, Dec.zero⟩], initContainers := [],
        phase := .running, containerStatuses := [⟨"c", "sha", "containerd://c1"⟩],
        initContainerStatuses := [] }
    let c := (Controller.new []).handleDelta .add (.pod pod)
    c.fullSnapshotSent = false ∧ c.delta.getImages.length ≠ 0 ∧
      (c.updateImageStatuses 0 fun _ => true).2 =
        some { fullSnapshot := false, images := c.delta.getImages.map (imageStatus 0) } := by
  intro pod c
  exact ⟨rfl, by decide, full_report_tagged_incremental rfl (by decide)⟩

/-! ## The flag over a run -/

/-- `syncFromRemoteState` never sets the flag. -/
theorem fullSnapshotSent_syncFromRemoteState
    (getSyncState : List String → Except GoError (Option SyncImages))
    (sent : (c.syncFromRemoteState now getSyncState).fullSnapshotSent = true) :
    c.fullSnapshotSent = true := by
  unfold syncFromRemoteState at sent
  dsimp only at sent
  split at sent
  · exact sent
  · split at sent
    · exact sent
    · exact sent
    · dsimp only at sent
      split at sent
      · cases sent
      · exact sent

/-- A pass touches the flag only through its `updateImageStatuses`, whose
report is the one the pass puts out. -/
theorem scheduleScans_updateImageStatuses {w : Wiring} {env : PassEnv} {c' : Controller}
    {out : PassOutput} (pass : scheduleScans w env c = some (c', out)) :
    let synced := c.syncFromRemoteState env.syncNow env.getSyncState
    c'.fullSnapshotSent =
        (synced.updateImageStatuses env.reportNow env.updateImageStatus).1.fullSnapshotSent ∧
      out.report = (synced.updateImageStatuses env.reportNow env.updateImageStatus).2 := by
  obtain ⟨-, -, -, -, -, rfl, report⟩ := scheduleScans_eq pass
  exact ⟨rfl, report⟩

/-- A pass whose report of the complete image list was accepted: the flag was
unset when the report was built after the sync, there was an image to report,
and the remote side took the report. -/
def FullReportAccepted (env : PassEnv) (synced : Controller) : Prop :=
  synced.fullSnapshotSent = false ∧ (reported synced).length ≠ 0 ∧
    env.updateImageStatus (report synced env.reportNow) = true

/-- Only a pass whose full report was accepted sets the flag. -/
theorem step_fullSnapshotSent {w : Wiring} {a : Action} {c' : Controller}
    (stepped : c.step w a = some c') (sent : c'.fullSnapshotSent = true) :
    c.fullSnapshotSent = true ∨
      ∃ env, a = .pass env ∧ FullReportAccepted env (c.syncFromRemoteState env.syncNow env.getSyncState) := by
  cases a with
  | delta event o => cases stepped; cases event <;> exact .inl sent
  | remoteImages images => cases stepped; exact .inl sent
  | clock now => cases stepped; exact .inl sent
  | pass env =>
    obtain ⟨out, pass⟩ := step_pass_eq_some.1 stepped
    rw [(scheduleScans_updateImageStatuses pass).1] at sent
    generalize synced : c.syncFromRemoteState env.syncNow env.getSyncState = s at sent
    cases unsent : s.fullSnapshotSent
    · rcases updateImageStatuses_eq s env.reportNow env.updateImageStatus with
        ⟨-, same⟩ | ⟨reported, accepted, -⟩ | ⟨-, -, same⟩
      · rw [same, unsent] at sent; cases sent
      · exact .inr ⟨env, rfl, synced ▸ ⟨unsent, reported, accepted⟩⟩
      · rw [same, unsent] at sent; cases sent
    · exact .inl (fullSnapshotSent_syncFromRemoteState _ (synced ▸ unsent))

/-- In every run of the controller the flag is set only if some pass had its
report of the complete image list accepted, and the flag has stayed set at
every state since that pass: no resync answer has cleared it. -/
theorem fullSnapshotSent_run (w : Wiring) {start c' : Controller} (unsent : start.fullSnapshotSent = false)
    {actions : List Action} (ran : run w start actions = some c') (sent : c'.fullSnapshotSent = true) :
    ∃ pre env post c₀ c₁, actions = pre ++ .pass env :: post ∧ run w start pre = some c₀ ∧
      FullReportAccepted env (c₀.syncFromRemoteState env.syncNow env.getSyncState) ∧
      c₀.step w (.pass env) = some c₁ ∧ Throughout w (·.fullSnapshotSent = true) c₁ post := by
  induction actions using List.reverseRecOn generalizing c' with
  | nil => cases ran; rw [unsent] at sent; cases sent
  | append_singleton actions a ih =>
    rw [run_snoc, Option.bind_eq_some] at ran
    obtain ⟨c, ran, stepped⟩ := ran
    rcases step_fullSnapshotSent stepped sent with before | ⟨env, rfl, full⟩
    · obtain ⟨pre, env, post, c₀, c₁, rfl, ran₀, full, passed, throughout⟩ := ih ran before
      rw [run_append, ran₀, Option.some_bind, run, passed, Option.some_bind] at ran
      exact ⟨pre, env, post ++ [a], c₀, c₁, by simp, ran₀, full, passed,
        throughout_snoc throughout ran stepped sent⟩
    · exact ⟨actions, env, [], c, c', rfl, ran, full, stepped, sent⟩

/-- In every run from a controller that has sent no full snapshot, a pass whose
report is tagged as a full snapshot reports only the images whose owner set
changed after their last report; and an earlier pass of the run had its
report of the complete, non-empty image list accepted, tagged as not a full
snapshot. -/
theorem full_tag_after_untagged_full_report (w : Wiring) {start c c' : Controller}
    (unsent : start.fullSnapshotSent = false) {actions : List Action} (ran : run w start actions = some c)
    {env : PassEnv} {out : PassOutput} (pass : scheduleScans w env c = some (c', out))
    {req : UpdateImagesStatusRequest} (sent : out.report = some req) (tagged : req.fullSnapshot = true) :
    let synced := c.syncFromRemoteState env.syncNow env.getSyncState
    req.images = (synced.delta.getImages.filter fun img =>
        decide (img.resourcesUpdatedAt < img.ownerChangedAt)).map (imageStatus env.reportNow) ∧
    ∃ pre env₀ post c₀, actions = pre ++ .pass env₀ :: post ∧ run w start pre = some c₀ ∧
      let synced₀ := c₀.syncFromRemoteState env₀.syncNow env₀.getSyncState
      let full : UpdateImagesStatusRequest :=
        { fullSnapshot := false, images := synced₀.delta.getImages.map (imageStatus env₀.reportNow) }
      synced₀.delta.getImages ≠ [] ∧
        (synced₀.updateImageStatuses env₀.reportNow env₀.updateImageStatus).2 = some full ∧
        env₀.updateImageStatus full = true := by
  dsimp only
  have reportSent := (scheduleScans_updateImageStatuses pass).2
  rw [sent, updateImageStatuses_report] at reportSent
  split at reportSent
  · cases reportSent
  cases Option.some.inj reportSent
  have flagged : (c.syncFromRemoteState env.syncNow env.getSyncState).fullSnapshotSent = true := tagged
  have changed : (c.syncFromRemoteState env.syncNow env.getSyncState).reportsImage =
      fun img => decide (img.resourcesUpdatedAt < img.ownerChangedAt) := by
    funext img
    simp [reportsImage, flagged]
  refine ⟨by rw [report, reported, changed], ?_⟩
  obtain ⟨pre, env₀, post, c₀, -, rfl, ran₀, ⟨unsent₀, nonempty, accepted⟩, -⟩ :=
    fullSnapshotSent_run w unsent ran (fullSnapshotSent_syncFromRemoteState env.getSyncState flagged)
  refine ⟨pre, env₀, post, c₀, rfl, ran₀, ?_⟩
  dsimp only
  generalize c₀.syncFromRemoteState env₀.syncNow env₀.getSyncState = s₀ at unsent₀ nonempty accepted ⊢
  rw [updateImageStatuses_report, if_neg nonempty, ← report_of_unsent unsent₀]
  exact ⟨fun empty => nonempty (by rw [reported_of_unsent unsent₀, empty]; rfl), rfl, accepted⟩

/-- A pod's image is reported in full by the first pass, at time 1, tagged as
not a full snapshot. At time 10 a second pod, its own owner, runs the image:
the owner set changes at 10, and the pass at time 20 reports the image again,
tagged as a full snapshot. -/
theorem full_tag_after_untagged_full_report_new_owner :
    let w : Wiring := ⟨⟨modeRemote, ⟨1, 0⟩, ⟨1, 0⟩, 2⟩, goInsertionSort, id, fun _ => true⟩
    let n1 : Kube.Node := ⟨"n1", "amd64", "linux", ⟨4, 0⟩, ⟨8, 0⟩⟩
    let pod (uid : String) : Kube.Pod :=
      { uid, ownerReferences := [], nodeName := "n1",
        containers := [⟨"c", "nginx", Dec.zero, Dec.zero⟩], initContainers := [],
        phase := .running, containerStatuses := [⟨"c", "sha", "containerd://c1"⟩],
        initContainerStatuses := [] }
    let env (now : Time) : PassEnv :=
      { syncNow := now, getSyncState := fun _ => .ok none, reportNow := now,
        updateImageStatus := fun _ => true, selectNow := now,
        scan := fun _ => ⟨false, some ⟨"kvisor", []⟩, fun _ => .ok (), now⟩, cancelled := false }
    let start := Controller.new []
    let actions : List Action :=
      [.delta .add (.node n1), .delta .add (.pod (pod "p1")), .pass (env 1), .clock 10,
        .delta .add (.pod (pod "p2"))]
    let c := (run w start actions).getD start
    start.fullSnapshotSent = false ∧ run w start actions = some c ∧
    ∃ c' out req, scheduleScans w (env 20) c = some (c', out) ∧ out.report = some req ∧
      req.fullSnapshot = true ∧ req.images.map (·.resourceIDs) = [["p2", "p1"]] ∧
      let synced := c.syncFromRemoteState (env 20).syncNow (env 20).getSyncState
      req.images = (synced.delta.getImages.filter fun img =>
          decide (img.resourcesUpdatedAt < img.ownerChangedAt)).map (imageStatus (env 20).reportNow) ∧
      ∃ pre env₀ post c₀, actions = pre ++ .pass env₀ :: post ∧ run w start pre = some c₀ ∧
        let synced₀ := c₀.syncFromRemoteState env₀.syncNow env₀.getSyncState
        let full : UpdateImagesStatusRequest :=
          { fullSnapshot := false, images := synced₀.delta.getImages.map (imageStatus env₀.reportNow) }
        synced₀.delta.getImages ≠ [] ∧
          (synced₀.updateImageStatuses env₀.reportNow env₀.updateImageStatus).2 = some full ∧
          env₀.updateImageStatus full = true := by
  intro w n1 pod env start actions c
  have ran : run w start actions = some c :=
    (Option.getD_of_ne_none (x := run w start actions) (Option.isSome_iff_ne_none.1 (by decide)) start).symm
  have answer : ((scheduleScans w (env 20) c).bind fun r => r.2.report).map
      (fun req => (req.fullSnapshot, req.images.map (·.resourceIDs))) = some (true, [["p2", "p1"]]) := by
    decide
  obtain ⟨⟨c', out⟩, pass⟩ := Option.isSome_iff_exists.1 (by decide : (scheduleScans w (env 20) c).isSome = true)
  rw [pass, Option.some_bind, Option.map_eq_some'] at answer
  obtain ⟨req, sent, same⟩ := answer
  obtain ⟨tagged, owners⟩ := Prod.mk.inj same
  exact ⟨rfl, ran, c', out, req, pass, sent, tagged, owners,
    full_tag_after_untagged_full_report w rfl ran pass sent tagged⟩

end ImageScan.StatusReporting
