import ImageScan.RetryBackoff

/-! The rate limit of `syncFromRemoteState`. A pass asks the remote side about
the unscanned images it has not asked about for ten minutes, and when it gets
an answer stamps each of them with the time of the pass. No other write of the
delta state moves that stamp, and a pod upsert or a scan failure rewrites an
entry with the stamp it had; so, while an entry stays in the map, the remote
side is not asked about it again for ten minutes (`remote_sync_rate_limited`).
A remote image list replaces the whole map, and a delete can drop the entry:
either ends the limit, since the next entry under the key starts unstamped. -/
namespace ImageScan.RemoteSync

open Kube DeltaState DeltaLemmas DeltaOps RetryBackoff Controller

/-- The entry under `key` was last asked about at `t` or later. -/
def SyncedSince (key : String) (t : Time) (m : GoMap String Image) : Prop :=
  ∃ img, m.get? key = some img ∧ t ≤ img.lastRemoteSyncAt

variable {d : DeltaState} {key : String} {t : Time} {m : GoMap String Image}

/-- A write under `key` that keeps the entry's stamp or moves it forward keeps
the entry synced since `t`. -/
theorem syncedSince_insert {k : String} {v : Image} (since : SyncedSince key t m)
    (kept : k = key → ∀ img, m.get? key = some img → img.lastRemoteSyncAt ≤ v.lastRemoteSyncAt) :
    SyncedSince key t (m.insert k v) := by
  obtain ⟨img, found, le⟩ := since
  by_cases same : k = key
  · subst same
    exact ⟨v, by rw [GoMap.get?_insert, if_pos rfl], Int.le_trans le (kept rfl img found)⟩
  · exact ⟨img, by rw [GoMap.get?_insert, if_neg (Ne.symm same)]; exact found, le⟩

/-- Rewriting the entry filed under `k` with a stamp no earlier keeps the entry
under `key` synced since `t`. -/
theorem syncedSince_rewrite {k : String} {img v : Image} (since : SyncedSince key t m)
    (filed : m.get? k = some img) (stamp : img.lastRemoteSyncAt ≤ v.lastRemoteSyncAt) :
    SyncedSince key t (m.insert k v) :=
  syncedSince_insert since fun same img' found => by
    cases same
    cases found.symm.trans filed
    exact stamp

/-- The image a container writes has the stamp of the entry it rewrites. -/
theorem upsertedImage_lastRemoteSyncAt (d : DeltaState) (pod : Kube.Pod) (owner : String) (cs : ContainerStatus)
    (cont : Container) :
    (d.upsertedImage pod owner cs cont).lastRemoteSyncAt =
      ((d.images.get? (cs.imageID ++ d.archOf pod.nodeName)).getD
        (newImage cs.imageID (d.archOf pod.nodeName))).lastRemoteSyncAt := by
  unfold upsertedImage Image.addNodePod Image.addOwnerPod
  dsimp only
  split <;> split <;> rfl

/-- Every write but a remote image list keeps an entry that it leaves in the
map synced since `t`: a restamping write only moves the stamp forward, and a
pod upsert or a scan failure keeps it. -/
theorem syncedSince_applyOp {op : DeltaOp} (keeps : op.recreates = false)
    (present : key ∈ (d.applyOp op).images.keys) (since : SyncedSince key t d.images) :
    SyncedSince key t (d.applyOp op).images := by
  rcases restamps_cases op with restamps | ⟨pod, rfl⟩ | ⟨images, rfl⟩ | ⟨i, err, now, rfl⟩
  · obtain ⟨img', found'⟩ := GoMap.mem_keys.1 present
    obtain ⟨img, found, kept⟩ := restamp_applyOp restamps found'
    obtain ⟨img₀, found₀, le⟩ := since
    cases found.symm.trans found₀
    exact ⟨img', found', Int.le_trans le kept.lastRemoteSyncAt⟩
  · rw [applyOp_pod_images]
    refine upsertImages_invariant pod (fun d' => SyncedSince key t d'.images) ?_ since
    intro d' owner cs cont _ _ since'
    rw [putImage_images]
    refine syncedSince_insert since' fun same img found => ?_
    rw [upsertedImage_lastRemoteSyncAt, same, found, Option.getD_some]
  · cases keeps
  · show SyncedSince key t (d.setImageScanError i err now).images
    unfold setImageScanError
    split
    · exact since
    · rename_i img filed
      dsimp only
      generalize img.retryBackoff.step = s
      obtain ⟨delay, backoff⟩ := s
      exact syncedSince_rewrite since filed (Int.le_refl _)

/-- Through writes the entry stays in, it stays synced since `t`. -/
theorem syncedSince_applyOps {ops : List DeltaOp} (stays : Stays key d ops) (since : SyncedSince key t d.images) :
    SyncedSince key t (d.applyOps ops).images := by
  induction ops generalizing d with
  | nil => exact since
  | cons op ops ih =>
    obtain ⟨-, keeps, rest⟩ := stays
    exact ih rest (syncedSince_applyOp keeps rest.present since)

theorem syncedSince_setImageScanned (s : ScannedImage) (since : SyncedSince key t d.images) :
    SyncedSince key t (d.setImageScanned s).images := by
  unfold setImageScanned
  split
  · rename_i img filed
    exact syncedSince_rewrite since filed (Int.le_refl _)
  · exact since

/-- An answered remote sync at `now` stamps every image it asked about with
`now`, and marking the images of the answer scanned keeps the stamps. -/
theorem syncFromRemoteState_syncedSince {c : Controller} {now : Time}
    {getSyncState : List String → Except GoError (Option SyncImages)} {resp : SyncImages} {img : Image}
    (found : c.delta.images.get? key = some img) (asked : notSynced now img = true)
    (answered : getSyncState ((c.delta.getImages.filter (notSynced now)).map (·.id)) = .ok (some resp)) :
    SyncedSince key now (c.syncFromRemoteState now getSyncState).delta.images := by
  have queried : (c.delta.getImages.filter (notSynced now)).length ≠ 0 :=
    List.length_pos.2 (List.ne_nil_of_mem (List.mem_filter.2 ⟨GoMap.mem_values.2 ⟨key, found⟩, asked⟩)) |>.ne'
  unfold syncFromRemoteState
  simp only [queried, if_false, answered]
  generalize resp.scannedImages = scanned
  induction scanned using List.reverseRecOn with
  | nil =>
    rw [List.foldl_nil]
    exact ⟨_, by rw [GoMap.get?_filterMap, found]; rfl, by simp [asked]⟩
  | append_singleton scanned s ih =>
    rw [List.foldl_append, List.foldl_cons, List.foldl_nil]
    exact syncedSince_setImageScanned s ih

/-- The remote side is asked about an image at most once in ten minutes. After
a remote sync at `now` asks about the entry under `key` and gets an answer,
then through any writes of the delta state (events, remote syncs, reports,
scan outcomes) while the entry stays in the map, no remote sync at a time up
to ten minutes after `now` asks about it again. -/
theorem remote_sync_rate_limited {c : Controller} {now : Time}
    {getSyncState : List String → Except GoError (Option SyncImages)} {resp : SyncImages} {img : Image}
    (found : c.delta.images.get? key = some img) (asked : notSynced now img = true)
    (answered : getSyncState ((c.delta.getImages.filter (notSynced now)).map (·.id)) = .ok (some resp))
    {ops : List DeltaOp} (stays : Stays key (c.syncFromRemoteState now getSyncState).delta ops)
    {later : Time} (soon : later ≤ now + 10 * minute) {img' : Image}
    (found' : ((c.syncFromRemoteState now getSyncState).delta.applyOps ops).images.get? key = some img') :
    notSynced later img' = false := by
  obtain ⟨img'', found'', stamped⟩ := syncedSince_applyOps stays (syncFromRemoteState_syncedSince found asked answered)
  cases found'.symm.trans found''
  have recent : ¬ img'.lastRemoteSyncAt < later - 10 * minute :=
    Int.not_lt.2 (Int.le_trans (Int.sub_right_le_of_le_add soon) stamped)
  simp [notSynced, recent]

/-- A pod puts an image on the map; a sync at minute 11 asks about it and gets
an answer that does not name it; after a report at minute 15, a sync at minute
21 does not ask about it. -/
theorem remote_sync_rate_limited_report_between :
    let pod : Kube.Pod :=
      { uid := "p1", ownerReferences := [], nodeName := "n1",
        containers := [⟨"c", "nginx", Dec.zero, Dec.zero⟩], initContainers := [],
        phase := .running, containerStatuses := [⟨"c", "sha", "containerd://c1"⟩],
        initContainerStatuses := [] }
    let c : Controller := ⟨(newDeltaState []).applyAll [.upsert (.pod pod)], false⟩
    let getSyncState : List String → Except GoError (Option SyncImages) := fun _ => .ok (some ⟨[], false⟩)
    let synced := c.syncFromRemoteState (11 * minute) getSyncState
    let ops : List DeltaOp := [.stampReported (fun _ => true) (15 * minute)]
    let img := (c.delta.images.get? "shaamd64").getD (newImage "" "")
    let img' := ((synced.delta.applyOps ops).images.get? "shaamd64").getD (newImage "" "")
    (c.delta.images.get? "shaamd64" = some img ∧ notSynced (11 * minute) img = true ∧
      getSyncState ((c.delta.getImages.filter (notSynced (11 * minute))).map (·.id)) = .ok (some ⟨[], false⟩) ∧
      Stays "shaamd64" synced.delta ops ∧ 21 * minute ≤ 11 * minute + 10 * minute ∧
      (synced.delta.applyOps ops).images.get? "shaamd64" = some img') ∧
    notSynced (21 * minute) img' = false := by
  intro pod c getSyncState synced ops img img'
  have found : c.delta.images.get? "shaamd64" = some img := rfl
  have asked : notSynced (11 * minute) img = true := rfl
  have answered : getSyncState ((c.delta.getImages.filter (notSynced (11 * minute))).map (·.id)) =
    .ok (some ⟨[], false⟩) := rfl
  have stays : Stays "shaamd64" synced.delta ops := by decide
  have soon : 21 * minute ≤ 11 * minute + 10 * minute := by decide
  have found' : (synced.delta.applyOps ops).images.get? "shaamd64" = some img' := rfl
  exact ⟨⟨found, asked, answered, stays, soon, found'⟩,
    remote_sync_rate_limited found asked answered stays soon found'⟩

end ImageScan.RemoteSync
