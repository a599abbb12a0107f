import ImageScan.KubeController
import ImageScan.Controller

/-! The kube event pipeline in front of the image-scan controller. The kube
`Controller` runs one informer per Kubernetes type; `handleEvent` files the
object in its caches and puts the event on a channel for every subscriber that
requires the type. `eventsHandler` gives each informer type its own channel and
goroutine per subscriber, which hands every event over at once, except pod
events: those it keeps in `podsEventsBuff` until the pods ticker fires, and then
hands over in order. The image-scan `Controller` requires pods and nodes; its
`OnAdd`, `OnUpdate` and `OnDelete` put the event on its delta queue, and `Run`
drains that queue alone until the initial delay is up, and then takes queued
deltas and scan ticks in whatever order they come. The pipeline does not move
the clock the delta handlers read: that is the controller's `Action.clock`.

For each informer type, what its goroutine has handed over, what it keeps back
and what its channel holds are the events its informer reported, in order
(`routing_run_accounts`), and every run of the whole pipeline leaves the
image-scan controller where `Controller.run` takes it on the deltas handed
over (`system_run_refines`). Nothing stays stuck: from any state, the
goroutines can be scheduled so that every reported pod and node event reaches
the controller (`system_run_delivers`). -/
namespace ImageScan

namespace Kube

/-- The types the kube `Controller` runs an informer for, one per entry of
`typeInformerMap`; `cronJobs` is `batchv1.CronJob` or `batchv1beta1.CronJob`,
whichever the cluster's version serves. -/
inductive InformerType
  | nodes | replicaSets | jobs | namespaces | services | deployments | daemonSets | statefulSets
  | clusterRoleBindings | roleBindings | clusterRoles | roles | networkPolicies | ingresses | pods
  | cronJobs
  deriving DecidableEq, Repr

/-- The `Kind` that `transformFunc` writes back onto each object through
`addObjectMeta`, since the client drops it. -/
def InformerType.kind : InformerType → String
  | .nodes => "Node"
  | .replicaSets => "ReplicaSet"
  | .jobs => "Job"
  | .namespaces => "Namespace"
  | .services => "Service"
  | .deployments => "Deployment"
  | .daemonSets => "DaemonSet"
  | .statefulSets => "StatefulSet"
  | .clusterRoleBindings => "ClusterRoleBinding"
  | .roleBindings => "RoleBinding"
  | .clusterRoles => "ClusterRole"
  | .roles => "Role"
  | .networkPolicies => "NetworkPolicy"
  | .ingresses => "Ingress"
  | .pods => "Pod"
  | .cronJobs => "CronJob"

/-- The informer types whose objects nothing modelled reads beyond their type. -/
inductive UnreadType
  | namespaces | services | daemonSets | statefulSets | clusterRoleBindings | roleBindings
  | clusterRoles | roles | networkPolicies | ingresses | cronJobs
  deriving DecidableEq, Repr

def UnreadType.informerType : UnreadType → InformerType
  | .namespaces => .namespaces
  | .services => .services
  | .daemonSets => .daemonSets
  | .statefulSets => .statefulSets
  | .clusterRoleBindings => .clusterRoleBindings
  | .roleBindings => .roleBindings
  | .clusterRoles => .clusterRoles
  | .roles => .roles
  | .networkPolicies => .networkPolicies
  | .ingresses => .ingresses
  | .cronJobs => .cronJobs

/-- A `kube.Object` as an informer hands it over: the kinds the caches and
the delta state read carry their fields. -/
inductive InformedObject
  | pod (v : Pod)
  | node (v : Node)
  | replicaSet (v : OwnedObject)
  | deployment (v : Deployment)
  | job (v : OwnedObject)
  | other (t : UnreadType)
  deriving DecidableEq, Repr

namespace InformedObject

/-- The informer that reports the object. -/
def typ : InformedObject → InformerType
  | .pod _ => .pods
  | .node _ => .nodes
  | .replicaSet _ => .replicaSets
  | .deployment _ => .deployments
  | .job _ => .jobs
  | .other t => t.informerType

/-- `GetObjectKind().GroupVersionKind().Kind`, as `addObjectMeta` set it. -/
def kind (o : InformedObject) : String := o.typ.kind

/-- The object as the type switches of `deltaState.upsert` and `delete` see it. -/
def toObject : InformedObject → Object
  | .pod v => .pod v
  | .node v => .node v
  | .replicaSet v => .replicaSet v
  | .job v => .job v
  | .deployment _ | .other _ => .other

/-- The object as `handleDeltaUpsert` and `handleDeltaDelete` see it. -/
def toCached : InformedObject → CachedObject
  | .replicaSet v => .replicaSet v
  | .deployment v => .deployment v
  | .job v => .job v
  | .pod _ | .node _ | .other _ => .other

end InformedObject

/-- `event`: what a subscriber's channel carries. -/
structure ObjectEvent where
  eventType : Event
  obj : InformedObject
  deriving DecidableEq, Repr

/-- The goroutine `eventsHandler` starts for one subscriber and one informer
type, as its state: the events in its channel, and `podsEventsBuff`. A receive
from an empty channel blocks, which leaves the state as it is. -/
structure SubChannel where
  events : List ObjectEvent
  podsEventsBuff : List ObjectEvent
  deriving DecidableEq, Repr

namespace SubChannel

/-- `sub.events <- event`, in `handleEvent`. -/
def send (ch : SubChannel) (ev : ObjectEvent) : SubChannel := { ch with events := ch.events ++ [ev] }

/-- `case ev := <-sub.events`: a pod event is kept back, any other handed to
the subscriber; with the events handed over. -/
def receive (ch : SubChannel) : SubChannel × List ObjectEvent :=
  match ch.events with
  | [] => (ch, [])
  | ev :: rest =>
    if ev.obj.kind = "Pod" then (⟨rest, ch.podsEventsBuff ++ [ev]⟩, [])
    else (⟨rest, ch.podsEventsBuff⟩, [ev])

/-- `case <-podsBuffSyncTicker.C`: every kept-back pod event, in order. -/
def tick (ch : SubChannel) : SubChannel × List ObjectEvent := (⟨ch.events, []⟩, ch.podsEventsBuff)

/-- The events the goroutine still holds, in the order it hands them over. -/
def queued (ch : SubChannel) : List ObjectEvent := ch.podsEventsBuff ++ ch.events

end SubChannel

/-- An `ObjectSubscriber`'s view of the kube `Controller`: the caches, and for
each informer type the goroutine that serves the subscriber. -/
structure Routing where
  caches : KubeController
  channels : InformerType → SubChannel

/-- One step of the pipeline up to the subscriber. -/
inductive RoutingStep
  /-- The informer of the object's type calls `handleEvent`. -/
  | inform (ev : ObjectEvent)
  /-- The goroutine of an informer type takes the next event from its channel. -/
  | receive (typ : InformerType)
  /-- The pods ticker of an informer type's goroutine fires. -/
  | tick (typ : InformerType)

namespace Routing

/-- `NewController`: empty caches, and no event in flight. -/
def init : Routing := ⟨KubeController.new, fun _ => ⟨[], []⟩⟩

/-- A goroutine's step, written back into its slot. -/
def runChannel (r : Routing) (typ : InformerType) (result : SubChannel × List ObjectEvent) :
    Routing × List ObjectEvent :=
  ({ r with channels := Function.update r.channels typ result.1 }, result.2)

/-- One step for a subscriber requiring the types `required`, with the events
it hands to the subscriber. -/
def step (required : List InformerType) (r : Routing) : RoutingStep → Routing × List ObjectEvent
  | .inform ev =>
    let caches := r.caches.handleEvent ev.eventType ev.obj.toCached
    if ev.obj.typ ∈ required then
      ({ caches, channels := Function.update r.channels ev.obj.typ ((r.channels ev.obj.typ).send ev) }, [])
    else ({ r with caches }, [])
  | .receive typ => r.runChannel typ (r.channels typ).receive
  | .tick typ => r.runChannel typ (r.channels typ).tick

/-- A run of steps, with every event handed over, in order. -/
def run (required : List InformerType) (r : Routing) : List RoutingStep → Routing × List ObjectEvent
  | [] => (r, [])
  | st :: steps =>
    let (r₁, out₁) := r.step required st
    let (r₂, out₂) := r₁.run required steps
    (r₂, out₁ ++ out₂)

end Routing

/-- The event an informer reports in a step, if any. -/
def RoutingStep.informed : RoutingStep → List ObjectEvent
  | .inform ev => [ev]
  | _ => []

end Kube

open Kube

/-- The image-scan `Controller` as the pipeline drives it: its delta queue, its
state, and whether `waitInitialDeltaQueueSync` has returned. -/
structure ScanSide where
  queue : List (Event × InformedObject)
  controller : Controller
  synced : Bool

namespace ScanSide

/-- The image-scan controller's `RequiredInformers`. -/
def requiredInformers : List InformerType := [.pods, .nodes]

/-- `subChannel.handleEvent` calling `OnAdd`, `OnUpdate` or `OnDelete`: each
puts the event on the delta queue. -/
def handleEvent (side : ScanSide) (ev : ObjectEvent) : ScanSide :=
  match ev.eventType with
  | .add => { side with queue := side.queue ++ [(.add, ev.obj)] }
  | .update => { side with queue := side.queue ++ [(.update, ev.obj)] }
  | .delete => { side with queue := side.queue ++ [(.delete, ev.obj)] }

end ScanSide

/-- A turn of the `select` of `waitInitialDeltaQueueSync` or of `Run`. -/
inductive RunStep
  /-- `case deltaItem := <-s.delta.queue`. -/
  | delta
  /-- `case <-waitTimeout`: the initial delay is up. -/
  | initialDelay
  /-- `case <-scanTicker.C`, which exists once the initial delay is up. -/
  | scan (env : PassEnv)

namespace ScanSide

/-- One turn; a pass that panics is `none`. -/
def step (w : Wiring) (side : ScanSide) : RunStep → Option ScanSide
  | .delta =>
    match side.queue with
    | [] => some side
    | (event, o) :: rest =>
      some { side with queue := rest, controller := side.controller.handleDelta event o.toObject }
  | .initialDelay => some { side with synced := true }
  | .scan env =>
    if side.synced then (side.controller.scheduleScans w env).map fun r => { side with controller := r.1 }
    else some side

end ScanSide

/-- The pipeline with the image-scan controller as its subscriber. -/
structure System where
  routing : Routing
  side : ScanSide

/-- A step of any of the pipeline's goroutines. -/
inductive SystemStep
  | routing (st : RoutingStep)
  | run (st : RunStep)

namespace System

/-- The pipeline as `NewController` and the image-scan `NewController` leave it,
with the delta state seeded from the remote side. -/
def init (seed : List ScannedImage) : System := ⟨Routing.init, ⟨[], Controller.new seed, false⟩⟩

def step (w : Wiring) (s : System) : SystemStep → Option System
  | .routing st =>
    let result := s.routing.step ScanSide.requiredInformers st
    some ⟨result.1, result.2.foldl ScanSide.handleEvent s.side⟩
  | .run st => (s.side.step w st).map fun side => { s with side }

def run (w : Wiring) (s : System) : List SystemStep → Option System
  | [] => some s
  | st :: steps => (s.step w st).bind fun s => run w s steps

end System

/-- The events the informers report in a run of the pipeline. -/
def SystemStep.informed : SystemStep → List ObjectEvent
  | .routing st => st.informed
  | .run _ => []

/-- The deltas a run of the controller applies, in order. -/
def Action.deltas : List Action → List (Event × Object)
  | [] => []
  | .delta event o :: actions => (event, o) :: deltas actions
  | _ :: actions => deltas actions

namespace EventPipeline

open SubChannel

/-! ## One goroutine -/

/-- The goroutine of informer type `typ` holds only events of that type, and
keeps back only pod events. -/
def Holds (typ : InformerType) (ch : SubChannel) : Prop :=
  (∀ ev ∈ ch.podsEventsBuff, ev.obj.typ = typ ∧ ev.obj.kind = "Pod") ∧ ∀ ev ∈ ch.events, ev.obj.typ = typ

theorem kind_eq_pod {o : InformedObject} : o.kind = "Pod" ↔ o.typ = .pods := by
  unfold InformedObject.kind
  cases o.typ <;> decide

theorem queued_send (ch : SubChannel) (ev : ObjectEvent) : (ch.send ev).queued = ch.queued ++ [ev] :=
  (List.append_assoc ..).symm

theorem holds_send {typ : InformerType} {ch : SubChannel} {ev : ObjectEvent} (holds : Holds typ ch)
    (same : ev.obj.typ = typ) : Holds typ (ch.send ev) :=
  ⟨holds.1, List.forall_mem_append.2 ⟨holds.2, List.forall_mem_singleton.2 same⟩⟩

/-- A receive hands over events of the goroutine's type, and what it hands
over and what it still holds are what it held, in order: a non-pod event never
overtakes a kept-back pod, since a goroutine keeping pods back is the pods
goroutine. -/
theorem receive_queued {typ : InformerType} {ch : SubChannel} (holds : Holds typ ch) :
    ch.receive.2 ++ ch.receive.1.queued = ch.queued ∧ Holds typ ch.receive.1 ∧
      ∀ ev ∈ ch.receive.2, ev.obj.typ = typ := by
  obtain ⟨events, kept⟩ := ch
  obtain ⟨pods, typed⟩ := holds
  cases events with
  | nil => exact ⟨rfl, ⟨pods, typed⟩, List.forall_mem_nil _⟩
  | cons ev rest =>
    obtain ⟨evTyp, restTyp⟩ := List.forall_mem_cons.1 typed
    by_cases pod : ev.obj.kind = "Pod"
    · simp only [receive, pod, if_true]
      exact ⟨by simp [queued], ⟨List.forall_mem_append.2 ⟨pods, List.forall_mem_singleton.2 ⟨evTyp, pod⟩⟩, restTyp⟩,
        List.forall_mem_nil _⟩
    · have none : kept = [] := List.eq_nil_iff_forall_not_mem.2 fun e mem =>
        pod (kind_eq_pod.2 (evTyp.trans ((pods e mem).1.symm.trans (kind_eq_pod.1 (pods e mem).2))))
      subst none
      simp only [receive, pod, if_false]
      exact ⟨rfl, ⟨List.forall_mem_nil _, restTyp⟩, by simpa using evTyp⟩

/-- A tick hands over the kept-back pods, in order. -/
theorem tick_queued {typ : InformerType} {ch : SubChannel} (holds : Holds typ ch) :
    ch.tick.2 ++ ch.tick.1.queued = ch.queued ∧ Holds typ ch.tick.1 ∧
      ∀ ev ∈ ch.tick.2, ev.obj.typ = typ :=
  ⟨rfl, ⟨List.forall_mem_nil _, holds.2⟩, fun ev mem => (holds.1 ev mem).1⟩

/-- Only a tick hands a pod event over. -/
theorem receive_no_pod (ch : SubChannel) : ∀ ev ∈ ch.receive.2, ev.obj.kind ≠ "Pod" := by
  unfold receive
  split
  · exact List.forall_mem_nil _
  · split
    · exact List.forall_mem_nil _
    · rename_i other
      simpa using other

/-! ## The routing of events to one subscriber -/

/-- What the routing has done with the events the informers reported: each
goroutine holds only its own type, and for each type, what was handed over,
then what is still held, are the reported events of that type, in order, when
the subscriber requires it, and nothing otherwise. -/
def Accounts (required : List InformerType) (r : Routing) (handed informed : List ObjectEvent) : Prop :=
  ∀ typ, Holds typ (r.channels typ) ∧
    handed.filter (·.obj.typ = typ) ++ (r.channels typ).queued =
      if typ ∈ required then informed.filter (·.obj.typ = typ) else []

theorem accounts_init (required : List InformerType) : Accounts required Routing.init [] [] := by
  intro typ
  refine ⟨⟨List.forall_mem_nil _, List.forall_mem_nil _⟩, ?_⟩
  split <;> rfl

/-- A goroutine's step keeps the accounts, with its events handed over. -/
theorem accounts_runChannel {required : List InformerType} {r : Routing} {handed informed : List ObjectEvent}
    {typ : InformerType} {result : SubChannel × List ObjectEvent}
    (accounts : Accounts required r handed informed)
    (kept : result.2 ++ result.1.queued = (r.channels typ).queued ∧ Holds typ result.1 ∧
      ∀ ev ∈ result.2, ev.obj.typ = typ) :
    Accounts required (r.runChannel typ result).1 (handed ++ (r.runChannel typ result).2) informed := by
  obtain ⟨order, holds, typed⟩ := kept
  intro typ'
  by_cases here : typ' = typ
  · subst here
    have all : result.2.filter (·.obj.typ = typ') = result.2 := List.filter_eq_self.2 (by simpa using typed)
    refine ⟨by simpa [Routing.runChannel] using holds, ?_⟩
    simp only [Routing.runChannel, Function.update_same, List.filter_append, all, List.append_assoc, order]
    exact (accounts typ').2
  · have none : result.2.filter (·.obj.typ = typ') = [] :=
      List.filter_eq_nil_iff.2 fun ev mem => by simpa [typed ev mem] using Ne.symm here
    simpa [Routing.runChannel, here, List.filter_append, none] using accounts typ'

/-- Every step keeps the accounts. -/
theorem accounts_step {required : List InformerType} {r : Routing} {handed informed : List ObjectEvent}
    (st : RoutingStep) (accounts : Accounts required r handed informed) :
    Accounts required (r.step required st).1 (handed ++ (r.step required st).2) (informed ++ st.informed) := by
  cases st with
  | inform ev =>
    intro typ
    by_cases here : typ = ev.obj.typ
    · subst here
      by_cases wanted : ev.obj.typ ∈ required
      · refine ⟨by simpa [Routing.step, wanted] using holds_send (accounts _).1 rfl, ?_⟩
        simp only [Routing.step, wanted, if_true, List.append_nil, Function.update_same, queued_send,
          RoutingStep.informed, List.filter_append]
        rw [← List.append_assoc, (accounts _).2, if_pos wanted]
        simp
      · simpa [Routing.step, wanted, RoutingStep.informed] using accounts ev.obj.typ
    · have other : ev.obj.typ ≠ typ := Ne.symm here
      by_cases wanted : ev.obj.typ ∈ required <;>
        simpa [Routing.step, wanted, here, other, RoutingStep.informed] using accounts typ
  | receive typ =>
    simpa [RoutingStep.informed] using
      accounts_runChannel accounts (receive_queued (accounts typ).1)
  | tick typ =>
    simpa [RoutingStep.informed] using
      accounts_runChannel accounts (tick_queued (accounts typ).1)

theorem accounts_run {required : List InformerType} {r : Routing} {handed informed : List ObjectEvent}
    (steps : List RoutingStep) (accounts : Accounts required r handed informed) :
    Accounts required (r.run required steps).1 (handed ++ (r.run required steps).2)
      (informed ++ steps.flatMap RoutingStep.informed) := by
  induction steps generalizing r handed informed with
  | nil => simpa [Routing.run] using accounts
  | cons st steps ih => simpa [Routing.run, List.append_assoc] using ih (accounts_step st accounts)

/-- For every subscriber and every interleaving of informer events, channel
receives and pod ticks from `NewController`: for each informer type, the
events handed to the subscriber, then those its goroutine still keeps back or
has yet to receive, are exactly the events the informer reported, in order,
when the subscriber requires the type, and there are none otherwise. No event
is lost, duplicated or reordered within its type, and pod events reach the
subscriber only at ticks (`receive_no_pod`). -/
theorem routing_run_accounts (required : List InformerType) (steps : List RoutingStep) (typ : InformerType) :
    ((Routing.init.run required steps).2.filter (·.obj.typ = typ)) ++
        ((Routing.init.run required steps).1.channels typ).queued =
      if typ ∈ required then (steps.flatMap RoutingStep.informed).filter (·.obj.typ = typ) else [] :=
  by simpa using (accounts_run steps (accounts_init required) typ).2

/-! ## The image-scan controller behind the pipeline -/

theorem handleEvent_queue (side : ScanSide) (ev : ObjectEvent) :
    side.handleEvent ev = { side with queue := side.queue ++ [(ev.eventType, ev.obj)] } := by
  obtain ⟨eventType, obj⟩ := ev
  cases eventType <;> rfl

theorem foldl_handleEvent (side : ScanSide) (out : List ObjectEvent) :
    out.foldl ScanSide.handleEvent side =
      { side with queue := side.queue ++ out.map fun ev => (ev.eventType, ev.obj) } := by
  induction out generalizing side with
  | nil => simp
  | cons ev out ih => simp [handleEvent_queue, ih]

theorem deltas_append (actions more : List Action) :
    Action.deltas (actions ++ more) = Action.deltas actions ++ Action.deltas more := by
  induction actions with
  | nil => rfl
  | cons a actions ih => cases a <;> simp [Action.deltas, ih]

/-- The image-scan side is where `Controller.run` takes the seeded controller
on the deltas `Run` has taken off the queue, and on nothing else until the
initial delay is up; those deltas and the queue are the events handed over, in
order. -/
def Refines (w : Wiring) (seed : List ScannedImage) (side : ScanSide) (handed : List ObjectEvent) : Prop :=
  ∃ applied actions, Controller.run w (Controller.new seed) actions = some side.controller ∧
    Action.deltas actions = applied.map (fun d => (d.1, d.2.toObject)) ∧
    (side.synced = false → actions = applied.map fun d => .delta d.1 d.2.toObject) ∧
    applied ++ side.queue = handed.map fun ev => (ev.eventType, ev.obj)

theorem refines_init (w : Wiring) (seed : List ScannedImage) : Refines w seed (System.init seed).side [] :=
  ⟨[], [], rfl, rfl, fun _ => rfl, rfl⟩

/-- Every turn of `Run` that does not panic keeps the refinement: a delta
taken off the queue is a delta action, a pass a pass action. -/
theorem refines_step {w : Wiring} {seed : List ScannedImage} {side side' : ScanSide}
    {handed : List ObjectEvent} (st : RunStep) (refines : Refines w seed side handed)
    (stepped : side.step w st = some side') : Refines w seed side' handed := by
  cases st with
  | delta =>
    obtain ⟨queue, controller, synced⟩ := side
    cases queue with
    | nil => cases stepped; exact refines
    | cons d rest =>
      obtain ⟨event, o⟩ := d
      obtain ⟨applied, actions, ran, deltas, early, order⟩ := refines
      cases stepped
      refine ⟨applied ++ [(event, o)], actions ++ [.delta event o.toObject], ?_, ?_, ?_, ?_⟩
      · simp [Controller.run_snoc, ran, Controller.step]
      · simp [deltas_append, deltas, Action.deltas]
      · exact fun unsynced => by simp [early unsynced]
      · simpa using order
  | initialDelay =>
    cases stepped
    obtain ⟨applied, actions, ran, deltas, -, order⟩ := refines
    exact ⟨applied, actions, ran, deltas, nofun, order⟩
  | scan env =>
    simp only [ScanSide.step] at stepped
    split at stepped
    · rename_i synced
      obtain ⟨⟨c', out⟩, pass, same⟩ := Option.map_eq_some'.1 stepped
      cases same
      obtain ⟨applied, actions, ran, deltas, -, order⟩ := refines
      refine ⟨applied, actions ++ [.pass env], ?_, by simpa [deltas_append, Action.deltas] using deltas,
        fun unsynced => absurd synced (by simpa using unsynced), order⟩
      rw [Controller.run_snoc, ran, Option.some_bind]
      exact Controller.step_pass_eq_some.2 ⟨out, pass⟩
    · cases stepped; exact refines

/-- Every step of the pipeline keeps the accounts of the routing and the
refinement of the image-scan side, with the events the step hands over. -/
theorem system_step {w : Wiring} {seed : List ScannedImage} {s s' : System} {handed informed : List ObjectEvent}
    (st : SystemStep) (accounts : Accounts ScanSide.requiredInformers s.routing handed informed)
    (refines : Refines w seed s.side handed) (stepped : s.step w st = some s') :
    ∃ handed', Accounts ScanSide.requiredInformers s'.routing handed' (informed ++ st.informed) ∧
      Refines w seed s'.side handed' := by
  cases st with
  | routing st =>
    cases stepped
    obtain ⟨applied, actions, ran, deltas, early, order⟩ := refines
    refine ⟨_, accounts_step st accounts, applied, actions, by simpa [foldl_handleEvent] using ran, deltas,
      by simpa [foldl_handleEvent] using early, ?_⟩
    simp [foldl_handleEvent, ← List.append_assoc, order]
  | run st =>
    obtain ⟨side', sideStepped, same⟩ := Option.map_eq_some'.1 stepped
    cases same
    exact ⟨handed, by simpa [SystemStep.informed] using accounts, refines_step st refines sideStepped⟩

theorem system_run {w : Wiring} {seed : List ScannedImage} {s s' : System} {handed informed : List ObjectEvent}
    (steps : List SystemStep) (accounts : Accounts ScanSide.requiredInformers s.routing handed informed)
    (refines : Refines w seed s.side handed) (ran : s.run w steps = some s') :
    ∃ handed', Accounts ScanSide.requiredInformers s'.routing handed'
      (informed ++ steps.flatMap SystemStep.informed) ∧ Refines w seed s'.side handed' := by
  induction steps generalizing s handed informed with
  | nil =>
    cases ran
    exact ⟨handed, by simpa using accounts, refines⟩
  | cons st steps ih =>
    obtain ⟨s₁, stepped, ran⟩ := Option.bind_eq_some.1 ran
    obtain ⟨handed₁, accounts₁, refines₁⟩ := system_step st accounts refines stepped
    simpa [List.append_assoc] using ih accounts₁ refines₁ ran

/-- Every run of the pipeline with the image-scan controller as subscriber,
whatever the interleaving of informer events, goroutine receives and ticks,
queue turns, the initial delay and scan passes, leaves the controller where
`Controller.run` takes the seeded controller on a run whose deltas are the
events taken off the delta queue, in order, and which until the initial delay
is up is those deltas alone; those and the queue are the events the goroutines
handed over, and these, for each informer type, followed by what its goroutine
still holds, are the events its informer reported, in order, for pods and
nodes, and none for any other type. -/
theorem system_run_refines (w : Wiring) (seed : List ScannedImage) {steps : List SystemStep} {s : System}
    (ran : (System.init seed).run w steps = some s) :
    ∃ (handed : List ObjectEvent) (applied : List (Event × InformedObject)) (actions : List Action),
      Controller.run w (Controller.new seed) actions = some s.side.controller ∧
      Action.deltas actions = applied.map (fun d => (d.1, d.2.toObject)) ∧
      (s.side.synced = false → actions = applied.map fun d => .delta d.1 d.2.toObject) ∧
      applied ++ s.side.queue = handed.map (fun ev => (ev.eventType, ev.obj)) ∧
      ∀ typ, handed.filter (·.obj.typ = typ) ++ (s.routing.channels typ).queued =
        if typ ∈ ScanSide.requiredInformers then (steps.flatMap SystemStep.informed).filter (·.obj.typ = typ)
        else [] := by
  obtain ⟨handed, accounts, applied, actions, run, deltas, early, order⟩ :=
    system_run steps (accounts_init _) (refines_init w seed) ran
  exact ⟨handed, applied, actions, run, deltas, early, order, fun typ => by simpa using (accounts typ).2⟩

/-- A pod added to the cluster waits in the pods goroutine until its ticker
fires, and the controller applies it once the delta queue is drained. -/
theorem system_run_refines_pod_add :
    let w : Wiring := ⟨⟨modeRemote, ⟨1, 0⟩, ⟨1, 0⟩, 3⟩, goInsertionSort, id, fun _ => true⟩
    let pod : Kube.Pod :=
      { uid := "p1", ownerReferences := [], nodeName := "n1",
        containers := [⟨"c", "nginx", Dec.zero, Dec.zero⟩], initContainers := [],
        phase := .running, containerStatuses := [⟨"c", "sha", "containerd://c1"⟩],
        initContainerStatuses := [] }
    let steps : List SystemStep :=
      [.routing (.inform ⟨.add, .pod pod⟩), .routing (.receive .pods), .routing (.tick .pods), .run .delta]
    let s := ((System.init []).run w steps).getD (System.init [])
    (System.init []).run w steps = some s ∧
    ∃ (handed : List ObjectEvent) (applied : List (Event × InformedObject)) (actions : List Action),
      Controller.run w (Controller.new []) actions = some s.side.controller ∧
      Action.deltas actions = applied.map (fun d => (d.1, d.2.toObject)) ∧
      (s.side.synced = false → actions = applied.map fun d => .delta d.1 d.2.toObject) ∧
      applied ++ s.side.queue = handed.map (fun ev => (ev.eventType, ev.obj)) ∧
      ∀ typ, handed.filter (·.obj.typ = typ) ++ (s.routing.channels typ).queued =
        if typ ∈ ScanSide.requiredInformers then (steps.flatMap SystemStep.informed).filter (·.obj.typ = typ)
        else [] := by
  intro w pod steps s
  have ran : (System.init []).run w steps = some s := rfl
  exact ⟨ran, system_run_refines w [] ran⟩

/-! ## Draining the pipeline -/

theorem run_cons (required : List InformerType) (r : Routing) (st : RoutingStep) (steps : List RoutingStep) :
    r.run required (st :: steps) =
      (((r.step required st).1.run required steps).1,
        (r.step required st).2 ++ ((r.step required st).1.run required steps).2) :=
  rfl

theorem run_append (required : List InformerType) (r : Routing) (steps more : List RoutingStep) :
    r.run required (steps ++ more) =
      (((r.run required steps).1.run required more).1,
        (r.run required steps).2 ++ ((r.run required steps).1.run required more).2) := by
  induction steps generalizing r with
  | nil => rfl
  | cons st steps ih => simp [run_cons, ih]

/-- A goroutine can be emptied: receiving every event of its channel and then
letting its ticker fire leaves it holding nothing, with no informer reporting
and no other goroutine moving. -/
theorem drain_channel (required : List InformerType) (r : Routing) (typ : InformerType) :
    ∃ steps : List RoutingStep, steps.flatMap RoutingStep.informed = [] ∧
      ((r.run required steps).1.channels typ).queued = [] ∧
      ∀ typ', typ' ≠ typ → (r.run required steps).1.channels typ' = r.channels typ' := by
  generalize waiting : (r.channels typ).events = events
  induction events generalizing r with
  | nil =>
    refine ⟨[.tick typ], rfl, ?_, fun typ' other => ?_⟩
    · simp [run_cons, Routing.run, Routing.step, Routing.runChannel, tick, queued, waiting]
    · simp [run_cons, Routing.run, Routing.step, Routing.runChannel, other]
  | cons ev rest ih =>
    have popped : ((r.step required (.receive typ)).1.channels typ).events = rest := by
      simp only [Routing.step, Routing.runChannel, Function.update_same, receive, waiting]
      split <;> rfl
    obtain ⟨steps, quiet, empty, others⟩ := ih _ popped
    refine ⟨.receive typ :: steps, by simpa [RoutingStep.informed] using quiet, by simpa [run_cons] using empty,
      fun typ' other => ?_⟩
    rw [run_cons, others typ' other]
    simp [Routing.step, Routing.runChannel, other]

theorem system_run_append (w : Wiring) (s : System) (steps more : List SystemStep) :
    s.run w (steps ++ more) = (s.run w steps).bind fun s => s.run w more := by
  induction steps generalizing s with
  | nil => rfl
  | cons st steps ih => simp only [List.cons_append, System.run, Option.bind_assoc, ← ih]; rfl

/-- Routing steps never stop the pipeline: they hand their events to the
image-scan side. -/
theorem system_run_routing (w : Wiring) (s : System) (steps : List RoutingStep) :
    s.run w (steps.map .routing) =
      some ⟨(s.routing.run ScanSide.requiredInformers steps).1,
        (s.routing.run ScanSide.requiredInformers steps).2.foldl ScanSide.handleEvent s.side⟩ := by
  induction steps generalizing s with
  | nil => rfl
  | cons st steps ih =>
    simp only [List.map_cons, System.run, System.step, Option.some_bind, ih, run_cons, List.foldl_append]

/-- Taking every delta off the queue never stops the pipeline, and empties
the queue. -/
theorem drain_queue (w : Wiring) (s : System) :
    ∃ (deltas : List SystemStep) (s' : System), deltas.flatMap SystemStep.informed = [] ∧
      s.run w deltas = some s' ∧ s'.side.queue = [] ∧ s'.routing = s.routing := by
  obtain ⟨routing, queue, controller, synced⟩ := s
  induction queue generalizing controller with
  | nil => exact ⟨[], _, rfl, rfl, rfl, rfl⟩
  | cons d rest ih =>
    obtain ⟨event, o⟩ := d
    obtain ⟨deltas, s', quiet, ran, empty, same⟩ := ih (controller.handleDelta event o.toObject)
    exact ⟨.run .delta :: deltas, s', by simpa [SystemStep.informed] using quiet, ran, empty, same⟩

/-- The goroutines of both types the image-scan controller requires can be
emptied. -/
theorem drain_required (r : Routing) :
    ∃ steps : List RoutingStep, steps.flatMap RoutingStep.informed = [] ∧
      ∀ typ ∈ ScanSide.requiredInformers, ((r.run ScanSide.requiredInformers steps).1.channels typ).queued = [] := by
  obtain ⟨podSteps, podQuiet, podsEmpty, -⟩ := drain_channel ScanSide.requiredInformers r .pods
  obtain ⟨nodeSteps, nodeQuiet, nodesEmpty, nodeOthers⟩ :=
    drain_channel ScanSide.requiredInformers (r.run ScanSide.requiredInformers podSteps).1 .nodes
  refine ⟨podSteps ++ nodeSteps, by rw [List.flatMap_append, podQuiet, nodeQuiet]; rfl, fun typ wanted => ?_⟩
  rw [run_append]
  rcases List.mem_cons.1 wanted with rfl | wanted
  · rw [nodeOthers .pods (by decide)]
    exact podsEmpty
  · rw [List.mem_singleton.1 wanted]
    exact nodesEmpty

/-- The whole pipeline can be emptied, with no informer reporting anything. -/
theorem drain_system (w : Wiring) (s : System) :
    ∃ (more : List SystemStep) (s' : System), s.run w more = some s' ∧
      more.flatMap SystemStep.informed = [] ∧
      (∀ typ ∈ ScanSide.requiredInformers, (s'.routing.channels typ).queued = []) ∧ s'.side.queue = [] := by
  obtain ⟨routed, routedQuiet, held⟩ := drain_required s.routing
  obtain ⟨deltaSteps, s', deltaQuiet, drained, queueEmpty, sameRouting⟩ := drain_queue w
    ⟨(s.routing.run ScanSide.requiredInformers routed).1,
      (s.routing.run ScanSide.requiredInformers routed).2.foldl ScanSide.handleEvent s.side⟩
  refine ⟨routed.map .routing ++ deltaSteps, s', ?_, ?_, fun typ wanted => sameRouting ▸ held typ wanted,
    queueEmpty⟩
  · rw [system_run_append, system_run_routing, Option.some_bind, drained]
  · rw [List.flatMap_append, deltaQuiet, List.append_nil, List.flatMap_map]
    exact routedQuiet

/-- Every event the informers report for pods and nodes reaches the image-scan
controller, and nothing else does. From any state a run of the pipeline
reaches, its goroutines can be scheduled, with no informer reporting anything
more, so that every event still held is handed over and taken off the delta
queue; the controller is then where `Controller.run` takes the seeded
controller on deltas which, for each informer type, are exactly the events its
informer reported, in order, for pods and nodes, and none for any other type. -/
theorem system_run_delivers (w : Wiring) (seed : List ScannedImage) {steps : List SystemStep} {s : System}
    (ran : (System.init seed).run w steps = some s) :
    ∃ (more : List SystemStep) (s' : System) (applied : List (Event × InformedObject)) (actions : List Action),
      s.run w more = some s' ∧ more.flatMap SystemStep.informed = [] ∧
      Controller.run w (Controller.new seed) actions = some s'.side.controller ∧
      Action.deltas actions = applied.map (fun d => (d.1, d.2.toObject)) ∧
      ∀ typ, applied.filter (·.2.typ = typ) =
        if typ ∈ ScanSide.requiredInformers then
          ((steps.flatMap SystemStep.informed).filter (·.obj.typ = typ)).map fun ev => (ev.eventType, ev.obj)
        else [] := by
  obtain ⟨more, s', moved, quiet, held, queueEmpty⟩ := drain_system w s
  obtain ⟨handed, applied, actions, run, deltas, -, order, typed⟩ :=
    system_run_refines w seed (by rw [system_run_append, ran, Option.some_bind]; exact moved)
  refine ⟨more, s', applied, actions, moved, quiet, run, deltas, fun typ => ?_⟩
  have handedTyp : handed.filter (·.obj.typ = typ) =
      if typ ∈ ScanSide.requiredInformers then (steps.flatMap SystemStep.informed).filter (·.obj.typ = typ)
      else [] := by
    have accounted := typed typ
    rw [List.flatMap_append, quiet, List.append_nil] at accounted
    split at accounted
    · rename_i wanted
      rw [if_pos wanted, ← accounted, held typ wanted, List.append_nil]
    · rename_i unwanted
      rw [if_neg unwanted]
      exact (List.append_eq_nil.1 accounted).1
  rw [queueEmpty, List.append_nil] at order
  rw [order, List.filter_map]
  change List.map _ (handed.filter (·.obj.typ = typ)) = _
  rw [handedTyp]
  split <;> rfl

/-- A pod and then a node added to the cluster, with no goroutine run yet: both
reach the controller. -/
theorem system_run_delivers_pod_and_node :
    let w : Wiring := ⟨⟨modeRemote, ⟨1, 0⟩, ⟨1, 0⟩, 3⟩, goInsertionSort, id, fun _ => true⟩
    let pod : Kube.Pod :=
      { uid := "p1", ownerReferences := [], nodeName := "n1",
        containers := [⟨"c", "nginx", Dec.zero, Dec.zero⟩], initContainers := [],
        phase := .running, containerStatuses := [⟨"c", "sha", "containerd://c1"⟩],
        initContainerStatuses := [] }
    let node : Kube.Node := ⟨"n1", "amd64", "linux", Dec.zero, Dec.zero⟩
    let steps : List SystemStep := [.routing (.inform ⟨.add, .pod pod⟩), .routing (.inform ⟨.add, .node node⟩)]
    let s := ((System.init []).run w steps).getD (System.init [])
    (System.init []).run w steps = some s ∧
    ∃ (more : List SystemStep) (s' : System) (applied : List (Event × InformedObject)) (actions : List Action),
      s.run w more = some s' ∧ more.flatMap SystemStep.informed = [] ∧
      Controller.run w (Controller.new []) actions = some s'.side.controller ∧
      Action.deltas actions = applied.map (fun d => (d.1, d.2.toObject)) ∧
      ∀ typ, applied.filter (·.2.typ = typ) =
        if typ ∈ ScanSide.requiredInformers then
          ((steps.flatMap SystemStep.informed).filter (·.obj.typ = typ)).map fun ev => (ev.eventType, ev.obj)
        else [] := by
  intro w pod node steps s
  have ran : (System.init []).run w steps = some s := rfl
  exact ⟨ran, system_run_delivers w [] ran⟩

end EventPipeline

end ImageScan
