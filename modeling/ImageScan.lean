import ImageScan.Quantity
import ImageScan.GoMap
import ImageScan.Objects
import ImageScan.Sort
import ImageScan.Delta
import ImageScan.NodeFit
import ImageScan.Controller
import ImageScan.DeltaLemmas
import ImageScan.NodeMembership
import ImageScan.PodDelete
import ImageScan.StatusReporting
import ImageScan.Placement
import ImageScan.NodeAccounting
import ImageScan.ScanOutcomes
import ImageScan.PrivateImages
import ImageScan.KubeController
import ImageScan.BatchDispatch
import ImageScan.DeltaOps
import ImageScan.RetryBackoff
import ImageScan.RemoteSync
import ImageScan.EventPipeline
import ImageScan.CloudScan
