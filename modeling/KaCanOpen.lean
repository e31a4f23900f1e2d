import KaCanOpen.StdMap
import KaCanOpen.Types
import KaCanOpen.Device
import KaCanOpen.Sdo
import KaCanOpen.Dictionary
import KaCanOpen.Pdo
import KaCanOpen.Remap
import KaCanOpen.Lifecycle
import KaCanOpen.Eds
import KaCanOpen.Calls
import KaCanOpen.Access
import KaCanOpen.Keeps
import KaCanOpen.Primitives
import KaCanOpen.Addressed
import KaCanOpen.RetryLaw
import KaCanOpen.RemapLaw
import KaCanOpen.ReceiveMappings
import KaCanOpen.EdsFlags
import KaCanOpen.Names
import KaCanOpen.ReadDictionary
import KaCanOpen.Failures
import KaCanOpen.LastWriter
import KaCanOpen.Invariant
import KaCanOpen.PdoFrame
import KaCanOpen.Safety
import KaCanOpen.OnChange
import KaCanOpen.Heartbeat
import KaCanOpen.Registry
import KaCanOpen.Persistence
import KaCanOpen.TypedCache
import KaCanOpen.Bus
import KaCanOpen.NodeRemap
import KaCanOpen.Dispatch
