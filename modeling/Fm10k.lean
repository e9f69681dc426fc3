import Fm10k.MacvlanQueue
import Fm10k.L2Accel
import Fm10k.RingLifecycle
import Fm10k.Tunnel
import Fm10k.RxRun
import Fm10k.GlortSafety
import Fm10k.Lifecycle
import Fm10k.Xmit
import Fm10k.Memory
import Fm10k.Driver
