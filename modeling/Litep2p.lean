import Litep2p.Types
import Litep2p.Connection
import Litep2p.Handlers
import Litep2p.Invariant
import Litep2p.Frames
import Litep2p.Delivery
import Litep2p.Exits
import Litep2p.Outbound
import Litep2p.Inputs
import Litep2p.Dispatch
import Litep2p.Reports
