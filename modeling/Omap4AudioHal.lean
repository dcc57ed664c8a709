import Omap4AudioHal.Config
import Omap4AudioHal.Routing
import Omap4AudioHal.State
import Omap4AudioHal.Lifecycle
import Omap4AudioHal.Samples
import Omap4AudioHal.Provider
import Omap4AudioHal.Read
import Omap4AudioHal.Write
import Omap4AudioHal.Entry
import Omap4AudioHal.Bookkeeping
import Omap4AudioHal.Capture
import Omap4AudioHal.Playback
import Omap4AudioHal.RateFamily
import Omap4AudioHal.Locking
import Omap4AudioHal.ErrorPaths
import Omap4AudioHal.Rerouting
import Omap4AudioHal.PcmProtocol
import Omap4AudioHal.DeviceParameters
import Omap4AudioHal.SingleStream
