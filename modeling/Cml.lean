import Cml.CString
import Cml.Usbdev
import Cml.Netdev
import Cml.State
import Cml.UsbDevice
import Cml.Sysfs
import Cml.Rename
import Cml.NetdevMove
import Cml.KeyWrap
import Cml.Daemon
import Cml.TokenTimer
import Cml.DeviceCgroup
import Cml.NetifTimer
import Cml.Tables
import Cml.RenameInterface
import Cml.AesEcb
import Cml.Verify
import Cml.Registry
import Cml.TimerLifecycle
import Cml.Envelope
import Cml.Pkcs12
import Cml.Engine
import Cml.Ownership
import Cml.AesCtr
import Cml.FileOwnership
import Cml.AesEcbBytes
