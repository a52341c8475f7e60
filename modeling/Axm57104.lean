import Axm57104.Common.Machine
import Axm57104.Xdma.Engine
import Axm57104.Net.State
import Axm57104.Net.Tx
import Axm57104.Net.Rx
import Axm57104.Net.Open
import Axm57104.Net.TxRing
import Axm57104.Net.RxRing
import Axm57104.Net.RxSession
import Axm57104.Common.Leading
import Axm57104.Net.RxLoop
import Axm57104.Net.Lifecycle
import Axm57104.Common.Recent
import Axm57104.Switch.TsQueue
import Axm57104.Switch.Capture
import Axm57104.Net.SkBuff
import Axm57104.Dsa.TagAsix
import Axm57104.Switch.Hwtstamp
import Axm57104.Switch.TstampReads
import Axm57104.Common.Prog
import Axm57104.Switch.Regs
import Axm57104.Switch.Qbv
import Axm57104.Switch.Retime
import Axm57104.Switch.RetimeAgree
import Axm57104.Switch.Served
import Axm57104.Switch.Requests
import Axm57104.Switch.Ptp
import Axm57104.Switch.PtpTime
import Axm57104.Switch.PtpLoad
import Axm57104.Switch.ChangeTime
import Axm57104.Switch.RetimeFrame
import Axm57104.Switch.CycleStart
import Axm57104.Switch.PtpFreq
import Axm57104.Switch.Interleaving
import Axm57104.Switch.TxTstamp
import Axm57104.Net.TxTimestamp
import Axm57104.Switch.Drains
import Axm57104.Common.Ledger
import Axm57104.Pci.IrqLines
import Axm57104.Net.Reset
import Axm57104.Pci.Probe
import Axm57104.Pci.ProbeIrq
import Axm57104.Net.Ioctl
import Axm57104.Xdma.Chain
import Axm57104.Common.Words
import Axm57104.Net.Multicast
import Axm57104.Net.TxPad
import Axm57104.Net.Isr
import Axm57104.Pci.UserIrq
import Axm57104.Switch.SyncTstamp
import Axm57104.Dsa.Vlan
import Axm57104.Net.RegIoctl
import Axm57104.Net.Mdio
import Axm57104.Net.Rgmii
import Axm57104.Common.RefCount
import Axm57104.Dsa.Fabric
import Axm57104.Dsa.Shared
import Axm57104.Dsa.SharedRuns
import Axm57104.Dsa.Tag8021q
import Axm57104.Common.Groups
import Axm57104.Dsa.Uppers
import Axm57104.Dsa.UpperRuns
import Axm57104.Dsa.UpperNums
import Axm57104.Dsa.UpperViews
import Axm57104.Common.Notifier
import Axm57104.Dsa.TagProto
import Axm57104.Common.Calls
import Axm57104.Dsa.TreeSetup
import Axm57104.Dsa.TreeBook
import Axm57104.Dsa.TreeStages
import Axm57104.Dsa.TreeRuns
import Axm57104.Dsa.TreeLife
import Axm57104.Dsa.TreeEven
import Axm57104.Dsa.TreeCpu
