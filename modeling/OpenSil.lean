import OpenSil.ApobWalk
import OpenSil.Ccx.ApRestore
import OpenSil.Ccx.Apic
import OpenSil.Ccx.BitFieldCopy
import OpenSil.Ccx.CacheInit
import OpenSil.Ccx.DownCoreConverge
import OpenSil.Ccx.MicrocodePatch
import OpenSil.Ccx.Rmp
import OpenSil.Ccx.SmnMulti
import OpenSil.Ccx.TableList
import OpenSil.Cxl.DevList
import OpenSil.Cxl.Dvsec
import OpenSil.Cxl.Resources
import OpenSil.Df.DomainXlat
import OpenSil.Mpio.AncDecode
import OpenSil.Mpio.AskTrace
import OpenSil.Mpio.BridgeIds
import OpenSil.Mpio.EarlyCleanUp
import OpenSil.Mpio.PortAddress
import OpenSil.Mpio.PortDevRemap
import OpenSil.Mpio.PortVisibility
import OpenSil.Mpio.TopologyHandles
import OpenSil.Mpio.UbmDiscovery
import OpenSil.Nbio.FuseDecode
import OpenSil.Nbio.SmnTable
import OpenSil.Ras.FruText
import OpenSil.Ras.McaErrors
import OpenSil.RcMgr.Fallback
import OpenSil.RcMgr.Init
import OpenSil.RcMgr.IoShortage
import OpenSil.RcMgr.PciBusPartition
import OpenSil.RcMgr.SecondRegion
import OpenSil.RcMgr.ReserveInvariant
import OpenSil.RcMgr.Shortage
import OpenSil.Smu.BrandString
import OpenSil.XPrf
import OpenSil.XPrf.DimmCapacity
import OpenSil.XPrf.DimmPresence
import OpenSil.XPrf.LowUsableDram
import OpenSil.XPrf.PstateData
import OpenSil.XPrf.Srat
import OpenSil.XSim.InitializeIps
import OpenSil.XSim.Shortage
import OpenSil.Fch.Stall
import OpenSil.Fch.AcpiMmio
import OpenSil.Fch.MultiFch
import OpenSil.Fch.PciByteTable
