import OdysseyHub.Server.HandlerEvents
import OdysseyHub.Server.OneHandler
import OdysseyHub.Server.DeviceListSync
import OdysseyHub.Server.DeviceMetadata
import OdysseyHub.Server.DirectSet
import OdysseyHub.Server.Tracking
import OdysseyHub.Server.Teardown
import OdysseyHub.Server.AttachOrder
import OdysseyHub.Server.LastDelay
import OdysseyHub.Desktop.FirmwareOffer
import OdysseyHub.Interface.EventWire
import OdysseyHub.Server.AccessoryManager
import OdysseyHub.Server.ShotDelaySave
import OdysseyHub.Server.ListStream
import OdysseyHub.Server.ControlSide
import OdysseyHub.Server.StreamsAlive
import OdysseyHub.Server.DongleAgree
import OdysseyHub.Server.Snapshots
import OdysseyHub.Server.BondNames
import OdysseyHub.Server.OffsetSaves
import OdysseyHub.Desktop.ZeroLookup
import OdysseyHub.Desktop.UpdateRuns
import OdysseyHub.Desktop.UpdateStates
import OdysseyHub.Desktop.ZeroOnShot
import OdysseyHub.Client.ClosestEvent
import OdysseyHub.Client.FfiEvents
import OdysseyHub.Interface.AccessoryWire
import OdysseyHub.Server.RequestNumbers
import OdysseyHub.Server.ShotDelayFile
import OdysseyHub.Server.ErrorReplies
import OdysseyHub.Server.ReplyOrder
import OdysseyHub.Server.DongleCommands
import OdysseyHub.Server.AccessoryLinks
import OdysseyHub.Server.AccessoryStream
import OdysseyHub.Server.NameBuffers
import OdysseyHub.Server.ConfigLoads
import OdysseyHub.Server.FirmwareChoice
import OdysseyHub.Server.ZeroOffset
import OdysseyHub.Server.PausedStreams
import OdysseyHub.Server.SaveZero
import OdysseyHub.Server.SerialMatch
import OdysseyHub.Client.HistoryCalls
import OdysseyHub.Desktop.SensorSettings
import OdysseyHub.Client.UniffiAccessories
import OdysseyHub.Desktop.ZeroSlots
import OdysseyHub.Server.EventStream
import OdysseyHub.Desktop.HubEvents
import OdysseyHub.Desktop.ZeroPath
import OdysseyHub.Desktop.HubLists
import OdysseyHub.Desktop.PajSettings
import OdysseyHub.Desktop.Pairing
import OdysseyHub.Desktop.FlashedImage
import OdysseyHub.Server.Startup
import OdysseyHub.Desktop.AccessoryBoards
import OdysseyHub.Desktop.AccessoryShots
import OdysseyHub.Client.Calls
import OdysseyHub.Client.SdkCalls
import OdysseyHub.Client.SdkEvents
import OdysseyHub.Desktop.SelfUpdate
