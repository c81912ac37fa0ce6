import ZCloud.Lib.Program
import ZCloud.Lib.Cbc
import ZCloud.Crc
import ZCloud.Drivers.FastOrderly
import ZCloud.Fwup.Session
import ZCloud.MoudleManager.UartLoss
import ZCloud.Configuration
import ZCloud.MessageQueue.Queue
import ZCloud.Drivers.Uart
import ZCloud.Drivers.Hspi
import ZCloud.ClientManager.Client
import ZCloud.ClientManager.Lock
import ZCloud.Crc16
import ZCloud.Crc32
import ZCloud.Drivers.FlsLock
import ZCloud.Fwup.Footer
import ZCloud.Fwup.Reset
import ZCloud.Fwup.Service
import ZCloud.Fwup.Slots
import ZCloud.HfAdpter.Reboot
import ZCloud.Lib.Bag
import ZCloud.Lib.Ram
import ZCloud.MessageQueue.CloudStream
import ZCloud.MessageQueue.Cuts
import ZCloud.MoudleManager.Reassembly
import ZCloud.MoudleManager.Reply
import ZCloud.OptionBounds
import ZCloud.ProtocolController.CheckCrc
import ZCloud.ProtocolController.Loopback
import ZCloud.ProtocolController.OtaChunks
import ZCloud.ProtocolController.OtaEnd
import ZCloud.ProtocolController.Requests
import ZCloud.SecEngine.CbcCore
import ZCloud.SecEngine.Lengths
import ZCloud.SecEngine.Rsa
import ZCloud.User.DeviceTable
import ZCloud.User.PowerLoss
import ZCloud.MoudleManager.Termination
import ZCloud.Timer.Owner
import ZCloud.Strtoip
import ZCloud.Drivers.SpiDma
import ZCloud.Drivers.UartRx
import ZCloud.Drivers.SpiEngine
import ZCloud.Network.IdleTime
import ZCloud.Network.Send
import ZCloud.ClientManager.Forward
import ZCloud.SecEngine.AesCbc
import ZCloud.Tropicssl.Mpi
import ZCloud.Tropicssl.Binary
import ZCloud.Tropicssl.AddSub
import ZCloud.Tropicssl.Mul
import ZCloud.Tropicssl.Montgomery
