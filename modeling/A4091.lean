import A4091.Host
import A4091.Session
import A4091.Memory
import A4091.Ncr53c710
import A4091.TestDma
import A4091.TestDmaCopy
import A4091.Wait
import A4091.Siop
import A4091.Scripts
import A4091.Interrupts
import A4091.RegisterAccess
import A4091.Cards
import A4091.Options
import A4091.PrintBits
import A4091.Bus
import A4091.Fifo
import A4091.FifoTrace
import A4091.DeviceAccess
import A4091.RegisterChecks
import A4091.Decode
import A4091.TestCard
