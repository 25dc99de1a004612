import Famicom.Machine
import Famicom.Console
import Famicom.Session.Prompt
import Famicom.Session.Monitor
import Famicom.Session.Report
import Famicom.Picture
import Famicom.CommandLine.Program
import Famicom.Main
import Famicom.Proofs.Bus.Peek
import Famicom.Proofs.Cpu.Refusal
import Famicom.Proofs.Cpu.Schedule
import Famicom.Proofs.Cartridge.SerialPort
import Famicom.Proofs.Bus.Lockstep
import Famicom.Proofs.Console.Nmi
import Famicom.Proofs.Console.Irq
import Famicom.Proofs.Ppu.SecondaryMemory
import Famicom.Proofs.Ppu.Frame
import Famicom.Proofs.Ppu.Status
import Famicom.Proofs.Ppu.DataPort
import Famicom.Proofs.Bus.Transfer
import Famicom.Proofs.Bus.Observer
import Famicom.Proofs.Bus.OpenBus
import Famicom.Proofs.Console.PowerUp
import Famicom.Proofs.Ppu.TileRow
import Famicom.Proofs.Ppu.SpriteSearch
import Famicom.Proofs.Session.SingleStep
import Famicom.Proofs.Bus.Passage
import Famicom.Proofs.Console.Progress
import Famicom.Proofs.Session.FrameCount
import Famicom.Proofs.Console.Jam
import Famicom.Proofs.CommandLine.Arguments
import Famicom.Proofs.CommandLine.FrameDump
import Famicom.Proofs.Ppu.FetchedSlots
import Famicom.Proofs.Console.FrameRun
import Famicom.Proofs.Console.CycleRun
import Famicom.Proofs.Cartridge.Acceptance
import Famicom.Proofs.Apu.History
import Famicom.Proofs.Cpu.Nesting
import Famicom.Proofs.Cpu.LongArithmetic
import Famicom.Proofs.Cpu.UndrivenOperand
import Famicom.Proofs.Cpu.CombinedOperations
import Famicom.Proofs.Bus.SerialReport
import Famicom.Proofs.Cartridge.FourScreen
import Famicom.Proofs.Bus.LastWrite
import Famicom.Proofs.Cpu.Isolation
import Famicom.Proofs.Session.Forwarding
import Famicom.Proofs.Ppu.Raster
import Famicom.Proofs.Ppu.ObjectCorruption
import Famicom.Proofs.Ppu.Representation
