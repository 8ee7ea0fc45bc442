import KekPdp11.Lib.StateExcept
import KekPdp11.Lib.AppendLog
import KekPdp11.Lib.Bits
import KekPdp11.Word
import KekPdp11.Registers
import KekPdp11.Mmu
import KekPdp11.Machine
import KekPdp11.Bus
import KekPdp11.TrapEntry
import KekPdp11.Operands
import KekPdp11.Instructions
import KekPdp11.Step
import KekPdp11.LineClock
import KekPdp11.TrapRecursion
import KekPdp11.References
import KekPdp11.InstructionRules
import KekPdp11.Watching
import KekPdp11.Privilege
import KekPdp11.Freeze
import KekPdp11.Protection
import KekPdp11.Translation
import KekPdp11.Serving
import KekPdp11.Inspection
import KekPdp11.Lib.TakeLog
import KekPdp11.Priority
import KekPdp11.InterruptQueues
import KekPdp11.Pushes
import KekPdp11.RefusedReferences
import KekPdp11.TrapDelivery
import KekPdp11.TrapFaults
import KekPdp11.TrapReturn
import KekPdp11.AbortRecord
import KekPdp11.Lib.Slices
import KekPdp11.DiskBackend
import KekPdp11.SectorArray
import KekPdp11.DiskController
import KekPdp11.Rk05
import KekPdp11.Rl02
import KekPdp11.Rp06
import KekPdp11.SectorCalls
import KekPdp11.DiskTransfers
import KekPdp11.WordCount
import KekPdp11.TransferErrors
import KekPdp11.Lib.Documents
import KekPdp11.DiskSnapshot
import KekPdp11.MachineSnapshot
import KekPdp11.DebuggerLoop
import KekPdp11.NoticedInterrupts
import KekPdp11.QueueRules
import KekPdp11.InterruptSteps
import KekPdp11.Isolation
import KekPdp11.UserModeSteps
import KekPdp11.DiskChecksum
import KekPdp11.OddAccess
import KekPdp11.DeviceIndices
import KekPdp11.Tm11
import KekPdp11.TapeSearch
import KekPdp11.TapeRecords
import KekPdp11.Deqna
import KekPdp11.Lib.Walks
import KekPdp11.DeqnaWalks
import KekPdp11.DeqnaFrames
import KekPdp11.DeqnaThreads
import KekPdp11.DeqnaEvents
import KekPdp11.RamCalls
import KekPdp11.RamBounds
import KekPdp11.Dz11
import KekPdp11.Lib.Queues
import KekPdp11.DzLines
import KekPdp11.Lib.Prefixes
import KekPdp11.Lib.Notices
import KekPdp11.Dc11
import KekPdp11.Tty
import KekPdp11.ReceiveInterrupts
import KekPdp11.Dc11Input
import KekPdp11.Vxlan
import KekPdp11.Utils
import KekPdp11.Lib.Numerals
import KekPdp11.Console
import KekPdp11.Lib.Captures
import KekPdp11.BusWiring
import KekPdp11.ConditionCodes
import KekPdp11.ReadModifyWrite
import KekPdp11.OperandForms
import KekPdp11.Lib.TwosComplement
import KekPdp11.ArithmeticFlags
import KekPdp11.Breakpoints
import KekPdp11.BreakpointAtoms
import KekPdp11.BreakpointParts
import KekPdp11.BreakpointDepth
import KekPdp11.BreakpointTraps
import KekPdp11.BreakpointListings
import KekPdp11.Lib.ArithmeticShift
import KekPdp11.Shifts
import KekPdp11.Products
import KekPdp11.ControlRegisters
import KekPdp11.PageRegisters
import KekPdp11.RegisterWindow
import KekPdp11.Lib.Stops
import KekPdp11.ByteOperands
import KekPdp11.StatusWordStores
import KekPdp11.BreakpointChecks
import KekPdp11.StackLimit
import KekPdp11.Disassembler
import KekPdp11.Decoding
import KekPdp11.InstructionLengths
import KekPdp11.IoBase
import KekPdp11.PaperTape
import KekPdp11.Lib.MixedRadix
import KekPdp11.DriveGeometry
import KekPdp11.HeadPosition
import KekPdp11.ReadyBit
import KekPdp11.Lib.Throughout
import KekPdp11.TransmitLine
import KekPdp11.ModemStatus
import KekPdp11.DisabledLines
import KekPdp11.Lib.Gather
import KekPdp11.TransmitGather
import KekPdp11.Rk05Registers
import KekPdp11.Lib.Lockstep
import KekPdp11.ChainedTransfers
import KekPdp11.Lib.InStep
import KekPdp11.Lib.Retry
import KekPdp11.LostConnections
import KekPdp11.DriveCalls
import KekPdp11.Lib.ArrayCopies
import KekPdp11.ArrayDrives
import KekPdp11.CopyCommands
import KekPdp11.CopyingControllers
import KekPdp11.DiskInterrupts
import KekPdp11.Lib.Sights
import KekPdp11.BareRuns
import KekPdp11.AttachedDisks
import KekPdp11.BootLoaders
import KekPdp11.Lib.LockScopes
import KekPdp11.LockOrder
import KekPdp11.DzStack
import KekPdp11.DebuggerStops
import KekPdp11.EthernetLink
import KekPdp11.Lib.Footprints
import KekPdp11.SharedMemory
