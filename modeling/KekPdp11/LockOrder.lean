import KekPdp11.Lib.LockScopes
import Mathlib.Data.Fintype.Basic

/-!
# KEK PDP-11: the locks of the threads

The threads of a running emulator and the locks that they take, for the builds
that have POSIX threads.  A function is the script of its scopes: what it does
to data is an act, a branch or a loop is left open.  Waits with a time limit
give their lock back and take it again.

**Assumption.**  Nothing is logged to the console: log_mask_c is 0, as it is at
the start, so that DOLOG takes no lock.  With it set, dolog calls put_string of
the console, also from inside put_char, and a thread can come to wait for itself
(`logging_waits_for_itself`).

Left out are the graphical console, the attaching and removing of channels and
the joining of threads.
-/

namespace KekPdp11
namespace Locks

open LockScopes
open LockScopes.Script

/-- The communication channels that an emulator can have two of. -/
inductive Bank where
  | dz11
  | dc11
deriving DecidableEq, Repr

/-- The locks.  Where there is one in each object of a class, the object has a
number. -/
inductive Mutex where
  | dz11Input
  | dc11Input (line : Nat)
  | lcCsr
  | channels (bank : Bank)
  | putString
  | cfd (object : Nat)
  | msgBuffer (object : Nat)
  | ncurses
  | inputBuffer
  | received
  | controls
  | ddp
  | qi
deriving DecidableEq, Repr

abbrev Code := Script Mutex

/-- A lock is above those in whose scopes it is taken. -/
def rank : Mutex → Nat
  | .dz11Input | .dc11Input _ => 0
  | .channels _ | .putString => 1
  | _ => 2

/-! ## class cpu -/

def queueInterrupt : Code := scope .qi act

def unqueueInterrupt : Code := scope .qi act

/-- execute_any_pending_interrupt: the interrupt is entered under the lock. -/
def executeAnyPendingInterrupt (trap : Code) : Code :=
  scope .qi (either act trap)

/-- The WAIT instruction. -/
def waitInstruction : Code :=
  seq (scope .qi act) (many (scope .qi act))

/-! ## The communication channels -/

/-- An object of a class that is derived from comm, or a null pointer. -/
inductive Channel where
  | none
  | posixTty
  | pst (object : Nat)
  | tcpServer (object : Nat)
  | tcpClient (object : Nat)

namespace Channel

def isConnected : Channel → Code
  | tcpServer object | tcpClient object => scope (.cfd object) act
  | none | posixTty | pst _ => act

def hasData : Channel → Code
  | tcpServer object => either act (scope (.cfd object) act)
  | tcpClient object => scope (.cfd object) act
  | pst object => scope (.msgBuffer object) act
  | none | posixTty => act

def getByte : Channel → Code
  | tcpServer object =>
      many (seq (scope (.cfd object) act)
        (either act (scope (.cfd object) act)))
  | tcpClient object =>
      seq (scope (.cfd object) act) (either act (scope (.cfd object) act))
  | pst object => scope (.msgBuffer object) act
  | none | posixTty => act

def sendData : Channel → Code
  | tcpServer object =>
      either act (many (seq (scope (.cfd object) act)
        (either act (scope (.cfd object) act))))
  | tcpClient object => many (scope (.cfd object) act)
  | none | posixTty | pst _ => act

/-- setup_telnet_session of the TCP server. -/
def setupTelnetSession (c : Channel) : Code :=
  seqs (List.replicate 7 c.sendData)

/-- The channel's own thread. -/
def thread : Channel → Code
  | tcpServer object =>
      many (either act (seqs
        [scope (.cfd object) act, scope (.cfd object) act,
          either act (setupTelnetSession (tcpServer object))]))
  | tcpClient object => many (scope (.cfd object) act)
  | pst object => many (scope (.msgBuffer object) act)
  | none | posixTty => act

end Channel

/-- struct comm_io. -/
structure CommIo where
  bank : Bank
  channels : Nat → Channel

namespace CommIo

def isConnected (io : CommIo) (idx : Nat) : Code :=
  scope (.channels io.bank) (io.channels idx).isConnected

def hasData (io : CommIo) (idx : Nat) : Code :=
  scope (.channels io.bank) (io.channels idx).hasData

def getByte (io : CommIo) (idx : Nat) : Code :=
  scope (.channels io.bank) (io.channels idx).getByte

def sendData (io : CommIo) (idx : Nat) : Code :=
  scope (.channels io.bank) (io.channels idx).sendData

def getIdentifier (io : CommIo) : Code :=
  scope (.channels io.bank) act

def serialize (io : CommIo) : Code :=
  scope (.channels io.bank) act

/-- The loop with which a multiplexer takes the data of a line. -/
def receive (io : CommIo) (idx : Nat) : Code :=
  seq (many (seq (io.hasData idx) (io.getByte idx))) (io.hasData idx)

end CommIo

/-! ## The consoles -/

/-- The classes that are derived from console, but for the graphical one. -/
inductive Console where
  | posix
  | ncurses
  | comm (ioPort : Channel)

namespace Console

def putCharLl : Console → Code
  | posix => act
  | ncurses => either act (scope .ncurses act)
  | comm ioPort => ioPort.sendData

/-- put_char: the character, or more of them where a time stamp is added.  What
it logs does not go to the console. -/
def putChar (cnsl : Console) : Code := many cnsl.putCharLl

def putString (cnsl : Console) : Code :=
  scope .putString (many cnsl.putChar)

/-- put_string when the console is logged to: what put_char has to say about an
escape code is shown by put_string. -/
def loggingPutString (cnsl : Console) : Code :=
  scope .putString (many (seq cnsl.putCharLl (either act cnsl.putString)))

def putStringLf : Console → Code
  | posix => putString posix
  | ncurses => seq (putString ncurses) (putString ncurses)
  | comm ioPort => seq (putString (comm ioPort)) (putString (comm ioPort))

def pollChar : Code := scope .inputBuffer act

def waitChar : Code :=
  seq (scope .inputBuffer act) (many (scope .inputBuffer act))

def flushInput : Code := scope .inputBuffer act

/-- read_line. -/
def readLine (cnsl : Console) : Code :=
  seq cnsl.putString
    (many (seq waitChar (choice [cnsl.putChar, cnsl.putString])))

def waitForCharLl : Console → Code
  | posix => act
  | ncurses => either act (scope .ncurses act)
  | comm ioPort => many (seq ioPort.hasData (either act ioPort.getByte))

def refreshVirtualTerminal : Console → Code
  | posix => act
  | ncurses => scope .ncurses act
  | comm ioPort =>
      seq (comm ioPort).putCharLl (many (comm ioPort).putStringLf)

def blinkenlightsPush : Code := scope .controls act

def ddpPush : Code := scope .ddp act

def panelUpdateThread : Console → Code
  | posix | comm _ =>
      many (choice [blinkenlightsPush, ddpPush])
  | ncurses =>
      many (seq (many (choice [blinkenlightsPush, ddpPush]))
        (seq (scope .ncurses act) (scope .ncurses act)))

def uiEventLoop : Console → Code
  | ncurses => many (either act (scope .ncurses act))
  | posix | comm _ => act

end Console

/-! ## The devices -/

/-- What an emulator is put together from. -/
structure Process where
  cnsl : Console
  dz11Lines : Nat
  dz11Channels : Nat → Channel
  dc11Channels : Nat → Channel

namespace Process

def dz11Io (p : Process) : CommIo := ⟨.dz11, p.dz11Channels⟩
def dc11Io (p : Process) : CommIo := ⟨.dc11, p.dc11Channels⟩

end Process

namespace Kw11

def readWord : Code := either act (scope .lcCsr act)
def writeWord : Code := either act (scope .lcCsr act)
def reset : Code := either act (scope .lcCsr act)
def setLfCrsB7 : Code := scope .lcCsr act
def getLfCrs : Code := scope .lcCsr act

def doInterrupt : Code :=
  seqs [setLfCrsB7, getLfCrs, either act queueInterrupt]

def tick : Code := either act doInterrupt

def thread : Code := many tick

def showState (p : Process) : Code :=
  seq p.cnsl.putStringLf p.cnsl.putStringLf

end Kw11

namespace Tty

def notifyRx : Code := either act queueInterrupt

def readWord : Code :=
  choice
    [Console.pollChar,
      seqs [Console.waitChar, either act Console.pollChar, either act notifyRx]]

def readByte : Code := readWord

def writeWord (p : Process) : Code :=
  either act (seq p.cnsl.putChar (either act queueInterrupt))

def writeByte (p : Process) : Code := writeWord p

end Tty

namespace Dz11

def readWord : Code := scope .dz11Input act
def readByte : Code := readWord

/-- tx_scanner with a line. -/
def txScanner : Code := either act queueInterrupt

def writeWord (p : Process) : Code :=
  scope .dz11Input (choice
    [either act queueInterrupt,
      seq (choice ((List.range p.dz11Lines).map p.dz11Io.sendData)) txScanner,
      seq (seqs (List.replicate p.dz11Lines txScanner))
        (either act (seq unqueueInterrupt unqueueInterrupt))])

def writeByte (p : Process) : Code := writeWord p

/-- What the thread does for one line. -/
def poll (p : Process) (line : Nat) : Code :=
  scope .dz11Input (seqs
    [p.dz11Io.isConnected line, p.dz11Io.receive line,
      either act queueInterrupt])

def thread (p : Process) : Code :=
  many (seqs ((List.range p.dz11Lines).map (poll p)))

def showState (p : Process) : Code :=
  seq (seqs (List.replicate p.dz11Lines (scope .dz11Input p.cnsl.putStringLf)))
    (seqs (List.replicate 6 p.cnsl.putStringLf))

def testPorts (p : Process) : Code :=
  many (seqs ((List.range p.dz11Lines).map p.dz11Io.sendData))

end Dz11

namespace Dc11

def readWord (p : Process) (line : Nat) : Code :=
  scope (.dc11Input line)
    (choice [queueInterrupt, p.dc11Io.isConnected line])

def readByte (p : Process) (line : Nat) : Code := readWord p line

def writeWord (p : Process) (line : Nat) : Code :=
  scope (.dc11Input line)
    (either act (seq (p.dc11Io.sendData line) (either act queueInterrupt)))

def writeByte (p : Process) (line : Nat) : Code := writeWord p line

/-- What the thread does for one line. -/
def poll (p : Process) (line : Nat) : Code :=
  scope (.dc11Input line) (seqs
    [p.dc11Io.isConnected line, either act queueInterrupt,
      p.dc11Io.receive line, either act queueInterrupt])

/-- dc11_n_lines. -/
def nLines : Nat := 4

def thread (p : Process) : Code :=
  many (seqs ((List.range nLines).map (poll p)))

def showState (p : Process) : Code :=
  seqs ((List.range nLines).map fun line =>
    seqs
      [p.cnsl.putStringLf, p.dc11Io.getIdentifier, p.cnsl.putStringLf,
        scope (.dc11Input line) (seqs (List.replicate 3 p.cnsl.putStringLf))])

def testPorts (p : Process) : Code :=
  seqs ((List.range nLines).map p.dc11Io.sendData)

end Dc11

namespace Deqna

def pop : Code := seq (scope .received act) (many (scope .received act))

/-- queue_rx_packet. -/
def queueRxPacket : Code :=
  seq (scope .received act) (either act (scope .received act))

def transmitter : Code := many (choice [queueRxPacket, queueInterrupt])

/-- reset with purge_buffers. -/
def reset : Code := many (seq (scope .received act) pop)

def writeWord : Code := either act transmitter

/-- receiver_low with dump_packet. -/
def receiverLow (p : Process) : Code :=
  many (seq (many p.cnsl.putStringLf) (either act queueRxPacket))

def receiverHigh : Code :=
  many (either (scope .received act) (seq pop (either act queueInterrupt)))

def showState (p : Process) : Code :=
  seqs [p.cnsl.putStringLf, scope .received act, many p.cnsl.putStringLf]

end Deqna

/-! ## The threads -/

/-- What the locks see of a register of a disk or tape controller. -/
def controllerWrite : Code := many queueInterrupt

def busRead (p : Process) : Code :=
  choice
    ([Kw11.readWord, Tty.readByte, Tty.readWord, Dz11.readByte, Dz11.readWord]
      ++ (List.range Dc11.nLines).map (Dc11.readByte p)
      ++ (List.range Dc11.nLines).map (Dc11.readWord p))

def busWrite (p : Process) : Code :=
  choice
    ([Dz11.writeWord p, Dz11.writeByte p, Kw11.writeWord, Tty.writeByte p,
        Tty.writeWord p, Deqna.writeWord, controllerWrite]
      ++ (List.range Dc11.nLines).map (Dc11.writeByte p)
      ++ (List.range Dc11.nLines).map (Dc11.writeWord p))

/-- A reference of an instruction. -/
def busReference (p : Process) : Code := either (busWrite p) (busRead p)

def busReset : Code := seq Kw11.reset Deqna.reset

/-- trap: the vector is fetched and the old state is pushed. -/
def trap (reference : Code) : Code := many reference

/-- What a reference to memory does to locks. -/
def memoryReference : Code := act

/-- cpu::step; `reference` is what a reference of an interrupt's entry gets
to. -/
def cpuStep (p : Process) (reference : Code) : Code :=
  seq (either act (executeAnyPendingInterrupt (trap reference)))
    (many (choice [busReference p, waitInstruction, busReset]))

def showStates (p : Process) : Code :=
  choice
    [Kw11.showState p, Dz11.showState p, Dc11.showState p, Deqna.showState p]

/-- The debugger or the loop of steps without it. -/
def emulation (p : Process) (reference : Code) : Code :=
  many (choice
    [cpuStep p reference, p.cnsl.readLine, p.cnsl.putStringLf, showStates p,
      Dz11.testPorts p, Dc11.testPorts p, p.dz11Io.serialize,
      p.dc11Io.serialize, Console.flushInput, busReset])

/-- operator() of class console. -/
def keyboard (p : Process) : Code :=
  many (seq p.cnsl.waitForCharLl
    (choice [p.cnsl.refreshVirtualTerminal,
      seq (scope .inputBuffer act) (either act Tty.notifyRx)]))

inductive ThreadKind where
  | emulation
  | keyboard
  | panel
  | uiEvents
  | kw11
  | dz11
  | dc11
  | receiverLow
  | receiverHigh
  | channel (c : Channel)

/-- What a thread of the kind runs. -/
def ThreadKind.code (p : Process) (reference : Code) : ThreadKind → Code
  | emulation => Locks.emulation p reference
  | keyboard => Locks.keyboard p
  | panel => p.cnsl.panelUpdateThread
  | uiEvents => p.cnsl.uiEventLoop
  | kw11 => Kw11.thread
  | dz11 => Dz11.thread p
  | dc11 => Dc11.thread p
  | receiverLow => Deqna.receiverLow p
  | receiverHigh => Deqna.receiverHigh
  | channel c => c.thread

/-- The threads at their beginnings. -/
def started {ι : Type} (p : Process) (reference : Code)
    (kinds : ι → ThreadKind) :
    Threads ι Mutex :=
  fun i => [.run ((kinds i).code p reference)]

/-! ## The ranks rise -/

section Ranks

variable {n : Nat}

theorem queueInterrupt_rising
    (hn : n ≤ 2) :
    queueInterrupt.Rising rank n := by
  simp [queueInterrupt, Rising, rank, hn]

theorem unqueueInterrupt_rising
    (hn : n ≤ 2) :
    unqueueInterrupt.Rising rank n := by
  simp [unqueueInterrupt, Rising, rank, hn]

namespace Channel

theorem isConnected_rising
    (c : Channel) (hn : n ≤ 2) :
    c.isConnected.Rising rank n := by
  cases c <;> simp [isConnected, Rising, rank, hn]

theorem hasData_rising
    (c : Channel) (hn : n ≤ 2) :
    c.hasData.Rising rank n := by
  cases c <;> simp [hasData, Rising, rank, hn]

theorem getByte_rising
    (c : Channel) (hn : n ≤ 2) :
    c.getByte.Rising rank n := by
  cases c <;> simp [getByte, Rising, rank, hn]

theorem sendData_rising
    (c : Channel) (hn : n ≤ 2) :
    c.sendData.Rising rank n := by
  cases c <;> simp [sendData, Rising, rank, hn]

theorem thread_rising
    (c : Channel) (hn : n ≤ 2) :
    c.thread.Rising rank n := by
  cases c with
  | tcpServer object =>
      simp [thread, setupTelnetSession, Rising, rising_seqs, rank, hn,
        sendData_rising]
  | none | posixTty | pst _ | tcpClient _ =>
      simp [thread, Rising, rank, hn]

end Channel

namespace CommIo

theorem isConnected_rising
    (io : CommIo) (idx : Nat) (hn : n ≤ 1) :
    (io.isConnected idx).Rising rank n := by
  simp [isConnected, Rising, rank, hn, Channel.isConnected_rising]

theorem sendData_rising
    (io : CommIo) (idx : Nat) (hn : n ≤ 1) :
    (io.sendData idx).Rising rank n := by
  simp [sendData, Rising, rank, hn, Channel.sendData_rising]

theorem receive_rising
    (io : CommIo) (idx : Nat) (hn : n ≤ 1) :
    (io.receive idx).Rising rank n := by
  simp [receive, hasData, getByte, Rising, rank, hn, Channel.hasData_rising,
    Channel.getByte_rising]

end CommIo

namespace Console

theorem putChar_rising
    (cnsl : Console) (hn : n ≤ 2) :
    cnsl.putChar.Rising rank n := by
  cases cnsl <;>
    simp [putChar, putCharLl, Rising, rank, hn, Channel.sendData_rising]

theorem putString_rising
    (cnsl : Console) (hn : n ≤ 1) :
    cnsl.putString.Rising rank n := by
  simp [putString, Rising, rank, hn, putChar_rising]

theorem putStringLf_rising
    (cnsl : Console) (hn : n ≤ 1) :
    cnsl.putStringLf.Rising rank n := by
  cases cnsl <;> simp [putStringLf, Rising, putString_rising, hn]

theorem readLine_rising
    (cnsl : Console) :
    cnsl.readLine.Rising rank 0 := by
  simp [readLine, waitChar, Rising, rising_choice, rank, putString_rising,
    putChar_rising]

theorem waitForCharLl_rising
    (cnsl : Console) :
    cnsl.waitForCharLl.Rising rank 0 := by
  cases cnsl <;>
    simp [waitForCharLl, Rising, rank, Channel.hasData_rising,
      Channel.getByte_rising]

theorem refreshVirtualTerminal_rising
    (cnsl : Console) :
    cnsl.refreshVirtualTerminal.Rising rank 0 := by
  cases cnsl <;>
    simp [refreshVirtualTerminal, putCharLl, Rising, rank,
      Channel.sendData_rising, putStringLf_rising]

theorem panelUpdateThread_rising
    (cnsl : Console) :
    cnsl.panelUpdateThread.Rising rank 0 := by
  cases cnsl <;>
    simp [panelUpdateThread, blinkenlightsPush, ddpPush, Rising,
      rising_choice, rank]

theorem uiEventLoop_rising
    (cnsl : Console) :
    cnsl.uiEventLoop.Rising rank 0 := by
  cases cnsl <;> simp [uiEventLoop, Rising, rank]

end Console

variable (p : Process)

theorem Kw11.thread_rising :
    Kw11.thread.Rising rank 0 := by
  simp [thread, tick, doInterrupt, setLfCrsB7, getLfCrs, Rising, rising_seqs,
    rank, queueInterrupt_rising]

namespace Dz11

theorem readWord_rising :
    readWord.Rising rank 0 := by
  simp [readWord, Rising]

theorem writeWord_rising :
    (writeWord p).Rising rank 0 := by
  simp [writeWord, txScanner, Rising, rising_choice, rising_seqs, rank,
    queueInterrupt_rising, unqueueInterrupt_rising, CommIo.sendData_rising]

theorem thread_rising :
    (thread p).Rising rank 0 := by
  simp [thread, poll, Rising, rising_seqs, rank, queueInterrupt_rising,
    CommIo.isConnected_rising, CommIo.receive_rising]

theorem showState_rising :
    (showState p).Rising rank 0 := by
  simp [showState, Rising, rising_seqs, rank, Console.putStringLf_rising]

end Dz11

namespace Dc11

theorem readWord_rising
    (line : Nat) :
    (readWord p line).Rising rank 0 := by
  simp [readWord, Rising, rising_choice, rank, queueInterrupt_rising,
    CommIo.isConnected_rising]

theorem writeWord_rising
    (line : Nat) :
    (writeWord p line).Rising rank 0 := by
  simp [writeWord, Rising, rank, queueInterrupt_rising,
    CommIo.sendData_rising]

theorem thread_rising :
    (thread p).Rising rank 0 := by
  simp [thread, poll, Rising, rising_seqs, rank, queueInterrupt_rising,
    CommIo.isConnected_rising, CommIo.receive_rising]

theorem showState_rising :
    (showState p).Rising rank 0 := by
  simp [showState, CommIo.getIdentifier, Rising, rising_seqs, rank,
    Console.putStringLf_rising]

end Dc11

namespace Deqna

theorem writeWord_rising :
    writeWord.Rising rank 0 := by
  simp [writeWord, transmitter, queueRxPacket, Rising, rising_choice, rank,
    queueInterrupt_rising]

theorem receiverLow_rising :
    (receiverLow p).Rising rank 0 := by
  simp [receiverLow, queueRxPacket, Rising, rank, Console.putStringLf_rising]

theorem receiverHigh_rising :
    receiverHigh.Rising rank 0 := by
  simp [receiverHigh, pop, Rising, rank, queueInterrupt_rising]

end Deqna

namespace Tty

theorem readWord_rising :
    readWord.Rising rank 0 := by
  simp [readWord, notifyRx, Console.pollChar, Console.waitChar, Rising,
    rising_choice, rising_seqs, rank, queueInterrupt_rising]

theorem writeWord_rising :
    (writeWord p).Rising rank 0 := by
  simp [writeWord, Rising, Console.putChar_rising, queueInterrupt_rising]

end Tty

theorem busRead_rising :
    (busRead p).Rising rank 0 := by
  simp [busRead, Kw11.readWord, Tty.readByte, Dz11.readByte, Dc11.readByte,
    Rising, rising_choice, rank, or_imp, forall_and, Tty.readWord_rising,
    Dz11.readWord_rising, Dc11.readWord_rising]

theorem busWrite_rising :
    (busWrite p).Rising rank 0 := by
  simp [busWrite, Kw11.writeWord, Tty.writeByte, Dz11.writeByte,
    Dc11.writeByte, controllerWrite, Rising, rising_choice, rank, or_imp,
    forall_and, Tty.writeWord_rising, Dz11.writeWord_rising,
    Dc11.writeWord_rising, Deqna.writeWord_rising, queueInterrupt_rising]

theorem busReset_rising :
    busReset.Rising rank 0 := by
  simp [busReset, Kw11.reset, Deqna.reset, Deqna.pop, Rising, rank]

/-- An interrupt's entry may make references that take no lock. -/
theorem cpuStep_rising
    {reference : Code} (href : reference.Rising rank 3) :
    (cpuStep p reference).Rising rank 0 := by
  simp [cpuStep, executeAnyPendingInterrupt, trap, waitInstruction,
    busReference, Rising, rising_choice, rank, href, busRead_rising,
    busWrite_rising, busReset_rising]

theorem showStates_rising :
    (showStates p).Rising rank 0 := by
  simp [showStates, Kw11.showState, Deqna.showState, Rising, rising_choice,
    rising_seqs, rank, Console.putStringLf_rising, Dz11.showState_rising,
    Dc11.showState_rising]

theorem emulation_rising
    {reference : Code} (href : reference.Rising rank 3) :
    (emulation p reference).Rising rank 0 := by
  simp [emulation, Dz11.testPorts, Dc11.testPorts, CommIo.serialize,
    Console.flushInput, Rising, rising_choice, rising_seqs, rank,
    cpuStep_rising p href, Console.readLine_rising,
    Console.putStringLf_rising, showStates_rising, CommIo.sendData_rising,
    busReset_rising]

theorem keyboard_rising :
    (keyboard p).Rising rank 0 := by
  simp [keyboard, Tty.notifyRx, Rising, rising_choice, rank,
    Console.waitForCharLl_rising, Console.refreshVirtualTerminal_rising,
    queueInterrupt_rising]

theorem ThreadKind.code_rising
    {reference : Code} (href : reference.Rising rank 3) (kind : ThreadKind) :
    (kind.code p reference).Rising rank 0 := by
  cases kind with
  | emulation =>
      exact emulation_rising p href
  | keyboard =>
      exact keyboard_rising p
  | panel =>
      exact Console.panelUpdateThread_rising p.cnsl
  | uiEvents =>
      exact Console.uiEventLoop_rising p.cnsl
  | kw11 =>
      exact Kw11.thread_rising
  | dz11 =>
      exact Dz11.thread_rising p
  | dc11 =>
      exact Dc11.thread_rising p
  | receiverLow =>
      exact Deqna.receiverLow_rising p
  | receiverHigh =>
      exact Deqna.receiverHigh_rising
  | channel c =>
      exact c.thread_rising (Nat.zero_le _)

theorem started_rising
    {ι : Type} {reference : Code} (href : reference.Rising rank 3)
    (kinds : ι → ThreadKind) (i : ι) :
    (started p reference kinds i).Rising rank :=
  ⟨ThreadKind.code_rising p href (kinds i), trivial⟩

end Ranks

/-! ## Deadlocks -/

section Deadlocks

/-- All lines of the multiplexers are TCP servers. -/
def telnetProcess : Process where
  cnsl := .ncurses
  dz11Lines := 8
  dz11Channels line := .tcpServer line
  dc11Channels line := .tcpServer (8 + line)

/-- The emulation and the thread of the DZ11. -/
def emulationAndDz11 : Bool → ThreadKind
  | true => .emulation
  | false => .dz11

variable (p : Process) {ι : Type} [DecidableEq ι]

/-- As long as the entries of interrupts refer to memory only, the threads
never wait for each other in a circle, and all can get to their ends. -/
theorem threads_do_not_deadlock
    [Fintype ι] (kinds : ι → ThreadKind) {s : Threads ι Mutex}
    (h : (started p memoryReference kinds).Leads s) :
    (∀ i, ¬ Relation.TransGen s.Blocks i i) ∧ ∃ t, s.Leads t ∧ t.Done := by
  have hmemory : memoryReference.Rising rank 3 := trivial
  have hrising := h.rising (started_rising p hmemory kinds)
  exact ⟨no_circle hrising, can_finish s hrising⟩

/-- When the thread of the DZ11 starts to poll its lines. -/
theorem threads_do_not_deadlock_at_first_poll :
    let s :=
      Function.update
        (started telnetProcess memoryReference emulationAndDz11) false
        [.run (seqs ((List.range 8).map (Dz11.poll telnetProcess))),
          .run (Dz11.thread telnetProcess)]
    (∀ i, ¬ Relation.TransGen (Threads.Blocks s) i i) ∧
      ∃ t, Threads.Leads s t ∧ t.Done :=
  threads_do_not_deadlock telnetProcess emulationAndDz11
    (.single (.thread false _ (.again _ _)))

/-- A character can be shown without taking a lock. -/
theorem putCharLl_passes
    (cnsl : Console) (k : Thread Mutex) :
    Relation.ReflTransGen Thread.Alone (.run cnsl.putCharLl :: k) k := by
  cases cnsl with
  | posix =>
      exact .single (.act _)
  | ncurses =>
      exact .head (.left _ _ _) (.single (.act _))
  | comm ioPort =>
      cases ioPort with
      | tcpServer object =>
          exact .head (.left _ _ _) (.single (.act _))
      | tcpClient object =>
          exact .single (.leave _ _)
      | _ =>
          exact .single (.act _)

/-- With the log on the console, a thread that shows a text can come to wait for
the lock that it holds. -/
theorem logging_waits_for_itself
    (cnsl : Console) :
    ∃ k, Relation.ReflTransGen Thread.Alone [.run cnsl.loggingPutString] k ∧
      k.Holds .putString ∧ k.WaitsFor .putString := by
  refine ⟨[.run cnsl.putString,
    .run (many (seq cnsl.putCharLl (either act cnsl.putString))),
    .unlock .putString], ?_, ?_, ?_⟩
  · refine .head (.enter Mutex.putString _ _ ?_) ?_
    · simp [Thread.Holds]
    refine .head (.again _ _) (.head (.seq _ _ _) ?_)
    exact (putCharLl_passes cnsl _).tail (.right _ _ _)
  · simp [Thread.Holds]
  · exact ⟨_, _, rfl⟩

/-- The thread of the emulation when the entry of an interrupt has written the
status register of the DZ11 with its clear bit. -/
def hanging : Thread Mutex :=
  [.run queueInterrupt, .unlock .dz11Input, .run (trap (busReference p)),
    .unlock .qi,
    .run (many (choice [busReference p, waitInstruction, busReset])),
    .run (emulation p (busReference p))]

/-- The emulation can get there on its own. -/
theorem emulation_leads_to_hanging :
    Relation.ReflTransGen Thread.Alone
      [.run (emulation p (busReference p))] (hanging p) := by
  refine .head (.again _ _) (.head (.left _ _ _) (.head (.seq _ _ _) ?_))
  -- An interrupt is pending.
  refine .head (.right _ _ _) (.head (.enter Mutex.qi _ _ ?_) ?_)
  · simp [Thread.Holds]
  refine .head (.right _ _ _) (.head (.again _ _) (.head (.left _ _ _) ?_))
  -- Its entry writes the status register of the DZ11.
  refine .head (.left _ _ _) (.head (.enter Mutex.dz11Input _ _ ?_) ?_)
  · simp [Thread.Holds]
  exact .head (.left _ _ _) (.single (.right _ _ _))

/-- Otherwise the emulation can stop for good in the entry of an interrupt, and
so does each thread that wants to queue one from then on. -/
theorem interrupt_entries_can_hang
    (kinds : ι → ThreadKind) {i : ι} (hi : kinds i = .emulation) :
    ∃ s, (started p (busReference p) kinds).Leads s ∧
      ∀ t, s.Leads t →
        t i = hanging p ∧
          ∀ j, (t j).WaitsFor .qi → ∀ u, t.Leads u → u j = t j := by
  have hothers :
      ∀ j, j ≠ i → ∀ l, ¬ (started p (busReference p) kinds j).Holds l := by
    intro j _ l
    simp [started, Thread.Holds]
  have hstart :
      started p (busReference p) kinds i =
        [.run (emulation p (busReference p))] := by
    simp only [started, hi, ThreadKind.code]
  have hpath := emulation_leads_to_hanging p
  rw [← hstart] at hpath
  have hwait : (hanging p).WaitsFor .qi := ⟨_, _, rfl⟩
  have hheld : (hanging p).Holds .qi := by
    simp [hanging, Thread.Holds]
  refine ⟨_, .alone hothers hpath, ?_⟩
  intro t ht
  have hti : t i = hanging p := by
    have hstays := stays_nested ht (i := i) (l := .qi)
    rw [Function.update_self] at hstays
    exact hstays hwait hheld
  refine ⟨hti, ?_⟩
  intro j hj u hu
  rw [← hti] at hwait hheld
  exact stays_behind hu hwait hheld hj

theorem interrupt_entries_can_hang_with_dz11 :
    ∃ s, (started telnetProcess (busReference telnetProcess)
        emulationAndDz11).Leads s ∧
      ∀ t, s.Leads t →
        t true = hanging telnetProcess ∧
          ∀ j, (t j).WaitsFor .qi → ∀ u, t.Leads u → u j = t j :=
  interrupt_entries_can_hang telnetProcess emulationAndDz11 rfl

end Deadlocks

end Locks
end KekPdp11
