import KekPdp11.Lib.Bits

/-!
# KEK PDP-11: words, widths and spaces

The fixed-width values that the emulator computes with and the small helpers
on them: operand width, address space, sign and zero tests at a width, and the
replacement of one byte of a word.
-/

namespace KekPdp11

abbrev Word := BitVec 16

abbrev Byte := BitVec 8

/-- A physical address, uint32_t in the source. -/
abbrev PhysAddr := BitVec 32

/-- The processor mode field: 0 kernel, 1 supervisor, 3 user. -/
abbrev RunMode := BitVec 2

/-- A register number in an instruction word. -/
abbrev RegNr := BitVec 3

/-- An interrupt priority level. -/
abbrev Level := BitVec 3

/-- Operand width, word_mode_t. -/
inductive WordMode where
  | wmWord
  | wmByte
deriving DecidableEq, Repr

/-- Address space, d_i_space_t. -/
inductive Space where
  | dSpace
  | iSpace
deriving DecidableEq, Repr

/-- Why a machine stops, stop_event_t. -/
inductive StopEvent where
  | eventNone
  | eventHalt
  | eventInterrupt
  | eventTerminate
deriving DecidableEq, Repr

/-- word_mode_mask of cpu.cpp. -/
def wordModeMask : WordMode → Word
  | .wmWord => 0xffff
  | .wmByte => 0xff

/-- The SIGN macro of cpu.cpp. -/
def sign (x : Word) : WordMode → Bool
  | .wmByte => x &&& 0x80 ≠ 0
  | .wmWord => x &&& 0x8000 ≠ 0

/-- The IS_0 macro of cpu.cpp. -/
def isZero (x : Word) : WordMode → Bool
  | .wmByte => x &&& 0xff = 0
  | .wmWord => x = 0

/-- update_word of utils.cpp: replace the high or the low byte of a word. -/
def updateWord (w : Word) (msb : Bool) (v : Byte) : Word :=
  if msb then
    (w &&& 0x00ff) ||| (v.setWidth 16 <<< 8)
  else
    (w &&& 0xff00) ||| v.setWidth 16

/-- The low bit of an address as the msb argument of `updateWord`. -/
def isOdd (a : Word) : Bool :=
  a &&& 1 ≠ 0

/-- The active page field of a virtual address. -/
def activePageField (a : Word) : BitVec 3 :=
  (a >>> 13).setWidth 3

end KekPdp11
