import KekPdp11.Step

/-!
# KEK PDP-11: the line clock

The register interface of class kw11_l, the one device that the constructor
of class bus attaches.  A bus with nothing else on it is the smallest machine
there is; concrete runs use it.
-/

namespace KekPdp11

/-- The data of class kw11_l that its registers show. -/
structure LineClock where
  lfCsr : Word
deriving DecidableEq, Repr

namespace LineClock

def readWord (d : LineClock) (a : Word) : Word :=
  if a = addrLfc then d.lfCsr else 0

def readByte (d : LineClock) (a : Word) : Byte :=
  let v := d.readWord (a &&& ~~~1)
  if isOdd a then (v >>> 8).setWidth 8 else v.setWidth 8

def writeWord (d : LineClock) (a value : Word) : LineClock :=
  if a = addrLfc then { d with lfCsr := value } else d

def writeByte (d : LineClock) (a : Word) (value : Byte) : LineClock :=
  if a = addrLfc then
    d.writeWord a (updateWord d.lfCsr (isOdd a) value)
  else
    d

def reset (d : LineClock) (hard : Bool) : LineClock :=
  if hard then { d with lfCsr := 0 } else d

end LineClock

instance : UnibusDevices LineClock where
  readByte _ a d := ⟨d.readByte a, d, []⟩
  readWord _ a d := ⟨d.readWord a, d, []⟩
  writeByte _ a v ram d := ⟨ram, d.writeByte a v, []⟩
  writeWord _ a v ram d := ⟨ram, d.writeWord a v, []⟩
  reset _ hard d := d.reset hard

/-- The device pointers of a bus that only has its line clock. -/
def onlyLineClock : Slot → Bool
  | .kw11l => true
  | _ => false

/-- A memory of `size` bytes that holds the given words. -/
def Ram.ofWords (size : PhysAddr) (words : List (Nat × Word)) : Ram :=
  words.foldl (fun r w => r.writeWord (BitVec.ofNat 32 w.1) w.2)
    { size := size, m := fun _ => 0 }

/-- A machine with a line clock and a memory that holds the given words. -/
def bareMachine (size : PhysAddr) (words : List (Nat × Word)) :
    Machine LineClock :=
  Machine.initial (Ram.ofWords size words) onlyLineClock { lfCsr := 0 }

end KekPdp11
