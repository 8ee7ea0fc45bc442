import KekPdp11.Inspection
import KekPdp11.RamCalls
import KekPdp11.Utils
import KekPdp11.Lib.Numerals

/-!
# KEK PDP-11: breakpoints

The breakpoints of the debugger: registers, memory and instructions, and the
and/or combinations of these; when they are triggered, how they are listed
(emit) and how they are read (parse_breakpoint).

A text is a list of characters.  The parser splits it at blanks, looks at the
parts one after the other, and calls itself for the text between parentheses;
`parseFrom` bounds how deep it does so, and a text is never deeper than it is
long.
-/

namespace KekPdp11

open StateExcept

section Values

/-- std::set<uint16_t>, in the order in which it is walked. -/
structure ValueSet where
  values : List Word
  sorted : values.Pairwise (· < ·)

namespace ValueSet

/-- The values with one more of them at its place. -/
def insertValue (v : Word) : List Word → List Word
  | [] => [v]
  | w :: ws =>
      if v < w then v :: w :: ws
      else if v = w then w :: ws
      else w :: insertValue v ws

theorem mem_insertValue
    {v x : Word} {ws : List Word} (h : x ∈ insertValue v ws) :
    x = v ∨ x ∈ ws := by
  induction ws with
  | nil =>
      exact .inl (List.mem_singleton.mp h)
  | cons w ws ih =>
      unfold insertValue at h
      split at h
      · exact List.mem_cons.mp h
      · split at h
        · exact .inr h
        · rcases List.mem_cons.mp h with rfl | h
          · exact .inr (List.mem_cons_self)
          · exact (ih h).imp id (List.mem_cons_of_mem w)

theorem insertValue_sorted
    (v : Word) {ws : List Word} (h : ws.Pairwise (· < ·)) :
    (insertValue v ws).Pairwise (· < ·) := by
  induction ws with
  | nil =>
      exact List.pairwise_singleton _ v
  | cons w ws ih =>
      obtain ⟨hw, hws⟩ := List.pairwise_cons.mp h
      unfold insertValue
      split
      · next hlt =>
          refine List.pairwise_cons.mpr ⟨fun x hx => ?_, h⟩
          rcases List.mem_cons.mp hx with rfl | hx
          · exact hlt
          · exact BitVec.lt_trans hlt (hw x hx)
      · split
        · exact h
        · next hge hne =>
            refine List.pairwise_cons.mpr ⟨fun x hx => ?_, ih hws⟩
            rcases mem_insertValue hx with rfl | hx
            · exact BitVec.lt_of_le_ne (BitVec.not_lt.mp hge) (Ne.symm hne)
            · exact hw x hx

def empty : ValueSet :=
  ⟨[], .nil⟩

def insert (set : ValueSet) (v : Word) : ValueSet :=
  ⟨insertValue v set.values, insertValue_sorted v set.sorted⟩

end ValueSet

end Values

section Data

/-- bp_action. -/
inductive BpAction where
  | stopRunning
  | startTracing
  | onlyLogEntry
  | invalid
deriving DecidableEq, Repr

/-- The operators, of breakpoint_and and of breakpoint_or. -/
inductive BpOperator where
  | and
  | or
deriving DecidableEq, Repr

/-- The breakpoint classes. -/
inductive Breakpoint where
  | register (registerNr : Int) (values : ValueSet) (action : BpAction)
  | memory (addr : PhysAddr) (wordMode : WordMode) (isVirtual : Bool)
      (values : ValueSet) (action : BpAction)
  | instruction (instr mask : Word) (action : BpAction)
  | combined (op : BpOperator) (triggers : List Breakpoint) (action : BpAction)

namespace Breakpoint

def getAction : Breakpoint → BpAction
  | register _ _ action => action
  | memory _ _ _ _ action => action
  | instruction _ _ action => action
  | combined _ _ action => action

end Breakpoint

/-- hwreg_t. -/
def hrMmr0 : Int := 100

def hrPsw : Int := 200

end Data

section Emit

/-- A number as %0wo prints it, for the width w. -/
def octal (width n : Nat) : List Char :=
  Numerals.padded 8 width n

namespace BpOperator

/-- The operator as it is written. -/
def text : BpOperator → List Char
  | and => "and".toList
  | or => "or".toList

/-- The operator between two triggers. -/
def separator (op : BpOperator) : List Char :=
  ' ' :: op.text ++ [' ']

end BpOperator

/-- breakpoint_register::get_name. -/
def getName (registerNr : Int) : List Char :=
  if 0 ≤ registerNr ∧ registerNr < 8 then
    'R' :: Nat.toDigits 10 registerNr.toNat
  else if registerNr = hrMmr0 then "mmr0".toList
  else if registerNr = hrMmr0 + 1 then "mmr1".toList
  else if registerNr = hrMmr0 + 2 then "mmr2".toList
  else if registerNr = hrMmr0 + 3 then "mmr3".toList
  else if registerNr = hrPsw then "psw".toList
  else "???".toList

/-- The text before the values of a memory breakpoint. -/
def memoryName (addr : PhysAddr) (wordMode : WordMode) (isVirtual : Bool) :
    List Char :=
  "MEM".toList ++
    [if wordMode = .wmByte then 'B' else 'W', if isVirtual then 'V' else 'P'] ++
    '[' :: octal 8 addr.toNat ++ [']']

/-- The loop that lists values: the name and an equals sign before the first
one, commas before the others. -/
def emitValues (name : List Char) (out : List Char) : List Word → List Char
  | [] => out
  | v :: values =>
      emitValues name
        ((if out = [] then name ++ ['='] else out ++ [',']) ++ octal 6 v.toNat)
        values

namespace Breakpoint

mutual

/-- The emit methods. -/
def emit : Breakpoint → List Char
  | register registerNr values _ =>
      emitValues (getName registerNr) [] values.values
  | memory addr wordMode isVirtual values _ =>
      emitValues (memoryName addr wordMode isVirtual) [] values.values
  | instruction instr mask _ =>
      "instr[".toList ++ octal 6 mask.toNat ++ "]=".toList ++
        octal 6 instr.toNat
  | combined op triggers _ => emitAll op [] triggers ++ [')']

/-- The loop of breakpoint_and::emit and of breakpoint_or::emit. -/
def emitAll (op : BpOperator) (out : List Char) : List Breakpoint → List Char
  | [] => out
  | t :: triggers =>
      emitAll op ((if out = [] then ['('] else out ++ op.separator) ++ emit t)
        triggers

end

end Breakpoint

end Emit

section Triggered

variable {δ : Type} [UnibusDevices δ]

/-- The register that breakpoint_register::is_triggered looks at.  A negative
number reads outside of an array in the source; here it is some register. -/
def registerValue (registerNr : Int) (s : Machine δ) : Word :=
  if registerNr < 8 then s.cpu.getRegister (BitVec.ofInt 3 registerNr)
  else if registerNr = hrMmr0 then s.mmu.mmr0
  else if registerNr = hrMmr0 + 1 then s.mmu.mmr1
  else if registerNr = hrMmr0 + 2 then s.mmu.mmr2
  else if registerNr = hrMmr0 + 3 then s.mmu.mmr3
  else if registerNr = hrPsw then s.cpu.psw
  else 0

/-- The word that a peek in the current mode gives.  A translation that reads
past the array of pages counts as one without a word. -/
def peekCurrent (a : Word) (s : Machine δ) : Option Word :=
  (Bus.peekWord s.cpu.getPSWRunmode a s).join

/-- The text of a value that is one of those looked for. -/
def triggeredValue (name : List Char) (values : ValueSet) (v : Word) :
    Option (List Char) :=
  if v ∈ values.values then some (name ++ '=' :: octal 6 v.toNat) else none

namespace Breakpoint

mutual

/-- The is_triggered methods. -/
def isTriggered : Breakpoint → Exec δ (Option (List Char))
  | register registerNr values _ => do
      let v ← view fun s => registerValue registerNr s
      pure (triggeredValue (getName registerNr) values v)
  | memory addr wordMode isVirtual values _ => do
      let v ←
        (if isVirtual then view fun s => peekCurrent (addr.setWidth 16) s
        else do
          let v ← Bus.readPhysical addr
          pure (some v))
      pure (v.bind (triggeredValue (memoryName addr wordMode isVirtual) values))
  | instruction instr mask _ => do
      let curInstr ← view fun s => peekCurrent s.cpu.pc s
      pure (curInstr.bind fun curInstr =>
        if curInstr &&& mask = instr then
          some ("instr[".toList ++ octal 6 mask.toNat ++ "]=".toList ++
            octal 6 curInstr.toNat)
        else
          none)
  | combined .and triggers _ => allTriggered [] triggers
  | combined .or triggers _ => anyTriggered triggers

/-- The loop of breakpoint_and::is_triggered. -/
def allTriggered (out : List Char) :
    List Breakpoint → Exec δ (Option (List Char))
  | [] => pure (some out)
  | t :: triggers => do
      let rc ← isTriggered t
      match rc with
      | none => pure none
      | some text =>
          allTriggered (out ++ (if out = [] then [] else ", ".toList) ++ text)
            triggers

/-- The loop of breakpoint_or::is_triggered. -/
def anyTriggered : List Breakpoint → Exec δ (Option (List Char))
  | [] => pure none
  | t :: triggers => do
      let rc ← isTriggered t
      match rc with
      | some text => pure (some text)
      | none => anyTriggered triggers

end

end Breakpoint

end Triggered

section Atoms

/-- How a parse ends without a breakpoint: with the text of an error, or with
an exception of std::stoi. -/
inductive ParseStop where
  | message (text : List Char)
  | invalidArgument
  | outOfRange
  | tooDeep
deriving DecidableEq, Repr

/-- What a parser gives. -/
abbrev Parsed (α : Type) := Except ParseStop α

/-- std::stoi in base 8. -/
def octalValue (text : List Char) : Parsed Int :=
  match Numerals.stoi 8 text with
  | .value n => .ok n
  | .invalidArgument => .error .invalidArgument
  | .outOfRange => .error .outOfRange

/-- The values between commas. -/
def parseValues (text : List Char) : Parsed ValueSet :=
  (split ',' text).foldlM
    (fun values v => do
      let n ← octalValue v
      pure (values.insert (BitVec.ofInt 16 n)))
    ValueSet.empty

/-- A char as a number. -/
def charValue (c : Char) : Int :=
  if c.toNat < 128 then c.toNat else c.toNat - 256

/-- The character at an index; the one behind the last is the null character. -/
def charAt (text : List Char) (index : Nat) : Char :=
  text.getD index (Char.ofNat 0)

/-- breakpoint_register::parse; none stands for a null pointer without an
error. -/
def parseRegister (action : BpAction) (text : List Char) :
    Parsed (Option Breakpoint) :=
  match split '=' text with
  | [key, valuesIn] => do
      let values ← parseValues valuesIn
      if key.length < 2 then
        .error (.message "register: register id invalid".toList)
      else if (charAt key 0).toUpper = 'R' then
        let nr := charValue (charAt key 1) - charValue '0'
        if nr < 0 ∨ nr > 7 then
          .error (.message "register: register id invalid".toList)
        else
          .ok (some (.register nr values action))
      else if key = "SP".toList ∨ key = "sp".toList then
        .ok (some (.register 6 values action))
      else if key = "PC".toList ∨ key = "pc".toList then
        .ok (some (.register 7 values action))
      else if key.take 3 = "MMR".toList ∨ key.take 3 = "mmr".toList then
        let which := charValue (charAt key 3) - charValue '0'
        .ok (some (.register (hrMmr0 + which) values action))
      else if key.take 3 = "PSW".toList ∨ key.take 3 = "psw".toList then
        .ok (some (.register hrPsw values action))
      else
        .ok none
  | _ => .error (.message "register: key or value missing".toList)

/-- breakpoint_memory::parse. -/
def parseMemory (action : BpAction) (text : List Char) :
    Parsed (Option Breakpoint) :=
  match split '=' text with
  | [key, valuesIn] => do
      let values ← parseValues valuesIn
      if key.length < 8 ∨
          (key.take 3 ≠ "MEM".toList ∧ key.take 3 ≠ "mem".toList) then
        .ok none
      else
        let wm :=
          if (charAt key 3).toUpper = 'B' then WordMode.wmByte
          else WordMode.wmWord
        let isVirtual := decide ((charAt key 4).toUpper = 'V')
        -- without a bracket from the seventh character on the count is huge
        let endMarker := key.idxOf ']'
        let addrText :=
          if 6 ≤ endMarker then (key.drop 6).take (endMarker - 6)
          else key.drop 6
        let addr ← octalValue addrText
        .ok (some (.memory (BitVec.ofInt 32 addr) wm isVirtual values action))
  | _ => .error (.message "memory: key or value missing".toList)

/-- breakpoint_instruction::parse. -/
def parseInstruction (action : BpAction) (text : List Char) :
    Parsed (Option Breakpoint) :=
  match split '=' text with
  | [key, valueIn] => do
      let instr ← octalValue valueIn
      if key.length < 7 ∨
          (key.take 5 ≠ "INSTR".toList ∧ key.take 5 ≠ "instr".toList) then
        .ok none
      else
        let maskText := (key.drop 6).take (key.length - 7)
        if maskText = [] then
          .ok (some (.instruction (BitVec.ofInt 16 instr) 65535 action))
        else do
          let mask ← octalValue maskText
          .ok (some (.instruction (BitVec.ofInt 16 instr) (BitVec.ofInt 16 mask)
            action))
  | _ => .error (.message "instruction: key or value missing".toList)

/-- An error of one of these, as parse_breakpoint hands it on. -/
def notUnderstood {α : Type} : Parsed α → Parsed α
  | .error (.message text) => .error (.message ("not understood: ".toList ++ text))
  | parsed => parsed

/-- The three of them, tried one after the other on a part. -/
def parseAtom (action : BpAction) (part : List Char) :
    Parsed (List Breakpoint) := do
  let register ← notUnderstood (parseRegister action part)
  let memory ← notUnderstood (parseMemory action part)
  let instruction ← notUnderstood (parseInstruction action part)
  .ok (register.toList ++ memory.toList ++ instruction.toList)

end Atoms

section Parser

/-- What the loop of parse_breakpoint knows about operators. -/
inductive Combine where
  | notSet
  | single
  | operator (op : BpOperator)
deriving DecidableEq, Repr

/-- The change of the depth by a part: one parenthesis is opened if it starts
with one, each closing one counts. -/
def depthChange (part : List Char) : Int :=
  (if part.head? = some '(' then 1 else 0) - part.count ')'

/-- The number of parts in front of the one at which the depth is zero. -/
def endIndex (depth : Int) : List (List Char) → Option Nat
  | [] => none
  | part :: parts =>
      if depth + depthChange part = 0 then some 0
      else (endIndex (depth + depthChange part) parts).map (· + 1)

/-- The text between the first and the last character of the parts. -/
def inner (parts : List (List Char)) : List Char :=
  (([' '].intercalate parts).drop 1).dropLast

/-- The operator that a part is. -/
def operator? (part : List Char) : Option BpOperator :=
  if part = BpOperator.and.text then some .and
  else if part = BpOperator.or.text then some .or
  else none

/-- The loop of parse_breakpoint over the parts, of which the first ones may
have been dealt with. -/
def parseParts (parse : List Char → Parsed Breakpoint) (text : List Char)
    (action : BpAction) (skip : Nat) (combine : Combine)
    (parsed : List Breakpoint) :
    List (List Char) → Parsed (Combine × List Breakpoint)
  | [] => .ok (combine, parsed)
  | part :: parts =>
      match skip with
      | skip + 1 => parseParts parse text action skip combine parsed parts
      | 0 =>
          if part.head? = some '(' then
            match endIndex 0 (part :: parts) with
            | none =>
                .error (.message ("( and ) unbalanced: ".toList ++ text))
            | some n => do
                let bp ← parse (inner ((part :: parts).take (n + 1)))
                parseParts parse text action n combine (parsed ++ [bp]) parts
          else
            match operator? part, combine with
            | some op, .operator op' =>
                if op = op' then
                  parseParts parse text action 0 combine parsed parts
                else
                  .error (.message "combining and/or in one definition".toList)
            | some op, _ =>
                parseParts parse text action 0 (.operator op) parsed parts
            | none, .single =>
                .error (.message "and/or missing".toList)
            | none, _ => do
                let atoms ← parseAtom action part
                parseParts parse text action 0
                  (if combine = .notSet then .single else combine)
                  (parsed ++ atoms) parts

/-- What is made of the parts. -/
def conclude : Combine × List Breakpoint → Parsed Breakpoint
  | (.operator op, parsed) => .ok (.combined op parsed .invalid)
  | (_, [bp]) => .ok bp
  | _ => .error (.message "wrong count of items".toList)

/-- parse_breakpoint, to a bounded depth. -/
def parseFrom (action : BpAction) : Nat → List Char → Parsed Breakpoint
  | 0, _ => .error .tooDeep
  | fuel + 1, text => do
      let found ←
        parseParts (parseFrom action fuel) text action 0 .notSet []
          (split ' ' text)
      conclude found

/-- parse_breakpoint. -/
def parseBreakpoint (text : List Char) (action : BpAction) : Parsed Breakpoint :=
  parseFrom action (text.length + 1) text

end Parser

end KekPdp11
