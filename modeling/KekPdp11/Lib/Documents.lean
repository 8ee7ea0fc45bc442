import Mathlib.Algebra.Group.Int.Defs
import Mathlib.Data.List.Basic

/-!
# Documents

What a program may rely on of a JSON library: a type of documents is a
`JsonDocument` with the laws of its operations.  A member that was given a value
has it, and the other members are as before; what is not there is null, and null
has neither members nor elements.  Functions that write and read documents take
any such type.

`Document` is one of them: trees of values, of which an object has its members
in the order in which they were added.
-/

/-- The documents of a JSON library. -/
class JsonDocument (D : Type) where
  null : D
  bool : Bool → D
  number : Int → D
  text : String → D
  array : List D → D
  /-- The document with a value for the member. -/
  put : String → D → D → D
  /-- The value of a member. -/
  member : String → D → D
  containsKey : String → D → Bool
  elements : D → List D
  members : D → List (String × D)
  /-- As an unsigned number of so many bits. -/
  toBits : (w : Nat) → D → BitVec w
  toInt : D → Int
  toBool : D → Bool
  toText : D → String
  /-- The document can be given members. -/
  TakesMembers : D → Prop
  takesMembers_null : TakesMembers null
  takesMembers_put (key : String) (v j : D) :
    TakesMembers (put key v j) ↔ TakesMembers j
  member_put_self (key : String) (v : D) {j : D} (h : TakesMembers j) :
    member key (put key v j) = v
  member_put_of_ne {key key' : String} (h : key' ≠ key) (v j : D) :
    member key' (put key v j) = member key' j
  member_null (key : String) : member key null = null
  containsKey_put (key key' : String) (v : D) {j : D} (h : TakesMembers j) :
    containsKey key' (put key v j) =
      (decide (key' = key) || containsKey key' j)
  containsKey_null (key : String) : containsKey key null = false
  elements_array (es : List D) : elements (array es) = es
  elements_null : elements null = []
  toBits_number {w : Nat} {n : Int} (h : 0 ≤ n ∧ n < 2 ^ w) :
    toBits w (number n) = BitVec.ofInt w n
  toInt_number {n : Int} (h : -2 ^ 63 ≤ n ∧ n < 2 ^ 63) : toInt (number n) = n
  toBool_bool (b : Bool) : toBool (bool b) = b
  toText_text (s : String) : toText (text s) = s

namespace JsonDocument

attribute [simp] takesMembers_null takesMembers_put member_put_self
  member_null containsKey_put containsKey_null elements_array elements_null
  toBool_bool toText_text

variable {D : Type} [JsonDocument D]

/-- An unsigned number. -/
def ofBits {w : Nat} (v : BitVec w) : D :=
  number v.toNat

@[simp] theorem toBits_ofBits
    {w : Nat} (v : BitVec w) :
    toBits w (ofBits v : D) = v := by
  have hv : (0 : Int) ≤ v.toNat ∧ (v.toNat : Int) < 2 ^ w := by
    constructor
    · exact Int.natCast_nonneg _
    · exact_mod_cast v.isLt
  refine (toBits_number hv).trans ?_
  simp

theorem toInt_ofBits
    {w : Nat} (hw : w < 64) (v : BitVec w) :
    toInt (ofBits v : D) = v.toNat := by
  have hlt : v.toNat < 2 ^ 63 :=
    Nat.lt_of_lt_of_le v.isLt (Nat.pow_le_pow_right (by decide) (by omega))
  exact toInt_number (by omega)

/-- Members that are given values one after the other. -/
@[simp] theorem takesMembers_foldl
    {α : Type} (key : α → String) (value : α → D) (as : List α) (j : D) :
    TakesMembers (as.foldl (fun j a => put (key a) (value a) j) j) ↔
      TakesMembers j := by
  induction as generalizing j with
  | nil =>
      rfl
  | cons a as ih =>
      rw [List.foldl_cons, ih, takesMembers_put]

end JsonDocument

/-- A tree of values. -/
inductive Document where
  | null
  | bool (b : Bool)
  | number (n : Int)
  | text (s : String)
  | array (elements : List Document)
  | object (members : List (String × Document))

namespace Document

/-- The elements of an array. -/
def elements : Document → List Document
  | .array es => es
  | _ => []

/-- The members of an object. -/
def members : Document → List (String × Document)
  | .object ms => ms
  | _ => []

/-- Put a value in the place of the key, or at the end. -/
def insertMember (key : String) (v : Document) :
    List (String × Document) → List (String × Document)
  | [] => [(key, v)]
  | m :: ms => if m.1 = key then (key, v) :: ms else m :: insertMember key v ms

/-- Null becomes an object; other values that are none stay as they are. -/
def put (key : String) (v : Document) : Document → Document
  | .null => .object [(key, v)]
  | .object ms => .object (insertMember key v ms)
  | j => j

def member? (key : String) (j : Document) : Option Document :=
  j.members.lookup key

def TakesMembers : Document → Prop
  | .null | .object _ => True
  | _ => False

theorem lookup_insertMember
    (key key' : String) (v : Document) (ms : List (String × Document)) :
    (insertMember key v ms).lookup key' =
      if key' = key then some v else ms.lookup key' := by
  induction ms with
  | nil =>
      unfold insertMember
      rw [List.lookup_cons]
      by_cases h : key' = key
      · simp [h]
      · simp [h, beq_eq_false_iff_ne.mpr h]
  | cons m ms ih =>
      unfold insertMember
      by_cases hm : m.1 = key
      · subst hm
        rw [if_pos rfl, List.lookup_cons, List.lookup_cons]
        by_cases h : key' = m.1
        · simp [h]
        · simp [h, beq_eq_false_iff_ne.mpr h]
      · rw [if_neg hm, List.lookup_cons, List.lookup_cons, ih]
        by_cases h : key' = m.1
        · have hne : key' ≠ key := by
            rw [h]
            exact hm
          simp [h, hm]
        · simp [beq_eq_false_iff_ne.mpr h]

theorem member?_put
    (key key' : String) (v : Document) {j : Document} (h : j.TakesMembers) :
    (put key v j).member? key' =
      if key' = key then some v else j.member? key' := by
  cases j with
  | null =>
      exact lookup_insertMember key key' v []
  | object ms =>
      exact lookup_insertMember key key' v ms
  | bool _ | number _ | text _ | array _ =>
      exact h.elim

theorem member?_put_of_ne
    {key key' : String} (hne : key' ≠ key) (v j : Document) :
    (put key v j).member? key' = j.member? key' := by
  cases j with
  | null =>
      rw [member?_put key key' v (j := .null) trivial, if_neg hne]
  | object ms =>
      rw [member?_put key key' v (j := .object ms) trivial, if_neg hne]
  | bool _ | number _ | text _ | array _ =>
      rfl

instance : JsonDocument Document where
  null := .null
  bool := .bool
  number := .number
  text := .text
  array := .array
  put := put
  member key j := (j.member? key).getD .null
  containsKey key j := (j.member? key).isSome
  elements := elements
  members := members
  toBits w
    | .number n => if 0 ≤ n ∧ n < 2 ^ w then BitVec.ofInt w n else 0
    | _ => 0
  toInt
    | .number n => n
    | _ => 0
  toBool
    | .bool b => b
    | .number n => n ≠ 0
    | _ => false
  toText
    | .text s => s
    | _ => "null"
  TakesMembers := TakesMembers
  takesMembers_null := trivial
  takesMembers_put key v j := by
    cases j <;> rfl
  member_put_self key v j h := by
    rw [member?_put key key v h, if_pos rfl]
    rfl
  member_put_of_ne h v j := by
    rw [member?_put_of_ne h]
  member_null _ := rfl
  containsKey_put key key' v j h := by
    rw [member?_put key key' v h]
    by_cases hkey : key' = key
    · simp [hkey]
    · simp [hkey]
  containsKey_null _ := rfl
  elements_array _ := rfl
  elements_null := rfl
  toBits_number h := if_pos h
  toInt_number _ := rfl
  toBool_bool _ := rfl
  toText_text _ := rfl

end Document
