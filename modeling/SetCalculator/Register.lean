import SetCalculator.MemberSet.Algebra

/-!
# Registers

A calculator keeps six named sets. `Registers` is their contents, read by `get` and written by
`set`; a register that is not written keeps its contents. An operation reads both operands before
it writes its result, so the result may go to an operand's register.
-/

namespace SetCalculator

/-- One of the six set names. -/
inductive Register where
  | a
  | b
  | c
  | d
  | e
  | f
  deriving DecidableEq, Repr

namespace Register

/-- The registers in the order of their names. -/
def all : List Register := [a, b, c, d, e, f]

/-- The name by which a line refers to the register. -/
def name : Register → String
  | a => "SETA"
  | b => "SETB"
  | c => "SETC"
  | d => "SETD"
  | e => "SETE"
  | f => "SETF"

/-- The register with exactly this name. -/
def ofName? (word : List Char) : Option Register :=
  all.find? fun r => r.name.toList = word

/-- The place of the register in the order of the names. -/
def index : Register → Nat
  | a => 0
  | b => 1
  | c => 2
  | d => 3
  | e => 4
  | f => 5

/-- The list of the registers is complete. -/
theorem mem_all (r : Register) : r ∈ all := by
  cases r <;> decide

@[simp] theorem ofName?_name (r : Register) : ofName? r.name.toList = some r := by
  cases r <;> decide +kernel

/-- A word is read as a register exactly if it is the name of that register. -/
theorem ofName?_eq_some_iff {word : List Char} {r : Register} :
    ofName? word = some r ↔ word = r.name.toList := by
  constructor
  · intro h
    have := List.find?_some h
    simpa using (of_decide_eq_true this).symm
  · rintro rfl
    exact ofName?_name r

end Register

/-- The contents of the six registers. -/
structure Registers where
  a : MemberSet
  b : MemberSet
  c : MemberSet
  d : MemberSet
  e : MemberSet
  f : MemberSet
  deriving DecidableEq

namespace Registers

/-- All registers empty. -/
def empty : Registers := ⟨.empty, .empty, .empty, .empty, .empty, .empty⟩

instance : Inhabited Registers := ⟨empty⟩

/-- The contents of a register. -/
def get (rs : Registers) : Register → MemberSet
  | .a => rs.a
  | .b => rs.b
  | .c => rs.c
  | .d => rs.d
  | .e => rs.e
  | .f => rs.f

/-- Replaces the contents of a register. -/
def set (rs : Registers) (r : Register) (s : MemberSet) : Registers :=
  match r with
  | .a => { rs with a := s }
  | .b => { rs with b := s }
  | .c => { rs with c := s }
  | .d => { rs with d := s }
  | .e => { rs with e := s }
  | .f => { rs with f := s }

/-- Replaces the contents of a register by the given members. -/
def read (rs : Registers) (r : Register) (ms : List Nat) : Registers :=
  rs.set r ((rs.get r).refill ms)

/-- Adds one member to a register, and refuses a number that cannot be one. -/
def insert? (rs : Registers) (r : Register) (m : Nat) : Option Registers :=
  ((rs.get r).insert? m).map (rs.set r)

/-- Stores the result of an operation on the contents of `lhs` and `rhs` into `dest`. -/
def combine (rs : Registers) (op : SetOperation) (lhs rhs dest : Register) : Registers :=
  rs.set dest (op.apply (rs.get lhs) (rs.get rhs))

/-- The registers with their contents, in the order of the names. -/
def toList (rs : Registers) : List (Register × MemberSet) :=
  Register.all.map fun r => (r, rs.get r)

/-! ## Reading what was written -/

@[simp] theorem get_empty (r : Register) : empty.get r = .empty := by
  cases r <;> rfl

/-- A register that is set holds the new set, and the others hold what they held before. -/
theorem get_set (rs : Registers) (r q : Register) (s : MemberSet) :
    (rs.set r s).get q = if q = r then s else rs.get q := by
  cases r <;> cases q <;> rfl

@[simp] theorem get_set_self (rs : Registers) (r : Register) (s : MemberSet) :
    (rs.set r s).get r = s := by
  simp [get_set]

/-- Contents are equal if each register holds the same set. -/
theorem ext_get {rs qs : Registers} (h : ∀ r, rs.get r = qs.get r) : rs = qs := by
  cases rs
  cases qs
  exact congr (congr (congr (congr (congr (congrArg Registers.mk (h .a)) (h .b)) (h .c)) (h .d))
    (h .e)) (h .f)

end Registers

end SetCalculator
