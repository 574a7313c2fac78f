import Mathlib.Logic.Function.Basic
import SetCalculator.Proofs.MemberSet.Building
import SetCalculator.Register

/-!
# Writing the registers one after the other

Whatever is done to the registers writes one of them: it is refilled, gets one more member, or takes
the result of an operation. `Registers.perform_eq_set` says so once for all three: the register is
set to a value that is computed from the registers as they were (`Write.value`), also where it is an
operand itself. From this follow the other statements: the registers are a map from names to finite
sets, on which a write is an update (`Represents.performAll`); a register that is not written keeps
its sections (`get_performAll_of_not_target`); and it holds what was last written to it
(`get_performAll_of_last`).
-/

namespace SetCalculator.Registers

/-- What can be done to the registers. Each of these writes one of them. -/
inductive Write where
  /-- Replaces the contents by the given members. -/
  | read (target : Register) (members : List Nat)
  /-- Adds one number, or nothing if it cannot be a member. -/
  | insert (target : Register) (member : Nat)
  /-- Stores the result of an operation on the contents of two registers. -/
  | combine (op : SetOperation) (lhs rhs dest : Register)
  deriving DecidableEq, Repr

namespace Write

/-- The register that is written. -/
def target : Write → Register
  | read target _ | insert target _ | combine _ _ _ target => target

/-- What is written, if these are the registers before. -/
def value (rs : Registers) : Write → MemberSet
  | read _ members => .ofList members
  | insert target member => (rs.get target).insert member
  | combine op lhs rhs _ => op.apply (rs.get lhs) (rs.get rhs)

/-- What is written, if these are the finite sets before. Of the numbers given only those below 128
count. -/
def finset (sets : Register → Finset Nat) : Write → Finset Nat
  | read _ members => members.toFinset ∩ Finset.range 128
  | insert target member => sets target ∪ ({member} ∩ Finset.range 128)
  | combine op lhs rhs _ => op.onFinsets (sets lhs) (sets rhs)

/-- The finite sets after a write. -/
def assign (sets : Register → Finset Nat) (w : Write) : Register → Finset Nat :=
  Function.update sets w.target (w.finset sets)

end Write

/-- Performs one write. A number that is refused leaves the registers as they are. -/
def perform (rs : Registers) : Write → Registers
  | .read target members => rs.read target members
  | .insert target member => (rs.insert? target member).getD rs
  | .combine op lhs rhs dest => rs.combine op lhs rhs dest

/-- Performs writes one after the other. -/
def performAll (rs : Registers) (ws : List Write) : Registers := ws.foldl perform rs

/-! ## One write -/

variable {rs : Registers}

/-- Setting a register to what it holds changes nothing. -/
theorem set_get (rs : Registers) (r : Register) : rs.set r (rs.get r) = rs := by
  refine ext_get fun q => ?_
  rw [get_set]
  split
  · next h => rw [h]
  · rfl

/-- **A write sets its register** to a value that the registers before it determine. -/
theorem perform_eq_set (rs : Registers) (w : Write) :
    rs.perform w = rs.set w.target (w.value rs) := by
  cases w with
  | read target members => rfl
  | combine op lhs rhs dest => rfl
  | insert target member =>
    simp only [perform, insert?, Write.target, Write.value]
    rcases Nat.lt_or_ge member 128 with hlt | hge
    · rw [((rs.get target).insert?_of_lt hlt).1, Option.map_some, Option.getD_some]
    · obtain ⟨hnone, hsame⟩ := (rs.get target).insert?_of_ge hge
      rw [hnone, hsame, Option.map_none, Option.getD_none, set_get]

/-- After a write, its register holds what it writes. -/
theorem get_perform_target (rs : Registers) (w : Write) :
    (rs.perform w).get w.target = w.value rs := by
  rw [perform_eq_set, get_set_self]

/-- A write leaves the other registers alone. -/
theorem get_perform_of_ne {w : Write} {r : Register} (h : r ≠ w.target) :
    (rs.perform w).get r = rs.get r := by
  rw [perform_eq_set, get_set, if_neg h]

/-! ## The map from registers to finite sets -/

/-- The registers hold these finite sets. -/
def Represents (rs : Registers) (sets : Register → Finset Nat) : Prop :=
  ∀ r, (rs.get r).toFinset = sets r

namespace Represents

variable {sets : Register → Finset Nat}

/-- Empty registers hold empty sets. -/
theorem empty : Registers.empty.Represents fun _ => ∅ := by
  intro r
  rw [get_empty, MemberSet.toFinset_empty]

/-- What is written is the finite set that is written. -/
theorem value (h : rs.Represents sets) (w : Write) : (w.value rs).toFinset = w.finset sets := by
  ext m
  cases w with
  | read target members =>
    rw [MemberSet.mem_toFinset, Write.value, Write.finset, MemberSet.contains_ofList,
      Finset.mem_inter, List.mem_toFinset, Finset.mem_range, and_comm]
  | insert target member =>
    rw [MemberSet.mem_toFinset, Write.value, Write.finset, MemberSet.contains_insert_iff,
      ← MemberSet.mem_toFinset, h target, Finset.mem_union, Finset.mem_inter,
      Finset.mem_singleton, Finset.mem_range, and_comm]
  | combine op lhs rhs dest =>
    rw [Write.value, Write.finset, SetOperation.toFinset_apply, h lhs, h rhs]

/-- **One write** updates the map at its target. -/
theorem perform (h : rs.Represents sets) (w : Write) :
    (rs.perform w).Represents (w.assign sets) := by
  intro r
  rw [Write.assign, Function.update_apply]
  split
  · next hr => rw [hr, get_perform_target, h.value]
  · next hr => rw [get_perform_of_ne hr, h r]

/-- **Writes one after the other** update the map one after the other. -/
theorem performAll (h : rs.Represents sets) (ws : List Write) :
    (rs.performAll ws).Represents (ws.foldl Write.assign sets) := by
  induction ws generalizing rs sets with
  | nil => exact h
  | cons w ws ih => exact ih (h.perform w)

/-- The map determines the registers. -/
theorem unique {qs : Registers} (hr : rs.Represents sets) (hq : qs.Represents sets) : qs = rs := by
  refine ext_get fun r => MemberSet.toFinset_injective ?_
  rw [hq r, hr r]

end Represents

/-! ## What was last written -/

/-- A register that no write aims at keeps its contents. -/
theorem get_performAll_of_not_target {ws : List Write} {r : Register}
    (h : ∀ w ∈ ws, w.target ≠ r) (rs : Registers) : (rs.performAll ws).get r = rs.get r := by
  induction ws generalizing rs with
  | nil => rfl
  | cons w ws ih =>
    have hw : r ≠ w.target := (h w List.mem_cons_self).symm
    have hws : ∀ w ∈ ws, w.target ≠ r := fun w hw => h w (List.mem_cons_of_mem _ hw)
    calc (rs.performAll (w :: ws)).get r
        = ((rs.perform w).performAll ws).get r := rfl
      _ = (rs.perform w).get r := ih hws _
      _ = rs.get r := get_perform_of_ne hw

/-- **A register holds what was last written to it.** -/
theorem get_performAll_of_last {after : List Write} {w : Write}
    (h : ∀ later ∈ after, later.target ≠ w.target) (rs : Registers) (before : List Write) :
    (rs.performAll (before ++ w :: after)).get w.target = w.value (rs.performAll before) := by
  have hsplit : rs.performAll (before ++ w :: after) =
      ((rs.performAll before).perform w).performAll after := by
    rw [performAll, List.foldl_append, List.foldl_cons]
    rfl
  rw [hsplit, get_performAll_of_not_target h, get_perform_target]

/-! ## The listing -/

/-- The listing names all six registers, in the order of their names. -/
theorem names_toList (rs : Registers) :
    rs.toList.map (fun entry => entry.1.name) =
      ["SETA", "SETB", "SETC", "SETD", "SETE", "SETF"] := rfl

/-- The listing shows of each register what it holds. -/
theorem eq_get_of_mem_toList {entry : Register × MemberSet} (h : entry ∈ rs.toList) :
    entry.2 = rs.get entry.1 := by
  obtain ⟨r, -, rfl⟩ := List.mem_map.1 h
  rfl

/-- **The registers are a map that is updated at one name at a time.** After any writes to empty
registers they hold the finite sets that the same updates of an empty map give, and no other
registers hold these. The next write, whatever it is, gives its register a value that is determined
before it, and leaves every section of the others alone. Each register holds what was last written
to it, or nothing if it never was, and the listing shows what it holds, in the order of the
names. -/
theorem writes_update_a_map (ws : List Write) :
    let rs := empty.performAll ws
    let sets := ws.foldl Write.assign fun _ => ∅
    (∀ r, (rs.get r).toFinset = sets r ∧ sets r ⊆ Finset.range 128) ∧
    (∀ qs : Registers, (∀ r, (qs.get r).toFinset = sets r) → qs = rs) ∧
    (∀ w : Write, (rs.perform w).get w.target = w.value rs ∧
      ∀ r, r ≠ w.target → ∀ i (h : i < 16),
        ((rs.perform w).get r).sections[i] = (rs.get r).sections[i]) ∧
    (∀ before w after, ws = before ++ w :: after → (∀ later ∈ after, later.target ≠ w.target) →
      rs.get w.target = w.value (empty.performAll before)) ∧
    (∀ r, (∀ w ∈ ws, w.target ≠ r) → rs.get r = .empty) ∧
    rs.toList.map (fun entry => entry.1.name) = ["SETA", "SETB", "SETC", "SETD", "SETE", "SETF"] ∧
    ∀ entry ∈ rs.toList, entry.2 = rs.get entry.1 := by
  intro rs sets
  have hsets : rs.Represents sets := Represents.empty.performAll ws
  refine ⟨fun r => ⟨hsets r, ?_⟩, fun qs hq => hsets.unique hq, fun w => ?_, ?_, fun r hr => ?_,
    rs.names_toList, fun _ => eq_get_of_mem_toList⟩
  · rw [← hsets r]
    exact MemberSet.toFinset_subset _
  · refine ⟨get_perform_target rs w, fun r hr i hi => ?_⟩
    rw [get_perform_of_ne hr]
  · rintro before w after rfl hlater
    exact get_performAll_of_last hlater empty before
  · rw [get_performAll_of_not_target hr, get_empty]

/-- A difference stored into its first operand, and then a symmetric difference into its second one;
a number that is too large was refused on the way. -/
theorem writes_update_a_map_over_operands :
    let before := [.read .a [1, 2, 100], .read .b [2, 3, 100], .insert .b 200]
    let w := Write.combine .difference .a .b .a
    let after := [Write.combine .symmetricDifference .a .b .b]
    let rs := empty.performAll (before ++ w :: after)
    let qs := empty.performAll [.read .b [3, 1, 2, 100], .insert .a 1]
    (rs.get .a).toFinset = {1} ∧ (rs.get .b).toFinset = {1, 2, 3, 100} ∧ qs = rs ∧
    (∀ later ∈ after, later.target ≠ w.target) ∧
    rs.get .a = w.value (empty.performAll before) ∧
    (∀ any ∈ before ++ w :: after, any.target ≠ .c) ∧ rs.get .c = .empty ∧
    (∀ i (h : i < 16), ((rs.perform w).get .b).sections[i] = (rs.get .b).sections[i]) ∧
    ∀ entry ∈ rs.toList, entry.2 = rs.get entry.1 := by
  intro before w after rs qs
  obtain ⟨hsets, hunique, hnext, hlast, hnever, -, hlist⟩ :=
    writes_update_a_map (before ++ w :: after)
  have hqs : ∀ r, (qs.get r).toFinset =
      ((before ++ w :: after).foldl Write.assign fun _ => ∅) r := by
    intro r
    cases r <;> decide +kernel
  have hlater : ∀ later ∈ after, later.target ≠ w.target := by decide
  have hthird : ∀ any ∈ before ++ w :: after, any.target ≠ .c := by
    simp [before, w, after, Write.target]
  have ha : ((before ++ w :: after).foldl Write.assign fun _ => ∅) .a = {1} := by decide +kernel
  have hb : ((before ++ w :: after).foldl Write.assign fun _ => ∅) .b = {1, 2, 3, 100} := by
    decide +kernel
  exact ⟨(hsets .a).1.trans ha, (hsets .b).1.trans hb, hunique qs hqs, hlater,
    hlast before w after rfl hlater, hthird, hnever .c hthird, (hnext w).2 .b (by decide), hlist⟩

end SetCalculator.Registers
