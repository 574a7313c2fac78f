import Mathlib.Data.List.Forall2
import SetCalculator.Command
import SetCalculator.Proofs.Line.Layout
import SetCalculator.Proofs.Text.Numeral

/-!
# The operands of a command

`Command.OperandWords c ws` says that the words `ws` spell the operands of the command `c`: register
names in the order in which the command takes them, and for a command that reads, after its target,
one numeral for each member and a last one for the terminator.

The operands of a line are gone through twice, once to check them (`checkOperands`) and once to
build the command (`Command.build`), by functions that share no code beyond the reading of one word.
`checkOperands_eq_ok_iff` says that the check passes exactly the words that spell the operands of
some command with the keyword at hand, and `build_eq_ok_iff` that on words that passed, building
gives that command. So building refuses nothing that was accepted (`exists_build_eq_ok`).
-/

namespace SetCalculator

open Text

/-- A sequence of two steps succeeds if both do. -/
theorem bind_eq_ok_iff {ε α β : Type _} {x : Except ε α} {f : α → Except ε β} {b : β} :
    (x >>= f) = .ok b ↔ ∃ a, x = .ok a ∧ f a = .ok b := by
  cases x with
  | error e =>
    refine ⟨fun h => ?_, fun h => ?_⟩
    · cases h
    · obtain ⟨a, h, -⟩ := h
      cases h
  | ok a =>
    refine ⟨fun h => ⟨a, rfl, h⟩, fun h => ?_⟩
    · obtain ⟨_, h, hb⟩ := h
      cases h
      exact hb

/-- The word is a numeral of the member `m`. -/
def DenotesMember (w : List Char) (m : Nat) : Prop :=
  Denotes w (m : Int) ∧ m < MemberSet.universeSize

/-- The words spell the operands of the command. -/
def Command.OperandWords : Command → List (List Char) → Prop
  | .read target members, ws => ∃ numbers last, ws = target.name.toList :: (numbers ++ [last]) ∧
      List.Forall₂ DenotesMember numbers members ∧ Denotes last terminator
  | .print register, ws => ws = [register.name.toList]
  | .combine _ lhs rhs dest, ws => ws = [lhs.name.toList, rhs.name.toList, dest.name.toList]
  | .stop, ws => ws = []

/-! ## One word -/

/-- The members are the numbers of the universe. -/
theorem isMember_iff {z : Int} : isMember z = true ↔ 0 ≤ z ∧ z < 128 := by
  rw [isMember, Bool.and_eq_true, decide_eq_true_eq, decide_eq_true_eq]
  rfl

/-- Cutting off at the 64-bit limits makes no number a member, and no member another one. -/
theorem isMember_clamp_iff {z : Int} :
    isMember (clamp z) = true ↔ ∃ m : Nat, z = m ∧ m < MemberSet.universeSize := by
  simp only [isMember_iff, MemberSet.universeSize, clamp, leastInteger, greatestInteger]
  refine ⟨fun h => ?_, fun h => ?_⟩
  · obtain ⟨h0, h1⟩ := h
    exact ⟨z.toNat, by omega, by omega⟩
  · obtain ⟨m, rfl, hm⟩ := h
    omega

/-- Members lie within the limits. -/
theorem clamp_member {m : Nat} (h : m < MemberSet.universeSize) : clamp (m : Int) = m := by
  simp only [MemberSet.universeSize] at h
  exact clamp_of_mem (by simp only [leastInteger]; omega) (by simp only [greatestInteger]; omega)

/-- No other number is clamped to the terminator. -/
theorem clamp_eq_terminator_iff {z : Int} : clamp z = terminator ↔ z = terminator := by
  simp only [clamp, leastInteger, greatestInteger, terminator]
  omega

/-- A word passes as a register exactly if it is the name of one. -/
theorem checkRegister_eq_ok_iff {w : List Char} :
    checkRegister w = .ok () ↔ ∃ r : Register, w = r.name.toList := by
  unfold checkRegister
  split
  · rename_i h
    simpa only [Option.isSome_iff_exists, Register.ofName?_eq_some_iff, true_iff] using h
  · rename_i h
    simpa only [Option.isSome_iff_exists, Register.ofName?_eq_some_iff, reduceCtorEq, false_iff]
      using h

/-- A word passes as a member exactly if it is a numeral of one. -/
theorem checkMember_eq_ok_iff {w : List Char} :
    checkMember w = .ok () ↔ ∃ m, DenotesMember w m := by
  refine ⟨fun h => ?_, fun h => ?_⟩
  · unfold checkMember at h
    split at h
    · cases h
    · rename_i value hvalue
      split at h
      · rename_i hmember
        obtain ⟨z, hz, rfl⟩ := integer?_eq_some_iff.1 hvalue
        obtain ⟨m, rfl, hm⟩ := isMember_clamp_iff.1 hmember
        exact ⟨m, hz, hm⟩
      · cases h
  · obtain ⟨m, hm, hlt⟩ := h
    have hvalue := integer?_eq_some_iff.2 ⟨_, hm, rfl⟩
    have hmember := isMember_clamp_iff.2 ⟨m, rfl, hlt⟩
    simp [checkMember, hvalue, hmember]

/-- A word passes as the terminator exactly if it is a numeral of it. -/
theorem checkTerminator_eq_ok_iff {w : List Char} :
    checkTerminator w = .ok () ↔ Denotes w terminator := by
  refine ⟨fun h => ?_, fun h => ?_⟩
  · unfold checkTerminator at h
    split at h
    · cases h
    · rename_i value hvalue
      obtain ⟨z, hz, rfl⟩ := integer?_eq_some_iff.1 hvalue
      split at h
      · cases h
      split at h
      · rename_i hend
        rwa [clamp_eq_terminator_iff.1 hend] at hz
      · cases h
  · have hvalue := integer?_eq_some_iff.2 ⟨_, h, rfl⟩
    rw [clamp_eq_terminator_iff.2 rfl] at hvalue
    simp only [checkTerminator, hvalue]
    rfl

/-- The member that is built from a word is the one that it denotes. -/
theorem buildMember_eq_ok_iff {w : List Char} {m : Nat} :
    Command.buildMember w = .ok m ↔ DenotesMember w m := by
  refine ⟨fun h => ?_, fun h => ?_⟩
  · unfold Command.buildMember at h
    split at h
    · cases h
    · rename_i value hvalue
      split at h
      · rename_i hmember
        obtain ⟨z, hz, rfl⟩ := integer?_eq_some_iff.1 hvalue
        obtain ⟨n, rfl, hn⟩ := isMember_clamp_iff.1 hmember
        rw [clamp_member hn] at h
        cases h
        exact ⟨hz, hn⟩
      · cases h
  · obtain ⟨hm, hlt⟩ := h
    have hvalue := integer?_eq_some_iff.2 ⟨_, hm, rfl⟩
    have hmember := isMember_clamp_iff.2 ⟨m, rfl, hlt⟩
    simp only [Command.buildMember, hvalue]
    rw [if_pos hmember, clamp_member hlt, Int.toNat_natCast]

/-- The name of a register builds this register. -/
theorem buildRegister_name (r : Register) :
    Command.buildRegister (some r.name.toList) = .ok r := by
  simp [Command.buildRegister]

/-- A register is built from its name alone. -/
theorem buildRegister_eq_ok_iff {w : Option (List Char)} {r : Register} :
    Command.buildRegister w = .ok r ↔ w = some r.name.toList := by
  refine ⟨fun h => ?_, fun h => ?_⟩
  · unfold Command.buildRegister at h
    split at h
    · rename_i q hq
      cases h
      obtain ⟨v, rfl, hv⟩ := Option.bind_eq_some_iff.1 hq
      rw [Register.ofName?_eq_some_iff.1 hv]
    · cases h
  · subst h
    exact buildRegister_name r

/-! ## Sequences of words -/

/-- The register names are checked one by one, and their number with them. -/
theorem checkRegisters_eq_ok_iff {keyword : Keyword} {count : Nat} {ws : List (List Char)} :
    checkRegisters keyword count ws = .ok () ↔
      ∃ rs : List Register, rs.length = count ∧ ws = rs.map (·.name.toList) := by
  induction count generalizing ws with
  | zero =>
    cases ws with
    | nil => simp [checkRegisters]
    | cons w ws => simp [checkRegisters]
  | succ count ih =>
    cases ws with
    | nil => simp [checkRegisters]
    | cons w ws =>
      rw [checkRegisters, bind_eq_ok_iff]
      refine ⟨fun h => ?_, fun h => ?_⟩
      · obtain ⟨_, hw, hws⟩ := h
        obtain ⟨r, rfl⟩ := checkRegister_eq_ok_iff.1 hw
        obtain ⟨rs, hlen, rfl⟩ := ih.1 hws
        exact ⟨r :: rs, by simp [hlen], rfl⟩
      · obtain ⟨rs, hlen, hrs⟩ := h
        cases rs with
        | nil => cases hrs
        | cons r rs =>
          obtain ⟨rfl, rfl⟩ := List.cons.inj hrs
          exact ⟨(), checkRegister_eq_ok_iff.2 ⟨r, rfl⟩, ih.2 ⟨rs, by simpa using hlen, rfl⟩⟩

/-- The numbers pass if they are numerals of members and, at the end, one of the terminator. -/
theorem checkMembers_eq_ok_iff {ws : List (List Char)} :
    checkMembers ws = .ok () ↔ ∃ numbers last members, ws = numbers ++ [last] ∧
      List.Forall₂ DenotesMember numbers members ∧ Denotes last terminator := by
  refine ⟨fun h => ?_, fun h => ?_⟩
  · fun_induction checkMembers ws with
    | case1 => cases h
    | case2 w => exact ⟨[], w, [], rfl, .nil, checkTerminator_eq_ok_iff.1 h⟩
    | case3 w ws _ ih =>
      obtain ⟨_, hw, hws⟩ := bind_eq_ok_iff.1 h
      obtain ⟨m, hm⟩ := checkMember_eq_ok_iff.1 hw
      obtain ⟨numbers, last, members, rfl, hnumbers, hlast⟩ := ih hws
      exact ⟨w :: numbers, last, m :: members, rfl, .cons hm hnumbers, hlast⟩
  · obtain ⟨numbers, last, members, rfl, hnumbers, hlast⟩ := h
    induction hnumbers with
    | nil => exact checkTerminator_eq_ok_iff.2 hlast
    | @cons w m ws ms hm _ ih =>
      obtain ⟨v, vs, hvs⟩ := List.exists_cons_of_ne_nil
        (List.append_ne_nil_of_right_ne_nil ws (List.cons_ne_nil last []))
      rw [List.cons_append, hvs, checkMembers.eq_3 _ _ (by simp), bind_eq_ok_iff, ← hvs]
      exact ⟨(), checkMember_eq_ok_iff.2 ⟨m, hm⟩, ih⟩

/-- Members are built from numerals of them, in the same order. -/
theorem mapM_buildMember_eq_ok_iff {numbers : List (List Char)} {members : List Nat} :
    numbers.mapM Command.buildMember = .ok members ↔
      List.Forall₂ DenotesMember numbers members := by
  induction numbers generalizing members with
  | nil =>
    rw [List.mapM_nil, List.forall₂_nil_left_iff]
    exact ⟨fun h => by cases h; rfl, fun h => by rw [h]; rfl⟩
  | cons w numbers ih =>
    rw [List.mapM_cons, bind_eq_ok_iff, List.forall₂_cons_left_iff]
    refine ⟨fun h => ?_, fun h => ?_⟩
    · obtain ⟨m, hm, h⟩ := h
      obtain ⟨ms, hms, h⟩ := bind_eq_ok_iff.1 h
      cases h
      exact ⟨m, ms, buildMember_eq_ok_iff.1 hm, ih.1 hms, rfl⟩
    · obtain ⟨m, ms, hm, hms, rfl⟩ := h
      exact ⟨m, buildMember_eq_ok_iff.2 hm, bind_eq_ok_iff.2 ⟨ms, ih.2 hms, rfl⟩⟩

/-! ## The check and the building -/

/-- The check of a reading command passes the name of a register and, behind it, numbers that end
with the terminator. -/
theorem checkOperands_read_eq_ok_iff {ws : List (List Char)} :
    checkOperands .read ws = .ok () ↔
      ∃ target members, (Command.read target members).OperandWords ws := by
  cases ws with
  | nil => exact iff_of_false nofun fun ⟨_, _, _, _, h, _⟩ => nomatch h
  | cons w ws =>
    rw [checkOperands, bind_eq_ok_iff]
    refine ⟨fun ⟨_, hw, hws⟩ => ?_, fun ⟨target, members, numbers, last, heq, hwords⟩ => ?_⟩
    · obtain ⟨target, rfl⟩ := checkRegister_eq_ok_iff.1 hw
      obtain ⟨numbers, last, members, rfl, hwords⟩ := checkMembers_eq_ok_iff.1 hws
      exact ⟨target, members, numbers, last, rfl, hwords⟩
    · obtain ⟨rfl, rfl⟩ := List.cons.inj heq
      exact ⟨(), checkRegister_eq_ok_iff.2 ⟨target, rfl⟩,
        checkMembers_eq_ok_iff.2 ⟨numbers, last, members, rfl, hwords⟩⟩

/-- The operands of a command that does not read are registers, and are checked as such. -/
theorem checkOperands_eq_checkRegisters (keyword : Keyword) (h : keyword ≠ .read)
    (ws : List (List Char)) :
    checkOperands keyword ws = checkRegisters keyword keyword.registerCount ws := by
  cases keyword with
  | read => exact absurd rfl h
  | print | combine | stop => rfl

/-- The check of a command that does not read passes as many names of registers as the command
takes. -/
theorem checkOperands_eq_ok_iff_of_ne_read (keyword : Keyword) (h : keyword ≠ .read)
    {ws : List (List Char)} : checkOperands keyword ws = .ok () ↔
      ∃ rs : List Register, rs.length = keyword.registerCount ∧ ws = rs.map (·.name.toList) := by
  rw [checkOperands_eq_checkRegisters keyword h, checkRegisters_eq_ok_iff]

/-- **The check passes exactly the operands of some command** with the keyword. -/
theorem checkOperands_eq_ok_iff {keyword : Keyword} {ws : List (List Char)} :
    checkOperands keyword ws = .ok () ↔ ∃ c : Command, c.keyword = keyword ∧ c.OperandWords ws := by
  constructor
  · intro h
    cases keyword with
    | read =>
      obtain ⟨target, members, hwords⟩ := checkOperands_read_eq_ok_iff.1 h
      exact ⟨.read target members, rfl, hwords⟩
    | print =>
      obtain ⟨rs, hlength, rfl⟩ := (checkOperands_eq_ok_iff_of_ne_read .print nofun).1 h
      obtain ⟨r, rfl⟩ := List.length_eq_one_iff.1 hlength
      exact ⟨.print r, rfl, rfl⟩
    | combine op =>
      obtain ⟨rs, hlength, rfl⟩ := (checkOperands_eq_ok_iff_of_ne_read (.combine op) nofun).1 h
      obtain ⟨lhs, rhs, dest, rfl⟩ := List.length_eq_three.1 hlength
      exact ⟨.combine op lhs rhs dest, rfl, rfl⟩
    | stop =>
      obtain ⟨rs, hlength, rfl⟩ := (checkOperands_eq_ok_iff_of_ne_read .stop nofun).1 h
      obtain rfl := List.length_eq_zero_iff.1 hlength
      exact ⟨.stop, rfl, rfl⟩
  · rintro ⟨c, rfl, hwords⟩
    cases c with
    | read target members => exact checkOperands_read_eq_ok_iff.2 ⟨target, members, hwords⟩
    | print r => exact (checkOperands_eq_ok_iff_of_ne_read .print nofun).2 ⟨[r], rfl, hwords⟩
    | combine op lhs rhs dest =>
      exact (checkOperands_eq_ok_iff_of_ne_read (.combine op) nofun).2
        ⟨[lhs, rhs, dest], rfl, hwords⟩
    | stop => exact (checkOperands_eq_ok_iff_of_ne_read .stop nofun).2 ⟨[], rfl, hwords⟩

/-- From the operands of a command, building gives the command. -/
theorem build_of_operandWords {c : Command} {ws : List (List Char)} (h : c.OperandWords ws) :
    Command.build c.keyword ws = .ok c := by
  cases c with
  | read target members =>
    obtain ⟨numbers, last, rfl, hnumbers, -⟩ := h
    obtain ⟨v, vs, hvs⟩ := List.exists_cons_of_ne_nil
      (List.append_ne_nil_of_right_ne_nil numbers (List.cons_ne_nil last []))
    have hdrop : (v :: vs).dropLast = numbers := by rw [← hvs, List.dropLast_concat]
    refine bind_eq_ok_iff.2 ⟨target, buildRegister_name target, ?_⟩
    simp only [List.tail_cons, hvs]
    refine bind_eq_ok_iff.2 ⟨members, ?_, rfl⟩
    rw [hdrop, mapM_buildMember_eq_ok_iff.2 hnumbers]
  | print r =>
    obtain rfl := h
    exact bind_eq_ok_iff.2 ⟨r, buildRegister_name r, rfl⟩
  | combine op lhs rhs dest =>
    obtain rfl := h
    refine bind_eq_ok_iff.2 ⟨lhs, buildRegister_name lhs, ?_⟩
    refine bind_eq_ok_iff.2 ⟨rhs, buildRegister_name rhs, ?_⟩
    exact bind_eq_ok_iff.2 ⟨dest, buildRegister_name dest, rfl⟩
  | stop => rfl

/-- **What passed the check is built**, and into nothing else than the command that it spells. -/
theorem build_eq_ok_iff {keyword : Keyword} {ws : List (List Char)} {c : Command}
    (h : checkOperands keyword ws = .ok ()) :
    Command.build keyword ws = .ok c ↔ c.keyword = keyword ∧ c.OperandWords ws := by
  refine ⟨fun hbuild => ?_, fun h => ?_⟩
  · obtain ⟨c', rfl, hc'⟩ := checkOperands_eq_ok_iff.1 h
    rw [build_of_operandWords hc'] at hbuild
    cases hbuild
    exact ⟨rfl, hc'⟩
  · obtain ⟨rfl, hc⟩ := h
    exact build_of_operandWords hc

/-- Operands that pass the check build a command of the keyword, so building never fails after
judging. -/
theorem exists_build_eq_ok {keyword : Keyword} {ws : List (List Char)}
    (h : checkOperands keyword ws = .ok ()) :
    ∃ c : Command, c.keyword = keyword ∧ Command.build keyword ws = .ok c := by
  obtain ⟨c, rfl, hc⟩ := checkOperands_eq_ok_iff.1 h
  exact ⟨c, rfl, build_of_operandWords hc⟩

end SetCalculator
