import Mathlib.Data.Finset.Erase
import Mathlib.Data.Finset.Insert
import SetCalculator.Proofs.Session.Change

/-!
# What one register tells of another

Two sessions hold the same in some registers and may differ in the others. Which registers they then
share after executing the same commands can be told from the commands alone: a register that is read
is shared, one that receives a result is shared if both operands are, and else no longer, and all
others stay as they are (`Command.sharedAfter`). So nothing gets from a register that is not shared
into one that is, nor into the answers, the phase or the number of items, and what is printed of a
shared register is the same text (`AgreeOn.perform`, `AgreeOn.executeAll`).

A stopped session refuses every command, so what is shared is settled by the commands before the
first `stop` (`sharedAlong`). To go on counting the registers that later commands would read is
wrong: they are not read.
-/

namespace SetCalculator

/-! ## Registers that are shared -/

/-- The registers in which two sessions hold the same after a command, if `shared` are those before
it. -/
def Command.sharedAfter (shared : Finset Register) : Command → Finset Register
  | .read target _ => insert target shared
  | .combine _ lhs rhs dest =>
    if lhs ∈ shared ∧ rhs ∈ shared then insert dest shared else shared.erase dest
  | .print _ => shared
  | .stop => shared

/-- The registers that are shared after commands, if `shared` are those before them. What follows
the first `stop` is not executed. -/
def sharedAlong (shared : Finset Register) (commands : List Command) : Finset Register :=
  (commands.takeWhile (· ≠ .stop)).foldl Command.sharedAfter shared

/-- No command after a stop counts. -/
theorem sharedAlong_stop (shared : Finset Register) (commands : List Command) :
    sharedAlong shared (.stop :: commands) = shared := by
  simp [sharedAlong]

/-- A command that is no stop changes what is shared, and the others go on from there. -/
theorem sharedAlong_cons {command : Command} (h : command ≠ .stop) (shared : Finset Register)
    (commands : List Command) :
    sharedAlong shared (command :: commands) =
      sharedAlong (command.sharedAfter shared) commands := by
  simp [sharedAlong, h]

namespace Session

/-! ## Commands one after the other -/

/-- Executes commands one after the other. -/
def executeAll (s : Session) : List Command → Step Session (List (Except Refusal Flow))
  | [] => ⟨[], s, []⟩
  | command :: commands =>
    let done := s.execute command
    let rest := done.state.executeAll commands
    ⟨done.answer :: rest.answer, rest.state, done.events ++ rest.events⟩

/-- A stopped session refuses one command after the other, and stays as it is. -/
theorem executeAll_of_terminated {s : Session} (hs : s.phase = .terminated)
    (commands : List Command) :
    (s.executeAll commands).state = s ∧
      (s.executeAll commands).answer = commands.map fun _ => .error .terminated := by
  induction commands with
  | nil => exact ⟨rfl, rfl⟩
  | cons command commands ih =>
    obtain ⟨hstate, hanswer⟩ := ih
    simp only [executeAll, execute_terminated hs, hstate, hanswer, List.map_cons, and_self]

/-- The sessions capture, hold the same in the shared registers, are in the same phase and have
captured as many items. -/
structure AgreeOn (shared : Finset Register) (s t : Session) : Prop where
  contents : ∀ r ∈ shared, s.registers.get r = t.registers.get r
  phase : s.phase = t.phase
  items : s.transcript.size = t.transcript.size
  captures : s.capturing = true
  captures' : t.capturing = true

namespace AgreeOn

variable {shared : Finset Register} {s t : Session}

/-- Sessions that agree still do after each has shown an item, whatever it is. -/
theorem emit (h : AgreeOn shared s t) (stream : Stream) (text text' : String) :
    AgreeOn shared (s.emit stream text).state (t.emit stream text').state := by
  rw [state_emit h.captures, state_emit h.captures']
  refine ⟨h.contents, h.phase, ?_, h.captures, h.captures'⟩
  rw [Array.size_push, Array.size_push, h.items]

/-- Writing the same to a register makes it shared. -/
theorem assign (h : AgreeOn shared s t) (r : Register) (contents : MemberSet) :
    AgreeOn (insert r shared) { s with registers := s.registers.set r contents }
      { t with registers := t.registers.set r contents } := by
  refine ⟨fun q hq => ?_, h.phase, h.items, h.captures, h.captures'⟩
  show (s.registers.set r contents).get q = (t.registers.set r contents).get q
  rw [Registers.get_set, Registers.get_set]
  split
  · rfl
  · rename_i hne
    exact h.contents q (Finset.mem_of_mem_insert_of_ne hq hne)

/-- Writing anything to a register leaves the others shared. -/
theorem overwrite (h : AgreeOn shared s t) (r : Register) (contents contents' : MemberSet) :
    AgreeOn (shared.erase r) { s with registers := s.registers.set r contents }
      { t with registers := t.registers.set r contents' } := by
  refine ⟨fun q hq => ?_, h.phase, h.items, h.captures, h.captures'⟩
  obtain ⟨hne, hq⟩ := Finset.mem_erase.1 hq
  show (s.registers.set r contents).get q = (t.registers.set r contents').get q
  rw [Registers.get_set, Registers.get_set, if_neg hne, if_neg hne]
  exact h.contents q hq

/-- **One command** is answered alike by sessions that agree, and they agree on what is shared after
it. -/
theorem perform (h : AgreeOn shared s t) (command : Command) :
    (s.perform command).answer = (t.perform command).answer ∧
      AgreeOn (command.sharedAfter shared) (s.perform command).state
        (t.perform command).state := by
  cases command with
  | read target members => exact ⟨rfl, h.assign target _⟩
  | print register => exact ⟨rfl, h.emit .output _ _⟩
  | combine op lhs rhs dest =>
    refine ⟨rfl, ?_⟩
    show AgreeOn _ { s with registers := s.registers.set dest _ }
      { t with registers := t.registers.set dest _ }
    -- If an operand is not shared the results may differ, and so the destination is no longer
    -- shared.
    by_cases hshared : lhs ∈ shared ∧ rhs ∈ shared
    · rw [Command.sharedAfter, if_pos hshared, h.contents lhs hshared.1, h.contents rhs hshared.2]
      exact h.assign dest _
    · rw [Command.sharedAfter, if_neg hshared]
      exact h.overwrite dest _ _
  | stop => exact ⟨rfl, h.contents, rfl, h.items, h.captures, h.captures'⟩

/-- **Commands one after the other.** The induction is on the commands, and what is shared follows
them up to the first `stop`; the sessions are stopped by it together and refuse the rest. -/
theorem executeAll (h : AgreeOn shared s t) (hs : s.phase = .idle) (commands : List Command) :
    (s.executeAll commands).answer = (t.executeAll commands).answer ∧
      AgreeOn (sharedAlong shared commands) (s.executeAll commands).state
        (t.executeAll commands).state := by
  induction commands generalizing shared s t with
  | nil => exact ⟨rfl, h⟩
  | cons command commands ih =>
    obtain ⟨hanswer, hstate⟩ := h.perform command
    have hs' : t.phase = .idle := h.phase.symm.trans hs
    simp only [Session.executeAll, execute_of_idle hs, execute_of_idle hs', hanswer]
    by_cases hstop : command = .stop
    · subst hstop
      obtain ⟨hrest, hrefused⟩ :=
        executeAll_of_terminated (s := (s.perform .stop).state) rfl commands
      obtain ⟨hrest', hrefused'⟩ :=
        executeAll_of_terminated (s := (t.perform .stop).state) rfl commands
      rw [hrest, hrest', hrefused, hrefused', sharedAlong_stop]
      exact ⟨rfl, hstate⟩
    · have hidle := (phase_perform_of_ne_stop s hstop).trans hs
      obtain ⟨hanswers, hend⟩ := ih hstate hidle
      rw [hanswers, sharedAlong_cons hstop]
      exact ⟨rfl, hend⟩

/-- What is printed of a shared register is the same text: an idle session shows what the register
holds, and a stopped one nothing. -/
theorem exists_shown (h : AgreeOn shared s t) {r : Register} (hr : r ∈ shared) :
    ∃ shown : List String,
      (s.execute (.print r)).state.transcript.toList = s.transcript.toList ++ shown ∧
      (t.execute (.print r)).state.transcript.toList = t.transcript.toList ++ shown ∧
      (s.phase = .idle → shown = [(s.registers.get r).render]) := by
  cases hphase : s.phase with
  | terminated =>
    refine ⟨[], ?_, ?_, nofun⟩
    · rw [execute_terminated hphase, List.append_nil]
    · rw [execute_terminated (h.phase.symm.trans hphase), List.append_nil]
  | idle =>
    refine ⟨[(s.registers.get r).render], ?_, ?_, fun _ => rfl⟩
    · rw [execute_of_idle hphase]
      show (s.emit .output _).state.transcript.toList = _
      rw [state_emit h.captures]
      exact Array.toList_push
    · rw [execute_of_idle (h.phase.symm.trans hphase), h.contents r hr]
      show (t.emit .output _).state.transcript.toList = _
      rw [state_emit h.captures']
      exact Array.toList_push

end AgreeOn

/-- **A register that is not shared tells nothing of one that is.** Two idle sessions capture, have
captured the same items and hold the same in the registers `shared`; they execute the same commands.
After every beginning of the commands they hold the same in the registers that are shared by then, a
command that prints one of these shows the same text in both, and they are in the same phase, have
captured as many items, and have executed or refused each command alike. -/
theorem executeAll_shares {s t : Session} {shared : Finset Register} (hs : s.phase = .idle)
    (ht : t.phase = .idle) (hcaptures : s.capturing = true) (hcaptures' : t.capturing = true)
    (hitems : s.transcript = t.transcript)
    (hshared : ∀ r ∈ shared, s.registers.get r = t.registers.get r) (commands : List Command)
    (n : Nat) :
    let now := sharedAlong shared (commands.take n)
    let s' := s.executeAll (commands.take n)
    let t' := t.executeAll (commands.take n)
    (∀ r ∈ now, s'.state.registers.get r = t'.state.registers.get r) ∧
    (∀ r ∈ now, ∃ shown : List String,
      (s'.state.execute (.print r)).state.transcript.toList =
        s'.state.transcript.toList ++ shown ∧
      (t'.state.execute (.print r)).state.transcript.toList =
        t'.state.transcript.toList ++ shown ∧
      (s'.state.phase = .idle → shown = [(s'.state.registers.get r).render])) ∧
    s'.state.phase = t'.state.phase ∧
    s'.state.transcript.size = t'.state.transcript.size ∧
    s'.answer = t'.answer := by
  intro now s' t'
  have hagree : AgreeOn shared s t :=
    ⟨hshared, hs.trans ht.symm, congrArg Array.size hitems, hcaptures, hcaptures'⟩
  obtain ⟨hanswer, hstate⟩ := hagree.executeAll hs (commands.take n)
  refine ⟨hstate.contents, ?_, hstate.phase, hstate.items, hanswer⟩
  intro r hr
  exact hstate.exists_shown hr

/-- The sessions differ in the register that the union then makes them share; the read after the
stop shares nothing more. -/
theorem executeAll_shares_up_to_stop :
    let s := (captured.execute (.read .b [1])).state
    let t := (s.execute (.read .a [5])).state
    let commands := [.combine .union .b .c .a, .stop, .read .d [2]]
    s.registers.get .a ≠ t.registers.get .a ∧
    sharedAlong {.b, .c} commands = {.a, .b, .c} ∧
    (s.executeAll commands).state.registers.get .a =
      (t.executeAll commands).state.registers.get .a ∧
    (s.executeAll commands).answer = (t.executeAll commands).answer ∧
    (s.executeAll commands).state.transcript.size =
      (t.executeAll commands).state.transcript.size := by
  intro s t commands
  have hshared : ∀ r ∈ ({.b, .c} : Finset Register), s.registers.get r = t.registers.get r := by
    decide +kernel
  obtain ⟨hcontents, -, -, hitems, hanswer⟩ :=
    executeAll_shares (s := s) (t := t) rfl rfl rfl rfl rfl hshared commands 3
  exact ⟨by decide +kernel, by decide +kernel, hcontents .a (by decide +kernel), hanswer, hitems⟩

/-- **Commands after a `stop` share nothing**: two sessions that differ in a register still differ
in it after a `stop` and a command that would have read it. So registers cannot be followed along
all the commands. -/
theorem sharing_needs_the_stop :
    ¬ ∀ (s t : Session) (shared : Finset Register) (commands : List Command),
      s.phase = .idle → t.phase = .idle → s.capturing = true → t.capturing = true →
      s.transcript = t.transcript → (∀ r ∈ shared, s.registers.get r = t.registers.get r) →
      ∀ r ∈ commands.foldl Command.sharedAfter shared,
        (s.executeAll commands).state.registers.get r =
          (t.executeAll commands).state.registers.get r := by
  intro hall
  have hsame := hall captured (captured.execute (.read .a [5])).state ∅ [.stop, .read .a [1]]
    rfl rfl rfl rfl rfl (by simp) .a (by decide +kernel)
  exact absurd hsame (by decide +kernel)

end Session

end SetCalculator
