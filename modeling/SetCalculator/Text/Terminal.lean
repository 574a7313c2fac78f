import SetCalculator.Text.Quoted

/-!
# Text on a terminal

Some control characters steer a terminal: they ring, erase, move the cursor or begin a command. A
message that holds text from outside is disarmed before it is shown: such a character is written by
its code point, and every other one stands for itself. Nothing in a disarmed text steers a terminal
(`not_steersTerminal_of_mem_disarm`).
-/

namespace SetCalculator.Text

/-- Whether a character steers a terminal: the bell, the backspace, the form feed, the escape, the
delete and the controls from U+0080 to U+009F. -/
def steersTerminal (c : Char) : Bool :=
  c ∈ ['\x07', '\x08', '\x0c', '\x1b', '\x7f'] || (0x80 ≤ c.toNat && c.toNat ≤ 0x9F)

/-- The escape that writes a character by two hexadecimal digits, as in `\x1b`. -/
def byteEscape (c : Char) : List Char :=
  ['\\', 'x', Nat.digitChar (c.toNat / 16), Nat.digitChar (c.toNat % 16)]

/-- The written form of one character of a disarmed text. -/
def disarmChar (c : Char) : List Char :=
  if steersTerminal c then if c.toNat < 0x80 then byteEscape c else numericEscape c else [c]

/-- The text without characters that steer a terminal. -/
def disarm (text : List Char) : List Char := text.flatMap disarmChar

/-! ## What is left in a disarmed text -/

/-- The characters that steer a terminal lie below U+00A0, so that they can be checked one by
one. -/
theorem lt_of_steersTerminal {c : Char} (h : steersTerminal c) : c.toNat < 0xA0 := by
  simp only [steersTerminal, Bool.or_eq_true, decide_eq_true_eq, List.mem_cons, List.not_mem_nil,
    or_false, Bool.and_eq_true] at h
  rcases h with (rfl | rfl | rfl | rfl | rfl) | h
  · decide
  · decide
  · decide
  · decide
  · decide
  · omega

/-- No character of the written form of a character steers a terminal. -/
theorem not_steersTerminal_of_mem_disarmChar {c d : Char} (h : c ∈ disarmChar d) :
    steersTerminal c = false := by
  by_cases hd : steersTerminal d
  · have key : (List.range 0xA0).all (fun n =>
        !steersTerminal (Char.ofNat n) || (disarmChar (Char.ofNat n)).all (!steersTerminal ·)) := by
      decide +kernel
    have hn := List.all_eq_true.1 key d.toNat (List.mem_range.2 (lt_of_steersTerminal hd))
    rw [Char.ofNat_toNat, hd, Bool.not_true, Bool.false_or] at hn
    simpa using List.all_eq_true.1 hn c h
  · simp only [disarmChar, hd, Bool.false_eq_true, if_false, List.mem_singleton] at h
    subst h
    exact Bool.eq_false_iff.2 hd

/-- No character of a disarmed text steers a terminal. -/
theorem not_steersTerminal_of_mem_disarm {c : Char} {text : List Char} (h : c ∈ disarm text) :
    steersTerminal c = false := by
  obtain ⟨d, -, hc⟩ := List.mem_flatMap.1 h
  exact not_steersTerminal_of_mem_disarmChar hc

example : disarm "a\x1b[1m\u009b".toList = "a\\x1b[1m\\u\x7b9b\x7d".toList := by decide +kernel

end SetCalculator.Text
