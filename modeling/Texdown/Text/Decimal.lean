import Texdown.Text.Basic
import Texdown.Text.Ranges

/-!
# Decimal digits

Every script that writes decimal numbers has ten digits in a row, so a table of their zeros tells the
digits and their values. Other digits, such as raised ones, stand for a number but are no part of one.

Results:
* `decimalValue?_of_isDigit`: ASCII digits are decimal digits, with their own values.
* `readDecimals_eq`: a run of ASCII digits has the same value among those of all scripts.
-/
namespace Texdown.Text

def decimalZeros : List Nat :=
  [0x30, 0x660, 0x6f0, 0x7c0, 0x966, 0x9e6, 0xa66, 0xae6, 0xb66, 0xbe6, 0xc66, 0xce6, 0xd66, 0xde6,
   0xe50, 0xed0, 0xf20, 0x1040, 0x1090, 0x17e0, 0x1810, 0x1946, 0x19d0, 0x1a80, 0x1a90, 0x1b50,
   0x1bb0, 0x1c40, 0x1c50, 0xa620, 0xa8d0, 0xa900, 0xa9d0, 0xa9f0, 0xaa50, 0xabf0, 0xff10, 0x104a0,
   0x10d30, 0x11066, 0x110f0, 0x11136, 0x111d0, 0x112f0, 0x11450, 0x114d0, 0x11650, 0x116c0,
   0x11730, 0x118e0, 0x11950, 0x11c50, 0x11d50, 0x11da0, 0x16a60, 0x16ac0, 0x16b50, 0x1d7ce,
   0x1d7d8, 0x1d7e2, 0x1d7ec, 0x1d7f6, 0x1e140, 0x1e2f0, 0x1e950, 0x1fbf0]

/-- The value of a decimal digit of any script. -/
def decimalValue? (c : Char) : Option Nat :=
  (decimalZeros.find? fun z => z ≤ c.toNat && c.toNat < z + 10).map (c.toNat - ·)

def isDecimal (c : Char) : Bool := (decimalValue? c).isSome

/-- The digits that are no decimal ones. -/
def otherDigits : Ranges :=
  [(0xb2, 0xb3), (0xb9, 0xb9), (0x1369, 0x1371), (0x19da, 0x19da), (0x2070, 0x2070), (0x2074, 0x2079),
   (0x2080, 0x2089), (0x2460, 0x2468), (0x2474, 0x247c), (0x2488, 0x2490), (0x24ea, 0x24ea), (0x24f5, 0x24fd),
   (0x24ff, 0x24ff), (0x2776, 0x277e), (0x2780, 0x2788), (0x278a, 0x2792), (0x10a40, 0x10a43),
   (0x10e60, 0x10e68), (0x11052, 0x1105a), (0x1f100, 0x1f10a)]

/-- A digit of any script, whether numbers are made of it or not. -/
def isAnyDigit (c : Char) : Bool := isDecimal c || otherDigits.contains c

def readDecimals (t : Text) : Nat := t.foldl (fun n c => n * 10 + (decimalValue? c).getD 0) 0

theorem decimalValue?_of_isDigit {c : Char} (h : isDigit c = true) :
    decimalValue? c = some (c.toNat - '0'.toNat) := by
  simp only [isDigit, Bool.and_eq_true, decide_eq_true_eq, Char.le_def, UInt32.le_iff_toNat_le] at h
  have hl : 0x30 ≤ c.toNat := h.1
  have hu : c.toNat ≤ 0x39 := h.2
  have hb : (0x30 ≤ c.toNat && c.toNat < 0x30 + 10) = true := by simp; omega
  have hf : (decimalZeros.find? fun z => z ≤ c.toNat && c.toNat < z + 10) = some 0x30 :=
    List.find?_cons_of_pos hb
  rw [decimalValue?, hf]
  rfl

theorem isDecimal_of_isDigit {c : Char} (h : isDigit c = true) : isDecimal c = true := by
  rw [isDecimal, decimalValue?_of_isDigit h]
  rfl

/-- A run of ASCII digits has the same value among the digits of all scripts. -/
theorem readDecimals_eq {t : Text} (h : t.all isDigit = true) : readDecimals t = readDigits 10 t := by
  have hfold : ∀ n, t.foldl (fun n c => n * 10 + (decimalValue? c).getD 0) n
      = t.foldl (fun n c => n * 10 + hexValue c) n := by
    induction t with
    | nil => exact fun n => rfl
    | cons c t ih =>
      intro n
      obtain ⟨hdigit, hrest⟩ := Bool.and_eq_true_iff.1 h
      rw [List.foldl_cons, List.foldl_cons, ih hrest, decimalValue?_of_isDigit hdigit, Option.getD_some, hexValue,
        if_pos hdigit]
  exact hfold 0

end Texdown.Text
