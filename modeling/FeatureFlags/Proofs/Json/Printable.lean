import FeatureFlags.Proofs.Json.Texts

/-! JSON text on one line is printable. Whatever a text holds, it is written in printable ASCII
characters, and nothing else stands between the texts of a record.
-/

namespace FeatureFlags.Json

/-- Text of printable ASCII characters, among which there are neither line ends nor control
characters.
-/
def Printable (text : List Char) : Prop := ∀ c ∈ text, 0x20 ≤ c.toNat ∧ c.toNat < 0x7F

theorem printable_nil : Printable [] := by
  simp [Printable]

@[simp] theorem printable_cons_iff {c : Char} {text : List Char}
    : Printable (c :: text) ↔ (0x20 ≤ c.toNat ∧ c.toNat < 0x7F) ∧ Printable text :=
  List.forall_mem_cons

@[simp] theorem printable_append_iff {text more : List Char}
    : Printable (text ++ more) ↔ Printable text ∧ Printable more :=
  List.forall_mem_append

-----------------------------------------------------------------------------------------
-- Characters and texts
-----------------------------------------------------------------------------------------

theorem printable_of_hexDigit? {c : Char} {n : Nat} (digit : hexDigit? c = some n)
    : 0x20 ≤ c.toNat ∧ c.toNat < 0x7F := by
  unfold hexDigit? at digit
  split at digit
  · next decimal =>
      simp only [Char.isDigit, ge_iff_le, Bool.and_eq_true, decide_eq_true_eq,
        UInt32.le_iff_toNat_le] at decimal
      change 48 ≤ c.toNat ∧ c.toNat ≤ 57 at decimal
      omega
  split at digit
  · next lower =>
      change 97 ≤ c.toNat ∧ c.toNat ≤ 102 at lower
      omega
  split at digit
  · next upper =>
      change 65 ≤ c.toNat ∧ c.toNat ≤ 70 at upper
      omega
  · contradiction

theorem printable_codeEscape {n : Nat} (bound : n < 0x10000) : Printable (codeEscape n) := by
  obtain ⟨a, b, c, d, digits, value⟩ := exists_hexadecimal bound
  simp only [hexValue?, List.foldlM_cons, List.foldlM_nil, Option.bind_eq_bind,
    Option.bind_eq_some_iff, Option.map_eq_some_iff] at value
  obtain ⟨_, ⟨_, first, -⟩, _, ⟨_, second, -⟩, _, ⟨_, third, -⟩, _, ⟨_, fourth, -⟩, -⟩ := value
  rw [codeEscape, digits]
  simp [printable_nil, printable_of_hexDigit? first, printable_of_hexDigit? second,
    printable_of_hexDigit? third, printable_of_hexDigit? fourth]

/-- However a character is written, the form is printable, by the cases of the escape. -/
theorem printable_escape (c : Char) : Printable (escape true c) := by
  have range := toNat_range c
  unfold escape
  repeat
    split
    · simp [printable_nil]
  split
  · next control => exact printable_codeEscape (by omega)
  split
  · next visible =>
      have small : c.toNat < 0x7F := by simpa using visible
      simp only [printable_cons_iff, printable_nil, and_true]
      omega
  split
  · next unit => exact printable_codeEscape unit
  · exact printable_append_iff.mpr
      ⟨printable_codeEscape (by omega), printable_codeEscape (by omega)⟩

theorem printable_quoteChars (text : List Char) : Printable (quoteChars true text) := by
  have inside : Printable (text.flatMap (escape true)) := by
    intro d member
    obtain ⟨c, -, written⟩ := List.mem_flatMap.mp member
    exact printable_escape c d written
  simp [quoteChars, inside, printable_nil]

-----------------------------------------------------------------------------------------
-- Records
-----------------------------------------------------------------------------------------

/-- Printable parts make a printable whole, by list induction. -/
theorem printable_intercalate {separator : List Char} (between : Printable separator)
    {parts : List (List Char)} (each : ∀ part ∈ parts, Printable part)
    : Printable (separator.intercalate parts) := by
  induction parts with
  | nil => exact printable_nil
  | cons part rest ih =>
      obtain ⟨first, others⟩ := List.forall_mem_cons.mp each
      cases rest with
      | nil => simpa using first
      | cons next more =>
          rw [List.intercalate_cons_cons, printable_append_iff, printable_append_iff]
          exact ⟨⟨first, between⟩, ih others⟩

/-- The fields of a record of texts are printable, by list induction. -/
theorem printable_writeEntries {fields : List (String × Datum)}
    (texts : ∀ e ∈ fields, ∃ s, e.2 = .text s) (level : Nat)
    : ∀ part ∈ writeEntries compact level fields, Printable part := by
  induction fields with
  | nil => simp [writeEntries]
  | cons field rest ih =>
      obtain ⟨name, x⟩ := field
      obtain ⟨⟨s, rfl⟩, others⟩ := List.forall_mem_cons.mp texts
      rw [writeEntries, List.forall_mem_cons]
      refine ⟨?_, ih others⟩
      simp [compact, writeChars, printable_quoteChars]

/-- The text of a record of texts is printable. -/
theorem printable_of_write {fields : List (String × Datum)}
    (texts : ∀ e ∈ fields, ∃ s, e.2 = .text s) {text : String}
    (written : write compact (.record fields) = .ok text)
    : Printable text.toList := by
  have between : Printable [',', ' '] := by simp [printable_nil]
  have inside := printable_intercalate between (printable_writeEntries texts 1)
  unfold write at written
  split at written
  · contradiction
  · rw [← Except.ok.inj written, String.toList_ofList, writeChars, enclose]
    split
    · simp [printable_nil]
    · simpa [Layout.newline, Layout.comma, compact, printable_nil] using inside

end FeatureFlags.Json
