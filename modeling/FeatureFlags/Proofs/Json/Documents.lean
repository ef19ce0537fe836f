import FeatureFlags.Proofs.Datum.Digits
import FeatureFlags.Proofs.Json.Numbers
import FeatureFlags.Proofs.Json.Texts
import FeatureFlags.Proofs.OrderedMap

/-! What JSON text holds is what was written. Data without moments, sets and values that are no
numbers, in which every record has distinct names, is read back as it was, unless an integer in it has
too many digits: then it has no text.
-/

namespace FeatureFlags

-----------------------------------------------------------------------------------------
-- Records with distinct names
-----------------------------------------------------------------------------------------

namespace Datum

/-- Entries of records are entries of maps, by list induction. -/
theorem putEntry_eq_put (name : String) (x : Datum) (entries : List (String × Datum))
    : putEntry name x entries = OrderedMap.put name x entries := by
  induction entries with
  | nil => rfl
  | cons entry rest ih =>
      obtain ⟨n, v⟩ := entry
      simp [putEntry, OrderedMap.put, ih]

/-- The entries of a record with distinct names are all kept. -/
theorem distinctEntries_eq_self {entries : List (String × Datum)}
    (distinct : (entries.map Prod.fst).Nodup)
    : distinctEntries entries = entries := by
  have collected (m : OrderedMap String Datum)
      : entries.foldl (fun all e => putEntry e.1 e.2 all) m.entries
        = (entries.foldl (fun m e => m.insert e.1 e.2) m).entries :=
    List.foldl_hom OrderedMap.entries (fun m e => putEntry_eq_put e.1 e.2 m.entries)
  exact (collected .empty).trans (OrderedMap.entries_ofList distinct)

end Datum

namespace Json

/-- Data that JSON text holds without loss. -/
inductive Faithful : Datum → Prop where
  | null : Faithful .null
  | bool (b : Bool) : Faithful (.bool b)
  | int (n : Int) : Faithful (.int n)
  | double {x : Double} (number : x.isNaN = false) : Faithful (.double x)
  | text (s : String) : Faithful (.text s)
  | list {members : List Datum} (each : ∀ x ∈ members, Faithful x) : Faithful (.list members)
  | record {fields : List (String × Datum)} (distinct : (fields.map Prod.fst).Nodup)
      (each : ∀ e ∈ fields, Faithful e.2)
    : Faithful (.record fields)

-----------------------------------------------------------------------------------------
-- First characters
-----------------------------------------------------------------------------------------

/-- A value can begin with this character. -/
structure Begins (c : Char) : Prop where
  notSpace : isSpace c = false
  notClosing : c ≠ ']'
  notMark : c ≠ Char.ofNat 0xFEFF

/-- A constant or a number begins like a value, and neither like a text nor like a nest. -/
theorem begins_of_scalar? {s : List Char} {found : Step (Datum × List Char)}
    (read : scalar? s = some found)
    : ∃ c rest, s = c :: rest ∧ Begins c ∧ c ≠ '"' ∧ c ≠ '[' ∧ c ≠ '\x7b' := by
  unfold scalar? at read
  split at read
  case h_8 =>
    obtain ⟨c, rest, rfl, digit⟩ := exists_digit_of_unsigned? read
    refine ⟨c, rest, rfl, ⟨?_, ?_, ?_⟩, ?_, ?_, ?_⟩
    · by_contra space
      simp only [isSpace, Bool.not_eq_false, Bool.or_eq_true, decide_eq_true_eq] at space
      rcases space with ((rfl | rfl) | rfl) | rfl <;> exact absurd digit (by decide)
    all_goals
      rintro rfl
      exact absurd digit (by decide)
  all_goals exact ⟨_, _, rfl, ⟨by decide, by decide, by decide⟩, by decide, by decide, by decide⟩

theorem endsNumber_nil : EndsNumber [] := by
  intro c next
  simp at next

theorem endsNumber_cons {c : Char} (ends : c.isDigit = false ∧ c ≠ '.' ∧ c ≠ 'e' ∧ c ≠ 'E')
    (rest : List Char)
    : EndsNumber (c :: rest) := by
  intro d next
  obtain rfl : c = d := by simpa using next
  exact ends

theorem skipSpace_of_begins {c : Char} (begins : Begins c) (rest : List Char)
    : skipSpace (c :: rest) = c :: rest := by
  simp [skipSpace, begins.notSpace]

theorem exists_intercalate (separator : List Char) {text rest : List Char} {c : Char}
    (same : text = c :: rest) (parts : List (List Char))
    : ∃ behind, separator.intercalate (text :: parts) = c :: behind := by
  subst same
  cases parts with
  | nil => exact ⟨rest, List.intercalate_singleton⟩
  | cons next parts =>
      exact ⟨_, List.intercalate_cons_cons_left⟩

-----------------------------------------------------------------------------------------
-- Constants, numbers and texts
-----------------------------------------------------------------------------------------

/-- The written form of a value begins like one and is read back, given more fuel than it has
characters, in front of anything that ends a number.
-/
structure ReadsBack (x : Datum) : Prop where
  begins : ∀ level, ∃ c rest, writeChars compact level x = c :: rest ∧ Begins c
  reads
    : ∀ level fuel rest, (writeChars compact level x).length < fuel → EndsNumber rest
        → value fuel (writeChars compact level x ++ rest) = .ok (x, rest)

/-- What is written as a constant or a number is read back as a value. -/
theorem readsBack_of_scalar? {x : Datum}
    (written
      : ∀ level rest, EndsNumber rest
          → scalar? (writeChars compact level x ++ rest) = some (.ok (x, rest)))
    : ReadsBack x := by
  have begins (level : Nat) : ∃ c rest, writeChars compact level x = c :: rest
      ∧ Begins c ∧ c ≠ '"' ∧ c ≠ '[' ∧ c ≠ '\x7b' := by
    have read := written level [] endsNumber_nil
    rw [List.append_nil] at read
    exact begins_of_scalar? read
  constructor
  · intro level
    obtain ⟨c, rest, same, first, -⟩ := begins level
    exact ⟨c, rest, same, first⟩
  · intro level fuel rest enough ends
    obtain ⟨c, more, same, -, quote, bracket, brace⟩ := begins level
    obtain ⟨fuel, rfl⟩ : ∃ k, fuel = k + 1 := ⟨fuel - 1, by omega⟩
    have read := written level rest ends
    rw [same, List.cons_append] at read ⊢
    rw [value]
    · rw [read]
    all_goals simp [quote, bracket, brace]

/-- What is written behind an opening character is read back if it is read from there on with one
step of fuel less.
-/
theorem readsBack_of_opening {x : Datum} {opening : Char} (first : Begins opening)
    (inside : Nat → List Char)
    (written : ∀ level, writeChars compact level x = opening :: inside level)
    (reads
      : ∀ level fuel rest, (inside level).length < fuel → EndsNumber rest
          → value (fuel + 1) (opening :: (inside level ++ rest)) = .ok (x, rest))
    : ReadsBack x := by
  constructor
  · intro level
    exact ⟨opening, inside level, written level, first⟩
  · intro level fuel rest enough ends
    obtain ⟨fuel, rfl⟩ : ∃ k, fuel = k + 1 := ⟨fuel - 1, by omega⟩
    rw [written, List.length_cons] at enough
    rw [written, List.cons_append]
    exact reads level fuel rest (by omega) ends

theorem readsBack_null : ReadsBack .null :=
  readsBack_of_scalar? fun _ _ _ => by simp [writeChars, scalar?]

theorem readsBack_bool (b : Bool) : ReadsBack (.bool b) :=
  readsBack_of_scalar? fun _ _ _ => by cases b <;> simp [writeChars, scalar?]

theorem readsBack_text (s : String) : ReadsBack (.text s) := by
  have first : Begins '"' := ⟨by decide, by decide, by decide⟩
  refine readsBack_of_opening first (fun _ => s.toList.flatMap (escape true) ++ ['"']) ?_ ?_
  · intro level
    rfl
  · intro level fuel rest _ _
    rw [List.append_assoc, List.singleton_append, value, textBody_quoted]
    simp [Bind.bind, Except.bind, Pure.pure, Except.pure]

-----------------------------------------------------------------------------------------
-- Lists
-----------------------------------------------------------------------------------------

/-- The text between the brackets of a list. -/
def itemsText (level : Nat) (members : List Datum) : List Char :=
  [',', ' '].intercalate (writeItems compact level members)

theorem itemsText_cons (level : Nat) (x : Datum) {more : List Datum} (nonempty : more ≠ [])
    : itemsText level (x :: more)
      = writeChars compact level x ++ ',' :: ' ' :: itemsText level more := by
  cases more with
  | nil => exact absurd rfl nonempty
  | cons next more => simp [itemsText, writeItems, List.intercalate_cons_cons]

/-- The text of a list that is not empty begins like a value. -/
theorem begins_itemsText {x : Datum} (back : ReadsBack x) (level : Nat) (more : List Datum)
    : ∃ c rest, itemsText level (x :: more) = c :: rest ∧ Begins c := by
  obtain ⟨c, rest, same, begins⟩ := back.begins level
  obtain ⟨behind, text⟩ := exists_intercalate [',', ' '] same
    (writeItems compact level more)
  exact ⟨c, behind, text, begins⟩

/-- The text between the brackets of a list is read back, by list induction. -/
theorem items_readBack {x : Datum} {more : List Datum} (each : ∀ y ∈ x :: more, ReadsBack y)
    (level fuel : Nat) (rest : List Char) (enough : (itemsText level (x :: more)).length + 1 < fuel)
    : items fuel (itemsText level (x :: more) ++ ']' :: rest) = .ok (x :: more, rest) := by
  induction more generalizing x fuel with
  | nil =>
      obtain ⟨fuel, rfl⟩ : ∃ k, fuel = k + 1 := ⟨fuel - 1, by omega⟩
      have text : itemsText level [x] = writeChars compact level x := by
        simp [itemsText, writeItems]
      rw [text] at enough ⊢
      have read := (each x (by simp)).reads level fuel (']' :: rest) (by omega)
        (endsNumber_cons (by decide) rest)
      rw [items, read]
      rfl
  | cons next more ih =>
      obtain ⟨fuel, rfl⟩ : ∃ k, fuel = k + 1 := ⟨fuel - 1, by omega⟩
      obtain ⟨c, behind, text, begins⟩ := begins_itemsText (each next (by simp)) level more
      rw [itemsText_cons level x (by simp), List.append_assoc]
      rw [itemsText_cons level x (by simp)] at enough
      simp only [List.length_append, List.length_cons] at enough
      have read := (each x (by simp)).reads level fuel
        (',' :: ' ' :: itemsText level (next :: more) ++ ']' :: rest) (by omega)
        (endsNumber_cons (by decide) _)
      have others := ih (fun y member => each y (List.mem_cons_of_mem _ member)) fuel (by omega)
      have skipped : skipSpace (' ' :: itemsText level (next :: more) ++ ']' :: rest)
          = itemsText level (next :: more) ++ ']' :: rest := by
        rw [text]
        exact skipSpace_of_begins begins _
      rw [items, read]
      change items fuel (skipSpace (' ' :: itemsText level (next :: more) ++ ']' :: rest))
        >>= (fun found => .ok (x :: found.1, found.2)) = _
      rw [skipped, others]
      rfl

theorem readsBack_list {members : List Datum} (each : ∀ x ∈ members, ReadsBack x)
    : ReadsBack (.list members) := by
  have first : Begins '[' := ⟨by decide, by decide, by decide⟩
  cases members with
  | nil =>
      refine readsBack_of_opening first (fun _ => [']']) ?_ ?_
      · intro level
        simp [writeChars, writeItems, enclose]
      · intro level fuel rest _ _
        rfl
  | cons x more =>
      refine readsBack_of_opening first
        (fun level => itemsText (level + 1) (x :: more) ++ [']']) ?_ ?_
      · intro level
        simp [writeChars, itemsText, enclose, writeItems, Layout.newline, Layout.comma, compact]
      · intro level fuel rest enough ends
        obtain ⟨c, behind, same, begins⟩ := begins_itemsText (each x (by simp)) (level + 1) more
        simp only [List.length_append, List.length_cons, List.length_nil] at enough
        have read := items_readBack each (level + 1) fuel rest (by omega)
        have skipped : skipSpace (itemsText (level + 1) (x :: more) ++ ']' :: rest)
            = itemsText (level + 1) (x :: more) ++ ']' :: rest := by
          rw [same]
          exact skipSpace_of_begins begins _
        rw [List.append_assoc, List.singleton_append, value, skipped]
        split
        · next left closed =>
            rw [same] at closed
            exact absurd (List.cons.inj closed).1 begins.notClosing
        · rw [read]
          rfl

-----------------------------------------------------------------------------------------
-- Records
-----------------------------------------------------------------------------------------

/-- The text between the braces of a record. -/
def entriesText (level : Nat) (fields : List (String × Datum)) : List Char :=
  [',', ' '].intercalate (writeEntries compact level fields)

/-- The text of a field behind the quote that opens its name. -/
def fieldText (level : Nat) (field : String × Datum) : List Char :=
  field.1.toList.flatMap (escape true) ++ '"' :: ':' :: ' ' :: writeChars compact level field.2

theorem entriesText_singleton (level : Nat) (field : String × Datum)
    : entriesText level [field] = '"' :: fieldText level field := by
  simp [entriesText, fieldText, writeEntries, quoteChars, compact]

theorem entriesText_cons (level : Nat) (field : String × Datum) {more : List (String × Datum)}
    (nonempty : more ≠ [])
    : entriesText level (field :: more)
      = '"' :: (fieldText level field ++ ',' :: ' ' :: entriesText level more) := by
  cases more with
  | nil => exact absurd rfl nonempty
  | cons next more =>
      simp [entriesText, fieldText, writeEntries, quoteChars, compact, List.intercalate_cons_cons]

theorem exists_entriesText (level : Nat) (field : String × Datum) (more : List (String × Datum))
    : ∃ rest, entriesText level (field :: more) = '"' :: rest := by
  cases more with
  | nil => exact ⟨_, entriesText_singleton level field⟩
  | cons next more => exact ⟨_, entriesText_cons level field (by simp)⟩

/-- The name and the value of a field are read back, and then what follows is looked at. -/
theorem entries_field {field : String × Datum} (back : ReadsBack field.2) {level fuel : Nat}
    {rest : List Char} (enough : (fieldText level field).length < fuel) (ends : EndsNumber rest)
    : entries (fuel + 1) ('"' :: (fieldText level field ++ rest))
      = (match skipSpace rest with
          | '\x7d' :: left => .ok ([field], left)
          | ',' :: rest => do
            let (more, left) ← entries fuel (skipSpace rest)
            return (field :: more, left)
          | rest => stop .expectingComma rest.length) := by
  obtain ⟨name, x⟩ := field
  obtain ⟨c, text, same, begins⟩ := back.begins level
  have enough : (writeChars compact level x).length < fuel := by
    simp only [fieldText, List.length_append, List.length_cons] at enough
    omega
  have read := back.reads level fuel rest enough ends
  have skipped : skipSpace (' ' :: (writeChars compact level x ++ rest))
      = writeChars compact level x ++ rest := by
    rw [same]
    exact skipSpace_of_begins begins _
  rw [fieldText, List.append_assoc, entries]
  simp only [List.cons_append, textBody_quoted]
  change value fuel (skipSpace (' ' :: (writeChars compact level x ++ rest))) >>= _ = _
  rw [skipped, read, String.ofList_toList]
  rfl

/-- The text between the braces of a record is read back, by list induction. -/
theorem entries_readBack {field : String × Datum} {more : List (String × Datum)}
    (each : ∀ e ∈ field :: more, ReadsBack e.2) (level fuel : Nat) (rest : List Char)
    (enough : (entriesText level (field :: more)).length < fuel)
    : entries fuel (entriesText level (field :: more) ++ '\x7d' :: rest)
      = .ok (field :: more, rest) := by
  induction more generalizing field fuel with
  | nil =>
      obtain ⟨fuel, rfl⟩ : ∃ k, fuel = k + 1 := ⟨fuel - 1, by omega⟩
      rw [entriesText_singleton] at enough ⊢
      simp only [List.length_cons] at enough
      rw [List.cons_append, entries_field (each field (by simp)) (by omega)
        (endsNumber_cons (by decide) rest)]
      rfl
  | cons next more ih =>
      obtain ⟨fuel, rfl⟩ : ∃ k, fuel = k + 1 := ⟨fuel - 1, by omega⟩
      rw [entriesText_cons level field (by simp)] at enough ⊢
      simp only [List.length_cons, List.length_append] at enough
      obtain ⟨behind, text⟩ := exists_entriesText level next more
      have others := ih (fun e member => each e (List.mem_cons_of_mem _ member)) fuel (by omega)
      have skipped : skipSpace (' ' :: (entriesText level (next :: more) ++ '\x7d' :: rest))
          = entriesText level (next :: more) ++ '\x7d' :: rest := by
        rw [text]
        rfl
      rw [List.cons_append, List.append_assoc, List.cons_append,
        entries_field (each field (by simp)) (by omega)
          (endsNumber_cons (by decide) _)]
      change entries fuel (skipSpace (' ' :: (entriesText level (next :: more) ++ '\x7d' :: rest)))
        >>= (fun found => .ok (field :: found.1, found.2)) = _
      rw [skipped, others]
      rfl

theorem readsBack_record {fields : List (String × Datum)} (distinct : (fields.map Prod.fst).Nodup)
    (each : ∀ e ∈ fields, ReadsBack e.2)
    : ReadsBack (.record fields) := by
  have first : Begins '\x7b' := ⟨by decide, by decide, by decide⟩
  cases fields with
  | nil =>
      refine readsBack_of_opening first (fun _ => ['\x7d']) ?_ ?_
      · intro level
        simp [writeChars, writeEntries, enclose]
      · intro level fuel rest _ _
        rfl
  | cons field more =>
      refine readsBack_of_opening first
        (fun level => entriesText (level + 1) (field :: more) ++ ['\x7d']) ?_ ?_
      · intro level
        simp [writeChars, entriesText, enclose, writeEntries, Layout.newline, Layout.comma,
          compact]
      · intro level fuel rest enough ends
        obtain ⟨behind, same⟩ := exists_entriesText (level + 1) field more
        simp only [List.length_append, List.length_cons, List.length_nil] at enough
        have read := entries_readBack each (level + 1) fuel rest (by omega)
        have skipped : skipSpace (entriesText (level + 1) (field :: more) ++ '\x7d' :: rest)
            = entriesText (level + 1) (field :: more) ++ '\x7d' :: rest := by
          rw [same]
          rfl
        rw [List.append_assoc, List.singleton_append, value, skipped]
        split
        · next left closed =>
            rw [same] at closed
            exact absurd (List.cons.inj closed).1 (by decide)
        · rw [read]
          change Except.ok (Datum.record (Datum.distinctEntries (field :: more)), rest) = _
          rw [Datum.distinctEntries_eq_self distinct]

-----------------------------------------------------------------------------------------
-- Documents
-----------------------------------------------------------------------------------------

/-- Faithful data is read back if its integers can be, by induction over the data. -/
theorem Faithful.readsBack {x : Datum} (faithful : Faithful x) (short : x.isOverlong = false)
    : ReadsBack x := by
  induction faithful with
  | null => exact readsBack_null
  | bool b => exact readsBack_bool b
  | int n => exact readsBack_of_scalar? fun _ _ ends => scalar?_int short ends
  | double number => exact readsBack_of_scalar? fun _ _ ends => scalar?_double number ends
  | text s => exact readsBack_text s
  | list each ih =>
      refine readsBack_list fun x member => ih x member ?_
      exact Bool.eq_false_iff.mpr fun long =>
        Bool.eq_false_iff.mp short (Datum.isOverlong_list_iff.mpr ⟨x, member, long⟩)
  | record distinct each ih =>
      refine readsBack_record distinct fun e member => ih e member ?_
      exact Bool.eq_false_iff.mpr fun long =>
        Bool.eq_false_iff.mp short (Datum.isOverlong_record_iff.mpr ⟨e, member, long⟩)

/-- Data without too many digits has a text. -/
theorem write_of_short (layout : Layout) {x : Datum} (short : x.isOverlong = false)
    : write layout x = .ok (String.ofList (writeChars layout 0 x)) := by
  rw [write, short, if_neg Bool.false_ne_true]

theorem write_of_overlong (layout : Layout) {x : Datum} (long : x.isOverlong = true)
    : write layout x = .error .tooManyDigits := by
  rw [write, if_pos long]

/-- Faithful data without too many digits is written, and its text holds that data. -/
theorem exists_text_of_short {x : Datum} (faithful : Faithful x) (short : x.isOverlong = false)
    : ∃ text, write compact x = .ok text ∧ read text.toList = .ok x := by
  refine ⟨_, write_of_short compact short, ?_⟩
  have back := faithful.readsBack short
  obtain ⟨c, more, same, begins⟩ := back.begins 0
  have whole := back.reads 0 ((writeChars compact 0 x).length + 1) [] (Nat.lt_succ_self _)
    endsNumber_nil
  have head : (writeChars compact 0 x).head? ≠ some (Char.ofNat 0xFEFF) := by
    rw [same]
    simpa using begins.notMark
  have skipped : skipSpace (writeChars compact 0 x) = writeChars compact 0 x := by
    rw [same]
    exact skipSpace_of_begins begins more
  rw [List.append_nil] at whole
  rw [String.toList_ofList, read, document, if_neg head, skipped, whole]
  rfl

end Json

end FeatureFlags
