import Framelink.Json.Printer
import Framelink.Json.Reader
import Framelink.Proofs.Numerals

/-!
# JSON is read back

A document is the one that its JSON is read as, provided that its numbers are whole ones of
sixty-four bits and that no mapping stores two values under one name.  The induction is on
the bound that the reader counts down: what is written takes at least as many characters as
the bound must allow for.
-/

namespace Framelink
namespace Json

/-! ## Documents that are read back -/

/-- Whole numbers are the only numbers in the document, they have sixty-four bits, with a
sign or without, and each name is stored once. -/
inductive Exact : Document → Prop
  | null : Exact .null
  | boolean (value : Bool) : Exact (.boolean value)
  | integer {value : Int} (least : -(2 ^ 63) ≤ value) (most : value < 2 ^ 64) :
      Exact (.integer value)
  | text (value : String) : Exact (.text value)
  | sequence {items : List Document} (all : ∀ item ∈ items, Exact item) :
      Exact (.sequence items)
  | mapping {entries : List (String × Document)} (distinct : (entries.map Prod.fst).Nodup)
      (all : ∀ entry ∈ entries, Exact entry.2) : Exact (.mapping entries)

/-! ## Texts -/

/-- The number of a control character is less than thirty-two, so two digits and two zeros
tell it. -/
theorem fold_control : ∀ number < 32,
    Digits.fold 16 (['0', '0'] ++ Hex.octet (UInt8.ofNat number)) = number := by
  decide

/-- A character stands in four digits, unless it takes two units. -/
theorem readQuoted_unit {first second third fourth : Char} (done rest : List Char)
    (single : isHighUnit (Digits.fold 16 [first, second, third, fourth]) = false) :
    readQuoted done none ('\\' :: 'u' :: first :: second :: third :: fourth :: rest) =
      readQuoted (Char.ofNat (Digits.fold 16 [first, second, third, fourth]) :: done) none
        rest := by
  simp [readQuoted, single]

/-- A character in its quoted form is read as itself. -/
theorem readQuoted_escape (done : List Char) (character : Char) (rest : List Char) :
    readQuoted done none (escape character ++ rest) =
      readQuoted (character :: done) none rest := by
  rw [escape]
  split
  · next marked =>
      have itself : unescape character = character := by
        simp only [Bool.or_eq_true, decide_eq_true_eq] at marked
        rcases marked with rfl | rfl <;> rfl
      rw [List.cons_append, List.cons_append, List.nil_append, readQuoted, itself]
      rintro a b c d more rfl
      exact absurd marked (by decide)
  · next plain =>
      split
      · next control =>
          have unit := fold_control character.toNat control
          have single : isHighUnit (Digits.fold 16
              (['0', '0'] ++ Hex.octet (UInt8.ofNat character.toNat))) = false := by
            rw [unit, isHighUnit, Bool.and_eq_false_iff]
            exact .inl (decide_eq_false (by omega))
          have read := readQuoted_unit done rest single
          have same := congrArg Char.ofNat unit
          rw [Char.ofNat_toNat] at same
          exact read.trans (congrArg (fun found => readQuoted (found :: done) none rest) same)
      · simp only [Bool.or_eq_true, decide_eq_true_eq, not_or] at plain
        rw [List.singleton_append, readQuoted]
        · exact plain.1
        · exact fun _ _ _ _ _ slash _ => plain.2 slash
        · exact fun _ _ slash _ => plain.2 slash

theorem readQuoted_flatMap (done characters rest : List Char) :
    readQuoted done none (characters.flatMap escape ++ '"' :: rest) =
      some (String.ofList (done.reverse ++ characters), rest) := by
  induction characters generalizing done with
  | nil => rw [List.flatMap_nil, List.nil_append, readQuoted, List.append_nil]
  | cons character characters inductionHypothesis =>
      rw [List.flatMap_cons, List.append_assoc, readQuoted_escape, inductionHypothesis,
        List.reverse_cons, List.append_assoc, List.singleton_append]

/-- A quoted text is read back. -/
theorem readQuoted_quote (text : String) (rest : List Char) :
    ∃ inside, (quote text).toList ++ rest = '"' :: inside ∧
      readQuoted [] none inside = some (text, rest) := by
  refine ⟨text.toList.flatMap escape ++ '"' :: rest, ?_, ?_⟩
  · simp [quote]
  · rw [readQuoted_flatMap]
    simp

/-! ## Numbers -/

/-- A text ends, or goes on with a mark that may stand behind a document. -/
def Closes (text : List Char) : Prop := ∀ character ∈ text.head?, character ∈ [',', ']', '\x7d']

theorem closes_nil : Closes [] := fun _ none => nomatch none

theorem closes_cons {mark : Char} (known : mark ∈ [',', ']', '\x7d']) (text : List Char) :
    Closes (mark :: text) := by
  rintro _ ⟨⟩
  exact known

variable {rest : List Char}

theorem readDigits_toDigits (number : Nat) (closes : Closes rest) :
    readDigits (Nat.toDigits 10 number ++ rest) = (Nat.toDigits 10 number, rest) := by
  have digits := Digits.isDigit_toDigits (by decide : 1 < 10) (by decide) number
  have stops : Digits.Stops 10 rest := by
    intro character head
    have mark := closes character head
    simp only [List.mem_cons, List.not_mem_nil, or_false] at mark
    rcases mark with rfl | rfl | rfl <;> decide
  rw [readDigits, ← Digits.isDigit_ten, Digits.takeWhile_digits digits stops,
    Digits.dropWhile_digits digits stops]

theorem readPlaces_closes (closes : Closes rest) : readPlaces rest = (none, rest) := by
  rw [readPlaces]
  rintro more rfl
  exact absurd (closes '.' rfl) (by decide)

theorem readExponent_closes (closes : Closes rest) : readExponent rest = (none, rest) := by
  rw [readExponent]
  · rintro more rfl
    exact absurd (closes 'e' rfl) (by decide)
  · rintro more rfl
    exact absurd (closes 'E' rfl) (by decide)

theorem readMagnitude_toDigits (negative : Bool) (number : Nat) (closes : Closes rest) :
    readMagnitude negative (Nat.toDigits 10 number ++ rest) =
      some (Document.ofNumeral true ⟨negative, number, 0⟩, rest) := by
  have present : (Nat.toDigits 10 number).isEmpty = false := by
    rw [List.isEmpty_eq_false_iff]
    exact Nat.toDigits_ne_nil
  have value := Digits.fold_toDigits (by decide : 1 < 10) (by decide) number
  simp [readMagnitude, readDigits_toDigits number closes, readPlaces_closes closes,
    readExponent_closes closes, present, value]

/-- A numeral begins with a digit. -/
theorem head_toDigits (number : Nat) :
    ∃ digit more, Nat.toDigits 10 number = digit :: more ∧ digit.isDigit = true := by
  obtain ⟨digit, more, parts⟩ := List.exists_cons_of_ne_nil
    (Nat.toDigits_ne_nil (n := number) (b := 10))
  have within : digit ∈ Nat.toDigits 10 number := by
    rw [parts]
    exact List.mem_cons_self
  exact ⟨digit, more, parts, Nat.isDigit_of_mem_toDigits (by decide) (by decide) within⟩

theorem toList_print_ofNat (number : Nat) :
    (print (.integer number)).toList = Nat.toDigits 10 number := by
  change (Nat.repr number).toList = _
  rw [Nat.repr_eq_ofList_toDigits, String.toList_ofList]

theorem toList_print_negSucc (number : Nat) :
    (print (.integer (.negSucc number))).toList = '-' :: Nat.toDigits 10 (number + 1) := by
  change ("-" ++ Nat.repr (number + 1)).toList = _
  simp [Nat.repr_eq_ofList_toDigits]

/-- A whole number of sixty-four bits is read back. -/
theorem readNumber_integer {value : Int} (least : -(2 ^ 63) ≤ value) (most : value < 2 ^ 64)
    (closes : Closes rest) :
    readNumber ((print (.integer value)).toList ++ rest) = some (.integer value, rest) := by
  cases value with
  | ofNat number =>
      have fits : number < UInt64.size := by
        change (number : Int) < 2 ^ 64 at most
        simp only [UInt64.size]
        omega
      have kind : Document.ofNumeral true ⟨false, number, 0⟩ = .integer number := by
        simp [Document.ofNumeral, fits]
      obtain ⟨digit, more, parts, isDigit⟩ := head_toDigits number
      rw [Int.ofNat_eq_natCast, toList_print_ofNat, readNumber, readMagnitude_toDigits _ _ closes,
        kind]
      rintro text same
      rw [parts] at same
      obtain ⟨rfl, -⟩ := List.cons.inj same
      exact absurd isDigit (by decide)
  | negSucc number =>
      have fits : number + 1 ≤ UInt64.size / 2 := by
        simp only [UInt64.size]
        omega
      have kind : Document.ofNumeral true ⟨true, number + 1, 0⟩ = .integer (.negSucc number) := by
        rw [Int.negSucc_eq]
        simp [Document.ofNumeral, fits]
      rw [toList_print_negSucc, List.cons_append, readNumber, readMagnitude_toDigits _ _ closes,
        kind]

/-! ## Items and entries -/

theorem printItems_eq (items : List Document) : printItems items = items.map print := by
  induction items with
  | nil => rfl
  | cons item items inductionHypothesis => rw [printItems, inductionHypothesis, List.map_cons]

theorem printEntries_eq (entries : List (String × Document)) :
    printEntries entries = entries.map printEntry := by
  induction entries with
  | nil => rfl
  | cons entry entries inductionHypothesis =>
      rw [printEntries, inductionHypothesis, List.map_cons]

/-- Items with a comma before each. -/
def itemsBehind (items : List Document) : List Char :=
  items.flatMap fun item => ',' :: (print item).toList

/-- Entries with a comma before each. -/
def entriesBehind (entries : List (String × Document)) : List Char :=
  entries.flatMap fun entry => ',' :: (printEntry entry).toList

theorem toList_print_sequence (item : Document) (items : List Document) :
    (print (.sequence (item :: items))).toList =
      '[' :: ((print item).toList ++ (itemsBehind items ++ [']'])) := by
  rw [print, printItems_eq, List.map_cons, String.toList_append, String.toList_append,
    toList_intercalate, List.flatMap_map, List.append_assoc, List.append_assoc]
  rfl

theorem toList_print_mapping (entry : String × Document) (entries : List (String × Document)) :
    (print (.mapping (entry :: entries))).toList =
      '\x7b' :: ((printEntry entry).toList ++ (entriesBehind entries ++ ['\x7d'])) := by
  rw [print, printEntries_eq, List.map_cons, String.toList_append, String.toList_append,
    toList_intercalate, List.flatMap_map, List.append_assoc, List.append_assoc]
  rfl

theorem toList_printEntry (name : String) (value : Document) :
    (printEntry (name, value)).toList = (quote name).toList ++ ':' :: (print value).toList := by
  rw [printEntry, String.toList_append, String.toList_append, List.append_assoc]
  rfl

theorem skipBlanks_cons {character : Char} (marks : isBlank character = false)
    (text : List Char) : skipBlanks (character :: text) = character :: text :=
  List.dropWhile_cons_of_neg (by simp [marks])

theorem isBlank_of_isDigit {character : Char} (digit : character.isDigit = true) :
    isBlank character = false := by
  rw [← Bool.not_eq_true]
  intro blank
  simp only [isBlank, Bool.or_eq_true, beq_iff_eq] at blank
  rcases blank with ((rfl | rfl) | rfl) | rfl <;> exact absurd digit (by decide)

/-- A document begins with a mark of its own, which is neither blank nor the end of a
sequence. -/
theorem head_print {document : Document} (exact : Exact document) :
    ∃ first more, (print document).toList = first :: more ∧ isBlank first = false ∧
      first ≠ ']' := by
  cases exact with
  | null => exact ⟨'n', _, rfl, by decide, by decide⟩
  | boolean value => cases value <;> exact ⟨_, _, rfl, by decide, by decide⟩
  | @integer value least most =>
      cases value with
      | ofNat number =>
          obtain ⟨digit, more, parts, isDigit⟩ := head_toDigits number
          refine ⟨digit, more, (toList_print_ofNat number).trans parts, ?_, ?_⟩
          · exact isBlank_of_isDigit isDigit
          · rintro rfl
            exact absurd isDigit (by decide)
      | negSucc number =>
          exact ⟨'-', _, toList_print_negSucc number, by decide, by decide⟩
  | text value => exact ⟨'"', _, String.toList_ofList, by decide, by decide⟩
  | @sequence items all =>
      cases items with
      | nil => exact ⟨'[', _, rfl, by decide, by decide⟩
      | cons item items => exact ⟨'[', _, toList_print_sequence item items, by decide, by decide⟩
  | @mapping entries distinct all =>
      cases entries with
      | nil => exact ⟨'\x7b', _, rfl, by decide, by decide⟩
      | cons entry entries =>
          exact ⟨'\x7b', _, toList_print_mapping entry entries, by decide, by decide⟩

theorem skipBlanks_print {document : Document} (exact : Exact document) (rest : List Char) :
    skipBlanks ((print document).toList ++ rest) = (print document).toList ++ rest := by
  obtain ⟨first, more, parts, marks, -⟩ := head_print exact
  rw [parts, List.cons_append, skipBlanks_cons marks]

theorem print_ne_end {document : Document} (exact : Exact document) (rest text : List Char) :
    (print document).toList ++ rest = ']' :: text → False := by
  obtain ⟨first, more, parts, -, other⟩ := head_print exact
  rw [parts, List.cons_append]
  exact fun same => other (List.cons.inj same).1

theorem skipBlanks_printEntry (entry : String × Document) (rest : List Char) :
    skipBlanks ((printEntry entry).toList ++ rest) = (printEntry entry).toList ++ rest := by
  obtain ⟨name, value⟩ := entry
  obtain ⟨inside, quoted, -⟩ := readQuoted_quote name (':' :: ((print value).toList ++ rest))
  rw [toList_printEntry, List.append_assoc, List.cons_append, quoted,
    skipBlanks_cons (by decide)]

/-- Within a bound, documents are read back. -/
def Reads (fuel : Nat) : Prop :=
  ∀ document, Exact document → (print document).toList.length ≤ fuel →
    ∀ rest, Closes rest →
      read fuel ((print document).toList ++ rest) = some (document, rest)

variable {fuel : Nat}

/-- An item is read, and behind a comma others follow. -/
theorem readItems_further (reads : Reads fuel) {item : Document} (exact : Exact item)
    (fits : (print item).toList.length ≤ fuel) (done : List Document) (rest : List Char) :
    readItems (fuel + 1) done ((print item).toList ++ ',' :: rest) =
      readItems fuel (done ++ [item]) (skipBlanks rest) := by
  rw [readItems, reads item exact fits _ (closes_cons (by decide) rest)]
  · rfl
  · exact print_ne_end exact _

/-- An item is read, and behind it the sequence ends. -/
theorem readItems_last (reads : Reads fuel) {item : Document} (exact : Exact item)
    (fits : (print item).toList.length ≤ fuel) (done : List Document) (rest : List Char) :
    readItems (fuel + 1) done ((print item).toList ++ ']' :: rest) =
      some (.sequence (done ++ [item]), rest) := by
  rw [readItems, reads item exact fits _ (closes_cons (by decide) rest)]
  · rfl
  · exact print_ne_end exact _

/-- An entry is read up to what stands behind it. -/
theorem readEntries_entry (reads : Reads fuel) (name : String) {value : Document}
    (exact : Exact value) (fits : (print value).toList.length ≤ fuel) (closes : Closes rest) :
    ∃ inside behind, (printEntry (name, value)).toList ++ rest = '"' :: inside ∧
      readQuoted [] none inside = some (name, ':' :: behind) ∧
      read fuel behind = some (value, rest) := by
  obtain ⟨inside, quoted, found⟩ := readQuoted_quote name (':' :: ((print value).toList ++ rest))
  refine ⟨inside, _, ?_, found, reads value exact fits rest closes⟩
  rw [toList_printEntry, List.append_assoc, List.cons_append, quoted]

/-- An entry is read, and behind a comma others follow. -/
theorem readEntries_further (reads : Reads fuel) (name : String) {value : Document}
    (exact : Exact value) (fits : (print value).toList.length ≤ fuel)
    (done : List (String × Document)) (rest : List Char) :
    readEntries (fuel + 1) done ((printEntry (name, value)).toList ++ ',' :: rest) =
      readEntries fuel (store done name value) (skipBlanks rest) := by
  have closes : Closes (',' :: rest) := closes_cons (by decide) rest
  obtain ⟨inside, behind, text, quoted, found⟩ := readEntries_entry reads name exact fits closes
  rw [text, readEntries, quoted]
  simp only [skipBlanks_cons (by decide : isBlank ':' = false), found]
  rfl

/-- An entry is read, and behind it the mapping ends. -/
theorem readEntries_last (reads : Reads fuel) (name : String) {value : Document}
    (exact : Exact value) (fits : (print value).toList.length ≤ fuel)
    (done : List (String × Document)) (rest : List Char) :
    readEntries (fuel + 1) done ((printEntry (name, value)).toList ++ '\x7d' :: rest) =
      some (.mapping (store done name value), rest) := by
  have closes : Closes ('\x7d' :: rest) := closes_cons (by decide) rest
  obtain ⟨inside, behind, text, quoted, found⟩ := readEntries_entry reads name exact fits closes
  rw [text, readEntries, quoted]
  simp only [skipBlanks_cons (by decide : isBlank ':' = false), found]
  rfl

/-- Items are read up to the end of their sequence. -/
theorem readItems_text (reads : ∀ less < fuel, Reads less) {item : Document}
    {items : List Document} (exact : ∀ other ∈ item :: items, Exact other)
    (fits : ((print item).toList ++ itemsBehind items).length < fuel) (done : List Document)
    (rest : List Char) :
    readItems fuel done ((print item).toList ++ (itemsBehind items ++ ']' :: rest)) =
      some (.sequence (done ++ item :: items), rest) := by
  induction fuel generalizing item items done with
  | zero => exact absurd fits (Nat.not_lt_zero _)
  | succ fuel inductionHypothesis =>
      obtain ⟨first, others⟩ := List.forall_mem_cons.1 exact
      rw [List.length_append] at fits
      have reader := reads fuel (Nat.lt_succ_self fuel)
      cases items with
      | nil => exact readItems_last reader first (by omega) done rest
      | cons next items =>
          have behind : itemsBehind (next :: items) =
              ',' :: ((print next).toList ++ itemsBehind items) := by
            simp [itemsBehind]
          have shorter : ((print next).toList ++ itemsBehind items).length < fuel := by
            rw [behind, List.length_cons] at fits
            omega
          have further := inductionHypothesis (fun less below => reads less (by omega)) others
            shorter (done ++ [item])
          rw [List.append_assoc, List.singleton_append] at further
          rw [← skipBlanks_print (others next List.mem_cons_self)] at further
          rw [behind, List.cons_append, List.append_assoc]
          exact (readItems_further reader first (by omega) done _).trans further

theorem store_of_new {entries : List (String × Document)} {name : String}
    (new : name ∉ entries.map Prod.fst) (value : Document) :
    store entries name value = entries ++ [(name, value)] := by
  have kept : entries.filter (·.1 != name) = entries := by
    rw [List.filter_eq_self]
    intro entry inside
    rw [bne_iff_ne]
    rintro rfl
    exact new (List.mem_map_of_mem inside)
  rw [store, kept]

/-- Entries are read up to the end of their mapping. -/
theorem readEntries_text (reads : ∀ less < fuel, Reads less) {entry : String × Document}
    {entries : List (String × Document)} (exact : ∀ other ∈ entry :: entries, Exact other.2)
    (fits : ((printEntry entry).toList ++ entriesBehind entries).length < fuel)
    (done : List (String × Document)) (distinct : ((done ++ entry :: entries).map Prod.fst).Nodup)
    (rest : List Char) :
    readEntries fuel done ((printEntry entry).toList ++ (entriesBehind entries ++ '\x7d' :: rest)) =
      some (.mapping (done ++ entry :: entries), rest) := by
  induction fuel generalizing entry entries done with
  | zero => exact absurd fits (Nat.not_lt_zero _)
  | succ fuel inductionHypothesis =>
      obtain ⟨name, value⟩ := entry
      obtain ⟨first, others⟩ := List.forall_mem_cons.1 exact
      rw [toList_printEntry, List.length_append, List.length_append, List.length_cons] at fits
      have reader := reads fuel (Nat.lt_succ_self fuel)
      have short : (print value).toList.length ≤ fuel := by omega
      have new : name ∉ done.map Prod.fst := by
        rw [List.map_append, List.nodup_append] at distinct
        intro among
        exact distinct.2.2 name among name List.mem_cons_self rfl
      cases entries with
      | nil =>
          rw [← store_of_new new]
          exact readEntries_last reader name first short done rest
      | cons next entries =>
          have behind : entriesBehind (next :: entries) =
              ',' :: ((printEntry next).toList ++ entriesBehind entries) := by
            simp [entriesBehind]
          have shorter : ((printEntry next).toList ++ entriesBehind entries).length < fuel := by
            rw [behind, List.length_cons] at fits
            omega
          have whole : done ++ [(name, value)] ++ next :: entries =
              done ++ (name, value) :: next :: entries := by
            rw [List.append_assoc, List.singleton_append]
          have further := inductionHypothesis (fun less below => reads less (by omega)) others
            shorter _ (whole ▸ distinct)
          rw [whole, ← skipBlanks_printEntry, ← store_of_new new] at further
          rw [behind, List.cons_append, List.append_assoc]
          exact (readEntries_further reader name first short done _).trans further

/-! ## All documents -/

/-- What begins with a digit or a sign is a number. -/
theorem read_number {first : Char} (numeric : first.isDigit = true ∨ first = '-')
    (text : List Char) : read (fuel + 1) (first :: text) = readNumber (first :: text) := by
  have marks : isBlank first = false := by
    rcases numeric with digit | rfl
    · exact isBlank_of_isDigit digit
    · decide
  have other (mark : Char) (plain : mark.isDigit = false) (unsigned : mark ≠ '-') :
      first ≠ mark := by
    rintro rfl
    rcases numeric with digit | sign
    · exact absurd digit (by simp [plain])
    · exact unsigned sign
  rw [read, skipBlanks_cons marks]
  split
  case h_7 => rfl
  all_goals
    next same => exact absurd (List.cons.inj same).1 (other _ (by decide) (by decide))

theorem read_integer {value : Int} (least : -(2 ^ 63) ≤ value) (most : value < 2 ^ 64)
    (closes : Closes rest) :
    read (fuel + 1) ((print (.integer value)).toList ++ rest) = some (.integer value, rest) := by
  have found := readNumber_integer least most closes
  cases value with
  | ofNat number =>
      obtain ⟨digit, more, parts, isDigit⟩ := head_toDigits number
      have text := (toList_print_ofNat number).trans parts
      rw [Int.ofNat_eq_natCast, text, List.cons_append] at found ⊢
      rw [read_number (.inl isDigit), found]
  | negSucc number =>
      rw [toList_print_negSucc, List.cons_append] at found ⊢
      rw [read_number (.inr rfl), found]

theorem read_sequence (reads : ∀ less < fuel, Reads less) {items : List Document}
    (all : ∀ item ∈ items, Exact item)
    (fits : (print (.sequence items)).toList.length ≤ fuel + 1) :
    read (fuel + 1) ((print (.sequence items)).toList ++ rest) = some (.sequence items, rest) := by
  cases items with
  | nil =>
      obtain ⟨less, rfl⟩ := Nat.exists_eq_succ_of_ne_zero
        (Nat.ne_zero_of_lt (Nat.le_of_succ_le_succ fits))
      rfl
  | cons item items =>
      -- The brackets take two characters, so the items have the smaller bound.
      rw [toList_print_sequence, List.length_cons, List.length_append, List.length_append,
        List.length_singleton] at fits
      have inside := readItems_text reads all (by rw [List.length_append]; omega) [] rest
      rw [← skipBlanks_print (all item List.mem_cons_self)] at inside
      rw [toList_print_sequence, List.cons_append, List.append_assoc, List.append_assoc, read,
        skipBlanks_cons (by decide)]
      exact inside

theorem read_mapping (reads : ∀ less < fuel, Reads less) {entries : List (String × Document)}
    (distinct : (entries.map Prod.fst).Nodup) (all : ∀ entry ∈ entries, Exact entry.2)
    (fits : (print (.mapping entries)).toList.length ≤ fuel + 1) :
    read (fuel + 1) ((print (.mapping entries)).toList ++ rest) =
      some (.mapping entries, rest) := by
  cases entries with
  | nil =>
      obtain ⟨less, rfl⟩ := Nat.exists_eq_succ_of_ne_zero
        (Nat.ne_zero_of_lt (Nat.le_of_succ_le_succ fits))
      rfl
  | cons entry entries =>
      rw [toList_print_mapping, List.length_cons, List.length_append, List.length_append,
        List.length_singleton] at fits
      have inside := readEntries_text reads all (by rw [List.length_append]; omega) [] distinct
        rest
      rw [← skipBlanks_printEntry] at inside
      rw [toList_print_mapping, List.cons_append, List.append_assoc, List.append_assoc, read,
        skipBlanks_cons (by decide)]
      exact inside

/-- Each bound is enough for what is written in as many characters. -/
theorem reads_all (fuel : Nat) : Reads fuel := by
  induction fuel using Nat.strongRecOn with
  | ind fuel inductionHypothesis =>
      intro document exact fits rest closes
      cases fuel with
      | zero =>
          -- Nothing is written without any character.
          obtain ⟨first, more, parts, -⟩ := head_print exact
          rw [parts] at fits
          exact absurd fits (Nat.not_succ_le_zero _)
      | succ fuel =>
          have reads : ∀ less < fuel, Reads less := fun less below =>
            inductionHypothesis less (Nat.lt_succ_of_lt below)
          cases exact with
          | null => rfl
          | boolean value => cases value <;> rfl
          | integer least most => exact read_integer least most closes
          | text value =>
              obtain ⟨inside, quoted, found⟩ := readQuoted_quote value rest
              change read (fuel + 1) ((quote value).toList ++ rest) = _
              rw [quoted, read, skipBlanks_cons (by decide)]
              simp only [found, Option.map_some]
          | sequence all => exact read_sequence reads all fits
          | mapping distinct all => exact read_mapping reads distinct all fits

/-- A document is the one that its JSON is. -/
theorem document?_print {document : Document} (exact : Exact document) :
    document? (print document) = some document := by
  have found := reads_all ((print document).length + 1) document exact
    (by rw [String.length_toList]; omega) [] closes_nil
  rw [List.append_nil] at found
  rw [document?, found]
  rfl

/-! ## Names in mappings that are read -/

theorem distinct_store {entries : List (String × Document)}
    (distinct : (entries.map Prod.fst).Nodup) (name : String) (value : Document) :
    ((store entries name value).map Prod.fst).Nodup := by
  rw [store, List.map_append, List.nodup_append]
  refine ⟨distinct.sublist (List.filter_sublist.map Prod.fst), by simp, ?_⟩
  intro other among last single same
  obtain ⟨entry, kept, rfl⟩ := List.mem_map.1 among
  have new : entry.1 ≠ name := by simpa using (List.mem_filter.1 kept).2
  exact new (same.trans (List.mem_singleton.1 single))

/-- Where entries are read, a mapping comes about that stores each name once. -/
theorem distinct_of_readEntries {done : List (String × Document)}
    (distinct : (done.map Prod.fst).Nodup) {text : List Char} {document : Document}
    (found : readEntries fuel done text = some (document, rest)) :
    ∃ entries, document = .mapping entries ∧ (entries.map Prod.fst).Nodup := by
  induction fuel generalizing done text with
  | zero => exact nomatch found
  | succ fuel inductionHypothesis =>
      -- The mapping ends, or an entry is stored and others follow; all else is no mapping.
      rw [readEntries.eq_def] at found
      split at found
      · exact nomatch found
      · cases found
        exact ⟨_, rfl, distinct⟩
      · next same =>
          cases same
          split at found
          · exact nomatch found
          · split at found
            · split at found
              · exact nomatch found
              · split at found
                · exact inductionHypothesis (distinct_store distinct _ _) found
                · cases found
                  exact ⟨_, rfl, distinct_store distinct _ _⟩
                · exact nomatch found
            · exact nomatch found
      · exact nomatch found

theorem sequence_of_readItems {done : List Document} {text : List Char} {document : Document}
    (found : readItems fuel done text = some (document, rest)) :
    ∃ items, document = .sequence items := by
  induction fuel generalizing done text with
  | zero => exact nomatch found
  | succ fuel inductionHypothesis =>
      rw [readItems.eq_def] at found
      split at found
      · exact nomatch found
      · cases found
        exact ⟨_, rfl⟩
      · next same _ =>
          cases same
          split at found
          · exact nomatch found
          · split at found
            · exact inductionHypothesis found
            · cases found
              exact ⟨_, rfl⟩
            · exact nomatch found

theorem readNumber_ne_mapping {text : List Char} {entries : List (String × Document)} :
    readNumber text ≠ some (.mapping entries, rest) := by
  have magnitude (negative : Bool) (digits : List Char) :
      readMagnitude negative digits ≠ some (.mapping entries, rest) := by
    intro found
    simp only [readMagnitude, Document.ofNumeral, Option.ite_none_left_eq_some,
      Option.some.injEq, Prod.mk.injEq] at found
    obtain ⟨-, same, -⟩ := found
    split at same
    · exact nomatch same
    · split at same <;> exact nomatch same
  rw [readNumber.eq_def]
  split <;> exact magnitude _ _

/-- A mapping that is read stores each name once. -/
theorem distinct_of_read {text : List Char} {entries : List (String × Document)}
    (found : read fuel text = some (.mapping entries, rest)) :
    (entries.map Prod.fst).Nodup := by
  cases fuel with
  | zero => exact nomatch found
  | succ fuel =>
      rw [read] at found
      split at found
      case h_1 =>
        have nothing : (([] : List (String × Document)).map Prod.fst).Nodup := List.nodup_nil
        obtain ⟨_, same, distinct⟩ := distinct_of_readEntries nothing found
        cases same
        exact distinct
      case h_2 =>
        obtain ⟨_, same⟩ := sequence_of_readItems found
        cases same
      case h_7 => exact absurd found readNumber_ne_mapping
      -- A text, a truth value and null are no mappings.
      all_goals simp at found

theorem distinct_of_document? {text : String} {entries : List (String × Document)}
    (found : document? text = some (.mapping entries)) : (entries.map Prod.fst).Nodup := by
  rw [document?] at found
  split at found
  · next document rest read =>
      split at found
      · cases found
        exact distinct_of_read read
      · exact nomatch found
  · exact nomatch found

end Json
end Framelink
