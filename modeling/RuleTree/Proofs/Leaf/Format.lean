import RuleTree.Leaf.Library

/-!
The grammars of addresses and user names. The tests of a format look at a text from several sides:
at its ends, at two characters in a row, at all characters and at the pieces between separators.
Together they accept the texts that are built from parts with single separators between them, and
no others, since a text has one way of being cut at a separator.
-/

set_option autoImplicit false

namespace RuleTree.Format

/-! ### Grammars -/

def AsciiLetter (c : Char) : Prop := 'a' ≤ c ∧ c ≤ 'z' ∨ 'A' ≤ c ∧ c ≤ 'Z'

def AsciiDigit (c : Char) : Prop := '0' ≤ c ∧ c ≤ '9'

instance (c : Char) : Decidable (AsciiLetter c) := inferInstanceAs (Decidable (_ ∨ _))

instance (c : Char) : Decidable (AsciiDigit c) := inferInstanceAs (Decidable (_ ∧ _))

/-- One character or more, all of them of an alphabet. -/
def Word (Letter : Char → Prop) (text : List Char) : Prop := text ≠ [] ∧ ∀ c ∈ text, Letter c

/-- One part or more with single separators between them. -/
def Joined (separator : Char) (Part : List Char → Prop) (text : List Char) : Prop :=
  ∃ parts : List (List Char),
    parts ≠ [] ∧ (∀ part ∈ parts, Part part) ∧ text = [separator].intercalate parts

/-- Runs of letters and digits with underscores between them. -/
def UserName : List Char → Prop :=
  Joined '_' (Word fun c => AsciiLetter c ∨ AsciiDigit c)

def AtomChar (c : Char) : Prop :=
  AsciiLetter c ∨ AsciiDigit c ∨ c ∈ "!#$%&'*+-/=?^_`{|}~".toList

instance (c : Char) : Decidable (AtomChar c) := inferInstanceAs (Decidable (_ ∨ _))

/-- Atoms with points between them. -/
def LocalPart : List Char → Prop := Joined '.' (Word AtomChar)

/-- Letters, digits and hyphens, with no hyphen at either end. -/
structure Label (text : List Char) : Prop where
  word : Word (fun c => AsciiLetter c ∨ AsciiDigit c ∨ c = '-') text
  starts : text.head? ≠ some '-'
  ends : text.getLast? ≠ some '-'

/-- Two labels or more with points between them, the last one of two letters or more. -/
def Domain (text : List Char) : Prop :=
  ∃ labels : List (List Char),
    2 ≤ labels.length ∧ (∀ label ∈ labels, Label label) ∧
      (∃ top, labels.getLast? = some top ∧ 2 ≤ top.length ∧ ∀ c ∈ top, AsciiLetter c) ∧
      text = ['.'].intercalate labels

def Address (text : List Char) : Prop :=
  ∃ localPart domain : List Char,
    text = localPart ++ '@' :: domain ∧ LocalPart localPart ∧ Domain domain

/-! ### Characters -/

theorem isLetter_iff (c : Char) : isLetter c = true ↔ AsciiLetter c := by
  have ranges : isLetter c =
      (decide ('A' ≤ c ∧ c ≤ 'Z') || (decide ('a' ≤ c) && decide (c ≤ 'z'))) := rfl
  rw [ranges, Bool.or_eq_true, Bool.and_eq_true]
  simp only [decide_eq_true_eq]
  exact or_comm

theorem isLetterOrDigit_iff (c : Char) :
    isLetterOrDigit c = true ↔ AsciiLetter c ∨ AsciiDigit c := by
  have ranges : isLetterOrDigit c =
      (isLetter c || (decide ('0' ≤ c) && decide (c ≤ '9'))) := rfl
  rw [ranges, Bool.or_eq_true, Bool.and_eq_true, isLetter_iff]
  simp only [decide_eq_true_eq, AsciiDigit]

/-! ### Pieces of a text -/

variable {separator : Char}

theorem pieces_eq_splitOn (text : List Char) : pieces separator text = text.splitOn separator := by
  induction text with
  | nil => rfl
  | cons c rest ih =>
      rw [pieces, ih, List.splitOn_cons_eq_if_modifyHead]
      by_cases same : c = separator
      · simp [same]
      · cases shape : rest.splitOn separator with
        | nil => exact absurd shape (List.splitOn_ne_nil separator rest)
        | cons first others => simp [same]

theorem exists_pieces_eq_cons (separator : Char) (text : List Char) :
    ∃ first others, pieces separator text = first :: others :=
  List.exists_cons_of_ne_nil (pieces_eq_splitOn text ▸ List.splitOn_ne_nil separator text)

theorem pieces_separator (separator : Char) (rest : List Char) :
    pieces separator (separator :: rest) = [] :: pieces separator rest :=
  if_pos rfl

theorem pieces_cons {c : Char} (other : c ≠ separator) {rest first : List Char}
    {others : List (List Char)} (cut : pieces separator rest = first :: others) :
    pieces separator (c :: rest) = (c :: first) :: others := by
  rw [pieces, if_neg other, cut]

theorem forall_mem_pieces {P : Char → Prop} (text : List Char) :
    (∀ piece ∈ pieces separator text, ∀ c ∈ piece, P c) ↔ ∀ c ∈ text, c ≠ separator → P c := by
  induction text with
  | nil => simp [pieces]
  | cons c rest ih =>
      by_cases same : c = separator
      case pos => simp [same, pieces_separator, ih]
      case neg =>
        obtain ⟨first, others, cut⟩ := exists_pieces_eq_cons separator rest
        rw [cut, List.forall_mem_cons] at ih
        rw [pieces_cons same cut]
        simp only [List.forall_mem_cons, same, ne_eq, not_false_eq_true, true_imp_iff, ← ih,
          and_assoc]

theorem separator_notMem_of_mem_pieces {text piece : List Char}
    (cut : piece ∈ pieces separator text) : separator ∉ piece :=
  fun held => (forall_mem_pieces (P := (· ≠ separator)) text).mpr (fun _ _ other => other)
    piece cut separator held rfl

/-- Parts that keep clear of the separator are the pieces of the text that they make up. -/
theorem pieces_unique {text : List Char} {parts : List (List Char)} :
    (parts ≠ [] ∧ (∀ part ∈ parts, separator ∉ part) ∧ text = [separator].intercalate parts) ↔
      parts = pieces separator text := by
  constructor
  · rintro ⟨nonempty, clear, rfl⟩
    rw [pieces_eq_splitOn, List.splitOn_intercalate separator clear nonempty]
  · rintro rfl
    refine ⟨?_, fun _ => separator_notMem_of_mem_pieces, ?_⟩
    · rw [pieces_eq_splitOn]
      exact List.splitOn_ne_nil separator text
    · rw [pieces_eq_splitOn, List.intercalate_splitOn]

theorem nil_mem_pieces (text : List Char) :
    [] ∈ pieces separator text ↔
      text = [] ∨ text.head? = some separator ∨ [] ∈ (pieces separator text).tail := by
  cases text with
  | nil => simp [pieces]
  | cons c rest =>
      by_cases same : c = separator
      case pos => simp [same, pieces_separator]
      case neg =>
        obtain ⟨first, others, cut⟩ := exists_pieces_eq_cons separator rest
        simp [pieces_cons same cut, same]

/-- Behind the first piece an empty one stands at the end of the text or between two separators. -/
theorem nil_mem_tail_pieces (text : List Char) :
    [] ∈ (pieces separator text).tail ↔
      text.getLast? = some separator ∨ hasDouble separator text = true := by
  -- A character in front of a text only makes its first piece longer, so the induction is on the
  -- other pieces; a separator in front of it brings the first piece among them.
  induction text with
  | nil => simp [pieces, hasDouble]
  | cons c rest ih =>
      by_cases same : c = separator
      case pos =>
        rw [same, pieces_separator, List.tail_cons, nil_mem_pieces, ih]
        cases rest with
        | nil => simp
        | cons d rest => simp [hasDouble, or_left_comm]
      case neg =>
        obtain ⟨first, others, cut⟩ := exists_pieces_eq_cons separator rest
        rw [cut, List.tail_cons] at ih
        rw [pieces_cons same cut, List.tail_cons, ih]
        cases rest with
        | nil => simp [hasDouble, same]
        | cons d rest => simp [hasDouble, same]

theorem nil_notMem_pieces (text : List Char) :
    [] ∉ pieces separator text ↔
      text ≠ [] ∧ text.head? ≠ some separator ∧ text.getLast? ≠ some separator ∧
        hasDouble separator text = false := by
  rw [nil_mem_pieces, nil_mem_tail_pieces]
  simp only [not_or, Bool.not_eq_true, ne_eq]

theorem contains_iff_pieces (text : List Char) :
    text.contains separator = true ↔ 2 ≤ (pieces separator text).length := by
  induction text with
  | nil => simp [pieces]
  | cons c rest ih =>
      obtain ⟨first, others, cut⟩ := exists_pieces_eq_cons separator rest
      by_cases same : c = separator
      case pos => simp [same, pieces_separator, cut]
      case neg =>
        rw [pieces_cons same cut, List.contains_cons, beq_false_of_ne (Ne.symm same), Bool.false_or,
          ih, cut]
        rfl

theorem splitFirst?_eq_some_iff {text before after : List Char} :
    splitFirst? separator text = some (before, after) ↔
      text = before ++ separator :: after ∧ separator ∉ before := by
  induction text generalizing before with
  | nil => simp [splitFirst?]
  | cons c rest ih =>
      by_cases same : c = separator
      case pos =>
        cases before with
        | nil => simp [splitFirst?, same]
        | cons d before => simp +contextual [splitFirst?, same]
      case neg =>
        cases before with
        | nil => simp [splitFirst?, same]
        | cons d before =>
            have step : splitFirst? separator (c :: rest) = some (d :: before, after) ↔
                c = d ∧ splitFirst? separator rest = some (before, after) := by
              simpa [splitFirst?, same] using and_comm
            rw [step, ih, List.cons_append, List.cons.injEq, List.mem_cons, not_or, and_assoc]
            exact and_congr_right fun head => and_congr_right fun _ =>
              (and_iff_right (head ▸ Ne.symm same)).symm

/-! ### Formats and their grammars -/

/-- Parts without separators are found again as the pieces of the text. -/
theorem joined_iff_pieces {Letter : Char → Prop} (apart : ¬Letter separator) (text : List Char) :
    Joined separator (Word Letter) text ↔ ∀ piece ∈ pieces separator text, Word Letter piece := by
  constructor
  · rintro ⟨parts, nonempty, words, made⟩
    have clear : ∀ part ∈ parts, separator ∉ part :=
      fun part held inside => apart ((words part held).2 separator inside)
    exact pieces_unique.mp ⟨nonempty, clear, made⟩ ▸ words
  · intro words
    obtain ⟨nonempty, -, made⟩ := pieces_unique.mpr (rfl : pieces separator text = _)
    exact ⟨_, nonempty, words, made⟩

/-- The tests that look for separators at the wrong places leave the texts that are joined from
words. -/
theorem joined_iff {Letter : Char → Prop} {allowed : Char → Bool} (apart : ¬Letter separator)
    (letters : ∀ c, allowed c = true ↔ c ≠ separator → Letter c) (text : List Char) :
    (!text.isEmpty && text.head? != some separator && text.getLast? != some separator &&
        !hasDouble separator text && text.all allowed) = true ↔
      Joined separator (Word Letter) text := by
  have full : (∀ piece ∈ pieces separator text, piece ≠ []) ↔ [] ∉ pieces separator text :=
    ⟨fun full held => full [] held rfl, fun full piece held empty => full (empty ▸ held)⟩
  rw [joined_iff_pieces apart]
  simp only [Word, forall_and, forall_mem_pieces, full, nil_notMem_pieces, ← letters]
  simp [and_assoc]

theorem isUserName_iff (text : String) : isUserName text = true ↔ UserName text.toList := by
  refine joined_iff (by decide) (fun c => ?_) text.toList
  rw [Bool.or_eq_true, isLetterOrDigit_iff, beq_iff_eq, Decidable.or_iff_not_imp_right]

/-- Besides the point, local parts have the characters of atoms. -/
theorem isLocalChar_iff (c : Char) : isLocalChar c = true ↔ c ≠ '.' → AtomChar c := by
  have marks : localMarks = "!#$%&'*+-/=?^_`{|}~".toList ++ ['.'] := by decide
  rw [isLocalChar, Bool.or_eq_true, isLetterOrDigit_iff, List.contains_iff_mem, marks,
    List.mem_append, List.mem_singleton, ← or_assoc, Decidable.or_iff_not_imp_right, AtomChar,
    or_assoc]

theorem isLocalPart_iff (text : List Char) : isLocalPart text = true ↔ LocalPart text :=
  joined_iff (by decide) isLocalChar_iff text

theorem at_notMem_of_isLocalPart {text : List Char} (holds : isLocalPart text = true) :
    '@' ∉ text := by
  intro held
  simp only [isLocalPart, Bool.and_eq_true, List.all_eq_true] at holds
  exact absurd (holds.2 '@' held) (by decide)

theorem isLabelChar_iff (c : Char) :
    isLabelChar c = true ↔ AsciiLetter c ∨ AsciiDigit c ∨ c = '-' := by
  rw [isLabelChar, Bool.or_eq_true, isLetterOrDigit_iff, beq_iff_eq, or_assoc]

theorem isLabel_iff (label : List Char) : isLabel label = true ↔ Label label := by
  simp only [isLabel, Bool.and_eq_true, Bool.not_eq_true', List.isEmpty_eq_false_iff,
    bne_iff_ne, List.all_eq_true, isLabelChar_iff]
  constructor
  · rintro ⟨⟨⟨nonempty, starts⟩, ends⟩, letters⟩
    exact ⟨⟨nonempty, letters⟩, starts, ends⟩
  · rintro ⟨⟨nonempty, letters⟩, starts, ends⟩
    exact ⟨⟨⟨nonempty, starts⟩, ends⟩, letters⟩

theorem isTopLabel_iff (label : List Char) :
    isTopLabel label = true ↔ 2 ≤ label.length ∧ ∀ c ∈ label, AsciiLetter c := by
  simp only [isTopLabel, Bool.and_eq_true, decide_eq_true_eq, List.all_eq_true, isLetter_iff]

theorem Label.point_notMem {label : List Char} (holds : Label label) : '.' ∉ label :=
  fun held => absurd (holds.word.2 '.' held) (by decide)

theorem isDomain_iff (text : List Char) : isDomain text = true ↔ Domain text := by
  simp only [isDomain, Bool.and_eq_true, contains_iff_pieces, Option.any_eq_true, isTopLabel_iff,
    List.all_eq_true, isLabel_iff]
  constructor
  · rintro ⟨⟨several, top⟩, labels⟩
    obtain ⟨-, -, made⟩ := pieces_unique.mpr (rfl : pieces '.' text = _)
    exact ⟨_, several, labels, top, made⟩
  · rintro ⟨parts, several, labels, top, made⟩
    have nonempty : parts ≠ [] := List.ne_nil_of_length_pos (by omega)
    obtain rfl := pieces_unique.mp
      ⟨nonempty, fun label held => (labels label held).point_notMem, made⟩
    exact ⟨⟨several, top⟩, labels⟩

theorem isEmail_iff (text : String) : isEmail text = true ↔ Address text.toList := by
  have first : isEmail text =
      (splitFirst? '@' text.toList).any fun cut => isLocalPart cut.1 && isDomain cut.2 := by
    unfold isEmail
    cases splitFirst? '@' text.toList <;> rfl
  simp only [first, Option.any_eq_true, Prod.exists, Bool.and_eq_true, splitFirst?_eq_some_iff,
    Address, ← isLocalPart_iff, ← isDomain_iff]
  constructor
  · rintro ⟨before, after, ⟨made, -⟩, formats⟩
    exact ⟨before, after, made, formats⟩
  · rintro ⟨before, after, made, formats⟩
    exact ⟨before, after, ⟨made, at_notMem_of_isLocalPart formats.1⟩, formats⟩

end RuleTree.Format

namespace RuleTree.Leaf

theorem pure_demand_iff {holds : Bool} {failure : Failure} :
    (pure (demand holds failure) : Logged (Option Failure)) = pure none ↔ holds = true := by
  cases holds <;> simp [demand, pure, Logged.pure]

/-- The leaf of addresses accepts exactly the addresses. -/
theorem email_accepts_iff (text : String) :
    email.check text = pure none ↔ Format.Address text.toList :=
  pure_demand_iff.trans (Format.isEmail_iff text)

/-- The leaf of user names accepts exactly the user names. -/
theorem userName_accepts_iff (text : String) :
    userName.check text = pure none ↔ Format.UserName text.toList :=
  pure_demand_iff.trans (Format.isUserName_iff text)

end RuleTree.Leaf
