import RuleTree.Proofs.Failure.Path

/-!
Failures of elements. What is put below the position of an element can be told from what is put
below any other position: the digits of a position end where its bracket closes, and all that
follows keeps clear of them.
-/

set_option autoImplicit false

namespace RuleTree

namespace Path

theorem remainder?_append (root rest : List Char) : remainder? root (root ++ rest) = some rest := by
  induction root with
  | nil => rfl
  | cons c root ih => rw [List.cons_append, remainder?, if_pos rfl, ih]

theorem append_of_remainder? {root text rest : List Char}
    (leaves : remainder? root text = some rest) : text = root ++ rest := by
  induction root generalizing text with
  | nil => exact Option.some.inj leaves
  | cons c root ih =>
      cases text with
      | nil => cases leaves
      | cons d text =>
          rw [remainder?] at leaves
          split at leaves
          case isTrue same => rw [same, ih leaves, List.cons_append]
          case isFalse => cases leaves

/-- What lies under a root is the root, or it goes on from the root like a segment. -/
theorem isUnder_iff {member root : String} :
    isUnder member root = true ↔
      ∃ rest : List Char, member.toList = root.toList ++ rest ∧
        ∀ c ∈ rest.head?, c = '.' ∨ c = '[' := by
  constructor
  · intro under
    unfold isUnder at under
    split at under
    case h_1 left => exact ⟨[], append_of_remainder? left, by simp⟩
    case h_2 c rest left => exact ⟨c :: rest, append_of_remainder? left, by simpa using under⟩
    case h_3 => cases under
  · rintro ⟨rest, shape, starts⟩
    rw [isUnder, shape, remainder?_append]
    cases rest with
    | nil => rfl
    | cons c rest =>
        obtain rfl | rfl := starts c rfl
        · rfl
        · rfl

theorem toList_index (position : Nat) :
    (index "" position).toList = '[' :: (Nat.toDigits 10 position ++ [']']) := by
  rw [index_empty, String.toList_append, String.toList_append]
  exact congrArg ('[' :: · ++ [']']) Nat.toList_repr

/-- The closing bracket is no digit, so a position can be read off a text that starts with it. -/
theorem position_unique {position other : Nat} {rest remainder : List Char}
    (same : (index "" position).toList ++ rest = (index "" other).toList ++ remainder) :
    position = other := by
  rw [toList_index, toList_index] at same
  have digits (number : Nat) (rest : List Char) :
      (Nat.toDigits 10 number ++ ']' :: rest).takeWhile Char.isDigit = Nat.toDigits 10 number := by
    rw [List.takeWhile_append_of_pos fun c member =>
      Nat.isDigit_of_mem_toDigits (by decide) (by decide) member]
    simp
  have same : Nat.toDigits 10 position = Nat.toDigits 10 other := by
    simp only [List.cons_append, List.append_assoc, List.nil_append, List.cons.injEq,
      true_and] at same
    rw [← digits position rest, same, digits]
  have value := Nat.ofDigitChars_toDigits (b := 10) (n := position) (by decide) (by decide)
  rwa [same, Nat.ofDigitChars_toDigits (by decide) (by decide), eq_comm] at value

/-- What follows the parent in a composed path is nothing, or it starts like a segment. -/
theorem toList_compose {parent : String} (nonempty : parent ≠ "") (member : String) :
    ∃ rest : List Char, (compose parent member).toList = parent.toList ++ rest ∧
      ∀ c ∈ rest.head?, c = '.' ∨ c = '[' := by
  by_cases memberEmpty : member = ""
  · exact ⟨[], by rw [memberEmpty, compose_empty_right, List.append_nil], by simp⟩
  · refine ⟨(separator member ++ member).toList, ?_, ?_⟩
    · rw [compose_of_ne nonempty memberEmpty, String.append_assoc, String.toList_append]
    · unfold separator
      split
      case isTrue bracket => simp [bracket]
      case isFalse => simp

theorem isUnder_compose {parent : String} (nonempty : parent ≠ "") (member : String) :
    isUnder (compose parent member) parent = true :=
  isUnder_iff.mpr (toList_compose nonempty member)

theorem index_ne_empty (position : Nat) : index "" position ≠ "" := by
  rw [index_empty]
  simp

/-- A path below a position lies under this position and under no other. -/
theorem isUnder_index (position other : Nat) (member : String) :
    isUnder (compose (index "" position) member) (index "" other) = decide (position = other) := by
  rw [Bool.eq_iff_iff, decide_eq_true_iff]
  constructor
  · intro under
    obtain ⟨rest, shape, -⟩ := toList_compose (index_ne_empty position) member
    obtain ⟨remainder, lies, -⟩ := isUnder_iff.mp under
    exact position_unique (shape.symm.trans lies)
  · rintro rfl
    exact isUnder_compose (index_ne_empty position) member

end Path

namespace Failure

/-- The failure is about the element at the position, or about something below it. -/
def liesAt (position : Nat) (failure : Failure) : Bool :=
  failure.members.any fun member => Path.isUnder member (Path.index "" position)

theorem liesAt_below (position other : Nat) (failure : Failure) :
    (failure.below (Path.index "" position)).liesAt other = decide (position = other) := by
  rw [below_eq, liesAt]
  cases members : failure.members with
  | nil =>
      have alone := Path.isUnder_index position other ""
      rw [Path.compose_empty_right] at alone
      simp only [Path.place, if_neg (Path.index_ne_empty position), List.any_cons, List.any_nil,
        Bool.or_false, alone]
  | cons member rest =>
      simp only [Path.place, List.any_map, Function.comp_def, Path.isUnder_index, List.any_cons]
      cases decide (position = other) <;> simp

end Failure

end RuleTree
