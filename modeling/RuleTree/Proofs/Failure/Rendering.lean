import Mathlib.Data.List.Forall2
import RuleTree.Failure.Message

/-!
Rendered templates. A template splits in one way into texts and placeholders, whatever the name and
the parameters are, and its rendering is what its segments become, one after another. So nothing of
the template is lost, and what is put in is never read for placeholders.
-/

set_option autoImplicit false

namespace RuleTree.Template

/-- A segment of a template: text that stands as it is, or the key of a placeholder. -/
inductive Segment where
  | text (chars : List Char)
  | placeholder (key : List Char)

namespace Segment

/-- What stands for the segment in the template. -/
def source : Segment → List Char
  | .text chars => chars
  | .placeholder key => '{' :: key ++ ['}']

/-- What the segment becomes in the message. -/
inductive Becomes (name : String) (params : List (String × String)) : Segment → List Char → Prop
  | text {chars : List Char} : Becomes name params (.text chars) chars
  | name {key : List Char} : String.ofList key = "name" →
      Becomes name params (.placeholder key) name.toList
  | param {key : List Char} {value : String} {before after : List (String × String)} :
      String.ofList key ≠ "name" → params = before ++ (String.ofList key, value) :: after →
      (∀ param ∈ before, param.1 ≠ String.ofList key) →
      Becomes name params (.placeholder key) value.toList
  | unknown {key : List Char} :
      String.ofList key ≠ "name" → (∀ param ∈ params, param.1 ≠ String.ofList key) →
      Becomes name params (.placeholder key) (source (.placeholder key))

def fill (name : String) (params : List (String × String)) : Segment → List Char
  | .text chars => chars
  | .placeholder key => substitute name params key

end Segment

/-- The segments of a template from left to right. A placeholder begins at the first opening brace
and ends at the next closing one; behind an opening brace that is not closed all is text. -/
inductive Splits : List Char → List Segment → Prop
  | bare {template : List Char} : '{' ∉ template → Splits template [.text template]
  | unclosed {template before tail : List Char} :
      template = before ++ '{' :: tail → '{' ∉ before → '}' ∉ tail →
      Splits template [.text template]
  | placeholder {template before key rest : List Char} {segments : List Segment} :
      template = before ++ '{' :: (key ++ '}' :: rest) → '{' ∉ before → '}' ∉ key →
      Splits rest segments → Splits template (.text before :: .placeholder key :: segments)

variable {name : String} {params : List (String × String)}

/-! ### Segments of a template -/

/-- A text is cut in one way at the first occurrence of a character. -/
theorem first_unique {c : Char} {before after other rest : List Char} (first : c ∉ before)
    (second : c ∉ other) (same : before ++ c :: after = other ++ c :: rest) :
    before = other ∧ after = rest := by
  obtain ⟨between, rfl, shape⟩ | ⟨between, rfl, shape⟩ := List.append_eq_append_iff.mp same
  all_goals
    cases between with
    | nil => simpa [eq_comm] using shape
    | cons d between =>
        obtain ⟨rfl, -⟩ := List.cons.inj shape
        simp at first second

theorem exists_splits (template : List Char) : ∃ segments, Splits template segments := by
  by_cases opens : '{' ∈ template
  case neg => exact ⟨_, .bare opens⟩
  case pos =>
    obtain ⟨before, tail, shape, first⟩ := List.eq_append_cons_of_mem opens
    by_cases closes : '}' ∈ tail
    case neg => exact ⟨_, .unclosed shape first closes⟩
    case pos =>
      obtain ⟨key, rest, cut, next⟩ := List.eq_append_cons_of_mem closes
      obtain ⟨segments, splits⟩ := exists_splits rest
      exact ⟨_, .placeholder (cut ▸ shape) first next splits⟩
termination_by template.length
decreasing_by
  rw [shape, cut]
  simp only [List.length_append, List.length_cons]
  omega

-- The first brace of each kind settles what a template is cut into, so two splits that begin in
-- different ways disagree about a brace.
theorem Splits.unique {template : List Char} {segments others : List Segment}
    (splits : Splits template segments) (also : Splits template others) : others = segments := by
  induction splits generalizing others with
  | bare bare =>
      cases also with
      | bare => rfl
      | unclosed shape | placeholder shape => simp [shape] at bare
  | unclosed shape first unclosed =>
      cases also with
      | bare bare => simp [shape] at bare
      | unclosed => rfl
      | placeholder shape' first' =>
          obtain ⟨-, rfl⟩ := first_unique first first' (shape.symm.trans shape')
          simp at unclosed
  | placeholder shape first next _ ih =>
      cases also with
      | bare bare => simp [shape] at bare
      | unclosed shape' first' unclosed =>
          obtain ⟨-, rfl⟩ := first_unique first first' (shape.symm.trans shape')
          simp at unclosed
      | placeholder shape' first' next' later =>
          obtain ⟨rfl, same⟩ := first_unique first first' (shape.symm.trans shape')
          obtain ⟨rfl, rfl⟩ := first_unique next next' same
          rw [ih later]

theorem Splits.source_eq {template : List Char} {segments : List Segment}
    (splits : Splits template segments) : segments.flatMap Segment.source = template := by
  induction splits with
  | bare => simp [Segment.source]
  | unclosed => simp [Segment.source]
  | placeholder shape _ _ _ ih => simp [Segment.source, ih, shape]

/-! ### What segments become -/

/-- A key that is not that of the name is looked up among the parameters. -/
theorem substitute_of_ne {key : List Char} (other : String.ofList key ≠ "name") :
    substitute name params key =
      ((params.find? fun param => param.1 == String.ofList key).map (·.2.toList)).getD
        (Segment.placeholder key).source := by
  rw [substitute, if_neg other]
  cases params.find? fun param => param.1 == String.ofList key <;> rfl

theorem becomes_substitute (key : List Char) :
    (Segment.placeholder key).Becomes name params (substitute name params key) := by
  by_cases named : String.ofList key = "name"
  case pos =>
    rw [substitute, if_pos named]
    exact .name named
  case neg =>
    rw [substitute_of_ne named]
    cases found : params.find? fun param => param.1 == String.ofList key with
    | none =>
        have unknown := List.find?_eq_none.mp found
        exact .unknown named fun param held => by simpa using unknown param held
    | some param =>
        obtain ⟨known, before, after, rfl, earlier⟩ := List.find?_eq_some_iff_append.mp found
        obtain ⟨_, value⟩ := param
        obtain rfl := eq_of_beq known
        exact .param named rfl fun param held => by simpa using earlier param held

theorem Segment.Becomes.fill_eq {segment : Segment} {value : List Char}
    (becomes : segment.Becomes name params value) : segment.fill name params = value := by
  cases becomes with
  | text => rfl
  | name named => rw [fill, substitute, if_pos named]
  | @param key value before after other shape earlier =>
      have passed : before.find? (fun param => param.1 == String.ofList key) = none :=
        List.find?_eq_none.mpr fun param held => by simpa using earlier param held
      rw [fill, substitute_of_ne other, shape, List.find?_append, passed]
      simp
  | @unknown key other unknown =>
      have passed : params.find? (fun param => param.1 == String.ofList key) = none :=
        List.find?_eq_none.mpr fun param held => by simpa using unknown param held
      rw [fill, substitute_of_ne other, passed]
      rfl

theorem becomes_iff {segment : Segment} {value : List Char} :
    segment.Becomes name params value ↔ segment.fill name params = value := by
  refine ⟨Segment.Becomes.fill_eq, ?_⟩
  rintro rfl
  cases segment with
  | text => exact .text
  | placeholder key => exact becomes_substitute key

theorem forall₂_becomes_iff {segments : List Segment} {values : List (List Char)} :
    List.Forall₂ (Segment.Becomes name params) segments values ↔
      segments.map (Segment.fill name params) = values := by
  have same : Segment.Becomes name params = fun segment value => segment.fill name params = value :=
    funext fun _ => funext fun _ => propext becomes_iff
  rw [same, ← List.forall₂_map_left_iff (R := (· = ·)), List.forall₂_eq_eq_eq]

/-- A key as it stands in a template. -/
def placeholder (key : String) : String := String.ofList (Segment.placeholder key.toList).source

/-- Under a name and parameters that are their own placeholders a segment stays as it is. -/
theorem source_of_becomes {keys : List String} {segment : Segment} {value : List Char}
    (becomes : segment.Becomes "{name}" (keys.map fun key => (key, placeholder key)) value) :
    value = segment.source := by
  cases becomes with
  | text => rfl
  | @name key named =>
      obtain rfl : key = "name".toList := by rw [← named, String.toList_ofList]
      rfl
  | @param key value before after _ shape _ =>
      have held : (String.ofList key, value) ∈ keys.map fun key => (key, placeholder key) :=
        shape ▸ List.mem_append_right before List.mem_cons_self
      obtain ⟨own, -, same⟩ := List.mem_map.mp held
      obtain ⟨rfl, rfl⟩ := Prod.mk.inj same
      simp [placeholder, Segment.source]
  | unknown => rfl

/-! ### The rendering -/

theorem renderRest_append {chars : List Char} (bare : '{' ∉ chars) (rest : List Char) :
    renderRest name params none (chars ++ rest) = chars ++ renderRest name params none rest := by
  induction chars with
  | nil => rfl
  | cons c chars ih =>
      obtain ⟨other, bare⟩ := not_or.mp (List.mem_cons.not.mp bare)
      rw [List.cons_append, renderRest, if_neg (Ne.symm other), ih bare, List.cons_append]

theorem renderRest_of_bare {chars : List Char} (bare : '{' ∉ chars) :
    renderRest name params none chars = chars := by
  rw [← List.append_nil chars, renderRest_append bare, renderRest]

theorem renderRest_closed {key : List Char} (next : '}' ∉ key) (opened rest : List Char) :
    renderRest name params (some opened) (key ++ '}' :: rest) =
      substitute name params (opened.reverse ++ key) ++ renderRest name params none rest := by
  induction key generalizing opened with
  | nil => rw [List.nil_append, renderRest, if_pos rfl, List.append_nil]
  | cons c key ih =>
      obtain ⟨other, next⟩ := not_or.mp (List.mem_cons.not.mp next)
      rw [List.cons_append, renderRest, if_neg (Ne.symm other), ih next, List.reverse_cons,
        List.append_assoc, List.singleton_append]

theorem renderRest_unclosed {tail : List Char} (unclosed : '}' ∉ tail) (opened : List Char) :
    renderRest name params (some opened) tail = '{' :: (opened.reverse ++ tail) := by
  induction tail generalizing opened with
  | nil => rw [renderRest, List.append_nil]
  | cons c tail ih =>
      obtain ⟨other, unclosed⟩ := not_or.mp (List.mem_cons.not.mp unclosed)
      rw [renderRest, if_neg (Ne.symm other), ih unclosed, List.reverse_cons, List.append_assoc,
        List.singleton_append]

theorem Splits.renderRest_eq {template : List Char} {segments : List Segment}
    (splits : Splits template segments) :
    renderRest name params none template = segments.flatMap (Segment.fill name params) := by
  induction splits with
  | bare bare => simp [Segment.fill, renderRest_of_bare bare]
  | unclosed shape first unclosed =>
      rw [shape, renderRest_append first, renderRest, if_pos rfl, renderRest_unclosed unclosed]
      simp [Segment.fill]
  | placeholder shape first next _ ih =>
      rw [shape, renderRest_append first, renderRest, if_pos rfl, renderRest_closed next, ih]
      simp [Segment.fill]

/-- A template splits in one way into segments. Its rendering is the text that is made of what the
segments become, in order, and the template itself where each placeholder stands for itself. -/
theorem render_fills_segments (template : String) :
    ∃ segments : List Segment,
      (∀ others : List Segment, Splits template.toList others ↔ others = segments) ∧
      (∀ (name : String) (params : List (String × String)) (message : String),
        render template name params = message ↔
          ∃ values : List (List Char),
            List.Forall₂ (Segment.Becomes name params) segments values ∧
              message = String.ofList values.flatten) ∧
      ∀ keys : List String,
        render template "{name}" (keys.map fun key => (key, placeholder key)) = template := by
  obtain ⟨segments, splits⟩ := exists_splits template.toList
  refine ⟨segments, fun others => ⟨splits.unique, fun same => same ▸ splits⟩, ?_, ?_⟩
  · intro name params message
    rw [render, splits.renderRest_eq, List.flatMap_def]
    simp only [forall₂_becomes_iff, exists_eq_left']
    exact eq_comm
  · intro keys
    have own : segments.flatMap (Segment.fill _ _) = segments.flatMap Segment.source :=
      List.flatMap_congr fun segment _ =>
        source_of_becomes (becomes_iff.mpr rfl : segment.Becomes _ (keys.map _) _)
    rw [render, splits.renderRest_eq, own, splits.source_eq, String.ofList_toList]

end RuleTree.Template
