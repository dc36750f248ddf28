import SchemaMigration.Files.Path
import SchemaMigration.Proofs.Text.Fields

/-! # Names below a path — what joining adds to the components

    A directory names its entries, and the path of an entry is the path of the
    directory joined with the name.  However the path of the directory is written,
    joining adds one component (`components_join`), so the names that lead to a file
    can be read back from its path (`after?_of_components`), and from the text of the
    part below the directory (`intercalate_inj`). -/

namespace SchemaMigration

namespace Path

/-! ## Names of entries -/

/-- The names that an entry of a directory can have. -/
def IsName (name : String) : Prop :=
  name.toList ≠ [] ∧ '/' ∉ name.toList ∧ name.toList ≠ ['.'] ∧ name.toList ≠ ['.', '.']

instance (name : String) : Decidable (IsName name) :=
  inferInstanceAs (Decidable (_ ∧ _ ∧ _ ∧ _))

/-- A name is one component, wherever it stands. -/
theorem inner?_of_isName {name : String} (h : IsName name) :
    inner? name.toList = some (.name name) := by
  obtain ⟨hempty, -, hdot, hdots⟩ := h
  rw [inner?, String.ofList_toList]
  · exact hempty
  · exact hdot
  · exact hdots

/-! ## Components of joined paths -/

/-- The components of the piece that a path starts with, if it is not its only one or
    not empty. -/
def leading : List Char → List Component
  | [] => [.root]
  | ['.'] => [.here]
  | piece => (inner? piece).toList

theorem componentsOfPieces_cons {first : List Char} {rest : List (List Char)}
    (h : first ≠ [] ∨ rest ≠ []) :
    componentsOfPieces (first :: rest) = leading first ++ rest.filterMap inner? := by
  by_cases hempty : first = []
  · subst hempty
    have hrest : rest.isEmpty = false := by simpa using h
    rw [componentsOfPieces, hrest]
    rfl
  · by_cases hdot : first = ['.']
    · rw [hdot]
      rfl
    · have hlead : leading first = (inner? first).toList := by
        rw [leading]
        · exact hempty
        · exact hdot
      rw [hlead, componentsOfPieces, List.filterMap_cons]
      · cases inner? first <;> rfl
      · exact List.cons_ne_nil _ _
      · exact fun _ h => hempty (List.cons.inj h).1
      · exact fun _ h => hdot (List.cons.inj h).1

/-- A name alone is a path of one component. -/
theorem components_of_isName {name : String} (h : IsName name) :
    components ⟨name⟩ = [.name name] := by
  have hlead : leading name.toList = [.name name] := by
    rw [leading, inner?_of_isName h]
    · rfl
    · exact h.1
    · exact h.2.2.1
  rw [components, Text.fields_of_notMem h.2.1, componentsOfPieces_cons (Or.inl h.1), hlead]
  rfl

/-- A name behind a slash is one more component than what stands before the slash. -/
theorem componentsOfPieces_append {name : String} (h : IsName name) {first : List Char}
    {rest : List (List Char)} (hne : first ≠ [] ∨ rest ≠ []) :
    componentsOfPieces ((first :: rest) ++ [name.toList])
      = componentsOfPieces (first :: rest) ++ [.name name] := by
  rw [List.cons_append, componentsOfPieces_cons hne, componentsOfPieces_cons (Or.inr (by simp)),
    List.filterMap_append, List.append_assoc]
  simp [inner?_of_isName h]

/-- A slash at the end adds no component. -/
theorem componentsOfPieces_slash {name : String} (h : IsName name) (pieces : List (List Char))
    (hne : pieces ≠ []) :
    componentsOfPieces (pieces ++ [name.toList])
      = componentsOfPieces (pieces ++ [[]]) ++ [.name name] := by
  cases pieces with
  | nil => exact absurd rfl hne
  | cons first rest =>
      rw [List.cons_append, List.cons_append, componentsOfPieces_cons (Or.inr (by simp)),
        componentsOfPieces_cons (Or.inr (by simp)), List.filterMap_append, List.filterMap_append,
        List.filterMap_cons_some (inner?_of_isName h), List.filterMap_cons_none rfl,
        List.filterMap_nil, List.append_nil, List.append_assoc]

/-- Joining a path with a name adds that name to its components. -/
theorem components_join (p : Path) {name : String} (h : IsName name) :
    (p.join name).components = p.components ++ [.name name] := by
  have hhead : name.toList.head? ≠ some '/' := fun hslash =>
    h.2.1 (List.mem_of_mem_head? hslash)
  rw [join, if_neg hhead]
  by_cases hend : p.text.isEmpty = true ∨ p.text.toList.getLast? = some '/'
  · rw [if_pos hend]
    -- A slash is put in between unless the path is empty or has one at its end.
    rcases hend with hempty | hslash
    · have htext : p.text = "" := by simpa using hempty
      have hnone : p.components = [] := by
        rw [components, htext]
        rfl
      rw [hnone, htext, String.empty_append]
      exact components_of_isName h
    · obtain ⟨front, hfront⟩ := List.getLast?_eq_some_iff.mp hslash
      have hbefore : p.components = componentsOfPieces (Text.fields '/' front ++ [[]]) := by
        rw [components, hfront, Text.fields_append_cons]
        rfl
      rw [hbefore, components, String.toList_append, hfront, List.append_assoc]
      show componentsOfPieces (Text.fields '/' (front ++ '/' :: name.toList)) = _
      rw [Text.fields_append_cons, Text.fields_of_notMem h.2.1]
      exact componentsOfPieces_slash h _ (Text.fields_ne_nil _ _)
  · rw [if_neg hend]
    have hempty : p.text.toList ≠ [] := fun hnil => hend (Or.inl (by simpa using hnil))
    have hslash : (p.text ++ "/" ++ name).toList = p.text.toList ++ '/' :: name.toList := by
      rw [String.toList_append, String.toList_append, List.append_assoc]
      rfl
    rw [components, hslash, Text.fields_append_cons, Text.fields_of_notMem h.2.1, components]
    cases hf : Text.fields '/' p.text.toList with
    | nil => exact absurd hf (Text.fields_ne_nil _ _)
    | cons first rest =>
        refine componentsOfPieces_append h ?_
        by_cases hrest : rest = []
        · -- The only piece is the whole text, which is not empty.
          have hjoin := Text.join_fields '/' p.text.toList
          rw [hf, hrest] at hjoin
          exact Or.inl fun hfirst => hempty (hjoin.symm.trans hfirst)
        · exact Or.inr hrest

/-- What a path has more than its base is read back. -/
theorem after?_of_components {base p : Path} {below : List Component}
    (h : p.components = base.components ++ below) : base.after? p = some below := by
  have hprefix : base.components.isPrefixOf p.components = true := by
    rw [h, List.isPrefixOf_iff_prefix]
    exact List.prefix_append _ _
  rw [after?, if_pos hprefix, h, List.drop_left]

/-- Chains of names are told apart by their text. -/
theorem intercalate_inj {as bs : List String} (ha : as ≠ []) (hb : bs ≠ [])
    (has : ∀ a ∈ as, IsName a) (hbs : ∀ b ∈ bs, IsName b)
    (h : "/".intercalate as = "/".intercalate bs) : as = bs := by
  have hsplit : ∀ {l : List String}, l ≠ [] → (∀ a ∈ l, IsName a) →
      Text.split '/' ("/".intercalate l) = l := fun hl hnames =>
    Text.split_eq_iff.mpr ⟨hl, fun a ha => (hnames a ha).2.1, rfl⟩
  rw [← hsplit ha has, h, hsplit hb hbs]

end Path

end SchemaMigration
