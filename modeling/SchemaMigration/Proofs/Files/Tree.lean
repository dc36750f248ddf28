import SchemaMigration.Files.Change
import SchemaMigration.Proofs.Files.Path

/-! # Names in a tree — where a path leads

    A tree is looked up from two sides: name by name from a directory, and component by
    component of a path.  One more name goes one step further on both sides:

    * `at?_file_iff`, `at?_folder_iff`: the first name picks an entry;
    * `at?_append`: names behind those that lead to a folder are looked up inside;
    * `item_join_folder_iff`: so is a name that is joined to the path of a folder. -/

namespace SchemaMigration

open SchemaMigration.Path

/-! ## Chains of names -/

namespace Directory

variable {d inside : Directory} {name first : String} {more chain : List String}

theorem at?_cons_cons (d : Directory) (first next : String) (more : List String) :
    d.at? (first :: next :: more) = match d.find? first with
      | some (.folder inside) => inside.at? (next :: more)
      | _ => none := rfl

/-- A file is found under its name, and nothing is below it. -/
theorem at?_file_cons (name : String) (content : ByteArray) (rest : Directory) (first : String)
    (more : List String) :
    (Directory.file name content rest).at? (first :: more)
      = if name = first then if more = [] then some (.file content) else none
        else rest.at? (first :: more) := by
  cases more with
  | nil => rfl
  | cons next more =>
      rw [at?_cons_cons, find?]
      by_cases hname : name = first
      · rw [if_pos hname, if_pos hname, if_neg (List.cons_ne_nil _ _)]
      · rw [if_neg hname, if_neg hname, at?_cons_cons]

/-- What a folder holds is found behind its name. -/
theorem at?_folder_cons (name : String) (inside rest : Directory) (first : String)
    (more : List String) :
    (Directory.folder name inside rest).at? (first :: more)
      = if name = first then inside.at? more else rest.at? (first :: more) := by
  cases more with
  | nil => rfl
  | cons next more =>
      rw [at?_cons_cons, find?]
      by_cases hname : name = first
      · rw [if_pos hname, if_pos hname]
      · rw [if_neg hname, if_neg hname, at?_cons_cons]

/-- Below a folder the way goes on in that folder. -/
theorem at?_cons_of_folder (h : d.find? name = some (.folder inside)) (more : List String) :
    d.at? (name :: more) = inside.at? more := by
  cases more with
  | nil => exact h
  | cons next more => rw [at?_cons_cons, h]

/-- Names behind the first one are looked up in a folder. -/
theorem exists_folder_of_at? {item : Item} (h : d.at? (name :: more) = some item)
    (hmore : more ≠ []) : ∃ inside, d.find? name = some (.folder inside) := by
  cases more with
  | nil => exact absurd rfl hmore
  | cons next more =>
      rw [at?_cons_cons] at h
      cases hf : d.find? name with
      | none => simp [hf] at h
      | some found =>
          cases found with
          | file content => simp [hf] at h
          | folder inside => exact ⟨inside, rfl⟩

/-- What is found stands under a name of the directory. -/
theorem mem_names_of_at? {item : Item} (h : d.at? (first :: more) = some item) :
    first ∈ d.names := by
  induction d with
  | empty => cases more <;> exact nomatch h
  | file name content rest ih =>
      rw [at?_file_cons] at h
      by_cases hname : name = first
      · exact hname ▸ List.mem_cons_self
      · rw [if_neg hname] at h
        exact List.mem_cons_of_mem _ (ih h)
  | folder name inside rest _ ih =>
      rw [at?_folder_cons] at h
      by_cases hname : name = first
      · exact hname ▸ List.mem_cons_self
      · rw [if_neg hname] at h
        exact List.mem_cons_of_mem _ (ih h)

/-- Without a name no file is reached. -/
theorem ne_nil_of_at? {content : ByteArray} (h : d.at? chain = some (.file content)) :
    chain ≠ [] := by
  rintro rfl
  exact nomatch h

/-- No names lead to a file in an empty directory. -/
theorem at?_empty_ne_file (names : List String) (content : ByteArray) :
    Directory.empty.at? names ≠ some (.file content) := by
  match names with
  | [] => exact nofun
  | [_] => exact nofun
  | _ :: _ :: _ => exact nofun

/-- The files that names lead to are the first entry, if it is one, and those of the others. -/
theorem at?_file_iff {content found : ByteArray} {rest : Directory} {names : List String}
    (hname : name ∉ rest.names) :
    (Directory.file name content rest).at? names = some (.file found)
      ↔ (names = [name] ∧ found = content) ∨ rest.at? names = some (.file found) := by
  cases names with
  | nil => exact iff_of_false nofun (by rintro (⟨h, -⟩ | h) <;> exact nomatch h)
  | cons first more =>
      rw [at?_file_cons]
      by_cases hfirst : name = first
      · subst hfirst
        have hrest : rest.at? (name :: more) ≠ some (.file found) := fun h =>
          hname (mem_names_of_at? h)
        rw [if_pos rfl, or_iff_left hrest]
        by_cases hmore : more = [] <;> simp [hmore, eq_comm]
      · simp [hfirst, Ne.symm hfirst]

/-- The files that names lead to are those in the first entry and those of the others. -/
theorem at?_folder_iff {found : ByteArray} {rest : Directory} {names : List String}
    (hname : name ∉ rest.names) :
    (Directory.folder name inside rest).at? names = some (.file found)
      ↔ (∃ more, names = name :: more ∧ inside.at? more = some (.file found))
        ∨ rest.at? names = some (.file found) := by
  cases names with
  | nil => exact iff_of_false nofun (by rintro (⟨more, h, -⟩ | h) <;> exact nomatch h)
  | cons first more =>
      rw [at?_folder_cons]
      by_cases hfirst : name = first
      · subst hfirst
        have hrest : rest.at? (name :: more) ≠ some (.file found) := fun h =>
          hname (mem_names_of_at? h)
        rw [if_pos rfl, or_iff_left hrest]
        simp
      · simp [hfirst, Ne.symm hfirst]

/-- Names behind those of a folder are looked up inside. -/
theorem at?_append (h : d.at? chain = some (.folder inside)) (more : List String) :
    d.at? (chain ++ more) = inside.at? more := by
  fun_induction at? chain d with
  | case1 d => exact congrArg (at? more) (Item.folder.inj (Option.some.inj h))
  | case2 d name => exact at?_cons_of_folder h more
  | case3 d name rest hrest sub hfind ih =>
      rw [List.cons_append, at?_cons_of_folder hfind]
      exact ih h
  | case4 d name rest hrest hfind => exact nomatch h

end Directory

/-! ## Paths -/

namespace FileTree

variable {t : FileTree} {p : Path} {name : String} {chain : List String}
variable {inside sub : Directory}

/-- Components are followed one after another. -/
theorem follow_append (t : FileTree) (chain : List String) (cs : List Component) (c : Component) :
    t.follow chain (cs ++ [c]) = (t.follow chain cs).bind fun reached => t.follow reached [c] := by
  induction cs generalizing chain with
  | nil => rfl
  | cons first rest ih =>
      simp only [List.cons_append, follow]
      cases t.root.at? chain with
      | none => rfl
      | some item =>
          cases item with
          | file content => rfl
          | folder inside =>
              -- The first step goes down, up or nowhere; the rest is followed from there, by
              -- induction.
              cases first with
              | name text =>
                  by_cases hlong : text.utf8ByteSize > nameLimit
                  · simp only [if_pos hlong]
                    rfl
                  · simp only [if_neg hlong]
                    exact ih _
              | _ => exact ih _

/-- From a folder, a name leads to its entry. -/
theorem follow_name (h : t.root.at? chain = some (.folder inside))
    (hlong : name.utf8ByteSize ≤ nameLimit) :
    t.follow chain [.name name] = .ok (chain ++ [name]) := by
  rw [follow, h]
  exact if_neg (Nat.not_lt.mpr hlong)

/-- A path that can be followed leads to what its names lead to. -/
theorem item_of_locate (h : t.locate p = .ok chain) :
    t.item p = match t.root.at? chain with
      | none => .error .notFound
      | some (.file content) =>
          if wantsDirectory p then .error .notDirectory else .ok (.file content)
      | some (.folder inside) => .ok (.folder inside) := by
  rw [item, h]
  rfl

/-- A path leads to a folder if its names do. -/
theorem item_eq_folder_iff : t.item p = .ok (.folder inside)
    ↔ ∃ chain, t.locate p = .ok chain ∧ t.root.at? chain = some (.folder inside) := by
  cases hl : t.locate p with
  | error e =>
      have herror : t.item p = .error e := by
        rw [item, hl]
        rfl
      rw [herror]
      exact iff_of_false nofun fun ⟨_, h, _⟩ => nomatch h
  | ok chain =>
      rw [item_of_locate hl]
      cases hat : t.root.at? chain with
      | none => simp [hat]
      | some found =>
          cases found with
          | file content => by_cases hw : wantsDirectory p = true <;> simp [hw, hat]
          | folder sub => simp [hat]

/-- Joining a name puts it behind the text, with at most a slash between them. -/
theorem text_join (p : Path) (h : IsName name) :
    ∃ slash, (∀ c ∈ slash, c = '/')
      ∧ (p.join name).text.toList = p.text.toList ++ slash ++ name.toList := by
  have hhead : name.toList.head? ≠ some '/' := fun hslash =>
    h.2.1 (List.mem_of_mem_head? hslash)
  rw [join, if_neg hhead]
  by_cases hend : p.text.isEmpty = true ∨ p.text.toList.getLast? = some '/'
  · rw [if_pos hend]
    exact ⟨[], by simp, by simp⟩
  · rw [if_neg hend]
    exact ⟨['/'], by simp, by simp⟩

/-- A name that is joined to a path is looked up from where the path leads. -/
theorem locate_join (hp : t.locate p = .ok chain) (h : IsName name)
    (hnul : Char.ofNat 0 ∉ name.toList) :
    t.locate (p.join name) = t.follow chain [.name name] := by
  obtain ⟨slash, hslash, htext⟩ := text_join p h
  rw [locate] at hp
  by_cases hbad : p.text.toList.contains (Char.ofNat 0) = true
  · rw [if_pos hbad] at hp
    exact nomatch hp
  by_cases hempty : p.isEmpty = true
  · rw [if_neg hbad, if_pos hempty] at hp
    exact nomatch hp
  rw [if_neg hbad, if_neg hempty] at hp
  -- Joining a name adds no forbidden character, and does not make the path empty.
  have hbad' : ¬(p.join name).text.toList.contains (Char.ofNat 0) = true := by
    rw [htext]
    simp only [List.contains_eq_mem, List.mem_append, decide_eq_true_eq] at hbad ⊢
    rintro ((hmem | hmem) | hmem)
    · exact hbad hmem
    · exact absurd (hslash _ hmem) (by decide)
    · exact hnul hmem
  have hempty' : ¬(p.join name).isEmpty = true := fun h' => by
    have hnil : (p.join name).text.toList = [] := by simpa [Path.isEmpty] using h'
    rw [htext] at hnil
    exact h.1 (List.append_eq_nil_iff.mp hnil).2
  rw [locate, if_neg hbad', if_neg hempty', components_join p h, follow_append, hp]
  rfl

/-- A name that is joined to the path of a folder leads to a folder if the entry of the name
    is one. -/
theorem item_join_folder_iff (hp : t.item p = .ok (.folder inside)) (h : IsName name)
    (hnul : Char.ofNat 0 ∉ name.toList) (hlong : name.utf8ByteSize ≤ nameLimit) :
    t.item (p.join name) = .ok (.folder sub) ↔ inside.find? name = some (.folder sub) := by
  obtain ⟨chain, hchain, hat⟩ := item_eq_folder_iff.mp hp
  have hlocate : t.locate (p.join name) = .ok (chain ++ [name]) := by
    rw [locate_join hchain h hnul, follow_name hat hlong]
  have hfind : t.root.at? (chain ++ [name]) = inside.find? name := Directory.at?_append hat [name]
  rw [item_eq_folder_iff, hlocate, ← hfind]
  constructor
  · rintro ⟨reached, heq, hreached⟩
    rwa [← Except.ok.inj heq] at hreached
  · exact fun hreached => ⟨_, rfl, hreached⟩

end FileTree

end SchemaMigration
