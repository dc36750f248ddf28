import Mathlib.Data.List.Nodup
import SchemaMigration.Proofs.Files.Tree
import SchemaMigration.Scripts.Scan

/-! # Scans — one path for each script

    A file system gives every entry a name, and no two entries of one directory the
    same one.  In such a tree (`Directory.Proper`) the names that lead to a file are
    its own, they are the components of its path behind those of the scanned
    directory, and so they can be read back from the path of the script:

    * `mem_scriptFiles`: where a file that is found lies;
    * `nodup_scriptFiles`: no two files are found under the same names;
    * `nodup_scan`: no two scripts of a scan have one path. -/

namespace SchemaMigration

open SchemaMigration.Path

namespace Directory

/-! ## Proper directories -/

/-- Entries have names, here and below, and no two in one directory the same. -/
def Proper : Directory → Prop
  | .empty => True
  | .file name _ rest => IsName name ∧ name ∉ rest.names ∧ rest.Proper
  | .folder name inside rest => IsName name ∧ name ∉ rest.names ∧ inside.Proper ∧ rest.Proper

instance decidableProper : (d : Directory) → Decidable d.Proper
  | .empty => .isTrue trivial
  | .file _ _ rest =>
      have := decidableProper rest
      inferInstanceAs (Decidable (_ ∧ _ ∧ rest.Proper))
  | .folder _ inside rest =>
      have := decidableProper inside
      have := decidableProper rest
      inferInstanceAs (Decidable (_ ∧ _ ∧ inside.Proper ∧ rest.Proper))

variable {d inside : Directory}

theorem proper_of_find? (hd : d.Proper) {name : String} (h : d.find? name = some (.folder inside)) :
    inside.Proper := by
  induction d with
  | empty => cases h
  | file n content rest ih =>
      rw [find?] at h
      by_cases hn : n = name
      · rw [if_pos hn] at h
        cases h
      · rw [if_neg hn] at h
        exact ih hd.2.2 h
  | folder n sub rest _ ih =>
      rw [find?] at h
      by_cases hn : n = name
      · rw [if_pos hn] at h
        obtain ⟨-, -, hsub, -⟩ := hd
        exact Item.folder.inj (Option.some.inj h) ▸ hsub
      · rw [if_neg hn] at h
        exact ih hd.2.2.2 h

/-- Every folder in a proper tree is proper. -/
theorem proper_of_at? (hd : d.Proper) {chain : List String}
    (h : d.at? chain = some (.folder inside)) : inside.Proper := by
  fun_induction at? chain d with
  | case1 d => exact Item.folder.inj (Option.some.inj h) ▸ hd
  | case2 d name => exact proper_of_find? hd h
  | case3 d name rest hrest sub hfind ih => exact ih (proper_of_find? hd hfind) h
  | case4 d name rest hrest hfind => cases h

/-! ## Found files -/

variable {excluded : Option Path} {place : Path} {chain : List String} {f : FoundFile}

/-- The file lies in the directory or below it: some names lead to it from there. -/
def Holds (d : Directory) (place : Path) (chain : List String) (f : FoundFile) : Prop :=
  ∃ first rest, first ∈ d.names ∧ (∀ name ∈ first :: rest, IsName name)
    ∧ f.names = chain ++ first :: rest
    ∧ f.location.components = place.components ++ (first :: rest).map .name

/-- A file is found if it is called like a script. -/
theorem mem_scriptFiles_file_iff {name : String} {content : ByteArray} {rest : Directory} :
    f ∈ (Directory.file name content rest).scriptFiles excluded place chain
      ↔ (extensionOf? name = some "sql" ∧ f = ⟨chain ++ [name], place.join name, content⟩)
        ∨ f ∈ rest.scriptFiles excluded place chain := by
  rw [scriptFiles]
  by_cases hsql : extensionOf? name = some "sql"
  · rw [if_pos hsql, List.mem_cons, and_iff_right hsql]
  · rw [if_neg hsql, or_iff_right fun h => hsql h.1]

/-- In a folder is found what is found there, unless it is passed over. -/
theorem mem_scriptFiles_folder_iff {name : String} {rest : Directory} :
    f ∈ (Directory.folder name inside rest).scriptFiles excluded place chain
      ↔ (¬(excluded.any fun e => e.same (place.join name)) = true
          ∧ f ∈ inside.scriptFiles excluded (place.join name) (chain ++ [name]))
        ∨ f ∈ rest.scriptFiles excluded place chain := by
  rw [scriptFiles]
  by_cases hskip : (excluded.any fun e => e.same (place.join name)) = true
  · rw [if_pos hskip, or_iff_right fun h => h.1 hskip]
  · rw [if_neg hskip, List.mem_append, and_iff_right hskip]

/-- What is found lies in the directory. -/
theorem mem_scriptFiles (hd : d.Proper) (h : f ∈ d.scriptFiles excluded place chain) :
    d.Holds place chain f := by
  induction d generalizing place chain with
  | empty => exact nomatch h
  | file name content rest ih =>
      obtain ⟨hname, -, hrest⟩ := hd
      have hothers : f ∈ rest.scriptFiles excluded place chain →
          (Directory.file name content rest).Holds place chain f := fun hf => by
        obtain ⟨first, more, hfirst, hall⟩ := ih hrest hf
        exact ⟨first, more, List.mem_cons_of_mem _ hfirst, hall⟩
      rcases mem_scriptFiles_file_iff.mp h with ⟨-, rfl⟩ | hf
      · exact ⟨name, [], List.mem_cons_self, by simpa using hname, rfl, components_join _ hname⟩
      · exact hothers hf
  | folder name inside rest ihInside ih =>
      obtain ⟨hname, -, hinside, hrest⟩ := hd
      have hothers : f ∈ rest.scriptFiles excluded place chain →
          (Directory.folder name inside rest).Holds place chain f := fun hf => by
        obtain ⟨first, more, hfirst, hall⟩ := ih hrest hf
        exact ⟨first, more, List.mem_cons_of_mem _ hfirst, hall⟩
      rcases mem_scriptFiles_folder_iff.mp h with ⟨-, hf⟩ | hf
      · -- The names that lead to the file from inside stand behind the name of the folder.
        obtain ⟨first, more, -, hall, hnames, hlocation⟩ := ihInside hinside hf
        refine ⟨name, first :: more, List.mem_cons_self, List.forall_mem_cons.mpr ⟨hname, hall⟩,
          ?_, ?_⟩
        · rw [hnames, List.append_assoc]
          rfl
        · rw [hlocation, components_join _ hname, List.append_assoc]
          rfl
      · exact hothers hf

/-- No two files are found under the same names. -/
theorem nodup_scriptFiles (hd : d.Proper) :
    ((d.scriptFiles excluded place chain).map FoundFile.names).Nodup := by
  -- The names of other entries differ in the first one behind the chain.
  have hfirst : ∀ {rest : Directory} {place : Path} {chain : List String} {name : String},
      rest.Proper → name ∉ rest.names → ∀ more : List String,
      chain ++ name :: more ∉ (rest.scriptFiles excluded place chain).map FoundFile.names := by
    intro rest place chain name hrest hnot more hmem
    obtain ⟨g, hg, hnames⟩ := List.mem_map.mp hmem
    obtain ⟨first, others, hfirst, -, hgnames, -⟩ := mem_scriptFiles hrest hg
    rw [hgnames, List.append_cancel_left_eq] at hnames
    exact hnot ((List.cons.inj hnames).1 ▸ hfirst)
  induction d generalizing place chain with
  | empty => exact List.nodup_nil
  | file name content rest ih =>
      obtain ⟨-, hnot, hrest⟩ := hd
      rw [scriptFiles]
      by_cases hsql : extensionOf? name = some "sql"
      · rw [if_pos hsql, List.map_cons, List.nodup_cons]
        exact ⟨hfirst hrest hnot [], ih hrest⟩
      · rw [if_neg hsql]
        exact ih hrest
  | folder name inside rest ihInside ih =>
      obtain ⟨-, hnot, hinside, hrest⟩ := hd
      rw [scriptFiles]
      by_cases hskip : (excluded.any fun e => e.same (place.join name)) = true
      · rw [if_pos hskip]
        exact ih hrest
      · rw [if_neg hskip, List.map_append, List.nodup_append']
        refine ⟨ihInside hinside, ih hrest, fun names hin hout => ?_⟩
        obtain ⟨g, hg, rfl⟩ := List.mem_map.mp hin
        obtain ⟨first, more, -, -, hnames, -⟩ := mem_scriptFiles hinside hg
        rw [hnames, List.append_assoc] at hout
        exact hfirst hrest hnot (first :: more) hout

end Directory

/-- What a path leads to in a proper tree is proper. -/
theorem FileTree.proper_of_item {tree : FileTree} (ht : tree.root.Proper) {p : Path}
    {inside : Directory} (h : tree.item p = .ok (.folder inside)) : inside.Proper := by
  obtain ⟨chain, -, hat⟩ := item_eq_folder_iff.mp h
  exact Directory.proper_of_at? ht hat

/-! ## Scripts -/

namespace ScriptSource

/-- A script is called by the names that lead to it. -/
theorem path_script {d : Directory} {root : Path} {f : FoundFile} (h : d.Holds root [] f)
    (directory : DirectoryClass) :
    (FoundFile.script directory root f).path = "/".intercalate f.names := by
  obtain ⟨first, rest, -, -, hnames, hlocation⟩ := h
  show Script.nameBelow root f.location = _
  rw [Script.nameBelow, after?_of_components hlocation, hnames, Option.getD_some, List.map_map,
    List.nil_append]
  exact congrArg _ (List.map_id _)

/-- No two scripts that are collected have one path. -/
theorem nodup_collect {inside : Directory} (hd : inside.Proper) (root : Path)
    (excluded : Option Path) (directory : DirectoryClass) :
    ((collect root excluded directory inside).map Script.path).Nodup := by
  set found := inside.scriptFiles excluded root [] with hfound
  have hheld : ∀ f ∈ found, inside.Holds root [] f := fun f hf =>
    Directory.mem_scriptFiles hd hf
  have hperm : ((collect root excluded directory inside).map Script.path).Perm
      (found.map fun f => "/".intercalate f.names) := by
    rw [collect, List.map_map]
    refine ((List.mergeSort_perm found FoundFile.le).map _).trans (List.Perm.of_eq ?_)
    exact List.map_congr_left fun f hf => path_script (hheld f hf) directory
  have hnodup : found.Nodup := (Directory.nodup_scriptFiles hd).of_map
  rw [hperm.nodup_iff, List.nodup_map_iff_inj_on hnodup]
  intro f hf g hg hpath
  obtain ⟨first, rest, -, hall, hnames, -⟩ := hheld f hf
  obtain ⟨first', rest', -, hall', hnames', -⟩ := hheld g hg
  -- Names without slashes can be read back from the path that they make.
  have hsame : f.names = g.names := by
    rw [hnames, hnames'] at hpath ⊢
    exact intercalate_inj (List.cons_ne_nil _ _) (List.cons_ne_nil _ _) hall hall' hpath
  exact List.inj_on_of_nodup_map (Directory.nodup_scriptFiles hd) hf hg hsame

/-- No two scripts of a scan have one path. -/
theorem nodup_scan {tree : FileTree} (ht : tree.root.Proper) {source : ScriptSource}
    {live archived : List Script} (h : source.scan tree = .ok (live, archived)) :
    (live.map Script.path).Nodup ∧ (archived.map Script.path).Nodup := by
  rw [scan] at h
  cases hi : tree.item source.updates with
  | error e =>
      rw [hi] at h
      exact nomatch h
  | ok item =>
      rw [hi] at h
      cases item with
      | file content => exact nomatch h
      | folder inside =>
          have hlive := nodup_collect (FileTree.proper_of_item ht hi) source.updates
            (some source.archived) .updates
          cases ha : tree.item source.archived with
          | error e =>
              rw [ha] at h
              obtain ⟨rfl, rfl⟩ := Prod.mk.inj (Except.ok.inj h)
              exact ⟨hlive, List.nodup_nil⟩
          | ok item =>
              rw [ha] at h
              cases item with
              | file content =>
                  obtain ⟨rfl, rfl⟩ := Prod.mk.inj (Except.ok.inj h)
                  exact ⟨hlive, List.nodup_nil⟩
              | folder archive =>
                  obtain ⟨rfl, rfl⟩ := Prod.mk.inj (Except.ok.inj h)
                  exact ⟨hlive, nodup_collect (FileTree.proper_of_item ht ha) _ _ _⟩

end ScriptSource

end SchemaMigration
