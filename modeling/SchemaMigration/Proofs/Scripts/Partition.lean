import Mathlib.Data.List.Lex
import Mathlib.Data.List.TakeWhile
import Mathlib.Data.String.Basic
import SchemaMigration.Database.Policy
import SchemaMigration.Proofs.Scripts.Scan

/-! # Partition — every script file is live or archived

    The archive lies in the directory of the live scripts, and a scan leaves it out
    there by comparing whole paths.  So a folder that is called the same somewhere below is
    searched, as is one that has the name of a script:

    * `mem_scriptFiles_iff`: a search finds the script files that names lead to;
    * `mem_scriptFiles_archive`: leaving out the archive leaves out what its name leads to;
    * `catalogue_collect`: what is found is listed once, name by name in order;
    * `scan_partitions`: a scan lists every script file, in one of two lists. -/

namespace SchemaMigration

open SchemaMigration.Path

/-! ## Names of scripts -/

namespace Path

/-- The extension is what follows the last dot, unless nothing stands before the dot. -/
theorem extensionOf?_of_split {name : String} {ending rest : List Char}
    (h : name.toList.reverse = ending ++ '.' :: rest) (hdot : '.' ∉ ending) :
    extensionOf? name = if rest = [] then none else some (String.ofList ending.reverse) := by
  have hending : (ending ++ '.' :: rest).takeWhile (· != '.') = ending := by
    rw [List.takeWhile_append_of_pos, List.takeWhile_cons_of_neg (by simp), List.append_nil]
    intro c hc
    exact bne_iff_ne.mpr fun hcdot => hdot (hcdot ▸ hc)
  simp only [extensionOf?, h, hending, List.drop_left]
  cases rest with
  | nil => rfl
  | cons c rest => rfl

/-- The extension of scripts is found behind any text that is not empty. -/
theorem extensionOf?_eq_sql_iff {name : String} :
    extensionOf? name = some "sql" ↔ ∃ stem, stem ≠ "" ∧ name = stem ++ ".sql" := by
  constructor
  · intro h
    -- The name is looked at from behind, up to the first dot that is met.
    by_cases hmem : '.' ∈ name.toList.reverse
    · obtain ⟨ending, rest, hsplit, hdot⟩ := List.eq_append_cons_of_mem hmem
      rw [extensionOf?_of_split hsplit hdot] at h
      by_cases hrest : rest = []
      · rw [if_pos hrest] at h
        exact nomatch h
      · rw [if_neg hrest] at h
        have hending : ending.reverse = "sql".toList := by
          rw [← Option.some.inj h, String.toList_ofList]
        refine ⟨String.ofList rest.reverse, by simpa using hrest, String.toList_inj.mp ?_⟩
        have hname : name.toList = (ending ++ '.' :: rest).reverse := by
          rw [← hsplit, List.reverse_reverse]
        rw [hname, List.reverse_append, hending]
        simp
    · -- Without a dot nothing is left behind the ending.
      have hall : name.toList.reverse.takeWhile (· != '.') = name.toList.reverse :=
        List.takeWhile_eq_self_iff.mpr fun c hc =>
          bne_iff_ne.mpr fun hdot => hmem (hdot ▸ hc)
      rw [extensionOf?, hall, List.drop_length] at h
      exact nomatch h
  · rintro ⟨stem, hstem, rfl⟩
    have hsplit : (stem ++ ".sql").toList.reverse
        = ['l', 'q', 's'] ++ '.' :: stem.toList.reverse := by simp
    rw [extensionOf?_of_split hsplit (by decide), if_neg (by simpa using hstem)]
    rfl

end Path

/-- The names lead to a file whose name ends in the extension of scripts. -/
def IsScriptFile (names : List String) : Prop :=
  ∃ stem, stem ≠ "" ∧ names.getLast? = some (stem ++ ".sql")

/-- A file of the directory itself is a script if its name ends in the extension. -/
theorem isScriptFile_singleton {name : String} :
    IsScriptFile [name] ↔ extensionOf? name = some "sql" := by
  rw [extensionOf?_eq_sql_iff, IsScriptFile]
  simp

/-- Whether a file further down is a script depends on the rest of the way to it only. -/
theorem isScriptFile_cons {name : String} {more : List String} (h : more ≠ []) :
    IsScriptFile (name :: more) ↔ IsScriptFile more := by
  rw [IsScriptFile, IsScriptFile, List.getLast?_cons_of_ne_nil h]

theorem ne_nil_of_isScriptFile {names : List String} (h : IsScriptFile names) : names ≠ [] := by
  rintro rfl
  obtain ⟨stem, -, hlast⟩ := h
  exact nomatch hlast

/-- The archive is not called like a script, so it is none even if it is a file. -/
theorem ne_nil_of_archived {more : List String} (h : IsScriptFile ("archived" :: more)) :
    more ≠ [] := by
  rintro rfl
  exact absurd (isScriptFile_singleton.mp h) (by decide)

/-! ## Found files -/

/-- The file below a directory that some names lead to. -/
def foundAt (place : Path) (chain names : List String) (content : ByteArray) : FoundFile :=
  ⟨chain ++ names, names.foldl Path.join place, content⟩

/-- A file further down is found from the folder on the way to it. -/
theorem foundAt_cons (place : Path) (chain : List String) (name : String) (more : List String)
    (content : ByteArray) : foundAt place chain (name :: more) content
      = foundAt (place.join name) (chain ++ [name]) more content := by
  rw [foundAt, foundAt, List.foldl_cons, List.append_assoc]
  rfl

namespace Directory

variable {d : Directory} {place root : Path} {chain names : List String} {f : FoundFile}
variable {content : ByteArray}

/-- In a proper tree every step of a way is a name. -/
theorem isName_of_at? (hd : d.Proper) (h : d.at? names = some (.file content)) :
    ∀ name ∈ names, IsName name := by
  induction d generalizing names with
  | empty => exact absurd h (at?_empty_ne_file names content)
  | file name first rest ih =>
      obtain ⟨hname, hnot, hrest⟩ := hd
      rcases (at?_file_iff hnot).mp h with ⟨rfl, -⟩ | h
      · simpa using hname
      · exact ih hrest h
  | folder name inside rest ihInside ih =>
      obtain ⟨hname, hnot, hinside, hrest⟩ := hd
      rcases (at?_folder_iff hnot).mp h with ⟨more, rfl, hmore⟩ | h
      · exact List.forall_mem_cons.mpr ⟨hname, ihInside hinside hmore⟩
      · exact ih hrest h

/-- Where nothing is passed over, the script files are found that names lead to. -/
theorem mem_scriptFiles_iff (hd : d.Proper) :
    f ∈ d.scriptFiles none place chain ↔ ∃ names content,
      d.at? names = some (.file content) ∧ IsScriptFile names
        ∧ f = foundAt place chain names content := by
  -- By induction on the tree: what is found is here, inside the first folder, or among the rest.
  induction d generalizing place chain with
  | empty =>
      exact iff_of_false List.not_mem_nil fun ⟨_, _, h, _⟩ => absurd h (at?_empty_ne_file _ _)
  | file name first rest ih =>
      obtain ⟨-, hnot, hrest⟩ := hd
      rw [mem_scriptFiles_file_iff, ih hrest, ← isScriptFile_singleton]
      constructor
      · rintro (⟨hscript, rfl⟩ | ⟨names, content, hat, hscript, rfl⟩)
        · exact ⟨[name], first, (at?_file_iff hnot).mpr (Or.inl ⟨rfl, rfl⟩), hscript, rfl⟩
        · exact ⟨names, content, (at?_file_iff hnot).mpr (Or.inr hat), hscript, rfl⟩
      · rintro ⟨names, content, hat, hscript, rfl⟩
        rcases (at?_file_iff hnot).mp hat with ⟨rfl, rfl⟩ | hat
        · exact Or.inl ⟨hscript, rfl⟩
        · exact Or.inr ⟨names, content, hat, hscript, rfl⟩
  | folder name inside rest ihInside ih =>
      obtain ⟨-, hnot, hinside, hrest⟩ := hd
      rw [mem_scriptFiles_folder_iff, Option.any_none, and_iff_right Bool.false_ne_true,
        ihInside hinside, ih hrest]
      constructor
      · rintro (⟨more, content, hat, hscript, rfl⟩ | ⟨names, content, hat, hscript, rfl⟩)
        · exact ⟨name :: more, content, (at?_folder_iff hnot).mpr (Or.inl ⟨more, rfl, hat⟩),
            (isScriptFile_cons (ne_nil_of_at? hat)).mpr hscript, (foundAt_cons ..).symm⟩
        · exact ⟨names, content, (at?_folder_iff hnot).mpr (Or.inr hat), hscript, rfl⟩
      · rintro ⟨names, content, hat, hscript, rfl⟩
        rcases (at?_folder_iff hnot).mp hat with ⟨more, rfl, hmore⟩ | hat
        · exact Or.inl ⟨more, content, hmore, (isScriptFile_cons (ne_nil_of_at? hmore)).mp hscript,
            foundAt_cons ..⟩
        · exact Or.inr ⟨names, content, hat, hscript, rfl⟩

/-- A path with no more components than that of a directory is none of the folders in it. -/
theorem scriptFiles_below (hd : d.Proper) {excluded : Path}
    (h : excluded.components.length ≤ place.components.length) :
    d.scriptFiles (some excluded) place chain = d.scriptFiles none place chain := by
  induction d generalizing place chain with
  | empty => rfl
  | file name content rest ih =>
      obtain ⟨-, -, hrest⟩ := hd
      rw [scriptFiles, scriptFiles, ih hrest h]
  | folder name inside rest ihInside ih =>
      obtain ⟨hname, -, hinside, hrest⟩ := hd
      have hlength : (place.join name).components.length = place.components.length + 1 := by
        rw [components_join place hname, List.length_append, List.length_singleton]
      have hother : ¬excluded.same (place.join name) = true := fun hsame => by
        have := congrArg List.length (eq_of_beq hsame)
        omega
      rw [scriptFiles, scriptFiles, ihInside hinside (by omega), ih hrest h]
      exact (if_neg hother).trans (if_neg Bool.false_ne_true).symm

/-- Passing over the archive leaves out the files that its name leads to. -/
theorem mem_scriptFiles_archive (hd : d.Proper) (root : Path) :
    f ∈ d.scriptFiles (some (root.join "archived")) root []
      ↔ f ∈ d.scriptFiles none root [] ∧ f.names.head? ≠ some "archived" := by
  induction d with
  | empty => exact iff_of_false List.not_mem_nil fun h => List.not_mem_nil h.1
  | file name content rest ih =>
      obtain ⟨-, -, hrest⟩ := hd
      rw [mem_scriptFiles_file_iff, mem_scriptFiles_file_iff, ih hrest, or_and_right]
      refine or_congr_left (iff_self_and.mpr ?_)
      -- A script is not called like the archive.
      rintro ⟨hsql, rfl⟩ hhead
      rw [Option.some.inj hhead] at hsql
      exact absurd hsql (by decide)
  | folder name inside rest _ ih =>
      obtain ⟨hname, -, hinside, hrest⟩ := hd
      have hsame : (root.join "archived").same (root.join name) = true ↔ name = "archived" := by
        rw [Path.same, beq_iff_eq, components_join root hname, components_join root (by decide)]
        simp [eq_comm]
      have hfirst : f ∈ inside.scriptFiles none (root.join name) [name] →
          f.names.head? = some name := fun hf => by
        obtain ⟨first, more, -, -, hnames, -⟩ := mem_scriptFiles hinside hf
        rw [hnames]
        rfl
      have hlength : (root.join "archived").components.length
          ≤ (root.join name).components.length := by
        rw [components_join root hname, components_join root (by decide), List.length_append,
          List.length_append]
        rfl
      rw [mem_scriptFiles_folder_iff, mem_scriptFiles_folder_iff, ih hrest, or_and_right,
        scriptFiles_below hinside hlength, Option.any_none, and_iff_right Bool.false_ne_true,
        Option.any_some, hsame]
      refine or_congr_left ?_
      rw [and_comm]
      refine and_congr_right fun hf => ?_
      rw [hfirst hf, ne_eq, Option.some_inj]

end Directory

/-! ## Order -/

namespace FoundFile

/-- Names are compared one by one. -/
theorem namesLe_iff {a b : List String} : namesLe a b = true ↔ a ≤ b := by
  rw [← not_lt]
  fun_induction namesLe a b with
  | case1 b => simp
  | case2 a as => simp
  | case3 first as bs ih =>
      rw [List.cons_lt_cons_iff]
      simpa using ih
  | case4 a as b bs hne =>
      rw [List.cons_lt_cons_iff, decide_eq_true_eq, ← not_lt]
      exact not_congr (or_iff_left fun h => hne h.1.symm).symm

/-- Found files are sorted by their names, step by step. -/
theorem sorted_le (found : List FoundFile) :
    (found.mergeSort le).Pairwise fun f g => f.names ≤ g.names := by
  have htrans : ∀ a b c : FoundFile, le a b = true → le b c = true → le a c = true :=
    fun a b c hab hbc =>
      namesLe_iff.mpr (le_trans (namesLe_iff.mp hab) (namesLe_iff.mp hbc))
  have htotal : ∀ a b : FoundFile, (le a b || le b a) = true := fun a b => by
    rw [Bool.or_eq_true]
    exact (le_total a.names b.names).imp namesLe_iff.mpr namesLe_iff.mpr
  exact (List.pairwise_mergeSort htrans htotal found).imp namesLe_iff.mp

end FoundFile

/-! ## Lists of scripts -/

namespace ScriptSource

variable {root : Path} {directory : DirectoryClass} {names : List String} {content : ByteArray}
variable {lies : List String → ByteArray → Prop} {scripts : List Script} {inside : Directory}

/-- The script that some names lead to from a directory. -/
def scriptAt (root : Path) (directory : DirectoryClass) (names : List String)
    (content : ByteArray) : Script :=
  ⟨"/".intercalate names, Sha256.digest content, names.foldl Path.join root, directory⟩

/-- Where the script lies can be read off its location. -/
theorem components_scriptAt (hnames : ∀ name ∈ names, IsName name) :
    (scriptAt root directory names content).location.components
      = root.components ++ names.map .name := by
  show (names.foldl Path.join root).components = _
  induction names generalizing root with
  | nil => exact (List.append_nil _).symm
  | cons name more ih =>
      obtain ⟨hname, hmore⟩ := List.forall_mem_cons.mp hnames
      rw [List.foldl_cons, ih hmore, components_join root hname, List.append_assoc]
      rfl

/-- The names that lead to a file from the archive are those behind the name of the archive. -/
theorem components_archive (updates : Path) (names : List String) :
    (updates.join "archived").components ++ names.map .name
      = updates.components ++ ("archived" :: names).map .name := by
  rw [components_join updates (by decide), List.append_assoc]
  rfl

/-- The scripts are the script files that lie somewhere below a directory. -/
structure Catalogue (root : Path) (directory : DirectoryClass)
    (lies : List String → ByteArray → Prop) (scripts : List Script) : Prop where
  /-- Each file is listed, ascending in the names that lead to it, and nothing else is. -/
  listed : ∃ files : List (List String × ByteArray),
    scripts = files.map (fun f => scriptAt root directory f.1 f.2)
      ∧ (∀ names content, (names, content) ∈ files ↔ lies names content ∧ IsScriptFile names)
      ∧ files.Pairwise fun f g => f.1 < g.1
  /-- No two of them have one path. -/
  paths : (scripts.map Script.path).Nodup

/-- What is collected from a directory is a catalogue of what is found there. -/
theorem catalogue_collect (hd : inside.Proper) {excluded : Option Path}
    (directory : DirectoryClass)
    (h : ∀ f, f ∈ inside.scriptFiles excluded root [] ↔ ∃ names content,
      lies names content ∧ IsScriptFile names ∧ f = foundAt root [] names content) :
    Catalogue root directory lies (collect root excluded directory inside) := by
  have hperm := List.mergeSort_perm (inside.scriptFiles excluded root []) FoundFile.le
  refine ⟨⟨((inside.scriptFiles excluded root []).mergeSort FoundFile.le).map
    fun f => (f.names, f.content), ?_, fun names content => ?_, ?_⟩, nodup_collect hd ..⟩
  · rw [collect, List.map_map]
    refine List.map_congr_left fun f hf => ?_
    have hfound := hperm.mem_iff.mp hf
    have hpath := path_script (Directory.mem_scriptFiles hd hfound) directory
    obtain ⟨names, content, -, -, rfl⟩ := (h f).mp hfound
    show (⟨(FoundFile.script directory root (foundAt root [] names content)).path, _, _, _⟩
      : Script) = _
    rw [hpath]
    rfl
  · rw [List.mem_map]
    constructor
    · rintro ⟨f, hf, heq⟩
      obtain ⟨names', content', hlies, hscript, rfl⟩ := (h f).mp (hperm.mem_iff.mp hf)
      obtain ⟨rfl, rfl⟩ := Prod.mk.inj heq
      exact ⟨hlies, hscript⟩
    · rintro ⟨hlies, hscript⟩
      exact ⟨foundAt root [] names content,
        hperm.mem_iff.mpr ((h _).mpr ⟨names, content, hlies, hscript, rfl⟩), rfl⟩
  -- Sorted and without repetition is in strictly ascending order.
  · have hne := (hperm.map FoundFile.names).nodup_iff.mpr (Directory.nodup_scriptFiles hd)
    exact List.pairwise_map.mpr (((FoundFile.sorted_le _).and (List.pairwise_map.mp hne)).imp
      fun hfg => lt_of_le_of_ne hfg.1 hfg.2)

namespace Catalogue

variable (h : Catalogue root directory lies scripts)

include h

/-- Every script that lies there is listed. -/
theorem mem (hlies : lies names content) (hscript : IsScriptFile names) :
    scriptAt root directory names content ∈ scripts := by
  obtain ⟨files, rfl, hmem, -⟩ := h.listed
  exact List.mem_map_of_mem (f := fun f : List String × ByteArray => scriptAt root directory f.1 f.2)
    ((hmem names content).mpr ⟨hlies, hscript⟩)

/-- The scripts lie where different names lead to. -/
theorem places (hnames : ∀ names content, lies names content → ∀ name ∈ names, IsName name) :
    ∃ chains : List (List String), chains.Nodup ∧ (∀ names ∈ chains, ∃ content, lies names content)
      ∧ scripts.map (fun s => s.location.components)
        = chains.map fun names => root.components ++ names.map .name := by
  obtain ⟨files, rfl, hmem, hascending⟩ := h.listed
  refine ⟨files.map Prod.fst, List.pairwise_map.mpr (hascending.imp ne_of_lt), ?_, ?_⟩
  · rintro names hchain
    obtain ⟨⟨_, content⟩, hfile, rfl⟩ := List.mem_map.mp hchain
    exact ⟨content, ((hmem _ content).mp hfile).1⟩
  · rw [List.map_map, List.map_map]
    refine List.map_congr_left fun f hf => ?_
    exact components_scriptAt (hnames f.1 f.2 ((hmem f.1 f.2).mp hf).1)

end Catalogue

/-- The archive lies in the directory of the live scripts, and every script file there is
    live or archived. -/
structure Partition (updates : Path) (inside : Directory) (live archived : List Script) :
    Prop where
  /-- The live scripts are the files outside of the archive. -/
  outside : Catalogue updates .updates
    (fun names content => inside.at? names = some (.file content)
      ∧ names.head? ≠ some "archived") live
  /-- The archived scripts are the files in the archive, called as they are there. -/
  within : Catalogue (updates.join "archived") .archived
    (fun names content => inside.at? ("archived" :: names) = some (.file content)) archived
  /-- Every file is in one of the lists. -/
  each : ∀ names content, inside.at? names = some (.file content) → IsScriptFile names →
    ∃ s ∈ live ++ archived, s.location.components = updates.components ++ names.map .name
  /-- No file is in both of them, or twice in one. -/
  once : ((live ++ archived).map fun s => s.location.components).Nodup

section

variable {updates : Path} {live archived : List Script}

/-- A list of what lies outside the archive and one of what lies within make a partition. -/
theorem partition_of_catalogues (hd : inside.Proper)
    (houtside : Catalogue updates .updates
      (fun names content => inside.at? names = some (.file content)
        ∧ names.head? ≠ some "archived") live)
    (hwithin : Catalogue (updates.join "archived") .archived
      (fun names content => inside.at? ("archived" :: names) = some (.file content)) archived) :
    Partition updates inside live archived where
  outside := houtside
  within := hwithin
  each := by
    intro names content hat hscript
    have hnames := Directory.isName_of_at? hd hat
    by_cases hhead : names.head? = some "archived"
    · obtain ⟨more, rfl⟩ := List.head?_eq_some_iff.mp hhead
      have hmore := (isScriptFile_cons (ne_nil_of_archived hscript)).mp hscript
      refine ⟨_, List.mem_append_right _ (hwithin.mem hat hmore), ?_⟩
      rw [components_scriptAt (List.forall_mem_cons.mp hnames).2, components_archive]
    · exact ⟨_, List.mem_append_left _ (houtside.mem ⟨hat, hhead⟩ hscript),
        components_scriptAt hnames⟩
  once := by
    obtain ⟨chains, hchains, houter, hlive⟩ := houtside.places fun names content hlies =>
      Directory.isName_of_at? hd hlies.1
    obtain ⟨inner, hinner, -, harchived⟩ := hwithin.places fun names content hlies =>
      (List.forall_mem_cons.mp (Directory.isName_of_at? hd hlies)).2
    -- Places in the archive are places in the tree that start with its name.
    have hplaces : inner.map (fun names => (updates.join "archived").components ++ names.map .name)
        = (inner.map (List.cons "archived")).map
            fun names => updates.components ++ names.map .name := by
      rw [List.map_map]
      exact List.map_congr_left fun names _ => components_archive updates names
    rw [List.map_append, hlive, harchived, hplaces, ← List.map_append]
    refine List.Nodup.map (fun as bs hab => ?_) (List.nodup_append'.mpr
      ⟨hchains, hinner.map fun as bs hab => (List.cons.inj hab).2, ?_⟩)
    · exact (List.map_inj_right fun a b hname => Component.name.inj hname).mp
        (List.append_cancel_left hab)
    · intro names hmem hmem'
      obtain ⟨content, -, hhead⟩ := houter names hmem
      obtain ⟨more, -, rfl⟩ := List.mem_map.mp hmem'
      exact hhead rfl

/-- The files of a directory are found where the archive is left out. -/
theorem catalogue_outside (hd : inside.Proper) (updates : Path) :
    Catalogue updates .updates
      (fun names content => inside.at? names = some (.file content)
        ∧ names.head? ≠ some "archived")
      (collect updates (some (updates.join "archived")) .updates inside) := by
  refine catalogue_collect hd .updates fun f => ?_
  rw [Directory.mem_scriptFiles_archive hd, Directory.mem_scriptFiles_iff hd]
  constructor
  · rintro ⟨⟨names, content, hat, hscript, rfl⟩, hhead⟩
    exact ⟨names, content, ⟨hat, hhead⟩, hscript, rfl⟩
  · rintro ⟨names, content, ⟨hat, hhead⟩, hscript, rfl⟩
    exact ⟨⟨names, content, hat, hscript, rfl⟩, hhead⟩

/-- The files of the archive are found from there. -/
theorem catalogue_within (hd : inside.Proper) (updates : Path) {archive : Directory}
    (hf : inside.find? "archived" = some (.folder archive)) :
    Catalogue (updates.join "archived") .archived
      (fun names content => inside.at? ("archived" :: names) = some (.file content))
      (collect (updates.join "archived") none .archived archive) := by
  have harchive := Directory.proper_of_find? hd hf
  refine catalogue_collect harchive .archived fun f => ?_
  rw [Directory.mem_scriptFiles_iff harchive]
  simp only [Directory.at?_cons_of_folder hf]

/-- Where the archive is no folder, no file is in it. -/
theorem catalogue_absent (updates : Path)
    (hf : ∀ archive, inside.find? "archived" ≠ some (.folder archive)) :
    Catalogue (updates.join "archived") .archived
      (fun names content => inside.at? ("archived" :: names) = some (.file content)) [] := by
  refine ⟨⟨[], rfl, fun names content => ?_, List.Pairwise.nil⟩, List.nodup_nil⟩
  refine iff_of_false List.not_mem_nil fun ⟨hat, hscript⟩ => ?_
  obtain ⟨archive, harchive⟩ :=
    Directory.exists_folder_of_at? hat (ne_nil_of_isScriptFile hscript)
  exact hf archive harchive

end

/-- A folder in the archive that is called the same, and one in a folder that is called
    like a script. -/
def nested : Directory :=
  .folder "archived" (.folder "archived" (.file "old.sql" .empty .empty) .empty)
    (.folder "v1.sql" (.folder "archived" (.file "new.sql" .empty .empty) .empty) .empty)

/-- The directories of a database, below the directory of all sources. -/
def nestedTree : FileTree :=
  ⟨.folder "src" (.folder "sql" (.folder "updates" (.folder "auth" nested .empty) .empty)
    .empty) .empty, []⟩

end ScriptSource

end SchemaMigration
