import Mathlib.Data.List.TakeWhile
import SchemaMigration.Text.Blank

/-! # Trimming — what is left between the blanks

    Trimming is a computation from both ends.  What it computes is told without it:
    the text between blanks that has none at its ends, of which there is only one
    (`trim_eq_iff`). -/

namespace SchemaMigration.Text

/-- The characters are all blank. -/
def Blank (cs : List Char) : Prop := ∀ c ∈ cs, isBlank c = true

/-- The characters neither start nor end with a blank. -/
structure Bare (cs : List Char) : Prop where
  head : ∀ c ∈ cs.head?, isBlank c = false
  last : ∀ c ∈ cs.getLast?, isBlank c = false

/-- The one text is the other with blanks around it. -/
structure Trimmed (raw text : String) : Prop where
  bare : Bare text.toList
  around : ∃ before after, Blank before ∧ Blank after
    ∧ before ++ text.toList ++ after = raw.toList

variable {cs before after : List Char} {raw text : String}

/-! ## Blanks at an end -/

theorem trimStart_append (h : Blank before) (cs : List Char) :
    trimStart (before ++ cs) = trimStart cs := List.dropWhile_append_of_pos h

/-- Without blanks in front, nothing is trimmed there. -/
theorem trimStart_of_bare (h : ∀ c ∈ cs.head?, isBlank c = false) : trimStart cs = cs := by
  cases cs with
  | nil => rfl
  | cons c rest => exact List.dropWhile_cons_of_neg (by rw [h c rfl]; exact Bool.false_ne_true)

/-- From the end, trimming is trimming of the reversed text. -/
theorem trimEnd_eq (cs : List Char) : trimEnd cs = (trimStart cs.reverse).reverse := rfl

theorem Blank.reverse (h : Blank cs) : Blank cs.reverse := fun c hc => h c (List.mem_reverse.mp hc)

/-- What is trimmed away in front is blank. -/
theorem exists_trimStart (cs : List Char) : ∃ before, Blank before ∧ before ++ trimStart cs = cs :=
  ⟨cs.takeWhile isBlank, fun _ => List.mem_takeWhile_imp, List.takeWhile_append_dropWhile⟩

theorem exists_trimEnd (cs : List Char) : ∃ after, Blank after ∧ trimEnd cs ++ after = cs := by
  obtain ⟨before, hblank, heq⟩ := exists_trimStart cs.reverse
  refine ⟨before.reverse, hblank.reverse, ?_⟩
  rw [trimEnd_eq, ← List.reverse_append, heq, List.reverse_reverse]

/-- No blank is left in front. -/
theorem head_trimStart (cs : List Char) : ∀ c ∈ (trimStart cs).head?, isBlank c = false := by
  intro c hc
  have hhead := List.head?_dropWhile_not isBlank cs
  rw [trimStart, Option.mem_def] at hc
  rw [hc] at hhead
  exact hhead

theorem last_trimEnd (cs : List Char) : ∀ c ∈ (trimEnd cs).getLast?, isBlank c = false := by
  rw [trimEnd_eq, List.getLast?_reverse]
  exact head_trimStart cs.reverse

/-- Trimming the end keeps the head, if anything is left. -/
theorem head_trimEnd (cs : List Char) : ∀ c ∈ (trimEnd cs).head?, c ∈ cs.head? := by
  obtain ⟨after, -, heq⟩ := exists_trimEnd cs
  intro c hc
  rw [← heq, List.head?_append, Option.mem_def.mp hc]
  rfl

/-! ## Blanks at both ends -/

/-- Trimming leaves a text between blanks. -/
theorem trimmed_trim (raw : String) : Trimmed raw (trim raw) := by
  constructor
  · rw [trim, String.toList_ofList]
    exact ⟨fun c hc => head_trimStart _ c (head_trimEnd _ c hc), last_trimEnd _⟩
  · obtain ⟨before, hbefore, hfront⟩ := exists_trimStart raw.toList
    obtain ⟨after, hafter, hback⟩ := exists_trimEnd (trimStart raw.toList)
    refine ⟨before, after, hbefore, hafter, ?_⟩
    rw [trim, String.toList_ofList, List.append_assoc, hback, hfront]

theorem trimEnd_append (h : Blank after) (cs : List Char) : trimEnd (cs ++ after) = trimEnd cs := by
  rw [trimEnd_eq, List.reverse_append, trimStart_append h.reverse, trimEnd_eq]

/-- Without blanks behind, nothing is trimmed there. -/
theorem trimEnd_of_bare (h : ∀ c ∈ cs.getLast?, isBlank c = false) : trimEnd cs = cs := by
  rw [← List.head?_reverse] at h
  rw [trimEnd_eq, trimStart_of_bare h, List.reverse_reverse]

/-- Trimming leaves the only text that there is between blanks. -/
theorem trim_eq_iff : trim raw = text ↔ Trimmed raw text := by
  constructor
  · rintro rfl
    exact trimmed_trim raw
  · rintro ⟨hbare, before, after, hbefore, hafter, heq⟩
    rw [trim, ← heq, List.append_assoc, trimStart_append hbefore]
    by_cases hempty : text.toList = []
    · -- Nothing stops the blanks in front, so those behind are gone with them.
      have hall : trimStart (after ++ []) = [] := trimStart_append hafter []
      rw [List.append_nil] at hall
      rw [hempty, List.nil_append, hall, String.toList_eq_nil_iff.mp hempty]
      rfl
    · have hhead : ∀ c ∈ (text.toList ++ after).head?, isBlank c = false := by
        obtain ⟨first, rest, hcons⟩ := List.exists_cons_of_ne_nil hempty
        have hfirst := hbare.head
        rw [hcons] at hfirst ⊢
        exact hfirst
      rw [trimStart_of_bare hhead, trimEnd_append hafter, trimEnd_of_bare hbare.last,
        String.ofList_toList]

/-- A text is its own trimming if there are no blanks at its ends. -/
theorem trimmed_self_iff : Trimmed text text ↔ Bare text.toList :=
  ⟨Trimmed.bare, fun h => ⟨h, [], [], nofun, nofun, by rw [List.nil_append, List.append_nil]⟩⟩

/-- Trimming leaves nothing exactly of a blank text. -/
theorem trimmed_empty_iff : Trimmed raw "" ↔ Blank raw.toList := by
  constructor
  · rintro ⟨-, before, after, hbefore, hafter, heq⟩
    rw [← heq, String.toList_empty, List.append_nil]
    exact List.forall_mem_append.mpr ⟨hbefore, hafter⟩
  · intro h
    exact ⟨⟨nofun, nofun⟩, raw.toList, [], h, nofun, by
      rw [String.toList_empty, List.append_nil, List.append_nil]⟩

theorem trim_eq_empty_iff : trim raw = "" ↔ Blank raw.toList := trim_eq_iff.trans trimmed_empty_iff

/-- What is not empty and has no blanks at its ends is not blank. -/
theorem not_blank_of_bare (hbare : Bare text.toList) (hne : text ≠ "") : ¬Blank text.toList := by
  intro hblank
  have hself : trim text = text := trim_eq_iff.mpr (trimmed_self_iff.mpr hbare)
  exact hne (hself.symm.trans (trim_eq_empty_iff.mpr hblank))

/-- Trimming adds no character. -/
theorem Trimmed.notMem (h : Trimmed raw text) {c : Char} (hc : c ∉ raw.toList) :
    c ∉ text.toList := by
  obtain ⟨before, after, -, -, heq⟩ := h.around
  intro hmem
  rw [← heq] at hc
  exact hc (List.mem_append_left _ (List.mem_append_right _ hmem))

end SchemaMigration.Text
