import Mathlib.Data.String.Basic
import SchemaMigration.Proofs.Plan.Entries

/-! # Path order — the order in which a plan looks at files

    Files come in any order and are looked at in the order of their paths.  Where no
    path repeats there is one such order, and it does not depend on how the files came:

    * `byPath_ascending`: every path is smaller than those behind it;
    * `eq_byPath`: nothing else is in ascending order;
    * `byPath_split`: one more file has its place, and moves no other. -/

namespace SchemaMigration.Plan

variable {scripts more : List Script} {s : Script}

theorem byPath_sorted (scripts : List Script) :
    (byPath scripts).Pairwise fun a b => a.path ≤ b.path := by
  have htrans : ∀ a b c : Script, decide (a.path ≤ b.path) = true →
      decide (b.path ≤ c.path) = true → decide (a.path ≤ c.path) = true := fun a b c hab hbc => by
    rw [decide_eq_true_eq] at hab hbc ⊢
    exact String.le_trans hab hbc
  have htotal : ∀ a b : Script, (decide (a.path ≤ b.path) || decide (b.path ≤ a.path)) = true :=
    fun a b => by simpa using String.le_total a.path b.path
  exact (List.pairwise_mergeSort htrans htotal scripts).imp of_decide_eq_true

/-- Where no path repeats, every path is smaller than those behind it. -/
theorem byPath_ascending (hn : (scripts.map Script.path).Nodup) :
    (byPath scripts).Pairwise fun a b => a.path < b.path := by
  have hne : (byPath scripts).Pairwise fun a b => a.path ≠ b.path :=
    List.pairwise_map.mp (byPath_nodup hn)
  exact ((byPath_sorted scripts).and hne).imp fun h => lt_of_le_of_ne h.1 h.2

/-- Files that are in ascending order stand as they are looked at. -/
theorem eq_byPath (hp : more.Perm scripts) (h : more.Pairwise fun a b => a.path < b.path) :
    more = byPath scripts := by
  have hasc : more.Pairwise fun a b => a.path ≤ b.path := h.imp le_of_lt
  have hn : (scripts.map Script.path).Nodup :=
    (hp.map Script.path).nodup_iff.mp (List.pairwise_map.mpr (h.imp ne_of_lt))
  refine List.Perm.eq_of_pairwise (fun a b ha hb hab hba => ?_) hasc (byPath_sorted scripts)
    (hp.trans (byPath_perm scripts).symm)
  exact List.inj_on_of_nodup_map hn (hp.mem_iff.mp ha) (mem_byPath.mp hb)
    (String.le_antisymm hab hba)

/-- The order does not depend on how the files came. -/
theorem byPath_congr (hn : (scripts.map Script.path).Nodup) (hp : more.Perm scripts) :
    byPath more = byPath scripts := by
  have hmore : (more.map Script.path).Nodup := (hp.map Script.path).nodup_iff.mpr hn
  exact eq_byPath ((byPath_perm more).trans hp) (byPath_ascending hmore)

/-- One more file stands between those with smaller and those with larger paths, which
    stand as they did. -/
theorem byPath_split (hn : ((s :: scripts).map Script.path).Nodup)
    (hp : more.Perm (s :: scripts)) :
    ∃ l₁ l₂, byPath scripts = l₁ ++ l₂ ∧ byPath more = l₁ ++ s :: l₂
      ∧ (∀ x ∈ l₁, x.path < s.path) ∧ ∀ x ∈ l₂, s.path < x.path := by
  have hmore : (more.map Script.path).Nodup := (hp.map Script.path).nodup_iff.mpr hn
  have hmem : s ∈ byPath more := mem_byPath.mpr (hp.mem_iff.mpr List.mem_cons_self)
  obtain ⟨l₁, l₂, hsplit⟩ := List.append_of_mem hmem
  -- In the sorted list the new file splits the others, which are strictly before or behind it.
  have hasc := byPath_ascending hmore
  rw [hsplit] at hasc
  obtain ⟨hfirst, hcons, hcross⟩ := List.pairwise_append.mp hasc
  obtain ⟨hlast, hrest⟩ := List.pairwise_cons.mp hcons
  refine ⟨l₁, l₂, (eq_byPath ?_ ?_).symm, hsplit, ?_, hlast⟩
  · -- The others are what is left of all files without the new one.
    have hperm := (byPath_perm more).trans hp
    rw [hsplit] at hperm
    exact (List.perm_cons s).mp (List.perm_middle.symm.trans hperm)
  · exact List.pairwise_append.mpr
      ⟨hfirst, hrest, fun x hx y hy => hcross x hx y (List.mem_cons_of_mem _ hy)⟩
  · exact fun x hx => hcross x hx s List.mem_cons_self

end SchemaMigration.Plan
