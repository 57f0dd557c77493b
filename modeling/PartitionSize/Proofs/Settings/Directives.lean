import PartitionSize.Proofs.Quantity.RoundTrip
import PartitionSize.Proofs.Settings.Sorted
import PartitionSize.Proofs.Text.ByteOrder
import Mathlib.Data.List.Basic

/-!
# Directives say the levels

`LoggingSettings.directives` writes the levels as one text. The levels of modules are a map, given
as entries with different names in any order.

* **Order** (`directives_eq_of_perm`): the text is the same for every order of the entries.
* **Pieces** (`splitOn_directives`): between its commas, the text has the level and then one piece for
  each entry, by increasing names.
* **What is said** (`map_splitAtEquals_pieces`): up to its first equals sign, a piece is a name. So
  the pieces give back the entries, and empty names and levels are told apart as well.
-/

namespace PartitionSize.LoggingSettings

open Text SizeOverride

/-- A text without the characters that separate in directives. -/
structure IsPlain (s : String) : Prop where
  comma : ',' ∉ s.toList
  equals : '=' ∉ s.toList

/-- Settings of levels that can be told apart in the directives. -/
structure Separable (l : LoggingSettings) : Prop where
  /-- The entries are a map. -/
  nodup : (l.modules.map Prod.fst).Nodup
  level : IsPlain l.level
  modules : ∀ m ∈ l.modules, IsPlain m.1 ∧ IsPlain m.2

/-- What is written of an entry. -/
def piece (m : String × String) : String := m.1 ++ "=" ++ m.2

variable {l l' : LoggingSettings}

theorem directives_eq_of_perm (hd : (l.modules.map Prod.fst).Nodup) (hlevel : l'.level = l.level)
    (h : l'.modules.Perm l.modules) : l'.directives = l.directives := by
  unfold directives
  rw [hlevel, sortByName_eq_of_perm hd h]

namespace Separable

theorem isPlain_of_mem_sorted (h : l.Separable) {m : String × String}
    (hm : m ∈ sortByName l.modules) : IsPlain m.1 ∧ IsPlain m.2 :=
  h.modules m ((perm_sortByName h.nodup).mem_iff.1 hm)

theorem comma_not_mem_piece (h : l.Separable) {m : String × String}
    (hm : m ∈ sortByName l.modules) : ',' ∉ (piece m).toList := by
  obtain ⟨hname, hlevel⟩ := h.isPlain_of_mem_sorted hm
  unfold piece
  rw [String.toList_append, String.toList_append, List.mem_append, List.mem_append, not_or, not_or]
  exact ⟨⟨hname.comma, by decide⟩, hlevel.comma⟩

/-- No part has a comma, so the text is divided where the parts were joined. -/
theorem splitOn_directives (h : l.Separable) :
    (l.directives.toList.splitOn ',').map String.ofList =
      l.level :: (sortByName l.modules).map piece := by
  have hparts : ∀ part ∈ (l.level :: (sortByName l.modules).map piece).map String.toList,
      ',' ∉ part := by
    refine List.forall_mem_map.2 (List.forall_mem_cons.2 ⟨h.level.comma, ?_⟩)
    exact List.forall_mem_map.2 fun m hm => h.comma_not_mem_piece hm
  have htext : l.directives.toList =
      [','].intercalate ((l.level :: (sortByName l.modules).map piece).map String.toList) :=
    String.toList_intercalate
  rw [htext, List.splitOn_intercalate ',' hparts (by simp), List.map_map]
  simp

/-- A name ends at the first equals sign, since there is none in it. -/
theorem map_splitAtEquals_pieces (h : l.Separable) :
    ((sortByName l.modules).map piece).map splitAtEquals = (sortByName l.modules).map some := by
  rw [List.map_map]
  refine List.map_congr_left fun m hm => ?_
  exact splitAtEquals_append (h.isPlain_of_mem_sorted hm).1.equals m.2

theorem of_directives_eq (h : l.Separable) (h' : l'.Separable)
    (heq : l.directives = l'.directives) : l.level = l'.level ∧ l.modules.Perm l'.modules := by
  have hsplit := h.splitOn_directives
  rw [heq, h'.splitOn_directives] at hsplit
  obtain ⟨hlevel, hpieces⟩ := List.cons.inj hsplit
  have hsorted : sortByName l'.modules = sortByName l.modules := by
    refine List.map_injective_iff.2 (fun _ _ => Option.some.inj) ?_
    rw [← h'.map_splitAtEquals_pieces, hpieces, h.map_splitAtEquals_pieces]
  have hperm : (sortByName l.modules).Perm l'.modules := hsorted ▸ perm_sortByName h'.nodup
  exact ⟨hlevel.symm, (perm_sortByName h.nodup).symm.trans hperm⟩

end Separable

/-- **Directives say the levels, in one order.** Whatever order the entries of a map are given in,
the directives are the same. Divided at its commas, the text gives the level and then name and level
of each entry, the bytes of the names in increasing order; so different levels are not written
alike. -/
theorem directives_faithful :
    (∀ l l' : LoggingSettings, (l.modules.map Prod.fst).Nodup → l'.level = l.level →
      l'.modules.Perm l.modules → l'.directives = l.directives) ∧
    (∀ l : LoggingSettings, l.Separable → ∃ entries : List (String × String),
      entries.Perm l.modules ∧ entries.Pairwise (fun m n => bytes m.1 < bytes n.1) ∧
      (l.directives.toList.splitOn ',').map String.ofList =
        l.level :: entries.map fun m => m.1 ++ "=" ++ m.2) ∧
    ∀ l l' : LoggingSettings, l.Separable → l'.Separable → l.directives = l'.directives →
      l.level = l'.level ∧ l.modules.Perm l'.modules := by
  refine ⟨fun l l' => directives_eq_of_perm, fun l h => ?_, fun l l' => Separable.of_directives_eq⟩
  exact ⟨sortByName l.modules, perm_sortByName h.nodup,
    (pairwise_sortByName _).imp bytes_lt_bytes, h.splitOn_directives⟩

/-- A module without a name is not taken for the level. -/
theorem directives_faithful_empty_name :
    let l : LoggingSettings := { level := "warn", modules := [("db", "trace"), ("", "")] }
    let l' : LoggingSettings := { level := "warn", modules := [("", ""), ("db", "trace")] }
    l.Separable ∧ l'.Separable ∧ l.directives = "warn,=,db=trace" ∧
      l'.directives = l.directives ∧ (l.level = l'.level ∧ l.modules.Perm l'.modules) ∧
      ∃ entries : List (String × String), entries.Perm l.modules ∧
        entries.Pairwise (fun m n => bytes m.1 < bytes n.1) ∧
        (l.directives.toList.splitOn ',').map String.ofList =
          l.level :: entries.map fun m => m.1 ++ "=" ++ m.2 := by
  intro l l'
  obtain ⟨horder, hpieces, hsame⟩ := directives_faithful
  have hwarn : IsPlain "warn" := ⟨by decide, by decide⟩
  have hdb : IsPlain "db" ∧ IsPlain "trace" := ⟨⟨by decide, by decide⟩, ⟨by decide, by decide⟩⟩
  have hempty : IsPlain "" ∧ IsPlain "" := ⟨⟨by decide, by decide⟩, ⟨by decide, by decide⟩⟩
  have h : l.Separable :=
    ⟨by decide, hwarn, List.forall_mem_cons.2 ⟨hdb, List.forall_mem_singleton.2 hempty⟩⟩
  have h' : l'.Separable :=
    ⟨by decide, hwarn, List.forall_mem_cons.2 ⟨hempty, List.forall_mem_singleton.2 hdb⟩⟩
  have heq : l'.directives = l.directives := horder l l' h.nodup rfl (.swap _ _ _)
  exact ⟨h, h', by decide +kernel, heq, hsame l l' h h' heq.symm, hpieces l h⟩

end PartitionSize.LoggingSettings
