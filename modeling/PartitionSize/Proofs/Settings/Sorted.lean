import PartitionSize.Settings

/-!
# Entries sorted by name

`sortByName` is a map with its entries in increasing order of their names.

* **Order** (`pairwise_sortByName`): the names increase strictly, so each occurs once.
* **Look-up** (`lookup_sortByName`): under a name stands the last entry that was given for it.
* **Entries** (`perm_sortByName`): where each name is given once, the entries are those given, and
  the order they were given in does not show (`sortByName_eq_of_perm`).
-/

namespace PartitionSize

variable {α β : Type}

/-! ## Looking up -/

theorem lookup_cons_eq (k : String) (p : String × α) (pairs : List (String × α)) :
    (p :: pairs).lookup k = if k = p.1 then some p.2 else pairs.lookup k := by
  rw [List.lookup_cons]
  by_cases hk : k = p.1
  · rw [beq_iff_eq.2 hk, if_pos hk]
  · rw [beq_eq_false_iff_ne.2 hk, if_neg hk]

theorem lookup_map_snd (f : α → β) (pairs : List (String × α)) (k : String) :
    (pairs.map fun p => (p.1, f p.2)).lookup k = (pairs.lookup k).map f := by
  induction pairs with
  | nil => rfl
  | cons p pairs ih =>
    rw [List.map_cons, lookup_cons_eq, lookup_cons_eq, ih]
    split <;> rfl

/-- Looked up from behind, the first entry counts only where no later one does. -/
theorem lookup_reverse_cons (k : String) (p : String × α) (pairs : List (String × α)) :
    (p :: pairs).reverse.lookup k =
      (pairs.reverse.lookup k).or (if k = p.1 then some p.2 else none) := by
  rw [List.reverse_cons, List.lookup_append, lookup_cons_eq]
  rfl

/-- Where each name occurs once, the first entry for it is the last. -/
theorem lookup_reverse_of_pairwise {pairs : List (String × α)}
    (h : pairs.Pairwise (·.1 < ·.1)) (k : String) : pairs.reverse.lookup k = pairs.lookup k := by
  induction pairs with
  | nil => rfl
  | cons p pairs ih =>
    obtain ⟨hp, h⟩ := List.pairwise_cons.1 h
    rw [lookup_reverse_cons, ih h, lookup_cons_eq]
    by_cases hk : k = p.1
    · have hnone : pairs.lookup k = none := by
        rw [List.lookup_eq_none_iff]
        intro q hq
        rw [bne_iff_ne, hk]
        intro heq
        exact String.lt_irrefl _ (heq ▸ hp q hq)
      rw [hnone, if_pos hk, Option.none_or]
    · rw [if_neg hk, if_neg hk, Option.or_none]

/-! ## One more entry -/

theorem lookup_insertByName (name k : String) (a : α) (pairs : List (String × α)) :
    (insertByName name a pairs).lookup k = if k = name then some a else pairs.lookup k := by
  induction pairs with
  | nil => exact lookup_cons_eq k (name, a) []
  | cons p pairs ih =>
    obtain ⟨k', b⟩ := p
    unfold insertByName
    split
    · rw [lookup_cons_eq]
    · split
      · next heq =>
        rw [lookup_cons_eq, lookup_cons_eq, heq]
        split <;> rfl
      · next hne =>
        rw [lookup_cons_eq, lookup_cons_eq, ih]
        by_cases hk : k = name
        · have hk' : k ≠ k' := fun heq => hne (hk.symm.trans heq)
          rw [if_pos hk, if_neg hk', if_pos hk]
        · rw [if_neg hk, if_neg hk]

theorem mem_insertByName {name : String} {a : α} {pairs : List (String × α)} {p : String × α}
    (h : p ∈ insertByName name a pairs) : p.1 = name ∨ p ∈ pairs := by
  induction pairs with
  | nil => exact .inl (by rw [List.mem_singleton.1 h])
  | cons q pairs ih =>
    obtain ⟨k, b⟩ := q
    unfold insertByName at h
    split at h
    · rcases List.mem_cons.1 h with rfl | h
      · exact .inl rfl
      · exact .inr h
    · split at h
      · next heq =>
        rcases List.mem_cons.1 h with rfl | h
        · exact .inl heq.symm
        · exact .inr (List.mem_cons_of_mem _ h)
      · rcases List.mem_cons.1 h with rfl | h
        · exact .inr List.mem_cons_self
        · exact (ih h).imp id (List.mem_cons_of_mem _)

theorem pairwise_insertByName (name : String) (a : α) {pairs : List (String × α)}
    (h : pairs.Pairwise (·.1 < ·.1)) : (insertByName name a pairs).Pairwise (·.1 < ·.1) := by
  induction pairs with
  | nil => exact List.pairwise_singleton _ _
  | cons q pairs ih =>
    obtain ⟨k, b⟩ := q
    obtain ⟨hk, hp⟩ := List.pairwise_cons.1 h
    unfold insertByName
    split
    · next hlt =>
      refine List.pairwise_cons.2 ⟨fun p hm => ?_, h⟩
      rcases List.mem_cons.1 hm with rfl | hm
      · exact hlt
      · exact String.lt_trans hlt (hk p hm)
    · split
      · exact List.pairwise_cons.2 ⟨hk, hp⟩
      · next hnlt hne =>
        refine List.pairwise_cons.2 ⟨fun p hm => ?_, ih hp⟩
        rcases mem_insertByName hm with hname | hm
        · -- neither smaller nor equal
          rw [hname]
          apply Classical.byContradiction
          intro hnlt'
          exact hne (String.le_antisymm (String.not_lt.1 hnlt') (String.not_lt.1 hnlt))
        · exact hk p hm

theorem perm_insertByName {name : String} {a : α} {pairs : List (String × α)}
    (h : name ∉ pairs.map Prod.fst) : (insertByName name a pairs).Perm ((name, a) :: pairs) := by
  induction pairs with
  | nil => exact .refl _
  | cons q pairs ih =>
    obtain ⟨k, b⟩ := q
    rw [List.map_cons, List.mem_cons, not_or] at h
    unfold insertByName
    split
    · exact .refl _
    · rw [if_neg h.1]
      exact ((ih h.2).cons (k, b)).trans (.swap (name, a) (k, b) pairs)

/-! ## All entries -/

theorem pairwise_sortByName (pairs : List (String × α)) :
    (sortByName pairs).Pairwise (·.1 < ·.1) := by
  have hfold : ∀ sorted : List (String × α), sorted.Pairwise (·.1 < ·.1) →
      (pairs.foldl (fun sorted p => insertByName p.1 p.2 sorted) sorted).Pairwise
        (·.1 < ·.1) := by
    induction pairs with
    | nil => exact fun _ h => h
    | cons p pairs ih => exact fun _ h => ih _ (pairwise_insertByName p.1 p.2 h)
  exact hfold [] .nil

theorem lookup_sortByName (pairs : List (String × α)) (k : String) :
    (sortByName pairs).lookup k = pairs.reverse.lookup k := by
  have hfold : ∀ sorted : List (String × α),
      (pairs.foldl (fun sorted p => insertByName p.1 p.2 sorted) sorted).lookup k =
        (pairs.reverse.lookup k).or (sorted.lookup k) := by
    induction pairs with
    | nil => exact fun _ => rfl
    | cons p pairs ih =>
      intro sorted
      rw [List.foldl_cons, ih, lookup_insertByName, lookup_reverse_cons, Option.or_assoc]
      split <;> rfl
  rw [sortByName, hfold, List.lookup_nil, Option.or_none]

theorem perm_sortByName {pairs : List (String × α)} (h : (pairs.map Prod.fst).Nodup) :
    (sortByName pairs).Perm pairs := by
  have hfold : ∀ sorted : List (String × α), ((pairs ++ sorted).map Prod.fst).Nodup →
      (pairs.foldl (fun sorted p => insertByName p.1 p.2 sorted) sorted).Perm
        (pairs ++ sorted) := by
    clear h
    induction pairs with
    | nil => exact fun _ _ => .refl _
    | cons p pairs ih =>
      intro sorted h
      rw [List.cons_append, List.map_cons, List.nodup_cons, List.map_append, List.mem_append,
        not_or] at h
      have hone : (insertByName p.1 p.2 sorted).Perm (p :: sorted) := perm_insertByName h.1.2
      have hall : (pairs ++ insertByName p.1 p.2 sorted).Perm (p :: (pairs ++ sorted)) :=
        (hone.append_left pairs).trans List.perm_middle
      refine (ih _ ?_).trans hall
      rw [(hall.map Prod.fst).nodup_iff, List.map_cons, List.nodup_cons, List.map_append,
        List.mem_append, not_or]
      exact h
  rw [← List.append_nil pairs] at h
  have hperm := hfold [] h
  rwa [List.append_nil] at hperm

/-- There is only one order in which the names increase. -/
theorem sortByName_eq_of_perm {pairs pairs' : List (String × α)}
    (hd : (pairs.map Prod.fst).Nodup) (h : pairs'.Perm pairs) :
    sortByName pairs' = sortByName pairs := by
  have hd' : (pairs'.map Prod.fst).Nodup := (h.map Prod.fst).nodup_iff.2 hd
  have hperm : (sortByName pairs').Perm (sortByName pairs) :=
    ((perm_sortByName hd').trans h).trans (perm_sortByName hd).symm
  exact hperm.eq_of_pairwise (fun _ _ _ _ hlt hgt => absurd hgt (String.lt_asymm hlt))
    (pairwise_sortByName _) (pairwise_sortByName _)

namespace Settings

theorem pairwise_sizeEstimates (s : Settings) : s.sizeEstimates.Pairwise (·.1 < ·.1) := by
  unfold sizeEstimates
  rw [List.pairwise_map]
  exact pairwise_sortByName _

theorem lookup_sizeEstimates (s : Settings) (name : String) :
    s.sizeEstimates.lookup name =
      (s.estimate.sizes.reverse.lookup name).map fun size => (size.bytes : Int) := by
  unfold sizeEstimates
  rw [lookup_map_snd (fun size : ByteSize => (size.bytes : Int)), lookup_sortByName]

end Settings

end PartitionSize
