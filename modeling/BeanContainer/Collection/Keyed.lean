/-
This file treats a list of pairs in ascending key order as a finite map from texts.
-/

namespace BeanContainer.Keyed

variable {Value : Type}

/-- Each key is smaller than all keys after it, so no key occurs twice. -/
def Ascending (entries : List (String × Value)) : Prop :=
  entries.Pairwise fun first second => first.1 < second.1

/-- The new value takes the place of an old value of the same key. -/
def insert (key : String) (value : Value) : List (String × Value) → List (String × Value)
  | [] => [(key, value)]
  | entry :: rest =>
      if key < entry.1 then (key, value) :: entry :: rest
      else if key = entry.1 then (key, value) :: rest
      else entry :: insert key value rest

def erase (key : String) (entries : List (String × Value)) : List (String × Value) :=
  entries.filter fun entry => entry.1 != key

/-- Of two pairs with the same key the later one counts. -/
def ofPairs (pairs : List (String × Value)) : List (String × Value) :=
  pairs.foldl (fun entries pair => insert pair.1 pair.2 entries) []

/-- Inserting adds one entry at most. -/
theorem insert_mem {key : String} {value : Value} {entry : String × Value} :
    ∀ {entries : List (String × Value)},
      entry ∈ insert key value entries → entry = (key, value) ∨ entry ∈ entries := by
  intro entries
  induction entries with
  | nil => simp [insert]
  | cons head rest inductionHypothesis =>
      rw [insert]
      split
      · simp
      · split
        · intro member
          rcases List.mem_cons.mp member with same | later
          · exact Or.inl same
          · exact Or.inr (List.mem_cons_of_mem _ later)
        · intro member
          rcases List.mem_cons.mp member with same | later
          · exact Or.inr (by simp [same])
          · rcases inductionHypothesis later with new | old
            · exact Or.inl new
            · exact Or.inr (List.mem_cons_of_mem _ old)

/-- Inserting keeps the keys in order. -/
theorem Ascending.insert {key : String} {value : Value} {entries : List (String × Value)}
    (ascending : Ascending entries) : Ascending (insert key value entries) := by
  induction entries with
  | nil => exact List.pairwise_singleton _ _
  | cons head rest inductionHypothesis =>
      have tail : Ascending rest := (List.pairwise_cons.mp ascending).2
      have above := (List.pairwise_cons.mp ascending).1
      rw [Keyed.insert]
      split
      · rename_i below
        refine List.pairwise_cons.mpr ⟨?_, ascending⟩
        intro entry member
        rcases List.mem_cons.mp member with rfl | later
        · exact below
        · exact String.lt_trans below (above entry later)
      · split
        · rename_i same
          exact List.pairwise_cons.mpr ⟨fun entry member => same ▸ above entry member, tail⟩
        · rename_i notBelow notSame
          refine List.pairwise_cons.mpr ⟨?_, inductionHypothesis tail⟩
          intro entry member
          rcases insert_mem member with rfl | old
          · refine Decidable.byContradiction fun notAbove => notSame ?_
            exact String.le_antisymm (String.not_lt.mp notAbove) (String.not_lt.mp notBelow)
          · exact above entry old

/-- Erasing keeps the keys in order. -/
theorem Ascending.erase {key : String} {entries : List (String × Value)}
    (ascending : Ascending entries) : Ascending (erase key entries) :=
  List.Pairwise.sublist List.filter_sublist ascending

/-- Pairs are put in order. -/
theorem ascending_ofPairs (pairs : List (String × Value)) : Ascending (ofPairs pairs) := by
  suffices general : ∀ entries : List (String × Value), Ascending entries →
      Ascending (pairs.foldl (fun entries pair => insert pair.1 pair.2 entries) entries) from
    general [] List.Pairwise.nil
  induction pairs with
  | nil => exact fun _ ascending => ascending
  | cons pair rest inductionHypothesis =>
      exact fun _ ascending => inductionHypothesis _ ascending.insert

/-- The value that was inserted is found. -/
theorem lookup_insert_self (key : String) (value : Value) (entries : List (String × Value)) :
    (insert key value entries).lookup key = some value := by
  induction entries with
  | nil => simp [insert]
  | cons head rest inductionHypothesis =>
      obtain ⟨headKey, headValue⟩ := head
      rw [insert]
      split
      · simp
      · split
        · simp
        · rename_i notSame
          rw [List.lookup_cons, beq_false_of_ne notSame]
          exact inductionHypothesis

/-- All other values are kept. -/
theorem lookup_insert_of_ne {key other : String} (different : other ≠ key) (value : Value)
    (entries : List (String × Value)) :
    (insert key value entries).lookup other = entries.lookup other := by
  induction entries with
  | nil => simp [insert, List.lookup_cons, beq_false_of_ne different]
  | cons head rest inductionHypothesis =>
      obtain ⟨headKey, headValue⟩ := head
      rw [insert]
      split
      · rw [List.lookup_cons, beq_false_of_ne different]
      · split
        · rename_i same
          have fromHead : other ≠ headKey := fun hit => different (hit.trans same.symm)
          rw [List.lookup_cons, List.lookup_cons, beq_false_of_ne different,
            beq_false_of_ne fromHead]
        · rw [List.lookup_cons, List.lookup_cons, inductionHypothesis]

/-- Of repeated keys the last one counts. -/
theorem lookup_ofPairs (pairs : List (String × Value)) (key : String) :
    (ofPairs pairs).lookup key = pairs.reverse.lookup key := by
  suffices general : ∀ entries : List (String × Value),
      (pairs.foldl (fun entries pair => insert pair.1 pair.2 entries) entries).lookup key =
        (pairs.reverse.lookup key).or (entries.lookup key) by
    rw [ofPairs, general []]
    exact Option.or_none
  induction pairs with
  | nil => exact fun _ => rfl
  | cons pair rest inductionHypothesis =>
      intro entries
      obtain ⟨pairKey, pairValue⟩ := pair
      rw [List.foldl_cons, inductionHypothesis, List.reverse_cons, List.lookup_append,
        Option.or_assoc]
      by_cases here : key = pairKey
      · subst here
        simp [lookup_insert_self]
      · simp [lookup_insert_of_ne here, List.lookup_cons, beq_false_of_ne here]

/-- A key above all others goes to the end. -/
theorem insert_of_above {key : String} (value : Value) {entries : List (String × Value)}
    (above : ∀ entry ∈ entries, entry.1 < key) :
    insert key value entries = entries ++ [(key, value)] := by
  induction entries with
  | nil => rfl
  | cons head rest inductionHypothesis =>
      have below : head.1 < key := above head List.mem_cons_self
      have notBelow : ¬ key < head.1 := fun other =>
        String.lt_irrefl key (String.lt_trans other below)
      have different : key ≠ head.1 := by
        rintro rfl
        exact String.lt_irrefl _ below
      rw [insert, if_neg notBelow, if_neg different,
        inductionHypothesis fun entry member => above entry (List.mem_cons_of_mem _ member)]
      rfl

/-- Pairs that are in order stay as they are. -/
theorem Ascending.ofPairs_eq_self {entries : List (String × Value)}
    (ascending : Ascending entries) : ofPairs entries = entries := by
  suffices general : ∀ before : List (String × Value), Ascending (before ++ entries) →
      entries.foldl (fun entries pair => Keyed.insert pair.1 pair.2 entries) before =
        before ++ entries from general [] ascending
  clear ascending
  induction entries with
  | nil => exact fun before _ => (List.append_nil before).symm
  | cons head rest inductionHypothesis =>
      intro before ascending
      have above : ∀ entry ∈ before, entry.1 < head.1 := fun entry member =>
        (List.pairwise_append.mp ascending).2.2 entry member head List.mem_cons_self
      rw [List.append_cons] at ascending ⊢
      rw [List.foldl_cons, insert_of_above head.2 above]
      exact inductionHypothesis _ ascending

/-- Putting pairs in order invents none. -/
theorem mem_of_mem_ofPairs {pairs : List (String × Value)} {entry : String × Value}
    (member : entry ∈ ofPairs pairs) : entry ∈ pairs := by
  suffices general : ∀ entries : List (String × Value),
      entry ∈ pairs.foldl (fun entries pair => insert pair.1 pair.2 entries) entries →
        entry ∈ pairs ∨ entry ∈ entries by
    simpa using general [] member
  clear member
  induction pairs with
  | nil => exact fun _ => Or.inr
  | cons pair rest inductionHypothesis =>
      intro entries member
      obtain later | early := inductionHypothesis _ member
      · exact Or.inl (List.mem_cons_of_mem _ later)
      · obtain here | old := insert_mem early
        · exact Or.inl (here ▸ List.mem_cons_self)
        · exact Or.inr old

/-- An erased key has no value, and all others keep theirs. -/
theorem lookup_erase (key other : String) (entries : List (String × Value)) :
    (erase key entries).lookup other = if other = key then none else entries.lookup other := by
  induction entries with
  | nil => simp [erase]
  | cons head rest inductionHypothesis =>
      obtain ⟨headKey, headValue⟩ := head
      unfold erase at inductionHypothesis ⊢
      rw [List.filter_cons]
      by_cases same : headKey = key
      · subst same
        simp only [bne_self_eq_false, Bool.false_eq_true, if_false, inductionHypothesis]
        by_cases hit : other = headKey
        · simp [hit]
        · rw [List.lookup_cons, beq_false_of_ne hit]
      · simp only [bne_iff_ne, ne_eq, same, not_false_eq_true, if_true]
        rw [List.lookup_cons, List.lookup_cons, inductionHypothesis]
        by_cases hit : other = headKey
        · subst hit
          simp [same]
        · rw [beq_false_of_ne hit]

/-- No key occurs twice, so a pair of the list is what its key leads to. -/
theorem Ascending.lookup_eq_some_iff {entries : List (String × Value)}
    (ascending : Ascending entries) (key : String) (value : Value) :
    entries.lookup key = some value ↔ (key, value) ∈ entries := by
  induction entries with
  | nil => simp
  | cons head rest inductionHypothesis =>
      obtain ⟨headKey, headValue⟩ := head
      have tail : Ascending rest := (List.pairwise_cons.mp ascending).2
      have above := (List.pairwise_cons.mp ascending).1
      by_cases same : key = headKey
      · subst same
        have absent : (key, value) ∉ rest := fun later => String.lt_irrefl key (above _ later)
        simp [absent, eq_comm]
      · rw [List.lookup_cons, beq_false_of_ne same]
        simp [same, inductionHypothesis tail]

/-- Entries in order have no two of a kind. -/
theorem Ascending.nodup {entries : List (String × Value)} (ascending : Ascending entries) :
    entries.Nodup := by
  refine List.Pairwise.imp ?_ ascending
  intro one other below same
  subst same
  exact String.lt_irrefl _ below

/-- The keys fix the order of the pairs. -/
theorem Ascending.ext {first second : List (String × Value)} (firstAscending : Ascending first)
    (secondAscending : Ascending second)
    (same : ∀ key, first.lookup key = second.lookup key) : first = second := by
  have members (entry : String × Value) : entry ∈ first ↔ entry ∈ second := by
    rw [← firstAscending.lookup_eq_some_iff, ← secondAscending.lookup_eq_some_iff, same]
  have permuted : first.Perm second :=
    (List.perm_ext_iff_of_nodup firstAscending.nodup secondAscending.nodup).mpr members
  refine permuted.eq_of_pairwise ?_ firstAscending secondAscending
  intro one other _ _ below above
  exact absurd (String.lt_trans below above) (String.lt_irrefl _)

end BeanContainer.Keyed
