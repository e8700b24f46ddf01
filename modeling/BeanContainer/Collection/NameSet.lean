/-
This file holds sets of names, kept in ascending order without repetition.
-/

namespace BeanContainer

structure NameSet where
  names : List String
  ascending : names.Pairwise (· < ·)
deriving DecidableEq

namespace NameSet

def empty : NameSet := ⟨[], List.Pairwise.nil⟩

instance : EmptyCollection NameSet := ⟨empty⟩

instance : Inhabited NameSet := ⟨empty⟩

def contains (set : NameSet) (name : String) : Bool := set.names.contains name

def insertName (name : String) : List String → List String
  | [] => [name]
  | head :: rest =>
      if name < head then name :: head :: rest
      else if name = head then head :: rest
      else head :: insertName name rest

/-- Inserting a name adds that name alone. -/
theorem mem_insertName {name other : String} {names : List String} :
    other ∈ insertName name names ↔ other = name ∨ other ∈ names := by
  induction names with
  | nil => simp [insertName]
  | cons head rest inductionHypothesis =>
      rw [insertName]
      split
      · simp
      · split
        · rename_i same
          simp [same]
        · simp only [List.mem_cons, inductionHypothesis]
          constructor
          · rintro (isHead | isName | later) <;> simp_all
          · rintro (isName | isHead | later) <;> simp_all

/-- Inserting keeps the names in order. -/
theorem insertName_ascending {name : String} {names : List String}
    (ascending : names.Pairwise (· < ·)) : (insertName name names).Pairwise (· < ·) := by
  induction names with
  | nil => exact List.pairwise_singleton _ _
  | cons head rest inductionHypothesis =>
      have tail := (List.pairwise_cons.mp ascending).2
      have above := (List.pairwise_cons.mp ascending).1
      rw [insertName]
      split
      · rename_i below
        refine List.pairwise_cons.mpr ⟨?_, ascending⟩
        intro other member
        rcases List.mem_cons.mp member with rfl | later
        · exact below
        · exact String.lt_trans below (above other later)
      · split
        · exact ascending
        · rename_i notBelow notSame
          refine List.pairwise_cons.mpr ⟨?_, inductionHypothesis tail⟩
          intro other member
          rcases mem_insertName.mp member with rfl | old
          · refine Decidable.byContradiction fun notAbove => notSame ?_
            exact String.le_antisymm (String.not_lt.mp notAbove) (String.not_lt.mp notBelow)
          · exact above other old

def insert (set : NameSet) (name : String) : NameSet :=
  ⟨insertName name set.names, insertName_ascending set.ascending⟩

def ofList (names : List String) : NameSet := names.foldl insert empty

/-- A name above all others comes last. -/
theorem insertName_of_above {name : String} {names : List String}
    (above : ∀ other ∈ names, other < name) : insertName name names = names ++ [name] := by
  induction names with
  | nil => rfl
  | cons head rest inductionHypothesis =>
      have below : head < name := above head List.mem_cons_self
      have notBelow : ¬ name < head := fun other =>
        String.lt_irrefl name (String.lt_trans other below)
      have different : name ≠ head := by
        rintro rfl
        exact String.lt_irrefl _ below
      rw [insertName, if_neg notBelow, if_neg different,
        inductionHypothesis fun other member => above other (List.mem_cons_of_mem _ member)]
      rfl

/-- A set is made again of its names. -/
theorem ofList_names (set : NameSet) : ofList set.names = set := by
  suffices general : ∀ (rest : List String) (before : NameSet),
      (before.names ++ rest).Pairwise (· < ·) →
        (rest.foldl insert before).names = before.names ++ rest by
    obtain ⟨names, ascending⟩ := set
    have same := general names ∅ ascending
    unfold ofList
    cases folded : names.foldl insert empty with
    | mk found _ =>
        congr 1
        change (names.foldl insert empty).names = names at same
        rw [folded] at same
        exact same
  intro rest
  induction rest with
  | nil => exact fun before _ => (List.append_nil before.names).symm
  | cons head rest inductionHypothesis =>
      intro before ascending
      have above : ∀ other ∈ before.names, other < head := fun other member =>
        (List.pairwise_append.mp ascending).2.2 other member head List.mem_cons_self
      have inserted : (before.insert head).names = before.names ++ [head] :=
        insertName_of_above above
      rw [List.append_cons, ← inserted] at ascending
      rw [List.foldl_cons, inductionHypothesis _ ascending, inserted, List.append_assoc]
      rfl

end NameSet

end BeanContainer
