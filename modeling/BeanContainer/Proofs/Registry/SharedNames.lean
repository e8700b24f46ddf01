/-
This file is about names that are bound to a definition and to another name at once. A definition
is refused where an alias has its name, but an alias is not refused where a definition has its
name, and such a definition is no longer found under its own name.
-/

import BeanContainer.Proofs.Registry.AliasForest
import BeanContainer.Proofs.Registry.InsertionOrder

namespace BeanContainer.Registry

/-- No name stands for a definition and for another name. -/
def Separate (registry : Registry) : Prop :=
  ∀ name, registry.contains name = true → registry.isAlias name = false

/-- The names that the request means to bind to another name. -/
def Request.aliasNames : Request → List String
  | .registerAlias _ aliasName => [aliasName]
  | .registerHolder holder => holder.aliases
  | .register _ _ | .remove _ | .setAllowOverriding _ => []

/-- The request leaves the name of a definition bound to another name. -/
def Shadows (request : Request) (registry : Registry) : Prop :=
  ∃ aliasName ∈ request.aliasNames,
    registry.contains aliasName = true ∧ (request.after registry).isAlias aliasName = true

/-- The holder of the name has that name and its definition. -/
def HeldByName (registry : Registry) (name : String) : Prop :=
  ∃ holder, registry.holder name = .ok holder ∧ holder.beanName = name ∧
    registry.definition name = .ok holder.definition

/-! Bindings of aliases. -/

section Connections

variable {name : String} {aliases : List String} {first last : Registry}

/-- Connections make no definition known and none unknown. -/
theorem Connection.contains_eq
    (connections : Relation.ReflTransGen (Connection name aliases) first last) (other : String) :
    last.contains other = first.contains other := by
  rw [contains, contains, definition?, definition?, (Connection.kept connections).2]

/-- Only the listed aliases can come to be bound. -/
theorem Connection.isAlias_of_unlisted
    (connections : Relation.ReflTransGen (Connection name aliases) first last) {other : String}
    (unlisted : other ∉ aliases) (bound : last.isAlias other = true) :
    first.isAlias other = true := by
  induction connections with
  | refl => exact bound
  | tail _ connection inductionHypothesis =>
      refine inductionHypothesis ?_
      cases connection with
      | @connect aliasName listed free =>
          have different : other ≠ aliasName := fun same => unlisted (same ▸ listed)
          rw [isAlias_connect] at bound
          split at bound <;> simpa [different] using bound

/-- The name itself is never bound, even where it is listed as an alias of its own. -/
theorem Connection.isAlias_self
    (connections : Relation.ReflTransGen (Connection name aliases) first last)
    (free : first.isAlias name = false) : last.isAlias name = false := by
  induction connections with
  | refl => exact free
  | tail _ connection inductionHypothesis =>
      cases connection with
      | @connect aliasName listed stillFree =>
          rw [isAlias_connect]
          split
          · simp [inductionHypothesis]
          · rename_i different
            simp [inductionHypothesis, Ne.symm different]

/-- Connections keep names and aliases apart unless they make an alias of a known name. -/
theorem Connection.separate_iff
    (connections : Relation.ReflTransGen (Connection name aliases) first last)
    (separate : Separate first) :
    Separate last ↔
      ¬ ∃ aliasName ∈ aliases,
        first.contains aliasName = true ∧ last.isAlias aliasName = true := by
  constructor
  · rintro stillSeparate ⟨aliasName, _, known, bound⟩
    rw [← Connection.contains_eq connections] at known
    rw [stillSeparate aliasName known] at bound
    contradiction
  · intro noneShadowed other known
    rw [Connection.contains_eq connections] at known
    rw [← Bool.not_eq_true]
    intro bound
    by_cases listed : other ∈ aliases
    · exact noneShadowed ⟨other, listed, known, bound⟩
    · have before := Connection.isAlias_of_unlisted connections listed bound
      rw [separate other known] at before
      contradiction

end Connections

/-! One request, and then a run of them. -/

/-- A definition that is bound releases the alias of its name. -/
theorem Separate.bind {registry : Registry} (separate : Separate registry) (name : String)
    (definition : BeanDefinition) : Separate (registry.bind name definition) := by
  intro other known
  rw [isAlias_bind]
  rw [contains_bind] at known
  by_cases same : other = name
  · simp [same]
  · have before : registry.contains other = true := by simpa [same] using known
    simp [separate other before]

/-- A removal cannot make a name and an alias meet. -/
theorem Separate.unbind {registry : Registry} (separate : Separate registry) (name : String) :
    Separate (registry.unbind name) := by
  intro other known
  rw [contains_unbind, Bool.and_eq_true] at known
  exact separate other known.2

/-- A request keeps the names separate unless it binds the name of a definition as an alias. -/
theorem Separate.after_iff {registry : Registry} (separate : Separate registry)
    (request : Request) : Separate (request.after registry) ↔ ¬ Shadows request registry := by
  cases request with
  | register name definition =>
      refine iff_of_true ?_ (by simp [Shadows, Request.aliasNames])
      rw [Request.after_register]
      cases registry.bindingFault? name with
      | some cause => exact separate
      | none => exact separate.bind name definition
  | remove name =>
      refine iff_of_true ?_ (by simp [Shadows, Request.aliasNames])
      rw [Request.after_remove]
      cases registry.definition? name with
      | none => exact separate
      | some removed => exact separate.unbind name
  | registerAlias name aliasName =>
      have listed : aliasName ∈ [aliasName] := List.mem_singleton.mpr rfl
      exact Connection.separate_iff (registerAlias_stepwise name listed registry) separate
  | registerHolder holder =>
      rw [Shadows, Request.after_registerHolder, Request.aliasNames]
      obtain ⟨_, _, same⟩ | ⟨_, connections⟩ := registerHolder_leftBy holder registry
      · rw [same]
        refine iff_of_true separate ?_
        rintro ⟨aliasName, _, known, bound⟩
        rw [separate aliasName known] at bound
        contradiction
      · rw [Connection.separate_iff connections (separate.bind _ _)]
        have ownFree := Connection.isAlias_self connections (by simp [isAlias_bind])
        refine not_congr (exists_congr fun aliasName => and_congr_right fun _ => ?_)
        refine and_congr_left fun bound => ?_
        have other : aliasName ≠ holder.beanName := by
          rintro rfl
          rw [ownFree] at bound
          contradiction
        rw [contains_bind, beq_false_of_ne other, Bool.false_or]
  | setAllowOverriding allow =>
      exact iff_of_true separate (by simp [Shadows, Request.aliasNames])

/-- Names stay separate through a run exactly as long as no request shadows a definition. -/
theorem Separate.run_iff {registry : Registry} (separate : Separate registry)
    (requests : List Request) :
    (∀ earlier, earlier <+: requests → Separate (registry.run earlier)) ↔
      ∀ earlier request, earlier ++ [request] <+: requests →
        ¬ Shadows request (registry.run earlier) := by
  constructor
  · intro always earlier request made
    have before := always earlier ((List.prefix_append earlier [request]).trans made)
    have after := always _ made
    rw [run_concat] at after
    exact (before.after_iff request).mp after
  · intro noneShadows earlier
    induction earlier using List.reverseRecOn with
    | nil => exact fun _ => separate
    | append_singleton earlier request inductionHypothesis =>
        intro made
        have before := inductionHypothesis ((List.prefix_append earlier [request]).trans made)
        rw [run_concat]
        exact (before.after_iff request).mpr (noneShadows earlier request made)

/-- Without definitions no name is shared. -/
theorem empty_separate (allowOverriding : Bool) : Separate (.empty allowOverriding) :=
  fun _ _ => rfl

/-! Where the definition of a name is found. -/

/-- A name stands for itself just if it is no alias. -/
theorem canonicalName_eq_self_iff {registry : Registry} (acyclic : registry.aliases.Acyclic)
    (name : String) : registry.canonicalName name = name ↔ registry.isAlias name = false := by
  unfold isAlias SortedMap.contains
  rw [Option.isSome_eq_false_iff, Option.isNone_iff_eq_none]
  constructor
  · intro same
    rw [← acyclic.get?_canonicalName name]
    exact congrArg registry.aliases.get? same.symm
  · exact AliasMap.canonicalName_eq_self

/-- A holder carries the definition, the name and the aliases that belong to the canonical name. -/
theorem holder_eq_ok_iff (registry : Registry) (name : String) (holder : BeanDefinitionHolder) :
    registry.holder name = .ok holder ↔
      registry.definition (registry.canonicalName name) = .ok holder.definition ∧
        holder.beanName = registry.canonicalName name ∧
        holder.aliases = registry.aliasesOf (registry.canonicalName name) := by
  unfold Registry.holder
  dsimp only
  cases registry.definition (registry.canonicalName name) with
  | error cause => exact iff_of_false nofun (fun held => nomatch held.1)
  | ok definition =>
      change Except.ok _ = Except.ok holder ↔ _
      cases holder
      simp only [Except.ok.injEq, BeanDefinitionHolder.mk.injEq, eq_comm]

/-- A known name is held under itself just if it is no alias. -/
theorem heldByName_iff {registry : Registry} (acyclic : registry.aliases.Acyclic) {name : String}
    (known : ∃ definition, registry.definition name = .ok definition) :
    HeldByName registry name ↔ registry.isAlias name = false := by
  rw [← canonicalName_eq_self_iff acyclic]
  obtain ⟨definition, known⟩ := known
  constructor
  · rintro ⟨holder, held, sameName, _⟩
    rw [← ((registry.holder_eq_ok_iff name holder).mp held).2.1, sameName]
  · intro same
    have held := (registry.holder_eq_ok_iff name ⟨definition, name, registry.aliasesOf name⟩).mpr
      (by simp [same, known])
    exact ⟨_, held, rfl, known⟩

/-- Names stay separate through a run exactly as long as no request shadows a definition, and
a definition is found under its own name exactly if that name is no alias. -/
theorem run_separate_iff (requests : List Request) :
    ((∀ earlier, earlier <+: requests → Separate (Registry.empty.run earlier)) ↔
      ∀ earlier request, earlier ++ [request] <+: requests →
        ¬ Shadows request (Registry.empty.run earlier)) ∧
      let registry := Registry.empty.run requests
      ∀ name ∈ registry.names,
        (registry.canonicalName name = name ↔ registry.isAlias name = false) ∧
          (HeldByName registry name ↔ registry.isAlias name = false) := by
  refine ⟨(empty_separate false).run_iff requests, fun name member => ?_⟩
  have acyclic := Reachable.acyclic ⟨requests, rfl⟩
  have known := (((empty_shows false).run requests).inStep.known name).mpr member
  exact ⟨canonicalName_eq_self_iff acyclic name, heldByName_iff acyclic known⟩

/-- An alias takes the name of a definition, which is then out of reach. -/
theorem shared_name_hides_definition :
    let registry := Registry.empty.run [.register "cart" {}, .registerAlias "basket" "cart"]
    "cart" ∈ registry.names ∧ registry.isAlias "cart" = true ∧
      registry.canonicalName "cart" = "basket" ∧
      registry.holder "cart" = .error (.noSuchBeanDefinition "basket") := by
  refine ⟨?_, ?_, ?_, ?_⟩
  · decide +kernel
  · decide +kernel
  · decide +kernel
  · rfl

end BeanContainer.Registry
