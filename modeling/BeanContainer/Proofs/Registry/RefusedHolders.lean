/-
This file says exactly when the refused registration of a holder leaves something behind. The bean
name is bound before the aliases, and what is bound ahead of a refused alias stays bound.
-/

import BeanContainer.Proofs.Registry.AliasForest

namespace BeanContainer

/-- Nothing comes back from a name that is bound to nothing. -/
theorem AliasMap.leadsToWithin_of_unbound {aliases : AliasMap} {aliasName : String}
    (unbound : aliases.get? aliasName = none) (steps : Nat) (name : String) :
    aliases.leadsToWithin name aliasName steps = false := by
  induction steps generalizing name with
  | zero => rfl
  | succ steps inductionHypothesis =>
      rw [leadsToWithin, List.any_eq_false]
      intro binding member found
      have other : binding.1 ≠ aliasName := by
        rintro rfl
        rw [get?_of_mem member] at unbound
        contradiction
      simp [other, inductionHypothesis] at found

namespace Registry

variable {registry : Registry} {name aliasName : String}

/-! Aliases of a name that is bound to nothing. -/

/-- A name that is no alias leads nowhere, so an alias of it closes no cycle. -/
theorem closesCycle_of_unbound (unbound : registry.aliases.get? name = none)
    (different : aliasName ≠ name) : registry.closesCycle name aliasName = false := by
  have noWayUp : registry.canonicalName name = name := AliasMap.canonicalName_eq_self unbound
  rw [closesCycle, AliasMap.leadsTo, AliasMap.leadsToWithin_of_unbound unbound, noWayUp,
    Bool.false_or]
  exact beq_false_of_ne different.symm

/-- No cycle passes an unbound name, so there are only two reasons to refuse an alias of it. -/
theorem aliasFault?_of_unbound (named : Text.isBlank name = false)
    (unbound : registry.aliases.get? name = none) (aliasName : String) :
    registry.aliasFault? name aliasName =
      if Text.isBlank aliasName then some (.invalidBeanName .blankNameOrAlias)
      else if (aliasName = name ∨ registry.aliases.get? aliasName = some name) ∨
          registry.allowOverriding = true then none
      else (registry.aliases.get? aliasName).map (.aliasConflict aliasName name) := by
  unfold aliasFault?
  rw [named, Bool.false_or]
  split
  · rfl
  · by_cases settled : aliasName = name ∨ registry.aliases.get? aliasName = some name
    · rw [if_pos settled, if_pos (Or.inl settled)]
    · have noCycle : registry.closesCycle name aliasName = false :=
        closesCycle_of_unbound unbound fun itself => settled (Or.inl itself)
      rw [if_neg settled, noCycle]
      cases bound : registry.aliases.get? aliasName <;> cases registry.allowOverriding <;>
        simp_all

/-- A connection binds its own alias and keeps all other bindings. -/
theorem get?_connect_of_unbound (unbound : registry.aliases.get? name = none)
    (aliasName other : String) :
    (registry.connect name aliasName).aliases.get? other =
      if other = aliasName ∧ other ≠ name then some name else registry.aliases.get? other := by
  unfold connect
  dsimp only
  split
  · rename_i itself
    subst itself
    rw [SortedMap.erase_eq_self unbound, if_neg fun both => both.2 both.1]
  · rename_i different
    rw [SortedMap.get?_insert]
    by_cases here : other = aliasName <;> simp [here, different]

/-- The name stays unbound, also where it is listed as an alias of its own. -/
theorem get?_connect_self (unbound : registry.aliases.get? name = none) (aliasName : String) :
    (registry.connect name aliasName).aliases.get? name = none := by
  rw [get?_connect_of_unbound unbound, if_neg fun both => both.2 rfl]
  exact unbound

/-- An accepted alias makes no difference to the others. -/
theorem aliasFault?_connect (named : Text.isBlank name = false)
    (unbound : registry.aliases.get? name = none)
    (accepted : registry.aliasFault? name aliasName = none) (other : String) :
    (registry.connect name aliasName).aliasFault? name other =
      registry.aliasFault? name other := by
  by_cases same : other = aliasName ∧ other ≠ name
  · obtain ⟨rfl, different⟩ := same
    have solid : Text.isBlank other = false := by
      simpa [named] using ((aliasFault?_eq_none_iff _ _ _).mp accepted).1
    rw [accepted, aliasFault?_of_unbound named (get?_connect_self unbound other),
      get?_connect_of_unbound unbound]
    simp [solid, different]
  · rw [aliasFault?_of_unbound named (get?_connect_self unbound aliasName),
      aliasFault?_of_unbound named unbound, get?_connect_of_unbound unbound, if_neg same]
    rfl

/-! The aliases of a holder are bound to its name one after the other. -/

def connectAll (registry : Registry) (name : String) (aliases : List String) : Registry :=
  aliases.foldl (fun registry aliasName => registry.connect name aliasName) registry

theorem connectAll_cons (registry : Registry) (name aliasName : String) (rest : List String) :
    registry.connectAll name (aliasName :: rest) =
      (registry.connect name aliasName).connectAll name rest := rfl

/-- The aliases are bound up to the first one that is refused. -/
theorem registerAliases_run (named : Text.isBlank name = false)
    (unbound : registry.aliases.get? name = none) (aliases : List String) :
    (aliases.forM fun aliasName => registerAlias name aliasName).run registry =
      match aliases.findSome? (registry.aliasFault? name) with
      | some cause => .error cause (registry.connectAll name
          (aliases.takeWhile fun aliasName => (registry.aliasFault? name aliasName).isNone))
      | none => .ok () (registry.connectAll name aliases) := by
  induction aliases generalizing registry with
  | nil => rfl
  | cons aliasName rest inductionHypothesis =>
      rw [List.forM, EStateM.run_bind, registerAlias_run, List.findSome?_cons, List.takeWhile_cons]
      cases fault : registry.aliasFault? name aliasName with
      | some cause => rfl
      | none =>
          have onwards := inductionHypothesis (get?_connect_self unbound aliasName)
          rw [funext (aliasFault?_connect named unbound fault)] at onwards
          exact onwards

/-- Connections change the bindings of aliases and nothing else. -/
theorem connectAll_eq (registry : Registry) (name : String) (aliases : List String) :
    registry.connectAll name aliases =
      { registry with aliases := (registry.connectAll name aliases).aliases } := by
  induction aliases generalizing registry with
  | nil => rfl
  | cons aliasName rest inductionHypothesis =>
      rw [connectAll_cons, inductionHypothesis]
      rfl

/-- All connected aliases lead to the name, and all other bindings are kept. -/
theorem get?_connectAll_of_unbound (unbound : registry.aliases.get? name = none)
    (aliases : List String) (other : String) :
    (registry.connectAll name aliases).aliases.get? other =
      if other ∈ aliases ∧ other ≠ name then some name else registry.aliases.get? other := by
  induction aliases generalizing registry with
  | nil => simp [connectAll]
  | cons aliasName rest inductionHypothesis =>
      rw [connectAll_cons, inductionHypothesis (get?_connect_self unbound aliasName),
        get?_connect_of_unbound unbound]
      by_cases later : other ∈ rest ∧ other ≠ name
      · rw [if_pos later, if_pos ⟨List.mem_cons_of_mem _ later.1, later.2⟩]
      · rw [if_neg later]
        refine if_congr ?_ rfl rfl
        rw [List.mem_cons, or_and_right, or_iff_left later]

/-- Bindings that the registry has already are all that does not change it. -/
theorem connectAll_eq_self_iff (unbound : registry.aliases.get? name = none)
    (aliases : List String) :
    registry.connectAll name aliases = registry ↔
      ∀ aliasName ∈ aliases, aliasName = name ∨ registry.aliases.get? aliasName = some name := by
  have bindings := get?_connectAll_of_unbound unbound aliases
  constructor
  · intro same aliasName listed
    rw [same] at bindings
    by_cases itself : aliasName = name
    · exact Or.inl itself
    · right
      rw [bindings, if_pos ⟨listed, itself⟩]
  · intro already
    have sameAliases : (registry.connectAll name aliases).aliases = registry.aliases := by
      apply SortedMap.ext_get?
      intro other
      rw [bindings]
      split
      · rename_i listed
        exact ((already other listed.1).resolve_left listed.2).symm
      · rfl
    rw [connectAll_eq, sameAliases]

/-! The definition and the aliases of a holder. -/

/-- A name that has just been bound is no alias. -/
theorem get?_bind_self (registry : Registry) (name : String) (definition : BeanDefinition) :
    (registry.bind name definition).aliases.get? name = none := by
  rw [bind, SortedMap.get?_erase, if_pos rfl]

/-- The alias is blank, or it is bound to another name and may not be bound anew. -/
def RefusesAlias (registry : Registry) (name aliasName : String) : Prop :=
  Text.isBlank aliasName = true ∨
    registry.allowOverriding = false ∧ aliasName ≠ name ∧
      registry.isAlias aliasName = true ∧ registry.aliases.get? aliasName ≠ some name

instance (registry : Registry) (name aliasName : String) :
    Decidable (registry.RefusesAlias name aliasName) :=
  inferInstanceAs (Decidable (_ ∨ _ ∧ _ ∧ _ ∧ _))

end Registry

open Registry

namespace BeanDefinitionHolder

/-- The aliases ahead of the first one that is refused. -/
def acceptedAliases (holder : BeanDefinitionHolder) (registry : Registry) : List String :=
  holder.aliases.takeWhile fun aliasName => !decide (registry.RefusesAlias holder.beanName aliasName)

/-- The bean name is accepted and an alias is refused, and not all that stands ahead of this alias
was in the registry before. -/
def Strands (holder : BeanDefinitionHolder) (registry : Registry) : Prop :=
  (Text.isBlank holder.beanName = false ∧
      (registry.allowOverriding = true ∨ registry.isNameInUse holder.beanName = false)) ∧
    (∃ aliasName ∈ holder.aliases, registry.RefusesAlias holder.beanName aliasName) ∧
    ¬ (registry.definition? holder.beanName = some holder.definition ∧
        registry.isAlias holder.beanName = false ∧
        ∀ aliasName ∈ holder.acceptedAliases registry,
          aliasName = holder.beanName ∨
            registry.aliases.get? aliasName = some holder.beanName)

/-- The registry with the definition of the holder and the accepted aliases. -/
def stranded (holder : BeanDefinitionHolder) (registry : Registry) : Registry :=
  (registry.bind holder.beanName holder.definition).connectAll holder.beanName
    (holder.acceptedAliases registry)

variable {holder : BeanDefinitionHolder} {registry : Registry}

/-- Once the bean name is bound, the aliases are refused for what the registry held before. -/
theorem aliasFault?_bind_eq_none_iff (named : Text.isBlank holder.beanName = false)
    (aliasName : String) :
    (registry.bind holder.beanName holder.definition).aliasFault? holder.beanName aliasName =
        none ↔
      ¬ registry.RefusesAlias holder.beanName aliasName := by
  rw [aliasFault?_of_unbound named (get?_bind_self _ _ _), Registry.bind]
  dsimp only
  rw [SortedMap.get?_erase]
  unfold RefusesAlias isAlias SortedMap.contains
  by_cases itself : aliasName = holder.beanName
  · simp [itself, named]
  · cases Text.isBlank aliasName <;> cases registry.allowOverriding <;>
      cases registry.aliases.get? aliasName <;> simp [itself]

/-- The aliases ahead of the first refused one can be told before the definition is bound. -/
theorem acceptedAliases_eq (named : Text.isBlank holder.beanName = false) :
    (holder.aliases.takeWhile fun aliasName =>
        ((registry.bind holder.beanName holder.definition).aliasFault? holder.beanName
          aliasName).isNone) = holder.acceptedAliases registry := by
  unfold acceptedAliases
  congr 1
  funext aliasName
  rw [Bool.eq_iff_iff, Option.isNone_iff_eq_none, aliasFault?_bind_eq_none_iff named]
  simp

/-- A holder is refused for its bean name or for the first alias that is refused. -/
theorem registerHolder_run (holder : BeanDefinitionHolder) (registry : Registry) :
    (registerHolder holder).run registry =
      match registry.bindingFault? holder.beanName with
      | some cause => .error cause registry
      | none =>
          match holder.aliases.findSome? ((registry.bind holder.beanName
              holder.definition).aliasFault? holder.beanName) with
          | some cause => .error cause (holder.stranded registry)
          | none => .ok holder.definition
              ((registry.bind holder.beanName holder.definition).connectAll holder.beanName
                holder.aliases) := by
  rw [registerHolder, EStateM.run_bind, register_run]
  cases free : registry.bindingFault? holder.beanName with
  | some cause => rfl
  | none =>
      have named := ((registry.bindingFault?_eq_none_iff holder.beanName).mp free).1
      have loop := registerAliases_run named
        (get?_bind_self registry holder.beanName holder.definition) holder.aliases
      rw [acceptedAliases_eq named] at loop
      dsimp only
      rw [EStateM.run_bind, loop]
      cases holder.aliases.findSome? _ <;> rfl

/-- The registry is left as it was just if it held the definition and the accepted aliases before. -/
theorem stranded_eq_self_iff (holder : BeanDefinitionHolder) (registry : Registry) :
    holder.stranded registry = registry ↔
      registry.definition? holder.beanName = some holder.definition ∧
        registry.isAlias holder.beanName = false ∧
        ∀ aliasName ∈ holder.acceptedAliases registry,
          aliasName = holder.beanName ∨
            registry.aliases.get? aliasName = some holder.beanName := by
  have unbound := get?_bind_self registry holder.beanName holder.definition
  unfold stranded
  constructor
  · intro same
    have kept := connectAll_eq (registry.bind holder.beanName holder.definition)
      holder.beanName (holder.acceptedAliases registry)
    have free := get?_connectAll_of_unbound unbound (holder.acceptedAliases registry)
      holder.beanName
    rw [same] at kept
    rw [same, if_neg fun both => both.2 rfl, unbound] at free
    have known : registry.definition? holder.beanName = some holder.definition := by
      rw [kept]
      exact (definition?_bind registry _ _ _).trans (if_pos rfl)
    have noAlias : registry.isAlias holder.beanName = false := by
      simp [isAlias, SortedMap.contains, free]
    rw [(registry.bind_eq_self_iff _ _).mpr ⟨known, noAlias⟩] at same
    exact ⟨known, noAlias, (connectAll_eq_self_iff free _).mp same⟩
  · rintro ⟨known, noAlias, already⟩
    rw [(registry.bind_eq_self_iff _ _).mpr ⟨known, noAlias⟩] at unbound ⊢
    exact (connectAll_eq_self_iff unbound _).mpr already

/-- Something is left behind just if the definition is accepted, some alias is refused, and what is
bound until then makes a difference. -/
theorem strands_iff (holder : BeanDefinitionHolder) (registry : Registry) :
    holder.Strands registry ↔
      registry.bindingFault? holder.beanName = none ∧
        (∃ aliasName ∈ holder.aliases, registry.RefusesAlias holder.beanName aliasName) ∧
        holder.stranded registry ≠ registry := by
  rw [registry.bindingFault?_eq_none_iff, ne_eq, stranded_eq_self_iff]
  rfl

/-- A refused holder changes the registry exactly if its bean name was accepted and something that
stands ahead of its first refused alias was new. Just that is then left behind. -/
theorem registerHolder_error_iff (holder : BeanDefinitionHolder) (registry left : Registry) :
    (∃ cause, (registerHolder holder).run registry = .error cause left) ∧ left ≠ registry ↔
      holder.Strands registry ∧ left = holder.stranded registry := by
  rw [strands_iff, registerHolder_run]
  cases free : registry.bindingFault? holder.beanName with
  | some cause => simp [eq_comm]
  | none =>
      have named := ((registry.bindingFault?_eq_none_iff holder.beanName).mp free).1
      dsimp only
      cases fault : holder.aliases.findSome? ((registry.bind holder.beanName
          holder.definition).aliasFault? holder.beanName) with
      | none =>
          have accepted := List.findSome?_eq_none_iff.mp fault
          refine iff_of_false (fun refused => nomatch refused.1.choose_spec) ?_
          rintro ⟨⟨_, ⟨aliasName, listed, refused⟩, _⟩, _⟩
          exact (aliasFault?_bind_eq_none_iff named aliasName).mp (accepted _ listed) refused
      | some cause =>
          obtain ⟨aliasName, listed, found⟩ := List.exists_of_findSome?_eq_some fault
          have refused : registry.RefusesAlias holder.beanName aliasName := by
            rw [← not_not (a := registry.RefusesAlias holder.beanName aliasName),
              ← aliasFault?_bind_eq_none_iff named, found]
            exact Option.some_ne_none cause
          constructor
          · rintro ⟨⟨_, same⟩, changed⟩
            cases same
            exact ⟨⟨rfl, ⟨aliasName, listed, refused⟩, changed⟩, rfl⟩
          · rintro ⟨⟨_, _, changed⟩, rfl⟩
            exact ⟨⟨cause, rfl⟩, changed⟩

/-- The second alias belongs to the desk, but the cart and its first alias stay registered. -/
theorem refused_holder_stays :
    let registry := Registry.empty.run [.registerAlias "desk" "basket"]
    let holder : BeanDefinitionHolder :=
      { definition := {}, beanName := "cart", aliases := ["trolley", "basket"] }
    registry.names = [] ∧ registry.isAlias "trolley" = false ∧
      ∃ left,
        (registerHolder holder).run registry =
            .error (.aliasConflict "basket" "cart" "desk") left ∧
          left.names = ["cart"] ∧ left.isAlias "trolley" = true := by
  intro registry holder
  have free : registry.bindingFault? holder.beanName = none := by decide +kernel
  have fault : holder.aliases.findSome? ((registry.bind holder.beanName
      holder.definition).aliasFault? holder.beanName) =
        some (.aliasConflict "basket" "cart" "desk") := by
    decide +kernel
  refine ⟨by decide +kernel, by decide +kernel, holder.stranded registry, ?_, by decide +kernel,
    by decide +kernel⟩
  rw [registerHolder_run, free]
  dsimp only
  rw [fault]

end BeanDefinitionHolder

end BeanContainer
