/-
This file compares two runs that register the same bean, one of them behind a proxy. Both bind the
same aliases, since an alias is bound without a look at the definitions, and the registries differ in
the bean itself and in the hidden target alone.
-/

import BeanContainer.Proofs.Registration.Placement
import BeanContainer.Proofs.Registry.AliasForest

namespace BeanContainer

open ScopedProxy Relation

namespace Registry

variable {first other registry : Registry} {holder : BeanDefinitionHolder}

/-! Aliases are bound without a look at the definitions. -/

/-- What a registry reads and writes where it binds an alias. -/
def aliasing (registry : Registry) : AliasMap × Bool := (registry.aliases, registry.allowOverriding)

/-- Whether an alias is refused depends on the aliases and the permission alone. -/
theorem aliasFault?_congr (same : other.aliasing = first.aliasing) (name aliasName : String) :
    other.aliasFault? name aliasName = first.aliasFault? name aliasName := by
  obtain ⟨sameAliases, sameFlag⟩ := Prod.mk.inj same
  unfold aliasFault? closesCycle canonicalName
  rw [sameAliases, sameFlag]

/-- A connection makes the same of equal aliases. -/
theorem aliasing_connect_congr (same : other.aliasing = first.aliasing) (name aliasName : String) :
    (other.connect name aliasName).aliasing = (first.connect name aliasName).aliasing := by
  obtain ⟨sameAliases, sameFlag⟩ := Prod.mk.inj same
  unfold connect aliasing
  dsimp only
  rw [sameAliases, sameFlag]

/-- A list of aliases makes the same of equal aliases, also where it breaks off. -/
theorem aliasing_registerAliases_congr (same : other.aliasing = first.aliasing) (name : String)
    (aliases : List String) :
    (stateAfter (aliases.forM fun aliasName => registerAlias name aliasName) other).aliasing =
      (stateAfter (aliases.forM fun aliasName => registerAlias name aliasName) first).aliasing := by
  induction aliases generalizing first other with
  | nil => exact same
  | cons aliasName rest inductionHypothesis =>
      rw [List.forM, stateAfter_bind, stateAfter_bind, registerAlias_run, registerAlias_run,
        aliasFault?_congr same]
      cases first.aliasFault? name aliasName with
      | some cause => exact same
      | none => exact inductionHypothesis (aliasing_connect_congr same name aliasName)

/-- A holder with a free name is bound, and then its aliases are. -/
theorem stateAfter_registerHolder (free : registry.bindingFault? holder.beanName = none) :
    stateAfter (registerHolder holder) registry =
      stateAfter (holder.aliases.forM fun aliasName => registerAlias holder.beanName aliasName)
        (registry.bind holder.beanName holder.definition) := by
  unfold registerHolder
  rw [stateAfter_bind, register_run, free]
  exact stateAfter_bind_pure _ _ _

/-! A bean whose name is not in use. -/

/-- A definition is accepted under every unused name that is not blank. -/
theorem bindingFault?_of_free {name : String} (named : Text.isBlank name = false)
    (free : registry.isNameInUse name = false) : registry.bindingFault? name = none :=
  (registry.bindingFault?_eq_none_iff name).mpr ⟨named, Or.inr free⟩

/-- An unused name is no alias. -/
theorem get?_of_free {name : String} (free : registry.isNameInUse name = false) :
    registry.aliases.get? name = none := by
  simpa [isAlias, SortedMap.contains] using (Bool.or_eq_false_iff.mp free).2

/-- An unused name has no definition. -/
theorem definition?_of_free {name : String} (free : registry.isNameInUse name = false) :
    registry.definition? name = none := by
  simpa [contains] using (Bool.or_eq_false_iff.mp free).1

/-- An unused name comes to the end of the order. -/
theorem names_bind_of_free {name : String} (free : registry.isNameInUse name = false)
    (definition : BeanDefinition) :
    (registry.bind name definition).names = registry.names ++ [name] := by
  have unknown : registry.contains name = false := (Bool.or_eq_false_iff.mp free).1
  unfold Registry.bind
  rw [unknown]
  rfl

/-- A definition under an unused name releases no alias. -/
theorem aliases_bind_of_free {name : String} (free : registry.isNameInUse name = false)
    (definition : BeanDefinition) : (registry.bind name definition).aliases = registry.aliases := by
  unfold Registry.bind
  rw [SortedMap.erase_eq_self (get?_of_free free)]

/-- Holders with the same names make the same of equal aliases, whatever they define. -/
theorem aliasing_registerHolder_congr {visible : BeanDefinitionHolder}
    (sameName : visible.beanName = holder.beanName) (sameAliases : visible.aliases = holder.aliases)
    (same : other.aliasing = first.aliasing) (named : Text.isBlank holder.beanName = false)
    (free : first.isNameInUse holder.beanName = false)
    (otherFree : other.isNameInUse holder.beanName = false) :
    (stateAfter (registerHolder visible) other).aliasing =
      (stateAfter (registerHolder holder) first).aliasing := by
  rw [← sameName] at otherFree
  rw [stateAfter_registerHolder (bindingFault?_of_free named free),
    stateAfter_registerHolder (bindingFault?_of_free (by rwa [sameName]) otherFree), sameName,
    sameAliases]
  obtain ⟨sameBindings, sameFlag⟩ := Prod.mk.inj same
  apply aliasing_registerAliases_congr
  refine Prod.ext ?_ sameFlag
  dsimp only [aliasing]
  rw [← sameName, aliases_bind_of_free otherFree, sameName, aliases_bind_of_free free, sameBindings]

/-- An unbound name can only become an alias of the bean, and the bean's own name none at all. -/
theorem Connection.get?_of_unbound {name unbound : String} {aliases : List String}
    {last : Registry} (connections : ReflTransGen (Connection name aliases) first last)
    (free : first.aliases.get? unbound = none) :
    last.aliases.get? unbound = none ∨
      unbound ≠ name ∧ last.aliases.get? unbound = some name := by
  induction connections with
  | refl => exact Or.inl free
  | tail _ connection inductionHypothesis =>
      cases connection with
      | @connect aliasName listed allowed =>
          unfold Registry.connect
          dsimp only
          split
          · rw [SortedMap.get?_erase]
            split
            · exact Or.inl rfl
            · exact inductionHypothesis
          · rename_i different
            rw [SortedMap.get?_insert]
            split
            · rename_i same
              exact Or.inr ⟨same ▸ different, rfl⟩
            · exact inductionHypothesis

/-- After the connections of a holder a former canonical name stands for itself or for the bean. -/
theorem Connection.canonicalName_of_unbound {name unbound : String} {aliases : List String}
    {last : Registry} (connections : ReflTransGen (Connection name aliases) first last)
    (nameFree : first.aliases.get? name = none) (free : first.aliases.get? unbound = none) :
    last.canonicalName unbound = unbound ∨ last.canonicalName unbound = name := by
  obtain stillFree | ⟨_, bound⟩ := get?_of_unbound connections free
  · exact Or.inl (AliasMap.canonicalName_eq_self stillFree)
  · obtain ended | ⟨different, _⟩ := get?_of_unbound connections nameFree
    · exact Or.inr (AliasMap.canonicalName_eq_target bound ended)
    · exact absurd rfl different

/-- What a bean with a free name leaves behind. -/
structure Joined (holder : BeanDefinitionHolder) (first last : Registry) : Prop where
  names : last.names = first.names ++ [holder.beanName]
  definition? : ∀ name, last.definition? name =
    if name = holder.beanName then some holder.definition else first.definition? name
  canonicalName : ∀ name, first.aliases.get? name = none →
    last.canonicalName name = name ∨ last.canonicalName name = holder.beanName

/-- A holder with a free name joins the registry under its name. -/
theorem joined_registerHolder (named : Text.isBlank holder.beanName = false)
    (free : registry.isNameInUse holder.beanName = false) :
    Joined holder registry (stateAfter (registerHolder holder) registry) := by
  obtain ⟨_, fault, _⟩ | ⟨_, connections⟩ := registerHolder_leftBy holder registry
  · rw [bindingFault?_of_free named free] at fault
    contradiction
  · rw [← stateAfter_eq_leftBy] at connections
    obtain ⟨sameNames, sameDefinitions⟩ := Connection.kept connections
    have unbound : ∀ name, registry.aliases.get? name = none →
        (registry.bind holder.beanName holder.definition).aliases.get? name = none := by
      intro name alone
      rw [aliases_bind_of_free free]
      exact alone
    refine ⟨sameNames.trans (names_bind_of_free free _), fun name => ?_, fun name alone => ?_⟩
    · rw [definition?, sameDefinitions]
      exact definition?_bind registry _ name _
    · exact Connection.canonicalName_of_unbound connections (unbound _ (get?_of_free free))
        (unbound name alone)

/-! The two runs side by side. -/

/-- Besides the bean of this name itself, the second registry differs in its hidden target alone. -/
structure HidesTarget (own : String) (plain proxied : Registry) : Prop where
  aliases : proxied.aliases = plain.aliases
  definition? : ∀ name, name ≠ own → name ≠ targetName own →
    proxied.definition? name = plain.definition? name
  names : ∀ name, name ≠ targetName own → (name ∈ proxied.names ↔ name ∈ plain.names)
  unknown : plain.definition? (targetName own) = none
  hidden : ∃ target, proxied.definition? (targetName own) = some (hidden target)
  canonicalName : proxied.canonicalName (targetName own) = targetName own ∨
    proxied.canonicalName (targetName own) = own

variable {plain proxied : Registry} {mode : ScopedProxyMode}

/-- The names that registered names lead to are the same, up to the bean and its target. -/
theorem HidesTarget.leads_iff {own : String} (hides : HidesTarget own plain proxied) {name : String}
    (notOwn : name ≠ own) (notTarget : name ≠ targetName own) :
    (∃ key ∈ proxied.names, proxied.canonicalName key = name) ↔
      ∃ key ∈ plain.names, plain.canonicalName key = name := by
  have sameWalk (key : String) : proxied.canonicalName key = plain.canonicalName key := by
    unfold Registry.canonicalName
    rw [hides.aliases]
  refine exists_congr fun key => ?_
  by_cases same : key = targetName own
  · -- The hidden target is listed in one registry only, but it leads nowhere besides to itself and
    -- to the bean.
    subst same
    have astray : proxied.canonicalName (targetName own) ≠ name := by
      obtain same | same := hides.canonicalName <;> rw [same]
      · exact notTarget.symm
      · exact notOwn.symm
    exact iff_of_false (fun found => astray found.2)
      fun found => astray ((sameWalk _).trans found.2)
  · rw [hides.names key same, sameWalk]

/-- The registry in which the target has just been hidden. -/
theorem hidesTarget_bind {own : String} (targetFree : registry.isNameInUse (targetName own) = false)
    (target : BeanDefinition) :
    HidesTarget own registry (registry.bind (targetName own) (hidden target)) where
  aliases := aliases_bind_of_free targetFree _
  definition? := by
    intro name _ notTarget
    rw [definition?_bind, if_neg notTarget]
  names := by
    intro name notTarget
    simp [names_bind_of_free targetFree, notTarget]
  unknown := definition?_of_free targetFree
  hidden := ⟨target, by rw [definition?_bind, if_pos rfl]⟩
  canonicalName := by
    refine Or.inl (AliasMap.canonicalName_eq_self ?_)
    unfold Registry.bind
    rw [SortedMap.get?_erase, if_pos rfl]

/-- Both registries then take in the bean, one of them as a proxy. -/
theorem HidesTarget.join {visible : BeanDefinitionHolder} {last : Registry}
    (hides : HidesTarget holder.beanName first other)
    (sameName : visible.beanName = holder.beanName) (plain : Joined holder first last)
    (proxied : Joined visible other registry) (sameAliases : registry.aliases = last.aliases)
    (unbound : other.aliases.get? (targetName holder.beanName) = none) :
    HidesTarget holder.beanName last registry where
  aliases := sameAliases
  definition? := by
    intro name notOwn notTarget
    rw [proxied.definition?, plain.definition?, sameName, if_neg notOwn, if_neg notOwn]
    exact hides.definition? name notOwn notTarget
  names := by
    intro name notTarget
    rw [proxied.names, plain.names, sameName, List.mem_append, List.mem_append]
    exact or_congr_left (hides.names name notTarget)
  unknown := by
    rw [plain.definition?, if_neg (ne_targetName holder.beanName).symm]
    exact hides.unknown
  hidden := by
    rw [proxied.definition?, sameName, if_neg (ne_targetName holder.beanName).symm]
    exact hides.hidden
  canonicalName := by
    have leads := proxied.canonicalName _ unbound
    rwa [sameName] at leads

/-- A holder with a blank name changes nothing. -/
theorem stateAfter_registerHolder_of_blank (blank : Text.isBlank holder.beanName = true) :
    stateAfter (registerHolder holder) registry = registry := by
  have fault : registry.bindingFault? holder.beanName = some (.invalidBeanName .blankName) :=
    if_pos blank
  unfold registerHolder
  rw [stateAfter_bind, register_run, fault]

/-- A blank name is refused in both runs, and any other name stands for the bean in one run and for
its proxy in the other. -/
theorem registerScoped_twins (proxies : mode ≠ .no)
    (nameFree : registry.isNameInUse holder.beanName = false)
    (targetFree : registry.isNameInUse (targetName holder.beanName) = false) :
    let plain := stateAfter (registerScoped .no holder) registry
    let proxied := stateAfter (registerScoped mode holder) registry
    HidesTarget holder.beanName plain proxied ∧
      (Text.isBlank holder.beanName = true ∧ plain.definition? holder.beanName = none ∧
          proxied.definition? holder.beanName = none ∨
        Text.isBlank holder.beanName = false ∧ Joined holder registry plain ∧
          proxied.definition? holder.beanName = some (shown mode holder).definition) := by
  intro plain proxied
  let veiled := registry.bind (targetName holder.beanName) (hidden holder.definition)
  have hides : HidesTarget holder.beanName registry veiled :=
    hidesTarget_bind targetFree holder.definition
  have plainRun : plain = stateAfter (registerHolder holder) registry :=
    (stateAfter_registerScoped .no holder registry).trans (if_pos rfl)
  -- The name of a target is never blank, so the target is hidden even if the proxy is refused.
  have proxiedRun : proxied = stateAfter (registerHolder (shown mode holder)) veiled := by
    have run := stateAfter_registerScoped mode holder registry
    rwa [if_neg proxies, bindingFault?_of_free (isBlank_targetName _) targetFree] at run
  have unknown : registry.definition? holder.beanName = none := definition?_of_free nameFree
  have veiledUnknown : veiled.definition? holder.beanName = none := by
    rw [definition?_bind, if_neg (ne_targetName _)]
    exact unknown
  cases named : Text.isBlank holder.beanName with
  | true =>
      rw [plainRun, proxiedRun, stateAfter_registerHolder_of_blank named,
        stateAfter_registerHolder_of_blank (by rwa [beanName_shown])]
      exact ⟨hides, Or.inl ⟨rfl, unknown, veiledUnknown⟩⟩
  | false =>
      have veiledFree : veiled.isNameInUse holder.beanName = false := by
        unfold isNameInUse isAlias
        rw [contains_bind, aliases_bind_of_free targetFree,
          beq_false_of_ne (ne_targetName holder.beanName), Bool.false_or]
        exact nameFree
      have joined : Joined holder registry plain := by
        rw [plainRun]
        exact joined_registerHolder named nameFree
      have joinedProxy : Joined (shown mode holder) veiled proxied := by
        rw [proxiedRun]
        exact joined_registerHolder (by rwa [beanName_shown]) (by rwa [beanName_shown])
      have sameAliases : proxied.aliases = plain.aliases := by
        rw [plainRun, proxiedRun]
        refine congrArg Prod.fst (aliasing_registerHolder_congr (beanName_shown _ _)
          (aliases_shown _ _) ?_ named nameFree veiledFree)
        exact Prod.ext (aliases_bind_of_free targetFree (hidden holder.definition)) rfl
      have unbound : veiled.aliases.get? (targetName holder.beanName) = none := by
        rw [aliases_bind_of_free targetFree]
        exact get?_of_free targetFree
      refine ⟨hides.join (beanName_shown _ _) joined joinedProxy sameAliases unbound,
        Or.inr ⟨rfl, joined, ?_⟩⟩
      rw [joinedProxy.definition?, beanName_shown, if_pos rfl]

end Registry

end BeanContainer
