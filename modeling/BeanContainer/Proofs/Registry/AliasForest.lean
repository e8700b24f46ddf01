/-
This file shows that alias bindings without a cycle can be followed to an end in both directions,
and that no request closes a cycle.
-/

import BeanContainer.Proofs.Collection.Traversal
import BeanContainer.Proofs.Registry.Operations
import Mathlib.Data.Finset.Card

namespace BeanContainer.AliasMap

/-! The three walks along the bindings, which have no result where they do not end in time. -/

def walk (aliases : AliasMap) : Nat → String → Option String
  | 0, _ => none
  | time + 1, name =>
      match aliases.get? name with
      | some target => walk aliases time target
      | none => some name

def search (aliases : AliasMap) (aliasName : String) : Nat → String → Option Bool
  | 0, _ => none
  | time + 1, name => aliases.entries.anyM fun binding =>
      if binding.2 == name then
        if binding.1 == aliasName then some true else search aliases aliasName time binding.1
      else some false

def collect (aliases : AliasMap) : Nat → String → Option (List String)
  | 0, _ => none
  | time + 1, name => do
      let found ← aliases.entries.mapM fun binding =>
        if binding.2 == name then return binding.1 :: (← collect aliases time binding.1)
        else some []
      return found.flatten

variable {aliases : AliasMap}

/-! Paths of bindings. -/

/-- Two paths that meet make one path. -/
theorem Reaches.append {first middle last : String} (path : Reaches aliases first middle)
    (rest : Reaches aliases middle last) : Reaches aliases first last := by
  induction path with
  | step bound => exact .trans bound rest
  | trans bound _ inductionHypothesis => exact .trans bound (inductionHypothesis rest)

/-- A path ends with a binding to its last name. -/
theorem reaches_iff_last {aliasName name : String} :
    Reaches aliases aliasName name ↔
      ∃ last, aliases.get? last = some name ∧ (last = aliasName ∨ Reaches aliases aliasName last) := by
  constructor
  · intro path
    induction path with
    | step bound => exact ⟨_, bound, Or.inl rfl⟩
    | trans bound _ inductionHypothesis =>
        obtain ⟨last, lastBound, rfl | further⟩ := inductionHypothesis
        · exact ⟨_, lastBound, Or.inr (.step bound)⟩
        · exact ⟨last, lastBound, Or.inr (.trans bound further)⟩
  · rintro ⟨last, bound, rfl | path⟩
    · exact .step bound
    · exact path.append (.step bound)

/-- Without some of the bindings there are no new paths. -/
theorem Acyclic.of_bindings_le {fewer : AliasMap} (acyclic : aliases.Acyclic)
    (fewerBindings : ∀ aliasName target, fewer.get? aliasName = some target →
      aliases.get? aliasName = some target) : fewer.Acyclic := by
  have paths {first last : String} (path : Reaches fewer first last) :
      Reaches aliases first last := by
    induction path with
    | step bound => exact .step (fewerBindings _ _ bound)
    | trans bound _ inductionHypothesis =>
        exact .trans (fewerBindings _ _ bound) inductionHypothesis
  exact fun name path => acyclic name (paths path)

/-- Without a binding there are fewer paths, so no cycle appears. -/
theorem Acyclic.erase (acyclic : aliases.Acyclic) (aliasName : String) :
    Acyclic (SortedMap.erase aliases aliasName) := by
  refine acyclic.of_bindings_le fun other target bound => ?_
  rw [SortedMap.get?_erase] at bound
  split at bound
  · contradiction
  · exact bound

/-- A path after a new binding is an old path, or it uses the new binding once, between two old
paths. -/
theorem Reaches.of_insert {aliasName name : String} (different : aliasName ≠ name)
    (apart : ¬ Reaches aliases name aliasName) {first last : String}
    (path : Reaches (SortedMap.insert aliases aliasName name) first last) :
    Reaches aliases first last ∨
      (first = aliasName ∨ Reaches aliases first aliasName) ∧
        (last = name ∨ Reaches aliases name last) := by
  induction path with
  | @step first last bound =>
      rw [SortedMap.get?_insert] at bound
      split at bound
      · rename_i start
        exact Or.inr ⟨Or.inl start, Or.inl (Option.some.inj bound).symm⟩
      · exact Or.inl (.step bound)
  | @trans first next last bound _ inductionHypothesis =>
      rw [SortedMap.get?_insert] at bound
      split at bound
      · rename_i start
        obtain rfl := Option.some.inj bound
        rcases inductionHypothesis with old | ⟨same | back, _⟩
        · exact Or.inr ⟨Or.inl start, Or.inr old⟩
        · exact absurd same.symm different
        · exact absurd back apart
      · rcases inductionHypothesis with old | ⟨same | toAlias, fromName⟩
        · exact Or.inl (.trans bound old)
        · exact Or.inr ⟨Or.inr (same ▸ .step bound), fromName⟩
        · exact Or.inr ⟨Or.inr (.trans bound toAlias), fromName⟩

/-- It does not matter whether the alias was bound to another name before. -/
theorem Acyclic.insert (acyclic : aliases.Acyclic) {aliasName name : String}
    (different : aliasName ≠ name) (apart : ¬ Reaches aliases name aliasName) :
    Acyclic (SortedMap.insert aliases aliasName name) := by
  intro start path
  rcases path.of_insert different apart with old | ⟨rfl | toAlias, rfl | fromName⟩
  · exact acyclic start old
  · exact different rfl
  · exact apart fromName
  · exact apart toAlias
  · exact apart (fromName.append toAlias)

/-! Each binding brings a walk closer to its end. -/

open Classical in
/-- The bindings that a walk from the name passes. -/
noncomputable def above (aliases : AliasMap) (name : String) : Finset String :=
  aliases.keys.toFinset.filter fun key => key = name ∨ Reaches aliases name key

open Classical in
/-- The aliases that lead to the name. -/
noncomputable def below (aliases : AliasMap) (name : String) : Finset String :=
  aliases.keys.toFinset.filter fun key => Reaches aliases key name

/-- The names above a name are the bound ones among the name itself and all that it leads to. -/
theorem mem_above {name key : String} :
    key ∈ aliases.above name ↔
      key ∈ aliases.keys.toFinset ∧ (key = name ∨ Reaches aliases name key) := by
  simp [above]

/-- The names below a name are the aliases that lead to it. -/
theorem mem_below {name key : String} :
    key ∈ aliases.below name ↔ key ∈ aliases.keys.toFinset ∧ Reaches aliases key name := by
  simp [below]

theorem mem_keys_of_bound {aliasName target : String} (bound : aliases.get? aliasName = some target) :
    aliasName ∈ aliases.keys.toFinset := by
  rw [List.mem_toFinset, SortedMap.mem_keys_iff, SortedMap.contains, bound]
  rfl

/-- There are no more bound names than bindings. -/
theorem card_keys_le (aliases : AliasMap) : aliases.keys.toFinset.card ≤ aliases.size := by
  have keys := List.toFinset_card_le aliases.keys
  rwa [SortedMap.keys, List.length_map] at keys

/-- No name has more names above it than there are bindings. -/
theorem card_above_le (aliases : AliasMap) (name : String) :
    (aliases.above name).card ≤ aliases.size :=
  (Finset.card_le_card fun _ member => (mem_above.mp member).1).trans aliases.card_keys_le

/-- No name has more names below it than there are bindings. -/
theorem card_below_le (aliases : AliasMap) (name : String) :
    (aliases.below name).card ≤ aliases.size :=
  (Finset.card_le_card fun _ member => (mem_below.mp member).1).trans aliases.card_keys_le

/-- One binding further up there are fewer names above. -/
theorem Acyclic.card_above_lt (acyclic : aliases.Acyclic) {aliasName target : String}
    (bound : aliases.get? aliasName = some target) :
    (aliases.above target).card < (aliases.above aliasName).card := by
  apply Finset.card_lt_card
  refine ⟨fun key member => ?_, fun contained => ?_⟩
  · obtain ⟨isKey, rfl | path⟩ := mem_above.mp member
    · exact mem_above.mpr ⟨isKey, Or.inr (.step bound)⟩
    · exact mem_above.mpr ⟨isKey, Or.inr (.trans bound path)⟩
  · have itself : aliasName ∈ aliases.above aliasName :=
      mem_above.mpr ⟨mem_keys_of_bound bound, Or.inl rfl⟩
    obtain ⟨_, rfl | back⟩ := mem_above.mp (contained itself)
    · exact acyclic _ (.step bound)
    · exact acyclic _ (back.append (.step bound))

/-- One binding further down there are fewer names below. -/
theorem Acyclic.card_below_lt (acyclic : aliases.Acyclic) {aliasName target : String}
    (bound : aliases.get? aliasName = some target) :
    (aliases.below aliasName).card < (aliases.below target).card := by
  apply Finset.card_lt_card
  refine ⟨fun key member => ?_, fun contained => ?_⟩
  · obtain ⟨isKey, path⟩ := mem_below.mp member
    exact mem_below.mpr ⟨isKey, path.append (.step bound)⟩
  · have itself : aliasName ∈ aliases.below target :=
      mem_below.mpr ⟨mem_keys_of_bound bound, .step bound⟩
    exact acyclic _ (mem_below.mp (contained itself)).2

/-! The walks end in time, with the results that the registry uses. -/

/-- With time for every name above, the walk up ends where the bounded walk of the registry does. -/
theorem Acyclic.walk_eq_follow (acyclic : aliases.Acyclic) {steps time : Nat} {name : String}
    (enough : (aliases.above name).card ≤ steps) (inTime : (aliases.above name).card < time) :
    aliases.walk time name = some (aliases.follow steps name) := by
  induction time generalizing steps name with
  | zero => omega
  | succ time inductionHypothesis =>
      rw [walk]
      cases bound : aliases.get? name with
      | none => cases steps <;> simp [follow, bound]
      | some target =>
          have closer := acyclic.card_above_lt bound
          obtain ⟨fewer, rfl⟩ : ∃ fewer, steps = fewer + 1 := ⟨steps - 1, by omega⟩
          simp only [follow, bound]
          exact inductionHypothesis (by omega) (by omega)

/-- In more steps than there are bindings the walk up ends at the canonical name. -/
theorem Acyclic.walk_eq (acyclic : aliases.Acyclic) {time : Nat} (inTime : aliases.size < time)
    (name : String) : aliases.walk time name = some (aliases.canonicalName name) := by
  have size := aliases.card_above_le name
  exact acyclic.walk_eq_follow size (by omega)

/-- A walk that ends does so at a name without a binding. -/
theorem get?_of_walk {time : Nat} {name last : String} (ended : aliases.walk time name = some last) :
    aliases.get? last = none := by
  induction time generalizing name with
  | zero => contradiction
  | succ time inductionHypothesis =>
      rw [walk] at ended
      cases bound : aliases.get? name with
      | none =>
          rw [bound] at ended
          exact Option.some.inj ended ▸ bound
      | some target =>
          rw [bound] at ended
          exact inductionHypothesis ended

/-- A name that is no alias stands for itself. -/
theorem canonicalName_eq_self {name : String} (unbound : aliases.get? name = none) :
    aliases.canonicalName name = name := by
  unfold canonicalName
  cases aliases.size with
  | zero => rfl
  | succ steps => simp only [follow, unbound]

/-- An alias of a name that is no alias stands for that name. -/
theorem canonicalName_eq_target {name target : String} (bound : aliases.get? name = some target)
    (ended : aliases.get? target = none) : aliases.canonicalName name = target := by
  have listed : 0 < aliases.size :=
    List.length_pos_of_mem ((aliases.get?_eq_some_iff name target).mp bound)
  obtain ⟨steps, size⟩ := Nat.exists_eq_add_one.mpr listed
  unfold canonicalName
  rw [size, follow, bound]
  cases steps with
  | zero => rfl
  | succ steps => simp only [follow, ended]

/-- A canonical name is no alias. -/
theorem Acyclic.get?_canonicalName (acyclic : aliases.Acyclic) (name : String) :
    aliases.get? (aliases.canonicalName name) = none :=
  get?_of_walk (acyclic.walk_eq (Nat.lt_succ_self _) name)

/-- A test that always has a result finds what its results say. -/
theorem anyM_eq_some {Item : Type} {test : Item → Option Bool} {answer : Item → Bool}
    {items : List Item} (answered : ∀ item ∈ items, test item = some (answer item)) :
    items.anyM test = some (items.any answer) := by
  induction items with
  | nil => rfl
  | cons item rest inductionHypothesis =>
      have here := answered item List.mem_cons_self
      have later := inductionHypothesis fun other member =>
        answered other (List.mem_cons_of_mem _ member)
      rw [List.anyM, here, List.any_cons]
      cases answer item with
      | true => rfl
      | false => exact later

theorem get?_of_mem {binding : String × String} (member : binding ∈ aliases.entries) :
    aliases.get? binding.1 = some binding.2 :=
  (SortedMap.get?_eq_some_iff aliases _ _).mpr member

/-- Where nothing is below a name no binding has it as its target. -/
theorem Acyclic.target_ne (acyclic : aliases.Acyclic) {name : String}
    (empty : (aliases.below name).card ≤ 0) {binding : String × String}
    (member : binding ∈ aliases.entries) : binding.2 ≠ name := by
  have closer := acyclic.card_below_lt (get?_of_mem member)
  rintro rfl
  omega

/-- With time for every name below, the search down finds what the bounded search of the registry
finds. -/
theorem Acyclic.search_eq_leadsToWithin (acyclic : aliases.Acyclic) (aliasName : String)
    {steps time : Nat} {name : String} (enough : (aliases.below name).card ≤ steps)
    (inTime : (aliases.below name).card < time) :
    aliases.search aliasName time name = some (aliases.leadsToWithin name aliasName steps) := by
  induction time generalizing steps name with
  | zero => omega
  | succ time inductionHypothesis =>
      cases steps with
      | zero =>
          rw [search, leadsToWithin, ← List.any_eq_false.mpr fun _ _ => Bool.false_ne_true]
          refine anyM_eq_some fun binding member => ?_
          simp [acyclic.target_ne enough member]
      | succ steps =>
          rw [search, leadsToWithin]
          refine anyM_eq_some fun binding member => ?_
          have closer := acyclic.card_below_lt (get?_of_mem member)
          by_cases here : binding.2 = name
          · rw [here] at closer
            have further : aliases.search aliasName time binding.1 =
                some (aliases.leadsToWithin binding.1 aliasName steps) :=
              inductionHypothesis (by omega) (by omega)
            by_cases found : binding.1 = aliasName
            · simp [here, found]
            · simp [here, found, further]
          · simp [here]

/-- In more steps than there are bindings the search down ends with the answer of the registry. -/
theorem Acyclic.search_eq (acyclic : aliases.Acyclic) {time : Nat} (inTime : aliases.size < time)
    (name aliasName : String) :
    aliases.search aliasName time name = some (aliases.leadsTo name aliasName) := by
  have size := aliases.card_below_le name
  exact acyclic.search_eq_leadsToWithin aliasName size (by omega)

/-- With time for every name below, the collection finds the aliases that the bounded collection of
the registry finds. -/
theorem Acyclic.collect_eq_aliasesWithin (acyclic : aliases.Acyclic) {steps time : Nat}
    {name : String} (enough : (aliases.below name).card ≤ steps)
    (inTime : (aliases.below name).card < time) :
    aliases.collect time name = some (aliases.aliasesWithin steps name) := by
  induction time generalizing steps name with
  | zero => omega
  | succ time inductionHypothesis =>
      cases steps with
      | zero =>
          have parts : aliases.entries.mapM (fun binding =>
              if binding.2 == name then return binding.1 :: (← aliases.collect time binding.1)
              else some []) = some (aliases.entries.map fun _ => []) :=
            mapM_eq_some fun binding member => by simp [acyclic.target_ne enough member]
          rw [collect, parts]
          simp [aliasesWithin]
      | succ steps =>
          have parts : aliases.entries.mapM (fun binding =>
              if binding.2 == name then return binding.1 :: (← aliases.collect time binding.1)
              else some []) = some (aliases.entries.map fun binding =>
                if binding.2 == name then binding.1 :: aliases.aliasesWithin steps binding.1
                else []) := by
            refine mapM_eq_some fun binding member => ?_
            have closer := acyclic.card_below_lt (get?_of_mem member)
            by_cases here : binding.2 = name
            · rw [here] at closer
              have further : aliases.collect time binding.1 =
                  some (aliases.aliasesWithin steps binding.1) :=
                inductionHypothesis (by omega) (by omega)
              simp [here, further]
            · simp [here]
          rw [collect, parts, aliasesWithin, List.flatMap_def]
          rfl

/-- In more steps than there are bindings the collection ends with the alias list of the
registry. -/
theorem Acyclic.collect_eq (acyclic : aliases.Acyclic) {time : Nat} (inTime : aliases.size < time)
    (name : String) : aliases.collect time name = some (aliases.aliasesOf name) := by
  have size := aliases.card_below_le name
  exact acyclic.collect_eq_aliasesWithin size (by omega)

/-- The search for a chain finds exactly the paths of bindings. -/
theorem Acyclic.leadsToWithin_iff (acyclic : aliases.Acyclic) (steps : Nat)
    (name aliasName : String) (enough : (aliases.below name).card ≤ steps) :
    aliases.leadsToWithin name aliasName steps = true ↔ Reaches aliases aliasName name := by
  induction steps generalizing name with
  | zero =>
      rw [leadsToWithin, reaches_iff_last]
      refine ⟨fun found => absurd found Bool.false_ne_true, ?_⟩
      rintro ⟨last, bound, _⟩
      have member := (SortedMap.get?_eq_some_iff aliases _ _).mp bound
      exact absurd rfl (acyclic.target_ne enough member)
  | succ steps inductionHypothesis =>
      have further {last : String} (bound : aliases.get? last = some name) :
          aliases.leadsToWithin last aliasName steps = true ↔ Reaches aliases aliasName last :=
        inductionHypothesis last (by have closer := acyclic.card_below_lt bound; omega)
      rw [leadsToWithin, reaches_iff_last, List.any_eq_true]
      constructor
      · rintro ⟨⟨last, target⟩, member, found⟩
        have bound := get?_of_mem member
        simp only [Bool.and_eq_true, beq_iff_eq, Bool.or_eq_true] at found bound
        obtain ⟨rfl, found⟩ := found
        exact ⟨last, bound, found.imp id (further bound).mp⟩
      · rintro ⟨last, bound, path⟩
        refine ⟨(last, name), (SortedMap.get?_eq_some_iff aliases _ _).mp bound, ?_⟩
        simpa [further bound] using path

/-- The check of the registry finds every path and invents none. -/
theorem Acyclic.leadsTo_iff (acyclic : aliases.Acyclic) (name aliasName : String) :
    aliases.leadsTo name aliasName = true ↔ Reaches aliases aliasName name :=
  acyclic.leadsToWithin_iff aliases.size name aliasName (aliases.card_below_le name)

end BeanContainer.AliasMap

namespace BeanContainer.Registry

/-! No request closes a cycle. -/

/-- No change closes a cycle. -/
theorem Change.acyclic {first second : Registry} (change : Change first second)
    (acyclic : first.aliases.Acyclic) : second.aliases.Acyclic := by
  cases change with
  | bind definition free => exact acyclic.erase _
  | unbind known => exact acyclic
  | setOverriding allow => exact acyclic
  | @connect name aliasName free =>
      unfold Registry.connect
      dsimp only
      split
      · exact acyclic.erase _
      · rename_i different
        obtain ⟨_, (same | already) | ⟨_, noCycle⟩⟩ := (aliasFault?_eq_none_iff _ _ _).mp free
        · exact absurd same different
        · rw [SortedMap.insert_eq_self already]
          exact acyclic
        · obtain ⟨notFound, _⟩ := Bool.or_eq_false_iff.mp noCycle
          refine acyclic.insert different fun path => ?_
          rw [(acyclic.leadsTo_iff aliasName name).mpr path] at notFound
          contradiction

/-- Without bindings there is no cycle. -/
theorem empty_acyclic (allowOverriding : Bool) :
    (Registry.empty allowOverriding).aliases.Acyclic := by
  intro name path
  obtain ⟨last, bound, _⟩ := AliasMap.reaches_iff_last.mp path
  contradiction

/-- No run of requests closes a cycle. -/
theorem Reachable.acyclic {registry : Registry} (reachable : registry.Reachable) :
    registry.aliases.Acyclic :=
  reachable.invariant (empty_acyclic false) fun _ _ => Change.acyclic

/-- In every registry that a run of requests can lead to, no name comes back to itself, all three
walks along the bindings end within one step more than there are bindings, and the canonical name
is no alias. -/
theorem run_walks_end (requests : List Request) :
    let registry := Registry.empty.run requests
    registry.aliases.Acyclic ∧
      (∀ time, registry.aliases.size < time →
        (∀ name, registry.aliases.walk time name = some (registry.canonicalName name)) ∧
        (∀ name aliasName, registry.aliases.search aliasName time name =
          some (registry.aliases.leadsTo name aliasName)) ∧
        ∀ name, registry.aliases.collect time name = some (registry.aliasesOf name)) ∧
      ∀ name, registry.isAlias (registry.canonicalName name) = false := by
  intro registry
  have acyclic : registry.aliases.Acyclic := Reachable.acyclic ⟨requests, rfl⟩
  refine ⟨acyclic, fun time inTime => ?_, fun name => ?_⟩
  · exact ⟨acyclic.walk_eq inTime, acyclic.search_eq inTime, acyclic.collect_eq inTime⟩
  · have unbound := acyclic.get?_canonicalName name
    simp [isAlias, SortedMap.contains, canonicalName, unbound]

end BeanContainer.Registry
