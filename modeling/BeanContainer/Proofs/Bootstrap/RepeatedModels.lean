/-
This file compares the loading of a model with that of one in which classes and methods come up
again. A class that comes up again has to be a component, or it is refused.
-/

import BeanContainer.Proofs.Bootstrap.Outlines
import BeanContainer.Proofs.Registration.RepeatedMethods

namespace BeanContainer

/-! Names. -/

namespace DefinitionReader

variable {scopes : ScopeResolver} {noted : SortedMap String}
  {state left : RegistrationState MetaTypeCache}

/-- Naming a class replaces no definition and forgets no type. -/
theorem nameOf_grows (metadata : ClassMetadata) {beanName : String}
    (done : (nameOf ⟨Naming.byAnnotations, scopes⟩ noted metadata).run state = .ok beanName left) :
    state.Grows left := by
  cases known : noted.get? metadata.className with
  | some other =>
      rw [nameOf_run_of_noted known] at done
      cases done
      exact refl_of RegistrationState.Grows state
  | none =>
      obtain ⟨holder, registered, _⟩ :=
        (nameOf_eq_ok_iff { id := 0, metadata, beanMethods := [] } known).mp done
      exact registerConfiguration_grows registered

/-- Classes whose names are noted take these names and change nothing. -/
theorem mapM_nameOf_of_noted {classes : List ClassMetadata}
    (known : ∀ metadata ∈ classes, noted.contains metadata.className = true) :
    ∃ names, List.Forall₂ (fun metadata beanName =>
        noted.get? metadata.className = some beanName) classes names ∧
      ∀ state, (classes.mapM (nameOf ⟨Naming.byAnnotations, scopes⟩ noted)).run state =
        .ok names state := by
  induction classes with
  | nil => exact ⟨[], .nil, fun _ => rfl⟩
  | cons metadata rest inductionHypothesis =>
      obtain ⟨here, later⟩ := List.forall_mem_cons.mp known
      obtain ⟨beanName, found⟩ := Option.isSome_iff_exists.mp here
      obtain ⟨names, all, runs⟩ := inductionHypothesis later
      refine ⟨beanName :: names, .cons found all, fun state => ?_⟩
      exact run_mapM_cons_eq_ok_iff.mpr
        ⟨beanName, state, names, nameOf_run_of_noted found state, runs state, rfl⟩

/-- A class has the name that is noted for it. -/
theorem eq_of_noted {classes : List ClassMetadata} {names : List String}
    (done : (classes.mapM (nameOf ⟨Naming.byAnnotations, scopes⟩ noted)).run state =
      .ok names left)
    {metadata : ClassMetadata} {beanName other : String}
    (listed : (metadata, other) ∈ classes.zip names)
    (known : noted.get? metadata.className = some beanName) : other = beanName := by
  induction classes generalizing state names with
  | nil => contradiction
  | cons first rest inductionHypothesis =>
      obtain ⟨here, middle, later, begun, ended, rfl⟩ := run_mapM_cons_eq_ok_iff.mp done
      rw [List.zip_cons_cons] at listed
      obtain same | listed := List.mem_cons.mp listed
      · cases same
        rw [nameOf_run_of_noted known] at begun
        cases begun
        rfl
      · exact inductionHypothesis ended listed

/-- A class that comes up again has to have a name already. -/
theorem noted_of_mapM {classes repeated : List ClassMetadata} (within : repeated ⊆ classes)
    (fixedNames : state.registry.allowOverriding = false)
    {middle : RegistrationState MetaTypeCache} {names copies : List String}
    (begun : (classes.mapM (nameOf ⟨Naming.byAnnotations, scopes⟩ noted)).run state =
      .ok names middle)
    (ended : (repeated.mapM (nameOf ⟨Naming.byAnnotations, scopes⟩ noted)).run middle =
      .ok copies left) :
    ∀ metadata ∈ repeated, noted.contains metadata.className = true := by
  intro metadata member
  by_contra unknown
  rw [SortedMap.contains, Option.not_isSome_iff_eq_none] at unknown
  obtain ⟨before, _, after, earlier, first, further⟩ :=
    exists_turn_of_mapM (fun metadata => nameOf_grows metadata) begun (within member)
  obtain ⟨again, _, _, later, second, _⟩ :=
    exists_turn_of_mapM (fun metadata => nameOf_grows metadata) ended member
  let configuration : ConfigurationClass := { id := 0, metadata, beanMethods := [] }
  obtain ⟨_, registered, _⟩ := (nameOf_eq_ok_iff configuration unknown).mp first
  obtain ⟨_, registeredAgain, _⟩ := (nameOf_eq_ok_iff configuration unknown).mp second
  have fixedBefore := (earlier.registry fixedNames).fixedNames
  exact registerConfiguration_once fixedBefore registered
    (trans_of RegistrationState.Grows further later) registeredAgain

end DefinitionReader

/-! Models. -/

/-- In two lists of one length each item of the first has a neighbour in the second. -/
theorem exists_mem_zip {First Second : Type} {firsts : List First} {seconds : List Second}
    (sameLength : firsts.length = seconds.length) {first : First} (member : first ∈ firsts) :
    ∃ second, (first, second) ∈ firsts.zip seconds := by
  rw [← List.map_fst_zip (Nat.le_of_eq sameLength)] at member
  obtain ⟨⟨_, second⟩, listed, rfl⟩ := List.mem_map.mp member
  exact ⟨second, listed⟩

/-- A model in which classes and methods come up again that it has already. The classes that are added
to it stand at its end. -/
structure Repetition where
  classes : List ClassMetadata
  methods : ClassMetadata → List MethodMetadata
  classesAgain : List ClassMetadata
  methodsAgain : ClassMetadata → List MethodMetadata
  added : List ClassOutline
  classesAgain_subset : classesAgain ⊆ classes
  methodsAgain_subset : ∀ metadata, methodsAgain metadata ⊆ methods metadata

namespace Repetition

variable (repetition : Repetition)

def once : List ClassOutline :=
  repetition.classes.map (fun metadata => ⟨metadata, repetition.methods metadata⟩) ++
    repetition.added

def longer (metadata : ClassMetadata) : ClassOutline :=
  ⟨metadata, repetition.methods metadata ++ repetition.methodsAgain metadata⟩

def twice : List ClassOutline :=
  repetition.classes.map repetition.longer ++ repetition.classesAgain.map repetition.longer ++
    repetition.added

/-- Where nothing comes up again both models are the same. -/
theorem twice_eq_once {repetition : Repetition} (noneAgain : repetition.classesAgain = [])
    (noMethods : ∀ metadata ∈ repetition.classes, repetition.methodsAgain metadata = []) :
    repetition.twice = repetition.once := by
  have same : repetition.classes.map repetition.longer =
      repetition.classes.map fun metadata => ⟨metadata, repetition.methods metadata⟩ := by
    apply List.map_congr_left
    intro metadata listed
    rw [longer, noMethods metadata listed, List.append_nil]
  rw [twice, once, same, noneAgain, List.map_nil, List.append_nil]

/-- The method comes up again by itself or with its class. -/
def RepeatsMethod (metadata : ClassMetadata) (method : MethodMetadata) : Prop :=
  metadata ∈ repetition.classes ∧ method ∈ repetition.methodsAgain metadata ∨
    metadata ∈ repetition.classesAgain ∧ method ∈ repetition.methods metadata

/-- No method that comes up again has its bean behind a proxy. -/
def Unproxied (registry : Registry) : Prop :=
  ∀ metadata (method : BeanMethod), repetition.RepeatsMethod metadata method.metadata →
    ∀ beanName definition, method.DerivesName beanName →
      registry.definition? beanName = some definition → definition.proxyTarget? = none

/-- The methods that come up again where the classes have these names. -/
def entriesAgain (names copies : List String) : List (ConfigurationClass × BeanMethod) :=
  ClassOutline.allEntries (repetition.classes.map fun metadata =>
      ⟨metadata, repetition.methodsAgain metadata⟩) names ++
    ClassOutline.allEntries (repetition.classesAgain.map repetition.longer) copies

/-- The longer classes have the methods of the plain ones and repetitions of them. -/
theorem repeats_methods (classes : List ClassMetadata) (names : List String)
    (seen : List (ConfigurationClass × BeanMethod)) :
    Repeats seen
      (ClassOutline.allEntries (classes.map fun metadata =>
        ⟨metadata, repetition.methods metadata⟩) names)
      (ClassOutline.allEntries (classes.map repetition.longer) names)
      (ClassOutline.allEntries (classes.map fun metadata =>
        ⟨metadata, repetition.methodsAgain metadata⟩) names) := by
  induction classes generalizing names seen with
  | nil => exact .nil seen
  | cons metadata rest inductionHypothesis =>
      cases names with
      | nil => exact .nil seen
      | cons beanName others =>
          let request := ClassOutline.entryOf metadata beanName
          have within : (repetition.methodsAgain metadata).map request ⊆
              (repetition.methods metadata).map request :=
            List.map_subset request (repetition.methodsAgain_subset metadata)
          have here := (Repeats.refl seen ((repetition.methods metadata).map request)).append
            (.of_subset (List.Subset.trans within (List.subset_append_left _ seen)))
          rw [List.append_nil, List.nil_append, ← List.map_append] at here
          simp only [List.map_cons, ClassOutline.allEntries_cons]
          exact here.append (inductionHypothesis others _)

/-- A longer class has no method that the plain one has not. -/
theorem mem_longer_iff {metadata : ClassMetadata} {method : MethodMetadata} :
    method ∈ (repetition.longer metadata).methods ↔ method ∈ repetition.methods metadata := by
  rw [longer, List.mem_append]
  exact or_iff_left_of_imp fun again => repetition.methodsAgain_subset metadata again

/-- A longer class is the same class with more methods. -/
theorem longer_eq : repetition.longer =
    fun metadata => ⟨metadata, (repetition.longer metadata).methods⟩ := rfl

/-- Where a class that comes up again keeps its name, all its methods come up again. -/
theorem repeats_entries {names copies : List String} (lasts : List String)
    (sameLength : repetition.classes.length = names.length)
    (sameCopies : repetition.classesAgain.length = copies.length)
    (sameNames : repetition.classesAgain.zip copies ⊆ repetition.classes.zip names) :
    Repeats [] (ClassOutline.allEntries repetition.once (names ++ lasts))
      (ClassOutline.allEntries repetition.twice (names ++ copies ++ lasts))
      (repetition.entriesAgain names copies) := by
  have ofClasses := repetition.repeats_methods repetition.classes names []
  have within : ClassOutline.allEntries (repetition.classesAgain.map repetition.longer) copies ⊆
      ClassOutline.allEntries (repetition.classes.map fun metadata =>
        ⟨metadata, repetition.methods metadata⟩) names ++ [] := by
    rw [List.append_nil, longer_eq]
    intro entry member
    rw [ClassOutline.mem_allEntries_map_iff] at member ⊢
    obtain ⟨metadata, beanName, listed, method, ofClass, rfl⟩ := member
    exact ⟨metadata, beanName, sameNames listed, method, repetition.mem_longer_iff.mp ofClass, rfl⟩
  have all := (ofClasses.append (.of_subset within)).append
    (.refl _ (ClassOutline.allEntries repetition.added lasts))
  rw [List.append_nil, List.append_nil] at all
  rwa [once, twice, entriesAgain, ClassOutline.allEntries_append (by simpa using sameLength),
    ClassOutline.allEntries_append (by simp [sameLength, sameCopies]),
    ClassOutline.allEntries_append (by simpa using sameLength)]

/-- Each class has a name, so just the methods of such classes are listed. -/
theorem forall_entriesAgain_iff {names copies : List String}
    (sameLength : repetition.classes.length = names.length)
    (sameCopies : repetition.classesAgain.length = copies.length)
    (Holds : MethodMetadata → Prop) :
    (∀ entry ∈ repetition.entriesAgain names copies, Holds entry.2.metadata) ↔
      ∀ metadata method, repetition.RepeatsMethod metadata method → Holds method := by
  unfold entriesAgain
  rw [longer_eq]
  constructor
  · rintro all metadata method (⟨listed, again⟩ | ⟨listed, ofClass⟩)
    · obtain ⟨beanName, named⟩ := exists_mem_zip sameLength listed
      exact all _ (List.mem_append_left _ (ClassOutline.mem_allEntries_map_iff.mpr
        ⟨metadata, beanName, named, method, again, rfl⟩))
    · obtain ⟨beanName, named⟩ := exists_mem_zip sameCopies listed
      exact all _ (List.mem_append_right _ (ClassOutline.mem_allEntries_map_iff.mpr
        ⟨metadata, beanName, named, method, repetition.mem_longer_iff.mpr ofClass, rfl⟩))
  · intro all entry member
    obtain ofMethods | ofClasses := List.mem_append.mp member
    · obtain ⟨metadata, _, named, method, again, rfl⟩ :=
        ClassOutline.mem_allEntries_map_iff.mp ofMethods
      exact all metadata method (Or.inl ⟨(List.of_mem_zip named).1, again⟩)
    · obtain ⟨metadata, _, named, method, ofClass, rfl⟩ :=
        ClassOutline.mem_allEntries_map_iff.mp ofClasses
      exact all metadata method
        (Or.inr ⟨(List.of_mem_zip named).1, repetition.mem_longer_iff.mp ofClass⟩)

/-! Loading. -/

variable {repetition} {noted : SortedMap String} {first last : Registry}

open Bootstrap

/-- The model holds its classes and then those that are added to it. -/
theorem metadata_once : repetition.once.map ClassOutline.metadata =
    repetition.classes ++ repetition.added.map ClassOutline.metadata := by
  simp [once, Function.comp_def]

/-- The longer model holds its classes, then those that come up again, and then the added ones. -/
theorem metadata_twice : repetition.twice.map ClassOutline.metadata =
    repetition.classes ++ repetition.classesAgain ++
      repetition.added.map ClassOutline.metadata := by
  simp [twice, longer, Function.comp_def]

section Named

variable {state left : RegistrationState MetaTypeCache} {names copies lasts : List String}
  (begun : (repetition.classes.mapM (annotationReader.nameOf noted)).run state = .ok names left)
  (known : List.Forall₂ (fun metadata beanName => noted.get? metadata.className = some beanName)
    repetition.classesAgain copies)

include begun known

/-- A class that comes up again takes the name that it was given first. -/
theorem zip_classesAgain_subset :
    repetition.classesAgain.zip copies ⊆ repetition.classes.zip names := by
  rintro ⟨metadata, beanName⟩ listed
  have found := List.forall₂_zip known listed
  have member := repetition.classesAgain_subset (List.of_mem_zip listed).1
  obtain ⟨other, named⟩ := exists_mem_zip (length_of_mapM begun).symm member
  rwa [DefinitionReader.eq_of_noted begun named found] at named

/-- The methods of the longer model are accepted just if those of the plain one are and no repeated
method asks for a proxy. -/
theorem registerAll_twice_iff (fixedNames : first.allowOverriding = false)
    (unproxied : (∃ products, (BeanMethod.registerAll {} (ClassOutline.allEntries repetition.once
      (names ++ lasts))).run first = .ok products last) → last.ProductsUnproxied) :
    (∃ products, (BeanMethod.registerAll {} (ClassOutline.allEntries repetition.twice
        (names ++ copies ++ lasts))).run first = .ok products last) ↔
      (∃ products, (BeanMethod.registerAll {} (ClassOutline.allEntries repetition.once
        (names ++ lasts))).run first = .ok products last) ∧ repetition.Unproxied last := by
  have sameLength := (length_of_mapM begun).symm
  have repeats := repetition.repeats_entries lasts sameLength known.length_eq
    (zip_classesAgain_subset begun known)
  rw [BeanMethod.registerAll_repeats_iff repeats fixedNames (List.forall_mem_nil _)]
  refine and_congr_right fun ⟨products, done⟩ => ?_
  have plain := unproxied ⟨products, done⟩
  have skipped (entry : ConfigurationClass × BeanMethod)
      (member : entry ∈ repetition.entriesAgain names copies) :=
    (BeanMethod.settled_of_registerAll fixedNames done entry
      (by simpa using repeats.repeated_subset member)).skipped_iff_unproxied plain
  refine (forall₂_congr skipped).trans ?_
  refine (repetition.forall_entriesAgain_iff sameLength known.length_eq fun method =>
    ∀ beanName definition, BeanMethod.DerivesName ⟨method, 0⟩ beanName →
      last.definition? beanName = some definition → definition.proxyTarget? = none).trans ?_
  constructor
  · intro all metadata method again
    exact all metadata method.metadata again
  · intro all metadata method again
    exact all metadata ⟨method, 0⟩ again

end Named

/-- With the repetition the model is loaded as without it, if every class that comes up again is a
component and no method that comes up again has its bean behind a proxy. Otherwise it is refused. -/
theorem loads_twice_iff (fixedNames : first.allowOverriding = false)
    (unproxied : Loads noted repetition.once first last → last.ProductsUnproxied) :
    Loads noted repetition.twice first last ↔
      Loads noted repetition.once first last ∧
        (∀ metadata ∈ repetition.classesAgain, noted.contains metadata.className = true) ∧
        repetition.Unproxied last := by
  unfold Loads at unproxied ⊢
  rw [metadata_twice]
  rw [metadata_once] at unproxied ⊢
  have fixedAfterNames {classes : List ClassMetadata} {names : List String}
      {left : RegistrationState MetaTypeCache}
      (done : (classes.mapM (annotationReader.nameOf noted)).run ⟨first, {}⟩ = .ok names left) :
      first.Extends left.registry :=
    (related_of_mapM (fun metadata => DefinitionReader.nameOf_grows metadata) done).registry
      fixedNames
  constructor
  · rintro ⟨_, final, products, named, done⟩
    obtain ⟨_, between, lasts, earlier, ended, rfl⟩ := run_mapM_append_eq_ok_iff.mp named
    obtain ⟨names, middle, copies, begun, again, rfl⟩ := run_mapM_append_eq_ok_iff.mp earlier
    have components := DefinitionReader.noted_of_mapM repetition.classesAgain_subset fixedNames
      begun again
    -- All that comes up again is a component, so the names are given as they are without it.
    obtain ⟨_, known, runs⟩ := DefinitionReader.mapM_nameOf_of_noted components
    obtain ⟨rfl, rfl⟩ := EStateM.Result.ok.inj (again.symm.trans (runs middle))
    have likewise := run_mapM_append_eq_ok_iff.mpr ⟨names, between, lasts, begun, ended, rfl⟩
    have fixedAfter := (fixedAfterNames likewise).fixedNames
    obtain ⟨⟨_, registered⟩, plain⟩ := (registerAll_twice_iff begun known fixedAfter
      fun ⟨_, registered⟩ => unproxied ⟨_, final, _, likewise, registered⟩).mp ⟨products, done⟩
    exact ⟨⟨_, final, _, likewise, registered⟩, components, plain⟩
  · rintro ⟨⟨_, final, products, named, done⟩, components, plain⟩
    obtain ⟨names, middle, lasts, begun, ended, rfl⟩ := run_mapM_append_eq_ok_iff.mp named
    obtain ⟨copies, known, runs⟩ := DefinitionReader.mapM_nameOf_of_noted components
    have fixedAfter := (fixedAfterNames named).fixedNames
    obtain ⟨_, registered⟩ := (registerAll_twice_iff begun known fixedAfter
      fun ⟨_, registered⟩ => unproxied ⟨_, final, _, named, registered⟩).mpr
        ⟨⟨products, done⟩, plain⟩
    have likewise := run_mapM_append_eq_ok_iff.mpr ⟨names, middle, copies, begun, runs middle, rfl⟩
    exact ⟨_, final, _, run_mapM_append_eq_ok_iff.mpr
      ⟨_, middle, lasts, likewise, ended, rfl⟩, registered⟩

/-! Problems. -/

/-- Nothing that comes up again has a problem. -/
def Flawless (repetition : Repetition) : Prop :=
  (∀ metadata ∈ repetition.classesAgain,
      metadata.isFullConfiguration = true → metadata.isFinal = false) ∧
    ∀ metadata method, repetition.RepeatsMethod metadata method →
      ClassOutline.methodProblems metadata method = []

/-- The problems of a class, and then those of the methods that come up again. -/
theorem problems_longer (metadata : ClassMetadata) :
    (repetition.longer metadata).problems =
      ClassOutline.problems ⟨metadata, repetition.methods metadata⟩ ++
        (repetition.methodsAgain metadata).flatMap (ClassOutline.methodProblems metadata) :=
  ClassOutline.problems_append metadata _ _

/-- A longer class is without problems just if the plain one is. -/
theorem problems_longer_eq_nil_iff (metadata : ClassMetadata) :
    (repetition.longer metadata).problems = [] ↔
      ClassOutline.problems ⟨metadata, repetition.methods metadata⟩ = [] := by
  rw [ClassOutline.problems_eq_nil_iff, ClassOutline.problems_eq_nil_iff]
  simp only [repetition.mem_longer_iff]
  rfl

/-- The problems of the model are those of its classes and then those of the added ones. -/
theorem problems_once :
    repetition.once.flatMap ClassOutline.problems =
      (repetition.classes.flatMap fun metadata =>
          ClassOutline.problems ⟨metadata, repetition.methods metadata⟩) ++
        repetition.added.flatMap ClassOutline.problems := by
  rw [once, List.flatMap_append, List.flatMap_map]

/-- The problems of the longer model are those of the longer classes, first, again and added. -/
theorem problems_twice :
    repetition.twice.flatMap ClassOutline.problems =
      (repetition.classes.flatMap fun metadata => (repetition.longer metadata).problems) ++
        (repetition.classesAgain.flatMap fun metadata => (repetition.longer metadata).problems) ++
        repetition.added.flatMap ClassOutline.problems := by
  rw [twice, List.flatMap_append, List.flatMap_append, List.flatMap_map, List.flatMap_map]

/-- The longer model is without problems just if the plain one is. -/
theorem problems_twice_eq_nil_iff :
    repetition.twice.flatMap ClassOutline.problems = [] ↔
      repetition.once.flatMap ClassOutline.problems = [] := by
  rw [problems_once, problems_twice]
  simp only [List.append_eq_nil_iff, List.flatMap_eq_nil_iff, problems_longer_eq_nil_iff]
  refine and_congr_left fun _ => and_iff_left_of_imp fun unproblematic metadata again => ?_
  exact unproblematic metadata (repetition.classesAgain_subset again)

/-- What comes up again is flawless just if it adds no problem of its own. -/
theorem flawless_iff :
    repetition.Flawless ↔
      (∀ metadata ∈ repetition.classes, (repetition.methodsAgain metadata).flatMap
          (ClassOutline.methodProblems metadata) = []) ∧
        ∀ metadata ∈ repetition.classesAgain, (repetition.longer metadata).problems = [] := by
  simp only [problems_longer_eq_nil_iff]
  simp only [ClassOutline.problems_eq_nil_iff, List.flatMap_eq_nil_iff]
  constructor
  · rintro ⟨ofClasses, ofMethods⟩
    exact ⟨fun metadata listed method again => ofMethods metadata method (Or.inl ⟨listed, again⟩),
      fun metadata listed => ⟨ofClasses metadata listed,
        fun method ofClass => ofMethods metadata method (Or.inr ⟨listed, ofClass⟩)⟩⟩
  · rintro ⟨ofMethods, ofClasses⟩
    refine ⟨fun metadata listed => (ofClasses metadata listed).1, ?_⟩
    rintro metadata method (⟨listed, again⟩ | ⟨listed, ofClass⟩)
    · exact ofMethods metadata listed method again
    · exact (ofClasses metadata listed).2 method ofClass

/-- The problems stay the same just where nothing that comes up again has one, for no problem is
dropped. -/
theorem problems_twice_eq_iff :
    repetition.twice.flatMap ClassOutline.problems =
        repetition.once.flatMap ClassOutline.problems ↔
      repetition.Flawless := by
  rw [problems_once, problems_twice, flawless_iff]
  constructor
  · intro same
    have sameLength := congrArg List.length same
    have shared := (List.flatMap_append_perm repetition.classes
      (fun metadata => ClassOutline.problems ⟨metadata, repetition.methods metadata⟩)
      fun metadata => (repetition.methodsAgain metadata).flatMap
        (ClassOutline.methodProblems metadata)).length_eq
    simp only [← problems_longer, List.length_append] at shared sameLength
    rw [← List.flatMap_eq_nil_iff, ← List.flatMap_eq_nil_iff, ← List.length_eq_zero_iff,
      ← List.length_eq_zero_iff]
    omega
  · rintro ⟨ofMethods, ofClasses⟩
    rw [List.flatMap_eq_nil_iff.mpr ofClasses, List.append_nil]
    apply congrArg (· ++ repetition.added.flatMap ClassOutline.problems)
    apply List.flatMap_congr
    intro metadata listed
    rw [problems_longer, ofMethods metadata listed, List.append_nil]

end Repetition

end BeanContainer
