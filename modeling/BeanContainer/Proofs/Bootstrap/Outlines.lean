/-
This file says what the loading of a model comes to once the places are erased by which its classes
and methods are numbered: each class gets a name, and then each method is registered for its class
under that name.
-/

import BeanContainer.Proofs.Bootstrap.Assembly
import BeanContainer.Proofs.Bootstrap.Outcome
import BeanContainer.Proofs.Registration.RepeatedClasses

namespace BeanContainer

/-- A class of a model without its place and its name. -/
structure ClassOutline where
  metadata : ClassMetadata
  methods : List MethodMetadata

def ConfigurationClass.outline (configuration : ConfigurationClass) : ClassOutline :=
  ⟨configuration.metadata, configuration.beanMethods.map BeanMethod.metadata⟩

def ConfigurationClass.withName (configuration : ConfigurationClass) (beanName : String) :
    ConfigurationClass :=
  { configuration with beanName := some beanName }

/-! Methods. -/

namespace BeanMethod

/-- The method and its class without their places. -/
def unplaced (entry : ConfigurationClass × BeanMethod) : ConfigurationClass × BeanMethod :=
  ({ entry.1 with id := 0, beanMethods := [] }, { entry.2 with configurationClass := 0 })

/-- The places have no part in what is registered. -/
theorem registerAll_unplaced (scopes : ScopeResolver)
    (methods : List (ConfigurationClass × BeanMethod)) :
    registerAll scopes (methods.map unplaced) = registerAll scopes methods := by
  unfold registerAll
  rw [List.mapM_map]
  rfl

end BeanMethod

namespace ClassOutline

/-- A method of the class, which is registered under this name. -/
def entryOf (metadata : ClassMetadata) (beanName : String) (method : MethodMetadata) :
    ConfigurationClass × BeanMethod :=
  ({ id := 0, metadata, beanName := some beanName, beanMethods := [] },
    { metadata := method, configurationClass := 0 })

def entries (outline : ClassOutline) (beanName : String) :
    List (ConfigurationClass × BeanMethod) :=
  outline.methods.map (entryOf outline.metadata beanName)

/-- The methods of all classes. -/
def allEntries (outlines : List ClassOutline) (names : List String) :
    List (ConfigurationClass × BeanMethod) :=
  (outlines.zip names).flatMap fun named => named.1.entries named.2

/-- The methods of the first class come first. -/
theorem allEntries_cons (outline : ClassOutline) (outlines : List ClassOutline) (beanName : String)
    (names : List String) :
    allEntries (outline :: outlines) (beanName :: names) =
      outline.entries beanName ++ allEntries outlines names := by
  unfold allEntries
  rw [List.zip_cons_cons, List.flatMap_cons]

/-- The methods of two lists of classes come one list after the other. -/
theorem allEntries_append {outlines others : List ClassOutline} {names later : List String}
    (sameLength : outlines.length = names.length) :
    allEntries (outlines ++ others) (names ++ later) =
      allEntries outlines names ++ allEntries others later := by
  unfold allEntries
  rw [List.zip_append sameLength, List.flatMap_append]

/-- An entry is a method of some class together with the name that stands beside the class. -/
theorem mem_allEntries_map_iff {classes : List ClassMetadata}
    {methods : ClassMetadata → List MethodMetadata} {names : List String}
    {entry : ConfigurationClass × BeanMethod} :
    entry ∈ allEntries (classes.map fun metadata => ⟨metadata, methods metadata⟩) names ↔
      ∃ metadata beanName, (metadata, beanName) ∈ classes.zip names ∧
        ∃ method ∈ methods metadata, entry = entryOf metadata beanName method := by
  unfold allEntries entries
  rw [List.zip_map_left, List.flatMap_map]
  simp [eq_comm]

/-- The entries of an outline are the methods of the named class without their places. -/
theorem entries_withName (configuration : ConfigurationClass) (beanName : String) :
    configuration.outline.entries beanName =
      ((configuration.withName beanName).beanMethods.map fun method =>
        (configuration.withName beanName, method)).map BeanMethod.unplaced := by
  unfold entries ConfigurationClass.outline
  rw [List.map_map, List.map_map]
  rfl

/-- The entries of all outlines are the methods of the named model without their places. -/
theorem allEntries_withName (classes : List ConfigurationClass) (names : List String) :
    allEntries (classes.map ConfigurationClass.outline) names =
      (ConfigurationModel.methods ⟨List.zipWith ConfigurationClass.withName classes names⟩).map
        BeanMethod.unplaced := by
  unfold ConfigurationModel.methods
  induction classes generalizing names with
  | nil => rfl
  | cons configuration rest inductionHypothesis =>
      cases names with
      | nil => rfl
      | cons beanName others =>
          rw [List.map_cons, allEntries_cons, List.zipWith_cons_cons, List.flatMap_cons,
            List.map_append, entries_withName, inductionHypothesis]

end ClassOutline

/-! Names. -/

/-- A name that is set by the place of a class reaches just that class. -/
theorem ConfigurationModel.setBeanName_append (earlier later : List ConfigurationClass)
    (configuration : ConfigurationClass) (beanName : String) :
    setBeanName ⟨earlier ++ configuration :: later⟩ earlier.length beanName =
      ⟨earlier ++ configuration.withName beanName :: later⟩ := by
  unfold setBeanName
  apply congrArg ConfigurationModel.mk
  dsimp only
  induction earlier with
  | nil => rfl
  | cons first rest inductionHypothesis =>
      rw [List.cons_append, List.length_cons, List.modify_succ_cons, inductionHypothesis,
        List.cons_append]

namespace DefinitionReader

variable {Memory : Type} {reader : DefinitionReader Memory}

/-- A class that is registered as a component has the name that is noted for it, and any other class
is registered. -/
def nameOf (reader : DefinitionReader Memory) (noted : SortedMap String)
    (metadata : ClassMetadata) : RegistrationM Memory String :=
  match noted.get? metadata.className with
  | some beanName => return beanName
  | none => do
      let holder ← reader.registerConfiguration { id := 0, metadata, beanMethods := [] }
      return holder.beanName

/-- Naming a class is registering it and noting its name in the model. -/
theorem nameConfiguration_eq_ok_iff {configuration : ConfigurationClass}
    {holder : BeanDefinitionHolder} {state left : LoadingState Memory} :
    (reader.nameConfiguration configuration).run state = .ok holder left ↔
      ∃ registration,
        (reader.registerConfiguration configuration).run state.registration =
            .ok holder registration ∧
          left = ⟨registration, state.model.setBeanName configuration.id holder.beanName⟩ := by
  unfold nameConfiguration
  rw [run_bind_eq_ok_iff]
  constructor
  · rintro ⟨_, _, begun, rest⟩
    obtain ⟨registration, registered, rfl⟩ := LoadingM.onRegistration_eq_ok_iff.mp begun
    cases rest
    exact ⟨registration, registered, rfl⟩
  · rintro ⟨registration, registered, rfl⟩
    exact ⟨holder, _, LoadingM.onRegistration_eq_ok_iff.mpr ⟨registration, registered, rfl⟩, rfl⟩

/-- A name that is noted is taken without a registration. -/
theorem nameOf_run_of_noted {noted : SortedMap String} {metadata : ClassMetadata}
    {beanName : String} (known : noted.get? metadata.className = some beanName)
    (registration : RegistrationState Memory) :
    (reader.nameOf noted metadata).run registration = .ok beanName registration := by
  unfold nameOf
  rw [known]
  rfl

/-- A class without a noted name is registered, and its bean gives the name. -/
theorem nameOf_eq_ok_iff {noted : SortedMap String} (configuration : ConfigurationClass)
    (unknown : noted.get? configuration.className = none)
    {registration left : RegistrationState Memory} {beanName : String} :
    (reader.nameOf noted configuration.metadata).run registration = .ok beanName left ↔
      ∃ holder, (reader.registerConfiguration configuration).run registration = .ok holder left ∧
        beanName = holder.beanName := by
  have unnoted : noted.get? configuration.metadata.className = none := unknown
  unfold nameOf
  rw [unnoted]
  dsimp only
  rw [run_bind_eq_ok_iff]
  constructor
  · rintro ⟨holder, _, registered, rest⟩
    cases rest
    exact ⟨holder, registered, rfl⟩
  · rintro ⟨holder, registered, rfl⟩
    exact ⟨holder, left, registered, rfl⟩

section Naming

variable {noted : SortedMap String} {registration : RegistrationState Memory}
  {left : LoadingState Memory}

def nameUnnamed (reader : DefinitionReader Memory) (classes : List ConfigurationClass) :
    LoadingM Memory (List BeanDefinitionHolder) :=
  (classes.filter fun configuration => configuration.beanName.isNone).mapM reader.nameConfiguration

/-- The first class is named at its own place, and the others follow. -/
theorem nameUnnamed_cons_iff {earlier rest : List ConfigurationClass}
    {configuration : ConfigurationClass} (here : configuration.id = earlier.length)
    (nameless : configuration.beanName = none) :
    (∃ holders, (reader.nameUnnamed (BootstrapInput.named noted configuration :: rest)).run
        ⟨registration, ⟨earlier ++ BootstrapInput.named noted configuration :: rest⟩⟩ =
          .ok holders left) ↔
      ∃ beanName middle,
        (reader.nameOf noted configuration.metadata).run registration = .ok beanName middle ∧
          ∃ holders, (reader.nameUnnamed rest).run
            ⟨middle, ⟨earlier ++ [configuration.withName beanName] ++ rest⟩⟩ = .ok holders left := by
  unfold nameUnnamed
  cases known : noted.get? configuration.className with
  | some beanName =>
      have sameClass : BootstrapInput.named noted configuration =
          configuration.withName beanName := by
        unfold BootstrapInput.named
        rw [known]
        rfl
      rw [sameClass, List.filter_cons_of_neg (by simp [ConfigurationClass.withName])]
      rw [List.append_cons]
      constructor
      · intro done
        exact ⟨beanName, registration, nameOf_run_of_noted known registration, done⟩
      · rintro ⟨_, _, begun, done⟩
        rw [nameOf_run_of_noted known] at begun
        cases begun
        exact done
  | none =>
      have sameClass : BootstrapInput.named noted configuration = configuration := by
        unfold BootstrapInput.named
        rw [known]
      rw [sameClass, List.filter_cons_of_pos (by simp [nameless])]
      simp only [nameOf_eq_ok_iff configuration known]
      constructor
      · rintro ⟨holders, done⟩
        obtain ⟨holder, middle, later, begun, ended, rfl⟩ := run_mapM_cons_eq_ok_iff.mp done
        obtain ⟨next, registered, rfl⟩ := nameConfiguration_eq_ok_iff.mp begun
        dsimp only at ended
        rw [here, ConfigurationModel.setBeanName_append, List.append_cons] at ended
        exact ⟨_, next, ⟨holder, registered, rfl⟩, later, ended⟩
      · rintro ⟨_, next, ⟨holder, registered, rfl⟩, later, ended⟩
        refine ⟨holder :: later, run_mapM_cons_eq_ok_iff.mpr ⟨holder, _, later,
          nameConfiguration_eq_ok_iff.mpr ⟨next, registered, rfl⟩, ?_, rfl⟩⟩
        dsimp only
        rwa [here, ConfigurationModel.setBeanName_append, List.append_cons]

/-- The classes are named one after the other. -/
theorem nameUnnamed_eq_ok_iff (earlier : List ConfigurationClass)
    {classes : List ConfigurationClass}
    (numbered : ConfigurationModel.Numbered ⟨earlier ++ classes⟩)
    (nameless : ∀ configuration ∈ classes, configuration.beanName = none) :
    (∃ holders, (reader.nameUnnamed (classes.map (BootstrapInput.named noted))).run
        ⟨registration, ⟨earlier ++ classes.map (BootstrapInput.named noted)⟩⟩ = .ok holders left) ↔
      ∃ names later,
        ((classes.map ConfigurationClass.metadata).mapM (reader.nameOf noted)).run registration =
            .ok names later ∧
          left = ⟨later, ⟨earlier ++ List.zipWith ConfigurationClass.withName classes names⟩⟩ := by
  induction classes generalizing earlier registration with
  | nil =>
      constructor
      · rintro ⟨_, done⟩
        cases done
        exact ⟨[], registration, rfl, rfl⟩
      · rintro ⟨_, _, done, rfl⟩
        cases done
        exact ⟨[], rfl⟩
  | cons configuration rest inductionHypothesis =>
      have here : configuration.id = earlier.length := by
        apply numbered
        rw [List.getElem?_append_right (Nat.le_refl _), Nat.sub_self, List.getElem?_cons_zero]
      have renumbered (beanName : String) : ConfigurationModel.Numbered
          ⟨earlier ++ [configuration.withName beanName] ++ rest⟩ := by
        have same := numbered.setBeanName earlier.length beanName
        rwa [ConfigurationModel.setBeanName_append, List.append_cons] at same
      have onwards (beanName : String) (next : RegistrationState Memory) :=
        @inductionHypothesis next _ (renumbered beanName) fun other member =>
          nameless other (List.mem_cons_of_mem _ member)
      rw [List.map_cons, nameUnnamed_cons_iff here (nameless _ List.mem_cons_self)]
      simp only [onwards]
      simp only [List.append_assoc, List.singleton_append]
      constructor
      · rintro ⟨beanName, middle, begun, names, later, ended, rfl⟩
        refine ⟨beanName :: names, later, ?_, ?_⟩
        · exact run_mapM_cons_eq_ok_iff.mpr ⟨beanName, middle, names, begun, ended, rfl⟩
        · rw [List.zipWith_cons_cons]
      · rintro ⟨names, later, done, rfl⟩
        obtain ⟨beanName, middle, others, begun, ended, rfl⟩ := run_mapM_cons_eq_ok_iff.mp done
        refine ⟨beanName, middle, begun, others, later, ended, ?_⟩
        rw [List.zipWith_cons_cons]

end Naming

end DefinitionReader

/-! Problems. -/

namespace ClassOutline

/-- The problems of one method, which belongs to this class. -/
def methodProblems (metadata : ClassMetadata) (method : MethodMetadata) : List Problem :=
  BeanMethod.problems { metadata := method, configurationClass := 0 }
    { classes := [{ id := 0, metadata, beanMethods := [] }] }

/-- The problems of a method are those that its class and its own metadata tell. -/
theorem methodProblems_eq {model : ConfigurationModel} {method : BeanMethod}
    {configuration : ConfigurationClass}
    (found : model.class? method.configurationClass = some configuration) :
    method.problems model = methodProblems configuration.metadata method.metadata := by
  unfold methodProblems BeanMethod.problems BeanMethod.location
  rw [found]
  rfl

/-- A method is without problems unless a full configuration could not override it. -/
theorem methodProblems_eq_nil_iff (metadata : ClassMetadata) (method : MethodMetadata) :
    methodProblems metadata method = [] ↔
      (metadata.isFullConfiguration = true → method.isStatic = false →
        method.isOverridable = true) := by
  have found : ({ classes := [{ id := 0, metadata, beanMethods := [] }] } :
      ConfigurationModel).class? 0 = some { id := 0, metadata, beanMethods := [] } := rfl
  unfold methodProblems BeanMethod.problems
  dsimp only
  rw [found]
  by_cases static : method.isStatic = true
  · simp [static]
  · simp [static, ConfigurationClass.isFull]

def problems (outline : ClassOutline) : List Problem :=
  ConfigurationClass.problems { id := 0, metadata := outline.metadata, beanMethods := [] } ++
    outline.methods.flatMap (methodProblems outline.metadata)

/-- Further methods add their own problems behind the others. -/
theorem problems_append (metadata : ClassMetadata) (methods others : List MethodMetadata) :
    problems ⟨metadata, methods ++ others⟩ =
      problems ⟨metadata, methods⟩ ++ others.flatMap (methodProblems metadata) := by
  simp [problems]

/-- An outline is without problems if its class is and each of its methods is. -/
theorem problems_eq_nil_iff (outline : ClassOutline) :
    outline.problems = [] ↔
      (outline.metadata.isFullConfiguration = true → outline.metadata.isFinal = false) ∧
        ∀ method ∈ outline.methods, methodProblems outline.metadata method = [] := by
  rw [problems, List.append_eq_nil_iff, List.flatMap_eq_nil_iff]
  simp [ConfigurationClass.problems, ConfigurationClass.isFull]

end ClassOutline

namespace ConfigurationModel

/-- Each method knows the place of its class. -/
def Linked (model : ConfigurationModel) : Prop :=
  ∀ configuration ∈ model.classes, ∀ method ∈ configuration.beanMethods,
    method.configurationClass = configuration.id

/-- In a model without classes no method points astray. -/
theorem linked_empty : Linked {} := List.forall_mem_nil _

/-- The methods of a class that is added point to that class. -/
theorem Linked.addClass {model : ConfigurationModel} (linked : model.Linked)
    (metadata : ClassMetadata) (methods : List MethodMetadata) :
    (model.addClass metadata methods).Linked := by
  intro configuration member
  obtain before | added := List.mem_append.mp member
  · exact linked configuration before
  · rw [List.mem_singleton.mp added]
    intro method listed
    obtain ⟨_, _, rfl⟩ := List.mem_map.mp listed
    rfl

/-- The problems of a model can be read off its outlines. -/
theorem problems_outlines {model : ConfigurationModel} (numbered : model.Numbered)
    (linked : model.Linked) :
    model.problems =
      (model.classes.map ConfigurationClass.outline).flatMap ClassOutline.problems := by
  rw [problems, List.flatMap_map]
  apply List.flatMap_congr
  intro configuration member
  obtain ⟨place, found⟩ := List.mem_iff_getElem?.mp member
  rw [ClassOutline.problems, ConfigurationClass.outline, List.flatMap_map]
  apply congrArg (configuration.problems ++ ·)
  apply List.flatMap_congr
  intro method listed
  apply ClassOutline.methodProblems_eq
  rwa [class?, linked configuration member method listed, numbered place configuration found]

end ConfigurationModel

/-! The model of a start. -/

namespace ConfigurationModel

/-- A class that is added comes last, with its own methods. -/
theorem outlines_addClass (model : ConfigurationModel) (metadata : ClassMetadata)
    (methods : List MethodMetadata) :
    (model.addClass metadata methods).classes.map ConfigurationClass.outline =
      model.classes.map ConfigurationClass.outline ++ [⟨metadata, methods⟩] := by
  simp [addClass, ConfigurationClass.outline, Function.comp_def]

/-- What the table says of a class that belongs to its model. -/
def outlineOf (table : MetadataTable) (metadata : ClassMetadata) : ClassOutline :=
  ⟨metadata, beanMethodsOf table metadata.className⟩

/-- The outlines of a table are those of its configurations. -/
theorem outlines_ofTable (table : MetadataTable) :
    (ofTable table).classes.map ConfigurationClass.outline =
      (table.allClasses.filter (isConfiguration table)).map (outlineOf table) := by
  have taken (classes : List ClassMetadata) (model : ConfigurationModel) :
      (classes.foldl (takeIn table) model).classes.map ConfigurationClass.outline =
        model.classes.map ConfigurationClass.outline ++
          (classes.filter (isConfiguration table)).map (outlineOf table) := by
    induction classes generalizing model with
    | nil => simp
    | cons metadata rest inductionHypothesis =>
        rw [List.foldl_cons, inductionHypothesis, takeIn]
        by_cases belongs : isConfiguration table metadata = true
        · rw [if_pos belongs, List.filter_cons_of_pos belongs, outlines_addClass,
            List.append_assoc]
          rfl
        · rw [if_neg belongs, List.filter_cons_of_neg belongs]
  exact taken table.allClasses {}

/-- In a model that was read from a table every method points to its class. -/
theorem linked_ofTable (table : MetadataTable) : (ofTable table).Linked := by
  rw [ofTable_eq_foldl]
  refine List.foldlRecOn _ _ linked_empty fun model linked metadata _ => ?_
  unfold takeIn
  split
  · exact linked.addClass metadata _
  · exact linked

end ConfigurationModel

namespace BootstrapInput

/-- The classes of the model, in its order. -/
def outlines (input : BootstrapInput) : List ClassOutline :=
  input.assembled.classes.map ConfigurationClass.outline

/-- The outlines of a start are those of its assembled classes. -/
theorem metadata_outlines (input : BootstrapInput) :
    input.outlines.map ClassOutline.metadata =
      input.assembled.classes.map ConfigurationClass.metadata := by
  rw [outlines, List.map_map]
  rfl

/-- Explicit configurations keep every method with its class. -/
theorem linked_addConfigurations (table : MetadataTable)
    (configurations : List ExplicitConfiguration) :
    (configurations.foldl addConfiguration (.ofTable table)).Linked := by
  refine List.foldlRecOn _ _ (ConfigurationModel.linked_ofTable table)
    fun model linked explicit _ => ?_
  unfold addConfiguration
  split
  · exact linked
  · exact linked.addClass _ _

/-- An explicit configuration is added as a class unless its name is there. -/
theorem addConfiguration_eq (model : ConfigurationModel) (configuration : ExplicitConfiguration) :
    addConfiguration model configuration =
      if configuration.metadata.className ∈ model.classNames then model
      else model.addClass configuration.metadata configuration.beanMethods := by
  unfold addConfiguration ConfigurationModel.classNames
  by_cases known : configuration.metadata.className ∈
      model.classes.map ConfigurationClass.className <;> simp_all

/-- Two models of the same class names take in the same explicit classes. -/
theorem outlines_addConfigurations (configurations : List ExplicitConfiguration)
    {first second : ConfigurationModel}
    (sameNames : ∀ className, className ∈ first.classNames ↔ className ∈ second.classNames) :
    ∃ added,
      (configurations.foldl addConfiguration first).classes.map ConfigurationClass.outline =
          first.classes.map ConfigurationClass.outline ++ added ∧
        (configurations.foldl addConfiguration second).classes.map ConfigurationClass.outline =
          second.classes.map ConfigurationClass.outline ++ added := by
  induction configurations generalizing first second with
  | nil => exact ⟨[], (List.append_nil _).symm, (List.append_nil _).symm⟩
  | cons configuration rest inductionHypothesis =>
      have sameLater (className : String) :
          className ∈ (addConfiguration first configuration).classNames ↔
            className ∈ (addConfiguration second configuration).classNames := by
        rw [classNames_addConfiguration, classNames_addConfiguration]
        simp only [sameNames]
        split
        · exact sameNames className
        · rw [List.mem_append, List.mem_append, sameNames]
      obtain ⟨added, begun, likewise⟩ := inductionHypothesis sameLater
      rw [List.foldl_cons, List.foldl_cons, begun, likewise, addConfiguration_eq,
        addConfiguration_eq]
      by_cases known : configuration.metadata.className ∈ first.classNames
      · rw [if_pos known, if_pos ((sameNames _).mp known)]
        exact ⟨added, rfl, rfl⟩
      · rw [if_neg known, if_neg fun other => known ((sameNames _).mpr other),
          ConfigurationModel.outlines_addClass, ConfigurationModel.outlines_addClass,
          List.append_assoc, List.append_assoc]
        exact ⟨_, rfl, rfl⟩

/-- The names under which classes are registered have no part in what the check finds. -/
theorem problems_model (input : BootstrapInput) (noted : SortedMap String) :
    (input.model noted).problems = input.outlines.flatMap ClassOutline.problems := by
  have sameOutlines : (input.model noted).classes.map ConfigurationClass.outline =
      input.outlines := by
    rw [classes_model, outlines, List.map_map]
    apply List.map_congr_left
    intro configuration _
    unfold Function.comp named
    split <;> rfl
  have linked : (input.model noted).Linked := by
    intro configuration member
    rw [classes_model] at member
    obtain ⟨before, listed, rfl⟩ := List.mem_map.mp member
    have linkedBefore := linked_addConfigurations input.table input.configurations before listed
    unfold named
    split <;> exact linkedBefore
  rw [ConfigurationModel.problems_outlines (input.model_named noted).1 linked, sameOutlines]

end BootstrapInput

namespace Bootstrap

/-- Loading classes with these outlines leads from the first registry to the last: each class gets a
name, and then each method is registered. -/
def Loads (noted : SortedMap String) (outlines : List ClassOutline) (first last : Registry) :
    Prop :=
  ∃ names middle products,
    ((outlines.map ClassOutline.metadata).mapM (annotationReader.nameOf noted)).run ⟨first, {}⟩ =
        .ok names middle ∧
      (BeanMethod.registerAll {} (ClassOutline.allEntries outlines names)).run middle.registry =
        .ok products last

/-- A model can be loaded just if its outlines can, and with the same registry. -/
theorem loadModel_outlines_iff {input : BootstrapInput} {noted : SortedMap String}
    {factory last : BeanFactory} :
    (∃ holders, loadModel factory (input.model noted) = .ok (last, holders)) ↔
      ∃ registry, Loads noted input.outlines factory.registry registry ∧
        last = { factory with registry } := by
  have fresh := BootstrapInput.fresh_addConfigurations input.table input.configurations
  simp only [Loads, loadModel_eq_ok_iff, DefinitionReader.loadModel_eq_ok_iff]
  rw [BootstrapInput.metadata_outlines, BootstrapInput.outlines]
  constructor
  · rintro ⟨_, _, ⟨classes, _, products, registry, begun, ended, _, rfl⟩, rfl⟩
    obtain ⟨names, later, named, rfl⟩ := (DefinitionReader.nameUnnamed_eq_ok_iff []
      fresh.numbered fresh.nameless).mp ⟨classes, begun⟩
    refine ⟨registry, ⟨names, later, products, named, ?_⟩, rfl⟩
    rw [ClassOutline.allEntries_withName, BeanMethod.registerAll_unplaced]
    exact ended
  · rintro ⟨registry, ⟨names, later, products, named, ended⟩, rfl⟩
    rw [ClassOutline.allEntries_withName, BeanMethod.registerAll_unplaced] at ended
    obtain ⟨classes, begun⟩ := (DefinitionReader.nameUnnamed_eq_ok_iff []
      fresh.numbered fresh.nameless).mpr ⟨names, later, named, rfl⟩
    exact ⟨_, _, ⟨classes, _, products, registry, begun, ended, rfl, rfl⟩, rfl⟩

end Bootstrap

end BeanContainer
