/-
This file says what the check of a model finds, for a model that was made from a table and then
changed by hand in any way, and what each kind of reporter makes of it.
-/

import BeanContainer.Proofs.Bootstrap.Outlines
import BeanContainer.Proofs.Configuration.Validation

namespace BeanContainer

/-! Models that are changed by hand. -/

inductive ModelChange where
  | addClass (metadata : ClassMetadata) (methods : List MethodMetadata)
  | setBeanName (id : Nat) (beanName : String)

namespace ModelChange

def apply (model : ConfigurationModel) : ModelChange → ConfigurationModel
  | .addClass metadata methods => model.addClass metadata methods
  | .setBeanName id beanName => model.setBeanName id beanName

/-- The class that the change adds. -/
def added? : ModelChange → Option ClassOutline
  | .addClass metadata methods => some ⟨metadata, methods⟩
  | .setBeanName _ _ => none

end ModelChange

namespace ConfigurationModel

/-- The model of the table after the changes. -/
def changed (table : MetadataTable) (changes : List ModelChange) : ConfigurationModel :=
  changes.foldl ModelChange.apply (ofTable table)

/-- The configuration classes of the table with their bean methods, and then the added classes with
the methods that they were added with. -/
def expectedOutlines (table : MetadataTable) (changes : List ModelChange) : List ClassOutline :=
  (table.allClasses.filter (isConfiguration table)).map (outlineOf table) ++
    changes.filterMap ModelChange.added?

/-- A bean name leaves every method with its class. -/
theorem Linked.setBeanName {model : ConfigurationModel} (linked : model.Linked) (id : Nat)
    (beanName : String) : (model.setBeanName id beanName).Linked := by
  intro configuration member
  obtain ⟨place, found⟩ := List.mem_iff_getElem?.mp member
  rw [getElem?_setBeanName] at found
  split at found
  · obtain ⟨before, foundBefore, rfl⟩ := Option.map_eq_some_iff.mp found
    exact linked before (List.mem_of_getElem? foundBefore)
  · exact linked configuration (List.mem_of_getElem? found)

/-- A bean name does not show in the outlines. -/
theorem outlines_setBeanName (model : ConfigurationModel) (id : Nat) (beanName : String) :
    (model.setBeanName id beanName).classes.map ConfigurationClass.outline =
      model.classes.map ConfigurationClass.outline := by
  have outlineOfContents : ConfigurationClass.outline =
      (fun contents => ⟨contents.1, contents.2.map BeanMethod.metadata⟩) ∘
        ConfigurationClass.contents := rfl
  rw [outlineOfContents, ← List.map_map, ← List.map_map, contents_setBeanName]

/-- A change adds at most one outline, at the end. -/
theorem outlines_apply (model : ConfigurationModel) (change : ModelChange) :
    (change.apply model).classes.map ConfigurationClass.outline =
      model.classes.map ConfigurationClass.outline ++ change.added?.toList := by
  cases change with
  | addClass metadata methods => exact outlines_addClass model metadata methods
  | setBeanName id beanName =>
      rw [ModelChange.added?, Option.toList_none, List.append_nil]
      exact outlines_setBeanName model id beanName

/-- No change takes a class from the place that identifies it, or a method from its class. -/
theorem placed_apply {model : ConfigurationModel} (placed : model.Numbered ∧ model.Linked)
    (change : ModelChange) : (change.apply model).Numbered ∧ (change.apply model).Linked := by
  cases change with
  | addClass metadata methods =>
      exact ⟨placed.1.addClass metadata methods, placed.2.addClass metadata methods⟩
  | setBeanName id beanName =>
      exact ⟨placed.1.setBeanName id beanName, placed.2.setBeanName id beanName⟩

/-- Changes by hand keep every class in its place and every method with its class. -/
theorem placed_changed (table : MetadataTable) (changes : List ModelChange) :
    (changed table changes).Numbered ∧ (changed table changes).Linked :=
  List.foldlRecOn (motive := fun model => Numbered model ∧ Linked model) changes _
    ⟨(fresh_ofTable table).numbered, linked_ofTable table⟩
    fun _ placed change _ => placed_apply placed change

/-- After changes by hand the outlines are those of the table and those that were added. -/
theorem outlines_changed (table : MetadataTable) (changes : List ModelChange) :
    (changed table changes).classes.map ConfigurationClass.outline =
      expectedOutlines table changes := by
  have gathered (model : ConfigurationModel) :
      (changes.foldl ModelChange.apply model).classes.map ConfigurationClass.outline =
        model.classes.map ConfigurationClass.outline ++ changes.filterMap ModelChange.added? := by
    induction changes generalizing model with
    | nil => simp
    | cons change rest inductionHypothesis =>
        rw [List.foldl_cons, inductionHypothesis, outlines_apply, List.append_assoc]
        cases added : change.added? <;> simp [added]
  rw [changed, gathered, outlines_ofTable, expectedOutlines]

end ConfigurationModel

/-! What is found. -/

/-- The class carries the configuration marker itself or through another marker, and no direct one
switches off proxied bean methods. -/
def ClassMetadata.Full (metadata : ClassMetadata) : Prop :=
  metadata.annotations.isAnnotated AnnotationType.configuration = true ∧
    ∀ attributes, metadata.annotations.attributes AnnotationType.configuration = some attributes →
      attributes.get? AttributeName.proxyBeanMethods ≠ some (.bool false)

/-- A class is full by its configuration marker just if the check says so. -/
theorem ClassMetadata.full_iff (metadata : ClassMetadata) :
    metadata.Full ↔ metadata.isFullConfiguration = true := by
  unfold Full isFullConfiguration
  cases metadata.annotations.attributes AnnotationType.configuration <;> simp

instance : DecidablePred ClassMetadata.Full := fun metadata =>
  decidable_of_iff _ metadata.full_iff.symm

namespace Problem

def ofFinalClass (className : String) : Problem where
  message := s!"@Configuration 类 '{className}' 不能是 final, " ++
    "请移除 final 修饰或设置 proxyBeanMethods = false"
  location := { resource := className }

def ofClosedMethod (className methodName : String) : Problem where
  message := s!"@Bean 方法 '{methodName}' 不能是 private 或 final, 请修改方法修饰符"
  location := { resource := className, element := some methodName }

end Problem

namespace ClassOutline

/-- The class is full, and the method of the class is one that no subclass can intercept. -/
def Closes (outline : ClassOutline) (method : MethodMetadata) : Prop :=
  outline.metadata.Full ∧ method.isStatic = false ∧
    (method.isFinal = true ∨ method.isPrivate = true)

instance (outline : ClassOutline) : DecidablePred outline.Closes := fun method =>
  inferInstanceAs (Decidable (outline.metadata.Full ∧ method.isStatic = false ∧
    (method.isFinal = true ∨ method.isPrivate = true)))

/-- A full class must not be final, and none of its own methods may be closed to subclasses. -/
def findings (outline : ClassOutline) : List Problem :=
  (if outline.metadata.Full ∧ outline.metadata.isFinal = true then
    [.ofFinalClass outline.metadata.className] else []) ++
  (outline.methods.filter fun method => outline.Closes method).map fun method =>
    .ofClosedMethod outline.metadata.className method.methodName

/-- A method is closed to overriding just if the check of the class says so. -/
theorem closes_iff (outline : ClassOutline) (method : MethodMetadata) :
    outline.Closes method ↔
      method.isStatic = false ∧ (outline.metadata.isFullConfiguration && !method.isOverridable) := by
  unfold Closes MethodMetadata.isOverridable
  rw [outline.metadata.full_iff]
  cases method.isStatic <;> cases method.isFinal <;> cases method.isPrivate <;> simp

/-- A closed method is one finding, and any other method is none. -/
theorem methodProblems_eq_ite (outline : ClassOutline) (method : MethodMetadata) :
    methodProblems outline.metadata method =
      if outline.Closes method then
        [.ofClosedMethod outline.metadata.className method.methodName] else [] := by
  have found : ({ classes := [{ id := 0, metadata := outline.metadata, beanMethods := [] }] } :
      ConfigurationModel).class? 0 =
        some { id := 0, metadata := outline.metadata, beanMethods := [] } := rfl
  unfold methodProblems BeanMethod.problems BeanMethod.location
  simp only [found, outline.closes_iff]
  cases method.isStatic with
  | true => simp
  | false =>
      rw [if_neg Bool.false_ne_true]
      simp only [true_and]
      rfl

/-- The check finds what is to be found, in the same order. -/
theorem problems_eq_findings (outline : ClassOutline) : outline.problems = outline.findings := by
  have ofMethods : ∀ methods : List MethodMetadata,
      methods.flatMap (methodProblems outline.metadata) =
        (methods.filter fun method => outline.Closes method).map fun method =>
          .ofClosedMethod outline.metadata.className method.methodName := by
    intro methods
    induction methods with
    | nil => rfl
    | cons method rest inductionHypothesis =>
        rw [List.flatMap_cons, inductionHypothesis, methodProblems_eq_ite]
        by_cases closed : outline.Closes method <;> simp [closed]
  unfold problems findings
  rw [ofMethods]
  simp only [outline.metadata.full_iff, ← Bool.and_eq_true]
  rfl

end ClassOutline

namespace ConfigurationModel

/-- However a model is changed, its classes stay where they are identified and keep the methods that
they were added with. The check finds what the classes and methods say of themselves, class by
class, a collecting reporter receives all of it, and a fail-fast one the first problem. -/
theorem changed_findings (table : MetadataTable) (changes : List ModelChange) :
    (∀ configuration ∈ (changed table changes).classes,
      (changed table changes).class? configuration.id = some configuration ∧
        ∀ method ∈ configuration.beanMethods, method.configurationClass = configuration.id) ∧
    (changed table changes).classes.map ConfigurationClass.outline =
      expectedOutlines table changes ∧
    (changed table changes).problems =
      (expectedOutlines table changes).flatMap ClassOutline.findings ∧
    (∀ held, (changed table changes).validate (.collecting held) =
      .ok ((changed table changes).problems.length,
        .collecting (held ++ (changed table changes).problems.map fun problem =>
          (Severity.error, problem)))) ∧
    (changed table changes).validate .failFast =
      match (changed table changes).problems with
      | [] => .ok (0, .failFast)
      | first :: _ => .error (.problemReported first.message first.location.text) := by
  obtain ⟨numbered, linked⟩ := placed_changed table changes
  refine ⟨fun configuration member => ⟨?_, linked configuration member⟩,
    outlines_changed table changes, ?_, validate_collecting _, validate_failFast _⟩
  · obtain ⟨place, found⟩ := List.mem_iff_getElem?.mp member
    rwa [class?, numbered place configuration found]
  · rw [problems_outlines numbered linked, outlines_changed]
    exact List.flatMap_congr fun outline _ => outline.problems_eq_findings

end ConfigurationModel

end BeanContainer
