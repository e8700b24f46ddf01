/-
This file says what the common markers make of a definition: what each of them sets, what they leave
alone, and what is set already when the read of one of them fails.
-/

import BeanContainer.Proofs.Registration.Requests

namespace BeanContainer

/-! What the markers say. -/

/-- What has been read off the common markers. An absent marker says nothing. -/
structure Marking where
  lazyInit : Option Bool := none
  primary : Bool := false
  dependsOn : Option (List String) := none
  role : Option BeanRole := none
  description : Option String := none

namespace BeanDefinition

/-- A marker replaces what the definition said before, but a primary bean stays primary. -/
def marked (definition : BeanDefinition) (marking : Marking) : BeanDefinition :=
  { definition with
    lazyInit := marking.lazyInit.or definition.lazyInit
    primary := definition.primary || marking.primary
    dependsOn := marking.dependsOn.getD definition.dependsOn
    role := marking.role.getD definition.role
    description := marking.description.or definition.description }

/-- A marking that says nothing changes nothing. -/
@[simp]
theorem marked_nothing (definition : BeanDefinition) : definition.marked {} = definition := by
  simp [marked]

/-- What is said twice counts once. -/
theorem marked_again (definition : BeanDefinition) (marking : Marking) :
    (definition.marked marking).marked marking = definition.marked marking := by
  obtain ⟨lazyInit, primary, dependsOn, role, description⟩ := marking
  cases lazyInit <;> cases dependsOn <;> cases role <;> cases description <;>
    simp [marked]

/-- The definition without all that a common marker may set. -/
def unmarked (definition : BeanDefinition) : BeanDefinition :=
  { definition with
    lazyInit := none
    primary := false
    dependsOn := []
    role := .application
    description := none }

/-- What the markers set is gone without them. -/
theorem unmarked_marked (definition : BeanDefinition) (marking : Marking) :
    (definition.marked marking).unmarked = definition.unmarked := rfl

/-- What has been read is marked, and a read that fails changes nothing. -/
def markedBy {Value : Type} (definition : BeanDefinition) (read : Except DefinitionError Value)
    (marking : Value → Marking) : EStateM.Result DefinitionError BeanDefinition Unit :=
  match read with
  | .ok value => .ok () (definition.marked (marking value))
  | .error cause => .error cause definition

/-- What has been read is marked. -/
@[simp]
theorem markedBy_ok {Value : Type} (definition : BeanDefinition) (value : Value)
    (marking : Value → Marking) :
    definition.markedBy (.ok value) marking = .ok () (definition.marked (marking value)) := rfl

/-- A read that fails marks nothing. -/
@[simp]
theorem markedBy_error {Value : Type} (definition : BeanDefinition) (cause : DefinitionError)
    (marking : Value → Marking) : definition.markedBy (.error cause) marking =
      .error cause definition := rfl

/-- The lazy marker of the view counts, and only without one that of the class of the definition. -/
def readLazy (definition : BeanDefinition) (view : AnnotationView) :
    Except DefinitionError (Option Bool) :=
  let ofClass := definition.metadata.bind fun metadata =>
    metadata.annotations.attributes AnnotationType.lazyInit
  ((view.attributes AnnotationType.lazyInit).or ofClass).mapM DefinitionUpdate.lazyValue

end BeanDefinition

namespace AnnotationView

/-- A marker without a value names no other bean. -/
def readDependsOn (view : AnnotationView) : Except DefinitionError (Option (List String)) :=
  (view.attributes AnnotationType.dependsOn).mapM fun attributes =>
    if attributes.contains AttributeName.value then attributes.stringArray AttributeName.value
    else .ok []

def readRole (view : AnnotationView) : Except DefinitionError (Option BeanRole) :=
  (view.attributes AnnotationType.role).mapM fun attributes =>
    attributes.number AttributeName.value >>= BeanRole.ofCode

def readDescription (view : AnnotationView) : Except DefinitionError (Option String) :=
  (view.attributes AnnotationType.description).mapM fun attributes =>
    attributes.string AttributeName.value

end AnnotationView

namespace DefinitionUpdate

/-! The steps. -/

/-- A step that reads and then changes marks the definition by its read. -/
theorem run_read {Value : Type} (result : Except DefinitionError Value)
    (change : Value → BeanDefinition → BeanDefinition) (marking : Option Value → Marking)
    (changes : ∀ value definition,
      change value definition = BeanDefinition.marked definition (marking (some value)))
    (definition : BeanDefinition) :
    (ofExcept result >>= fun value => modify (change value)).run definition =
      definition.markedBy (some <$> result) marking := by
  cases result with
  | error cause => rfl
  | ok value => exact congrArg (EStateM.Result.ok ()) (changes value definition)

section Steps

variable (view : AnnotationView) (definition : BeanDefinition)

/-- The lazy step marks what the lazy marker says. -/
@[simp]
theorem applyLazy_run :
    (applyLazy view).run definition =
      definition.markedBy (definition.readLazy view) fun lazyInit => { lazyInit } := by
  unfold applyLazy BeanDefinition.readLazy
  rw [EStateM.run_bind, EStateM.run_get]
  dsimp only
  split
  · rename_i attributes marker
    rw [marker, Option.mapM_some]
    exact run_read (lazyValue attributes)
      (fun value definition => { definition with lazyInit := some value })
      (fun lazyInit => { lazyInit }) (by simp [BeanDefinition.marked]) definition
  · rename_i marker
    rw [marker, Option.mapM_none]
    exact congrArg (EStateM.Result.ok ()) definition.marked_nothing.symm

/-- The primary step never fails. -/
@[simp]
theorem applyPrimary_run :
    (applyPrimary view).run definition =
      .ok () (definition.marked { primary := view.isAnnotated AnnotationType.primary }) := by
  unfold applyPrimary
  split <;> rename_i isPrimary <;> simp [BeanDefinition.marked, isPrimary]

/-- The step for dependencies marks what their marker says. -/
@[simp]
theorem applyDependsOn_run :
    (applyDependsOn view).run definition =
      definition.markedBy view.readDependsOn fun dependsOn => { dependsOn } := by
  unfold applyDependsOn AnnotationView.readDependsOn
  cases view.attributes AnnotationType.dependsOn with
  | none => exact congrArg (EStateM.Result.ok ()) definition.marked_nothing.symm
  | some attributes =>
      have reads := run_read
        (if attributes.contains AttributeName.value then
          attributes.stringArray AttributeName.value
        else .ok [])
        (fun names definition => { definition with dependsOn := names })
        (fun dependsOn => { dependsOn }) (by simp [BeanDefinition.marked]) definition
      rw [Option.mapM_some]
      refine Eq.trans ?_ reads
      dsimp only
      split <;> rfl

/-- The role step marks what the role marker says, and fails for a code without a role. -/
@[simp]
theorem applyRole_run :
    (applyRole view).run definition =
      definition.markedBy view.readRole fun role => { role } := by
  unfold applyRole AnnotationView.readRole
  cases view.attributes AnnotationType.role with
  | none => exact congrArg (EStateM.Result.ok ()) definition.marked_nothing.symm
  | some attributes =>
      have reads := run_read (attributes.number AttributeName.value >>= BeanRole.ofCode)
        (fun role definition => { definition with role })
        (fun role => { role }) (by simp [BeanDefinition.marked]) definition
      rw [Option.mapM_some]
      refine Eq.trans ?_ reads
      dsimp only
      cases attributes.number AttributeName.value <;> rfl

/-- The step for the description marks what its marker says. -/
@[simp]
theorem applyDescription_run :
    (applyDescription view).run definition =
      definition.markedBy view.readDescription fun description => { description } := by
  unfold applyDescription AnnotationView.readDescription
  cases view.attributes AnnotationType.description with
  | none => exact congrArg (EStateM.Result.ok ()) definition.marked_nothing.symm
  | some attributes =>
      rw [Option.mapM_some]
      exact run_read (attributes.string AttributeName.value)
        (fun text definition => { definition with description := some text })
        (fun description => { description }) (by simp [BeanDefinition.marked]) definition

end Steps

/-! The whole update. -/

/-- How an update may end. What was read before a failure is marked all the same. -/
inductive CommonOutcome (view : AnnotationView) (definition : BeanDefinition) :
    EStateM.Result DefinitionError BeanDefinition Unit → Prop where
  | lazyFails {cause : DefinitionError} (refused : definition.readLazy view = .error cause) :
      CommonOutcome view definition (.error cause definition)
  | dependsOnFails {lazyInit : Option Bool} {cause : DefinitionError}
      (lazyRead : definition.readLazy view = .ok lazyInit)
      (refused : view.readDependsOn = .error cause) :
      CommonOutcome view definition
        (.error cause
          (definition.marked { lazyInit, primary := view.isAnnotated AnnotationType.primary }))
  | roleFails {lazyInit : Option Bool} {dependsOn : Option (List String)} {cause : DefinitionError}
      (lazyRead : definition.readLazy view = .ok lazyInit)
      (dependsOnRead : view.readDependsOn = .ok dependsOn)
      (refused : view.readRole = .error cause) :
      CommonOutcome view definition
        (.error cause
          (definition.marked
            { lazyInit, primary := view.isAnnotated AnnotationType.primary, dependsOn }))
  | descriptionFails {lazyInit : Option Bool} {dependsOn : Option (List String)}
      {role : Option BeanRole} {cause : DefinitionError}
      (lazyRead : definition.readLazy view = .ok lazyInit)
      (dependsOnRead : view.readDependsOn = .ok dependsOn)
      (roleRead : view.readRole = .ok role)
      (refused : view.readDescription = .error cause) :
      CommonOutcome view definition
        (.error cause
          (definition.marked
            { lazyInit, primary := view.isAnnotated AnnotationType.primary, dependsOn, role }))
  | done {lazyInit : Option Bool} {dependsOn : Option (List String)} {role : Option BeanRole}
      {description : Option String}
      (lazyRead : definition.readLazy view = .ok lazyInit)
      (dependsOnRead : view.readDependsOn = .ok dependsOn)
      (roleRead : view.readRole = .ok role)
      (descriptionRead : view.readDescription = .ok description) :
      CommonOutcome view definition
        (.ok ()
          (definition.marked
            { lazyInit, primary := view.isAnnotated AnnotationType.primary, dependsOn, role,
              description }))

variable {view : AnnotationView} {definition : BeanDefinition}
  {outcome : EStateM.Result DefinitionError BeanDefinition Unit}

/-- The update ends as each outcome describes. -/
theorem CommonOutcome.run (ends : CommonOutcome view definition outcome) :
    (applyCommonAnnotations view).run definition = outcome := by
  unfold applyCommonAnnotations
  cases ends with
  | lazyFails refused => simp [refused]
  | dependsOnFails lazyRead refused => simp [lazyRead, refused, BeanDefinition.marked]
  | roleFails lazyRead dependsOnRead refused =>
      simp [lazyRead, dependsOnRead, refused, BeanDefinition.marked]
  | descriptionFails lazyRead dependsOnRead roleRead refused =>
      simp [lazyRead, dependsOnRead, roleRead, refused, BeanDefinition.marked]
  | done lazyRead dependsOnRead roleRead descriptionRead =>
      simp [lazyRead, dependsOnRead, roleRead, descriptionRead, BeanDefinition.marked]

/-- The reads fail in the order of the cases, so some case holds. -/
theorem exists_commonOutcome (view : AnnotationView) (definition : BeanDefinition) :
    ∃ outcome, CommonOutcome view definition outcome := by
  cases lazyRead : definition.readLazy view with
  | error cause => exact ⟨_, .lazyFails lazyRead⟩
  | ok lazyInit =>
      cases dependsOnRead : view.readDependsOn with
      | error cause => exact ⟨_, .dependsOnFails lazyRead dependsOnRead⟩
      | ok dependsOn =>
          cases roleRead : view.readRole with
          | error cause => exact ⟨_, .roleFails lazyRead dependsOnRead roleRead⟩
          | ok role =>
              cases descriptionRead : view.readDescription with
              | error cause =>
                  exact ⟨_, .descriptionFails lazyRead dependsOnRead roleRead descriptionRead⟩
              | ok description =>
                  exact ⟨_, .done lazyRead dependsOnRead roleRead descriptionRead⟩

/-- An outcome after marking twice is one after marking once. -/
theorem CommonOutcome.of_marked_again {marking : Marking}
    (ending : BeanDefinition → EStateM.Result DefinitionError BeanDefinition Unit)
    (ends : CommonOutcome view (definition.marked marking)
      (ending ((definition.marked marking).marked marking))) :
    CommonOutcome view (definition.marked marking) (ending (definition.marked marking)) := by
  rwa [definition.marked_again] at ends

/-- The reads do not depend on what was marked, so a second update ends as the first one did. -/
theorem CommonOutcome.again (ends : CommonOutcome view definition outcome) :
    (applyCommonAnnotations view).run (stateAfter (applyCommonAnnotations view) definition) =
      outcome := by
  rw [stateAfter, ends.run]
  apply CommonOutcome.run
  cases ends with
  | lazyFails refused => exact .lazyFails refused
  | dependsOnFails lazyRead refused =>
      exact .of_marked_again (.error _) (.dependsOnFails lazyRead refused)
  | roleFails lazyRead dependsOnRead refused =>
      exact .of_marked_again (.error _) (.roleFails lazyRead dependsOnRead refused)
  | descriptionFails lazyRead dependsOnRead roleRead refused =>
      exact .of_marked_again (.error _) (.descriptionFails lazyRead dependsOnRead roleRead refused)
  | done lazyRead dependsOnRead roleRead descriptionRead =>
      exact .of_marked_again (.ok ()) (.done lazyRead dependsOnRead roleRead descriptionRead)

/-! The comparison with the class of the definition. -/

end DefinitionUpdate

/-- The class, the factory, the scope and the attributes of a bean stay as they were. -/
theorem BeanDefinition.unmarked_update {definition changed : BeanDefinition} {view : AnnotationView}
    (updated : definition.update (DefinitionUpdate.applyCommonAnnotations view) = .ok changed) :
    changed.unmarked = definition.unmarked := by
  obtain ⟨outcome, ends⟩ := DefinitionUpdate.exists_commonOutcome view definition
  have ran : DefinitionUpdate.applyCommonAnnotations view definition = outcome := ends.run
  rw [BeanDefinition.update, ran] at updated
  cases ends with
  | lazyFails => contradiction
  | dependsOnFails => contradiction
  | roleFails => contradiction
  | descriptionFails => contradiction
  | done =>
      obtain rfl := Except.ok.inj updated
      exact definition.unmarked_marked _

end BeanContainer
