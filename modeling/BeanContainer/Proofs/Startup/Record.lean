/-
This file says what a recorder holds after any number of starts, tags and ends, however the calls on
its steps are interleaved: the steps that were ended, in the order of their first ends, each with the
tags that it was given before.
-/

import BeanContainer.Startup
import Mathlib.Data.List.Induction
import Mathlib.Data.List.Nodup

namespace BeanContainer

/-- A call on a recorder, or on one of its steps, which is known by its place in the order of the
starts. -/
inductive StartupCall where
  | start (name : String)
  | tag (place : Nat) (key value : String)
  | finish (place : Nat)
deriving DecidableEq

namespace StartupCall

/-- The step that the call is about. A start is about no step that was there before. -/
def place? : StartupCall → Option Nat
  | .start _ => none
  | .tag place _ _ => some place
  | .finish place => some place

def startedName? : StartupCall → Option String
  | .start name => some name
  | _ => none

def tagOf? (place : Nat) : StartupCall → Option (String × String)
  | .tag other key value => if other = place then some (key, value) else none
  | _ => none

def ended? : StartupCall → Option Nat
  | .finish place => some place
  | _ => none

/-! What the calls say of a step. -/

/-- The names of the steps, in the order of their starts. -/
def begun (calls : List StartupCall) : List String := calls.filterMap startedName?

def tags (place : Nat) (calls : List StartupCall) : List (String × String) :=
  calls.filterMap (tagOf? place)

/-- The steps that are ended, in the order of their first ends. -/
def firstEnds (calls : List StartupCall) : List Nat := (calls.filterMap ended?).eraseDups

/-- A step with these tags. -/
def recordWith (calls : List StartupCall) (place : Nat) (tags : List (String × String)) :
    RecordedStep where
  id := UInt64.ofNat (place + 1)
  name := (begun calls)[place]?.getD ""
  tags := tags

/-- Tags that come after the first end are not on record. -/
def recordOf (calls : List StartupCall) (place : Nat) : RecordedStep :=
  recordWith calls place (tags place (calls.takeWhile (· ≠ .finish place)))

/-- Each call is about a step that has been begun, where so many were begun before. -/
def LegalFrom (count : Nat) : List StartupCall → Prop
  | [] => True
  | .start _ :: rest => LegalFrom (count + 1) rest
  | .tag place _ _ :: rest => place < count ∧ LegalFrom count rest
  | .finish place :: rest => place < count ∧ LegalFrom count rest

/-- Nobody can call on a step before it is begun. -/
abbrev Legal (calls : List StartupCall) : Prop := LegalFrom 0 calls

/-! The run. -/

def after (run : StartupRun) : StartupCall → StartupRun
  | .start name => run.start name
  | .tag place key value => run.tag place key value
  | .finish place => run.finish place

def run (calls : List StartupCall) : StartupRun := calls.foldl after { recorder := .new }

/-- The record of a step is found by its identifier. -/
def record? (run : StartupRun) (place : Nat) : Option RecordedStep :=
  run.recorder.steps.find? fun record => record.id.toNat == place + 1

section Histories

variable {calls later : List StartupCall} {call : StartupCall} {place other : Nat}

/-- The last call of a run comes on top of the others. -/
theorem run_concat (calls : List StartupCall) (call : StartupCall) :
    run (calls ++ [call]) = after (run calls) call := by
  simp [run]

/-- The steps begun in two runs are those of the first and then those of the second. -/
theorem begun_append (calls later : List StartupCall) :
    begun (calls ++ later) = begun calls ++ begun later :=
  List.filterMap_append

/-- The tags given in two runs are those of the first and then those of the second. -/
theorem tags_append (place : Nat) (calls later : List StartupCall) :
    tags place (calls ++ later) = tags place calls ++ tags place later :=
  List.filterMap_append

/-- The first call gives the first tag, if any. -/
theorem tags_cons (place : Nat) (call : StartupCall) (rest : List StartupCall) :
    tags place (call :: rest) = (tagOf? place call).toList ++ tags place rest := by
  unfold tags
  rw [List.filterMap_cons]
  cases tagOf? place call <;> rfl

/-- A call on a step begins none. -/
theorem begun_without {earlier : List StartupCall} (about : call.place? = some place) :
    begun (earlier ++ call :: later) = begun (earlier ++ later) := by
  rw [begun_append, begun_append]
  cases call <;> cases about <;> rfl

/-- A step is among the ended ones just if some call ends it. -/
theorem mem_firstEnds_iff : place ∈ firstEnds calls ↔ .finish place ∈ calls := by
  unfold firstEnds
  rw [List.mem_eraseDups, List.mem_filterMap]
  constructor
  · rintro ⟨call, member, same⟩
    cases call <;> cases same
    exact member
  · intro member
    exact ⟨_, member, rfl⟩

/-- A further end of a step has no place of its own. -/
theorem firstEnds_finish (calls : List StartupCall) (place : Nat) :
    firstEnds (calls ++ [.finish place]) =
      if .finish place ∈ calls then firstEnds calls else firstEnds calls ++ [place] := by
  have named : place ∈ calls.filterMap ended? ↔ .finish place ∈ calls := by
    rw [← mem_firstEnds_iff, firstEnds, List.mem_eraseDups]
  have added : [StartupCall.finish place].filterMap ended? = [place] := rfl
  unfold firstEnds
  rw [List.filterMap_append, added, List.eraseDups_append]
  generalize calls.filterMap ended? = ends at named ⊢
  by_cases ended : .finish place ∈ calls
  · simp [List.removeAll, named.mpr ended, ended]
  · have new : place ∉ ends := fun member => ended (named.mp member)
    simp [List.removeAll, new, ended, List.eraseDups_cons]

/-- Only an end makes a step ended. -/
theorem firstEnds_of_not_end (calls : List StartupCall) (unended : call.ended? = none) :
    firstEnds (calls ++ [call]) = firstEnds calls := by
  simp [firstEnds, unended]

/-- A step is ended once, however often it is ended again. -/
theorem nodup_firstEnds (calls : List StartupCall) : (firstEnds calls).Nodup := by
  induction calls using List.reverseRecOn with
  | nil => exact List.nodup_nil
  | append_singleton calls call inductionHypothesis =>
      cases call with
      | start name => rwa [firstEnds_of_not_end calls rfl]
      | tag place key value => rwa [firstEnds_of_not_end calls rfl]
      | finish place =>
          rw [firstEnds_finish]
          split
          · exact inductionHypothesis
          · rename_i unended
            refine List.nodup_append.mpr ⟨inductionHypothesis, List.pairwise_singleton _ _, ?_⟩
            rintro other member _ isNew rfl
            rw [List.mem_singleton.mp isNew] at member
            exact unended (mem_firstEnds_iff.mp member)

/-- Two runs in a row are legal if each is, from the steps begun before it. -/
theorem LegalFrom.append_iff {count : Nat} :
    LegalFrom count (calls ++ later) ↔
      LegalFrom count calls ∧ LegalFrom (count + (begun calls).length) later := by
  induction calls generalizing count with
  | nil => simp [LegalFrom, begun]
  | cons call rest inductionHypothesis =>
      cases call with
      | start name =>
          have counted : (begun (.start name :: rest)).length = (begun rest).length + 1 := rfl
          rw [counted, List.cons_append, LegalFrom, LegalFrom, inductionHypothesis]
          have same : count + 1 + (begun rest).length = count + ((begun rest).length + 1) := by omega
          rw [same]
      | tag place key value =>
          rw [List.cons_append, LegalFrom, LegalFrom, inductionHypothesis, and_assoc]
          rfl
      | finish place =>
          rw [List.cons_append, LegalFrom, LegalFrom, inductionHypothesis, and_assoc]
          rfl

/-- A step that a call is about has been begun. -/
theorem Legal.lt_of_mem (legal : Legal calls) (member : call ∈ calls)
    (about : call.place? = some place) : place < (begun calls).length := by
  obtain ⟨earlier, later, rfl⟩ := List.append_of_mem member
  have continues := (LegalFrom.append_iff.mp legal).2
  rw [Nat.zero_add] at continues
  rw [begun_append, List.length_append]
  cases call with
  | start name => contradiction
  | tag other key value =>
      cases about
      have known := continues.1
      omega
  | finish other =>
      cases about
      have known := continues.1
      omega

/-- A step that has not begun has no tags. -/
theorem Legal.tags_eq_nil (legal : Legal calls) (new : (begun calls).length ≤ place) :
    tags place calls = [] := by
  apply List.filterMap_eq_nil_iff.mpr
  intro call member
  cases call with
  | start name => rfl
  | finish other => rfl
  | tag other key value =>
      have known := legal.lt_of_mem member rfl
      simp only [tagOf?]
      rw [if_neg (by omega)]

/-- A call on a step can be left out. -/
theorem Legal.without {earlier : List StartupCall} (legal : Legal (earlier ++ call :: later))
    (about : call.place? = some place) : Legal (earlier ++ later) := by
  obtain ⟨begins, continues⟩ := LegalFrom.append_iff.mp legal
  apply LegalFrom.append_iff.mpr
  cases call with
  | start name => contradiction
  | tag place key value => exact ⟨begins, continues.2⟩
  | finish place => exact ⟨begins, continues.2⟩

/-! What further calls change about a record. -/

/-- What comes after the first end of a step is not looked at. -/
theorem takeWhile_of_ended (ended : .finish place ∈ calls) (later : List StartupCall) :
    (calls ++ later).takeWhile (· ≠ .finish place) = calls.takeWhile (· ≠ .finish place) := by
  induction calls with
  | nil => contradiction
  | cons call rest inductionHypothesis =>
      by_cases here : call = .finish place
      · simp [here]
      · have inRest : .finish place ∈ rest := by simpa [Ne.symm here] using ended
        rw [List.cons_append, List.takeWhile_cons, List.takeWhile_cons, inductionHypothesis inRest]

/-- The record of an ended step stays as it is. -/
theorem recordOf_append (legal : Legal calls) (ended : .finish place ∈ calls)
    (later : List StartupCall) : recordOf (calls ++ later) place = recordOf calls place := by
  have known : place < (begun calls).length := legal.lt_of_mem ended rfl
  unfold recordOf recordWith
  rw [takeWhile_of_ended ended, begun_append, List.getElem?_append_left known]

/-- What was recorded of the ended steps does not change later. -/
theorem records_append (legal : Legal calls) (later : List StartupCall) :
    (firstEnds calls).map (recordOf (calls ++ later)) = (firstEnds calls).map (recordOf calls) := by
  apply List.map_congr_left
  intro place member
  exact recordOf_append legal (mem_firstEnds_iff.mp member) later

/-- At its first end a step is recorded with all its tags. -/
theorem recordOf_finish (unended : .finish place ∉ calls)
    (known : place < (begun calls).length) :
    recordOf (calls ++ [.finish place]) place = recordWith calls place (tags place calls) := by
  have all : ∀ call ∈ calls, decide (call ≠ .finish place) = true := by
    intro call member
    exact decide_eq_true fun same => unended (same ▸ member)
  unfold recordOf recordWith
  rw [List.takeWhile_append_of_pos all, begun_append, List.getElem?_append_left known]
  simp

end Histories

/-! What a run leads to. -/

/-- A step takes tags even after its end. -/
def stepOf (calls : List StartupCall) (place : Nat) : StartupStep :=
  let record := recordWith calls place (tags place calls)
  if .finish place ∈ calls then .ended record else .running record

/-- The recorder and the steps are what the calls say. -/
structure Shows (calls : List StartupCall) (run : StartupRun) : Prop where
  recorder : run.recorder = .recording (UInt64.ofNat (begun calls).length)
    ((firstEnds calls).map (recordOf calls))
  length : run.steps.length = (begun calls).length
  step : ∀ place < (begun calls).length, run.steps[place]? = some (stepOf calls place)

/-- Steps are numbered from one in the order of their starts. -/
theorem id_stepOf (calls : List StartupCall) (place : Nat) :
    (stepOf calls place).id = UInt64.ofNat (place + 1) := by
  unfold stepOf
  split <;> rfl

/-- A step has the name that it was begun with. -/
theorem name_stepOf (calls : List StartupCall) (place : Nat) :
    (stepOf calls place).name = (begun calls)[place]?.getD "" := by
  unfold stepOf
  split <;> rfl

/-- A call on another step leaves a step as it is. -/
theorem stepOf_of_not_about (calls : List StartupCall) {call : StartupCall} {place : Nat}
    (known : place < (begun calls).length) (apart : call.place? ≠ some place) :
    stepOf (calls ++ [call]) place = stepOf calls place := by
  have untagged : tags place [call] = [] := by
    cases call <;> simp_all [tags, tagOf?, place?]
  have unended : call ≠ .finish place := by
    rintro rfl
    exact apart rfl
  unfold stepOf recordWith
  rw [tags_append, untagged, begun_append, List.getElem?_append_left known]
  simp [unended.symm]

/-- Before the first call nothing is open and nothing is recorded. -/
theorem shows_empty : Shows [] (run []) :=
  ⟨rfl, rfl, fun _ known => absurd known (Nat.not_lt_zero _)⟩

/-- A new step takes the next identifier and has no tags yet. -/
theorem Shows.start {calls : List StartupCall} {run : StartupRun} (shows : Shows calls run)
    (legal : Legal calls) (name : String) :
    Shows (calls ++ [.start name]) (run.start name) := by
  have newName : begun (calls ++ [.start name]) = begun calls ++ [name] := begun_append _ _
  have sameEnds : firstEnds (calls ++ [.start name]) = firstEnds calls :=
    firstEnds_of_not_end calls rfl
  constructor
  · rw [sameEnds, records_append legal]
    simp [StartupRun.start, StartupRecorder.start, shows.recorder, newName]
  · simp [StartupRun.start, StartupRecorder.start, shows.recorder, newName, shows.length]
  · intro place known
    rw [newName, List.length_append, List.length_singleton] at known
    simp only [StartupRun.start, StartupRecorder.start, shows.recorder]
    by_cases old : place < (begun calls).length
    · rw [List.getElem?_append_left (by rw [shows.length]; exact old), shows.step place old,
        stepOf_of_not_about calls old (by simp [place?])]
    · obtain rfl : place = (begun calls).length := by omega
      have unended : .finish (begun calls).length ∉ calls := fun ended =>
        old (legal.lt_of_mem ended rfl)
      have untagged : tags (begun calls).length (calls ++ [.start name]) = [] := by
        rw [tags_append, legal.tags_eq_nil (Nat.le_refl _)]
        rfl
      simp [shows.length, stepOf, recordWith, newName, unended, untagged]

/-- A tag changes nothing but its step. -/
theorem Shows.tag {calls : List StartupCall} {run : StartupRun} (shows : Shows calls run)
    (legal : Legal calls) (place : Nat) (key value : String) :
    Shows (calls ++ [.tag place key value]) (run.tag place key value) := by
  have sameNames : begun (calls ++ [.tag place key value]) = begun calls := by
    simp [begun, startedName?]
  have sameEnds : firstEnds (calls ++ [.tag place key value]) = firstEnds calls :=
    firstEnds_of_not_end calls rfl
  constructor
  · rw [sameNames, sameEnds, records_append legal]
    exact shows.recorder
  · rw [sameNames, ← shows.length]
    exact List.length_modify ..
  · intro other otherKnown
    rw [sameNames] at otherKnown
    simp only [StartupRun.tag, List.getElem?_modify, shows.step other otherKnown]
    by_cases here : place = other
    · subst here
      have tagged : tags place (calls ++ [.tag place key value]) =
          tags place calls ++ [(key, value)] := by
        simp [tags, tagOf?]
      unfold stepOf recordWith
      rw [tagged, sameNames]
      by_cases ended : .finish place ∈ calls <;> simp [ended, StartupStep.tag]
    · rw [stepOf_of_not_about calls otherKnown (by simpa [place?] using here)]
      simp [here]

/-- Only the first end of a step puts it on record. -/
theorem Shows.finish {calls : List StartupCall} {run : StartupRun} (shows : Shows calls run)
    (legal : Legal calls) {place : Nat} (known : place < (begun calls).length) :
    Shows (calls ++ [.finish place]) (run.finish place) := by
  have sameNames : begun (calls ++ [.finish place]) = begun calls := by
    simp [begun, startedName?]
  have sameTags : tags place (calls ++ [.finish place]) = tags place calls := by
    simp [tags, tagOf?]
  have now : stepOf (calls ++ [.finish place]) place =
      .ended (recordWith calls place (tags place calls)) := by
    simp [stepOf, sameTags, recordWith, sameNames]
  have ends : run.finish place =
      { recorder := .recording (UInt64.ofNat (begun calls).length)
          ((firstEnds (calls ++ [.finish place])).map (recordOf (calls ++ [.finish place])))
        steps := run.steps.set place (stepOf (calls ++ [.finish place]) place) } := by
    unfold StartupRun.finish
    rw [shows.step place known, shows.recorder, now, firstEnds_finish]
    by_cases ended : .finish place ∈ calls
    · simp [stepOf, ended, StartupRecorder.finish, records_append legal]
    · simp [stepOf, ended, StartupRecorder.finish, records_append legal,
        recordOf_finish ended known]
  rw [ends]
  constructor
  · rw [sameNames]
  · rw [sameNames, ← shows.length]
    exact List.length_set
  · intro other otherKnown
    rw [sameNames] at otherKnown
    by_cases here : place = other
    · subst here
      rw [List.getElem?_set_self (by rw [shows.length]; exact known)]
    · rw [List.getElem?_set_ne here, shows.step other otherKnown,
        stepOf_of_not_about calls otherKnown (by simpa [place?] using here)]

/-- After a legal run the recorder holds what the calls say. -/
theorem run_shows {calls : List StartupCall} (legal : Legal calls) : Shows calls (run calls) := by
  induction calls using List.reverseRecOn with
  | nil => exact shows_empty
  | append_singleton calls call inductionHypothesis =>
      obtain ⟨begins, continues⟩ := LegalFrom.append_iff.mp legal
      rw [Nat.zero_add] at continues
      have shows := inductionHypothesis begins
      rw [run_concat]
      cases call with
      | start name => exact shows.start begins name
      | tag place key value => exact shows.tag begins place key value
      | finish place => exact shows.finish begins continues.1

section Records

variable {calls : List StartupCall} (legal : Legal calls)

include legal

/-- The record holds the ended steps in the order of their first ends. -/
theorem steps_run : (run calls).recorder.steps = (firstEnds calls).map (recordOf calls) := by
  rw [(run_shows legal).recorder]
  rfl

omit legal in
/-- Numbers are not used twice while there are fewer steps than words. -/
theorem toNat_id_of_lt (few : (begun calls).length < UInt64.size) {place : Nat}
    (known : place < (begun calls).length) : (UInt64.ofNat (place + 1)).toNat = place + 1 := by
  have small : place + 1 < UInt64.size := by omega
  exact UInt64.toNat_ofNat_of_lt' small

/-- The record of a step has the number of its start. -/
theorem id_recordOf (few : (begun calls).length < UInt64.size) {place : Nat}
    (ended : .finish place ∈ calls) : (recordOf calls place).id.toNat = place + 1 :=
  toNat_id_of_lt few (legal.lt_of_mem ended rfl)

/-- A step is found on record once it has been ended. -/
theorem record?_run (few : (begun calls).length < UInt64.size) (place : Nat) :
    record? (run calls) place =
      if .finish place ∈ calls then some (recordOf calls place) else none := by
  unfold record?
  rw [steps_run legal]
  cases found : ((firstEnds calls).map (recordOf calls)).find? fun record =>
      record.id.toNat == place + 1 with
  | none =>
      rw [if_neg]
      intro ended
      have listed := List.mem_map_of_mem (f := recordOf calls) (mem_firstEnds_iff.mpr ended)
      have missed := List.find?_eq_none.mp found _ listed
      simp [id_recordOf legal few ended] at missed
  | some record =>
      obtain ⟨other, member, rfl⟩ := List.mem_map.mp (List.mem_of_find?_eq_some found)
      have ended := mem_firstEnds_iff.mp member
      have same := List.find?_some found
      rw [beq_iff_eq, id_recordOf legal few ended] at same
      obtain rfl : other = place := by omega
      rw [if_pos ended]

/-- What is on record stays there, in its place. -/
theorem records_prefix {later : List StartupCall} (legalLater : Legal (calls ++ later)) :
    (run calls).recorder.steps <+: (run (calls ++ later)).recorder.steps := by
  have ends : firstEnds calls <+: firstEnds (calls ++ later) := by
    unfold firstEnds
    rw [List.filterMap_append, List.eraseDups_append]
    exact List.prefix_append _ _
  rw [steps_run legal, steps_run legalLater, ← records_append legal later]
  exact ends.map _

end Records

/-- A call on another step does not show in the record of a step. -/
theorem recordOf_without {earlier later : List StartupCall} {call : StartupCall} {other place : Nat}
    (about : call.place? = some other) (apart : other ≠ place) :
    recordOf (earlier ++ call :: later) place = recordOf (earlier ++ later) place := by
  have untagged : tagOf? place call = none := by
    cases call <;> cases about <;> simp [tagOf?, apart]
  have unended : call ≠ .finish place := by
    rintro rfl
    cases about
    exact apart rfl
  have sameTags : tags place ((earlier ++ call :: later).takeWhile (· ≠ .finish place)) =
      tags place ((earlier ++ later).takeWhile (· ≠ .finish place)) := by
    induction earlier with
    | nil => simp [unended, tags_cons, untagged]
    | cons first rest inductionHypothesis =>
        rw [List.cons_append, List.cons_append, List.takeWhile_cons, List.takeWhile_cons]
        split
        · rw [tags_cons, tags_cons, inductionHypothesis]
        · rfl
  unfold recordOf recordWith
  rw [begun_without about, sameTags]

/-- The recorder numbers the steps from one and holds those that were ended, each once and in the
order of the first ends, with the tags that came before. What it holds is never changed, and a call on
one step does not show in the record of another. -/
theorem run_records {calls : List StartupCall} (legal : Legal calls)
    (few : (begun calls).length < UInt64.size) :
    ((run calls).steps.map fun step => (step.id.toNat, step.name)) =
        (begun calls).mapIdx (fun place name => (place + 1, name)) ∧
      (run calls).recorder.steps = (firstEnds calls).map (recordOf calls) ∧
      ((run calls).recorder.steps.map (·.id.toNat)).Nodup ∧
      (∀ place, (∃ record ∈ (run calls).recorder.steps, record.id.toNat = place + 1) ↔
        .finish place ∈ calls) ∧
      (∀ earlier later, calls = earlier ++ later →
        (run earlier).recorder.steps <+: (run calls).recorder.steps) ∧
      ∀ earlier call later other place, calls = earlier ++ call :: later →
        call.place? = some other → other ≠ place →
        record? (run (earlier ++ later)) place = record? (run calls) place := by
  refine ⟨?_, steps_run legal, ?_, fun place => ?_, ?_, ?_⟩
  · have shows := run_shows legal
    apply List.ext_getElem?
    intro place
    rw [List.getElem?_map, List.getElem?_mapIdx]
    by_cases known : place < (begun calls).length
    · rw [shows.step place known, List.getElem?_eq_getElem known, Option.map_some, Option.map_some,
        id_stepOf, name_stepOf, toNat_id_of_lt few known, List.getElem?_eq_getElem known]
      rfl
    · rw [List.getElem?_eq_none (by rw [shows.length]; omega), List.getElem?_eq_none (by omega)]
      rfl
  · rw [steps_run legal, List.map_map]
    refine List.Nodup.map_on ?_ (nodup_firstEnds calls)
    intro place member other otherMember same
    rw [Function.comp_apply, Function.comp_apply,
      id_recordOf legal few (mem_firstEnds_iff.mp member),
      id_recordOf legal few (mem_firstEnds_iff.mp otherMember)] at same
    omega
  · rw [steps_run legal]
    constructor
    · rintro ⟨record, member, numbered⟩
      obtain ⟨other, listed, rfl⟩ := List.mem_map.mp member
      have ended := mem_firstEnds_iff.mp listed
      rw [id_recordOf legal few ended] at numbered
      obtain rfl : other = place := by omega
      exact ended
    · intro ended
      exact ⟨_, List.mem_map_of_mem (mem_firstEnds_iff.mpr ended), id_recordOf legal few ended⟩
  · rintro earlier later rfl
    exact records_prefix (LegalFrom.append_iff.mp legal).1 legal
  · rintro earlier call later other place rfl about apart
    have unended : call ≠ .finish place := by
      rintro rfl
      cases about
      exact apart rfl
    have fewer : (begun (earlier ++ later)).length < UInt64.size := by
      rwa [begun_without about] at few
    rw [record?_run legal few, record?_run (legal.without about) fewer, recordOf_without about apart]
    simp [unended.symm]

/-- The second step ends first and is ended again, the first one takes a tag after its end, and the
third one never ends. -/
def crossedCalls : List StartupCall :=
  [.start "components", .start "classes", .tag 0 "count" "6", .finish 1, .start "methods", .finish 0,
    .tag 0 "late" "yes", .tag 2 "count" "1", .finish 1]

/-- Two steps end in the other order than they began, and a third one is never ended. -/
theorem crossed_steps_recorded :
    Legal crossedCalls ∧ (begun crossedCalls).length < UInt64.size ∧
      ((run crossedCalls).steps.map fun step => (step.id.toNat, step.name)) =
        [(1, "components"), (2, "classes"), (3, "methods")] ∧
      (run crossedCalls).recorder.steps =
        [{ id := 2, name := "classes" }, { id := 1, name := "components", tags := [("count", "6")] }] ∧
      (run (crossedCalls.take 4)).recorder.steps <+: (run crossedCalls).recorder.steps ∧
      record? (run (crossedCalls.eraseIdx 3)) 0 = record? (run crossedCalls) 0 := by
  have legal : Legal crossedCalls := by
    simp [crossedCalls, LegalFrom]
  have few : (begun crossedCalls).length < UInt64.size := by decide
  obtain ⟨numbers, records, _, _, keeps, apart⟩ := run_records legal few
  refine ⟨legal, few, ?_, ?_, ?_, ?_⟩
  · rw [numbers]
    rfl
  · rw [records]
    decide
  · exact keeps _ _ (List.take_append_drop 4 crossedCalls).symm
  · exact apart (crossedCalls.take 3) (.finish 1) (crossedCalls.drop 4) 1 0 rfl rfl (by decide)

end StartupCall

end BeanContainer
