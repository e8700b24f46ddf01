/-
This file says that a character that was lowered stays as it is when it is lowered again, because no
run of the table leads back into the table.
-/

import BeanContainer.Text.Characters

namespace BeanContainer.Text

/-- No code point of the first run, moved by the distance, lies in the second run. Either all of
them lie to one side of it, or the second run holds every second code point and they are those
between. -/
def CodeRun.isApart (run : CodeRun) (distance : Int) (other : CodeRun) : Bool :=
  Nat.blt (run.last + distance).toNat other.first ||
    Nat.blt other.last (run.first + distance).toNat ||
      ((run.step == 2 || run.first == run.last) && other.step == 2 &&
        (run.first + distance - other.first) % 2 == 1)

/-- A run contains every code point from its first to its last that its step reaches. -/
theorem CodeRun.contains_iff {run : CodeRun} {code : Nat} :
    run.contains code = true ↔
      run.first ≤ code ∧ code ≤ run.last ∧ (code - run.first) % run.step = 0 := by
  simp [contains, and_assoc]

/-- The check compares the ends of the runs, and then their parity. -/
theorem CodeRun.isApart_iff {run other : CodeRun} {distance : Int} :
    run.isApart distance other = true ↔
      (run.last + distance).toNat < other.first ∨ other.last < (run.first + distance).toNat ∨
        (run.step = 2 ∨ run.first = run.last) ∧ other.step = 2 ∧
          (run.first + distance - other.first) % 2 = 1 := by
  simp [isApart, Nat.blt_eq, or_assoc, and_assoc]

/-- A code point of a run never moves into a run that is apart from it. -/
theorem CodeRun.contains_eq_false_of_isApart {run other : CodeRun} {distance : Int}
    {code moved : Nat} (apart : run.isApart distance other = true)
    (inside : run.contains code = true) (reached : (moved : Int) = code + distance) :
    other.contains moved = false := by
  rw [Bool.eq_false_iff]
  intro otherInside
  obtain ⟨above, below, steps⟩ := contains_iff.mp inside
  obtain ⟨otherAbove, otherBelow, otherSteps⟩ := contains_iff.mp otherInside
  obtain left | right | ⟨narrow, wide, odd⟩ := isApart_iff.mp apart
  · omega
  · omega
  · rw [wide] at otherSteps
    obtain even | single := narrow
    · rw [even] at steps
      omega
    · omega

/-- No run of the table leads back into the table. -/
theorem lowercaseRuns_isApart : (lowercaseRuns.all fun run =>
    lowercaseRuns.all fun other => run.1.isApart run.2 other.1) = true := by
  decide +kernel

/-- Any two runs of the table are apart. -/
theorem isApart_of_mem {run other : CodeRun × Int} (member : run ∈ lowercaseRuns)
    (otherMember : other ∈ lowercaseRuns) : run.1.isApart run.2 other.1 = true :=
  List.all_eq_true.mp (List.all_eq_true.mp lowercaseRuns_isApart run member) other otherMember

/-- No run of the table leads to the dotted capital I, which is written as a run of its own here. -/
theorem lowercaseRuns_isApart_dotted :
    ∀ run ∈ lowercaseRuns, run.1.isApart run.2 ⟨0x130, 0x130, 2⟩ = true := by
  decide +kernel

/-- A character outside the table is kept. -/
theorem lowercase_of_unlisted {character : Char} (plain : character.toNat ≠ 0x130)
    (unlisted : ∀ run ∈ lowercaseRuns, run.1.contains character.toNat = false) :
    lowercase character = [character] := by
  have none : (lowercaseRuns.find? fun run => run.1.contains character.toNat) = none :=
    List.find?_eq_none.mpr fun run member => by rw [unlisted run member]; exact Bool.false_ne_true
  rw [lowercase, if_neg (by simpa using plain), none]

/-- A character that the table leads to is kept. -/
theorem lowercase_of_moved {lowered : Char} {run : CodeRun × Int} {code : Nat}
    (member : run ∈ lowercaseRuns) (inside : run.1.contains code = true)
    (moved : (lowered.toNat : Int) = code + run.2) : lowercase lowered = [lowered] := by
  refine lowercase_of_unlisted (fun dotted => ?_) fun other otherMember => ?_
  · have missed := CodeRun.contains_eq_false_of_isApart (lowercaseRuns_isApart_dotted run member)
      inside moved
    rw [dotted] at missed
    cases missed
  · exact CodeRun.contains_eq_false_of_isApart (isApart_of_mem member otherMember) inside moved

/-- The zero character is kept. -/
theorem lowercase_of_zero {lowered : Char} (zero : lowered.toNat = 0) :
    lowercase lowered = [lowered] := by
  have unlisted : ∀ run ∈ lowercaseRuns, run.1.contains 0 = false := by decide +kernel
  refine lowercase_of_unlisted (by rw [zero]; exact Nat.zero_ne_add_one _) ?_
  rwa [zero]

/-- A number that is no code point makes the zero character. -/
theorem toNat_ofNat_or (code : Nat) :
    (Char.ofNat code).toNat = code ∨ (Char.ofNat code).toNat = 0 := by
  by_cases valid : code.isValidChar
  · rw [Char.ofNat, dif_pos valid]
    exact .inl rfl
  · rw [Char.ofNat, dif_neg valid]
    exact .inr rfl

/-- The lower-case form starts with a character that is in lower case already. -/
theorem exists_lowercase_eq_cons (character : Char) :
    ∃ lowered rest, lowercase character = lowered :: rest ∧ lowercase lowered = [lowered] := by
  by_cases dotted : character.toNat = 0x130
  · refine ⟨'i', [Char.ofNat 0x307], ?_, by decide +kernel⟩
    rw [lowercase, if_pos (by simpa using dotted)]
  · cases found : lowercaseRuns.find? fun run => run.1.contains character.toNat with
    | none =>
        have unlisted : lowercase character = [character] := by
          rw [lowercase, if_neg (by simpa using dotted), found]
        exact ⟨character, [], unlisted, unlisted⟩
    | some run =>
        refine ⟨Char.ofNat (character.toNat + run.2).toNat, [], ?_, ?_⟩
        · rw [lowercase, if_neg (by simpa using dotted), found]
        · have inside : run.1.contains character.toNat = true := by
            simpa using List.find?_some found
          obtain code | zero := toNat_ofNat_or (character.toNat + run.2).toNat
          · by_cases negative : (character.toNat : Int) + run.2 < 0
            · exact lowercase_of_zero (by omega)
            · exact lowercase_of_moved (List.mem_of_find?_eq_some found) inside (by omega)
          · exact lowercase_of_zero zero

end BeanContainer.Text
