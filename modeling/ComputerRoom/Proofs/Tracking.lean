import Mathlib.Data.List.Induction
import ComputerRoom.Tracked

/-!
A tracked value and its history: the value is the one that was brought last, a change is reported if
one was made since anybody asked, and the old value is the one that the last change replaced.
-/

namespace ComputerRoom

/-- One thing that is done to a tracked value. -/
inductive TrackedStep (α : Type) where
  /-- A value is stored, by force even if it is the current one. -/
  | set (value : α) (force : Bool)
  | reset (value : α)
  /-- Somebody asks whether there was a change. -/
  | poll
  deriving Repr, DecidableEq

namespace TrackedStep

variable {α : Type}

/-- The value that a step brings, if it brings one. -/
def value? : TrackedStep α → Option α
  | set value _ | reset value => some value
  | poll => none

/-- Whether a step leaves no change to report. -/
def settles : TrackedStep α → Bool
  | set _ _ => false
  | reset _ | poll => true

/-- The value that some steps bring last, or else the one there was before them. -/
def lastValue (initial : α) (steps : List (TrackedStep α)) : α :=
  (steps.filterMap (·.value?)).getLast?.getD initial

/-- A step at the end brings the last value if it brings any. -/
theorem lastValue_concat (initial : α) (steps : List (TrackedStep α)) (step : TrackedStep α) :
    lastValue initial (steps ++ [step]) = step.value?.getD (lastValue initial steps) := by
  cases brought : step.value? <;> simp [lastValue, List.filterMap_append, brought]

end TrackedStep

/-- Storing a value makes it the current one, whether or not it was before. -/
@[simp] theorem Tracked.set_current {α : Type} [BEq α] [LawfulBEq α] (cell : Tracked α)
    (value : α) : (cell.set value).current = value := by
  -- A value that is not stored is the current one already.
  unfold Tracked.set
  split
  · rfl
  · rename_i same
    simpa using Eq.symm (by simpa using same)

namespace Tracked

variable {α : Type} [BEq α]

/-- The cell after one step. -/
def step (cell : Tracked α) : TrackedStep α → Tracked α
  | .set value force => if force then cell.force value else cell.set value
  | .reset value => cell.reset value
  | .poll => cell.poll.2

/-- The cell after some steps. -/
def run (cell : Tracked α) (steps : List (TrackedStep α)) : Tracked α :=
  steps.foldl step cell

/-- Whether a step makes a change: it stores a value by force, or one that is not current. -/
def changesBy (cell : Tracked α) : TrackedStep α → Bool
  | .set value force => force || value != cell.current
  | _ => false

/-- Whether none of some steps makes a change. -/
def Rests (cell : Tracked α) (steps : List (TrackedStep α)) : Prop :=
  ∀ early step late, steps = early ++ step :: late → (cell.run early).changesBy step = false

variable {cell : Tracked α} {step : TrackedStep α} {steps : List (TrackedStep α)}

/-- The first step hands its cell to the rest. -/
@[simp] theorem run_cons (first : TrackedStep α) (rest : List (TrackedStep α)) :
    cell.run (first :: rest) = (cell.step first).run rest := rfl

/-- The last step is done to the cell that the others left. -/
@[simp] theorem run_concat (steps : List (TrackedStep α)) (last : TrackedStep α) :
    cell.run (steps ++ [last]) = (cell.run steps).step last := by
  simp [run]

/-- A run can be cut into a first and a second part. -/
theorem run_append (first second : List (TrackedStep α)) :
    cell.run (first ++ second) = (cell.run first).run second :=
  List.foldl_append

/-- A step that makes a change has the value before it replaced. -/
theorem step_of_changesBy (changes : cell.changesBy step = true) :
    ∃ value, step.value? = some value ∧ step.settles = false ∧
      cell.step step = ⟨cell.current, value, true⟩ := by
  cases step with
  | set value force =>
    refine ⟨value, rfl, rfl, ?_⟩
    -- By force or not, the value is stored.
    cases force with
    | true => rfl
    | false =>
      have differs : (value != cell.current) = true := by simpa [changesBy] using changes
      simp [Tracked.step, Tracked.set, differs, Tracked.force]
  | reset | poll => simp [changesBy] at changes

/-- A set that makes no change leaves the cell alone, and brings what is there already. -/
theorem step_of_rests (rests : cell.changesBy step = false) (unsettled : step.settles = false) :
    ∃ value, step.value? = some value ∧ (value == cell.current) = true ∧ cell.step step = cell := by
  cases step with
  | set value force =>
    simp only [changesBy, Bool.or_eq_false_iff] at rests
    obtain ⟨unforced, same⟩ := rests
    refine ⟨value, rfl, by simpa [bne] using same, ?_⟩
    simp [Tracked.step, unforced, Tracked.set, same]
  | reset | poll => simp [TrackedStep.settles] at unsettled

/-- A step that settles a cell makes both of its values the one that is brought or there. -/
theorem step_of_settles (settles : step.settles = true) :
    cell.step step = start (step.value?.getD cell.current) := by
  cases step with
  | set => simp [TrackedStep.settles] at settles
  | reset | poll => rfl

/-- Rest goes on after its first step. -/
theorem Rests.cons (rests : cell.Rests (step :: steps)) :
    cell.changesBy step = false ∧ (cell.step step).Rests steps := by
  refine ⟨rests [] step steps rfl, ?_⟩
  intro early later late cut
  exact rests (step :: early) later late (by rw [cut, List.cons_append])

/-- Sets that make no change leave the cell as it was. -/
theorem Rests.run_eq (rests : cell.Rests steps) (unsettled : steps.any (·.settles) = false) :
    cell.run steps = cell := by
  induction steps with
  | nil => rfl
  | cons first rest ih =>
    simp only [List.any_cons, Bool.or_eq_false_iff] at unsettled
    obtain ⟨still, later⟩ := rests.cons
    obtain ⟨_, _, _, same⟩ := step_of_rests still unsettled.1
    rw [same] at later
    rw [run_cons, same]
    exact ih later unsettled.2

/-- Without a change the old value stays, until a step settles the cell with the current one. -/
theorem Rests.run_old (rests : cell.Rests steps) :
    (cell.run steps).old =
      if steps.any (·.settles) then (cell.run steps).current else cell.old := by
  induction steps generalizing cell with
  | nil => rfl
  | cons first rest ih =>
    obtain ⟨still, later⟩ := rests.cons
    rw [run_cons, ih later, List.any_cons]
    cases settled : rest.any (·.settles) with
    | true => simp
    | false =>
      -- Nothing happens after the first step, so it decides alone.
      rw [later.run_eq settled]
      cases settles : first.settles with
      | true => simp [step_of_settles settles, start]
      | false =>
        obtain ⟨_, _, _, same⟩ := step_of_rests still settles
        simp [same]

section Equality

variable [EquivBEq α]

/-- There is a change to report after a step if it makes one, or leaves one that there was. -/
theorem step_pending (cell : Tracked α) (step : TrackedStep α) :
    (cell.step step).pending = (cell.changesBy step || (cell.pending && !step.settles)) := by
  cases settles : step.settles with
  | true =>
    -- What settles a cell is no set, and makes both values the same.
    have quiet : cell.changesBy step = false := by
      cases step with
      | set => simp [TrackedStep.settles] at settles
      | reset | poll => rfl
    rw [step_of_settles settles, quiet]
    simp [start, pending, bne]
  | false =>
    cases changes : cell.changesBy step with
    | true =>
      obtain ⟨_, _, _, changed⟩ := step_of_changesBy changes
      simp [changed, pending]
    | false =>
      obtain ⟨_, _, _, same⟩ := step_of_rests changes settles
      simp [same]

/-- The current value is the one that was brought last. -/
theorem run_current (initial : α) (steps : List (TrackedStep α)) :
    (((start initial).run steps).current == TrackedStep.lastValue initial steps) = true := by
  induction steps using List.reverseRecOn with
  | nil => exact BEq.rfl
  | append_singleton earlier last ih =>
    rw [run_concat, TrackedStep.lastValue_concat]
    cases changes : ((start initial).run earlier).changesBy last with
    | true =>
      obtain ⟨value, brought, _, changed⟩ := step_of_changesBy changes
      simp [changed, brought]
    | false =>
      cases settles : last.settles with
      | true =>
        rw [step_of_settles settles]
        cases brought : last.value? with
        | none => exact ih
        | some value => exact BEq.rfl
      | false =>
        -- A value that is not stored is the current one, under the type's own equality.
        obtain ⟨value, brought, same, kept⟩ := step_of_rests changes settles
        rw [kept, brought]
        exact BEq.symm same

/-- There is a change to report if one was made and nothing settled the cell after it. -/
theorem run_pending_iff (initial : α) (steps : List (TrackedStep α)) :
    ((start initial).run steps).pending = true ↔
      ∃ early change late, steps = early ++ change :: late ∧
        ((start initial).run early).changesBy change = true ∧
        late.any (·.settles) = false := by
  induction steps using List.reverseRecOn with
  | nil => simp [run, start, pending, bne]
  | append_singleton earlier last ih =>
    rw [run_concat, step_pending, Bool.or_eq_true, Bool.and_eq_true, ih]
    constructor
    · rintro (changes | ⟨⟨early, change, late, rfl, changes, unsettled⟩, quiet⟩)
      · exact ⟨earlier, last, [], rfl, changes, rfl⟩
      · refine ⟨early, change, late ++ [last], by simp, changes, ?_⟩
        simpa [unsettled] using quiet
    · rintro ⟨early, change, late, cut, changes, unsettled⟩
      -- The change is the last step, or stands before it.
      rcases List.eq_nil_or_concat late with rfl | ⟨before, final, rfl⟩
      · obtain ⟨rfl, rfl⟩ : earlier = early ∧ last = change := by simpa using cut
        exact .inl changes
      · have apart : earlier ++ [last] = (early ++ change :: before) ++ [final] := by
          simpa using cut
        obtain ⟨rfl, rfl⟩ : earlier = early ++ change :: before ∧ last = final := by
          simpa using List.append_inj' apart rfl
        rw [List.concat_eq_append, List.any_append, Bool.or_eq_false_iff] at unsettled
        exact .inr ⟨⟨early, change, before, rfl, changes, unsettled.1⟩, by simpa using unsettled.2⟩

/--
A tracked value tells just what its history says. The current value is the one brought last. A
change is reported if one was made since the value was created, reset or asked for changes, whatever
is stored after it. The old value is the one that the last change replaced, and is the current one
if something settled the cell since, or if there was no change.
-/
theorem run_tells_history (initial : α) (history : List (TrackedStep α)) :
    let cell := (start initial).run history
    (cell.current == TrackedStep.lastValue initial history) = true ∧
      (cell.poll.1 = true ↔
        ∃ early change late, history = early ++ change :: late ∧
          ((start initial).run early).changesBy change = true ∧
          late.any (·.settles) = false) ∧
      (∀ early change late, history = early ++ change :: late →
        ((start initial).run early).changesBy change = true →
        ((start initial).run (early ++ [change])).Rests late →
        cell.old = if late.any (·.settles) then cell.current
          else ((start initial).run early).current) ∧
      ((start initial).Rests history → cell.old = cell.current) := by
  intro cell
  refine ⟨run_current initial history, run_pending_iff initial history, ?_, ?_⟩
  · intro early change late cut changes rests
    -- The change replaced the value before it, and nothing replaced that again.
    obtain ⟨value, _, _, changed⟩ := step_of_changesBy changes
    have after : cell = ((start initial).run (early ++ [change])).run late := by
      rw [← run_append, List.append_assoc]
      exact congrArg (start initial).run cut
    rw [after, rests.run_old, run_concat, changed]
  · intro rests
    have told : cell.old = if history.any (·.settles) then cell.current else initial :=
      rests.run_old
    cases settled : history.any (·.settles) with
    | true => rw [told, settled, if_pos rfl]
    | false =>
      -- Nothing ever happened to the cell.
      have same : cell = start initial := rests.run_eq settled
      rw [same]
      rfl

end Equality

/--
Numbers told apart by their last digits: a number like the current one is not stored, a number
stored by force is a change, and a change that is taken back is reported all the same.
-/
theorem run_tells_history_digits :
    let alike : BEq Nat := ⟨fun left right => decide (left % 10 = right % 10)⟩
    let history : List (TrackedStep Nat) :=
      [.set 4 true, .poll, .set 14 false, .set 25 false, .set 34 false, .set 4 false]
    let cell := @Tracked.run Nat alike (.start 1) history
    cell.current % 10 = 4 ∧ (@Tracked.poll Nat alike cell).1 = true ∧ cell.old = 25 := by
  intro alike history cell
  -- Having the same last digit is an equivalence, which is all that is asked of the equality.
  have equivalence : @EquivBEq Nat alike :=
    { rfl := decide_eq_true rfl
      symm := fun same => decide_eq_true (of_decide_eq_true same).symm
      trans := fun first second =>
        decide_eq_true ((of_decide_eq_true first).trans (of_decide_eq_true second)) }
  obtain ⟨current, reported, old, _⟩ := @run_tells_history Nat alike equivalence 1 history
  refine ⟨of_decide_eq_true current, reported.mpr ?_, ?_⟩
  · exact ⟨[.set 4 true, .poll, .set 14 false], .set 25 false, [.set 34 false, .set 4 false], rfl,
      rfl, rfl⟩
  · -- The last set brings a number like the one that is there.
    refine old [.set 4 true, .poll, .set 14 false, .set 25 false] (.set 34 false) [.set 4 false]
      rfl (by decide) ?_
    intro early step late cut
    obtain ⟨rfl, rfl, rfl⟩ : early = [] ∧ step = .set 4 false ∧ late = [] := by
      cases early with
      | nil => simpa [eq_comm] using cut
      | cons => simp at cut
    decide

end Tracked

end ComputerRoom
