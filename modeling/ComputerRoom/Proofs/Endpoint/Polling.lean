import ComputerRoom.Endpoint.Snapshot
import ComputerRoom.Proofs.Endpoint.Learning

/-! Whoever asks an endpoint for changes from time to time misses none of them. -/

namespace ComputerRoom

namespace Tracked

variable {α : Type} [BEq α]

/-- There is something to report of a stored value if there was before, or if it is another one. -/
@[simp] theorem set_pending (cell : Tracked α) (value : α) :
    (cell.set value).pending = (cell.pending || value != cell.current) := by
  -- A value that is the current one is not stored.
  unfold set
  cases other : value != cell.current with
  | true => simp [force, pending]
  | false => simp

variable [LawfulBEq α]

/-- A value to start from is nothing to report. -/
@[simp] theorem start_pending (value : α) : (start value).pending = false := by
  simp [start, pending]

/-- Nothing is left to report of a cell that was settled. -/
@[simp] theorem settle_pending (cell : Tracked α) : cell.settle.pending = false :=
  start_pending cell.current

/-- Storing the current value changes nothing. -/
@[simp] theorem set_self (cell : Tracked α) : cell.set cell.current = cell := by
  simp [set]

end Tracked

namespace Watched

/-- What the watched cells hold. -/
def values (watched : Watched) : Connection × Option String × Option FlagMask × Bool :=
  (watched.state.current, watched.username.current, watched.flags.current,
    watched.teacher.current)

/-- Whether some watched cell has a change to report. -/
def pending (watched : Watched) : Bool :=
  watched.state.pending || watched.flags.pending || watched.username.pending ||
    watched.teacher.pending

/-- The cells once each of them was told a value. -/
def store (watched : Watched) (values : Connection × Option String × Option FlagMask × Bool) :
    Watched where
  state := watched.state.set values.1
  username := watched.username.set values.2.1
  flags := watched.flags.set values.2.2.1
  teacher := watched.teacher.set values.2.2.2

/-- Whether nothing is known of a user, and nothing about one is to be reported, without a link. -/
def UserOnlyWhenUp (watched : Watched) : Prop :=
  watched.state.current.isUp = false → watched.forgetUser = watched

variable (watched : Watched) (values : Connection × Option String × Option FlagMask × Bool)

/-- Cells that were settled have nothing to report. -/
@[simp] theorem settle_pending : watched.settle.pending = false := by
  simp [settle, pending]

/-- The cells hold what they were told. -/
@[simp] theorem store_values : (watched.store values).values = values := by
  simp [Watched.values, store]

/-- Cells that are told what they hold stay as they are. -/
@[simp] theorem store_self : watched.store watched.values = watched := by
  simp [values, store]

/-- Told some values, the cells have something to report if they had before, or held others. -/
theorem store_pending_iff :
    (watched.store values).pending = true ↔ watched.pending = true ∨ values ≠ watched.values := by
  obtain ⟨state, username, flags, teacher⟩ := values
  -- What is to report of each cell is known, so that only their order is left to look at.
  simp only [pending, store, Watched.values, Tracked.set_pending, Bool.or_eq_true, bne_iff_ne,
    ne_eq, Prod.mk.injEq]
  grind

/-- Moving the connection tells the other cells what they hold already. -/
theorem moveTo_eq_store (state : Connection) :
    watched.moveTo state = watched.store (state, watched.values.2) := by
  simp [moveTo, store, Watched.values]

end Watched

/-- Whether an episode writes: some watched cell holds another value after it. -/
def Episode.Writes (episode : Episode) : Prop :=
  episode.reaction.endpoint.watched.values ≠ episode.before.watched.values

/-- Whether an episode takes reports about the user and the flags only over a link that is up. -/
def Episode.hearsOverLink (episode : Episode) : Bool :=
  match episode.operation.signal? episode.before.session with
  | some (.identity _ _) | some (.flags _) => episode.before.state.current.isUp
  | _ => true

namespace Endpoint

variable {settings : Settings} {endpoint : Endpoint} {operation : Operation}

/-- Whatever happens, nothing is known of a user without a link. -/
theorem userOnlyWhenUp_operate (before : endpoint.watched.UserOnlyWhenUp)
    (heard : Episode.hearsOverLink ⟨endpoint, operation, endpoint.operate settings operation⟩) :
    (endpoint.operate settings operation).endpoint.watched.UserOnlyWhenUp := by
  unfold Watched.UserOnlyWhenUp at before ⊢
  cases operate_learns settings endpoint operation with
  | kept _ cells => rwa [cells]
  | polled _ cells =>
    rw [cells]
    intro down
    -- Settling takes nothing from the cells of a user who is not known.
    have blank := before down
    rw [← blank]
    rfl
  | rose _ _ up cells =>
    rw [cells]
    intro down
    simp [Watched.moveTo, up] at down
  | fell state _ _ already cells =>
    rw [cells]
    intro _
    exact congrArg (·.moveTo state) (before already)
  | lost _ _ _ cells =>
    rw [cells]
    exact fun _ => rfl
  | identified known cells | flagged known cells =>
    rw [cells]
    intro down
    -- A report is only heard over a link that is up.
    simp only [Episode.hearsOverLink, known] at heard
    exact absurd (heard.symm.trans down) (by simp)

/-- An operation tells the watched cells some values, unless it takes a link down that was up. -/
theorem operate_stores (settings : Settings) (before : endpoint.watched.UserOnlyWhenUp)
    (other : operation ≠ .poll) :
    let after := (endpoint.operate settings operation).endpoint.watched
    (∃ values, after = endpoint.watched.store values) ∨
      ∃ state : Connection, state ≠ endpoint.state.current ∧
        after = (endpoint.watched.moveTo state).forgetUser := by
  intro after
  cases operate_learns settings endpoint operation with
  | kept _ cells => exact .inl ⟨_, cells.trans (Watched.store_self _).symm⟩
  | polled asked => exact absurd asked other
  | rose _ _ _ cells | fell _ _ _ _ cells =>
    exact .inl ⟨_, cells.trans (Watched.moveTo_eq_store _ _)⟩
  | lost state _ down cells =>
    cases up : endpoint.state.current.isUp with
    | true =>
      -- A link that was up is not the one that is down.
      refine .inr ⟨state, ?_, cells⟩
      rintro rfl
      simp [up] at down
    | false =>
      -- There is no user to forget, so that only the state is written.
      have blank : (endpoint.watched.moveTo state).forgetUser = endpoint.watched.moveTo state :=
        congrArg (·.moveTo state) (before up)
      exact .inl ⟨_, (cells.trans blank).trans (Watched.moveTo_eq_store _ _)⟩
  | @identified username _ teaches _ cells =>
    refine .inl ⟨(endpoint.state.current, nonEmpty? username, endpoint.flags.current, teaches), ?_⟩
    simp [after, cells, Watched.store, watched]
  | @flagged mask _ cells =>
    refine .inl ⟨(endpoint.state.current, endpoint.username.current, some mask,
      endpoint.teacher.current), ?_⟩
    simp [after, cells, Watched.store, watched]

/-- An operation leaves something to report if there was something before, or if it writes. -/
theorem pending_operate_iff (before : endpoint.watched.UserOnlyWhenUp)
    (other : operation ≠ .poll) :
    (endpoint.operate settings operation).endpoint.watched.pending = true ↔
      endpoint.watched.pending = true ∨
        Episode.Writes ⟨endpoint, operation, endpoint.operate settings operation⟩ := by
  unfold Episode.Writes
  obtain ⟨values, stored⟩ | ⟨state, moved, lost⟩ := operate_stores settings before other
  · simp only [stored, Watched.store_values]
    exact Watched.store_pending_iff _ values
  · -- What was to report of the user is forgotten, but the state tells that something happened.
    rw [lost]
    simp [Watched.moveTo, Watched.forgetUser, Watched.pending, Watched.values, watched, moved]

section Run

variable {operations : List Operation}

/-- Nothing is known of a user without a link, however long a run goes on. -/
theorem userOnlyWhenUp_run (before : endpoint.watched.UserOnlyWhenUp)
    (heard : ∀ episode ∈ endpoint.episodes settings operations, episode.hearsOverLink) :
    (endpoint.run settings operations).endpoint.watched.UserOnlyWhenUp := by
  -- Each operation finds what the one before it left.
  induction operations generalizing endpoint with
  | nil => exact before
  | cons operation rest ih =>
    obtain ⟨now, later⟩ := List.forall_mem_cons.mp heard
    exact ih (userOnlyWhenUp_operate before now) later

/-- A run in which nobody asks leaves something to report if there was before, or if it writes. -/
theorem pending_run_iff (before : endpoint.watched.UserOnlyWhenUp)
    (heard : ∀ episode ∈ endpoint.episodes settings operations, episode.hearsOverLink)
    (others : ∀ operation ∈ operations, operation ≠ .poll) :
    (endpoint.run settings operations).endpoint.watched.pending = true ↔
      endpoint.watched.pending = true ∨
        ∃ episode ∈ endpoint.episodes settings operations, episode.Writes := by
  -- What one operation leaves to report is still there after the others.
  induction operations generalizing endpoint with
  | nil => simp [episodes]
  | cons operation rest ih =>
    obtain ⟨other, unasked⟩ := List.forall_mem_cons.mp others
    obtain ⟨now, later⟩ := List.forall_mem_cons.mp heard
    have rest := ih (userOnlyWhenUp_operate before now) later unasked
    rw [run_cons_endpoint, rest, pending_operate_iff before other, episodes]
    simp [or_assoc]

/-- A run without writes leaves the watched cells with the values that they had. -/
theorem run_values_of_silent
    (silent : ∀ episode ∈ endpoint.episodes settings operations, ¬ episode.Writes) :
    (endpoint.run settings operations).endpoint.watched.values = endpoint.watched.values := by
  -- An operation that does not write leaves the values as they are.
  induction operations generalizing endpoint with
  | nil => rfl
  | cons operation rest ih =>
    obtain ⟨now, later⟩ := List.forall_mem_cons.mp silent
    exact (ih later).trans (Decidable.not_not.mp now)

/-- The view of an endpoint is made of whom it is linked to and of its watched cells. -/
theorem snapshot_eq_of_values {other : Endpoint} (owner : endpoint.link.owner = other.link.owner)
    (values : endpoint.watched.values = other.watched.values) :
    endpoint.snapshot = other.snapshot := by
  simp only [Link.owner, link, Prod.mk.injEq] at owner
  simp only [Watched.values, watched, Prod.mk.injEq] at values
  obtain ⟨_, machine, address⟩ := owner
  obtain ⟨state, username, flags, teacher⟩ := values
  simp [snapshot, name, ip, flag, machine, address, state, username, flags, teacher]

/--
Whoever asks an endpoint for changes is told of one exactly if some watched cell was given another
value since the last time. Whoever is told of none sees what was seen then, and asking again at
once tells of none. Reports about the user and the flags come only over links that are up.
-/
theorem poll_iff_written {serial created : Nat} {machine : Machine} {prober : Option Prober}
    {fresh : Endpoint} (made : create serial created machine prober = .ok fresh)
    {settings : Settings} {earlier since : List Operation}
    (asked : earlier = [] ∨ ∃ before, earlier = before ++ [.poll])
    (unasked : ∀ operation ∈ since, operation ≠ .poll)
    (heard : ∀ episode ∈ fresh.episodes settings (earlier ++ since), episode.hearsOverLink) :
    let last := (fresh.run settings earlier).endpoint
    let now := (last.run settings since).endpoint
    (now.poll.1 = true ↔ ∃ episode ∈ last.episodes settings since, episode.Writes) ∧
      (now.poll.1 = false → now.snapshot = last.snapshot ∧
        now.flags.current = last.flags.current) ∧
      now.poll.2.poll.1 = false := by
  intro last now
  rw [episodes_append] at heard
  obtain ⟨first, second⟩ := List.forall_mem_append.mp heard
  have blank : fresh.watched.UserOnlyWhenUp := by
    obtain ⟨address, _, rfl⟩ := create_eq_ok_iff.mp made
    exact fun _ => rfl
  have settled : last.watched.pending = false := by
    -- There was nothing to report of the new endpoint, and whoever asks settles it.
    rcases asked with rfl | ⟨before, rfl⟩
    · obtain ⟨address, _, rfl⟩ := create_eq_ok_iff.mp made
      simp [last, watched, Watched.pending, idle]
    · simp only [last, run_concat]
      exact Watched.settle_pending (fresh.run settings before).endpoint.watched
  have exactly : now.poll.1 = true ↔ last.watched.pending = true ∨
      ∃ episode ∈ last.episodes settings since, episode.Writes :=
    pending_run_iff (userOnlyWhenUp_run blank first) second unasked
  have told : now.poll.1 = true ↔ ∃ episode ∈ last.episodes settings since, episode.Writes :=
    exactly.trans (by simp [settled])
  -- Asking twice in a row finds the cells settled.
  refine ⟨told, ?_, Watched.settle_pending now.watched⟩
  intro quiet
  have silent : ∀ episode ∈ last.episodes settings since, ¬ episode.Writes := by
    intro episode member writes
    simp [told.mpr ⟨episode, member, writes⟩] at quiet
  have values := run_values_of_silent silent
  exact ⟨snapshot_eq_of_values (run_moves settings last since).owner_eq values,
    congrArg (·.2.2.1) values⟩

/-- A link that was lost and is up again is a change, even though the state is what it was. -/
theorem poll_iff_written_recovered :
    let settings : Settings := ⟨11100, 11400, 1000, 5000, 30000, 1000000000⟩
    let roster : Roster := ⟨.empty, .new ⟨[], false⟩⟩
    let machine : Machine := ⟨"cn=pc01", "pc01", ["10.0.0.11"], [], none, .linux⟩
    let fresh := idle 0 0 machine ⟨"10.0.0.11", none⟩
    let event (now : Nat) (signal : Signal) : Operation := .event now roster ⟨0, 1⟩ signal
    let earlier : List Operation := [.connect, event 10 (.state .connected),
      event 20 (.state .connected), event 30 (.identity "pupil" ""), event 40 (.flags (.ofNat 8))]
    let since := [event 60 (.state .disconnected), event 70 (.state .connected)]
    let last := (fresh.run settings (earlier ++ [.poll])).endpoint
    let now := (last.run settings since).endpoint
    create 0 0 machine none = .ok fresh ∧
      (∀ operation ∈ since, operation ≠ .poll) ∧
      (∀ episode ∈ fresh.episodes settings (earlier ++ [.poll] ++ since), episode.hearsOverLink) ∧
      now.state.current = last.state.current ∧
      now.poll.1 = true ∧ (∃ episode ∈ last.episodes settings since, episode.Writes) ∧
      now.poll.2.poll.1 = false := by
  intro settings roster machine fresh event earlier since last now
  have made : create 0 0 machine none = .ok fresh := rfl
  have unasked : ∀ operation ∈ since, operation ≠ .poll := by simp [since, event]
  have heard : ∀ episode ∈ fresh.episodes settings (earlier ++ [.poll] ++ since),
      episode.hearsOverLink := by decide +kernel
  have told : now.poll.1 = true := by decide +kernel
  obtain ⟨exactly, _, again⟩ := @poll_iff_written 0 0 machine none fresh made settings
    (earlier ++ [.poll]) since (.inr ⟨earlier, rfl⟩) unasked heard
  have same : now.state.current = last.state.current := by decide +kernel
  clear_value earlier
  exact ⟨made, unasked, heard, same, told, exactly.mp told, again⟩

end Run

end Endpoint

end ComputerRoom
