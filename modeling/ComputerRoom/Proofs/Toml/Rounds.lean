import ComputerRoom.Toml.Reader

/-! Reading again and again: what the rounds come to, one after the other. -/

namespace ComputerRoom.Toml

variable {α : Type} {round : List Char → Option (Round α)}

/-- The items that rounds take from a text until one stops, and what that one leaves. -/
inductive Rounds (round : List Char → Option (Round α)) :
    List Char → List α → List Char → Prop where
  | stop {text rest : List Char} (stops : round text = some (.stop rest)) :
      Rounds round text [] rest
  | item {text next rest : List Char} {value : α} {values : List α}
      (takes : round text = some (.item value next)) (shorter : next.length < text.length)
      (later : Rounds round next values rest) : Rounds round text (value :: values) rest

namespace Rounds

variable {text rest : List Char} {values : List α}

/-- Every item takes at least one character. -/
theorem length_le (rounds : Rounds round text values rest) : values.length ≤ text.length := by
  induction rounds with
  | stop stops => exact Nat.zero_le _
  | item takes shorter later ih =>
    rw [List.length_cons]
    omega

/-- Any limit beyond the number of items lets the rounds come to their end. -/
theorem roundsWithin_eq (rounds : Rounds round text values rest) {limit : Nat}
    (enough : values.length < limit) : roundsWithin round limit text = some (values, rest) := by
  -- Each round leaves the rounds after it one less than its own limit.
  induction rounds generalizing limit with
  | stop stops =>
    obtain ⟨limit, rfl⟩ := Nat.exists_eq_add_of_lt enough
    simp [roundsWithin, stops]
  | item takes shorter later ih =>
    cases limit with
    | zero => contradiction
    | succ limit => simp [roundsWithin, takes, ih (Nat.lt_of_succ_lt_succ enough)]

/-- Reading again and again comes to what the rounds come to. -/
theorem repeated_eq (rounds : Rounds round text values rest) :
    repeated round text = some (values, rest) :=
  rounds.roundsWithin_eq (Nat.lt_succ_of_le rounds.length_le)

/-- Rounds that find nothing in an empty text take something for each item that they find. -/
theorem front (front : List Char) {next : List Char} {value : α}
    (empty : ∀ found left, round [] ≠ some (.item found left))
    (takes : ∀ later, round (front ++ later) = some (.item value later))
    (later : Rounds round next values rest) :
    Rounds round (front ++ next) (value :: values) rest := by
  refine .item (takes next) ?_ later
  -- An empty front would let an empty text be taken for an item.
  have something : front ≠ [] := by
    intro nothing
    exact empty value [] (by simpa [nothing] using takes [])
  have := List.length_pos_iff.mpr something
  rw [List.length_append]
  omega

end Rounds

/-- The first round stops, or takes an item and leaves a smaller limit to the later ones. -/
theorem roundsWithin_cases {limit : Nat} {text rest : List Char} {values : List α}
    (reads : roundsWithin round (limit + 1) text = some (values, rest)) :
    round text = some (.stop rest) ∧ values = [] ∨
      ∃ value next later, round text = some (.item value next) ∧
        roundsWithin round limit next = some (later, rest) ∧ values = value :: later := by
  unfold roundsWithin at reads
  split at reads
  · contradiction
  · rename_i left stops
    obtain ⟨rfl, rfl⟩ : [] = values ∧ left = rest := by simpa using reads
    exact .inl ⟨stops, rfl⟩
  · rename_i value next takes
    split at reads
    · contradiction
    · rename_i later last rounds
      obtain ⟨rfl, rfl⟩ : value :: later = values ∧ last = rest := by simpa using reads
      exact .inr ⟨value, next, later, takes, rounds, rfl⟩

/-- A round that takes an item comes before those that a smaller limit allows. -/
theorem roundsWithin_item {limit : Nat} {text next rest : List Char} {value : α} {values : List α}
    (takes : round text = some (.item value next))
    (later : roundsWithin round limit next = some (values, rest)) :
    roundsWithin round (limit + 1) text = some (value :: values, rest) := by
  simp [roundsWithin, takes, later]

/-- A larger limit changes nothing about rounds that came to their end. -/
theorem roundsWithin_mono {limit larger : Nat} {text rest : List Char} {values : List α}
    (reads : roundsWithin round limit text = some (values, rest)) (more : limit ≤ larger) :
    roundsWithin round larger text = some (values, rest) := by
  -- Each round leaves both limits smaller by one.
  induction limit generalizing larger text values with
  | zero => contradiction
  | succ limit ih =>
    obtain ⟨larger, rfl⟩ := Nat.exists_eq_add_of_lt more
    obtain ⟨stops, rfl⟩ | ⟨value, next, later, takes, rounds, rfl⟩ :=
      roundsWithin_cases reads
    · simp [roundsWithin, stops]
    · exact roundsWithin_item takes (ih rounds (by omega))

/-- What every single item satisfies, all the items of repeated reading satisfy. -/
theorem forall_of_repeated {text rest : List Char} {values : List α} {holds : α → Prop}
    (each : ∀ start value next, round start = some (.item value next) → holds value)
    (reads : repeated round text = some (values, rest)) : ∀ value ∈ values, holds value := by
  -- The limit falls from round to round, whatever the text is.
  have within : ∀ (limit : Nat) (start : List Char) (items : List α),
      roundsWithin round limit start = some (items, rest) → ∀ value ∈ items, holds value := by
    intro limit
    induction limit with
    | zero => simp [roundsWithin]
    | succ limit ih =>
      intro start items reads
      obtain ⟨_, rfl⟩ | ⟨value, next, later, takes, rounds, rfl⟩ :=
        roundsWithin_cases reads
      · simp
      · exact List.forall_mem_cons.mpr ⟨each _ _ _ takes, ih _ _ rounds⟩
  exact within _ _ _ reads

end ComputerRoom.Toml
