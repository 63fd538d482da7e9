import Mathlib.Data.List.Induction
import ComputerRoom.Network.Wake

/-! The addresses that wake packets are sent from, one interface after the other. -/

namespace ComputerRoom.Config.Waking

/-- Whether an interface has an address, and neither list has its name or the start of it. -/
def Sends (wake : Waking) (source : Ipv4) (interface : Interface) : Prop :=
  interface.address = some source ∧ interface.name ∉ wake.skippedInterfaces ∧
    ∀ start ∈ wake.skippedStarts, ¬ start.toList <+: interface.name.toList

instance (wake : Waking) (source : Ipv4) : DecidablePred (wake.Sends source) :=
  fun _ => inferInstanceAs (Decidable (_ ∧ _))

/-- The place of the first interface at which an address is sent from. -/
def firstPlace (wake : Waking) (interfaces : List Interface) (source : Ipv4) : Nat :=
  interfaces.findIdx fun interface => decide (wake.Sends source interface)

section Steps

variable {wake : Waking} {interfaces : List Interface} {interface : Interface} {source : Ipv4}

/-- An interface sends from the address it has, unless it is left out. -/
theorem sends_iff :
    wake.Sends source interface ↔
      interface.address = some source ∧ wake.skips interface.name = false := by
  simp [Sends, skips, ← List.isPrefixOf_iff_prefix]

/-- Further interfaces go on from the addresses of those before them. -/
theorem sources_append (more : List Interface) : wake.sources (interfaces ++ more) =
    ((more.filter fun interface => !wake.skips interface.name).filterMap (·.address)).foldl
      addSource (wake.sources interfaces) := by
  simp [sources, List.filter_append, List.filterMap_append, List.foldl_append]

/-- An interface that sends from an address adds it. -/
theorem sources_concat_of_sends (sends : wake.Sends source interface) :
    wake.sources (interfaces ++ [interface]) = addSource (wake.sources interfaces) source := by
  obtain ⟨own, kept⟩ := sends_iff.mp sends
  simp [sources_append, own, kept]

/-- An interface that sends from no address adds none, wherever it comes. -/
theorem sources_of_not_sends (silent : ∀ source, ¬ wake.Sends source interface)
    (before after : List Interface) :
    wake.sources (before ++ interface :: after) = wake.sources (before ++ after) := by
  -- It is left out, or has no address to send from.
  have nothing : wake.skips interface.name = true ∨ interface.address = none := by
    cases own : interface.address with
    | none => exact .inr rfl
    | some source => simpa [sends_iff, own] using silent source
  rcases nothing with skipped | without
  · simp [sources_append, skipped]
  · cases kept : wake.skips interface.name <;> simp [sources_append, kept, without]

/-- An address that is added is there, and all that were there before. -/
theorem mem_addSource {sources : List Ipv4} {other : Ipv4} :
    other ∈ addSource sources source ↔ other ∈ sources ∨ other = source := by
  unfold addSource
  split
  · rename_i present
    have there : source ∈ sources := by simpa using present
    constructor
    · exact .inl
    · rintro (before | rfl)
      · exact before
      · exact there
  · simp

/-- What is added comes behind all that was there before. -/
theorem prefix_foldl_addSource (sources more : List Ipv4) :
    sources <+: more.foldl addSource sources := by
  induction more generalizing sources with
  | nil => exact List.prefix_refl sources
  | cons source rest ih =>
    have first : sources <+: addSource sources source := by
      unfold addSource
      split
      · exact List.prefix_refl sources
      · exact List.prefix_append sources [source]
    exact first.trans (ih _)

/-- Packets are sent from an address if, and only if, some interface sends from it. -/
theorem mem_sources_iff :
    source ∈ wake.sources interfaces ↔ ∃ interface ∈ interfaces, wake.Sends source interface := by
  -- The last interface adds its address, or nothing.
  induction interfaces using List.reverseRecOn with
  | nil => simp [sources]
  | append_singleton before last ih =>
    by_cases silent : ∀ source, ¬ wake.Sends source last
    · have unchanged := sources_of_not_sends silent before []
      rw [List.append_nil] at unchanged
      simp [unchanged, ih, silent]
    · obtain ⟨own, sends⟩ := not_forall_not.mp silent
      -- One interface has one address only.
      have alone : wake.Sends source last ↔ source = own := by
        constructor
        · rintro ⟨address, _⟩
          exact Option.some.inj (address.symm.trans sends.1)
        · rintro rfl
          exact sends
      simp [sources_concat_of_sends sends, mem_addSource, ih, alone, or_and_right, exists_or]

/-- An address has a first place if, and only if, some interface sends from it. -/
theorem firstPlace_lt_iff : wake.firstPlace interfaces source < interfaces.length ↔
    ∃ interface ∈ interfaces, wake.Sends source interface := by
  simp [firstPlace, List.findIdx_lt_length]

/-- What comes behind the first place of an address does not move it. -/
theorem firstPlace_append (sends : ∃ interface ∈ interfaces, wake.Sends source interface)
    (more : List Interface) :
    wake.firstPlace (interfaces ++ more) source = wake.firstPlace interfaces source := by
  have within := firstPlace_lt_iff.mpr sends
  unfold firstPlace at within ⊢
  rw [List.findIdx_append, if_pos within]

/-- An address that no interface sends from has no place before what comes behind them. -/
theorem length_le_firstPlace (silent : ¬ ∃ interface ∈ interfaces, wake.Sends source interface)
    (more : List Interface) :
    interfaces.length ≤ wake.firstPlace (interfaces ++ more) source := by
  have beyond := mt firstPlace_lt_iff.mp silent
  unfold firstPlace at beyond ⊢
  rw [List.findIdx_append, if_neg beyond]
  exact Nat.le_add_left ..

/-- The addresses are in the order of the first interfaces that send from them. -/
theorem sources_pairwise : (wake.sources interfaces).Pairwise fun earlier later =>
    wake.firstPlace interfaces earlier < wake.firstPlace interfaces later := by
  induction interfaces using List.reverseRecOn with
  | nil => exact .nil
  | append_singleton before last ih =>
    -- The last interface moves none of the first places before it.
    have kept : (wake.sources before).Pairwise fun earlier later =>
        wake.firstPlace (before ++ [last]) earlier < wake.firstPlace (before ++ [last]) later := by
      refine ih.imp_of_mem ?_
      intro earlier later first second inOrder
      rw [firstPlace_append (mem_sources_iff.mp first),
        firstPlace_append (mem_sources_iff.mp second)]
      exact inOrder
    by_cases silent : ∀ source, ¬ wake.Sends source last
    · have unchanged := sources_of_not_sends silent before []
      rw [List.append_nil] at unchanged
      rwa [unchanged]
    · obtain ⟨own, sends⟩ := not_forall_not.mp silent
      rw [sources_concat_of_sends sends]
      unfold addSource
      split
      · exact kept
      · -- An address that is new has its first place at the last interface, behind all others.
        rename_i absent
        refine List.pairwise_append.mpr ⟨kept, List.pairwise_singleton .., ?_⟩
        intro earlier present later new
        obtain rfl := List.mem_singleton.mp new
        have silentBefore := mt mem_sources_iff.mpr (by simpa using absent)
        have sending := mem_sources_iff.mp present
        calc wake.firstPlace (before ++ [last]) earlier
            = wake.firstPlace before earlier := firstPlace_append sending [last]
          _ < before.length := firstPlace_lt_iff.mpr sending
          _ ≤ wake.firstPlace (before ++ [last]) later := length_le_firstPlace silentBefore [last]

end Steps

/--
The addresses that packets are sent from: each once, and just those that some interface sends from,
in the order of the first such interfaces. An interface that is left out changes nothing, even if it
has the address of another one; longer lists of names and starts take addresses away at most; and
further interfaces add theirs at the end.
-/
theorem sources_of_interfaces (wake : Waking) (interfaces : List Interface) :
    (wake.sources interfaces).Nodup ∧
    (∀ source, source ∈ wake.sources interfaces ↔
      ∃ interface ∈ interfaces, wake.Sends source interface) ∧
    ((wake.sources interfaces).Pairwise fun earlier later =>
      wake.firstPlace interfaces earlier < wake.firstPlace interfaces later) ∧
    (∀ before excluded after, interfaces = before ++ excluded :: after →
      (excluded.name ∈ wake.skippedInterfaces ∨
        ∃ start ∈ wake.skippedStarts, start.toList <+: excluded.name.toList) →
      wake.sources interfaces = wake.sources (before ++ after)) ∧
    (∀ longer : Waking, wake.skippedInterfaces ⊆ longer.skippedInterfaces →
      wake.skippedStarts ⊆ longer.skippedStarts →
      longer.sources interfaces ⊆ wake.sources interfaces) ∧
    ∀ more, wake.sources interfaces <+: wake.sources (interfaces ++ more) := by
  -- The order rules out repetitions, and membership decides what interfaces and lists change.
  refine ⟨?_, fun source => mem_sources_iff, sources_pairwise, ?_, ?_, ?_⟩
  · -- Different places are places of different addresses.
    refine sources_pairwise.imp ?_
    rintro earlier later inOrder rfl
    exact Nat.lt_irrefl _ inOrder
  · rintro before excluded after rfl listed
    refine sources_of_not_sends ?_ before after
    rintro source ⟨_, unnamed, unlike⟩
    rcases listed with named | ⟨start, listed, begins⟩
    · exact unnamed named
    · exact unlike start listed begins
  · intro longer names starts source sent
    obtain ⟨interface, member, address, unnamed, unlike⟩ := mem_sources_iff.mp sent
    have sends : wake.Sends source interface :=
      ⟨address, fun named => unnamed (names named),
        fun start listed => unlike start (starts listed)⟩
    exact mem_sources_iff.mpr ⟨interface, member, sends⟩
  · intro more
    rw [sources_append]
    exact prefix_foldl_addSource _ _

/-- The address of a bridge that is left out is sent from at the card that has it too. -/
theorem sources_of_interfaces_bridge :
    let wake : Waking := ⟨["lo"], ["docker", "tun"], []⟩
    let longer : Waking := ⟨["lo", "wlan0"], ["docker", "tun"], []⟩
    let bridge : Interface := ⟨"docker0", some ⟨10, 0, 0, 7⟩⟩
    let cards : List Interface :=
      [⟨"eth0", some ⟨10, 0, 0, 5⟩⟩, ⟨"eth0", none⟩, ⟨"wlan0", some ⟨10, 0, 0, 7⟩⟩]
    wake.sources (bridge :: cards) = wake.sources cards ∧
      (⟨10, 0, 0, 7⟩ : Ipv4) ∈ wake.sources (bridge :: cards) ∧
      longer.sources (bridge :: cards) ⊆ wake.sources (bridge :: cards) := by
  intro wake longer bridge cards
  obtain ⟨_, sent, _, excluded, fewer, _⟩ := sources_of_interfaces wake (bridge :: cards)
  refine ⟨excluded [] bridge cards rfl (.inr ⟨"docker", by decide, by decide⟩), ?_, ?_⟩
  · exact (sent _).mpr ⟨⟨"wlan0", some ⟨10, 0, 0, 7⟩⟩, by decide, by decide⟩
  · exact fewer longer (by decide) (by decide)

end ComputerRoom.Config.Waking
