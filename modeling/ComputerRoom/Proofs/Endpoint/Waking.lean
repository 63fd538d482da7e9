import ComputerRoom.Endpoint.Order
import ComputerRoom.Proofs.Endpoint.Moves
import ComputerRoom.Proofs.HardwareAddress.Waking
import ComputerRoom.Proofs.Network.Address

/-! Which network card is woken when a machine has several of them. -/

namespace ComputerRoom

namespace HardwareAddress

/-- Delimiters have no case. -/
@[simp] theorem isDelimiter_toLower (char : Char) : isDelimiter char.toLower = isDelimiter char :=
  Text.of_toLower isDelimiter (by decide) char

/-- The digits of a text in lower case are what is left of the text in lower case. -/
theorem digits_map_toLower (input : String) : (digits input).map Char.toLower =
    (input.toList.map Char.toLower).filter fun char => !isDelimiter char := by
  have same : (fun char => !isDelimiter char) ∘ Char.toLower = fun char => !isDelimiter char :=
    funext fun char => congrArg not (isDelimiter_toLower char)
  rw [digits, List.filter_map, same]

/-- Texts that differ in the case of letters only are read as the same address. -/
theorem parse_eq_ok_iff_of_case {left right : String}
    (same : Text.equalIgnoringAsciiCase left right = true) {card : HardwareAddress} :
    parse left = .ok card ↔ parse right = .ok card := by
  have alike : left.toList.map Char.toLower = right.toList.map Char.toLower := beq_iff_eq.mp same
  rw [parse_eq_ok_iff_written, parse_eq_ok_iff_written, digits_map_toLower, alike,
    ← digits_map_toLower]

end HardwareAddress

namespace Endpoint

open HardwareAddress (parse)

variable {endpoint : Endpoint} {card : HardwareAddress}

/-- An endpoint whose machine is woken through a card, by whatever means packets are sent. -/
def Wakes (endpoint : Endpoint) (card : HardwareAddress) : Prop :=
  ∀ wake, endpoint.wakeUp wake =
    ((wake card).mapError EndpointFailure.wake).map fun _ => some card

/-- A machine is woken through the card that its hardware address is read as. -/
theorem wakes_iff :
    endpoint.Wakes card ↔ ∃ mac, endpoint.address.mac = some mac ∧ parse mac = .ok card := by
  constructor
  · intro wakes
    -- If nothing goes wrong on the way, the card that is told of is the one that was read.
    have woken := wakes fun _ => .ok ()
    rw [wakeUp] at woken
    cases chosen : endpoint.address.mac with
    | none => simp [chosen, Except.mapError, Except.map] at woken
    | some mac =>
      cases read : parse mac with
      | error problem => simp [chosen, read, Except.mapError, Except.map] at woken
      | ok found =>
        have told : found = card := by
          simpa [chosen, read, Except.mapError, Except.map] using woken
        exact ⟨mac, rfl, told ▸ read⟩
  · rintro ⟨mac, chosen, read⟩ wake
    rw [wakeUp, chosen]
    dsimp only
    rw [read]
    dsimp only
    cases wake card <;> rfl

/-- The card of an address that is picked is read from the listed text, or from the first one. -/
theorem wakes_iff_of_picks {macs : List String} {text : String} (read : parse text = .ok card)
    (picks : Picks macs (some text) endpoint.address.mac) :
    endpoint.Wakes card ↔
      (∃ listed ∈ macs, Text.equalIgnoringAsciiCase listed text = true) ∨
        ∃ first, macs.head? = some first ∧ parse first = .ok card := by
  rw [wakes_iff]
  generalize endpoint.address.mac = mac at picks
  cases picks with
  | unlisted nothing => simp [nothing]
  | @found _ mac before after known split _ same =>
    obtain rfl := Option.some.inj known
    -- The listed text is read as the card, since the text that was found is.
    have listed : parse mac = .ok card := (HardwareAddress.parse_eq_ok_iff_of_case same).mpr read
    have member : mac ∈ macs := by simp [split]
    exact iff_of_true ⟨mac, rfl, listed⟩ (.inl ⟨mac, member, same⟩)
  | @first mac rest split others =>
    have absent : ¬∃ listed ∈ macs, Text.equalIgnoringAsciiCase listed text = true := by
      rintro ⟨listed, member, same⟩
      rw [others text rfl listed member] at same
      cases same
    have heads : macs.head? = some mac := by rw [split, List.head?_cons]
    simp only [absent, false_or, heads]

/--
When the text that was found behind the active address is that of a card, the machine is woken
through this card, at any time, exactly if the text is listed for the machine up to the case of
letters, or the first text that is listed is that of the card too.
-/
theorem wakes_found_iff {machine : Machine} {prober : Prober} {serial now : Nat}
    {endpoint : Endpoint} (created : create serial now machine (some prober) = .ok endpoint)
    {text : String} (found : prober.macOf endpoint.ip = some text) {card : HardwareAddress}
    (read : parse text = .ok card) (settings : Settings) (operations : List Operation) :
    (endpoint.run settings operations).endpoint.Wakes card ↔
      (∃ listed ∈ machine.macs, Text.equalIgnoringAsciiCase listed text = true) ∨
        ∃ first, machine.macs.head? = some first ∧ parse first = .ok card := by
  obtain ⟨address, chosen, rfl⟩ := create_eq_ok_iff.mp created
  -- No operation changes the address that was chosen when the endpoint was made.
  have kept : (run settings (idle serial now machine address) operations).endpoint.address =
      address := (run_moves settings _ operations).address_eq
  have picked : Picks machine.macs (some text) address.mac := by
    rw [← found]
    exact Machine.picks_of_activeAddress? chosen
  rw [← kept] at picked
  exact wakes_iff_of_picks read picked

/-- A text that was found in lower case, listed second and in upper case. -/
theorem wakes_found_iff_upper :
    let machine : Machine :=
      ⟨"cn=pc05", "pc05", ["10.0.0.15"], ["00:11:22:33:44:01", "00:11:22:33:44:AB"], none, .linux⟩
    let prober : Prober := ⟨(· == "10.0.0.15"), fun _ => some "00:11:22:33:44:ab"⟩
    let card : HardwareAddress := ⟨[0x00, 0x11, 0x22, 0x33, 0x44, 0xab], rfl⟩
    ∃ endpoint, create 0 0 machine (some prober) = .ok endpoint ∧
      prober.macOf endpoint.ip = some "00:11:22:33:44:ab" ∧
      parse "00:11:22:33:44:ab" = .ok card ∧
      (endpoint.run (.ofConfig .standard) [.connect]).endpoint.Wakes card := by
  intro machine prober card
  have chosen : machine.activeAddress? (some prober) =
      some ⟨"10.0.0.15", some "00:11:22:33:44:AB"⟩ := by decide +kernel
  have created : create 0 0 machine (some prober) = .ok _ :=
    create_eq_ok_iff.mpr ⟨_, chosen, rfl⟩
  have read : parse "00:11:22:33:44:ab" = .ok card := by decide +kernel
  have listed : Text.equalIgnoringAsciiCase "00:11:22:33:44:AB" "00:11:22:33:44:ab" = true := by
    decide +kernel
  refine ⟨_, created, rfl, read, ?_⟩
  exact (wakes_found_iff created rfl read _ _).mpr (.inl ⟨_, by simp [machine], listed⟩)

/--
The card that holds the active address is listed with other delimiters than it was found with, so
that the first card that is listed is woken in its place.
-/
theorem listed_card_not_woken :
    let machine : Machine :=
      ⟨"cn=pc05", "pc05", ["10.0.0.15"], ["00:11:22:33:44:01", "00-11-22-33-44-02"], none, .linux⟩
    let prober : Prober := ⟨(· == "10.0.0.15"), fun _ => some "00:11:22:33:44:02"⟩
    let card : HardwareAddress := ⟨[0x00, 0x11, 0x22, 0x33, 0x44, 0x02], rfl⟩
    parse "00:11:22:33:44:02" = .ok card ∧ parse "00-11-22-33-44-02" = .ok card ∧
    machine.activeAddress? (some prober) = some ⟨"10.0.0.15", some "00:11:22:33:44:01"⟩ ∧
    ∃ endpoint, create 0 0 machine (some prober) = .ok endpoint ∧
      endpoint.Wakes ⟨[0x00, 0x11, 0x22, 0x33, 0x44, 0x01], rfl⟩ ∧ ¬endpoint.Wakes card := by
  intro machine prober card
  have chosen : machine.activeAddress? (some prober) =
      some ⟨"10.0.0.15", some "00:11:22:33:44:01"⟩ := by decide +kernel
  have first : parse "00:11:22:33:44:01" =
      .ok ⟨[0x00, 0x11, 0x22, 0x33, 0x44, 0x01], rfl⟩ := by decide +kernel
  refine ⟨by decide +kernel, by decide +kernel, chosen, _, create_eq_ok_iff.mpr ⟨_, chosen, rfl⟩,
    wakes_iff.mpr ⟨_, rfl, first⟩, ?_⟩
  intro wakes
  obtain ⟨mac, picked, read⟩ := wakes_iff.mp wakes
  obtain rfl := Option.some.inj picked
  rw [first] at read
  revert read
  decide

end Endpoint

end ComputerRoom
