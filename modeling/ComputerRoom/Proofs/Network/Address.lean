import ComputerRoom.Network.Address
import ComputerRoom.Proofs.Text.Blank

/-! The address that is used: the first one that answers, and the card that was found behind it. -/

namespace ComputerRoom

section Search

variable {prober twin : Prober} {ips : List String}

/-- How a search ends: at the first address that answers, or with none when all have been asked. -/
inductive Prober.Ends (prober : Prober) (ips : List String) : Search → Prop where
  | answered {before after : List String} {ip : String} (split : ips = before ++ ip :: after)
    (silent : ∀ other ∈ before, prober.answers other = false)
    (answers : prober.answers ip = true) : Ends prober ips ⟨before ++ [ip], some ip⟩
  | silent (silent : ∀ other ∈ ips, prober.answers other = false) : Ends prober ips ⟨ips, none⟩

/-- A search asks one address after the other until it ends. -/
theorem Prober.search_ends (prober : Prober) (ips : List String) :
    prober.Ends ips (prober.search ips) := by
  induction ips with
  | nil => exact .silent nofun
  | cons ip rest ih =>
    rw [search]
    cases answers : prober.answers ip with
    | true => exact .answered (List.nil_append _).symm nofun answers
    | false =>
      -- An address that is silent is asked before whatever the others are asked.
      simp only [Bool.false_eq_true, if_false]
      cases later : prober.search rest with
      | mk asked found =>
        rw [later] at ih
        cases ih with
        | @answered before after found split silent answers' =>
          have split' : ip :: rest = (ip :: before) ++ found :: after := congrArg (ip :: ·) split
          exact .answered split' (List.forall_mem_cons.mpr ⟨answers, silent⟩) answers'
        | silent silent => exact .silent (List.forall_mem_cons.mpr ⟨answers, silent⟩)

/-- A search learns nothing of addresses that it does not ask. -/
theorem Prober.search_congr
    (same : ∀ ip ∈ (prober.search ips).asked, twin.answers ip = prober.answers ip) :
    twin.search ips = prober.search ips := by
  induction ips with
  | nil => rfl
  | cons ip rest ih =>
    rw [search] at same ⊢
    rw [search]
    cases answers : prober.answers ip with
    | true =>
      have alike : twin.answers ip = true := by simpa [answers] using same
      rw [if_pos alike, if_pos rfl]
    | false =>
      simp only [answers, Bool.false_eq_true, if_false, List.forall_mem_cons] at same ⊢
      rw [if_neg (by simp [same.1]), ih same.2]

end Search

/-- The address that is chosen among those of a machine, once some of them were asked. -/
inductive Prober.Chooses (prober : Prober) (ips asked : List String) : String → Prop where
  | answered {before after : List String} {ip : String} (split : ips = before ++ ip :: after)
    (upTo : asked = before ++ [ip]) (silent : ∀ other ∈ before, prober.answers other = false)
    (answers : prober.answers ip = true) : Chooses prober ips asked ip
  | silent {first : String} {rest : List String} (split : ips = first :: rest)
    (all : asked = ips) (silent : ∀ other ∈ ips, prober.answers other = false) :
    Chooses prober ips asked first

/-- The hardware address that is chosen among those listed, for the one found behind an address. -/
inductive Picks (macs : List String) (found : Option String) : Option String → Prop where
  | unlisted (nothing : macs = []) : Picks macs found none
  | found {card mac : String} {before after : List String} (known : found = some card)
    (split : macs = before ++ mac :: after)
    (others : ∀ other ∈ before, Text.equalIgnoringAsciiCase other card = false)
    (same : Text.equalIgnoringAsciiCase mac card = true) : Picks macs found (some mac)
  | first {mac : String} {rest : List String} (split : macs = mac :: rest)
    (others : ∀ card, found = some card →
      ∀ other ∈ macs, Text.equalIgnoringAsciiCase other card = false) :
    Picks macs found (some mac)

namespace Machine

variable {machine : Machine} {prober twin : Prober} {first : String} {rest : List String}

/-- The addresses that can be used are those that are not blank, trimmed. -/
theorem usableIps_eq (machine : Machine) : machine.usableIps =
    (machine.ips.filter fun ip => ¬Text.AllBlank ip.toList).map Text.trim := by
  have same : ((· != "") ∘ Text.trim) = fun ip => decide (¬Text.AllBlank ip.toList) := by
    funext ip
    rw [Bool.eq_iff_iff]
    simp [Text.trim_eq_empty_iff]
  rw [usableIps, List.filter_map, same]

/-- A machine has no address that can be used exactly if all of its addresses are blank. -/
theorem usableIps_eq_nil_iff (machine : Machine) :
    machine.usableIps = [] ↔ ∀ ip ∈ machine.ips, Text.AllBlank ip.toList := by
  rw [usableIps_eq, List.map_eq_nil_iff, List.filter_eq_nil_iff]
  simp

/-- The hardware address that is used for a card is picked from those listed. -/
theorem macBehind_picks (machine : Machine) (found : Option String) :
    Picks machine.macs found (machine.macBehind found) := by
  -- Where no listed one is that of the card, it is the first, if any is listed.
  have fallback (others : ∀ card, found = some card →
      ∀ other ∈ machine.macs, Text.equalIgnoringAsciiCase other card = false) :
      Picks machine.macs found machine.firstMac := by
    rw [firstMac]
    cases listed : machine.macs with
    | nil => exact .unlisted rfl
    | cons mac rest => exact .first rfl (listed ▸ others)
  cases found with
  | none => exact fallback nofun
  | some card =>
    rw [macBehind]
    cases located : machine.macs.find? fun listed => Text.equalIgnoringAsciiCase listed card with
    | none =>
      refine fallback ?_
      rintro _ ⟨⟩
      simpa using located
    | some mac =>
      obtain ⟨same, before, after, split, others⟩ := List.find?_eq_some_iff_append.mp located
      exact .found rfl split (by simpa using others) same

/-- With someone to ask, the search decides on the address, and that one on the hardware address. -/
theorem activeAddress?_of_search (usable : machine.usableIps = first :: rest) {ip : String}
    (chosen : (prober.search (first :: rest)).found.getD first = ip) :
    machine.activeAddress? (some prober) = some ⟨ip, machine.macBehind (prober.macOf ip)⟩ := by
  simp only [activeAddress?, usable, chosen]

/-- The address at which a search ends is chosen, or the first one if the search found none. -/
theorem chooses_search (usable : machine.usableIps = first :: rest) :
    prober.Chooses (first :: rest) (machine.askedIps prober)
      ((prober.search (first :: rest)).found.getD first) := by
  have ends := prober.search_ends (first :: rest)
  rw [askedIps, usable]
  cases found : prober.search (first :: rest) with
  | mk asked answer =>
    rw [found] at ends
    cases ends with
    | answered split silent answers => exact .answered split rfl silent answers
    | silent silent => exact .silent rfl rfl silent

/-- The hardware address that is used beside an address is picked for what was found behind it. -/
theorem picks_of_activeAddress? {address : Address}
    (chosen : machine.activeAddress? (some prober) = some address) :
    Picks machine.macs (prober.macOf address.ip) address.mac := by
  cases usable : machine.usableIps with
  | nil => simp [activeAddress?, usable] at chosen
  | cons first rest =>
    rw [activeAddress?_of_search usable rfl] at chosen
    obtain rfl := Option.some.inj chosen
    exact macBehind_picks machine _

/--
A machine has no address exactly if all it has are blank, and then nobody is asked. Otherwise its
addresses, trimmed and without the blank ones, are asked up to the first that answers, and that one
is used, or the first of all. Of the hardware addresses the first that was found behind it is used,
as it is listed, or the first of all. Nothing else that could be found out makes a difference.
-/
theorem activeAddress?_chosen (machine : Machine) :
    (∀ prober, machine.activeAddress? prober = none ↔
      ∀ ip ∈ machine.ips, Text.AllBlank ip.toList) ∧
    ((∀ ip ∈ machine.ips, Text.AllBlank ip.toList) → ∀ prober, machine.askedIps prober = []) ∧
    ∀ {first : String} {rest : List String},
      (machine.ips.filter fun ip => ¬Text.AllBlank ip.toList).map Text.trim = first :: rest →
      machine.activeAddress? none = some ⟨first, machine.macs.head?⟩ ∧
      (∀ prober, ∃ address, machine.activeAddress? (some prober) = some address ∧
        prober.Chooses (first :: rest) (machine.askedIps prober) address.ip ∧
        Picks machine.macs (prober.macOf address.ip) address.mac) ∧
      ∀ {prober twin : Prober} {address : Address},
        machine.activeAddress? (some prober) = some address →
        (∀ ip ∈ machine.askedIps prober, twin.answers ip = prober.answers ip) →
        twin.macOf address.ip = prober.macOf address.ip →
        machine.activeAddress? (some twin) = some address ∧
          machine.askedIps twin = machine.askedIps prober := by
  refine ⟨?_, ?_, ?_⟩
  · intro prober
    rw [← usableIps_eq_nil_iff]
    cases usable : machine.usableIps with
    | nil => simp [activeAddress?, usable]
    | cons first rest => cases prober <;> simp [activeAddress?, usable]
  · intro blank prober
    rw [askedIps, (usableIps_eq_nil_iff machine).mpr blank]
    rfl
  · intro first rest usable
    rw [← usableIps_eq] at usable
    refine ⟨?_, ?_, ?_⟩
    · simp only [activeAddress?, usable, firstMac]
    · intro prober
      have chosen : machine.activeAddress? (some prober) = some ⟨_, _⟩ :=
        activeAddress?_of_search usable rfl
      exact ⟨_, chosen, chooses_search usable, picks_of_activeAddress? chosen⟩
    · intro prober twin address chosen same card
      -- The same addresses are asked, so the search ends in the same way.
      have alike : twin.search (first :: rest) = prober.search (first :: rest) :=
        Prober.search_congr (by rwa [askedIps, usable] at same)
      rw [activeAddress?_of_search usable rfl] at chosen
      obtain rfl := Option.some.inj chosen
      rw [askedIps, askedIps, usable, alike,
        activeAddress?_of_search usable (congrArg (·.found.getD first) alike), card]
      exact ⟨rfl, rfl⟩

/--
The first address is blank and the next two are padded, of which the second answers; the last ones
are asked by nobody. The hardware address behind it is listed second, in the other case.
-/
theorem activeAddress?_chosen_padded :
    let machine : Machine := ⟨"cn=pc05", "pc05",
      ["", " 10.0.0.15\t", "10.1.0.15 ", "10.2.0.15", "10.0.0.15"],
      ["00:11:22:33:44:01", "00:11:22:33:44:AB"], none, .linux⟩
    let nowhere : Machine := { machine with ips := ["", " \t"] }
    let prober : Prober := ⟨(· == "10.1.0.15"), fun _ => some "00:11:22:33:44:ab"⟩
    let twin : Prober := ⟨(·.startsWith "10.1."), fun ip =>
      if ip == "10.1.0.15" then some "00:11:22:33:44:ab" else none⟩
    let used : Address := ⟨"10.1.0.15", some "00:11:22:33:44:AB"⟩
    let usable := ["10.0.0.15", "10.1.0.15", "10.2.0.15", "10.0.0.15"]
    ((∀ ip ∈ nowhere.ips, Text.AllBlank ip.toList) ∧ nowhere.activeAddress? (some prober) = none ∧
      nowhere.askedIps prober = []) ∧
    (machine.ips.filter fun ip => ¬Text.AllBlank ip.toList).map Text.trim = usable ∧
    machine.activeAddress? none = some ⟨"10.0.0.15", some "00:11:22:33:44:01"⟩ ∧
    machine.activeAddress? (some prober) = some used ∧
    machine.askedIps prober = ["10.0.0.15", "10.1.0.15"] ∧
    prober.Chooses usable (machine.askedIps prober) "10.1.0.15" ∧
    machine.activeAddress? (some twin) = some used ∧
    machine.askedIps twin = machine.askedIps prober := by
  intro machine nowhere prober twin used usable
  have blank : ∀ ip ∈ nowhere.ips, Text.AllBlank ip.toList := by decide
  have trimmed : (machine.ips.filter fun ip => ¬Text.AllBlank ip.toList).map Text.trim = usable := by
    decide +kernel
  obtain ⟨missing, nobody, _⟩ := activeAddress?_chosen nowhere
  obtain ⟨_, _, found⟩ := activeAddress?_chosen machine
  obtain ⟨unasked, chosen, settled⟩ := found trimmed
  have asked : machine.askedIps prober = ["10.0.0.15", "10.1.0.15"] := by decide +kernel
  have used_eq : machine.activeAddress? (some prober) = some used := by decide +kernel
  -- The twin differs only on addresses that were not asked, so it settles on the same one.
  have alike : ∀ ip ∈ machine.askedIps prober, twin.answers ip = prober.answers ip := by
    rw [asked]
    decide +kernel
  obtain ⟨address, same, chooses, _⟩ := chosen prober
  obtain rfl : used = address := Option.some.inj (used_eq.symm.trans same)
  exact ⟨⟨blank, (missing _).mpr blank, nobody blank prober⟩, trimmed, unasked, used_eq, asked,
    chooses, settled used_eq alike rfl⟩

end Machine

end ComputerRoom
