import ComputerRoom.Proofs.Text.Blank
import ComputerRoom.Proofs.Text.Marks
import ComputerRoom.User.LoginName

/-!
Which texts hold a login name. The name is what is left of a text without a domain before it, a
remark in brackets behind it and blanks around it, and is itself such a text.
-/

namespace ComputerRoom.LoginName

open Text (AllBlank Solid ne_of_not_mem not_mem_of_allBlank not_mem_takeWhile)

/-- A login name that stands for itself: one with neither blanks around it nor anything to cut. -/
structure IsName (name : List Char) : Prop where
  nonempty : name ≠ []
  solid : Solid name
  unbracketed : '(' ∉ name
  undivided : '\\' ∉ name

/-- What can stand before a login name: nothing, or any text without a bracket up to a backslash. -/
def IsDomain (text : List Char) : Prop :=
  text = [] ∨ ∃ domain, '(' ∉ domain ∧ text = domain ++ ['\\']

/-- What can stand behind a login name: nothing, or a bracket and any text. -/
def IsRemark (text : List Char) : Prop :=
  Text.BeginsAt '(' text

/-- What stands in a lookup text before the first bracket, and behind the last backslash there. -/
def undecorated (lookup : List Char) : List Char :=
  afterLast '\\' (lookup.takeWhile (· != '('))

/-- A text around a login name: a domain, the name among blanks, and a remark. -/
def Holds (lookup name : List Char) : Prop :=
  ∃ domain front back remark, IsDomain domain ∧ AllBlank front ∧ AllBlank back ∧ IsRemark remark ∧
    lookup = domain ++ (front ++ name ++ back) ++ remark

variable {mark : Char} {front back text : List Char}

/-- What is put behind a text, without the mark, is put behind the last mark of it. -/
theorem afterLast_append (absent : mark ∉ back) (text : List Char) :
    afterLast mark (text ++ back) = afterLast mark text ++ back := by
  -- From the end, what was put there is passed before the mark can be met.
  have passed : mark ∉ back.reverse := fun member => absent (List.mem_reverse.mp member)
  rw [afterLast, List.reverse_append, List.takeWhile_append_of_pos (ne_of_not_mem passed),
    List.reverse_append, List.reverse_reverse, ← afterLast]

/-- A text without the mark is all behind the last mark. -/
theorem afterLast_of_not_mem (absent : mark ∉ text) : afterLast mark text = text :=
  afterLast_append absent []

/-- Nothing stands behind a mark at the end. -/
theorem afterLast_concat_self (mark : Char) (text : List Char) :
    afterLast mark (text ++ [mark]) = [] := by
  simp [afterLast]

/-- What comes behind a mark, without another one in it, stands behind the last mark. -/
theorem afterLast_concat (absent : mark ∉ back) (front : List Char) :
    afterLast mark (front ++ [mark] ++ back) = back := by
  rw [afterLast_append absent, afterLast_concat_self, List.nil_append]

/-- What stands behind the last mark is part of the text. -/
theorem mem_of_mem_afterLast {char : Char} (member : char ∈ afterLast mark text) : char ∈ text :=
  List.mem_reverse.mp (List.takeWhile_subset _ (List.mem_reverse.mp member))

/-- The mark is not found behind the last mark. -/
theorem not_mem_afterLast (mark : Char) (text : List Char) : mark ∉ afterLast mark text := by
  intro member
  have passed := List.mem_takeWhile_imp (List.mem_reverse.mp member)
  simp at passed

/-- What stands behind the last mark is all of a text, or comes behind the mark. -/
theorem exists_afterLast (mark : Char) (text : List Char) :
    afterLast mark text = text ∨ ∃ front, text = front ++ [mark] ++ afterLast mark text := by
  by_cases absent : mark ∉ text
  · exact .inl (afterLast_of_not_mem absent)
  · -- The mark is there, so that the text can be cut at its last occurrence.
    have there : mark ∈ text.reverse := List.mem_reverse.mpr (not_not.mp absent)
    obtain ⟨back, front, whole, last⟩ := List.eq_append_cons_of_mem there
    have cut : text = front.reverse ++ [mark] ++ back.reverse := by
      rw [← List.reverse_reverse text, whole]
      simp
    have last : mark ∉ back.reverse := fun member => last (List.mem_reverse.mp member)
    exact .inr ⟨front.reverse, by rw [cut, afterLast_concat last]⟩

/-- Cutting at the first mark leaves blanks around a text where they are, or cuts them off. -/
theorem exists_takeWhile_padded (mark : Char) (visible : Text.isBlank mark = false)
    (blank : AllBlank front) (blank' : AllBlank back) (text : List Char) :
    ∃ rest, AllBlank rest ∧ (front ++ text ++ back).takeWhile (· != mark) =
      front ++ text.takeWhile (· != mark) ++ rest := by
  -- No blank is a mark, so that the first cut is made in the text itself, or not at all.
  have passed := ne_of_not_mem (not_mem_of_allBlank mark visible blank)
  have passed' := ne_of_not_mem (not_mem_of_allBlank mark visible blank')
  rw [List.append_assoc, List.takeWhile_append_of_pos passed, List.takeWhile_append]
  split
  · rename_i all
    have whole : text.takeWhile (· != mark) = text := (List.takeWhile_prefix _).eq_of_length all
    refine ⟨back, blank', ?_⟩
    rw [whole, List.takeWhile_eq_self_iff.mpr passed', List.append_assoc]
  · exact ⟨[], .nil, (List.append_nil _).symm⟩

/-- Blanks around a text are trimmed in the end, wherever the last mark stands. -/
theorem trimmed_afterLast_padded (visible : Text.isBlank mark = false) (blank : AllBlank front)
    (blank' : AllBlank back) (text : List Char) :
    Text.trimmed (afterLast mark (front ++ text ++ back)) = Text.trimmed (afterLast mark text) := by
  -- A visible mark is not among the blanks, so those behind stay behind the last mark.
  rw [afterLast_append (not_mem_of_allBlank mark visible blank')]
  have absent := not_mem_afterLast mark text
  rcases exists_afterLast mark text with whole | ⟨before, cut⟩
  · -- Without a mark, the blanks in front are still there.
    rw [whole] at absent ⊢
    have nowhere : mark ∉ front ++ text :=
      fun member => (List.mem_append.mp member).elim (not_mem_of_allBlank mark visible blank) absent
    rw [afterLast_of_not_mem nowhere, Text.trimmed_padded blank blank']
  · -- The blanks in front come before the last mark, and are cut off with it.
    generalize afterLast mark text = tail at absent cut ⊢
    have kept : afterLast mark (front ++ text) = tail := by
      rw [cut, ← List.append_assoc, ← List.append_assoc]
      exact afterLast_concat absent (front ++ before)
    have padded : Text.trimmed ([] ++ tail ++ back) = Text.trimmed tail :=
      Text.trimmed_padded .nil blank' tail
    rw [kept]
    exact padded

/-- The trims before and between the cuts make no difference to the name. -/
theorem bare_eq (lookup : List Char) : bare lookup = Text.trimmed (undecorated lookup) := by
  obtain ⟨front, back, blank, blank', whole⟩ := Text.exists_trimmed lookup
  obtain ⟨rest, blankRest, cut⟩ :=
    exists_takeWhile_padded '(' rfl blank blank' (Text.trimmed lookup)
  obtain ⟨gap, blankGap, trimmed⟩ :=
    Text.exists_trimEnd ((Text.trimmed lookup).takeWhile (· != '('))
  have behind : AllBlank (gap ++ rest) := blankGap.append blankRest
  -- What is cut at the backslash is the same in both cases, but for blanks around it.
  have outside : lookup.takeWhile (· != '(') =
      front ++ Text.trimEnd ((Text.trimmed lookup).takeWhile (· != '(')) ++ (gap ++ rest) := by
    rw [← List.append_assoc, List.append_assoc front, ← trimmed, ← cut, ← whole]
  rw [undecorated, outside]
  exact (trimmed_afterLast_padded rfl blank behind _).symm

/-- Every text holds what is left of it when it is cut and trimmed. -/
theorem holds_bare (lookup : List Char) : Holds lookup (bare lookup) := by
  have remark := Text.beginsAt_dropWhile '(' lookup
  have outside : lookup = lookup.takeWhile (· != '(') ++ lookup.dropWhile (· != '(') :=
    List.takeWhile_append_dropWhile.symm
  obtain ⟨front, back, blank, blank', around⟩ := Text.exists_trimmed (undecorated lookup)
  rw [bare_eq]
  rcases exists_afterLast '\\' (lookup.takeWhile (· != '(')) with whole | ⟨domain, cut⟩
  · refine ⟨[], front, back, _, .inl rfl, blank, blank', remark, ?_⟩
    rw [List.nil_append, ← around, undecorated, whole]
    exact outside
  · refine ⟨domain ++ ['\\'], front, back, _, .inr ⟨domain, ?_, rfl⟩, blank, blank', remark, ?_⟩
    · intro member
      exact not_mem_takeWhile (cut ▸ List.mem_append_left _ (List.mem_append_left _ member))
    · rw [← around, undecorated, ← cut]
      exact outside

/-- Cutting and trimming give back the name that a text holds. -/
theorem bare_of_holds {lookup name : List Char} (named : IsName name) (holds : Holds lookup name) :
    bare lookup = name := by
  obtain ⟨domain, front, back, remark, isDomain, blank, blank', isRemark, rfl⟩ := holds
  have unbracketed : '(' ∉ domain ++ (front ++ name ++ back) := by
    have inDomain : '(' ∉ domain := by
      rcases isDomain with rfl | ⟨domain, absent, rfl⟩
      · exact List.not_mem_nil
      · simpa using absent
    have inFront := not_mem_of_allBlank '(' rfl blank
    have inBack := not_mem_of_allBlank '(' rfl blank'
    simp [inDomain, inFront, inBack, named.unbracketed]
  have undivided : '\\' ∉ front ++ name ++ back := by
    have inFront := not_mem_of_allBlank '\\' rfl blank
    have inBack := not_mem_of_allBlank '\\' rfl blank'
    simp [inFront, inBack, named.undivided]
  -- The remark goes with the bracket, and the domain with the backslash.
  have outside : (domain ++ (front ++ name ++ back) ++ remark).takeWhile (· != '(') =
      domain ++ (front ++ name ++ back) :=
    Text.takeWhile_of_beginsAt unbracketed isRemark
  have inside : afterLast '\\' (domain ++ (front ++ name ++ back)) = front ++ name ++ back := by
    rcases isDomain with rfl | ⟨domain, _, rfl⟩
    · exact afterLast_of_not_mem undivided
    · exact afterLast_concat undivided domain
  rw [bare_eq, undecorated, outside, inside, Text.trimmed_padded blank blank',
    Text.trimmed_of_solid named.solid]

/-- What is left of a text is a login name, unless nothing is left. -/
theorem isName_bare {lookup : List Char} (left : bare lookup ≠ []) : IsName (bare lookup) := by
  have within : ∀ char ∈ bare lookup, char ∈ undecorated lookup := by
    intro char member
    obtain ⟨front, back, _, _, around⟩ := Text.exists_trimmed (undecorated lookup)
    rw [around, ← bare_eq]
    exact List.mem_append_left _ (List.mem_append_right _ member)
  refine ⟨left, bare_eq lookup ▸ Text.solid_trimmed _, fun member => ?_, fun member => ?_⟩
  · -- What stands before the first bracket holds none.
    exact not_mem_takeWhile (mem_of_mem_afterLast (within _ member))
  · exact not_mem_afterLast _ _ (within _ member)

/-- A text is read as what is left of it, if anything is. -/
theorem parse_eq (lookup : String) :
    parse lookup = if bare lookup.toList = [] then .error (.missingKey lookup)
      else .ok (String.ofList (bare lookup.toList)) := by
  rw [parse, parse?]
  cases bare lookup.toList with
  | nil => rfl
  | cons char rest => rfl

/-- Exactly those texts are read as a name that hold it. -/
theorem parse_eq_ok_iff (lookup name : String) :
    parse lookup = .ok name ↔ IsName name.toList ∧ Holds lookup.toList name.toList := by
  rw [parse_eq]
  constructor
  · intro reads
    split at reads
    · cases reads
    · rename_i left
      obtain rfl := Except.ok.inj reads
      rw [String.toList_ofList]
      exact ⟨isName_bare left, holds_bare _⟩
  · rintro ⟨named, holds⟩
    rw [bare_of_holds named holds, if_neg named.nonempty, String.ofList_toList]

/-- A text is refused, with itself as the key, exactly if nothing but blanks is left of it. -/
theorem parse_eq_error_iff (lookup : String) (failure : DirectoryFailure) :
    parse lookup = .error failure ↔
      failure = .missingKey lookup ∧ AllBlank (undecorated lookup.toList) := by
  rw [parse_eq, ← Text.trimmed_eq_nil_iff, ← bare_eq]
  split
  · rename_i nothing
    simp [nothing, eq_comm]
  · rename_i left
    simp [left]

/-- Blanks in front of a domain belong to it; without a domain, they stand around the name. -/
theorem IsDomain.behind {domain : List Char} (isDomain : IsDomain domain) (blank : AllBlank front) :
    ∃ lead before, IsDomain lead ∧ AllBlank before ∧ front ++ domain = lead ++ before := by
  rcases isDomain with rfl | ⟨domain, absent, rfl⟩
  · exact ⟨[], front, .inl rfl, blank, by simp⟩
  · refine ⟨front ++ domain ++ ['\\'], [], .inr ⟨front ++ domain, ?_, rfl⟩, .nil, by simp⟩
    simp [absent, not_mem_of_allBlank '(' rfl blank]

/-- Blanks behind a remark belong to it; without a remark, they stand around the name. -/
theorem IsRemark.between {gap remark : List Char} (isRemark : IsRemark remark)
    (blankGap : AllBlank gap) (blank : AllBlank back) :
    ∃ tail after, IsRemark tail ∧ AllBlank after ∧ gap ++ (remark ++ back) = after ++ tail := by
  rcases isRemark with rfl | ⟨remark, rfl⟩
  · exact ⟨[], gap ++ back, .inl rfl, blankGap.append blank, by simp⟩
  · exact ⟨'(' :: remark ++ back, gap, .inr ⟨remark ++ back, rfl⟩, blankGap, by simp⟩

/-- A name holds itself. -/
theorem holds_self (name : List Char) : Holds name name :=
  ⟨[], [], [], [], .inl rfl, .nil, .nil, .inl rfl, by simp⟩

/-- A name stands in one piece in every text that holds it. -/
theorem Holds.within {lookup name : List Char} (holds : Holds lookup name) : name <:+: lookup := by
  obtain ⟨domain, front, back, remark, _, _, _, _, rfl⟩ := holds
  exact ⟨domain ++ front, back ++ remark, by simp⟩

/--
A text is read as the login name in it. That name stands in the text in one piece, has no blank
around it and no bracket or backslash in it, and is read as itself. Every such name is read from the
text that has a domain before it, a remark behind it, and blanks around each of them, whatever the
domain and the remark are. A text is refused, with all of it as the key, exactly if what stands
before its first bracket, and behind the last backslash there, is blank.
-/
theorem parse_reads_name :
    (∀ lookup name : String, parse lookup = .ok name →
      IsName name.toList ∧ name.toList <:+: lookup.toList ∧ parse name = .ok name) ∧
    (∀ front domain name gap remark back : String, AllBlank front.toList →
      IsDomain domain.toList → IsName name.toList → AllBlank gap.toList → IsRemark remark.toList →
      AllBlank back.toList →
      parse (front ++ domain ++ name ++ gap ++ remark ++ back) = .ok name) ∧
    ∀ (lookup : String) (failure : DirectoryFailure), parse lookup = .error failure ↔
      failure = .missingKey lookup ∧
        AllBlank (afterLast '\\' (lookup.toList.takeWhile (· != '('))) := by
  refine ⟨?_, ?_, parse_eq_error_iff⟩
  · intro lookup name reads
    obtain ⟨named, holds⟩ := (parse_eq_ok_iff lookup name).mp reads
    exact ⟨named, holds.within, (parse_eq_ok_iff name name).mpr ⟨named, holds_self _⟩⟩
  · intro front domain name gap remark back blank isDomain named blankGap isRemark blankBack
    refine (parse_eq_ok_iff _ name).mpr ⟨named, ?_⟩
    obtain ⟨lead, before, isLead, blankBefore, led⟩ := isDomain.behind blank
    obtain ⟨tail, after, isTail, blankAfter, ended⟩ := isRemark.between blankGap blankBack
    refine ⟨lead, before, after, tail, isLead, blankBefore, blankAfter, isTail, ?_⟩
    simp only [String.toList_append, List.append_assoc]
    rw [ended, ← List.append_assoc, led]
    simp only [List.append_assoc]

/--
A name with a letter beyond ASCII and a blank in it, behind a domain of two parts and before a
remark with brackets and a backslash; and a text whose only name stands in brackets.
-/
theorem parse_reads_name_decorated :
    let lookup := " SCHOOL\\LAB\\j\u00f6e d\u00a0(John (JD) \\Doe) "
    parse lookup = .ok "j\u00f6e d" ∧ "j\u00f6e d".toList <:+: lookup.toList ∧
      parse "j\u00f6e d" = .ok "j\u00f6e d" ∧
      parse " SCHOOL\\ (jdoe)" = .error (.missingKey " SCHOOL\\ (jdoe)") := by
  obtain ⟨reads, spelled, refused⟩ := parse_reads_name
  have solid : Solid "j\u00f6e d".toList := by
    constructor <;> (rintro _ ⟨⟩; rfl)
  have named : IsName "j\u00f6e d".toList := ⟨by decide, solid, by decide, by decide⟩
  have blank : AllBlank " ".toList := by decide
  have gap : AllBlank "\u00a0".toList := by decide
  have domain : IsDomain "SCHOOL\\LAB\\".toList := .inr ⟨"SCHOOL\\LAB".toList, by decide, rfl⟩
  have remark : IsRemark "(John (JD) \\Doe)".toList := .inr ⟨"John (JD) \\Doe)".toList, rfl⟩
  have found := spelled " " "SCHOOL\\LAB\\" "j\u00f6e d" "\u00a0" "(John (JD) \\Doe)" " " blank
    domain named gap remark blank
  obtain ⟨_, within, again⟩ := reads _ _ found
  exact ⟨found, within, again, (refused _ _).mpr ⟨rfl, by decide⟩⟩

end ComputerRoom.LoginName
