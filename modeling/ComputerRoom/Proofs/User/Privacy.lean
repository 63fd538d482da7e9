import ComputerRoom.Proofs.Text.LowerCase
import ComputerRoom.Proofs.Text.Marks
import ComputerRoom.User.Privacy
import Mathlib.Logic.Relation

/-!
Whose screen is hidden depends on the names of groups alone, and not on how a rule or a directory
writes them: as plain or distinguished names, in either case, with blanks, in any order.
-/

namespace ComputerRoom

open Text (AllBlank BeginsAt)

section GroupName

variable {label name value rest : List Char}

/-- A plain name is its own relative name. -/
theorem relativeName_plain (whole : ',' ∉ name) (unlabelled : '=' ∉ name) :
    relativeName name = name := by
  -- There is neither a comma nor an equals sign to cut at.
  have first : name.takeWhile (· != ',') = name :=
    List.takeWhile_eq_self_iff.mpr (Text.ne_of_not_mem whole)
  have behind : name.dropWhile (· != '=') = [] :=
    List.dropWhile_eq_nil_iff.mpr (Text.ne_of_not_mem unlabelled)
  simp only [relativeName, first, behind]

/-- The relative name of a distinguished name is the value of its first part. -/
theorem relativeName_labelled (label_whole : ',' ∉ label) (label_plain : '=' ∉ label)
    (whole : ',' ∉ value) (begins : BeginsAt ',' rest) :
    relativeName (label ++ '=' :: value ++ rest) = value := by
  -- The first part ends before the first comma, and its label before the first equals sign.
  have first : (label ++ '=' :: value ++ rest).takeWhile (· != ',') = label ++ '=' :: value :=
    Text.takeWhile_of_beginsAt (by simp [label_whole, whole]) begins
  have behind : (label ++ '=' :: value).dropWhile (· != '=') = '=' :: value :=
    Text.dropWhile_of_beginsAt label_plain (.inr ⟨value, rfl⟩)
  simp only [relativeName, first, behind]

/-- Cutting a relative name out does not look at the case of letters. -/
theorem relativeName_map_toLower (id : List Char) :
    relativeName (id.map Char.toLower) = (relativeName id).map Char.toLower := by
  have comma : (· != ',') ∘ Char.toLower = (· != ',') :=
    funext (Text.of_toLower (· != ',') (by decide))
  have equals : (· != '=') ∘ Char.toLower = (· != '=') :=
    funext (Text.of_toLower (· != '=') (by decide))
  simp only [relativeName, List.takeWhile_map, List.dropWhile_map, comma, equals]
  cases (id.takeWhile (· != ',')).dropWhile (· != '=') <;> rfl

/-- Only the characters of an id without their ASCII case count for the name of a group. -/
theorem groupName_eq_folded (id : String) :
    groupName id =
      String.ofList (Text.lowered (Text.trimmed (relativeName (id.toList.map Char.toLower)))) := by
  rw [relativeName_map_toLower, Text.trimmed_map_toLower, Text.lowered_map_toLower, groupName]

/-- A group whose relative name is blank has the empty name. -/
theorem groupName_of_blank {id : String} (blank : AllBlank (relativeName id.toList)) :
    groupName id = "" := by
  rw [groupName, (Text.trimmed_eq_nil_iff _).mpr blank]
  rfl

end GroupName

namespace PrivacyRule

/-- The name by which an entry of a rule hides a group. -/
def entryName (entry : String) : String :=
  Text.lower (Text.trim entry)

/-- A text that is all of a name or of a label: one without a comma or an equals sign. -/
structure IsPlain (text : String) : Prop where
  whole : ',' ∉ text.toList
  unlabelled : '=' ∉ text.toList

/-- Two ways to write an entry: the case of ASCII letters and blanks around it do not count. -/
inductive SameEntry : String → String → Prop where
  | recased {entry other : String} (same : Text.equalIgnoringAsciiCase entry other = true) :
    SameEntry entry other
  | padded {entry front back : String} (blank : AllBlank front.toList)
    (blank' : AllBlank back.toList) : SameEntry entry (front ++ entry ++ back)

/--
Two ways to write the id of a group: the case of ASCII letters and blanks around the value of the
first part do not count, and a plain name can be the value of a label, with other parts behind it.
-/
inductive SameGroup : String → String → Prop where
  | recased {id other : String} (same : Text.equalIgnoringAsciiCase id other = true) :
    SameGroup id other
  | labelled {name label rest : String} (plain : IsPlain name) (plain' : IsPlain label)
    (begins : BeginsAt ',' rest.toList) : SameGroup name (label ++ "=" ++ name ++ rest)
  | padded {label value rest front back : String} (plain : IsPlain label)
    (whole : ',' ∉ value.toList) (begins : BeginsAt ',' rest.toList)
    (blank : AllBlank front.toList) (blank' : AllBlank back.toList) :
    SameGroup (label ++ "=" ++ value ++ rest) (label ++ "=" ++ (front ++ value ++ back) ++ rest)

/-- One change to a list of texts, where some ways to write a text and some idle texts are known. -/
inductive Rewrites (same : String → String → Prop) (idle : String → Prop) :
    List String → List String → Prop where
  | respelled {front back : List String} {text other : String} (alike : same text other) :
    Rewrites same idle (front ++ text :: back) (front ++ other :: back)
  | reordered {texts others : List String} (perm : texts.Perm others) :
    Rewrites same idle texts others
  | repeated {texts : List String} {text : String} (member : text ∈ texts) :
    Rewrites same idle texts (text :: texts)
  | added {texts : List String} {text : String} (nothing : idle text) :
    Rewrites same idle texts (text :: texts)

/-- Whether one of some texts stands for a name. Nothing stands for the empty one. -/
def Spells (key : String → String) (texts : List String) (name : String) : Prop :=
  name ≠ "" ∧ name ∈ texts.map key

/-- Only its characters without their ASCII case count for the name of an entry. -/
theorem entryName_eq_folded (entry : String) :
    entryName entry =
      String.ofList (Text.lowered (Text.trimmed (entry.toList.map Char.toLower))) := by
  rw [Text.trimmed_map_toLower, Text.lowered_map_toLower]
  simp only [entryName, Text.lower, Text.trim, String.toList_ofList]

/-- A blank entry has the empty name. -/
theorem entryName_of_blank {entry : String} (blank : AllBlank entry.toList) :
    entryName entry = "" := by
  simp only [entryName, Text.trim, (Text.trimmed_eq_nil_iff _).mpr blank]
  rfl

/-- An entry hides by the same name however it is written. -/
theorem SameEntry.entryName_eq {entry other : String} (same : SameEntry entry other) :
    entryName other = entryName entry := by
  cases same with
  | recased same => rw [entryName_eq_folded, entryName_eq_folded entry, eq_of_beq same]
  | padded blank blank' =>
    simp only [entryName, Text.trim, String.toList_append, Text.trimmed_padded blank blank']

/-- The name of a group with a distinguished name comes from the value of its first part. -/
theorem groupName_labelled {label value rest : String} (plain : IsPlain label)
    (whole : ',' ∉ value.toList) (begins : BeginsAt ',' rest.toList) :
    groupName (label ++ "=" ++ value ++ rest) =
      String.ofList (Text.lowered (Text.trimmed value.toList)) := by
  have parts : (label ++ "=" ++ value ++ rest).toList =
      label.toList ++ '=' :: value.toList ++ rest.toList := by simp
  rw [groupName, parts, relativeName_labelled plain.whole plain.unlabelled whole begins]

/-- A group has the same name however its id is written. -/
theorem SameGroup.groupName_eq {id other : String} (same : SameGroup id other) :
    groupName other = groupName id := by
  cases same with
  | recased same => rw [groupName_eq_folded, groupName_eq_folded id, eq_of_beq same]
  | labelled plain plain' begins =>
    -- The plain name is what is cut out of the distinguished one.
    rw [groupName_labelled plain' plain.whole begins, groupName,
      relativeName_plain plain.whole plain.unlabelled]
  | @padded label value rest front back plain whole begins blank blank' =>
    have whole' : ',' ∉ (front ++ value ++ back).toList := by
      have inFront := Text.not_mem_of_allBlank ',' rfl blank
      have inBack := Text.not_mem_of_allBlank ',' rfl blank'
      simp [inFront, inBack, whole]
    -- Both values are the same once they are trimmed.
    rw [groupName_labelled plain whole begins, groupName_labelled plain whole' begins,
      String.toList_append, String.toList_append, Text.trimmed_padded blank blank']

/-- A change to a list leaves the names alone, if it goes by ways to write the same name. -/
theorem Rewrites.spells_iff {same : String → String → Prop} {idle : String → Prop}
    {texts others : List String} (rewrites : Rewrites same idle texts others)
    {key : String → String} (agrees : ∀ {text other}, same text other → key other = key text)
    (nothing : ∀ {text}, idle text → key text = "") (name : String) :
    Spells key others name ↔ Spells key texts name := by
  -- What is respelled keeps its name, and what is added has one that is there, or none.
  cases rewrites with
  | respelled alike => simp [Spells, agrees alike]
  | reordered perm => exact and_congr_right fun _ => (perm.map key).mem_iff.symm
  | repeated member =>
    -- The name of a text that is there already is spelled already.
    have there := List.mem_map_of_mem (f := key) member
    rw [Spells, List.map_cons, List.mem_cons]
    constructor
    · rintro ⟨filled, rfl | found⟩
      · exact ⟨filled, there⟩
      · exact ⟨filled, found⟩
    · exact fun ⟨filled, found⟩ => ⟨filled, .inr found⟩
  | added idle =>
    rw [Spells, List.map_cons, List.mem_cons, nothing idle]
    constructor
    · rintro ⟨filled, empty | found⟩
      · exact absurd empty filled
      · exact ⟨filled, found⟩
    · exact fun ⟨filled, found⟩ => ⟨filled, .inr found⟩

/-- Any number of changes, made or undone, leaves the names alone. -/
theorem spells_iff_of_rewritten {same : String → String → Prop} {idle : String → Prop}
    {texts others : List String} (rewritten : Relation.EqvGen (Rewrites same idle) texts others)
    {key : String → String} (agrees : ∀ {text other}, same text other → key other = key text)
    (nothing : ∀ {text}, idle text → key text = "") (name : String) :
    Spells key others name ↔ Spells key texts name := by
  induction rewritten with
  | rel _ _ rewrites => exact rewrites.spells_iff agrees nothing name
  | refl _ => exact Iff.rfl
  | symm _ _ _ ih => exact ih.symm
  | trans _ _ _ _ _ first second => exact second.trans first

/-- A rule lists the names that its entries spell. -/
theorem mem_groups_iff (entries : List String) (teachers : Bool) (name : String) :
    name ∈ (ofGroups entries teachers).groups ↔ Spells entryName entries name := by
  simp [ofGroups, Spells, entryName, and_comm]

/-- A screen is hidden for a name that an entry and a group share, or for that of a teacher. -/
theorem conceals_iff (entries : List String) (teachers : Bool) (account : Account) :
    (ofGroups entries teachers).conceals account = true ↔
      (∃ name, Spells entryName entries name ∧ Spells groupName account.groupIds name) ∨
        (teachers = true ∧ account.isTeacher = true) := by
  have shared : (account.groups.any (ofGroups entries teachers).groups.contains) = true ↔
      ∃ name, Spells entryName entries name ∧ Spells groupName account.groupIds name := by
    simp only [List.any_eq_true, List.contains_iff_mem, mem_groups_iff]
    constructor
    · exact fun ⟨name, member, listed⟩ => ⟨name, listed, listed.1, member⟩
    · exact fun ⟨name, listed, _, member⟩ => ⟨name, member, listed⟩
  rw [conceals, Bool.or_eq_true, shared, Bool.and_eq_true]
  rfl

/-- More texts spell at least the same names. -/
theorem Spells.mono {key : String → String} {texts more : List String} {name : String}
    (spells : Spells key texts name) (within : texts ⊆ more) : Spells key more name :=
  ⟨spells.1, List.map_subset key within spells.2⟩

/--
A rule hides an account if an entry and one of the account's groups spell the same name, or for the
role of a teacher. So only the names count: no number of changes to the way in which they are
written, to their order, or by repeating some of them, makes a difference, nor do blank entries and
groups with blank names, which are never listed. More entries, more groups and the hiding of
teachers never make a hidden screen visible.
-/
theorem conceals_by_names :
    (∀ (entries : List String) (teachers : Bool) (account : Account),
      (ofGroups entries teachers).conceals account = true ↔
        (∃ name, Spells entryName entries name ∧ Spells groupName account.groupIds name) ∨
          (teachers = true ∧ account.isTeacher = true)) ∧
    (∀ (entries others : List String) (teachers : Bool) (account twin : Account),
      Relation.EqvGen (Rewrites SameEntry fun entry => AllBlank entry.toList) entries others →
      Relation.EqvGen (Rewrites SameGroup fun id => AllBlank (relativeName id.toList))
        account.groupIds twin.groupIds →
      twin.isTeacher = account.isTeacher →
      (ofGroups others teachers).conceals twin = (ofGroups entries teachers).conceals account) ∧
    (∀ (entries : List String) (teachers : Bool) (id : String),
      AllBlank (relativeName id.toList) → groupName id ∉ (ofGroups entries teachers).groups) ∧
    ∀ (entries more : List String) (teachers also : Bool) (account twin : Account),
      entries ⊆ more → account.groupIds ⊆ twin.groupIds → (teachers = true → also = true) →
      twin.isTeacher = account.isTeacher →
      (ofGroups entries teachers).conceals account = true →
      (ofGroups more also).conceals twin = true := by
  refine ⟨conceals_iff, ?_, ?_, ?_⟩
  · intro entries others teachers account twin rewritten regrouped role
    -- Both sides come down to the names that are spelled, and no rewriting changes those.
    have entered := spells_iff_of_rewritten rewritten SameEntry.entryName_eq entryName_of_blank
    have grouped := spells_iff_of_rewritten regrouped SameGroup.groupName_eq groupName_of_blank
    rw [Bool.eq_iff_iff, conceals_iff, conceals_iff, role]
    simp only [entered, grouped]
  · intro entries teachers id blank listed
    -- The name is empty, and no entry with an empty name is kept.
    rw [groupName_of_blank blank, mem_groups_iff] at listed
    exact listed.1 rfl
  · intro entries more teachers also account twin within within' implied role hidden
    rw [conceals_iff] at hidden ⊢
    rcases hidden with ⟨name, listed, grouped⟩ | ⟨hides, teaches⟩
    · exact .inl ⟨name, listed.mono within, grouped.mono within'⟩
    · exact .inr ⟨implied hides, role.trans teaches⟩

/--
A name with a sigma that is a final one in lower case, listed with blanks around it, in capitals and
beside a blank entry, and given as a distinguished name: the account is hidden as with a plain name.
-/
theorem conceals_by_names_sigma :
    let account : Account := ⟨"cn=eleni", "eleni", false, ["exam\u03a3"]⟩
    let twin : Account := ⟨"cn=eleni", "eleni", false, [" ", "CN=Exam\u03a3,ou=x"]⟩
    (ofGroups ["Exam\u03a3"] false).conceals account = true ∧
      (ofGroups ["", " EXAM\u03a3 "] false).conceals twin = true ∧
      groupName " " ∉ (ofGroups ["", " EXAM\u03a3 "] false).groups ∧
      (ofGroups ["pupils", "", " EXAM\u03a3 "] true).conceals twin = true := by
  intro account twin
  obtain ⟨_, same, absent, more⟩ := conceals_by_names
  have hidden : (ofGroups ["Exam\u03a3"] false).conceals account = true := by decide +kernel
  have recased : SameEntry "Exam\u03a3" "EXAM\u03a3" := .recased (by decide)
  have blank : AllBlank " ".toList := by decide
  have padded : SameEntry "EXAM\u03a3" (" " ++ "EXAM\u03a3" ++ " ") := .padded blank blank
  have labelled : SameGroup "exam\u03a3" ("CN" ++ "=" ++ "exam\u03a3" ++ ",ou=x") :=
    .labelled ⟨by decide, by decide⟩ ⟨by decide, by decide⟩ (.inr ⟨"ou=x".toList, rfl⟩)
  have capital : SameGroup "CN=exam\u03a3,ou=x" "CN=Exam\u03a3,ou=x" := .recased (by decide)
  -- The entries are rewritten one step at a time, and so are the groups of the account.
  have entered : Relation.EqvGen (Rewrites SameEntry fun entry => AllBlank entry.toList)
      ["Exam\u03a3"] ["", " EXAM\u03a3 "] :=
    .trans _ ["EXAM\u03a3"] _ (.rel _ _ (@Rewrites.respelled _ _ [] [] _ _ recased))
      (.trans _ [" EXAM\u03a3 "] _ (.rel _ _ (@Rewrites.respelled _ _ [] [] _ _ padded))
        (.rel _ _ (.added (by decide))))
  have grouped : Relation.EqvGen (Rewrites SameGroup fun id => AllBlank (relativeName id.toList))
      account.groupIds twin.groupIds :=
    .trans _ ["CN=exam\u03a3,ou=x"] _ (.rel _ _ (@Rewrites.respelled _ _ [] [] _ _ labelled))
      (.trans _ ["CN=Exam\u03a3,ou=x"] _ (.rel _ _ (@Rewrites.respelled _ _ [] [] _ _ capital))
        (.rel _ _ (.added (by decide))))
  have hidden' := (same _ _ false account twin entered grouped rfl).trans hidden
  exact ⟨hidden, hidden', absent _ false " " (by decide), more _ _ false true twin twin
    (List.subset_cons_self _ _) (List.Subset.refl _) (fun _ => rfl) rfl hidden'⟩

end PrivacyRule

end ComputerRoom
