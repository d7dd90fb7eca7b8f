import BraceLink.Proofs.Settings.Entry
import BraceLink.Proofs.Table

/-!
# The first wrong entry

Reading settings is a sequence of checks (`Settings.checks`): first those of the keys, then those of the four
options, and in each option those of its entries in the order in which they are given. The first check that is
broken decides about the error, and where none is, the settings are those that the values describe
(`ofValue_first_wrong`).
-/

namespace BraceLink

/-- The entries of a mapping; nothing stands for none. -/
def Value.entries? : Value → Option (List (Value × Value))
  | .null => some []
  | .map entries => some entries
  | _ => none

/-- The items of a list; nothing stands for none. -/
def Value.items? : Value → Option (List Value)
  | .null => some []
  | .list items | .tuple items => some items
  | _ => none

namespace Settings

variable {α : Type}

/-! ### What has to hold -/

/-- What has to hold for a mapping: it is one, and its entries in order can be named and pass their checks. -/
def tableChecks (checks : Text → Value → List Check) (path : Text) (value : Value) : List Check :=
  ⟨.defect path, value.entries?.isSome⟩ ::
    (value.entries?.getD []).flatMap fun entry =>
      ⟨.longNumber, entry.1.isWritable⟩ :: checks (below path entry.1.shown) entry.2

/-- What has to hold for a list: it is one, and its items in order pass their checks. -/
def listChecks (checks : Text → Value → List Check) (path : Text) (value : Value) : List Check :=
  ⟨.defect path, value.items?.isSome⟩ ::
    (value.items?.getD []).zipIdx.flatMap fun item => checks (below path (Text.ofNat item.2)) item.1

def Section.checks (option : Section) : Value → List Check :=
  match option with
  | .links => tableChecks (fun path value => [standsCheck IsTarget path value]) option.name
  | .platforms => tableChecks (tableChecks fun path value => [standsCheck IsProfile path value]) option.name
  | .rules => listChecks ruleChecks option.name
  | .chain => listChecks (fun path value => [standsCheck IsChainEntry path value]) option.name

/-- The keys of the options, each in its own spelling, and for those of two words in one with a capital. -/
inductive Spells : Value → Section → Prop
  | name (option : Section) : Spells (.text option.name) option
  | links : Spells (.text "linksMap") .links
  | platforms : Spells (.text "platformUsers") .platforms
  | rules : Spells (.text "imageOverrides") .rules

/-- What has to hold for the keys of options: each spells one that no key before it spells. A key that is
refused is shown, and so it must be possible to write it. -/
def keyChecks (before : List Value) : List (Value × Value) → List Check
  | [] => []
  | (key, _) :: rest =>
    ⟨.longNumber, (∃ option, Spells key option) ∨ key.isWritable⟩ ::
      ⟨.defect [], ∃ option, Spells key option ∧ ∀ other ∈ before, ¬ Spells other option⟩ ::
      keyChecks (key :: before) rest

/-- The value that a mapping has for an option, which is nothing if the option is not given. -/
def Section.valueIn (entries : List (Value × Value)) (option : Section) : Value :=
  ((entries.find? fun entry => Section.ofValue? entry.1 = some option).map Prod.snd).getD .null

def optionChecks (values : Section → Value) : List Check :=
  Section.all.flatMap fun option => option.checks (values option)

def checks (value : Value) : List Check :=
  ⟨.defect [], value.entries?.isSome⟩ ::
    (keyChecks [] (value.entries?.getD []) ++ optionChecks (Section.valueIn (value.entries?.getD [])))

/-! ### What settings are read -/

/-- The names of a table are the keys of the mapping, each where it first comes, and the value of a name is what
the last entry with that key stands for. -/
structure IsTable (Is : Value → α → Prop) (value : Value) (table : Table α) : Prop where
  names : table.names = ((value.entries?.getD []).map fun entry => entry.1.shown).eraseDups
  get : ∀ before key given after, value.entries?.getD [] = before ++ (key, given) :: after →
    (∀ other ∈ after, other.1.shown ≠ key.shown) → ∃ a, table.get? key.shown = some a ∧ Is given a

/-- The items of a list stand for the results, one for one and in order. -/
def IsList (Is : Value → α → Prop) (value : Value) (results : List α) : Prop :=
  List.Forall₂ Is (value.items?.getD []) results

/-- The settings that the values of the options describe. -/
structure IsRead (values : Section → Value) (settings : Settings) : Prop where
  links : IsTable IsTarget (values .links) settings.links
  platforms : IsTable (IsTable IsProfile) (values .platforms) settings.platforms
  rules : IsList IsRule (values .rules) settings.rules
  chain : match settings.chain with
    | none => values .chain = .null
    | some chain => values .chain ≠ .null ∧ IsList IsChainEntry (values .chain) chain

/-! ### Mappings and lists -/

theorem readEntries_follows (path : Text) (value : Value) :
    Follows [⟨.defect path, value.entries?.isSome⟩] (· = value.entries?.getD []) (readEntries path value) := by
  unfold readEntries
  split
  · exact .held rfl (.pure rfl)
  · exact .held rfl (.pure rfl)
  · next hnull hmap =>
    have hnone : value.entries? = none := by
      unfold Value.entries?
      split
      · exact absurd rfl hnull
      · exact absurd rfl (hmap _)
      · rfl
    exact .broken (by simp [hnone]) ⟨_, rfl, rfl⟩

theorem readItems_follows (path : Text) (value : Value) :
    Follows [⟨.defect path, value.items?.isSome⟩] (· = value.items?.getD []) (readItems path value) := by
  unfold readItems
  split
  · exact .held rfl (.pure rfl)
  · exact .held rfl (.pure rfl)
  · exact .held rfl (.pure rfl)
  · next hnull hlist htuple =>
    have hnone : value.items? = none := by
      unfold Value.items?
      split
      · exact absurd rfl hnull
      · exact absurd rfl (hlist _)
      · exact absurd rfl (htuple _)
      · rfl
    exact .broken (by simp [hnone]) ⟨_, rfl, rfl⟩

theorem readName_follows (key : Value) :
    Follows [⟨.longNumber, key.isWritable⟩] (· = key.shown) (readName key) := by
  unfold readName
  split_ifs with h
  · exact .held h (.pure rfl)
  · exact .broken h ⟨_, rfl, rfl⟩

theorem exists_of_forall₂_append {β γ : Type} {r : β → γ → Prop} {before after : List β} {x : β} {ys : List γ}
    (h : List.Forall₂ r (before ++ x :: after) ys) :
    ∃ first y rest, ys = first ++ y :: rest ∧ r x y ∧ List.Forall₂ r after rest := by
  induction before generalizing ys with
  | nil =>
    cases h with
    | cons hx hafter => exact ⟨[], _, _, rfl, hx, hafter⟩
  | cons z before ih =>
    cases h with
    | cons _ hrest =>
      obtain ⟨first, y, rest, rfl, hx, hafter⟩ := ih hrest
      exact ⟨_ :: first, y, rest, rfl, hx, hafter⟩

theorem isTable_ofList {Is : Value → α → Prop} {value : Value} {named : Table α}
    (h : List.Forall₂ (fun entry pair => pair.1 = entry.1.shown ∧ Is entry.2 pair.2) (value.entries?.getD []) named) :
    IsTable Is value (Table.ofList named) where
  names := by
    have hnames : named.map Prod.fst = (value.entries?.getD []).map fun entry => entry.1.shown := by
      generalize value.entries?.getD [] = entries at h
      induction h with
      | nil => rfl
      | cons hfirst _ ih => rw [List.map_cons, List.map_cons, ih, hfirst.1]
    rw [Table.names_ofList, hnames]
  get before key given after hentries hlast := by
    rw [hentries] at h
    obtain ⟨first, ⟨name, a⟩, later, rfl, ⟨rfl, ha⟩, hlater⟩ := exists_of_forall₂_append h
    refine ⟨a, Table.get?_ofList a fun pair hpair => ?_, ha⟩
    obtain ⟨other, hother, hname, -⟩ := exists_of_forall₂ hlater hpair
    rw [hname]
    exact hlast other hother

theorem readTable_follows {read : Text → Value → Result α} {checks : Text → Value → List Check}
    {Is : Value → α → Prop} (h : ∀ path value, Follows (checks path value) (Is value) (read path value))
    (path : Text) (value : Value) :
    Follows (tableChecks checks path value) (IsTable Is value) (readTable read path value) := by
  refine (readEntries_follows path value).bind ?_
  rintro _ rfl
  refine (Follows.mapM (fun entry => ?_) _).map fun _ => isTable_ofList
  refine (readName_follows entry.1).bind ?_
  rintro _ rfl
  exact (h _ entry.2).map fun a ha => ⟨rfl, ha⟩

theorem readList_follows {read : Text → Value → Result α} {checks : Text → Value → List Check}
    {Is : Value → α → Prop} (h : ∀ path value, Follows (checks path value) (Is value) (read path value))
    (path : Text) (value : Value) :
    Follows (listChecks checks path value) (IsList Is value) (readList read path value) := by
  refine (readItems_follows path value).bind ?_
  rintro _ rfl
  refine (Follows.mapM (fun item : Value × Nat => h _ item.1) _).imp fun results hresults => ?_
  have hitems := List.forall₂_map_left_iff.mpr hresults
  rwa [List.zipIdx_map_fst] at hitems

/-! ### Options -/

theorem readChain_follows (value : Value) :
    Follows (Section.chain.checks value)
      (fun chain => match chain with
        | none => value = .null
        | some chain => value ≠ .null ∧ IsList IsChainEntry value chain)
      (Sections.readChain value) := by
  unfold Sections.readChain
  split
  · exact .held rfl (.pure rfl)
  · next hnull =>
    exact (readList_follows readChainEntry_follows _ value).map fun chain hchain => ⟨hnull, hchain⟩

theorem Sections.read_follows (sections : Sections) :
    Follows (optionChecks sections.get) (IsRead sections.get) sections.read := by
  refine (readTable_follows readTarget_follows _ sections.links).bind fun links hlinks => ?_
  refine (readTable_follows (readTable_follows readProfile_follows) _ sections.platforms).bind
    fun platforms hplatforms => ?_
  refine (readList_follows readRule_follows _ sections.rules).bind fun rules hrules => ?_
  refine (readChain_follows sections.chain).bind fun chain hchain => .pure ?_
  exact ⟨hlinks, hplatforms, hrules, hchain⟩

/-! ### Keys -/

theorem Section.ofValue?_eq_some_iff {key : Value} {option : Section} :
    Section.ofValue? key = some option ↔ Spells key option := by
  constructor
  · intro h
    unfold ofValue? at h
    split at h
    · next text =>
      unfold ofKey? at h
      split_ifs at h with hlinks hplatforms hrules
      · cases h
        rw [hlinks]
        exact .links
      · cases h
        rw [hplatforms]
        exact .platforms
      · cases h
        rw [hrules]
        exact .rules
      · unfold named? at h
        have hname := List.find?_some h
        obtain rfl : option.name = text := of_decide_eq_true hname
        exact .name option
    · cases h
  · intro h
    cases h with
    | name => cases option <;> rfl
    | links => rfl
    | platforms => rfl
    | rules => rfl

theorem Sections.get_set (sections : Sections) (option other : Section) (value : Value) :
    (sections.set option value).get other = if other = option then value else sections.get other := by
  cases option <;> cases other <;> rfl

theorem Spells.unique {key : Value} {option other : Section} (h : Spells key option) (hother : Spells key other) :
    option = other :=
  Option.some.inj ((Section.ofValue?_eq_some_iff.mpr h).symm.trans (Section.ofValue?_eq_some_iff.mpr hother))

/-- What gathering makes of entries: no option comes again that is given already, and the others get their values
from the entries. -/
structure Gathers (given : List Section) (sections : Sections) (entries : List (Value × Value)) (result : Sections) :
    Prop where
  free : ∀ option ∈ given, ∀ entry ∈ entries, ¬ Spells entry.1 option
  get : ∀ option, result.get option =
    ((entries.find? fun entry => Section.ofValue? entry.1 = some option).map Prod.snd).getD (sections.get option)

theorem Gathers.cons {key value : Value} {option : Section} {given : List Section} {sections result : Sections}
    {rest : List (Value × Value)} (h : Gathers (option :: given) (sections.set option value) rest result)
    (hspells : Spells key option) (hnew : option ∉ given) : Gathers given sections ((key, value) :: rest) result where
  free other hother := by
    refine List.forall_mem_cons.mpr ⟨fun hsame => ?_, h.free other (List.mem_cons_of_mem _ hother)⟩
    exact hnew (hspells.unique hsame ▸ hother)
  get other := by
    rw [h.get, Sections.get_set, List.find?_cons, Section.ofValue?_eq_some_iff.mpr hspells]
    by_cases hsame : other = option
    · -- The option does not come again, so its value is the one that has just been set.
      have hnone : (rest.find? fun entry => Section.ofValue? entry.1 = some option) = none := by
        rw [List.find?_eq_none]
        intro entry hentry hfound
        exact h.free option List.mem_cons_self entry hentry
          (Section.ofValue?_eq_some_iff.mp (of_decide_eq_true hfound))
      rw [hsame, hnone, if_pos rfl]
      simp
    · have hother : ¬ some option = some other := fun h => hsame (Option.some.inj h).symm
      rw [if_neg hsame, decide_eq_false hother]

theorem refuseKey_follows {key : Value} {before : List Value} {more : List Check} {P : Sections → Prop}
    (hnone : ¬ ∃ option, Spells key option) :
    Follows (⟨.longNumber, (∃ option, Spells key option) ∨ key.isWritable⟩ ::
      ⟨.defect [], ∃ option, Spells key option ∧ ∀ other ∈ before, ¬ Spells other option⟩ :: more) P
      (Sections.refuseKey key) := by
  unfold Sections.refuseKey
  by_cases hwritable : key.isWritable = true
  · rw [if_pos hwritable]
    exact .held (Or.inr hwritable) (.broken (fun ⟨option, h, _⟩ => hnone ⟨option, h⟩) ⟨_, rfl, rfl⟩)
  · rw [if_neg hwritable]
    exact .broken (fun h => h.elim hnone hwritable) ⟨_, rfl, rfl⟩

theorem Sections.gather_follows (entries : List (Value × Value)) (before : List Value) (given : List Section)
    (sections : Sections) (hgiven : ∀ option, option ∈ given ↔ ∃ other ∈ before, Spells other option) :
    Follows (keyChecks before entries) (Gathers given sections entries) (gather given sections entries) := by
  induction entries generalizing before given sections with
  | nil => exact .pure ⟨by simp, fun _ => rfl⟩
  | cons entry rest ih =>
    obtain ⟨key, value⟩ := entry
    rw [gather]
    cases hoption : Section.ofValue? key with
    | none =>
      refine refuseKey_follows ?_
      rintro ⟨option, h⟩
      rw [← Section.ofValue?_eq_some_iff, hoption] at h
      cases h
    | some option =>
      have hspells : Spells key option := Section.ofValue?_eq_some_iff.mp hoption
      refine .held (Or.inl ⟨option, hspells⟩) ?_
      dsimp only
      by_cases hmem : option ∈ given
      · rw [if_pos hmem]
        obtain ⟨other, hother, hsame⟩ := (hgiven option).mp hmem
        refine .broken ?_ ⟨_, rfl, rfl⟩
        rintro ⟨found, hfound, hnew⟩
        exact hnew other hother (hspells.unique hfound ▸ hsame)
      · rw [if_neg hmem]
        refine .held ⟨option, hspells, fun other hother hsame => hmem ((hgiven option).mpr ⟨other, hother, hsame⟩)⟩ ?_
        have hkeys : ∀ other, other ∈ option :: given ↔ ∃ key' ∈ key :: before, Spells key' other := by
          intro other
          rw [List.mem_cons, hgiven, List.exists_mem_cons_iff]
          exact or_congr_left ⟨fun h => h ▸ hspells, fun h => h.unique hspells⟩
        exact (ih (key :: before) (option :: given) (sections.set option value) hkeys).imp fun result hresult =>
          hresult.cons hspells hmem

theorem keyChecks_verdict {before : List Value} {entries : List (Value × Value)} :
    ∀ check ∈ keyChecks before entries, check.verdict = .longNumber ∨ check.verdict = .defect [] := by
  induction entries generalizing before with
  | nil => exact fun _ h => absurd h List.not_mem_nil
  | cons entry rest ih =>
    refine List.forall_mem_cons.mpr ⟨Or.inl rfl, ?_⟩
    exact List.forall_mem_cons.mpr ⟨Or.inr rfl, ih⟩

/-! ### Settings -/

theorem ofValue_follows (value : Value) :
    Follows (checks value) (IsRead (Section.valueIn (value.entries?.getD []))) (ofValue value) := by
  refine (readEntries_follows [] value).bind ?_
  rintro _ rfl
  refine (Sections.gather_follows _ [] [] {} (by simp)).bind ?_
  intro sections hsections
  have hget : Section.valueIn (value.entries?.getD []) = sections.get := by
    funext option
    rw [hsections.get]
    cases option <;> rfl
  rw [hget]
  exact sections.read_follows

/-- **The first wrong entry decides.** A mapping of options is refused with an empty path if the first broken
check of its keys is one of a key that is unknown or repeated. If its keys are in order, it is refused at a path
exactly if the first broken check of its options is one at that path, and if none is broken, it gives the settings
that the values of the options describe. Other errors are those of keys that are too long to be written and of
patterns that ask for too much, where these come first. -/
theorem ofValue_first_wrong (entries : List (Value × Value)) :
    (∀ path, Breaks (keyChecks [] entries) (.defect path) →
      ∃ defect, ofValue (.map entries) = .error (.invalid defect [])) ∧
    ((∀ check ∈ keyChecks [] entries, check.holds) →
      (∀ path, (∃ defect, ofValue (.map entries) = .error (.invalid defect path)) ↔
        Breaks (optionChecks (Section.valueIn entries)) (.defect path)) ∧
      ((∀ check ∈ optionChecks (Section.valueIn entries), check.holds) →
        ∃ settings, ofValue (.map entries) = .ok settings ∧ IsRead (Section.valueIn entries) settings)) ∧
    (ofValue (.map entries) = .error .longNumber ↔
      Breaks (keyChecks [] entries ++ optionChecks (Section.valueIn entries)) .longNumber) ∧
    ((∃ error, ofValue (.map entries) = .error (.pattern error)) ↔
      Breaks (keyChecks [] entries ++ optionChecks (Section.valueIn entries)) .hugePattern) := by
  have hfollows : Follows (keyChecks [] entries ++ optionChecks (Section.valueIn entries))
      (IsRead (Section.valueIn entries)) (ofValue (.map entries)) := (ofValue_follows (.map entries)).tail rfl
  refine ⟨fun path hkeys => ?_, fun hkeys => ⟨fun path => ?_, fun hoptions => ?_⟩, hfollows.longNumber_iff,
    hfollows.pattern_iff⟩
  · obtain rfl : path = [] := by
      rcases hkeys.exists_mem with ⟨check, hcheck, hverdict⟩
      rcases keyChecks_verdict check hcheck with hlong | hdefect
      · rw [hlong] at hverdict
        cases hverdict
      · exact Verdict.defect.inj (hverdict.symm.trans hdefect)
    exact (hfollows.invalid_iff []).mpr (Breaks.append_iff.mpr (Or.inl hkeys))
  · rw [hfollows.invalid_iff, Breaks.append_iff]
    exact ⟨fun h => h.elim (fun hbroken => absurd hkeys hbroken.not_forall) And.right, fun h => Or.inr ⟨hkeys, h⟩⟩
  · exact hfollows.ok (List.forall_mem_append.mpr ⟨hkeys, hoptions⟩)

/-- A key that is unknown but too long to be written leads to an error of another kind. -/
theorem ofValue_long_key :
    (∀ option, ¬ Spells (.int (Nat.pow 16 3600 - 1 : Nat)) option) ∧
      ¬ ∃ defect path, ofValue (.map [(.int (Nat.pow 16 3600 - 1 : Nat), .int 1)]) = .error (.invalid defect path) := by
  refine ⟨fun option h => ?_, ?_⟩
  · cases h
  · rintro ⟨defect, path, h⟩
    have hlong : ofValue (.map [(.int (Nat.pow 16 3600 - 1 : Nat), .int 1)]) = .error .longNumber := by
      rw [(ofValue_follows _).longNumber_iff]
      refine .there rfl (.here ?_)
      rintro (⟨option, ⟨⟩⟩ | h)
      revert h
      decide +kernel
    rw [hlong] at h
    cases h

end Settings

end BraceLink
