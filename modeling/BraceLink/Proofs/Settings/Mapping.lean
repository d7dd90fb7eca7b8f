import BraceLink.Proofs.Settings.Reread

/-!
# Mappings of options

Whether a mapping of options is read depends on two things that can be told apart (`ofValue_map_ok_iff`): its keys
spell options, each once (`Keyed`), and the value of each option passes the checks of this option. If each option
comes once, only the values count (`ofValue_map_eq_read`), and a value that is empty counts like none
(`Sections.read_eq_of_alike`).
-/

namespace BraceLink.Settings

/-! ### Options as entries -/

def Keyed (entries : List (Value × Value)) (options : List Section) : Prop :=
  List.Forall₂ (fun entry option => Spells entry.1 option) entries options

theorem Keyed.exists_spells_iff {entries : List (Value × Value)} {options : List Section} (h : Keyed entries options)
    {option : Section} : (∃ entry ∈ entries, Spells entry.1 option) ↔ option ∈ options := by
  induction h with
  | nil => simp
  | @cons entry other _ _ hspells _ ih =>
    rw [List.exists_mem_cons_iff, List.mem_cons, ih]
    exact or_congr_left ⟨fun h => h.unique hspells, fun h => h ▸ hspells⟩

namespace Section

def singles : List Section := [.links, .platforms, .rules]

/-- The key of an option in its own spelling. -/
def key (option : Section) : Value := .text option.name

theorem spells_key (option : Section) : Spells option.key option := .name option

theorem key_inj {option other : Section} (h : option.key = other.key) : option = other :=
  option.spells_key.unique (h ▸ other.spells_key)

def entries (keys values : Section → Value) (order : List Section) : List (Value × Value) :=
  order.map fun option => (keys option, values option)

theorem keyed_entries {keys : Section → Value} (hkeys : ∀ option, Spells (keys option) option)
    (values : Section → Value) (order : List Section) : Keyed (entries keys values order) order := by
  rw [Keyed, entries, List.forall₂_map_left_iff, List.forall₂_same]
  exact fun option _ => hkeys option

variable {option : Section} {first second : List (Value × Value)}

theorem find?_eq_none_iff :
    (first.find? fun entry => ofValue? entry.1 = some option) = none ↔ ¬ ∃ entry ∈ first, Spells entry.1 option := by
  simp [List.find?_eq_none, ofValue?_eq_some_iff]

theorem valueIn_append_of_mem (h : ∃ entry ∈ first, Spells entry.1 option) :
    valueIn (first ++ second) option = valueIn first option := by
  rw [valueIn, valueIn, List.find?_append]
  cases hfind : first.find? fun entry => ofValue? entry.1 = some option with
  | none => exact absurd h (find?_eq_none_iff.mp hfind)
  | some entry => rfl

theorem valueIn_append_of_not_mem (h : ¬ ∃ entry ∈ first, Spells entry.1 option) :
    valueIn (first ++ second) option = valueIn second option := by
  rw [valueIn, valueIn, List.find?_append, find?_eq_none_iff.mpr h, Option.none_or]

theorem valueIn_entries {keys : Section → Value} (hkeys : ∀ option, Spells (keys option) option)
    (values : Section → Value) (order : List Section) :
    valueIn (entries keys values order) option = if option ∈ order then values option else .null := by
  induction order with
  | nil => rfl
  | cons other order ih =>
    have hone : (∃ entry ∈ entries keys values [other], Spells entry.1 option) ↔ option ∈ [other] :=
      (keyed_entries hkeys values [other]).exists_spells_iff
    show valueIn (entries keys values [other] ++ entries keys values order) option = _
    by_cases h : option = other
    · subst h
      rw [valueIn_append_of_mem (hone.mpr List.mem_cons_self), if_pos List.mem_cons_self]
      simp [valueIn, entries, ofValue?_eq_some_iff.mpr (hkeys option)]
    · rw [valueIn_append_of_not_mem (by rw [hone]; simpa using h), ih]
      simp [h]

end Section

/-! ### Mappings that are read -/

section

variable {entries : List (Value × Value)} {options : List Section}

theorem keyChecks_hold_iff {before : List Value} :
    (∀ check ∈ keyChecks before entries, check.holds) ↔
      ∃ options, Keyed entries options ∧ options.Nodup ∧
        ∀ option ∈ options, ∀ other ∈ before, ¬ Spells other option := by
  induction entries generalizing before with
  | nil => exact ⟨fun _ => ⟨[], .nil, List.nodup_nil, by simp⟩, fun _ => by simp [keyChecks]⟩
  | cons entry rest ih =>
    obtain ⟨key, value⟩ := entry
    rw [keyChecks, List.forall_mem_cons, List.forall_mem_cons, ih]
    constructor
    · rintro ⟨-, ⟨option, hspells, hnew⟩, options, hkeyed, hnodup, hfree⟩
      refine ⟨option :: options, .cons hspells hkeyed, List.nodup_cons.mpr ⟨fun hmem => ?_, hnodup⟩,
        List.forall_mem_cons.mpr ⟨hnew, fun other hother => ?_⟩⟩
      · exact hfree option hmem key List.mem_cons_self hspells
      · exact fun found hfound => hfree other hother found (List.mem_cons_of_mem _ hfound)
    · rintro ⟨_, hkeyed, hnodup, hfree⟩
      cases hkeyed with
      | @cons _ option _ options hspells hrest =>
        obtain ⟨hmem, hnodup⟩ := List.nodup_cons.mp hnodup
        obtain ⟨hnew, hothers⟩ := List.forall_mem_cons.mp hfree
        refine ⟨Or.inl ⟨option, hspells⟩, ⟨option, hspells, hnew⟩, options, hrest, hnodup, fun other hother => ?_⟩
        refine List.forall_mem_cons.mpr ⟨fun hkey => ?_, hothers other hother⟩
        exact hmem (hkey.unique hspells ▸ hother)

/-- Keys that all spell options can only be refused because an option comes twice. -/
theorem verdict_of_breaks_keyChecks {before : List Value} {verdict : Verdict} (hkeyed : Keyed entries options)
    (h : Breaks (keyChecks before entries) verdict) : verdict = .defect [] := by
  induction hkeyed generalizing before with
  | nil => cases h
  | cons hspells _ ih =>
    rw [keyChecks, Breaks.cons_iff, Breaks.cons_iff] at h
    rcases h with ⟨hbroken, -⟩ | ⟨-, ⟨-, hverdict⟩ | ⟨-, hrest⟩⟩
    · exact absurd (Or.inl ⟨_, hspells⟩) hbroken
    · exact hverdict.symm
    · exact ih hrest

theorem ofValue_map_follows (entries : List (Value × Value)) :
    Follows (keyChecks [] entries ++ optionChecks (Section.valueIn entries)) (IsRead (Section.valueIn entries))
      (ofValue (.map entries)) := (ofValue_follows (.map entries)).tail rfl

theorem optionChecks_hold_iff {values : Section → Value} :
    (∀ check ∈ optionChecks values, check.holds) ↔
      ∀ option : Section, ∀ check ∈ option.checks (values option), check.holds := by
  simp only [optionChecks, List.mem_flatMap, forall_exists_index, and_imp]
  constructor
  · exact fun h option check hcheck => h check option (by cases option <;> decide) hcheck
  · exact fun h check option _ hcheck => h option check hcheck

/-- A mapping is read if its keys spell options, each once, and every option has a value it can have. -/
theorem ofValue_map_ok_iff :
    (∃ settings, ofValue (.map entries) = .ok settings) ↔
      (∃ options, Keyed entries options ∧ options.Nodup) ∧
        ∀ option : Section, ∀ check ∈ option.checks (Section.valueIn entries option), check.holds := by
  rw [(ofValue_map_follows entries).exists_ok_iff, List.forall_mem_append, keyChecks_hold_iff, optionChecks_hold_iff]
  simp

theorem ofValue_map_of_not_nodup (hkeyed : Keyed entries options) (hnodup : ¬ options.Nodup) :
    ∃ defect, ofValue (.map entries) = .error (.invalid defect []) := by
  refine ((ofValue_map_follows entries).invalid_iff []).mpr (Breaks.append_iff.mpr (Or.inl ?_))
  rcases Breaks.forall_or_exists (keyChecks [] entries) with hall | ⟨verdict, hbreaks⟩
  · obtain ⟨found, hfound, hfoundNodup, -⟩ := keyChecks_hold_iff.mp hall
    have hunique : Relator.RightUnique fun (entry : Value × Value) option => Spells entry.1 option :=
      fun _ _ _ h hother => h.unique hother
    exact absurd (hunique.forall₂ hfound hkeyed ▸ hfoundNodup) hnodup
  · exact verdict_of_breaks_keyChecks hkeyed hbreaks ▸ hbreaks

/-- The values of options, option by option. -/
def Sections.of (values : Section → Value) : Sections where
  links := values .links
  platforms := values .platforms
  rules := values .rules
  chain := values .chain

theorem ofValue_map_eq_read (hkeyed : Keyed entries options) (hnodup : options.Nodup) :
    ofValue (.map entries) = (Sections.of (Section.valueIn entries)).read := by
  obtain ⟨sections, hgather, hsections⟩ := (Sections.gather_follows entries [] [] {} (by simp)).ok
    (keyChecks_hold_iff.mpr ⟨options, hkeyed, hnodup, fun _ _ _ h => absurd h List.not_mem_nil⟩)
  have hsame : sections = Sections.of (Section.valueIn entries) := by
    refine Sections.ext_get fun option => ?_
    rw [hsections.get]
    cases option <;> rfl
  show (Sections.gather [] {} entries >>= Sections.read) = _
  rw [hgather, hsame]
  rfl

end

/-! ### Values of one option -/

namespace Section

def Accepts (option : Section) (value : Value) : Prop :=
  ∃ settings, ofValue (.map [(.text option.name, value)]) = .ok settings

theorem checks_null (option : Section) : ∀ check ∈ option.checks .null, check.holds := by
  have hread : ∃ settings, ofValue (.map []) = .ok settings := ⟨{}, rfl⟩
  exact (ofValue_map_ok_iff.mp hread).2 option

theorem accepts_iff {option : Section} {value : Value} :
    option.Accepts value ↔ ∀ check ∈ option.checks value, check.holds := by
  have hvalue : ∀ other, valueIn [(.text option.name, value)] other = if other ∈ [option] then value else .null :=
    fun other => valueIn_entries spells_key (fun _ => value) [option]
  rw [Accepts, ofValue_map_ok_iff]
  constructor
  · rintro ⟨-, hchecks⟩
    have hown := hchecks option
    rwa [hvalue, if_pos (List.mem_singleton.mpr rfl)] at hown
  · intro hchecks
    refine ⟨⟨[option], keyed_entries spells_key (fun _ => value) [option], by simp⟩, ?_⟩
    intro other
    rw [hvalue]
    split
    · next h => exact List.mem_singleton.mp h ▸ hchecks
    · exact other.checks_null

/-- The values are equal, or the first is nothing and the second, which the option can have, is empty. -/
def Alike (option : Section) (value other : Value) : Prop :=
  value = other ∨ (option ∈ singles ∧ value = .null ∧ other.isVoid ∧ ∀ check ∈ option.checks other, check.holds)

theorem Alike.congr {β : Type} {option : Section} {value other : Value} (h : option.Alike value other)
    (read : Value → β)
    (hempty : ∀ value : Value, value.isVoid → (∀ check ∈ option.checks value, check.holds) → read value = read .null) :
    read value = read other := by
  rcases h with rfl | ⟨-, rfl, hvoid, hchecks⟩
  · rfl
  · exact (hempty other hvoid hchecks).symm

end Section

theorem readTable_of_isVoid {α : Type} (read : Text → Value → Result α) (path : Text) {value : Value}
    (hvoid : value.isVoid) (hentries : value.entries?.isSome) : readTable read path value = readTable read path .null := by
  cases value <;> simp_all [Value.isVoid, Value.entries?]
  rfl

theorem readList_of_isVoid {α : Type} (read : Text → Value → Result α) (path : Text) {value : Value}
    (hvoid : value.isVoid) (hitems : value.items?.isSome) : readList read path value = readList read path .null := by
  cases value <;> simp_all [Value.isVoid, Value.items?]
  · rfl
  · rfl

theorem Sections.get_of (values : Section → Value) (option : Section) : (Sections.of values).get option = values option := by
  cases option <;> rfl

theorem Sections.read_eq_of_alike {first second : Sections}
    (h : ∀ option : Section, option.Alike (first.get option) (second.get option)) : first.read = second.read := by
  have hlinks := (h .links).congr (readTable readTarget Section.links.name) fun _ hvoid hchecks =>
    readTable_of_isVoid _ _ hvoid (hchecks _ List.mem_cons_self)
  have hplatforms := (h .platforms).congr (readTable (readTable readProfile) Section.platforms.name)
    fun _ hvoid hchecks => readTable_of_isVoid _ _ hvoid (hchecks _ List.mem_cons_self)
  have hrules := (h .rules).congr (readList readRule Section.rules.name) fun _ hvoid hchecks =>
    readList_of_isVoid _ _ hvoid (hchecks _ List.mem_cons_self)
  have hchain : first.chain = second.chain := by
    rcases h .chain with hsame | ⟨hsingle, -⟩
    · exact hsame
    · exact absurd hsingle (by decide)
  simp only [get] at hlinks hplatforms hrules
  rw [read, read, hlinks, hplatforms, hrules, hchain]

end BraceLink.Settings
