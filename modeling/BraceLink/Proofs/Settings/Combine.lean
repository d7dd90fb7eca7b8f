import BraceLink.Proofs.Settings.Mapping
import BraceLink.Proofs.Settings.Spelling
import BraceLink.Settings.Combine
import Mathlib.Data.List.Nodup

/-!
# Options in two places

Options that are given on their own are added behind those that are given together. The mapping that results is read
if both were and no option is given in both places (`Parts.Together.exists_settings_of_apart`). An option in both
places is refused (`Parts.Together.combine_of_shared`): its name is found before anything is read, and another spelling
of it while keys are gathered. What counts as not given is passed over, which loses nothing since it would be read like
nothing (`IsSplit.alike`).
-/

namespace BraceLink.Settings

/-! ### Options on their own -/

namespace Parts

/-- The value that an option is given on its own; a chain is not. -/
def get (parts : Parts) : Section → Value
  | .links => parts.links
  | .platforms => parts.platforms
  | .rules => parts.rules
  | .chain => .null

def given (parts : Parts) : List Section := Section.singles.filter fun option => !(parts.get option).isVoid

def entries (parts : Parts) : List (Value × Value) := parts.options.entries?.getD []

/-- The options that are given together, followed by those on their own. -/
def extended (parts : Parts) : List (Value × Value) :=
  parts.entries ++ Section.entries Section.key parts.get parts.given

variable {parts : Parts} {option : Section}

theorem mem_given_iff : option ∈ parts.given ↔ option ∈ Section.singles ∧ (parts.get option).isVoid = false := by
  simp [given, List.mem_filter]

theorem nodup_given (parts : Parts) : parts.given.Nodup := List.Nodup.filter _ (by decide)

theorem single_eq (parts : Parts) : parts.single = parts.given.map fun option => (option, parts.get option) := by
  have hsingles : [(Section.links, parts.links), (.platforms, parts.platforms), (.rules, parts.rules)] =
      Section.singles.map fun option => (option, parts.get option) := rfl
  rw [single, hsingles, List.filter_map]
  rfl

end Parts

theorem get?_isSome_iff {entries : List (Value × Value)} {option : Section} :
    (Value.get? entries option.name).isSome ↔ ∃ entry ∈ entries, entry.1 = option.key := by
  simp [Value.get?, List.find?_isSome, Value.sameKey_text_iff, Section.key]

theorem foldlM_addSingle_of_free (values : Section → Value) {given : List Section} (hgiven : given.Nodup)
    {entries : List (Value × Value)} (hfree : ∀ option ∈ given, ¬ ∃ entry ∈ entries, entry.1 = option.key) :
    (given.map fun option => (option, values option)).foldlM addSingle entries =
      .ok (entries ++ Section.entries Section.key values given) := by
  induction given generalizing entries with
  | nil => simp [Section.entries, pure, Except.pure]
  | cons option given ih =>
    obtain ⟨hoption, hothers⟩ := List.forall_mem_cons.mp hfree
    obtain ⟨hnew, hgiven⟩ := List.nodup_cons.mp hgiven
    have hadd : addSingle entries (option, values option) = .ok (entries ++ [(option.key, values option)]) := by
      rw [addSingle, if_neg (mt get?_isSome_iff.mp hoption)]
      rfl
    have hrest : ∀ other ∈ given, ¬ ∃ entry ∈ entries ++ [(option.key, values option)], entry.1 = other.key := by
      rintro other hother ⟨entry, hentry, hkey⟩
      rcases List.mem_append.mp hentry with hold | hadded
      · exact hothers other hother ⟨entry, hold, hkey⟩
      · cases List.mem_singleton.mp hadded
        exact hnew (Section.key_inj hkey ▸ hother)
    rw [List.map_cons, List.foldlM_cons, hadd]
    refine (ih hgiven hrest).trans ?_
    rw [List.append_assoc]
    rfl

theorem foldlM_addSingle_of_taken (values : Section → Value) {given : List Section}
    {entries : List (Value × Value)} (htaken : ∃ option ∈ given, ∃ entry ∈ entries, entry.1 = option.key) :
    ∃ option : Section, (given.map fun option => (option, values option)).foldlM addSingle entries =
      .error (.invalid (.invalid .givenInBoth option.name)) := by
  induction given generalizing entries with
  | nil => simp at htaken
  | cons option given ih =>
    rw [List.map_cons, List.foldlM_cons, addSingle]
    split_ifs with hname
    · exact ⟨option, rfl⟩
    · rcases (List.exists_mem_cons_iff ..).mp htaken with hoption | ⟨other, hother, entry, hentry, hkey⟩
      · exact absurd (get?_isSome_iff.mpr hoption) hname
      · exact ih ⟨other, hother, entry, List.mem_append_left _ hentry, hkey⟩

/-! ### Both together -/

/-- Options are given together as a mapping of these, each once. -/
structure Parts.Together (parts : Parts) (options : List Section) : Prop where
  entriesOf : entriesOf parts.options = .ok parts.entries
  keyed : Keyed parts.entries options
  nodup : options.Nodup

variable {parts : Parts}

theorem entriesOf_map (entries : List (Value × Value)) : entriesOf (.map entries) = .ok entries := by
  cases entries <;> rfl

theorem Parts.entries_of_isVoid (h : parts.options.isVoid) : parts.entries = [] := by
  unfold entries
  cases hoptions : parts.options <;> simp_all [Value.isVoid, Value.entries?]

theorem Parts.exists_together (h : (∃ accepted, ofValue parts.options = .ok accepted) ∨ parts.options.isVoid) :
    ∃ options, parts.Together options ∧
      ∀ option : Section, ∀ check ∈ option.checks (Section.valueIn parts.entries option), check.holds := by
  have hread : Settings.entriesOf parts.options = .ok parts.entries ∧
      ∃ settings, ofValue (.map parts.entries) = .ok settings := by
    rcases h with ⟨accepted, haccepted⟩ | hvoid
    · unfold Parts.entries
      cases hoptions : parts.options with
      | null => exact ⟨rfl, {}, rfl⟩
      | map entries => exact ⟨entriesOf_map entries, accepted, hoptions ▸ haccepted⟩
      | _ =>
        rw [hoptions] at haccepted
        cases haccepted
    · rw [Parts.entries_of_isVoid hvoid]
      exact ⟨if_pos hvoid, {}, rfl⟩
  obtain ⟨hentries, hsettings⟩ := hread
  obtain ⟨⟨options, hkeyed, hnodup⟩, hchecks⟩ := ofValue_map_ok_iff.mp hsettings
  exact ⟨options, ⟨hentries, hkeyed, hnodup⟩, hchecks⟩

theorem combine_eq (h : entriesOf parts.options = .ok parts.entries) :
    combine parts = (parts.given.map fun option => (option, parts.get option)).foldlM addSingle parts.entries >>=
      fun entries => (ofValue (.map entries)).mapError .invalid := by
  rw [← Parts.single_eq]
  unfold combine
  split
  · next settings hsettings =>
    rw [hsettings] at h
    cases h
  · rw [h]
    rfl

namespace Parts.Together

variable {options : List Section} (h : parts.Together options)

include h

theorem keyed_extended : Keyed parts.extended (options ++ parts.given) :=
  List.rel_append h.keyed (Section.keyed_entries Section.spells_key parts.get parts.given)

theorem valueIn_extended (option : Section) :
    Section.valueIn parts.extended option =
      if option ∈ options then Section.valueIn parts.entries option
      else if option ∈ parts.given then parts.get option else .null := by
  rw [extended, ← Section.valueIn_entries Section.spells_key]
  split_ifs with hmem
  · exact Section.valueIn_append_of_mem (h.keyed.exists_spells_iff.mpr hmem)
  · exact Section.valueIn_append_of_not_mem (mt h.keyed.exists_spells_iff.mp hmem)

theorem combine_of_free (hfree : ∀ option ∈ parts.given, ¬ ∃ entry ∈ parts.entries, entry.1 = option.key) :
    combine parts = (ofValue (.map parts.extended)).mapError .invalid := by
  rw [combine_eq h.entriesOf, foldlM_addSingle_of_free parts.get parts.nodup_given hfree]
  rfl

theorem combine_of_shared (hshared : ∃ option ∈ parts.given, option ∈ options) :
    ∃ defect path, combine parts = .error (.invalid (.invalid defect path)) := by
  -- its name is found when it is added, and another spelling of it only when all keys are gathered
  by_cases htaken : ∃ option ∈ parts.given, ∃ entry ∈ parts.entries, entry.1 = option.key
  · obtain ⟨option, hrefused⟩ := foldlM_addSingle_of_taken parts.get htaken
    rw [combine_eq h.entriesOf, hrefused]
    exact ⟨_, _, rfl⟩
  · have hfree : ∀ option ∈ parts.given, ¬ ∃ entry ∈ parts.entries, entry.1 = option.key :=
      fun option hoption hkey => htaken ⟨option, hoption, hkey⟩
    have hrepeated : ¬ (options ++ parts.given).Nodup := by
      obtain ⟨option, hgiven, hmem⟩ := hshared
      exact fun hnodup => List.disjoint_of_nodup_append hnodup hmem hgiven
    obtain ⟨defect, hrefused⟩ := ofValue_map_of_not_nodup h.keyed_extended hrepeated
    rw [h.combine_of_free hfree, hrefused]
    exact ⟨_, _, rfl⟩

theorem combine_of_apart (hapart : ∀ option ∈ parts.given, option ∉ options) :
    combine parts = (ofValue (.map parts.extended)).mapError .invalid := by
  refine h.combine_of_free fun option hgiven ⟨entry, hentry, hkey⟩ => ?_
  refine hapart option hgiven (h.keyed.exists_spells_iff.mp ⟨entry, hentry, ?_⟩)
  rw [hkey]
  exact option.spells_key

theorem nodup_extended (hapart : ∀ option ∈ parts.given, option ∉ options) : (options ++ parts.given).Nodup :=
  h.nodup.append parts.nodup_given fun option hmem hgiven => hapart option hgiven hmem

theorem exists_settings_of_apart (hapart : ∀ option ∈ parts.given, option ∉ options)
    (hchecks : ∀ option : Section, ∀ check ∈ option.checks (Section.valueIn parts.entries option), check.holds)
    (haccepts : ∀ option ∈ parts.given, option.Accepts (parts.get option)) :
    ∃ settings, combine parts = .ok settings ∧ ofValue (.map parts.extended) = .ok settings := by
  have hvalues : ∀ option : Section, ∀ check ∈ option.checks (Section.valueIn parts.extended option), check.holds := by
    intro option
    rw [h.valueIn_extended]
    split_ifs with hmem hgiven
    · exact hchecks option
    · exact Section.accepts_iff.mp (haccepts option hgiven)
    · exact option.checks_null
  obtain ⟨settings, hread⟩ := ofValue_map_ok_iff.mpr ⟨⟨_, h.keyed_extended, h.nodup_extended hapart⟩, hvalues⟩
  refine ⟨settings, ?_, hread⟩
  rw [h.combine_of_apart hapart, hread]
  rfl

end Parts.Together

theorem combine_settings {settings : Settings} (h : parts.options = .settings settings) :
    (parts.given = [] → combine parts = .ok settings) ∧
      (parts.given ≠ [] → ∃ names, combine parts = .error (.invalid (.invalid .notAlone names))) := by
  unfold combine
  rw [h, Parts.single_eq]
  cases parts.given with
  | nil => exact ⟨fun _ => rfl, fun hnot => absurd rfl hnot⟩
  | cons option given => exact ⟨fun hnil => absurd hnil (by simp), fun _ => ⟨_, rfl⟩⟩

/-! ### Nothing is lost -/

/-- The values of the options are split between the two places: those in the order are given together, with these
keys, and the others on their own, or not at all if they are empty. -/
structure IsSplit (keys values : Section → Value) (order : List Section) (parts : Parts) : Prop where
  spells : ∀ option, Spells (keys option) option
  nodup : order.Nodup
  single : ∀ option ∈ order, option ∈ Section.singles
  options : parts.options = .map (Section.entries keys values order)
  once : ∀ option ∈ order, (parts.get option).isVoid
  alone : ∀ option ∈ Section.singles, option ∉ order →
    parts.get option = values option ∨ ((parts.get option).isVoid ∧ (values option).isVoid)

namespace IsSplit

variable {keys values : Section → Value} {order : List Section} (h : IsSplit keys values order parts)

include h

theorem entries_eq : parts.entries = Section.entries keys values order := by
  rw [Parts.entries, h.options]
  rfl

theorem together : parts.Together order where
  entriesOf := by rw [h.entries_eq, h.options, entriesOf_map]
  keyed := h.entries_eq ▸ Section.keyed_entries h.spells values order
  nodup := h.nodup

theorem apart : ∀ option ∈ parts.given, option ∉ order := by
  intro option hgiven hmem
  have hvoid := (Parts.mem_given_iff.mp hgiven).2
  rw [h.once option hmem] at hvoid
  cases hvoid

theorem alike (hchecks : ∀ option ∈ Section.singles, ∀ check ∈ option.checks (values option), check.holds)
    (option : Section) :
    option.Alike (Section.valueIn parts.extended option)
      (Section.valueIn (Section.entries Section.key values Section.singles) option) := by
  rw [h.together.valueIn_extended, h.entries_eq, Section.valueIn_entries h.spells,
    Section.valueIn_entries Section.spells_key]
  by_cases hmem : option ∈ order
  · rw [if_pos hmem, if_pos hmem, if_pos (h.single option hmem)]
    exact Or.inl rfl
  rw [if_neg hmem]
  by_cases hsingle : option ∈ Section.singles
  · rw [if_pos hsingle]
    split_ifs with hgiven
    · have hfull := (Parts.mem_given_iff.mp hgiven).2
      rcases h.alone option hsingle hmem with hsame | ⟨hvoid, -⟩
      · exact Or.inl hsame
      · rw [hvoid] at hfull
        cases hfull
    · -- it is passed over, so there is nothing in the place of an empty value
      have hempty : (parts.get option).isVoid = true := by simpa [Parts.mem_given_iff, hsingle] using hgiven
      have hvoid : (values option).isVoid = true := by
        rcases h.alone option hsingle hmem with hsame | ⟨-, hvoid⟩
        · rw [← hsame, hempty]
        · exact hvoid
      exact Or.inr ⟨hsingle, rfl, hvoid, hchecks option hsingle⟩
  · rw [if_neg hsingle, if_neg fun hgiven => hsingle (Parts.mem_given_iff.mp hgiven).1]
    exact Or.inl rfl

theorem combine_eq_ok {settings : Settings}
    (hread : ofValue (.map (Section.entries Section.key values Section.singles)) = .ok settings) :
    combine parts = .ok settings := by
  have hchecks : ∀ option ∈ Section.singles, ∀ check ∈ option.checks (values option), check.holds := by
    intro option hsingle
    have hown := (ofValue_map_ok_iff.mp ⟨settings, hread⟩).2 option
    rwa [Section.valueIn_entries Section.spells_key, if_pos hsingle] at hown
  have hwhole : ofValue (.map parts.extended) = .ok settings :=
    calc ofValue (.map parts.extended)
      _ = (Sections.of (Section.valueIn parts.extended)).read :=
        ofValue_map_eq_read h.together.keyed_extended (h.together.nodup_extended h.apart)
      _ = (Sections.of (Section.valueIn (Section.entries Section.key values Section.singles))).read :=
        Sections.read_eq_of_alike fun option => by
          rw [Sections.get_of, Sections.get_of]
          exact h.alike hchecks option
      _ = ofValue (.map (Section.entries Section.key values Section.singles)) :=
        (ofValue_map_eq_read (Section.keyed_entries Section.spells_key values Section.singles) (by decide)).symm
      _ = .ok settings := hread
  rw [h.together.combine_of_apart h.apart, hwhole]
  rfl

end IsSplit

/-- **Options in two places are combined without loss.** Options that are read, or empty, and options on their own
with values that they can have are refused exactly if an option is given in both places, whatever its keys; otherwise
they are read as the mapping of all of them. Complete settings are refused exactly beside an option on its own, and
otherwise they stay as they are. So the values of the three options give the same settings however they are split. -/
theorem combine_without_loss :
    (∀ parts : Parts, ((∃ accepted, ofValue parts.options = .ok accepted) ∨ parts.options.isVoid) →
      (∀ option ∈ parts.given, option.Accepts (parts.get option)) →
      ((∃ defect path, combine parts = .error (.invalid (.invalid defect path))) ↔
        ∃ option ∈ parts.given, ∃ entry ∈ parts.entries, Spells entry.1 option) ∧
      ((¬ ∃ option ∈ parts.given, ∃ entry ∈ parts.entries, Spells entry.1 option) →
        ∃ settings, combine parts = .ok settings ∧ ofValue (.map parts.extended) = .ok settings)) ∧
    (∀ parts settings, parts.options = .settings settings →
      ((∃ defect path, combine parts = .error (.invalid (.invalid defect path))) ↔ parts.given ≠ []) ∧
      (parts.given = [] → combine parts = .ok settings)) ∧
    ∀ values settings, ofValue (.map (Section.entries Section.key values Section.singles)) = .ok settings →
      ∀ keys order parts, IsSplit keys values order parts → combine parts = .ok settings := by
  refine ⟨fun parts hoptions haccepts => ?_, fun parts settings hsettings => ?_,
    fun values settings hread keys order parts hsplit => hsplit.combine_eq_ok hread⟩
  · obtain ⟨options, htogether, hchecks⟩ := Parts.exists_together hoptions
    have hmem : ∀ option, (∃ entry ∈ parts.entries, Spells entry.1 option) ↔ option ∈ options := fun option =>
      htogether.keyed.exists_spells_iff
    simp only [hmem]
    have hok : (¬ ∃ option ∈ parts.given, option ∈ options) →
        ∃ settings, combine parts = .ok settings ∧ ofValue (.map parts.extended) = .ok settings := fun hapart =>
      htogether.exists_settings_of_apart (fun option hgiven hmem => hapart ⟨option, hgiven, hmem⟩) hchecks haccepts
    refine ⟨⟨?_, htogether.combine_of_shared⟩, hok⟩
    rintro ⟨defect, path, hrefused⟩
    by_contra hapart
    obtain ⟨settings, hcombined, -⟩ := hok hapart
    rw [hcombined] at hrefused
    cases hrefused
  · obtain ⟨halone, hbeside⟩ := combine_settings hsettings
    refine ⟨⟨?_, fun hgiven => ?_⟩, halone⟩
    · rintro ⟨defect, path, hrefused⟩ hgiven
      rw [halone hgiven] at hrefused
      cases hrefused
    · obtain ⟨names, hrefused⟩ := hbeside hgiven
      exact ⟨_, _, hrefused⟩

/-- A target, no platforms, and a rule. -/
def fewValues : Section → Value
  | .links => .map [(.text "a", .text "b")]
  | .platforms => .map []
  | .rules => .list [.tuple [.text "b", .text "c"]]
  | .chain => .null

/-- What the target and the rule say. -/
def fewSettings : Settings where
  links := [("a".toList, ⟨"b", none⟩)]
  rules := [⟨.exact "b", "c"⟩]

/-- A key with a capital is the option as well, beside another option and beside the same. -/
theorem combine_without_loss_capital :
    (∃ settings,
      combine { options := .map [(.text "linksMap", fewValues .links)], rules := fewValues .rules } = .ok settings ∧
      ofValue (.map [(.text "linksMap", fewValues .links), (.text "image_overrides", fewValues .rules)]) =
        .ok settings) ∧
    (∃ defect path, combine { options := .map [(.text "linksMap", fewValues .links)], links := fewValues .links } =
      .error (.invalid (.invalid defect path))) ∧
    (∃ defect path, combine { options := .settings fewSettings, links := fewValues .links } =
      .error (.invalid (.invalid defect path))) ∧
    combine { options := .settings fewSettings } = .ok fewSettings ∧
    combine { options := .map [(.text "linksMap", fewValues .links)], rules := fewValues .rules } =
      .ok fewSettings := by
  obtain ⟨hmapping, hcomplete, hsplit⟩ := combine_without_loss
  let apart : Parts := { options := .map [(.text "linksMap", fewValues .links)], rules := fewValues .rules }
  let shared : Parts := { options := .map [(.text "linksMap", fewValues .links)], links := fewValues .links }
  let beside : Parts := { options := .settings fewSettings, links := fewValues .links }
  have happly := hmapping apart (Or.inl ⟨_, rfl⟩) (List.forall_mem_singleton.mpr ⟨_, rfl⟩)
  have hrefused := hmapping shared (Or.inl ⟨_, rfl⟩) (List.forall_mem_singleton.mpr ⟨_, rfl⟩)
  have hsingle : IsSplit (fun option => .text option.capitalKey) fewValues [.links] apart :=
    { spells := Section.spells_capitalKey
      nodup := by decide
      single := by decide
      options := rfl
      once := List.forall_mem_singleton.mpr rfl
      alone := fun option hsingle hmem => by
        cases option with
        | links => exact absurd (List.mem_singleton.mpr rfl) hmem
        | platforms => exact Or.inl rfl
        | rules => exact Or.inl rfl
        | chain => exact absurd hsingle (by decide) }
  refine ⟨happly.2 ?_, hrefused.1.mpr ⟨.links, List.mem_singleton.mpr rfl, _, List.mem_singleton.mpr rfl, .links⟩,
    (hcomplete beside fewSettings rfl).1.mpr (List.cons_ne_nil _ _),
    (hcomplete { options := .settings fewSettings } fewSettings rfl).2 rfl,
    hsplit fewValues fewSettings rfl _ [.links] apart hsingle⟩
  rintro ⟨option, hgiven, entry, hentry, hspells⟩
  obtain rfl : option = .rules := List.mem_singleton.mp hgiven
  obtain rfl := List.mem_singleton.mp hentry
  exact absurd (hspells.unique .links) (by decide)

end BraceLink.Settings
