import BraceLink.Proofs.Settings.Read

/-!
# Complete settings read again

Settings can be given as values again, option by option (`Settings.sections`): every entry is complete and is taken
as it is. What reading may change beside the entries are the names, which it merges where they come twice; in
settings that have been read they come once (`Sections.read_namesOnce`), so nothing is left to merge
(`NamesOnce.read_sections`). `read_again` adds the mapping of the four options, with any of their keys and in any
order (`Sections.gather_once`).
-/

namespace BraceLink

def ChainEntry.value : ChainEntry → Value
  | .name n => .text n
  | .handler h => .handler h

def Table.value {α : Type} (give : α → Value) (table : Table α) : Value :=
  .map (table.map fun entry => (.text entry.1, give entry.2))

namespace Settings

/-- Complete settings as the values of the four options. -/
def sections (settings : Settings) : Sections where
  links := Table.value .target settings.links
  platforms := Table.value (Table.value .profile) settings.platforms
  rules := .tuple (settings.rules.map .rule)
  chain :=
    match settings.chain with
    | none => .null
    | some chain => .tuple (chain.map ChainEntry.value)

/-- No name comes twice: among the targets, among the platforms, or among the users of a platform. -/
structure NamesOnce (settings : Settings) : Prop where
  links : settings.links.names.Nodup
  platforms : settings.platforms.names.Nodup
  users : ∀ platform ∈ settings.platforms, (Table.names platform.2).Nodup

/-! ### Complete entries -/

section

variable {α : Type} (read : Text → Value → Result α) (give : α → Value)

theorem readTable_value {table : Table α} (hread : ∀ entry ∈ table, ∀ path, read path (give entry.2) = .ok entry.2)
    (hnames : table.names.Nodup) (path : Text) : readTable read path (table.value give) = .ok table := by
  have hnamed : (table.map fun entry => (Value.text entry.1, give entry.2)).mapM (fun entry => do
      let name ← readName entry.1
      return (name, ← read (below path name) entry.2)) = Except.ok table := by
    rw [mapM_eq_ok_iff, List.forall₂_map_left_iff, List.forall₂_same]
    intro entry hentry
    show (read (below path entry.1) (give entry.2) >>= fun value => pure (entry.1, value)) = Except.ok entry
    rw [hread entry hentry]
    rfl
  calc readTable read path (table.value give)
    _ = (Except.ok table >>= fun named => pure (Table.ofList named)) :=
      congrArg (fun named : Result (List (Text × α)) => named >>= fun named => pure (Table.ofList named)) hnamed
    _ = .ok table := congrArg Except.ok (Table.ofList_eq_self hnames)

theorem readList_value {results : List α} (hread : ∀ result ∈ results, ∀ path, read path (give result) = .ok result)
    (path : Text) : readList read path (.tuple (results.map give)) = .ok results := by
  have hitems : List.Forall₂
      (fun (item : Value × Nat) result => read (below path (Text.ofNat item.2)) item.1 = .ok result)
      (results.map give).zipIdx (results.zipIdx.map Prod.fst) := by
    rw [List.zipIdx_map, List.forall₂_map_left_iff, List.forall₂_map_right_iff, List.forall₂_same]
    exact fun item hitem => hread item.1 (List.fst_mem_of_mem_zipIdx hitem) _
  rw [List.zipIdx_map_fst] at hitems
  exact mapM_eq_ok_iff.mpr hitems

end

theorem NamesOnce.read_sections {settings : Settings} (h : settings.NamesOnce) :
    settings.sections.read = .ok settings := by
  have hlinks : readTable readTarget Section.links.name settings.sections.links = .ok settings.links :=
    readTable_value readTarget .target (fun _ _ _ => rfl) h.links _
  have hplatforms : readTable (readTable readProfile) Section.platforms.name settings.sections.platforms =
      .ok settings.platforms :=
    readTable_value (readTable readProfile) (Table.value .profile)
      (fun platform hplatform => readTable_value readProfile .profile (fun _ _ _ => rfl) (h.users platform hplatform))
      h.platforms _
  have hrules : readList readRule Section.rules.name settings.sections.rules = .ok settings.rules :=
    readList_value readRule .rule (fun _ _ _ => rfl) _
  have hchain : Sections.readChain settings.sections.chain = .ok settings.chain := by
    unfold sections
    cases settings.chain with
    | none => rfl
    | some chain =>
      have hentries : readList readChainEntry Section.chain.name (.tuple (chain.map ChainEntry.value)) = .ok chain :=
        readList_value readChainEntry ChainEntry.value (fun entry _ _ => by cases entry <;> rfl) _
      show (readList readChainEntry Section.chain.name (.tuple (chain.map ChainEntry.value))).map some = _
      rw [hentries]
      rfl
  rw [Sections.read, hlinks, hplatforms, hrules, hchain]
  rfl

/-! ### Names of settings that are read -/

theorem nodup_of_readTable {α : Type} {read : Text → Value → Result α} {path : Text} {value : Value} {table : Table α}
    (h : readTable read path value = .ok table) :
    table.names.Nodup ∧ ∀ entry ∈ table, ∃ place given, read place given = .ok entry.2 := by
  obtain ⟨entries, -, h⟩ := bind_eq_ok h
  obtain ⟨named, hnamed, h⟩ := bind_eq_ok h
  cases h
  refine ⟨Table.nodup_names_ofList named, fun entry hentry => ?_⟩
  obtain ⟨source, -, hread⟩ := exists_of_forall₂ (mapM_eq_ok_iff.mp hnamed) (Table.mem_of_mem_ofList hentry)
  obtain ⟨name, -, hread⟩ := bind_eq_ok hread
  obtain ⟨found, hfound, hread⟩ := bind_eq_ok hread
  cases hread
  exact ⟨_, _, hfound⟩

theorem Sections.read_namesOnce {sections : Sections} {settings : Settings} (h : sections.read = .ok settings) :
    settings.NamesOnce := by
  obtain ⟨links, hlinks, h⟩ := bind_eq_ok h
  obtain ⟨platforms, hplatforms, h⟩ := bind_eq_ok h
  obtain ⟨rules, -, h⟩ := bind_eq_ok h
  obtain ⟨chain, -, h⟩ := bind_eq_ok h
  cases h
  refine ⟨(nodup_of_readTable hlinks).1, (nodup_of_readTable hplatforms).1, fun platform hplatform => ?_⟩
  obtain ⟨place, given, hread⟩ := (nodup_of_readTable hplatforms).2 platform hplatform
  exact (nodup_of_readTable hread).1

/-! ### The mapping of the options -/

theorem Sections.ext_get {first second : Sections} (h : ∀ option, first.get option = second.get option) :
    first = second := by
  cases first
  cases second
  congr
  · exact h .links
  · exact h .platforms
  · exact h .rules
  · exact h .chain

theorem Sections.gather_once {keys : Section → Value} (hkeys : ∀ option, Spells (keys option) option)
    (values : Section → Value) {order given : List Section} (horder : order.Nodup)
    (hgiven : ∀ option ∈ order, option ∉ given) (sections : Sections) :
    ∃ result, gather given sections (order.map fun option => (keys option, values option)) = .ok result ∧
      ∀ option, result.get option = if option ∈ order then values option else sections.get option := by
  induction order generalizing given sections with
  | nil => exact ⟨sections, rfl, fun option => (if_neg List.not_mem_nil).symm⟩
  | cons first order ih =>
    obtain ⟨hfirst, hrest⟩ := List.nodup_cons.mp horder
    obtain ⟨hnew, hothers⟩ := List.forall_mem_cons.mp hgiven
    have hmore : ∀ option ∈ order, option ∉ first :: given := by
      intro option hoption hmem
      rcases List.mem_cons.mp hmem with rfl | hmem
      · exact hfirst hoption
      · exact hothers option hoption hmem
    obtain ⟨result, hresult, hget⟩ := ih hrest hmore (sections.set first (values first))
    refine ⟨result, ?_, fun option => ?_⟩
    · simp only [List.map_cons, gather, Section.ofValue?_eq_some_iff.mpr (hkeys first), if_neg hnew, hresult]
    · rw [hget, get_set]
      by_cases hoption : option = first
      · simp [hoption, hfirst]
      · simp [hoption]

/-- **Complete settings are read as they are.** Settings that have been read, from single options or from a mapping,
are read again from the values of their own options, given one by one or as a mapping with any keys of the options
in any order: the settings are the same, and so is the order of everything in them. -/
theorem read_again {settings : Settings}
    (h : (∃ sections : Sections, sections.read = .ok settings) ∨ ∃ value, ofValue value = .ok settings) :
    settings.sections.read = .ok settings ∧
    ∀ (keys : Section → Value) (order : List Section), (∀ option, Spells (keys option) option) →
      order.Perm Section.all →
      ofValue (.map (order.map fun option => (keys option, settings.sections.get option))) = .ok settings := by
  have hnames : settings.NamesOnce := by
    rcases h with ⟨sections, hread⟩ | ⟨value, hread⟩
    · exact Sections.read_namesOnce hread
    · obtain ⟨entries, -, hread⟩ := bind_eq_ok hread
      obtain ⟨sections, -, hread⟩ := bind_eq_ok hread
      exact Sections.read_namesOnce hread
  refine ⟨hnames.read_sections, fun keys order hkeys horder => ?_⟩
  have hnodup : order.Nodup := horder.nodup_iff.mpr (by decide)
  obtain ⟨result, hresult, hget⟩ := Sections.gather_once hkeys settings.sections.get hnodup
    (fun _ _ => List.not_mem_nil) {}
  have hsame : result = settings.sections := by
    refine Sections.ext_get fun option => ?_
    have hoption : option ∈ order := horder.mem_iff.mpr (by cases option <;> decide)
    rw [hget, if_pos hoption]
  show (Sections.gather [] {} _ >>= Sections.read) = _
  rw [hresult, hsame]
  exact hnames.read_sections

def Section.capitalKey : Section → Text
  | .links => "linksMap"
  | .platforms => "platformUsers"
  | .rules => "imageOverrides"
  | .chain => Section.chain.name

theorem Section.spells_capitalKey (option : Section) : Spells (.text option.capitalKey) option := by
  cases option with
  | links => exact .links
  | platforms => exact .platforms
  | rules => exact .rules
  | chain => exact .name .chain

/-- Options with names that are written alike, and with entries that are complete already. -/
def alikeOptions : Value :=
  .map [(.text "links_map", .map [(.null, .text "a"), (.text "b", .target ⟨"c", none⟩), (.text "None", .text "d")]),
    (.text "platform_users", .map [(.bool true, .null), (.text "True",
      .map [(.text "x", .map [(.text "avatarUrl", .text "e"), (.text "link", .text "f")])])]),
    (.text "image_overrides", .list [.tuple [.text "a", .text "g"], .rule ⟨.exact [], "h"⟩]),
    (.text "handlers", .list [.text "link"])]

/-- What the options with names that are written alike say. -/
def alikeSettings : Settings where
  links := [("None".toList, ⟨"d", none⟩), ("b".toList, ⟨"c", none⟩)]
  platforms := [("True".toList, [("x".toList, ⟨"f", "e", none⟩)])]
  rules := [⟨.exact "a", "g"⟩, ⟨.exact [], "h"⟩]
  chain := some [.name "link"]

/-- Of the names that are written alike, one is left; with other keys and in another order, nothing changes again. -/
theorem read_again_alike :
    ofValue alikeOptions = .ok alikeSettings ∧ alikeSettings.sections.read = .ok alikeSettings ∧
    ofValue (.map [(.text "handlers", alikeSettings.sections.chain),
      (.text "imageOverrides", alikeSettings.sections.rules),
      (.text "platformUsers", alikeSettings.sections.platforms),
      (.text "linksMap", alikeSettings.sections.links)]) = .ok alikeSettings := by
  have hread : ofValue alikeOptions = .ok alikeSettings := rfl
  obtain ⟨hsections, hmapping⟩ := read_again (Or.inr ⟨alikeOptions, hread⟩)
  exact ⟨hread, hsections,
    hmapping _ [.chain, .rules, .platforms, .links] Section.spells_capitalKey (by decide)⟩

end Settings

end BraceLink
