import BraceLink.Proofs.Settings.Read

/-!
# Spellings of keys

Options and several fields of entries have more than one spelling. Which spelling a key has is lost when settings are
read: a field that is given once has the same value in every spelling (`pick_respelled`), so do entries, tables and
lists of them, and an option is gathered under its name whatever its key (`gather_respelled`). `ofValue_respelled`
says it of whole mappings, for settings and for errors alike.
-/

namespace BraceLink

theorem findSome?_congr {α β : Type} {f g : α → Option β} {items : List α} (h : ∀ item ∈ items, f item = g item) :
    items.findSome? f = items.findSome? g := by
  induction items with
  | nil => rfl
  | cons item items ih =>
    obtain ⟨hitem, hitems⟩ := List.forall_mem_cons.mp h
    rw [List.findSome?_cons, List.findSome?_cons, hitem, ih hitems]

theorem Value.sameKey_text_iff {value : Value} {key : Text} : value.sameKey (.text key) = true ↔ value = .text key := by
  cases value <;> simp [sameKey, number?]

theorem Value.get?_cons (key value : Value) (rest : List (Value × Value)) (name : Text) :
    get? ((key, value) :: rest) name = if key.sameKey (.text name) then some value else get? rest name := by
  rw [get?, List.find?_cons]
  cases key.sameKey (.text name) <;> rfl

namespace Settings

/-! ### Fields of entries -/

/-- The spellings of the fields of a target, as far as they have several. -/
def targetFields : List (List Text) := [["image_url", "imageUrl", "image"]]

/-- The spellings of the fields of a profile, as far as they have several. -/
def profileFields : List (List Text) := [["avatar_url", "avatarUrl"], ["display_name", "displayName"]]

/-- The spellings of the fields of a rule, as far as they have several. -/
def ruleFields : List (List Text) := [["image", "image_url", "imageUrl"]]

def IsSpelling (field : List Text) (key : Value) : Prop := ∃ name ∈ field, key = .text name

/-- The key stays, or it becomes another spelling of the same field. -/
def Renames (fields : List (List Text)) (key other : Value) : Prop :=
  key = other ∨ ∃ field ∈ fields, IsSpelling field key ∧ IsSpelling field other

/-- The entry may have another spelling of its key, and its value is the same. -/
def Renamed (fields : List (List Text)) (entry other : Value × Value) : Prop :=
  Renames fields entry.1 other.1 ∧ entry.2 = other.2

def SpelledOnce (fields : List (List Text)) (entries : List (Value × Value)) : Prop :=
  ∀ field ∈ fields, entries.Pairwise fun first second => ¬ (IsSpelling field first.1 ∧ IsSpelling field second.1)

/-- Any of the fields may have another spelling; positions and values are the same. -/
inductive Respelled (fields : List (List Text)) : Value → Value → Prop
  | same (value : Value) : Respelled fields value value
  | map {entries others : List (Value × Value)} (honce : SpelledOnce fields entries)
    (h : List.Forall₂ (Renamed fields) entries others) :
    Respelled fields (.map entries) (.map others)

/-- No spelling belongs to two fields. -/
def FieldsApart (fields : List (List Text)) : Prop :=
  ∀ first ∈ fields, ∀ second ∈ fields, ∀ name ∈ first, name ∈ second → first = second

section

variable {fields : List (List Text)} {field : List Text} {key other value : Value} {rest : List (Value × Value)}
  {entries others : List (Value × Value)}

theorem Renames.isSpelling_iff (h : Renames fields key other) (hapart : FieldsApart fields) (hfield : field ∈ fields) :
    IsSpelling field key ↔ IsSpelling field other := by
  rcases h with rfl | ⟨found, hfound, ⟨name, hname, rfl⟩, ⟨another, hanother, rfl⟩⟩
  · exact Iff.rfl
  · constructor
    · rintro ⟨_, hmem, ⟨⟩⟩
      exact ⟨another, hapart found hfound field hfield name hname hmem ▸ hanother, rfl⟩
    · rintro ⟨_, hmem, ⟨⟩⟩
      exact ⟨name, hapart found hfound field hfield another hanother hmem ▸ hname, rfl⟩

theorem get?_eq_none (h : ∀ entry ∈ rest, ¬ IsSpelling field entry.1) {name : Text} (hname : name ∈ field) :
    Value.get? rest name = none := by
  rw [Value.get?, Option.map_eq_none_iff, List.find?_eq_none]
  exact fun entry hentry hsame => h entry hentry ⟨name, hname, Value.sameKey_text_iff.mp hsame⟩

theorem pick_cons_of_not (h : ¬ IsSpelling field key) : pick ((key, value) :: rest) field = pick rest field := by
  have hget : ∀ name ∈ field, Value.get? ((key, value) :: rest) name = Value.get? rest name := by
    intro name hname
    rw [Value.get?_cons, if_neg]
    exact fun hsame => h ⟨name, hname, Value.sameKey_text_iff.mp hsame⟩
  rw [pick, pick, findSome?_congr hget]

theorem pick_cons_of (h : IsSpelling field key) (hrest : ∀ entry ∈ rest, ¬ IsSpelling field entry.1) :
    pick ((key, value) :: rest) field = value := by
  obtain ⟨name, hname, rfl⟩ := h
  have hget : ∀ other ∈ field, ∀ found,
      Value.get? ((.text name, value) :: rest) other = some found → found = value := by
    intro other hother found hfound
    rw [Value.get?_cons, get?_eq_none hrest hother] at hfound
    split_ifs at hfound
    exact (Option.some.inj hfound).symm
  rw [pick]
  cases hfind : field.findSome? (Value.get? ((.text name, value) :: rest)) with
  | none =>
    have hnone := List.findSome?_eq_none_iff.mp hfind name hname
    rw [Value.get?_cons, if_pos (Value.sameKey_text_iff.mpr rfl)] at hnone
    cases hnone
  | some found =>
    obtain ⟨other, hother, hfound⟩ := List.exists_of_findSome?_eq_some hfind
    exact hget other hother found hfound

theorem pick_respelled (honce : SpelledOnce fields entries) (hapart : FieldsApart fields) (hfield : field ∈ fields)
    (h : List.Forall₂ (Renamed fields) entries others) :
    pick entries field = pick others field := by
  induction h with
  | nil => rfl
  | @cons entry other entries others hentry hrest ih =>
    obtain ⟨key, value⟩ := entry
    obtain ⟨another, _⟩ := other
    obtain ⟨hrenames, rfl⟩ := hentry
    have hsame := hrenames.isSpelling_iff hapart hfield
    by_cases hkey : IsSpelling field key
    · -- no later entry spells the field, neither before nor after the renaming
      have hbefore : ∀ entry ∈ entries, ¬ IsSpelling field entry.1 := fun entry hentry hspells =>
        (List.pairwise_cons.mp (honce field hfield)).1 entry hentry ⟨hkey, hspells⟩
      have hafter : ∀ other ∈ others, ¬ IsSpelling field other.1 := by
        intro other hother hspells
        obtain ⟨entry, hentry, hrenamed, -⟩ := exists_of_forall₂ hrest hother
        exact hbefore entry hentry ((hrenamed.isSpelling_iff hapart hfield).mpr hspells)
      rw [pick_cons_of hkey hbefore, pick_cons_of (hsame.mp hkey) hafter]
    · rw [pick_cons_of_not hkey, pick_cons_of_not fun h => hkey (hsame.mpr h)]
      exact ih fun found hfound => (List.pairwise_cons.mp (honce found hfound)).2

/-- A key with one spelling has the same value whatever becomes of the others. -/
theorem get?_respelled (name : Text) (hname : ∀ field ∈ fields, name ∉ field)
    (h : List.Forall₂ (Renamed fields) entries others) :
    Value.get? entries name = Value.get? others name := by
  induction h with
  | nil => rfl
  | @cons entry other entries others hentry _ ih =>
    obtain ⟨key, value⟩ := entry
    obtain ⟨another, _⟩ := other
    obtain ⟨hrenames, rfl⟩ := hentry
    rw [Value.get?_cons, Value.get?_cons, ih]
    rcases hrenames with rfl | ⟨field, hfield, ⟨old, hold, rfl⟩, ⟨new, hnew, rfl⟩⟩
    · rfl
    · have hother : ∀ spelling ∈ field, ¬ (Value.text spelling).sameKey (.text name) = true := by
        intro spelling hspelling hsame
        cases Value.sameKey_text_iff.mp hsame
        exact hname field hfield hspelling
      rw [if_neg (hother old hold), if_neg (hother new hnew)]

end

/-! ### Entries -/

theorem readTarget_respelled (path : Text) (value other : Value) (h : Respelled targetFields value other) :
    readTarget path value = readTarget path other := by
  cases h with
  | same => rfl
  | map honce h =>
    have hapart : FieldsApart targetFields := by
      unfold FieldsApart targetFields
      decide
    have hlink := get?_respelled "link" (by unfold targetFields; decide) h
    have himage := pick_respelled honce hapart (List.mem_singleton.mpr rfl : targetImageKeys ∈ targetFields) h
    simp only [readTarget, hlink, himage]

theorem readProfile_respelled (path : Text) (value other : Value) (h : Respelled profileFields value other) :
    readProfile path value = readProfile path other := by
  cases h with
  | same => rfl
  | map honce h =>
    have hapart : FieldsApart profileFields := by
      unfold FieldsApart profileFields
      decide
    have hlink := get?_respelled "link" (by unfold profileFields; decide) h
    have havatar := pick_respelled honce hapart (by simp [profileFields, avatarKeys] : avatarKeys ∈ profileFields) h
    have hname := pick_respelled honce hapart
      (by simp [profileFields, displayNameKeys] : displayNameKeys ∈ profileFields) h
    simp only [readProfile, hlink, havatar, hname]

theorem readRule_respelled (path : Text) (value other : Value) (h : Respelled ruleFields value other) :
    readRule path value = readRule path other := by
  cases h with
  | same => rfl
  | map honce h =>
    have hapart : FieldsApart ruleFields := by
      unfold FieldsApart ruleFields
      decide
    have hpattern := get?_respelled "pattern" (by unfold ruleFields; decide) h
    have hmatch := get?_respelled "match" (by unfold ruleFields; decide) h
    have himage := pick_respelled honce hapart (List.mem_singleton.mpr rfl : ruleImageKeys ∈ ruleFields) h
    simp only [readRule, hpattern, hmatch, himage]

/-! ### Tables and lists -/

/-- Mappings with the same keys, whose values may be spelled differently. -/
inductive InEntries (Spelled : Value → Value → Prop) : Value → Value → Prop
  | same (value : Value) : InEntries Spelled value value
  | map {entries others : List (Value × Value)}
    (h : List.Forall₂ (fun entry other => entry.1 = other.1 ∧ Spelled entry.2 other.2) entries others) :
    InEntries Spelled (.map entries) (.map others)

/-- Lists of items that may be spelled differently. -/
inductive InItems (Spelled : Value → Value → Prop) : Value → Value → Prop
  | same (value : Value) : InItems Spelled value value
  | list {items others : List Value} (h : List.Forall₂ Spelled items others) :
    InItems Spelled (.list items) (.list others)
  | tuple {items others : List Value} (h : List.Forall₂ Spelled items others) :
    InItems Spelled (.tuple items) (.tuple others)

section

variable {α : Type} {read : Text → Value → Result α} {Spelled : Value → Value → Prop}

theorem readTable_respelled (hread : ∀ path value other, Spelled value other → read path value = read path other)
    (path : Text) (value other : Value) (h : InEntries Spelled value other) :
    readTable read path value = readTable read path other := by
  cases h with
  | same => rfl
  | map h =>
    refine congrArg (fun named : Result (List (Text × α)) => named >>= fun named => pure (Table.ofList named)) ?_
    refine mapM_eq_of_forall₂ (h.imp fun entry other hentry => ?_)
    rw [hentry.1]
    exact bind_congr fun name => by rw [hread _ _ _ hentry.2]

theorem forall₂_zipIdx {β γ : Type} {r : β → γ → Prop} {xs : List β} {ys : List γ} (h : List.Forall₂ r xs ys)
    (start : Nat) :
    List.Forall₂ (fun x y => r x.1 y.1 ∧ x.2 = y.2) (xs.zipIdx start) (ys.zipIdx start) := by
  induction h generalizing start with
  | nil => exact .nil
  | cons hfirst _ ih => exact .cons ⟨hfirst, rfl⟩ (ih (start + 1))

theorem readList_respelled (hread : ∀ path value other, Spelled value other → read path value = read path other)
    (path : Text) (value other : Value) (h : InItems Spelled value other) :
    readList read path value = readList read path other := by
  have hitems : ∀ {items others : List Value}, List.Forall₂ Spelled items others →
      items.zipIdx.mapM (fun item => read (below path (Text.ofNat item.2)) item.1) =
        others.zipIdx.mapM (fun item => read (below path (Text.ofNat item.2)) item.1) := by
    intro items others h
    refine mapM_eq_of_forall₂ ((forall₂_zipIdx h 0).imp fun item other hitem => ?_)
    rw [hitem.2, hread _ _ _ hitem.1]
  cases h with
  | same => rfl
  | list h => exact hitems h
  | tuple h => exact hitems h

end

/-! ### Options -/

def Section.Spelled (option : Section) : Value → Value → Prop :=
  match option with
  | .links => InEntries (Respelled targetFields)
  | .platforms => InEntries (InEntries (Respelled profileFields))
  | .rules => InItems (Respelled ruleFields)
  | .chain => Eq

/-- The option may have another key, and its value other spellings; a key that is none of an option stays. -/
inductive OptionSpelled : Value × Value → Value × Value → Prop
  | known {key other value given : Value} {option : Section} (hkey : Spells key option) (hother : Spells other option)
    (h : option.Spelled value given) : OptionSpelled (key, value) (other, given)
  | unknown {key value : Value} (h : ∀ option, ¬ Spells key option) : OptionSpelled (key, value) (key, value)

/-- Mappings of options in which the keys of options and of the fields of entries may have different spellings, while
positions and values are the same. -/
inductive OptionsSpelled : Value → Value → Prop
  | same (value : Value) : OptionsSpelled value value
  | map {entries others : List (Value × Value)} (h : List.Forall₂ OptionSpelled entries others) :
    OptionsSpelled (.map entries) (.map others)

theorem Sections.read_respelled {first second : Sections}
    (h : ∀ option : Section, option.Spelled (first.get option) (second.get option)) : first.read = second.read := by
  have hlinks := readTable_respelled readTarget_respelled Section.links.name _ _ (h .links)
  have hplatforms := readTable_respelled (readTable_respelled readProfile_respelled) Section.platforms.name _ _
    (h .platforms)
  have hrules := readList_respelled readRule_respelled Section.rules.name _ _ (h .rules)
  have hchain : first.chain = second.chain := h .chain
  simp only [get] at hlinks hplatforms hrules
  rw [read, read, hlinks, hplatforms, hrules, hchain]

theorem Sections.gather_respelled {entries others : List (Value × Value)} {given : List Section}
    {first second : Sections} (h : List.Forall₂ OptionSpelled entries others)
    (hsections : ∀ option : Section, option.Spelled (first.get option) (second.get option)) :
    (gather given first entries >>= read) = (gather given second others >>= read) := by
  induction h generalizing given first second with
  | nil => exact read_respelled hsections
  | cons hentry _ ih =>
    cases hentry with
    | unknown hnone =>
      have hkey : Section.ofValue? _ = none :=
        Option.eq_none_iff_forall_ne_some.mpr fun option h => hnone option (Section.ofValue?_eq_some_iff.mp h)
      simp only [gather, hkey]
    | @known _ _ _ _ option hkey hother hvalue =>
      simp only [gather, Section.ofValue?_eq_some_iff.mpr hkey, Section.ofValue?_eq_some_iff.mpr hother]
      split
      · rfl
      · refine ih fun found => ?_
        rw [get_set, get_set]
        split
        · next hfound => exact hfound ▸ hvalue
        · exact hsections found

/-- **The spelling of keys does not matter.** Options and fields of entries may be given in any of their spellings,
as long as no field of an entry is given in two of them: the outcome is the same, down to the path and the words of
an error. -/
theorem ofValue_respelled {value other : Value} (h : OptionsSpelled value other) : ofValue value = ofValue other := by
  cases h with
  | same => rfl
  | map h => exact Sections.gather_respelled h fun option => by cases option <;> constructor

/-- Options with a target, a user and a rule without an image, in the given spellings. -/
def optionsBy (links image platforms avatar displayName rules ruleImage : Text) : Value :=
  .map [(.text links, .map [(.text "a", .map [(.text "link", .text "b"), (.text image, .text "c")])]),
    (.text platforms, .map [(.text "x", .map [(.text "z",
      .map [(.text avatar, .text "d"), (.text displayName, .text "e"), (.text "link", .text "f")])])]),
    (.text rules, .list [.map [(.text ruleImage, .null), (.text "match", .text "b")]])]

/-- Each option and each field in two spellings; the image that is nothing is refused in both. -/
theorem ofValue_respelled_null :
    OptionsSpelled
      (optionsBy "linksMap" "image" "platform_users" "avatarUrl" "display_name" "imageOverrides" "image_url")
      (optionsBy "links_map" "imageUrl" "platformUsers" "avatar_url" "displayName" "image_overrides" "image") ∧
    ofValue (optionsBy "linksMap" "image" "platform_users" "avatarUrl" "display_name" "imageOverrides" "image_url") =
      .error (.invalid (.noText "image") "image_overrides.0") := by
  have hspelled : OptionsSpelled
      (optionsBy "linksMap" "image" "platform_users" "avatarUrl" "display_name" "imageOverrides" "image_url")
      (optionsBy "links_map" "imageUrl" "platformUsers" "avatar_url" "displayName" "image_overrides" "image") := by
    refine .map (.cons (.known .links (.name .links) ?links) (.cons (.known (.name .platforms) .platforms ?platforms)
      (.cons (.known .rules (.name .rules) ?rules) .nil)))
    case links =>
      refine .map (.cons ⟨rfl, .map ?_ (.cons ?_ (.cons ?_ .nil))⟩ .nil)
      all_goals simp [SpelledOnce, Renamed, Renames, targetFields, IsSpelling]
    case platforms =>
      refine .map (.cons ⟨rfl, .map (.cons ⟨rfl, .map ?_ (.cons ?_ (.cons ?_ (.cons ?_ .nil)))⟩ .nil)⟩ .nil)
      all_goals simp [SpelledOnce, Renamed, Renames, profileFields, IsSpelling]
    case rules =>
      refine .list (.cons (.map ?_ (.cons ?_ (.cons ?_ .nil))) .nil)
      all_goals simp [SpelledOnce, Renamed, Renames, ruleFields, IsSpelling]
  refine ⟨hspelled, ?_⟩
  rw [ofValue_respelled hspelled]
  rfl

end Settings

end BraceLink
