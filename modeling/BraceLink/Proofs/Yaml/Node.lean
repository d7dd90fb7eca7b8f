import BraceLink.Proofs.Yaml.Content
import BraceLink.Yaml.Node
import Mathlib.Data.List.Perm.Subperm
import Mathlib.Logic.Relation

/-!
# Nodes

Taking the merge keys out of a mapping changes the nodes of a document (`Graph.Comes`): entries come in, and keys of
default entries are read as texts from then on. What it does not change is what can be read: a text that stands for a
node afterwards stood for it before (`Graph.Comes.stands`). For an entry that is brought in is no default entry any
more (`Graph.flatten_comes`).
-/

namespace BraceLink.Yaml.Graph

/-- The nodes of a mapping that may stand for it. -/
def LeadsTo (g : Graph) (n m : Nat) : Prop := ∃ key, (key, m) ∈ g.entries n ∧ g.kind key = .default

/-- The text stands for the node: it is the text of the node itself, or stands for its default entry. -/
inductive Stands (g : Graph) (text : Text) : Nat → Prop
  | self {n : Nat} (h : g.content n = .text text) : Stands g text n
  | default {n m : Nat} (hleads : g.LeadsTo n m) (h : Stands g text m) : Stands g text n

def IsMapping (g : Graph) (n : Nat) : Prop := ∃ entries, g.content n = .entries entries

def Plain (g : Graph) (entries : List (Nat × Nat)) : Prop := ∀ entry ∈ entries, g.kind entry.1 ≠ .default

/-- The second graph comes from the first one by taking merge keys out. -/
structure Comes (g g' : Graph) : Prop where
  length : g'.nodes.length = g.nodes.length
  kind : ∀ n, g'.kind n = g.kind n ∨ g.kind n = .default ∧ g'.kind n = .text
  isMapping : ∀ n, g'.IsMapping n ↔ g.IsMapping n
  text : ∀ n text, g'.content n = .text text → g.content n = .text text
  entries : ∀ n, ∀ entry ∈ g'.entries n, g'.kind entry.1 = .default → entry ∈ g.entries n

variable {g g' g'' : Graph} {n m : Nat}

theorem entries_of_content {entries : List (Nat × Nat)} (h : g.content n = .entries entries) :
    g.entries n = entries := by
  unfold Graph.entries
  rw [h]

theorem isMapping_of_mem {entry : Nat × Nat} (h : entry ∈ g.entries n) : g.IsMapping n := by
  unfold Graph.entries at h
  split at h
  · next entries hcontent => exact ⟨entries, hcontent⟩
  · cases h

theorem lt_of_isMapping (h : g.IsMapping n) : n < g.nodes.length := by
  obtain ⟨entries, hcontent⟩ := h
  by_contra hle
  unfold content node at hcontent
  rw [List.getElem?_eq_none (Nat.le_of_not_lt hle)] at hcontent
  cases hcontent

/-! ### Texts that stand for nodes -/

theorem leadsTo_of_default? (h : g.default? n = some m) : g.LeadsTo n m := by
  obtain ⟨entry, hfind, rfl⟩ := Option.map_eq_some_iff.mp h
  exact ⟨entry.1, List.mem_of_find?_eq_some hfind, by simpa using List.find?_some hfind⟩

theorem text_outcome (g : Graph) (fuel n : Nat) :
    Outcome (g.Stands · n)
      (fun error => error = .malformed ∨
        error = .endless ∧ ∃ path, path.length = fuel ∧ (n :: path).IsChain g.LeadsTo)
      (g.text fuel n) := by
  induction fuel generalizing n with
  | zero => exact Or.inr ⟨rfl, [], rfl, List.IsChain.singleton n⟩
  | succ fuel ih =>
    rw [Graph.text]
    split
    · next text _ hcontent => exact .self hcontent
    · next inner hinner _ =>
      have hleads := leadsTo_of_default? hinner
      refine ((ih inner).imp fun text => .default hleads).imp_error ?_
      rintro error (hmalformed | ⟨hendless, path, hlength, hpath⟩)
      · exact Or.inl hmalformed
      · have hlonger : (inner :: path).length = fuel + 1 := by rw [List.length_cons, hlength]
        exact Or.inr ⟨hendless, inner :: path, hlonger, List.isChain_cons_cons.mpr ⟨hleads, hpath⟩⟩
    · exact Or.inl rfl

theorem leads_of_isChain {path : List Nat} (hpath : (n :: path).IsChain g.LeadsTo) :
    ∀ m ∈ (n :: path).dropLast, ∃ k, g.LeadsTo m k := by
  induction path generalizing n with
  | nil => exact fun m hm => absurd hm List.not_mem_nil
  | cons k path ih =>
    obtain ⟨hleads, hpath⟩ := List.isChain_cons_cons.mp hpath
    rw [List.dropLast_cons_of_ne_nil (List.cons_ne_nil k path)]
    exact List.forall_mem_cons.mpr ⟨⟨k, hleads⟩, ih hpath⟩

theorem exists_circle {path : List Nat} (hpath : (n :: path).IsChain g.LeadsTo)
    (hlength : g.nodes.length < path.length) : ∃ m, Relation.TransGen g.LeadsTo m m := by
  by_contra hnone
  have hpairs : (n :: path).Pairwise (Relation.TransGen g.LeadsTo) :=
    (hpath.imp fun _ _ => Relation.TransGen.single).pairwise
  have hnodup : (n :: path).Nodup := hpairs.imp fun {a b} hab => by
    rintro rfl
    exact hnone ⟨a, hab⟩
  have hnodes : ∀ m ∈ (n :: path).dropLast, m ∈ List.range g.nodes.length := by
    intro m hm
    obtain ⟨k, key, hmem, -⟩ := leads_of_isChain hpath m hm
    exact List.mem_range.mpr (lt_of_isMapping (isMapping_of_mem hmem))
  have hle := ((hnodup.sublist (List.dropLast_sublist _)).subperm hnodes).length_le
  rw [List.length_dropLast, List.length_range, List.length_cons] at hle
  omega

/-! ### Changes -/

theorem node_set_self {node : Node} (h : n < g.nodes.length) : (g.set n node).node n = node := by
  unfold Graph.set Graph.node
  rw [List.getElem?_set_self h, Option.getD_some]

theorem node_set_of_ne {node : Node} (h : n ≠ m) : (g.set n node).node m = g.node m := by
  unfold Graph.set Graph.node
  rw [List.getElem?_set_ne h]

theorem Comes.refl (g : Graph) : Comes g g where
  length := rfl
  kind _ := Or.inl rfl
  isMapping _ := Iff.rfl
  text _ _ h := h
  entries _ _ h _ := h

theorem Comes.kind_eq_default (h : Comes g g') (hkind : g'.kind n = .default) : g.kind n = .default := by
  rcases h.kind n with hsame | ⟨hdefault, -⟩
  · rw [← hsame, hkind]
  · exact hdefault

theorem Comes.trans (h : Comes g g') (h' : Comes g' g'') : Comes g g'' where
  length := h'.length.trans h.length
  kind n := by
    rcases h'.kind n with hsame | ⟨hdefault, htext⟩
    · rw [hsame]
      exact h.kind n
    · exact Or.inr ⟨h.kind_eq_default hdefault, htext⟩
  isMapping n := (h'.isMapping n).trans (h.isMapping n)
  text n text htext := h.text n text (h'.text n text htext)
  entries n entry hmem hkind := h.entries n entry (h'.entries n entry hmem hkind) (h'.kind_eq_default hkind)

theorem Comes.plain {entries : List (Nat × Nat)} (h : Comes g g') (hplain : g.Plain entries) : g'.Plain entries :=
  fun entry hentry hkind => hplain entry hentry (h.kind_eq_default hkind)

theorem comes_set {entries : List (Nat × Nat)} (hmapping : g.IsMapping n)
    (hentries : ∀ entry ∈ entries, g.kind entry.1 = .default → entry ∈ g.entries n) :
    Comes g (g.set n ⟨g.kind n, .entries entries⟩) := by
  have hself : (g.set n ⟨g.kind n, .entries entries⟩).node n = ⟨g.kind n, .entries entries⟩ :=
    node_set_self (lt_of_isMapping hmapping)
  have hother : ∀ m, n ≠ m → (g.set n ⟨g.kind n, .entries entries⟩).node m = g.node m := by
    intro m hne
    exact node_set_of_ne hne
  have hcontent : ∀ m, n ≠ m → (g.set n ⟨g.kind n, .entries entries⟩).content m = g.content m := by
    intro m hne
    exact congrArg Node.content (hother m hne)
  have hkind : ∀ m, (g.set n ⟨g.kind n, .entries entries⟩).kind m = g.kind m := by
    intro m
    rcases eq_or_ne n m with rfl | hne
    · exact (congrArg Node.kind hself :)
    · exact congrArg Node.kind (hother m hne)
  refine ⟨List.length_set, fun m => Or.inl (hkind m), fun m => ?_, ?_, ?_⟩
  · rcases eq_or_ne n m with rfl | hne
    · exact iff_of_true ⟨entries, congrArg Node.content hself⟩ hmapping
    · rw [IsMapping, hcontent m hne]
      rfl
  · intro m text h
    rcases eq_or_ne n m with rfl | hne
    · rw [Graph.content, hself] at h
      cases h
    · rwa [hcontent m hne] at h
  · intro m entry hmem hdefault
    rw [hkind] at hdefault
    rcases eq_or_ne n m with rfl | hne
    · rw [entries_of_content (congrArg Node.content hself)] at hmem
      exact hentries entry hmem hdefault
    · rwa [Graph.entries, hcontent m hne] at hmem

theorem lt_of_kind_eq_default (h : g.kind n = .default) : n < g.nodes.length := by
  by_contra hle
  unfold Graph.kind node at h
  rw [List.getElem?_eq_none (Nat.le_of_not_lt hle)] at h
  cases h

theorem content_retag (g : Graph) (n m : Nat) : (g.retag n).content m = g.content m := by
  unfold retag
  split
  · next hkind =>
    rcases eq_or_ne n m with rfl | hne
    · exact (congrArg Node.content (node_set_self (lt_of_kind_eq_default hkind)) :)
    · exact congrArg Node.content (node_set_of_ne hne)
  · rfl

theorem entries_retag (g : Graph) (n m : Nat) : (g.retag n).entries m = g.entries m := by
  unfold Graph.entries
  rw [content_retag]

theorem kind_retag_self (g : Graph) (n : Nat) : (g.retag n).kind n ≠ .default := by
  unfold retag
  split
  · next hkind =>
    have htext : (g.set n { g.node n with kind := .text }).kind n = .text :=
      (congrArg Node.kind (node_set_self (lt_of_kind_eq_default hkind)) :)
    rw [htext]
    exact Kind.noConfusion
  · next hkind => exact hkind

theorem kind_retag (g : Graph) (n m : Nat) :
    (g.retag n).kind m = g.kind m ∨ g.kind m = .default ∧ (g.retag n).kind m = .text := by
  unfold retag
  split
  · next hkind =>
    rcases eq_or_ne n m with rfl | hne
    · exact Or.inr ⟨hkind, (congrArg Node.kind (node_set_self (lt_of_kind_eq_default hkind)) :)⟩
    · exact Or.inl (congrArg Node.kind (node_set_of_ne hne))
  · exact Or.inl rfl

theorem retag_comes (g : Graph) (n : Nat) : Comes g (g.retag n) where
  length := by
    unfold retag
    split
    · exact List.length_set
    · rfl
  kind := kind_retag g n
  isMapping m := by rw [IsMapping, content_retag]; rfl
  text m text h := by rwa [content_retag] at h
  entries m entry hmem _ := by rwa [entries_retag] at hmem

theorem retagAll_comes (g : Graph) (keys : List (Nat × Nat)) :
    Comes g (keys.foldl (fun g entry => g.retag entry.1) g) ∧
      (keys.foldl (fun g entry => g.retag entry.1) g).Plain keys ∧
      (keys.foldl (fun g entry => g.retag entry.1) g).entries = g.entries := by
  induction keys generalizing g with
  | nil => exact ⟨.refl g, fun _ h => absurd h List.not_mem_nil, rfl⟩
  | cons key rest ih =>
    obtain ⟨hcomes, hplain, hentries⟩ := ih (g.retag key.1)
    rw [List.foldl_cons]
    refine ⟨(retag_comes g key.1).trans hcomes, List.forall_mem_cons.mpr ⟨fun hkind => ?_, hplain⟩, ?_⟩
    · exact kind_retag_self g key.1 (hcomes.kind_eq_default hkind)
    · rw [hentries]
      exact funext fun m => entries_retag g key.1 m

theorem takeMerge?_comes {source : Nat} (h : g.takeMerge? n = some (source, g')) : Comes g g' ∧ g'.IsMapping n := by
  unfold takeMerge? at h
  dsimp only at h
  split at h
  · cases h
  · next key source' rest hrest =>
    obtain ⟨rfl, rfl⟩ := Prod.mk.inj (Option.some.inj h)
    have hsplit : (g.entries n).takeWhile (fun entry => decide (g.kind entry.1 ≠ .merge)) ++ (key, source') :: rest =
        g.entries n := by
      rw [← hrest, List.takeWhile_append_dropWhile]
    have hmem : (key, source') ∈ g.entries n := by
      rw [← hsplit]
      exact List.mem_append_right _ List.mem_cons_self
    have hmapping : g.IsMapping n := isMapping_of_mem hmem
    have hcomes := comes_set hmapping fun entry
        (hentry : entry ∈ (g.entries n).takeWhile (fun entry => decide (g.kind entry.1 ≠ .merge)) ++ rest) _ => by
      rw [← hsplit]
      rcases List.mem_append.mp hentry with hbefore | hbehind
      · exact List.mem_append_left _ hbefore
      · exact List.mem_append_right _ (List.mem_cons_of_mem _ hbehind)
    exact ⟨hcomes, (hcomes.isMapping n).mpr hmapping⟩

theorem prepend_comes {entries : List (Nat × Nat)} (hmapping : g.IsMapping n) (hplain : g.Plain entries) :
    Comes g (g.prepend n entries) := by
  refine comes_set hmapping fun entry hentry hkind => ?_
  rcases List.mem_append.mp hentry with hbrought | hown
  · exact absurd hkind (hplain entry hbrought)
  · exact hown

theorem prepend_plain {entries : List (Nat × Nat)} (hmapping : g.IsMapping n) (hplain : g.Plain entries)
    (hown : g.Plain (g.entries n)) : (g.prepend n entries).Plain ((g.prepend n entries).entries n) := by
  have hentries : (g.prepend n entries).entries n = entries ++ g.entries n :=
    entries_of_content (congrArg Node.content (node_set_self (lt_of_isMapping hmapping)))
  rw [hentries]
  exact (prepend_comes hmapping hplain).plain (List.forall_mem_append.mpr ⟨hplain, hown⟩)

/-! ### Merge keys -/

/-- A mapping can be made flat, or the document is malformed. -/
def Flattens (flatten : Graph → Nat → Except Error Graph) : Prop :=
  ∀ g n, Fine (fun g' => Comes g g' ∧ g'.Plain (g'.entries n)) (flatten g n)

variable {flatten : Graph → Nat → Except Error Graph}

theorem entriesBy_comes (h : Flattens flatten) (g : Graph) (n : Nat) :
    Fine (fun found => Comes g found.2 ∧ found.2.Plain found.1) (entriesBy flatten g n) := by
  unfold entriesBy
  split
  · exact (h g n).bind fun _ hflat => hflat
  · exact rfl

theorem bring_comes (h : Flattens flatten) (g : Graph) (n : Nat) :
    Fine (fun found => Comes g found.2 ∧ found.2.Plain found.1) (bring flatten g n) := by
  unfold bring
  split
  · refine Outcome.foldlM (fun state hstate item => ?_) ⟨.refl g, fun _ h => absurd h List.not_mem_nil⟩
    refine (entriesBy_comes h state.2 item).bind fun found hfound => ?_
    exact ⟨hstate.1.trans hfound.1, List.forall_mem_append.mpr ⟨hfound.2, hfound.1.plain hstate.2⟩⟩
  · exact entriesBy_comes h g n

theorem flatten_comes (fuel : Nat) : Flattens (Graph.flatten fuel) := by
  induction fuel with
  | zero => exact fun _ _ => rfl
  | succ fuel ih =>
    intro g n
    rw [Graph.flatten]
    split
    · obtain ⟨hcomes, hplain, hentries⟩ := retagAll_comes g (g.entries n)
      refine ⟨hcomes, ?_⟩
      rw [hentries]
      exact hplain
    · next source taken htake =>
      obtain ⟨htaken, hmapping⟩ := takeMerge?_comes htake
      refine (bring_comes ih taken source).bind fun brought hbrought => (ih brought.2 n).bind fun flat hflat => ?_
      have hcomes : Comes taken flat := hbrought.1.trans hflat.1
      have hplain : flat.Plain brought.1 := hflat.1.plain hbrought.2
      have hstill : flat.IsMapping n := (hcomes.isMapping n).mpr hmapping
      exact ⟨(htaken.trans hcomes).trans (prepend_comes hstill hplain), prepend_plain hstill hplain hflat.2⟩

/-! ### What cannot be read -/

theorem Comes.leadsTo (h : Comes g g') (hleads : g'.LeadsTo n m) : g.LeadsTo n m := by
  obtain ⟨key, hmem, hkind⟩ := hleads
  exact ⟨key, h.entries n (key, m) hmem hkind, h.kind_eq_default hkind⟩

theorem Comes.stands {text : Text} (h : Comes g g') (hstands : g'.Stands text n) : g.Stands text n := by
  induction hstands with
  | self htext => exact .self (h.text _ _ htext)
  | default hleads _ ih => exact .default (h.leadsTo hleads) ih

end BraceLink.Yaml.Graph
