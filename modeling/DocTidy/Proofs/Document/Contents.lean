import DocTidy.Document.Exchange
import DocTidy.Proofs.Run

/-!
# The contents of sections

What is read into a section has the form that the section asks for, and in that form it can be told
from the data that it is exchanged as.
-/

namespace DocTidy

open Text

/-! ## Comparing data -/

namespace Datum

mutual

theorem same_self (a : Datum) : same a a = true := by
  cases a with
  | null => rfl
  | bool b => simp [same]
  | int n => simp [same]
  | text t => simp [same]
  | list items =>
    rw [same]
    exact sameItems_self items
  | object entries =>
    rw [same]
    exact sameEntries_self entries

theorem sameItems_self (as : List Datum) : sameItems as as = true := by
  cases as with
  | nil => rfl
  | cons a as =>
    rw [sameItems, same_self a, sameItems_self as]
    rfl

/-- Entries agree with themselves. -/
theorem sameEntries_self (as : List (Text × Datum)) : sameEntries as as = true := by
  cases as with
  | nil => rfl
  | cons e as =>
    obtain ⟨k, a⟩ := e
    rw [sameEntries, beq_self_eq_true, same_self a, sameEntries_self as]
    rfl

end

end Datum

/-! ## The form of contents -/

variable {s : Section} {c c' : Content}

namespace Content

/-- The form of contents that a section asks for.  Only a signature is a whole text; the lines of a
section headed as one fit it too. -/
def Fits (s : Section) : Content → Prop
  | text _ => s = .signature
  | lines _ => s.layout = .lines
  | params _ => ∃ soleType, s.layout = .params soleType
  | links _ => s.layout = .links
  | data _ => False

theorem texts_injective {ts ts' : List Text} (h : Datum.texts ts = Datum.texts ts') : ts = ts' :=
  (List.map_inj_right fun _ _ => Datum.text.inj).mp (Datum.list.inj h)

theorem ofParam_injective {p p' : Param} (h : ofParam p = ofParam p') : p = p' := by
  obtain ⟨name, type, desc⟩ := p
  obtain ⟨name', type', desc'⟩ := p'
  obtain ⟨rfl, rfl, hdesc⟩ : name = name' ∧ type = type' ∧ Datum.texts desc = Datum.texts desc' := by
    simpa [ofParam] using h
  rw [texts_injective hdesc]

theorem ofLinkName_injective {n n' : LinkName} (h : ofLinkName n = ofLinkName n') : n = n' := by
  obtain ⟨name, role⟩ := n
  obtain ⟨name', role'⟩ := n'
  cases role <;> cases role' <;> simp_all [ofLinkName]

theorem ofLink_injective {l l' : Link} (h : ofLink l = ofLink l') : l = l' := by
  obtain ⟨names, desc⟩ := l
  obtain ⟨names', desc'⟩ := l'
  obtain ⟨hnames, hdesc⟩ : names.map ofLinkName = names'.map ofLinkName ∧
      Datum.texts desc = Datum.texts desc' := by
    simpa [ofLink] using h
  rw [texts_injective hdesc, (List.map_inj_right fun _ _ => ofLinkName_injective).mp hnames]

/-- Contents that fit a section and are not empty can be told from their data. -/
theorem eq_of_toDatum (hc : c.Fits s) (hc' : c'.Fits s) (h : c.toDatum = c'.toDatum) : c = c' := by
  cases c with
  | data d => cases hc
  | text t =>
    cases c' with
    | text t' => rw [Datum.text.inj h]
    | data d => cases hc'
    | lines ls | params ps | links ls => cases h
  | lines ls =>
    cases c' with
    | lines ls' => rw [texts_injective h]
    | data d => cases hc'
    | text t => cases h
    | params ps =>
      obtain ⟨_, hlayout⟩ := hc'
      exact absurd (hc.symm.trans hlayout) (by simp)
    | links ls' => exact absurd (hc.symm.trans hc') (by simp)
  | params ps =>
    obtain ⟨_, hlayout⟩ := hc
    cases c' with
    | params ps' => rw [(List.map_inj_right fun _ _ => ofParam_injective).mp (Datum.list.inj h)]
    | data d => cases hc'
    | text t => cases h
    | lines ls => exact absurd (hlayout.symm.trans hc') (by simp)
    | links ls => exact absurd (hlayout.symm.trans hc') (by simp)
  | links ls =>
    cases c' with
    | links ls' => rw [(List.map_inj_right fun _ _ => ofLink_injective).mp (Datum.list.inj h)]
    | data d => cases hc'
    | text t => cases h
    | lines ls' => exact absurd (hc.symm.trans hc') (by simp)
    | params ps =>
      obtain ⟨_, hlayout⟩ := hc'
      exact absurd (hc.symm.trans hlayout) (by simp)

end Content

namespace Section

theorem mem_all (s : Section) : s ∈ all := by cases s <;> decide

theorem nodup_all : all.Nodup := by decide

theorem title_injective {s s' : Section} (h : s.title = s'.title) : s = s' := by
  revert h
  cases s <;> cases s' <;> decide

/-- The printer puts a title above the section. -/
def hasTitle : Section → Bool
  | signature | summary | extendedSummary => false
  | _ => true

theorem ofTitle?_title (s : Section) : ofTitle? s.title = some s := by cases s <;> rfl

end Section

/-! ## Documents -/

namespace Document

variable {d d' : Document} {name : Text}

/-- The contents of a section, empty where the document does not know it. -/
def content (d : Document) (s : Section) : Content := (d.get? s.title).getD (.text [])

/-- The contents of a section, if there are any. -/
def contents? (d : Document) (s : Section) : Option Content :=
  if (d.content s).isEmpty then none else some (d.content s)

/-- Every section with its contents. -/
def tabulate (f : Section → Content) : List (Text × Content) :=
  Section.all.map fun s => (s.title, f s)

/-- The document knows all sections, and no others. -/
def IsComplete (d : Document) : Prop := d.sections = tabulate d.content

theorem lookup_tabulate (f : Section → Content) (s : Section) :
    (tabulate f).lookup s.title = some (f s) := by
  cases s <;> rfl

theorem isComplete_of_eq {f : Section → Content} (h : d.sections = tabulate f) :
    d.IsComplete ∧ d.content = f := by
  have hcontent : d.content = f := by
    funext s
    rw [content, get?, h, lookup_tabulate, Option.getD_some]
  exact ⟨by rw [IsComplete, hcontent, h], hcontent⟩

theorem IsComplete.get? (h : d.IsComplete) (s : Section) : d.get? s.title = some (d.content s) := by
  rw [Document.get?, h, lookup_tabulate]

theorem get_title (h : d.IsComplete) (s : Section) : d.get s.title = .ok (d.content s) := by
  rw [get, h.get?]

theorem store_title (h : d.IsComplete) (s : Section) (c : Content) :
    (d.store s.title c).IsComplete ∧
      (d.store s.title c).content = Function.update d.content s c := by
  apply isComplete_of_eq
  unfold store tabulate
  rw [h]
  simp only [tabulate, List.map_map]
  refine List.map_congr_left fun s' _ => ?_
  change (s'.title, if s'.title = s.title then c else d.content s') = _
  by_cases hs : s' = s
  · rw [hs, if_pos rfl, Function.update_self]
  · rw [if_neg fun htitle => hs (Section.title_injective htitle), Function.update_of_ne hs]

theorem store_of_unknown (h : d.IsComplete) (hname : ∀ s : Section, s.title ≠ name) (c : Content) :
    d.store name c = d := by
  have hsections : (d.store name c).sections = d.sections := by
    unfold store
    dsimp only
    rw [h, tabulate, List.map_map]
    refine List.map_congr_left fun s _ => ?_
    change (s.title, if s.title = name then c else d.content s) = _
    rw [if_neg (hname s)]
  calc
    d.store name c = ⟨(d.store name c).sections, d.order, d.extra⟩ := rfl
    _ = d := by rw [hsections]

/-! ## The sections as data -/

theorem filledSections_eq (h : d.IsComplete) :
    d.filledSections = Section.all.filterMap fun s =>
      ((d.contents? s).map Content.toDatum).map fun v => (s.title, v) := by
  unfold filledSections
  rw [h, tabulate, List.filter_map, List.map_map, ← List.filterMap_eq_map, List.filterMap_filter]
  refine List.filterMap_congr fun s _ => ?_
  unfold contents?
  cases hempty : (d.content s).isEmpty <;> simp [hempty]

theorem lookup_filterMap_title {α : Type} (o : Section → Option α) {ss : List Section}
    {s : Section} (hs : s ∈ ss) :
    (ss.filterMap fun s => (o s).map fun a => (s.title, a)).lookup s.title = o s := by
  induction ss with
  | nil => cases hs
  | cons s' ss ih =>
    rw [List.filterMap_cons]
    by_cases hs' : s = s'
    · subst hs'
      cases ho : o s with
      | some a => simp
      | none =>
        -- A later occurrence brings nothing either.
        rw [Option.map_none, List.lookup_eq_none_iff]
        rintro ⟨n, a⟩ hmem
        obtain ⟨s', -, hs'⟩ := List.mem_filterMap.mp hmem
        obtain ⟨b, hb, heq⟩ := Option.map_eq_some_iff.mp hs'
        obtain ⟨rfl, rfl⟩ : s'.title = n ∧ b = a := by simpa using heq
        rw [bne_iff_ne]
        intro htitle
        rw [Section.title_injective htitle, hb] at ho
        cases ho
    · have hmem : s ∈ ss := (List.mem_cons.mp hs).resolve_left hs'
      cases o s' with
      | none => exact ih hmem
      | some a =>
        rw [Option.map_some, List.lookup_cons]
        have hne : (s.title == s'.title) = false := by
          rw [beq_eq_false_iff_ne]
          exact fun htitle => hs' (Section.title_injective htitle)
        rw [hne]
        exact ih hmem

/-- **The same sections.**  Documents agree as data, apart from what is empty, exactly when every
section has the same contents in both. -/
theorem filledSections_eq_iff (h : d.IsComplete) (h' : d'.IsComplete)
    (hfits : ∀ s c, d.contents? s = some c → c.Fits s)
    (hfits' : ∀ s c, d'.contents? s = some c → c.Fits s) :
    d.filledSections = d'.filledSections ↔ ∀ s, d.contents? s = d'.contents? s := by
  rw [filledSections_eq h, filledSections_eq h']
  constructor
  · intro heq s
    have hdata : (d.contents? s).map Content.toDatum = (d'.contents? s).map Content.toDatum := by
      rw [← lookup_filterMap_title (fun s => (d.contents? s).map Content.toDatum) s.mem_all, heq,
        lookup_filterMap_title _ s.mem_all]
    cases hc : d.contents? s with
    | none =>
      rw [hc, Option.map_none, eq_comm, Option.map_eq_none_iff] at hdata
      exact hdata.symm
    | some c =>
      rw [hc, Option.map_some, eq_comm, Option.map_eq_some_iff] at hdata
      obtain ⟨c', hc', hdatum⟩ := hdata
      rw [hc', Content.eq_of_toDatum (hfits' s c' hc') (hfits s c hc) hdatum]
  · intro hcontents
    simp only [hcontents]

end Document
end DocTidy
