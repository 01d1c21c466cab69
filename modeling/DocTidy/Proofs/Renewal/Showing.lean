import DocTidy.Proofs.Document.Formatting
import DocTidy.Proofs.Renewal.Rereading

/-!
# What shows of a printed document

A section that is printed shows: one with a title shows at least the title, and one without shows the
text that was read into it, which is never blank.  So the printed text of a document is empty or not
blank, and it is empty exactly where no recorded section has contents.  In a frame, only nothing at
all can come out as nothing.
-/

namespace DocTidy

open Text

namespace Text

theorem strippedParagraphs_eq_nil_iff {t : Text} : strippedParagraphs t = [] ↔ isBlank t = true := by
  have hlines : isBlank t = (t.splitOn '\n').all isBlank := by
    rw [← isBlank_unlines, unlines, List.intercalate_splitOn]
  rw [strippedParagraphs, paragraphs_eq_nil_iff, hlines, List.all_eq_true]
  simp only [List.forall_mem_map, isBlank_strip]

end Text

/-! ## Contents that show -/

/-- Contents show where they stand without a title when there is anything in them but white space. -/
def Content.shows : Content → Bool
  | .text t => !isBlank t
  | .lines ls => !ls.all isBlank
  | _ => false

theorem Printer.isBlank_printSection {settings : Settings} {anyWidth : Bool} {s : Section}
    {c : Content} {t : Text} (hc : s.hasTitle = false → c.Fits s ∧ c.shows = true)
    (h : (printSection settings anyWidth s c).result = .ok t) : isBlank t = false := by
  cases htitle : s.hasTitle with
  | true =>
    obtain ⟨below, rfl⟩ := titled_printSection htitle h
    have hline := (Document.isLine_title s).1
    simp [titled, hline]
  | false =>
    obtain ⟨hfits, hshows⟩ := hc htitle
    cases s with
    | signature =>
      cases c with
      | text u =>
        have hu : isBlank u = false := by simpa [Content.shows] using hshows
        rw [← Except.ok.inj h, isBlank_append, hu, Bool.false_and]
      | _ => cases h
    | summary =>
      obtain ⟨ls, rfl⟩ := exists_lines_of_fits hfits rfl (by simp)
      have hls : ls.all isBlank = false := by simpa [Content.shows] using hshows
      rw [← Except.ok.inj h]
      change isBlank (printSummary ls) = false
      unfold printSummary
      split
      · rename_i l
        have hl : isBlank l = false := by simpa using hls
        rw [hl, if_neg (by decide), isBlank_append, hl, Bool.false_and]
      · rw [isBlank_append, isBlank_unlines, hls, Bool.false_and]
    | extendedSummary =>
      obtain ⟨ls, rfl⟩ := exists_lines_of_fits hfits rfl (by simp)
      have hls : ls.all isBlank = false := by simpa [Content.shows] using hshows
      rw [← Except.ok.inj h]
      change isBlank (unlines ls ++ "\n".toList) = false
      rw [isBlank_append, isBlank_unlines, hls, Bool.false_and]
    | _ => cases htitle

namespace Document

variable {d d' : Document} {s : Section} {c : Content} {docstring : Text}

/-! ## Documents whose untitled sections show -/

/-- The recorded sections that have no title show, if they have contents. -/
def Legible (d : Document) : Prop :=
  ∀ s c, s.hasTitle = false → s.title ∈ d.order → d.contents? s = some c →
    c.Fits s ∧ c.shows = true

theorem Legible.congr (h : d.Legible) (horder : d'.order = d.order)
    (hcontent : ∀ s, s.hasTitle = false → d'.content s = d.content s) : d'.Legible := by
  intro s c hs htitle hc
  rw [horder] at htitle
  exact h s c hs htitle ((contents?_congr (hcontent s hs)).symm.trans hc)

theorem Legible.refits (h : d.Legible) (hrefits : d.Refits d') : d'.Legible := by
  refine h.congr hrefits.order fun s hs => hrefits.kept s ?_
  rintro rfl
  cases hs

theorem Legible.formatted (h : d.Legible) (hformatted : Formatted d d') : d'.Legible := by
  refine h.congr hformatted.order fun s hs => ?_
  rw [content, content, hformatted.kept]
  refine .inl fun htitle => ?_
  obtain rfl : s = .examples := Section.title_injective htitle
  cases hs

theorem isEmpty_recordedAs (s : Section) (c : Content) : (recordedAs s c).isEmpty = c.isEmpty := by
  unfold recordedAs
  split
  · exact List.isEmpty_map
  · exact List.isEmpty_map
  · rfl

theorem shows_recordedAs (h : c.shows = true) : (recordedAs s c).shows = true := by
  have hlines (ls : List Text) : (ls.map stripRight).all isBlank = ls.all isBlank := by
    rw [List.all_map]
    exact congrArg _ (funext isBlank_stripRight)
  unfold recordedAs
  split
  · simpa [Content.shows, hlines] using h
  · simpa [Content.shows, hlines] using h
  · exact h

/-- A paragraph has lines, and none of them is blank. -/
theorem all_isBlank_of_mem_front {p : List Text} (hp : p ∈ (headedParagraphs docstring).1) :
    p.all isBlank = false := by
  have hmem : p ∈ paragraphs (dedentLines (docstring.splitOn '\n')) := by
    rw [← headedRuns_flatten isHeading (paragraphs (dedentLines (docstring.splitOn '\n')))]
    exact List.mem_append_left _ hp
  obtain ⟨l, hl⟩ := List.exists_mem_of_ne_nil p (ne_nil_of_mem_paragraphs hmem)
  exact all_isBlank_eq_false hl (mem_of_mem_paragraphs hmem hl).2

/-- What stands before the first heading is read into contents that show, if they are not empty. -/
theorem shows_frontEntries {headed : Bool} {front : List (List Text)}
    (hfront : ∀ p ∈ front, p.all isBlank = false) :
    ∀ e ∈ frontEntries headed front, e.2.isEmpty = true ∨ e.2.shows = true := by
  have hlines {p : List Text} (hp : p.all isBlank = false) : (Content.lines p).shows = true := by
    simpa [Content.shows] using hp
  induction front with
  | nil =>
    intro e he
    left
    obtain rfl | rfl : e = (.summary, .lines []) ∨ e = (.extendedSummary, .lines []) := by
      simpa [frontEntries] using he
    · rfl
    · rfl
  | cons p rest ih =>
    have hp := hfront p List.mem_cons_self
    have hrest := fun q hq => hfront q (List.mem_cons_of_mem _ hq)
    intro e he
    rw [frontEntries] at he
    by_cases hsignature : isSignature (oneLine p) = true
    · rw [if_pos hsignature] at he
      obtain rfl | he := List.mem_cons.mp he
      · right
        simp [Content.shows, isBlank_oneLine hsignature]
      · split at he
        · rw [List.mem_singleton.mp he]
          exact .inr (hlines hp)
        · exact ih hrest e he
    · rw [if_neg hsignature] at he
      obtain rfl | he := List.mem_cons.mp he
      · exact .inr (hlines hp)
      · split at he
        · cases he
        · rw [List.mem_singleton.mp he]
          -- The extended summary is empty where no paragraph follows the summary.
          cases rest with
          | nil => exact .inl rfl
          | cons q rest =>
            obtain ⟨l, hl, hblank⟩ := List.all_eq_false.mp (hrest q List.mem_cons_self)
            refine .inr (hlines (all_isBlank_eq_false (mem_joinParagraphs List.mem_cons_self hl) ?_))
            simpa using hblank

/-- The lines below a heading begin with one that is not blank. -/
theorem shows_sectionLines (group : List Text × List (List Text)) :
    (Content.lines (sectionLines group)).isEmpty = true ∨
      (Content.lines (sectionLines group)).shows = true := by
  have hhead := List.head?_dropWhile_not isBlank ((joinParagraphs (group.1 :: group.2)).drop 2)
  rw [← sectionLines] at hhead
  cases hlines : sectionLines group with
  | nil => exact .inl rfl
  | cons l ls =>
    right
    have hl : isBlank l = false := by simpa [hlines] using hhead
    simp [Content.shows, hl]

theorem legible_read (h : (read none docstring).result = .ok d) : d.Legible := by
  obtain ⟨es, hes, rfl⟩ := read_eq_ok_iff.mp h
  intro s c hs htitle hc
  have hindex : s ≠ .index := by
    rintro rfl
    cases hs
  refine ⟨(sound_read h).fits s c hc, ?_⟩
  -- The section was recorded by one of the entries.
  rw [order_addAll, ← recordName_eq_title hindex] at htitle
  obtain ⟨⟨s', c₀⟩, he, hname⟩ := List.mem_map.mp htitle
  obtain rfl := recordName_injective hname
  obtain ⟨hne, hcontent⟩ := contents?_eq_some_iff.mp hc
  rw [content_addAll_of_mem content_blank.1 (nodup_of_nodup_names hes.nodup) he hindex] at hcontent
  have hcases : c₀.isEmpty = true ∨ c₀.shows = true := by
    obtain he | he := List.mem_append.mp he
    · unfold openingEntries at he
      split at he
      · cases he
      · exact shows_frontEntries (fun p => all_isBlank_of_mem_front) _ he
    · obtain ⟨group, -, -, hread⟩ := exists_of_mem_forall₂ hes.reads he
      have hlayout : s'.layout = .lines := by
        cases s' with
        | signature | summary | extendedSummary => rfl
        | _ => cases hs
      simp only [readContent, hlayout, Run.result_pure, Except.ok.injEq] at hread
      rw [← hread]
      exact shows_sectionLines group
  rw [← hcontent, isEmpty_recordedAs] at hne
  rw [← hcontent]
  exact shows_recordedAs (hcases.resolve_left (by simp [hne]))

/-- There is a recorded section with contents. -/
def IsShown (d : Document) : Prop := ∃ s, s.title ∈ d.order ∧ (d.contents? s).isSome = true

end Document

/-! ## The printed document -/

namespace Renewal

open Document

variable {r : Renewal} {d : Document} {name t body : Text}

/-- A recorded section prints as nothing exactly if it has no contents; otherwise it shows. -/
theorem printRecorded_shows (hd : d.Legible) (hname : name ∈ d.order)
    (h : (r.printRecorded d name).result = .ok t) :
    t = [] ∧ (∀ s : Section, s.title = name → d.contents? s = none) ∨
      isBlank t = false ∧ ∃ s : Section, s.title = name ∧ (d.contents? s).isSome = true := by
  unfold printRecorded at h
  obtain ⟨c, hc, h⟩ := Run.result_bind_eq_ok.mp h
  rw [Run.result_ofExcept] at hc
  have hcontent : ∀ s : Section, s.title = name → d.content s = c := by
    rintro s rfl
    unfold Document.get at hc
    split at hc
    · rename_i old hold
      rw [content, hold, Option.getD_some, Except.ok.inj hc]
    · cases hc
  by_cases hempty : c.isEmpty = true
  · rw [if_pos hempty, Run.result_pure, Except.ok.injEq] at h
    refine .inl ⟨h.symm, fun s hs => ?_⟩
    rw [contents?, hcontent s hs, if_pos hempty]
  · rw [if_neg hempty] at h
    split at h
    · rename_i s hs
      have htitle : s.title = name := title_of_ofTitle? hs
      have hcontents : d.contents? s = some c := by
        rw [contents?, hcontent s htitle, if_neg hempty]
      refine .inr ⟨Printer.isBlank_printSection (fun hs => ?_) h, s, htitle, by rw [hcontents]; rfl⟩
      exact hd s c hs (htitle ▸ hname) hcontents
    · cases h

/-- **The printed text is empty or shows**, and it shows exactly if a recorded section has
contents. -/
theorem printDocument_shows (hd : d.Legible) (h : (r.printDocument d).result = .ok body) :
    body = [] ∧ ¬ d.IsShown ∨ isBlank body = false ∧ d.IsShown := by
  unfold printDocument at h
  obtain ⟨texts, htexts, h⟩ := Run.result_bind_eq_ok.mp h
  rw [Run.result_pure, Except.ok.injEq] at h
  have hprints := Run.mapM_eq_ok.mp htexts
  subst h
  -- Texts that are empty are left out, and the others show.
  by_cases hshown : d.IsShown
  · right
    refine ⟨?_, hshown⟩
    obtain ⟨s, hs, hsome⟩ := hshown
    obtain ⟨t, ht, hprinted⟩ := exists_of_mem_forall₂ hprints.flip hs
    obtain ⟨-, hnone⟩ | ⟨hblank, -⟩ := printRecorded_shows hd hs hprinted
    · rw [hnone s rfl] at hsome
      cases hsome
    · have hne : (!t.isEmpty) = true := by
        cases t with
        | nil => cases hblank
        | cons c t => rfl
      rw [isBlank_intercalate rfl]
      exact all_isBlank_eq_false (List.mem_filter.mpr ⟨ht, hne⟩) hblank
  · left
    refine ⟨?_, hshown⟩
    have hnone : texts.filter (fun t => !t.isEmpty) = [] := by
      refine List.filter_eq_nil_iff.mpr fun t ht hne => ?_
      obtain ⟨name, hname, hprinted⟩ := exists_of_mem_forall₂ hprints ht
      obtain ⟨rfl, -⟩ | ⟨-, s, rfl, hsome⟩ := printRecorded_shows hd hname hprinted
      · cases hne
      · exact hshown ⟨s, hname, hsome⟩
    rw [hnone]
    rfl

end Renewal

/-! ## In the frame -/

namespace Frame

variable {f : Frame} {body : Text}

/-- Something is left of the frame where there is nothing to put into it. -/
def showsAlone (f : Frame) : Bool := f.endsBlank && (!f.startsAtOnce || f.startsWithSpace)

theorem fill_nil_ne_nil_iff (f : Frame) (level : Nat) :
    f.fill level [] ≠ [] ↔ f.showsAlone = true := by
  have hindented : dropEndWhile (· == ' ') (indent (spaces level) [] ++ spaces level) = [] := by
    change ((spaces level).reverse.dropWhile (· == ' ')).reverse = []
    rw [List.reverse_eq_nil_iff, List.dropWhile_eq_nil_iff]
    intro c hc
    rw [List.eq_of_mem_replicate (List.mem_reverse.mp hc)]
    rfl
  have htail := f.isBlank_tail level
  unfold fill showsAlone
  simp only [hindented, List.nil_append]
  rw [← tail, stripLeft_eq_nil_iff.mpr htail, List.append_nil]
  cases f.endsBlank with
  | false =>
    -- Whatever the frame begins with is blank and is stripped away.
    have hopened : isBlank (if f.startsAtOnce then (if f.startsWithSpace then [' '] else [])
        else '\n' :: f.tail level) = true := by
      split
      · split <;> rfl
      · rw [isBlank_cons, htail]
        rfl
    rw [if_neg Bool.false_ne_true, stripRight_eq_nil_iff.mpr hopened]
    simp
  | true => cases f.startsAtOnce <;> cases f.startsWithSpace <;> simp

end Frame

/-- **Something is left of a document in a frame** exactly if a section shows or the frame does. -/
theorem Renewal.fill_ne_nil_iff {r : Renewal} {d : Document} {body : Text} (f : Frame) (level : Nat)
    (hd : d.Legible) (h : (r.printDocument d).result = .ok body) :
    f.fill level body ≠ [] ↔ d.IsShown ∨ f.showsAlone = true := by
  obtain ⟨rfl, hshown⟩ | ⟨hblank, hshown⟩ := printDocument_shows hd h
  · rw [Frame.fill_nil_ne_nil_iff]
    exact ⟨.inr, fun h => h.resolve_left hshown⟩
  · have hend : body.getLast? = some '\n' := by
      refine (endsLine_printDocument h).resolve_left ?_
      rintro rfl
      cases hblank
    exact ⟨fun _ => .inl hshown, fun _ => f.fill_ne_nil level hblank hend⟩

end DocTidy
