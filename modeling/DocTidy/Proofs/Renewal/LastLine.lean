import DocTidy.Proofs.Renewal.FrameLines
import DocTidy.Proofs.Renewal.Sections

/-!
# The last line of a printed section

White space at the end of a line is lost where nothing closes a frame.  The lines of parameters have none
there, and lines or links have none at their end if they were read from lines without it
(`Content.stripRight_lastInked`).
-/

namespace DocTidy

open Text Document

namespace Frame

variable {l : Text} {ls ks : List Text} {P : Text → Prop}

theorem mem_of_mem_lastInked? (h : l ∈ lastInked? ls) : l ∈ ls :=
  (List.mem_filter.mp (List.mem_of_getLast? h)).1

/-- What holds of all lines and of the last one below them holds of the last one of all. -/
theorem forall_lastInked?_append (hls : ∀ l ∈ ls, P l) (hks : ∀ k ∈ lastInked? ks, P k) :
    ∀ k ∈ lastInked? (ls ++ ks), P k := by
  have happend : lastInked? (ls ++ ks) = (lastInked? ks).or (lastInked? ls) := by
    unfold lastInked?
    rw [List.filter_append, List.getLast?_append]
  intro k hk
  rw [happend] at hk
  cases hlast : lastInked? ks with
  | none =>
    rw [hlast] at hk
    exact hls k (mem_of_mem_lastInked? hk)
  | some x =>
    rw [hlast] at hk
    exact hks k (hlast ▸ hk)

end Frame

/-! ## Parameters -/

namespace Param

variable {soleType : Bool} {ps : List Param} {ls : List Text}

theorem stripRight_indentedLine {l : Text} (hl : stripRight l = l) (m : Text) :
    stripRight (indentedLine m l) = indentedLine m l := by
  unfold indentedLine
  cases hblank : isBlank l with
  | true => exact hl
  | false =>
    show stripRight (m ++ l) = m ++ l
    rw [stripRight_append hblank, hl]

theorem Lists.stripRight_eq (h : Lists ps ls) (hps : ∀ p ∈ ps, IsRead soleType p) :
    ∀ l ∈ ls, stripRight l = l := by
  induction h with
  | nil => exact fun l hl => absurd hl List.not_mem_nil
  | @cons p ps ls gap h ih =>
    -- The name and type, the indented description, a gap, and the other parameters.
    rw [List.forall_mem_cons] at hps
    intro l hl
    rcases List.mem_cons.mp hl with rfl | hl
    · exact stripRight_of_strip hps.1.strip_headLine
    · rcases List.mem_append.mp hl with hl | hl
      · rcases List.mem_append.mp hl with hl | hl
        · obtain ⟨k, hk, rfl⟩ := List.mem_map.mp hl
          exact stripRight_indentedLine (hps.1.tidied.stripped k hk) descMargin
        · rw [List.eq_of_mem_replicate hl]
          rfl
      · exact ih hps.2 l hl

/-- The lines of parameters have no white space at the end. -/
theorem AreRead.stripRight_eq (h : AreRead soleType ps) (compact : Bool) :
    ∀ l ∈ listLines compact ps, stripRight l = l := by
  obtain rfl | hps := h
  · rw [listLines_nameless, List.forall_mem_singleton]
    rfl
  · exact (lists_listLines compact ps).stripRight_eq fun p hp => (hps p hp).1

end Param

/-! ## Links -/

namespace Link

open Printer

variable {l : Link} {ls : List Link} {inline : Bool} {content : List Text}

/-- Names end with text. -/
theorem IsRead.stripRight_nameLine (h : IsRead l) : stripRight (nameLine l) = nameLine l := by
  have hname {n : LinkName} (hn : IsLegible n) (t : Text) :
      stripRight (t ++ printLinkName n) = t ++ printLinkName n := by
    obtain ⟨c, r, hprinted, hc⟩ := hn.head
    have hinked : isBlank (printLinkName n) = false := by rw [hprinted, isBlank_cons, hc, Bool.false_and]
    rw [stripRight_append hinked, stripRight_eq_self_iff.mpr]
    exact fun c hc => hn.isSpace_of_mem c (List.mem_of_getLast? hc)
  obtain ⟨n, ns, -, hn, hns, hline⟩ := h.nameLine_eq
  rw [hline]
  rcases List.eq_nil_or_concat' ns with rfl | ⟨init, m, rfl⟩
  · have hfirst := hname hn []
    rwa [List.nil_append, ← List.append_nil (printLinkName n)] at hfirst
  · have hlast := hname (hns m (by simp)) (printLinkName n ++ (listed init ++ ", "))
    rw [listed, List.flatMap_append, List.flatMap_singleton]
    simpa only [listed, List.append_assoc] using hlast

/-- The last line of a printed link ends with that of its description. -/
theorem IsRead.exists_laidOut_concat (h : IsRead l) {init : List Text} {d : Text} (hdesc : l.desc = init ++ [d])
    (inline : Bool) : ∃ front pre, laidOut inline l = front ++ [pre ++ d] := by
  have hne : init ++ [d] ≠ [] := List.append_ne_nil_of_right_ne_nil init (List.cons_ne_nil d [])
  obtain ⟨first, more, hfirst⟩ := List.exists_cons_of_ne_nil hne
  by_cases halone : StandsAlone inline l
  · rw [h.laidOut_alone (hdesc.trans hfirst) halone, ← hfirst, List.map_append]
    exact ⟨_ :: init.map (descMargin ++ ·), descMargin, rfl⟩
  · rw [h.laidOut_inline (hdesc.trans hfirst) halone]
    cases init with
    | nil =>
      obtain ⟨rfl, rfl⟩ := List.cons.inj hfirst
      exact ⟨[], nameLine l ++ " : ", by rw [List.append_assoc]; rfl⟩
    | cons a init =>
      obtain ⟨rfl, rfl⟩ := List.cons.inj hfirst
      change ∃ front pre, _ :: (init ++ [d]).map (descMargin ++ ·) = front ++ [pre ++ d]
      rw [List.map_append]
      exact ⟨_ :: init.map (descMargin ++ ·), descMargin, rfl⟩

/-- The last of the links that are read from lines is described by the last of these. -/
theorem stripRight_of_ofLines {front : List Text} {line : Text} (hline : isBlank line = false)
    (hstrip : stripRight line = line) (h : (ofLines (front ++ [line])).result = .ok ls) :
    ∀ l ∈ ls.getLast?, ∀ d ∈ l.desc.getLast?, stripRight d = d := by
  have hbody : dedentBody (front ++ [line]) = dedentLines (front ++ [line]) := by cases front <;> rfl
  obtain ⟨front', k, hlines, hsuffix, hk⟩ := exists_dedentLines_concat hline front
  have hk' : stripRight k = k := stripRight_of_isSuffix hsuffix hstrip
  -- Of the fold over the lines only the last step counts: it describes the last link or begins one.
  rw [ofLines, hbody, hlines, List.foldlM_append, Run.result_bind_eq_ok] at h
  obtain ⟨links, -, h⟩ := h
  rw [List.foldlM_cons, Run.result_bind_eq_ok] at h
  obtain ⟨next, hnext, h⟩ := h
  obtain rfl : next = ls := Except.ok.inj h
  intro l hl d hd
  rcases addLine_cases hk hnext with ⟨-, rfl⟩ | ⟨found, hfound, rfl⟩
  · -- The line goes to the last link, or nowhere if there is none.
    rcases List.eq_nil_or_concat' links with rfl | ⟨init, last, rfl⟩
    · cases hl
    · rw [describeLast_concat, List.getLast?_concat] at hl
      obtain rfl := Option.some.inj hl
      rw [List.getLast?_concat] at hd
      obtain rfl := Option.some.inj hd
      exact stripRight_of_strip (strip_strip k)
  · rw [List.getLast?_concat] at hl
    obtain rfl := Option.some.inj hl
    have hmem : d ∈ found.description := Option.mem_toList.mp (List.mem_of_getLast? hd)
    exact stripRight_of_isSuffix ((line?_parts hfound).2.2 d hmem).2.2 hk'

/-- The last line of printed links ends with text if the last description does. -/
theorem exists_flatMap_laidOut (hls : ∀ l ∈ ls, IsRead l) (hne : ls ≠ [])
    (hlast : ∀ l ∈ ls.getLast?, ∀ d ∈ l.desc.getLast?, stripRight d = d) (inline : Bool) :
    ∃ front line, ls.flatMap (laidOut inline) = front ++ [line] ∧ isBlank line = false ∧
      stripRight line = line := by
  obtain ⟨init, l, rfl⟩ := (List.eq_nil_or_concat' ls).resolve_left hne
  have hl : IsRead l := hls l (by simp)
  obtain ⟨front, line, hlines, hstrip⟩ : ∃ front line,
      laidOut inline l = front ++ [line] ∧ stripRight line = line := by
    rcases List.eq_nil_or_concat' l.desc with hnil | ⟨more, d, hdesc⟩
    · exact ⟨[], nameLine l, hl.laidOut_undescribed hnil inline, hl.stripRight_nameLine⟩
    · obtain ⟨front, pre, hlines⟩ := hl.exists_laidOut_concat hdesc inline
      have hd := hlast l (List.getLast?_concat) d (by rw [hdesc, List.getLast?_concat]; rfl)
      refine ⟨front, pre ++ d, hlines, ?_⟩
      rw [stripRight_append (hl.isBlank_desc (by rw [hdesc]; simp)), hd]
  refine ⟨init.flatMap (laidOut inline) ++ front, line, ?_, ?_, hstrip⟩
  · rw [List.flatMap_append, List.flatMap_singleton, hlines, List.append_assoc]
  · exact (hl.of_mem_laidOut (by rw [hlines]; simp)).1

end Link

/-! ## Sections -/

namespace Content

variable {s : Section} {c : Content} {ls : List Text}

/-- **The last line of a section with a title**, printed again after it was read from lines that have no
white space at their end. -/
theorem stripRight_lastInked (settings : Settings) (anyWidth : Bool) (hs : s.hasTitle = true) (hc : c.IsRead s)
    (htrimmed : IsTrimmed ls) (hlast : ∀ l ∈ ls.getLast?, stripRight l = l)
    (hread : (readContent s ls).result = .ok c) :
    ∀ l ∈ Frame.lastInked? (c.block settings anyWidth s), stripRight l = l := by
  have htitle : ∀ l ∈ s.titleLines, stripRight l = l := by
    rw [Section.titleLines, if_pos hs, List.forall_mem_cons, List.forall_mem_singleton]
    exact ⟨stripRight_of_strip (isLine_title s).2.1, stripRight_of_strip (isLine_underline s).2.1⟩
  have hgap : ∀ l ∈ s.gap settings, stripRight l = l := fun l hl => by
    rw [gap_blank settings s l hl]
    rfl
  refine Frame.forall_lastInked?_append htitle (Frame.forall_lastInked?_append hgap ?_)
  -- Only for lines and links does it matter what they were read from.
  unfold readContent at hread
  cases c with
  | text t =>
    rw [hc.1] at hs
    cases hs
  | lines ks =>
    rw [hc.1] at hread
    obtain rfl : ls = ks := Content.lines.inj (Except.ok.inj hread)
    rcases List.eq_nil_or_concat' ls with rfl | ⟨init, l, rfl⟩
    · exact fun l hl => by cases hl
    · have hl : (init ++ [l]).getLast? = some l := List.getLast?_concat
      rw [printedLines, Frame.lastInked?_append (htrimmed.2 l hl) (by simp)]
      exact fun k hk => Option.some.inj hk ▸ hlast l hl
  | params ps =>
    obtain ⟨soleType, -, hps⟩ := hc
    exact fun l hl => hps.stripRight_eq _ l (Frame.mem_of_mem_lastInked? hl)
  | links ks =>
    rw [hc.1] at hread
    obtain ⟨links, hlinks, hread⟩ := Run.result_bind_eq_ok.mp hread
    obtain rfl : links = ks := Content.links.inj (Except.ok.inj hread)
    rcases List.eq_nil_or_concat' ls with rfl | ⟨init, l, rfl⟩
    · obtain rfl : [] = links := Except.ok.inj hlinks
      exact fun l hl => by cases hl
    · have hl : (init ++ [l]).getLast? = some l := List.getLast?_concat
      have hdesc := Link.stripRight_of_ofLines (htrimmed.2 l hl) (hlast l hl) hlinks
      by_cases hne : links = []
      · rw [hne]
        exact fun l hl => by cases hl
      · obtain ⟨front, line, hlines, hline, hstrip⟩ :=
          Link.exists_flatMap_laidOut (fun l hl => (hc.2 l hl).1) hne hdesc (decide (Link.IsInline anyWidth links))
        rw [printedLines, hlines, Frame.lastInked?_append hline (by simp)]
        exact fun k hk => Option.some.inj hk ▸ hstrip
  | data v => exact hc.elim

end Content
end DocTidy
