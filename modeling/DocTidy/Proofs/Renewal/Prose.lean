import DocTidy.Proofs.Renewal.Parameters
import DocTidy.Proofs.Renewal.Showing

/-!
# Docstrings without sections

A docstring without a heading and without a signature is read as a summary and an extended summary, its
paragraphs.  They are printed as they are, with one blank line in between, and nothing is lost in the frame.
-/

namespace DocTidy

open Text

/-! ## Joined paragraphs -/

namespace Document

variable {ps : List (List Text)} {docstring : Text} {d : Document}

/-- Prose as it is recorded: the first paragraph, and the others below it. -/
def proseBlocks (ps : List (List Text)) : List (List Text) := [ps.head?.getD [], joinParagraphs ps.tail]

/-- The two blocks are joined to what the paragraphs are joined to, if empty ones are left out. -/
theorem AreParagraphs.joinParagraphs_proseBlocks (h : AreParagraphs ps) :
    joinParagraphs ((proseBlocks ps).filter fun b => !b.isEmpty) = joinParagraphs ps := by
  cases ps with
  | nil => rfl
  | cons p ps =>
    obtain ⟨⟨hp, -⟩, hps⟩ := List.forall_mem_cons.mp h
    cases ps with
    | nil =>
      have hone : (proseBlocks [p]).filter (fun b => !b.isEmpty) = [p] := by
        simp [proseBlocks, joinParagraphs, hp]
      rw [hone]
    | cons q ps =>
      have hrest := joinParagraphs_ne_nil (hps q List.mem_cons_self).1 ps
      have hboth : (proseBlocks (p :: q :: ps)).filter (fun b => !b.isEmpty) =
          [p, joinParagraphs (q :: ps)] := by
        simp [proseBlocks, hp, hrest]
      rw [hboth, joinParagraphs_cons_cons, joinParagraphs_cons_cons, joinParagraphs_singleton]

theorem intercalate_map_ended (bs : List (List Text)) :
    ['\n'].intercalate (bs.map ended) = ended (joinParagraphs bs) := by
  induction bs with
  | nil => rfl
  | cons b bs ih =>
    cases bs with
    | nil => rw [joinParagraphs_singleton, List.map_singleton, List.intercalate_singleton]
    | cons b' bs =>
      rw [List.map_cons] at ih
      rw [List.map_cons, List.map_cons, List.intercalate_cons_cons, ih, joinParagraphs_cons_cons, ended_append,
        ended_cons, List.append_assoc]
      rfl

/-- Blocks that are printed with a newline in between are printed as they are joined. -/
theorem intercalate_printed (bs : List (List Text)) :
    ['\n'].intercalate ((bs.map fun b => ended (b.map stripRight)).filter fun t => !t.isEmpty) =
      ended ((joinParagraphs (bs.filter fun b => !b.isEmpty)).map stripRight) := by
  have hempty (b : List Text) : (!(ended (b.map stripRight)).isEmpty) = !b.isEmpty := by
    cases b <;> simp [ended]
  have htexts : (bs.map fun b => ended (b.map stripRight)).filter (fun t => !t.isEmpty) =
      ((bs.filter fun b => !b.isEmpty).map (·.map stripRight)).map ended := by
    rw [List.filter_map, List.map_map]
    simp only [Function.comp_def, hempty]
  rw [htexts, intercalate_map_ended, map_joinParagraphs rfl]

/-! ## Reading -/

/-- The reader finds neither a heading nor a signature. -/
structure IsProse (docstring : Text) : Prop where
  unheaded : ∀ p ∈ strippedParagraphs docstring, isHeading p = false
  unsigned : ∀ p ∈ (strippedParagraphs docstring).head?, isSignature (oneLine p) = false

/-- The paragraphs that a docstring is read as. -/
def readParagraphs (docstring : Text) : List (List Text) :=
  paragraphs (dedentLines ((dedentDocstring docstring).splitOn '\n'))

theorem map_strip_readParagraphs (docstring : Text) :
    (readParagraphs docstring).map (·.map strip) = strippedParagraphs docstring := by
  rw [readParagraphs, ← strippedParagraphs_eq, strippedParagraphs_dedentDocstring]

/-- Dedenting brings in no character but newlines, and these end the lines. -/
theorem not_mem_of_mem_readParagraphs {c : Char} (hc : c ≠ '\n' → c ∉ docstring) {p : List Text} {l : Text}
    (hp : p ∈ readParagraphs docstring) (hl : l ∈ p) : c ∉ l := by
  have hline := (mem_of_mem_paragraphs hp hl).1
  by_cases hnewline : c = '\n'
  · rw [hnewline]
    exact not_mem_of_mem_dedentLines (not_mem_of_mem_splitOn _) l hline
  · have hnone := not_mem_dedentDocstring hnewline (hc hnewline)
    refine not_mem_of_mem_dedentLines (fun k hk hmem => hnone ?_) l hline
    exact mem_of_mem_splitOn _ k hk hmem

theorem oneLine_map_strip (p : List Text) : oneLine (p.map strip) = oneLine p := by
  unfold oneLine
  rw [List.map_map]
  congr 2
  exact List.map_congr_left fun l _ => strip_strip l

theorem IsProse.headedParagraphs_eq (h : IsProse docstring) :
    headedParagraphs (dedentDocstring docstring) = (readParagraphs docstring, []) := by
  have hnone : (headedParagraphs (dedentDocstring docstring)).2 = [] := by
    rw [← List.map_eq_nil_iff (f := (·.1)), headedParagraphs, map_fst_headedRuns, List.filter_eq_nil_iff]
    intro p hp
    have hmem : p.map strip ∈ strippedParagraphs docstring := by
      rw [← map_strip_readParagraphs]
      exact List.mem_map_of_mem hp
    rw [← isHeading_map_strip, h.unheaded _ hmem]
    exact Bool.false_ne_true
  have hfront := headedRuns_flatten isHeading (readParagraphs docstring)
  change (headedParagraphs (dedentDocstring docstring)).1 ++
    ((headedParagraphs (dedentDocstring docstring)).2.map _).flatten = _ at hfront
  rw [hnone, List.map_nil, List.flatten_nil, List.append_nil] at hfront
  exact Prod.ext hfront hnone

/-- The first paragraph is the summary, and the others are the extended summary. -/
def proseEntries (ps : List (List Text)) : List (Section × Content) :=
  [(.summary, .lines (ps.head?.getD [])), (.extendedSummary, .lines (joinParagraphs ps.tail))]

theorem IsProse.frontEntries_eq (h : IsProse docstring) :
    frontEntries false (readParagraphs docstring) = proseEntries (readParagraphs docstring) := by
  have hunsigned := h.unsigned
  rw [← map_strip_readParagraphs] at hunsigned
  cases hps : readParagraphs docstring with
  | nil => rfl
  | cons p ps =>
    rw [hps] at hunsigned
    have hp := hunsigned _ rfl
    rw [oneLine_map_strip] at hp
    rw [frontEntries, hp]
    simp [proseEntries]

theorem IsProse.read_eq (h : IsProse docstring) : (read none (dedentDocstring docstring)).result =
    .ok (blank.addAll (proseEntries (readParagraphs docstring))) := by
  have hopening : openingEntries (!(headedParagraphs (dedentDocstring docstring)).2.isEmpty)
      (headedParagraphs (dedentDocstring docstring)).1 = proseEntries (readParagraphs docstring) := by
    rw [h.headedParagraphs_eq, ← h.frontEntries_eq]
    simp [openingEntries]
  refine read_eq_ok_iff.mpr ⟨[], ⟨?_, rfl, ?_, fun e he => absurd he List.not_mem_nil⟩, ?_⟩
  · rw [h.headedParagraphs_eq]
    exact .nil
  · rw [hopening, List.append_nil]
    change [Section.summary.recordName, Section.extendedSummary.recordName].Nodup
    decide
  · rw [hopening, List.append_nil]

/-- What prose is recorded as: two sections in order, without white space at the ends of lines. -/
structure HoldsProse (d : Document) (ps : List (List Text)) : Prop where
  sound : d.Sound
  order : d.order = [Section.summary.title, Section.extendedSummary.title]
  summary : d.content .summary = .lines ((ps.head?.getD []).map stripRight)
  extendedSummary : d.content .extendedSummary = .lines ((joinParagraphs ps.tail).map stripRight)

theorem HoldsProse.refits {d' : Document} (h : d.HoldsProse ps) (hrefits : d.Refits d') :
    d'.HoldsProse ps where
  sound := hrefits.sound
  order := hrefits.order.trans h.order
  summary := (hrefits.kept .summary (by decide)).trans h.summary
  extendedSummary := (hrefits.kept .extendedSummary (by decide)).trans h.extendedSummary

theorem IsProse.exists_read (h : IsProse docstring) : ∃ d,
    (read none (dedentDocstring docstring)).result = .ok d ∧ d.HoldsProse (readParagraphs docstring) ∧
      d.params = [] := by
  have hread := h.read_eq
  have hnodup : ((proseEntries (readParagraphs docstring)).map (·.1)).Nodup := by
    change [Section.summary, Section.extendedSummary].Nodup
    decide
  refine ⟨_, hread, ⟨sound_read hread, ?_, ?_, ?_⟩, ?_⟩
  · rw [order_addAll]
    rfl
  · exact content_addAll_of_mem content_blank.1 hnodup List.mem_cons_self (by decide)
  · exact content_addAll_of_mem content_blank.1 hnodup (List.mem_cons_of_mem _ List.mem_cons_self) (by decide)
  · -- No parameters were recorded.
    have hdefault : (blank.addAll (proseEntries (readParagraphs docstring))).content .parameters =
        Section.parameters.default := by
      rw [content_addAll_of_not_mem content_blank.1, content_blank.2]
      simp [proseEntries]
    rw [params, (sound_read hread).isComplete.get?, hdefault]
    rfl

end Document

/-! ## Printing -/

namespace Renewal

open Document

variable {r : Renewal} {subject : Subject} {level : Nat} {docstring : Text} {d : Document}
  {ps : List (List Text)} {ls : List Text}

/-- Without parameters nothing is fixed. -/
theorem fixed_of_nil (subject : Subject)
    (hread : (Document.read r.format? (dedentDocstring docstring)).result = .ok d) (hd : d.Sound)
    (hparams : d.params = []) :
    ∃ d', (r.fixed subject docstring).result = .ok (d', false, false) ∧ d.Refits d' := by
  have hdocument := result_readDocstring (r := r) subject hread
  cases hfixers : r.settings.runFixers with
  | false =>
    refine ⟨d, ?_, .refl hd⟩
    rw [fixed, Run.result_bind, hdocument, hfixers]
    exact fixParams_of_nil hd.knowsParams hparams
  | true =>
    obtain ⟨d', hnormalized, hparams'⟩ := normalized_of_divisible hd fun p hp => by
      rw [hparams] at hp
      cases hp
    have hrefits := refits_normalized hd hnormalized
    rw [hparams] at hparams'
    refine ⟨d', ?_, hrefits⟩
    rw [fixed, Run.result_bind, hdocument, hfixers]
    exact Run.result_bind_eq_ok.mpr
      ⟨d', hnormalized, fixParams_of_nil hrefits.sound.knowsParams hparams'⟩

/-- Lines are printed one below the other, and no lines as nothing. -/
theorem printRecorded_lines {s : Section} (hd : d.IsComplete) (hc : d.content s = .lines ls)
    (hprint : ls ≠ [] →
      (Printer.printSection r.settings r.anyWidth s (.lines ls)).result = .ok (ended ls)) :
    (r.printRecorded d s.title).result = .ok (ended ls) := by
  have hget : d.get s.title = .ok (.lines ls) := by
    rw [Document.get, hd.get?, hc]
  unfold printRecorded
  rw [hget, Section.ofTitle?_title]
  cases ls with
  | nil => rfl
  | cons l ls => exact hprint (List.cons_ne_nil l ls)

theorem printDocument_prose (r : Renewal) (h : d.HoldsProse ps) (hps : AreParagraphs ps) :
    (r.printDocument d).result = .ok (ended ((joinParagraphs ps).map stripRight)) := by
  have hsummary : (r.printRecorded d Section.summary.title).result =
      .ok (ended ((ps.head?.getD []).map stripRight)) := by
    refine printRecorded_lines h.sound.isComplete h.summary fun hne => ?_
    refine congrArg Except.ok (Printer.printSummary_eq hne fun l hl => ?_)
    obtain ⟨k, hk, rfl⟩ := List.mem_map.mp hl
    rw [isBlank_stripRight]
    cases ps with
    | nil => cases hk
    | cons p ps => exact (hps p List.mem_cons_self).2 k hk
  have hextended : (r.printRecorded d Section.extendedSummary.title).result =
      .ok (ended ((joinParagraphs ps.tail).map stripRight)) :=
    printRecorded_lines h.sound.isComplete h.extendedSummary fun hne =>
      congrArg Except.ok (unlines_append_newline hne)
  unfold printDocument
  rw [h.order]
  refine Run.result_bind_eq_ok.mpr ⟨_, Run.mapM_eq_ok.mpr (.cons hsummary (.cons hextended .nil)), ?_⟩
  rw [← hps.joinParagraphs_proseBlocks]
  exact congrArg Except.ok (intercalate_printed (proseBlocks ps))

end Renewal

/-! ## The text in its frame -/

namespace Frame

variable {f : Frame} {level : Nat} {body : Text}

theorem onlyNewlines_opening (f : Frame) : OnlyNewlines f.opening := by
  unfold opening
  split
  · split <;> decide
  · decide

theorem onlyNewlines_closing (f : Frame) (level : Nat) : OnlyNewlines (f.closing level) := by
  have hnewline : OnlyNewlines ['\n'] := by decide
  have hspaces := (isUnbroken_spaces level).onlyNewlines
  unfold closing tail
  split
  · split
    · exact hnewline.append hspaces
    · exact hspaces
  · decide

theorem shown_subset (f : Frame) (body : Text) : f.shown body ⊆ body := by
  have hstarted : f.started body ⊆ body := by
    unfold started
    split
    · exact (List.dropWhile_sublist isSpace).subset
    · exact List.Subset.refl body
  unfold shown
  split
  · exact hstarted
  · exact fun c hc => hstarted ((List.rdropWhile_prefix isSpace _).subset hc)

theorem strippedLines_shown (f : Frame) (body : Text) : strippedLines (f.shown body) = strippedLines body := by
  have hstarted : strippedLines (f.started body) = strippedLines body := by
    unfold started
    split
    · exact strippedLines_stripLeft body
    · rfl
  unfold shown
  split
  · exact hstarted
  · rw [strippedLines_stripRight, hstarted]

/-- A frame changes only the white space around the lines that are put into it. -/
theorem strippedLines_fill (f : Frame) (level : Nat) (hbreaks : OnlyNewlines body)
    (hblank : isBlank body = false) (hend : body.getLast? = some '\n') :
    trimBlankLines ((splitLines (f.fill level body)).map strip) = strippedLines body := by
  -- Indenting is undone by stripping each line, and the frame around the body is blank.
  have hwhole : OnlyNewlines (f.opening ++ f.shown body ++ f.closing level) :=
    (f.onlyNewlines_opening.append (hbreaks.mono (f.shown_subset body))).append (f.onlyNewlines_closing level)
  rw [fill_eq_indentFrom hblank hend, splitLines_indentFrom (isUnbroken_spaces level),
    map_strip_indentedLines (isBlank_spaces level), hwhole.trimBlankLines_splitLines,
    strippedLines_append_blank (f.isBlank_closing level), strippedLines_blank_append f.isBlank_opening,
    strippedLines_shown]

theorem trimBlankLines_fill (f : Frame) (level : Nat) (hblank : isBlank body = true) :
    trimBlankLines ((splitLines (f.fill level body)).map strip) = [] := by
  refine trimBlankLines_eq_nil fun l hl => ?_
  obtain ⟨k, hk, rfl⟩ := List.mem_map.mp hl
  rw [isBlank_strip]
  exact isBlank_of_mem_splitLines (isBlank_fill hblank) hk

theorem showsAlone_of_isBlank {docstring : Text} (hblank : isBlank docstring = true) :
    (ofDocstring docstring).showsAlone = true := by
  have hfirst : isBlank ((splitLines docstring).head?.getD []) = true := by
    cases h : (splitLines docstring).head? with
    | none => rfl
    | some l => exact isBlank_of_mem_splitLines hblank (List.mem_of_mem_head? h)
  have hlast : isBlank ((splitLines docstring).getLast?.getD []) = true := by
    cases h : (splitLines docstring).getLast? with
    | none => rfl
    | some l => exact isBlank_of_mem_splitLines hblank (List.mem_of_getLast? h)
  simp [showsAlone, ofDocstring, hfirst, hlast]

end Frame

/-! ## Renewing -/

namespace Renewal

open Document

variable {r : Renewal} {docstring : Text}

/-- The text that prose is printed as. -/
def proseText (docstring : Text) : Text := ended ((joinParagraphs (readParagraphs docstring)).map stripRight)

theorem isUnbroken_of_mem_readParagraphs (hbreaks : OnlyNewlines docstring) {l : Text}
    (hl : l ∈ joinParagraphs (readParagraphs docstring)) : IsUnbroken l := by
  obtain rfl | ⟨p, hp, hl⟩ := of_mem_joinParagraphs hl
  · decide
  · intro c hc
    rw [← Bool.not_eq_true]
    intro hbreak
    exact not_mem_of_mem_readParagraphs (fun hne hmem => hne (hbreaks c hmem hbreak)) hp hl hc

theorem isUnbroken_proseLines (hbreaks : OnlyNewlines docstring) :
    ∀ l ∈ (joinParagraphs (readParagraphs docstring)).map stripRight, IsUnbroken l := by
  intro l hl
  obtain ⟨k, hk, rfl⟩ := List.mem_map.mp hl
  exact fun c hc => isUnbroken_of_mem_readParagraphs hbreaks hk c ((List.rdropWhile_prefix isSpace k).subset hc)

theorem strippedLines_proseText (hbreaks : OnlyNewlines docstring) :
    strippedLines (proseText docstring) = joinParagraphs (strippedParagraphs docstring) := by
  have hnewline : ∀ l ∈ (joinParagraphs (readParagraphs docstring)).map stripRight, '\n' ∉ l := by
    intro l hl hmem
    cases isUnbroken_proseLines hbreaks l hl '\n' hmem
  have htrimmed : IsTrimmed (joinParagraphs (strippedParagraphs docstring)) :=
    (areParagraphs_paragraphs _).isTrimmed
  have hlines : ((joinParagraphs (readParagraphs docstring)).map stripRight).map strip =
      joinParagraphs (strippedParagraphs docstring) := by
    rw [List.map_map, ← map_strip_readParagraphs, ← map_joinParagraphs rfl]
    exact List.map_congr_left fun l _ => strip_stripRight l
  -- What is left to trim is the empty line behind the last newline.
  rw [strippedLines, proseText, splitOn_ended hnewline, List.map_append, hlines]
  exact trimBlankLines_append_replicate htrimmed 1

theorem readParagraphs_eq_nil_iff : readParagraphs docstring = [] ↔ isBlank docstring = true := by
  rw [← strippedParagraphs_eq_nil_iff, ← map_strip_readParagraphs, List.map_eq_nil_iff]

theorem proseText_eq_nil (h : isBlank docstring = true) : proseText docstring = [] := by
  rw [proseText, readParagraphs_eq_nil_iff.mpr h]
  rfl

theorem isBlank_proseText (h : isBlank docstring = false) : isBlank (proseText docstring) = false := by
  have hne : readParagraphs docstring ≠ [] := by
    rw [Ne, readParagraphs_eq_nil_iff, h]
    exact Bool.false_ne_true
  obtain ⟨p, hp⟩ := List.exists_mem_of_ne_nil _ hne
  obtain ⟨hlines, hinked⟩ := areParagraphs_paragraphs _ p hp
  obtain ⟨l, hl⟩ := List.exists_mem_of_ne_nil p hlines
  have hline : isBlank (stripRight l) = false := (isBlank_stripRight l).trans (hinked l hl)
  rw [proseText, isBlank_ended]
  exact all_isBlank_eq_false (List.mem_map_of_mem (mem_joinParagraphs hp hl)) hline

theorem body_prose (subject : Subject) (hformat : r.format? = none) (hprose : IsProse docstring) :
    (r.body subject docstring).result = .ok (proseText docstring) := by
  obtain ⟨d, hread, hholds, hparams⟩ := hprose.exists_read
  rw [← hformat] at hread
  obtain ⟨d', hfixed, hrefits⟩ := fixed_of_nil subject hread hholds.sound hparams
  have hprint := printDocument_prose r (hholds.refits hrefits) (areParagraphs_paragraphs _)
  exact body_eq_ok_iff.mpr ⟨d', false, false, hfixed, hprint⟩

/-- **Prose is renewed line by line.**  A docstring of several lines without a heading and without a signature
is always renewed.  The new text has the same stripped lines in the same order, with one blank line where there
were any and none where there was none, and it is blank only if the docstring is. -/
theorem renew_keeps_prose (subject : Subject) (level : Nat) (hformat : r.format? = none)
    (hlong : IsLong docstring) (hbreaks : OnlyNewlines docstring) (hprose : IsProse docstring) :
    ∃ new, (r.renew subject level docstring).result = .ok new ∧ isBlank new.text = isBlank docstring ∧
      trimBlankLines ((splitLines new.text).map strip) =
        joinParagraphs (paragraphs ((splitLines docstring).map strip)) := by
  have hbody := body_prose subject hformat hprose
  rw [hbreaks.paragraphs_splitLines]
  cases hblank : isBlank docstring with
  | true =>
    -- There is nothing to print, and the frame is left.
    have hnil := proseText_eq_nil hblank
    have hne : (Frame.ofDocstring docstring).fill level (proseText docstring) ≠ [] := by
      rw [hnil]
      exact (Frame.fill_nil_ne_nil_iff _ level).mpr (Frame.showsAlone_of_isBlank hblank)
    have hbodyBlank : isBlank (proseText docstring) = true := by
      rw [hnil]
      rfl
    obtain ⟨new, hnew, htext⟩ := (renew_text_iff hlong hne).mpr ⟨_, hbody, rfl⟩
    refine ⟨new, hnew, ?_, ?_⟩
    · rw [htext, Frame.isBlank_fill hbodyBlank]
    · rw [htext, Frame.trimBlankLines_fill _ level hbodyBlank, strippedParagraphs_eq_nil_iff.mpr hblank]
      rfl
  | false =>
    have hbodyBlank := isBlank_proseText hblank
    have hend := body_getLast? hbody hbodyBlank
    have hne := (Frame.ofDocstring docstring).fill_ne_nil level hbodyBlank hend
    have hbodyBreaks : OnlyNewlines (proseText docstring) := onlyNewlines_ended (isUnbroken_proseLines hbreaks)
    obtain ⟨new, hnew, htext⟩ := (renew_text_iff hlong hne).mpr ⟨_, hbody, rfl⟩
    refine ⟨new, hnew, ?_, ?_⟩
    · rw [htext, Frame.fill_shows _ level hbodyBlank hend]
    · rw [htext, Frame.strippedLines_fill _ level hbodyBreaks hbodyBlank hend, strippedLines_proseText hbreaks]

/-- Neither the title without an underline nor the underline without a title is a heading. -/
def untitled : Text := "\n  Adds (a) and b:\n  Notes\n\n\n     -----\n   - all  of it \n\n  "

theorem untitled_keeps_lines : IsProse untitled ∧
    ∃ new, (plain.renew bare 4 untitled).result = .ok new ∧ isBlank new.text = false ∧
      trimBlankLines ((splitLines new.text).map strip) =
        (["Adds (a) and b:", "Notes", "", "-----", "- all  of it"] : List Text) := by
  have hprose : IsProse untitled := ⟨by decide +kernel, by decide +kernel⟩
  obtain ⟨new, hnew, hblank, hlines⟩ := renew_keeps_prose (r := plain) bare 4 rfl (by decide) (by decide) hprose
  have hparagraphs : joinParagraphs (paragraphs ((splitLines untitled).map strip)) =
      (["Adds (a) and b:", "Notes", "", "-----", "- all  of it"] : List Text) := by decide +kernel
  rw [hparagraphs] at hlines
  have hinked : isBlank untitled = false := by decide
  exact ⟨hprose, new, hnew, hblank.trans hinked, hlines⟩

end Renewal
end DocTidy
