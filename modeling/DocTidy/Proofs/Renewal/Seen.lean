import DocTidy.Proofs.Renewal.FrameLines

/-!
# What a reader sees of lines in a frame

Which lines a frame shows as they are (`Frame.Shows`) can be told from what a reader sees of them.  White
space apart, the reader sees the paragraphs of the lines (`map_strip_readParagraphs_fill`).  Lines that are
seen as they are, up to white space at the end, have no margin (`flush_of_seenLines`), and where nothing
closes the frame, the last line that is seen ends with text (`exists_seenLines_concat`).
-/

namespace DocTidy

open Text

namespace Text

variable {l : Text}

theorem flatten_paragraphs_cons (hl : isBlank l = false) (ls : List Text) :
    (paragraphs (l :: ls)).flatten = l :: (paragraphs ls).flatten := by
  rw [flatten_paragraphs, flatten_paragraphs, List.filter_cons_of_pos (by rw [hl]; rfl)]

end Text

namespace Frame

variable {f : Frame} {level : Nat} {l : Text} {ls : List Text}

/-- **White space apart, what is read of a filled frame** are the paragraphs of the lines. -/
theorem map_strip_readParagraphs_fill (f : Frame) (level : Nat) (hl : isBlank l = false)
    (hls : ∀ k ∈ l :: ls, OnlySpaces k) :
    (Document.readParagraphs (f.fill level (ended (l :: ls)))).map (·.map strip) =
      (paragraphs (l :: ls)).map (·.map strip) := by
  have hunbroken : ∀ k ∈ l :: ls ++ [[]], IsUnbroken k := by
    rw [List.forall_mem_append, List.forall_mem_singleton]
    exact ⟨fun k hk => (hls k hk).isUnbroken, fun c hc => absurd hc List.not_mem_nil⟩
  have hindented : ∀ k ∈ indentedLines (spaces level) true (l :: ls ++ [[]]), IsUnbroken k := by
    rw [indentedLines_true]
    intro k hk
    obtain ⟨k', hk', rfl⟩ := List.mem_map.mp hk
    exact isUnbroken_indentedLine (isUnbroken_spaces level) (hunbroken k' hk')
  -- Neither dedenting nor indenting shows once every line is stripped.
  unfold Document.readParagraphs
  rw [← Document.strippedParagraphs_eq, strippedParagraphs_dedentDocstring,
    Document.strippedParagraphs_fill f level (isBlank_ended_cons hl ls) (getLast?_ended_cons l ls), ended_eq_unlines,
    indentFrom_unlines hunbroken, strippedParagraphs, splitOn_unlines hindented (List.cons_ne_nil _ _),
    map_strip_indentedLines (isBlank_spaces level), List.map_append, ← paragraphs_map isBlank_strip]
  exact paragraphs_append_replicate _ 1

theorem sharedMargin_eq_nil_of_strip {k : Text} {ks : List Text} (hk : k ∈ ks) (hinked : isBlank k = false)
    (hstrip : strip k = k) : sharedMargin ks = [] := by
  cases k with
  | nil => cases hinked
  | cons c t => exact sharedMargin_eq_nil hk (isSpace_of_strip_eq_cons hstrip)

/-- **Lines that are seen as they are**, up to white space at the end, have no margin.  So have lines with
one among them that begins with text. -/
theorem flush_of_seenLines (hl : isBlank l = false) (hls : ∀ k ∈ l :: ls, OnlySpaces k)
    (hcleared : IsCleared (l :: ls))
    (hfirst : strip l = l ∨ ∃ k ∈ (paragraphs (f.seenLines (l :: ls))).flatten.head?, l = stripRight k)
    (hbelow : (∃ k ∈ ls, isBlank k = false ∧ strip k = k) ∨
      (paragraphs ls).flatten = (paragraphs (f.seenLines (l :: ls))).flatten.tail.map stripRight) :
    if f.startsAtOnce then (∀ k ∈ (l :: ls).head?, stripLeft k = k) ∧ sharedMargin (l :: ls).tail = []
    else sharedMargin (l :: ls) = [] := by
  obtain ⟨c, cs, hshown, hc, hspaces, hstart⟩ := f.exists_shownLines hl hls
  unfold seenLines at hfirst hbelow
  rw [hshown] at hfirst hbelow
  cases hat : f.startsAtOnce with
  | false =>
    rw [hat, if_neg Bool.false_ne_true] at hfirst hbelow
    show sharedMargin (l :: ls) = []
    obtain ⟨k, hk, hinked, hstrip⟩ | hbelow := hbelow
    · exact sharedMargin_eq_nil_of_strip (List.mem_cons_of_mem l hk) hinked hstrip
    · obtain hstrip | ⟨k, hk, hfirst⟩ := hfirst
      · exact sharedMargin_eq_nil_of_strip List.mem_cons_self hl hstrip
      · -- All lines are seen as they are, and what is seen has been dedented.
        have hseen := List.eq_cons_of_mem_head? hk
        have hlines : (paragraphs (l :: ls)).flatten = (paragraphs (dedentLines (c :: cs))).flatten.map stripRight := by
          rw [flatten_paragraphs_cons hl, hbelow, hseen, List.map_cons, ← hfirst]
          rfl
        rw [sharedMargin_congr hcleared (isCleared_dedentLines hspaces) hlines, sharedMargin_dedentLines]
  | true =>
    have hseen : (paragraphs (c :: dedentLines cs)).flatten = c :: (paragraphs (dedentLines cs)).flatten :=
      flatten_paragraphs_cons hc _
    rw [hat, if_pos rfl, List.tail_cons, List.take_succ_cons, List.take_zero, List.singleton_append, hseen]
      at hfirst hbelow
    refine ⟨fun first hmem => Option.some.inj hmem ▸ ?_, ?_⟩
    · obtain hstrip | ⟨k, hk, rfl⟩ := hfirst
      · exact stripLeft_of_strip hstrip
      · -- The first line that is seen begins with text.
        have hstrip : strip c = stripRight c := by rw [strip, hstart hat]
        rw [← Option.some.inj hk, ← hstrip]
        exact stripLeft_of_strip (strip_strip c)
    · obtain ⟨k, hk, hinked, hstrip⟩ | hbelow := hbelow
      · exact sharedMargin_eq_nil_of_strip hk hinked hstrip
      · have hcleared' : IsCleared (dedentLines cs) :=
          isCleared_dedentLines fun k hk => hspaces k (List.mem_cons_of_mem c hk)
        rw [List.tail_cons, sharedMargin_congr (fun k hk => hcleared k (List.mem_cons_of_mem l hk)) hcleared' hbelow,
          sharedMargin_dedentLines]

/-- Where nothing closes the frame, the last line that is seen ends with text. -/
theorem exists_seenLines_concat (hends : f.endsBlank = false) (hl : isBlank l = false) (ls : List Text) :
    ∃ front k, f.seenLines (l :: ls) = front ++ [k] ∧ isBlank k = false ∧ stripRight k = k := by
  obtain ⟨a, ha, hblank⟩ : ∃ a, f.startedLines (l :: ls) = a :: ls ∧ isBlank a = false := by
    rw [startedLines]
    split
    · exact ⟨_, rfl, (isBlank_stripLeft l).trans hl⟩
    · exact ⟨l, rfl, hl⟩
  obtain ⟨front, x, back, hsplit, hx, hback⟩ :=
    exists_last_inked (all_isBlank_eq_false (List.mem_cons_self (a := a) (l := ls)) hblank)
  have hshown : f.shownLines (l :: ls) = front ++ [stripRight x] := by
    rw [shownLines, hends, ha, hsplit, stripEnd_append hx hback]
    rfl
  have hx' : isBlank (stripRight x) = false := (isBlank_stripRight x).trans hx
  have hstripped : stripRight (stripRight x) = stripRight x := List.rdropWhile_idempotent isSpace x
  have hdedented (front : List Text) : ∃ front' k, dedentLines (front ++ [stripRight x]) = front' ++ [k] ∧
      isBlank k = false ∧ stripRight k = k := by
    obtain ⟨front', k, hlines, hsuffix, hk⟩ := exists_dedentLines_concat hx' front
    exact ⟨front', k, hlines, hk, stripRight_of_isSuffix hsuffix hstripped⟩
  unfold seenLines
  rw [hshown]
  split
  · -- Only the lines below the first are dedented.
    cases front with
    | nil => exact ⟨[], stripRight x, rfl, hx', hstripped⟩
    | cons b front =>
      obtain ⟨front', k, hlines, hk⟩ := hdedented front
      refine ⟨b :: front', k, ?_, hk⟩
      rw [List.cons_append, List.tail_cons, hlines]
      rfl
  · exact hdedented front

end Frame
end DocTidy
