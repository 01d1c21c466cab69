import DocTidy.Proofs.List
import DocTidy.Proofs.Printer

/-!
# Reading printed parameters

Parameters that were read from lines with no other white space than spaces are read back from what is
printed of them.  Reading leaves names and types without a colon between spaces in the wrong place
(`IsUndivided`), and descriptions without a margin and without blank lines around them (`IsTidied`).
Printing puts empty lines between parameters, or none: `Lists` is what all layouts have in common.
-/

namespace DocTidy.Param

open Text

variable {p : Param} {ps : List Param} {soleType : Bool} {n t : Text} {ls : List Text}

/-! ## Names and types -/

/-- No colon stands between two spaces, nor behind a space at the end. -/
def IsUndivided (t : Text) : Prop := ¬ (" : " : Text) <:+: t ++ [' ']

instance (t : Text) : Decidable (IsUndivided t) := inferInstanceAs (Decidable (¬ _))

theorem cutAt?_eq_none_iff {part t : Text} : cutAt? part t = none ↔ ¬ part <:+: t := by
  induction t with
  | nil =>
    rw [cutAt?, List.infix_nil]
    cases part <;> simp
  | cons c r ih =>
    rw [cutAt?, List.infix_cons_iff]
    split
    · rename_i hstarts
      simp [List.isPrefixOf_iff_prefix.mp hstarts]
    · rename_i hstarts
      rw [Option.map_eq_none_iff, ih, not_or]
      rw [List.isPrefixOf_iff_prefix] at hstarts
      exact (and_iff_right hstarts).symm

theorem isUndivided_nil : IsUndivided [] := by
  unfold IsUndivided
  decide

theorem IsUndivided.tail {c : Char} (h : IsUndivided (c :: t)) : IsUndivided t :=
  fun hwithin => h (hwithin.trans (List.suffix_cons c (t ++ [' '])).isInfix)

theorem isUndivided_of_cutAt? {front rest : Text} (h : cutAt? " : " t = some (front, rest)) :
    IsUndivided front := by
  induction t generalizing front with
  | nil => cases h
  | cons c r ih =>
    rw [cutAt?] at h
    split at h
    · obtain ⟨rfl, -⟩ := Prod.mk.inj (Option.some.inj h)
      exact isUndivided_nil
    · rename_i hstarts
      obtain ⟨⟨front', rest'⟩, hcut, heq⟩ := Option.map_eq_some_iff.mp h
      obtain ⟨rfl, rfl⟩ := Prod.mk.inj heq
      intro hwithin
      rcases List.infix_cons_iff.mp hwithin with hstart | hlater
      · -- The space behind the front is the one that the separator begins with.
        rw [List.isPrefixOf_iff_prefix, cutAt?_eq_some hcut] at hstarts
        refine hstarts (hstart.trans ⟨':' :: ' ' :: rest', ?_⟩)
        show c :: (front' ++ [' '] ++ _) = c :: (front' ++ " : " ++ rest')
        rw [List.append_assoc, List.append_assoc]
        rfl
      · exact ih hcut hlater

/-- A text without a colon between spaces is cut off where the separator is. -/
theorem cutAt?_of_isUndivided (hn : IsUndivided n) (t : Text) :
    cutAt? " : " (n ++ " : " ++ t) = some (n, t) := by
  induction n with
  | nil => rfl
  | cons c n ih =>
    rw [List.cons_append, List.cons_append, cutAt?, if_neg, ih hn.tail]
    · rfl
    · rw [List.isPrefixOf_iff_prefix]
      intro hstarts
      refine hn (List.IsPrefix.isInfix ?_)
      -- The separator does not begin with the last character, for a colon would stand behind it.
      cases n with
      | nil =>
        obtain ⟨-, hrest⟩ := List.cons_prefix_cons.mp hstarts
        exact absurd (List.cons_prefix_cons.mp hrest).1 (by decide)
      | cons d n =>
        refine List.prefix_of_prefix_length_le hstarts ⟨':' :: ' ' :: t, ?_⟩ (by simp)
        simp

theorem isUndivided_iff :
    IsUndivided t ↔ ¬ (" : " : Text) <:+: t ∧ ¬ (" :" : Text) <:+ t := by
  have hend : (" : " : Text) <:+ t ++ [' '] ↔ (" :" : Text) <:+ t := by
    constructor
    · rintro ⟨r, hr⟩
      have hback : (r ++ " :") ++ [' '] = t ++ [' '] := by
        rw [List.append_assoc]
        exact hr
      exact ⟨r, List.append_cancel_right hback⟩
    · rintro ⟨r, rfl⟩
      exact ⟨r, (List.append_assoc r " :" [' ']).symm⟩
  unfold IsUndivided
  rw [List.infix_concat_iff, hend, not_or, and_comm]

/-- A sole word is cut nowhere. -/
theorem splitHead_of_isUndivided (soleType : Bool) (h : IsUndivided t) :
    splitHead soleType t = if soleType then ([], t) else (t, []) := by
  obtain ⟨hwithin, hbehind⟩ := isUndivided_iff.mp h
  have hends : endsWith t " :" = false := by
    rw [← Bool.not_eq_true]
    exact fun hends => hbehind (List.isSuffixOf_iff_suffix.mp hends)
  unfold splitHead
  rw [cutAt?_eq_none_iff.mpr hwithin, hends]
  rfl

/-- The first line of an entry is a name and a type, or a word that a colon may stand behind. -/
theorem splitHead_cases (soleType : Bool) (t : Text) :
    (∃ name type, t = name ++ " : " ++ type ∧ IsUndivided name ∧ splitHead soleType t = (name, type)) ∨
    ∃ word, (t = word ∨ t = word ++ " :") ∧ IsUndivided word ∧
      splitHead soleType t = if soleType then ([], word) else (word, []) := by
  cases hcut : cutAt? " : " t with
  | some parts =>
    refine .inl ⟨parts.1, parts.2, cutAt?_eq_some hcut, isUndivided_of_cutAt? hcut, ?_⟩
    unfold splitHead
    rw [hcut]
  | none =>
    have hwithin := cutAt?_eq_none_iff.mp hcut
    -- A colon at the end of the line is cut off; the word is undivided in either case.
    by_cases hends : endsWith t " :" = true
    · obtain ⟨word, rfl⟩ := List.isSuffixOf_iff_suffix.mp hends
      have hword : IsUndivided word := by
        refine fun h => hwithin (h.trans ⟨[], [':'], ?_⟩)
        rw [List.nil_append, List.append_assoc]
        rfl
      refine .inr ⟨word, .inr rfl, hword, ?_⟩
      have htake : (word ++ " :").take ((word ++ " :").length - 2) = word := by
        rw [List.length_append]
        exact List.take_left
      unfold splitHead
      rw [hcut, hends, if_pos rfl, htake]
    · have hword : IsUndivided t :=
        isUndivided_iff.mpr ⟨hwithin, fun h => hends (List.isSuffixOf_iff_suffix.mpr h)⟩
      exact .inr ⟨t, .inl rfl, hword, splitHead_of_isUndivided soleType hword⟩

theorem IsUndivided.strip (hspaces : OnlySpaces n) (h : IsUndivided n) : IsUndivided (strip n) := by
  obtain ⟨front, back, -, hback, hn⟩ := exists_strip n
  intro hwithin
  refine h (hwithin.trans ?_)
  cases back with
  | nil =>
    refine ⟨front, [], ?_⟩
    conv_rhs => rw [hn]
    simp
  | cons c back =>
    have hc : c = ' ' := by
      refine hspaces c ?_ (Bool.and_eq_true_iff.mp hback).1
      rw [hn]
      simp
    refine ⟨front, back ++ [' '], ?_⟩
    conv_rhs => rw [hn, hc]
    simp

/-- Names and types as reading leaves them: both, or a sole word. -/
structure IsHeaded (soleType : Bool) (p : Param) : Prop where
  strip_name : strip p.name = p.name
  strip_type : strip p.type = p.type
  cases : (IsUndivided p.name ∧ p.name ≠ [] ∧ p.type ≠ []) ∨
    ∃ word, IsUndivided word ∧ word ≠ [] ∧ (p.name, p.type) = if soleType then ([], word) else (word, [])

/-- A sole word stands where the section has it. -/
theorem sole_iff {p : Param} : (∃ word, IsUndivided word ∧ word ≠ [] ∧
      (p.name, p.type) = if soleType then ([], word) else (word, [])) ↔
    IsUndivided (if soleType then p.type else p.name) ∧ (if soleType then p.type else p.name) ≠ [] ∧
      (if soleType then p.name else p.type) = [] := by
  cases soleType <;> simp

instance (soleType : Bool) (p : Param) : Decidable (IsHeaded soleType p) :=
  decidable_of_iff (strip p.name = p.name ∧ strip p.type = p.type ∧
      (IsUndivided p.name ∧ p.name ≠ [] ∧ p.type ≠ [] ∨
        IsUndivided (if soleType then p.type else p.name) ∧ (if soleType then p.type else p.name) ≠ [] ∧
          (if soleType then p.name else p.type) = []))
    ⟨fun h => ⟨h.1, h.2.1, h.2.2.imp_right sole_iff.mpr⟩,
      fun h => ⟨h.strip_name, h.strip_type, h.cases.imp_right sole_iff.mp⟩⟩

theorem isHeaded_ofEntry (soleType : Bool) {entry : Text × List Text} (hspaces : OnlySpaces entry.1)
    (hblank : isBlank entry.1 = false) : IsHeaded soleType (ofEntry soleType entry) := by
  obtain ⟨line, below⟩ := entry
  have hstripped := strip_strip line
  have hspaced := hspaces.strip
  refine ⟨strip_strip _, strip_strip _, ?_⟩
  -- Blank parts would stand at an end of the line, which is stripped.
  rcases splitHead_cases soleType (strip line) with ⟨name, type, hline, hname, hsplit⟩ |
    ⟨word, hline, hword, hsplit⟩
  · left
    show IsUndivided (strip (splitHead soleType (strip line)).1) ∧
      strip (splitHead soleType (strip line)).1 ≠ [] ∧ strip (splitHead soleType (strip line)).2 ≠ []
    rw [hsplit]
    rw [hline] at hstripped hspaced
    have hfront : isBlank (name ++ [' ']) = false := by
      refine (isBlank_of_strip_append (t := ':' :: ' ' :: type) ?_).1 (by simp)
      simpa using hstripped
    have hback : isBlank ([' '] ++ type) = false := by
      refine (isBlank_of_strip_append (s := name ++ " :") ?_).2 (by simp)
      simpa using hstripped
    rw [isBlank_append, Bool.and_eq_false_iff] at hfront hback
    refine ⟨hname.strip (hspaced.mono (by simp)), ?_, ?_⟩
    · exact strip_ne_nil (hfront.resolve_right (by decide))
    · exact strip_ne_nil (hback.resolve_left (by decide))
  · right
    have hinked : isBlank word = false := by
      rcases hline with hline | hline
      · rwa [← hline, isBlank_strip]
      · rw [hline] at hstripped
        have hfront : isBlank (word ++ [' ']) = false := by
          refine (isBlank_of_strip_append (t := [':']) ?_).1 (by simp)
          simpa using hstripped
        rw [isBlank_append, Bool.and_eq_false_iff] at hfront
        exact hfront.resolve_right (by decide)
    have hspaces : OnlySpaces word := by
      refine hspaced.mono fun c hc => ?_
      rcases hline with hline | hline
      · rwa [hline]
      · rw [hline]
        exact List.mem_append_left _ hc
    refine ⟨strip word, hword.strip hspaces, strip_ne_nil hinked, ?_⟩
    show (strip (splitHead soleType (strip line)).1, strip (splitHead soleType (strip line)).2) = _
    rw [hsplit]
    cases soleType <;> rfl

/-- The first line of a printed parameter. -/
def headLine (p : Param) : Text :=
  if p.name = [] then p.type else if p.type = [] then p.name else p.name ++ " : " ++ p.type

theorem IsHeaded.headLine_cases (h : IsHeaded soleType p) :
    (IsUndivided p.name ∧ p.name ≠ [] ∧ p.type ≠ [] ∧ headLine p = p.name ++ " : " ++ p.type) ∨
    (IsUndivided (headLine p) ∧ headLine p ≠ [] ∧ strip (headLine p) = headLine p ∧
      (p.name, p.type) = if soleType then ([], headLine p) else (headLine p, [])) := by
  obtain ⟨name, type, desc⟩ := p
  rcases h.cases with ⟨hundivided, hname, htype⟩ | ⟨word, hword, hne, heq⟩
  · refine .inl ⟨hundivided, hname, htype, ?_⟩
    unfold headLine
    rw [if_neg hname, if_neg htype]
  · right
    cases soleType with
    | true =>
      obtain ⟨rfl, rfl⟩ := Prod.mk.inj heq
      exact ⟨hword, hne, h.strip_type, rfl⟩
    | false =>
      obtain ⟨rfl, rfl⟩ := Prod.mk.inj heq
      have hhead : headLine ⟨name, [], desc⟩ = name := if_neg hne
      rw [hhead]
      exact ⟨hword, hne, h.strip_name, rfl⟩

theorem IsHeaded.strip_headLine (h : IsHeaded soleType p) : strip (headLine p) = headLine p := by
  rcases h.headLine_cases with ⟨-, hname, htype, hline⟩ | ⟨-, -, hstrip, -⟩
  · rw [hline]
    exact strip_append_of_strip h.strip_name hname h.strip_type htype " : "
  · exact hstrip

theorem IsHeaded.headLine_ne_nil (h : IsHeaded soleType p) : headLine p ≠ [] := by
  rcases h.headLine_cases with ⟨-, hname, -, hline⟩ | ⟨-, hne, -, -⟩
  · rw [hline]
    simp [hname]
  · exact hne

theorem IsHeaded.exists_headLine (h : IsHeaded soleType p) :
    ∃ c r, headLine p = c :: r ∧ isSpace c = false := by
  have hstrip := h.strip_headLine
  cases hline : headLine p with
  | nil => exact absurd hline h.headLine_ne_nil
  | cons c r =>
    rw [hline] at hstrip
    exact ⟨c, r, rfl, isSpace_of_strip_eq_cons hstrip⟩

theorem IsHeaded.isHead_headLine (h : IsHeaded soleType p) : isHead (headLine p) = true := by
  obtain ⟨c, r, hline, hc⟩ := h.exists_headLine
  rw [hline, isHead, hc]
  rfl

theorem IsHeaded.splitHead_headLine (h : IsHeaded soleType p) :
    splitHead soleType (headLine p) = (p.name, p.type) := by
  rcases h.headLine_cases with ⟨hundivided, -, -, hline⟩ | ⟨hundivided, -, -, heq⟩
  · unfold splitHead
    rw [hline, cutAt?_of_isUndivided hundivided]
  · rw [splitHead_of_isUndivided soleType hundivided, heq]

/-! ## Descriptions -/

/-- Descriptions as reading leaves them. -/
structure IsTidied (desc : List Text) : Prop where
  cleared : IsCleared desc
  marginless : sharedMargin desc = []
  trimmed : IsTrimmed desc
  stripped : ∀ l ∈ desc, stripRight l = l

instance (desc : List Text) : Decidable (IsTidied desc) :=
  decidable_of_iff (IsCleared desc ∧ sharedMargin desc = [] ∧ IsTrimmed desc ∧ ∀ l ∈ desc, stripRight l = l)
    ⟨fun h => ⟨h.1, h.2.1, h.2.2.1, h.2.2.2⟩, fun h => ⟨h.cleared, h.marginless, h.trimmed, h.stripped⟩⟩

theorem isTidied_of_dedentBody (hls : ∀ l ∈ ls, OnlySpaces l) :
    IsTidied ((trimBlankLines (dedentBody ls)).map stripRight) := by
  have hcleared : IsCleared ((trimBlankLines (dedentBody ls)).map stripRight) := by
    intro k hk hblank
    obtain ⟨l, -, rfl⟩ := List.mem_map.mp hk
    rw [isBlank_stripRight] at hblank
    exact stripRight_eq_nil_iff.mpr hblank
  refine ⟨hcleared, ?_, (isTrimmed_trimBlankLines _).map isBlank_stripRight, ?_⟩
  · -- The lines around are empty, and stripping on the right leaves the margins alone.
    rw [sharedMargin_congr hcleared (isCleared_dedentBody hls), sharedMargin_dedentBody]
    rw [paragraphs_map isBlank_stripRight, paragraphs_trimBlankLines, List.map_flatten]
  · intro k hk
    obtain ⟨l, -, rfl⟩ := List.mem_map.mp hk
    exact List.rdropWhile_idempotent isSpace l

/-- **A description is read back** from its lines in the margin, whatever empty lines follow. -/
theorem IsTidied.reread {desc : List Text} (h : IsTidied desc) (n : Nat) :
    (trimBlankLines (dedentBody (desc.map (indentedLine descMargin) ++ List.replicate n []))).map
      stripRight = desc := by
  have hgap : (List.replicate n []).map (indentedLine descMargin) = List.replicate n [] :=
    List.map_replicate
  have hdedent : trimBlankLines (dedentBody ((desc ++ List.replicate n []).map (indentedLine descMargin))) =
      trimBlankLines (desc ++ List.replicate n []) := by
    cases desc with
    | nil =>
      -- No line has a margin.
      cases n with
      | zero => rfl
      | succ n =>
        rw [List.nil_append, hgap]
        show trimBlankLines (dedentLines (List.replicate (n + 1) [])) = _
        rw [dedentLines_eq_self (isCleared_replicate _)]
        rw [sharedMargin_eq, margins_eq_nil fun l hl => List.eq_of_mem_replicate hl]
        rfl
    | cons l desc =>
      have hcleared := h.cleared.append (isCleared_replicate n)
      have hmargin : sharedMargin (l :: desc ++ List.replicate n []) = [] := by
        rw [sharedMargin_eq, margins_append, margins_eq_nil fun l hl => List.eq_of_mem_replicate hl,
          List.append_nil]
        exact h.marginless
      have hne : l ≠ [] := by
        rintro rfl
        cases h.trimmed.1 [] rfl
      have hdedent := dedentLines_indented (m := descMargin) rfl hcleared hmargin List.mem_cons_self hne
      exact congrArg trimBlankLines hdedent
  rw [← hgap, ← List.map_append, hdedent, trimBlankLines_append_replicate h.trimmed]
  exact (List.map_congr_left h.stripped).trans (List.map_id desc)

/-! ## Entries -/

/-- Parameters as reading leaves them. -/
structure IsRead (soleType : Bool) (p : Param) : Prop extends IsHeaded soleType p where
  tidied : IsTidied p.desc
  spaces : OnlySpaces (headLine p)
  spaces_desc : ∀ l ∈ p.desc, OnlySpaces l

instance (soleType : Bool) (p : Param) : Decidable (IsRead soleType p) :=
  decidable_of_iff (IsHeaded soleType p ∧ IsTidied p.desc ∧ OnlySpaces (headLine p) ∧ ∀ l ∈ p.desc, OnlySpaces l)
    ⟨fun h => ⟨h.1, h.2.1, h.2.2.1, h.2.2.2⟩, fun h => ⟨h.toIsHeaded, h.tidied, h.spaces, h.spaces_desc⟩⟩

theorem IsRead.ofEntry_headLine (h : IsRead soleType p) (n : Nat) :
    ofEntry soleType (headLine p, p.desc.map (indentedLine descMargin) ++ List.replicate n []) = p := by
  unfold ofEntry
  simp only [h.strip_headLine, h.splitHead_headLine, h.strip_name, h.strip_type, h.tidied.reread]

theorem mem_of_mem_splitHead {c : Char}
    (hc : c ∈ (splitHead soleType t).1 ∨ c ∈ (splitHead soleType t).2) : c ∈ t := by
  rcases splitHead_cases soleType t with ⟨name, type, ht, -, hsplit⟩ | ⟨word, ht, -, hsplit⟩
  · rw [hsplit] at hc
    rw [ht]
    rcases hc with hc | hc <;> simp [hc]
  · have hword : c ∈ word := by
      rw [hsplit] at hc
      cases soleType <;> simpa using hc
    rcases ht with ht | ht <;> rw [ht] <;> simp [hword]

theorem isRead_ofEntry (soleType : Bool) {entry : Text × List Text} (hhead : OnlySpaces entry.1)
    (hbelow : ∀ l ∈ entry.2, OnlySpaces l) (hblank : isBlank entry.1 = false) :
    IsRead soleType (ofEntry soleType entry) := by
  have hname : OnlySpaces (ofEntry soleType entry).name :=
    (hhead.strip.mono fun c hc => mem_of_mem_splitHead (.inl hc)).strip
  have htype : OnlySpaces (ofEntry soleType entry).type :=
    (hhead.strip.mono fun c hc => mem_of_mem_splitHead (.inr hc)).strip
  refine ⟨isHeaded_ofEntry soleType hhead hblank, isTidied_of_dedentBody hbelow, ?_, ?_⟩
  · unfold headLine
    split
    · exact htype
    · split
      · exact hname
      · have hcolon : OnlySpaces " : " := by decide
        exact (hname.append hcolon).append htype
  · intro k hk
    obtain ⟨l, hl, rfl⟩ := List.mem_map.mp hk
    obtain ⟨front, back, -, -, hsplit⟩ := exists_trimBlankLines (dedentBody entry.2)
    have hmem : l ∈ dedentBody entry.2 := by
      rw [hsplit]
      simp [hl]
    exact (onlySpaces_dedentBody hbelow l hmem).mono (List.rdropWhile_prefix isSpace l).subset

/-- Every entry begins with a line that is not blank, if the first line is not. -/
theorem of_mem_entries {line : Text} (hline : isBlank line = false) {entry : Text × List Text}
    (hentry : entry ∈ entries (line :: ls)) :
    isBlank entry.1 = false ∧ entry.1 ∈ line :: ls ∧ ∀ l ∈ entry.2, l ∈ line :: ls := by
  have hlines (l : Text) (hl : l ∈ entry.1 :: entry.2) : l ∈ line :: ls := by
    rw [← flatMap_entries (line :: ls)]
    exact List.mem_flatMap.mpr ⟨entry, hentry, hl⟩
  refine ⟨?_, hlines _ List.mem_cons_self, fun l hl => hlines l (List.mem_cons_of_mem _ hl)⟩
  rcases List.mem_cons.mp hentry with rfl | hentry
  · exact hline
  · have hhead : isHead entry.1 = true := isHead_of_mem_headedRuns hentry
    cases hfirst : entry.1 with
    | nil =>
      rw [hfirst] at hhead
      cases hhead
    | cons c r =>
      rw [hfirst] at hhead
      have hc : isSpace c = false := by simpa [isHead] using hhead
      rw [isBlank_cons, hc, Bool.false_and]

/-- Parameters are read whenever the first line is not blank. -/
theorem isRead_of_mem_ofLines (soleType : Bool) {first : Text} {rest : List Text}
    (hspaces : ∀ l ∈ first :: rest, OnlySpaces l) (hfirst : isBlank first = false) :
    ∀ p ∈ ofLines soleType (first :: rest), IsRead soleType p := by
  intro p hp
  obtain ⟨entry, hentry, rfl⟩ := List.mem_map.mp hp
  have hlines := onlySpaces_of_mem_dedentLines hspaces
  have hstrip := map_strip_dedentLines (first :: rest)
  change entry ∈ entries (dedentLines (first :: rest)) at hentry
  cases hdedent : dedentLines (first :: rest) with
  | nil =>
    rw [hdedent] at hstrip
    cases hstrip
  | cons line lines =>
    rw [hdedent] at hlines hstrip hentry
    have hline : isBlank line = false := by
      rw [← isBlank_strip, (List.cons.inj hstrip).1, isBlank_strip, hfirst]
    obtain ⟨hblank, hhead, hbelow⟩ := of_mem_entries hline hentry
    exact isRead_ofEntry soleType (hlines _ hhead) (fun l hl => hlines l (hbelow l hl)) hblank

/-! ## Printed lines -/

/-- The lines list the parameters, with any number of empty lines below each. -/
inductive Lists : List Param → List Text → Prop
  | nil : Lists [] []
  | cons {p : Param} {ps : List Param} {ls : List Text} (gap : Nat) (h : Lists ps ls) :
    Lists (p :: ps)
      (headLine p :: (p.desc.map (indentedLine descMargin) ++ List.replicate gap [] ++ ls))

theorem IsTidied.not_isHead {desc : List Text} (h : IsTidied desc) {l : Text}
    (hl : l ∈ desc.map (indentedLine descMargin)) : isHead l = false := by
  obtain ⟨k, hk, rfl⟩ := List.mem_map.mp hl
  unfold indentedLine
  split
  · rename_i hblank
    rw [h.cleared k hk hblank]
    rfl
  · rfl

/-- The entries of the lines that list parameters are the entries of these parameters. -/
theorem Lists.headedRuns (h : Lists ps ls) (hps : ∀ p ∈ ps, IsRead soleType p) :
    (headedRuns isHead ls).1 = [] ∧ (headedRuns isHead ls).2.map (ofEntry soleType) = ps := by
  induction h with
  | nil => exact ⟨rfl, rfl⟩
  | @cons p ps ls gap h ih =>
    rw [List.forall_mem_cons] at hps
    obtain ⟨hrun, hgroups⟩ := ih hps.2
    have hbelow : ∀ l ∈ p.desc.map (indentedLine descMargin) ++ List.replicate gap [],
        isHead l = false := by
      intro l hl
      rcases List.mem_append.mp hl with hl | hl
      · exact hps.1.tidied.not_isHead hl
      · rw [List.eq_of_mem_replicate hl]
        rfl
    rw [headedRuns_cons_head hps.1.isHead_headLine, headedRuns_append hbelow, hrun, List.append_nil]
    refine ⟨rfl, ?_⟩
    rw [List.map_cons, hps.1.ofEntry_headLine, hgroups]

theorem Lists.isCleared (h : Lists ps ls) (hps : ∀ p ∈ ps, IsRead soleType p) : IsCleared ls := by
  induction h with
  | nil => exact fun l hl => absurd hl List.not_mem_nil
  | @cons p ps ls gap h ih =>
    rw [List.forall_mem_cons] at hps
    have hbelow := isCleared_map_indentedLine isBlank_descMargin hps.1.tidied.cleared
    intro l hl hblank
    rcases List.mem_cons.mp hl with rfl | hl
    · obtain ⟨c, r, hline, hc⟩ := hps.1.exists_headLine
      rw [hline, isBlank_cons, hc, Bool.false_and] at hblank
      cases hblank
    · exact ((hbelow.append (isCleared_replicate gap)).append (ih hps.2)) l hl hblank

/-- **Listed parameters are read back.** -/
theorem Lists.ofLines_eq (h : Lists ps ls) (hps : ∀ p ∈ ps, IsRead soleType p) (hne : ps ≠ []) :
    ofLines soleType ls = ps := by
  have hcleared := h.isCleared hps
  have hentries := (h.headedRuns hps).2
  cases h with
  | nil => exact absurd rfl hne
  | @cons p ps ls gap h =>
    have hp := hps p List.mem_cons_self
    obtain ⟨c, r, hline, hc⟩ := hp.exists_headLine
    rw [headedRuns_cons_head hp.isHead_headLine] at hentries
    unfold ofLines
    rw [dedentBody, dedentLines_eq_self hcleared]
    · exact hentries
    · refine sharedMargin_eq_nil (c := c) (t := r) ?_ hc
      rw [← hline]
      exact List.mem_cons_self

theorem Lists.append_empty (h : Lists ps ls) (hne : ps ≠ []) : Lists ps (ls ++ [[]]) := by
  induction h with
  | nil => exact absurd rfl hne
  | @cons p ps ls gap h ih =>
    cases h with
    | nil =>
      have hlast := Lists.cons (p := p) (gap + 1) Lists.nil
      rw [List.replicate_succ'] at hlast
      simpa using hlast
    | cons gap' h =>
      have hlast := Lists.cons (p := p) gap (ih (List.cons_ne_nil _ _))
      simpa using hlast

theorem onlySpaces_indentedLine {l : Text} (hl : OnlySpaces l) : OnlySpaces (indentedLine descMargin l) := by
  have hmargin : OnlySpaces descMargin := by decide +kernel
  unfold indentedLine
  split
  · exact hl
  · exact hmargin.append hl

theorem Lists.onlySpaces (h : Lists ps ls) (hps : ∀ p ∈ ps, IsRead soleType p) :
    ∀ l ∈ ls, OnlySpaces l := by
  induction h with
  | nil => exact fun l hl => absurd hl List.not_mem_nil
  | @cons p ps ls gap h ih =>
    rw [List.forall_mem_cons] at hps
    intro l hl
    rcases List.mem_cons.mp hl with rfl | hl
    · exact hps.1.spaces
    · rcases List.mem_append.mp hl with hl | hl
      · rcases List.mem_append.mp hl with hl | hl
        · obtain ⟨k, hk, rfl⟩ := List.mem_map.mp hl
          exact onlySpaces_indentedLine (hps.1.spaces_desc k hk)
        · rw [List.eq_of_mem_replicate hl]
          exact fun c hc => absurd hc List.not_mem_nil
      · exact ih hps.2 l hl

/-! ## Printing -/

open Printer

theorem printDesc_eq {desc : List Text} (hdesc : ∀ l ∈ desc, IsUnbroken l) :
    printDesc desc = ended (desc.map (indentedLine descMargin)) := by
  unfold printDesc
  cases desc with
  | nil => rfl
  | cons l desc => exact indent_unlines hdesc (List.cons_ne_nil l desc)

/-- The lines of a printed parameter. -/
def entryLines (p : Param) : List Text := headLine p :: p.desc.map (indentedLine descMargin)

/-- The lines of printed parameters: a blank one stands between any two, unless they are `compact`. -/
def listLines (compact : Bool) (ps : List Param) : List Text :=
  (if compact then [] else [[]]).intercalate (ps.map entryLines)

theorem listLines_singleton (compact : Bool) (p : Param) : listLines compact [p] = entryLines p :=
  List.intercalate_singleton

theorem listLines_cons_cons (compact : Bool) (p q : Param) (ps : List Param) :
    listLines compact (p :: q :: ps) =
      entryLines p ++ (List.replicate (if compact then 0 else 1) [] ++ listLines compact (q :: ps)) := by
  unfold listLines
  rw [List.map_cons, List.map_cons, List.intercalate_cons_cons, List.append_assoc]
  cases compact <;> rfl

theorem lists_listLines (compact : Bool) (ps : List Param) : Lists ps (listLines compact ps) := by
  induction ps with
  | nil => exact .nil
  | cons p ps ih =>
    cases ps with
    | nil =>
      have hlast := Lists.cons (p := p) 0 .nil
      simpa [listLines_singleton, entryLines] using hlast
    | cons q ps =>
      rw [listLines_cons_cons, ← List.append_assoc]
      exact .cons _ ih

theorem IsRead.printResult_eq (h : IsRead soleType p) : printResult p = ended (entryLines p) := by
  unfold printResult entryLines headLine
  rw [printDesc_eq fun l hl => (h.spaces_desc l hl).isUnbroken, ended_cons, h.strip_name, h.strip_type,
    List.append_assoc]
  simp only [List.isEmpty_iff]
  rfl

/-- Where a sole word is a name, parameters and results are printed alike. -/
theorem IsRead.printParam_eq (h : IsRead false p) : printParam p = printResult p := by
  unfold printParam printResult
  congr 2
  rcases h.cases with ⟨-, hname, -⟩ | ⟨word, -, hne, heq⟩
  · rw [if_neg (c := p.name.isEmpty = true)]
    simpa using hname
  · obtain ⟨hname, htype⟩ := Prod.mk.inj heq
    rw [hname, htype]
    cases word with
    | nil => exact absurd rfl hne
    | cons c r => rfl

theorem intercalate_printed (compact : Bool) {print : Param → Text}
    (hprint : ∀ p ∈ ps, print p = ended (entryLines p)) :
    (if compact then [] else ['\n']).intercalate (ps.map print) = ended (listLines compact ps) := by
  induction ps with
  | nil => rfl
  | cons p ps ih =>
    rw [List.forall_mem_cons] at hprint
    have hrest := ih hprint.2
    cases ps with
    | nil => rw [List.map_singleton, List.intercalate_singleton, listLines_singleton, hprint.1]
    | cons q ps =>
      rw [List.map_cons] at hrest
      rw [List.map_cons, List.map_cons, List.intercalate_cons_cons, hrest, listLines_cons_cons, hprint.1,
        ended_append, ended_append, List.append_assoc]
      cases compact <;> rfl

theorem printParamList_eq (title : Text) (compact : Bool) (hps : ∀ p ∈ ps, printParam p = ended (entryLines p)) :
    printParamList title compact ps = ended (title :: replicate title.length '-' :: listLines compact ps) := by
  unfold printParamList
  rw [titled_eq, intercalate_printed compact hps, ← ended_append]
  rfl

theorem printResults_eq (title : Text) (hps : ∀ p ∈ ps, printResult p = ended (entryLines p)) :
    (printResults title ps).result =
      .ok (ended (title :: replicate title.length '-' :: listLines true ps)) := by
  have hflat : (ps.map printResult).flatten = ended (listLines true ps) := by
    rw [← intercalate_printed true hps, if_pos rfl, intercalate_nil]
  change Except.ok (titled title ++ (ps.map printResult).flatten) = _
  rw [titled_eq, hflat, ← ended_append]
  rfl

/-- The parameters are read back from the lines below the title, whatever ends a line. -/
def ReadsBack (soleType : Bool) (text : Text) (ps : List Param) : Prop :=
  ∀ lines ∈ [splitLines text, text.splitOn '\n'], ofLines soleType (lines.drop 2) = ps

theorem Lists.readsBack {title : Text} (h : Lists ps ls) (hps : ∀ p ∈ ps, IsRead soleType p)
    (hne : ps ≠ []) (htitle : IsUnbroken title) :
    ReadsBack soleType (ended (title :: replicate title.length '-' :: ls)) ps := by
  have hunbroken : ∀ l ∈ title :: replicate title.length '-' :: ls, IsUnbroken l := by
    rw [List.forall_mem_cons, List.forall_mem_cons]
    refine ⟨htitle, fun c hc => ?_, fun l hl => (h.onlySpaces hps l hl).isUnbroken⟩
    rw [List.eq_of_mem_replicate hc]
    rfl
  have hnewline : ∀ l ∈ title :: replicate title.length '-' :: ls, '\n' ∉ l := by
    intro l hl hmem
    cases hunbroken l hl '\n' hmem
  intro lines hlines
  rw [List.mem_cons, List.mem_singleton, splitLines_ended hunbroken, splitOn_ended hnewline] at hlines
  rcases hlines with rfl | rfl
  · exact h.ofLines_eq hps hne
  · exact (h.append_empty hne).ofLines_eq hps hne

/-- A section of parameters is printed as a list of parameters or of results. -/
theorem printSection_params (settings : Settings) (anyWidth : Bool) {s : Section}
    (hlayout : s.layout = .params soleType) (hs : s ≠ .receives) (ps : List Param) :
    (soleType = false ∧ ∃ compact, (printSection settings anyWidth s (.params ps)).result =
      .ok (printParamList s.title compact ps)) ∨
    (printSection settings anyWidth s (.params ps)).result = (printResults s.title ps).result := by
  cases s with
  | parameters | methods | otherParameters =>
    cases hlayout
    exact .inl ⟨rfl, _, rfl⟩
  | warns | raises | yields | returns | attributes => exact .inr rfl
  | receives => exact absurd rfl hs
  | signature | summary | extendedSummary | seeAlso | notes | warnings | references | examples | index =>
    cases hlayout

theorem ofLines_ne_nil (soleType : Bool) (first : Text) (rest : List Text) :
    ofLines soleType (first :: rest) ≠ [] := by
  unfold ofLines
  rw [dedentBody]
  cases hlines : dedentLines (first :: rest) with
  | nil => exact absurd hlines (dedentLines_ne_nil (List.cons_ne_nil first rest))
  | cons l ls => exact List.cons_ne_nil _ _

/-- **Parameters are read back from a printed section.**  They come from lines with no other white
space than spaces, the first of them not blank.  This holds for every section of parameters that is
printed, and where a sole word is a name also for the compact and the spaced layout. -/
theorem ofLines_printed (settings : Settings) (anyWidth : Bool) {s : Section}
    (hlayout : s.layout = .params soleType) (hs : s ≠ .receives) {first : Text} {rest : List Text}
    (hspaces : ∀ l ∈ first :: rest, OnlySpaces l) (hfirst : isBlank first = false) :
    (∃ text,
      (printSection settings anyWidth s (.params (ofLines soleType (first :: rest)))).result = .ok text ∧
        ReadsBack soleType text (ofLines soleType (first :: rest))) ∧
    (soleType = false → ∀ compact,
      ReadsBack soleType (printParamList s.title compact (ofLines soleType (first :: rest)))
        (ofLines soleType (first :: rest))) := by
  have hps := isRead_of_mem_ofLines soleType hspaces hfirst
  have hne := ofLines_ne_nil soleType first rest
  generalize ofLines soleType (first :: rest) = ps at hps hne ⊢
  have htitle := isUnbroken_title s
  have hparams : soleType = false → ∀ compact,
      ReadsBack soleType (printParamList s.title compact ps) ps := by
    rintro rfl compact
    have hprinted := printParamList_eq s.title compact fun p hp =>
      (hps p hp).printParam_eq.trans (hps p hp).printResult_eq
    rw [hprinted]
    exact (lists_listLines compact ps).readsBack hps hne htitle
  refine ⟨?_, hparams⟩
  rcases printSection_params settings anyWidth hlayout hs ps with ⟨hname, compact, hprinted⟩ | hprinted
  · exact ⟨_, hprinted, hparams hname compact⟩
  · -- Results are printed one way only.
    have hresults := printResults_eq s.title fun p hp => (hps p hp).printResult_eq
    exact ⟨_, hprinted.trans hresults, (lists_listLines true ps).readsBack hps hne htitle⟩

def describedLines : List Text := ["x, y : (int : 3)", "    First.", "", "      Second.", "z :"]

/-- A type with a colon, a description with a gap and a deeper line, and a name with a colon behind it. -/
theorem described_read_back :
    (∀ l ∈ describedLines, OnlySpaces l) ∧
    ofLines false describedLines =
      [⟨"x, y", "(int : 3)", ["First.", [], "  Second."]⟩, ⟨['z'], [], []⟩] ∧
    (∃ text, (printSection {} false .methods (.params (ofLines false describedLines))).result = .ok text ∧
      ReadsBack false text (ofLines false describedLines)) ∧
    ∀ compact, ReadsBack false
      (printParamList Section.methods.title compact (ofLines false describedLines))
      (ofLines false describedLines) := by
  have hspaces : ∀ l ∈ describedLines, OnlySpaces l := by decide +kernel
  have hback := ofLines_printed {} false (s := .methods) rfl (by decide) hspaces rfl
  exact ⟨hspaces, by decide +kernel, hback.1, hback.2 rfl⟩

end DocTidy.Param
