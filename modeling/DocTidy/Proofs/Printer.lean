import DocTidy.Proofs.Document.Contents
import DocTidy.Proofs.Document.Ink
import DocTidy.Proofs.Text.Margin
import DocTidy.Printer

/-!
# Printed sections

Whatever a section holds, its text is empty or ends with a newline, and it has no ink but that of
the title and that of the contents.
-/

namespace DocTidy.Printer

open Text

variable {s t sep : Text}

/-- The text is empty, or ends with a newline. -/
def EndsLine (t : Text) : Prop := t = [] ∨ t.getLast? = some '\n'

theorem EndsLine.nil : EndsLine [] := .inl rfl

theorem EndsLine.append_newline (t : Text) : EndsLine (t ++ ['\n']) := .inr List.getLast?_concat

theorem EndsLine.append (hs : EndsLine s) (ht : EndsLine t) : EndsLine (s ++ t) := by
  obtain rfl | ht := ht
  · rwa [List.append_nil]
  · right
    rw [List.getLast?_append, ht]
    rfl

theorem EndsLine.of_getLast? (s : Text) (h : t.getLast? = some '\n') : EndsLine (s ++ t) := by
  right
  rw [List.getLast?_append, h]
  rfl

theorem EndsLine.flatten {ts : List Text} (h : ∀ t ∈ ts, EndsLine t) : EndsLine ts.flatten := by
  induction ts with
  | nil => exact .nil
  | cons t ts ih =>
    rw [List.flatten_cons]
    exact (h t List.mem_cons_self).append (ih fun u hu => h u (List.mem_cons_of_mem _ hu))

theorem EndsLine.intercalate {ts : List Text} (hsep : EndsLine sep) (h : ∀ t ∈ ts, EndsLine t) :
    EndsLine (sep.intercalate ts) := by
  induction ts with
  | nil => exact .nil
  | cons t ts ih =>
    have ht : EndsLine t := h t List.mem_cons_self
    have hts : EndsLine (sep.intercalate ts) := ih fun u hu => h u (List.mem_cons_of_mem _ hu)
    cases ts with
    | nil => rwa [List.intercalate_singleton]
    | cons u ts =>
      rw [List.intercalate_cons_cons]
      exact (ht.append hsep).append hts

theorem titled_eq (title : Text) : titled title = ended [title, replicate title.length '-'] := by
  rw [ended_cons, ended_cons]
  unfold titled
  simp [ended]

theorem printSummary_eq {ls : List Text} (hls : ls ≠ []) (hinked : ∀ l ∈ ls, isBlank l = false) :
    printSummary ls = ended ls := by
  unfold printSummary
  split
  · rename_i l
    rw [hinked l List.mem_cons_self, if_neg Bool.false_ne_true, ended_cons]
    rfl
  · exact unlines_append_newline hls

theorem isUnbroken_title (s : Section) : IsUnbroken s.title := by
  cases s <;> decide

theorem endsLine_titled (title : Text) : EndsLine (titled title) := EndsLine.append_newline _

theorem endsLine_printDesc (desc : List Text) : EndsLine (printDesc desc) := by
  unfold printDesc
  split
  · exact .nil
  · exact .append_newline _

theorem endsLine_printParam (p : Param) : EndsLine (printParam p) :=
  (EndsLine.append_newline _).append (endsLine_printDesc p.desc)

theorem endsLine_printResult (p : Param) : EndsLine (printResult p) :=
  (EndsLine.append_newline _).append (endsLine_printDesc p.desc)

theorem endsLine_printParams (settings : Settings) (title : Text) (ps : List Param) :
    EndsLine (printParams settings title ps) := by
  refine (endsLine_titled title).append (EndsLine.intercalate ?_ ?_)
  · split
    · exact .nil
    · exact .append_newline []
  · intro t ht
    obtain ⟨p, -, rfl⟩ := List.mem_map.mp ht
    exact endsLine_printParam p

theorem endsLine_printSummary (ls : List Text) : EndsLine (printSummary ls) := by
  unfold printSummary
  split
  · split
    · exact .nil
    · exact .append_newline _
  · exact .append_newline _

theorem endsLine_addLink {inline anyWidth : Bool} {above : Text} {l : Link}
    (h : addLink inline anyWidth above l = some t) : EndsLine t := by
  have hbelow (lines : Text) : (lines ++ ['\n']).getLast? = some '\n' := List.getLast?_concat
  unfold addLink at h
  dsimp only at h
  split at h
  · rw [← Option.some.inj h]
    exact .of_getLast? _ (hbelow _)
  · rw [← Option.some.inj h]
    exact .of_getLast? _ (hbelow _)
  · split at h
    · rw [← Option.some.inj h]
      exact .of_getLast? _ (hbelow _)
    · split at h
      · cases h
      · rw [← Option.some.inj h]
        exact .of_getLast? _ (hbelow _)

theorem endsLine_foldlM_addLink {inline anyWidth : Bool} {ls : List Link} {above : Text}
    (habove : EndsLine above) (h : ls.foldlM (addLink inline anyWidth) above = some t) :
    EndsLine t := by
  induction ls generalizing above with
  | nil => exact Option.some.inj h ▸ habove
  | cons l ls ih =>
    rw [List.foldlM_cons, Option.bind_eq_bind, Option.bind_eq_some_iff] at h
    obtain ⟨next, hnext, h⟩ := h
    exact ih (endsLine_addLink hnext) h

theorem endsLine_linksTitle (settings : Settings) : EndsLine (titled Section.seeAlso.title ++
    if settings.spaceInSeeAlsoTitle then ['\n'] else []) := by
  refine (endsLine_titled _).append ?_
  split
  · exact .append_newline []
  · exact .nil

theorem endsLine_printLinks {settings : Settings} {anyWidth : Bool} {ls : List Link}
    (h : printLinks settings anyWidth ls = some t) : EndsLine t := by
  unfold printLinks at h
  cases hinline : printLinksAs? settings true anyWidth ls with
  | some u =>
    rw [hinline, Option.orElse_some] at h
    rw [← Option.some.inj h]
    exact endsLine_foldlM_addLink (endsLine_linksTitle settings) hinline
  | none =>
    -- A description did not fit in the line of its names: all of them stand below.
    rw [hinline, Option.orElse_none] at h
    exact endsLine_foldlM_addLink (endsLine_linksTitle settings) h

/-- What is computed from the contents of a section ends with a newline if every result does. -/
theorem endsLine_of_bind {α : Type} {r : Except Error α} {f : α → Run Text}
    (h : (Run.ofExcept r >>= f).result = .ok t) (hf : ∀ a, (f a).result = .ok t → EndsLine t) :
    EndsLine t := by
  obtain ⟨a, -, h⟩ := Run.result_bind_eq_ok.mp h
  exact hf a h

theorem endsLine_of_pure {u : Text} (h : (pure u : Run Text).result = .ok t) (hu : EndsLine u) :
    EndsLine t := by
  rw [Run.result_pure] at h
  exact Except.ok.inj h ▸ hu

theorem endsLine_printResults {title : Text} {ps : List Param}
    (h : (printResults title ps).result = .ok t) : EndsLine t := by
  rw [← Except.ok.inj h]
  refine (endsLine_titled title).append (.flatten fun u hu => ?_)
  obtain ⟨p, -, rfl⟩ := List.mem_map.mp hu
  exact endsLine_printResult p

/-- **The text of a section ends with a newline**, unless it is empty. -/
theorem endsLine_printSection {settings : Settings} {anyWidth : Bool} {s : Section} {c : Content}
    (h : (printSection settings anyWidth s c).result = .ok t) : EndsLine t := by
  have hlines (title : Text) (spaced : Bool) (ls : List Text) :
      EndsLine (printLines title spaced ls) := .append_newline _
  cases s with
  | signature =>
    cases c with
    | text u => exact endsLine_of_pure h (.append_newline u)
    | _ => cases h
  | summary => exact endsLine_of_bind h fun ls h => endsLine_of_pure h (endsLine_printSummary ls)
  | extendedSummary => exact endsLine_of_bind h fun ls h => endsLine_of_pure h (.append_newline _)
  | parameters | methods | otherParameters =>
    exact endsLine_of_bind h fun ps h => endsLine_of_pure h (endsLine_printParams _ _ ps)
  | warns | raises | yields | returns | attributes =>
    exact endsLine_of_bind h fun _ => endsLine_printResults
  | seeAlso =>
    refine endsLine_of_bind h fun ls h => ?_
    split at h
    · rename_i u hu
      exact endsLine_of_pure h (endsLine_printLinks hu)
    · exact endsLine_of_pure h .nil
  | notes | references | examples | warnings =>
    exact endsLine_of_bind h fun ls h => endsLine_of_pure h (hlines _ _ ls)
  | receives | index => cases h

/-! ## Ink -/

theorem ink_printDesc (desc : List Text) : ink (printDesc desc) = inkOf desc := by
  unfold printDesc
  split
  · rename_i hnil
    rw [List.isEmpty_iff.mp hnil]
    rfl
  · rw [ink_append, indent_eq_indentFrom, ink_indentFrom (by decide), ink_unlines]
    rfl

theorem ink_printParam_le (p : Param) : ink (printParam p) ≤ p.ink := by
  have hcolon : ink (" : " : Text) = 0 := rfl
  have hnewline : ink ("\n" : Text) = 0 := rfl
  unfold printParam Param.ink
  rw [ink_append, ink_append, ink_printDesc, hnewline]
  split
  · rw [ink_strip]
    omega
  · rw [ink_append, ink_append, ink_strip, ink_strip, hcolon]
    omega

theorem ink_printResult_le (p : Param) : ink (printResult p) ≤ p.ink := by
  have hcolon : ink (" : " : Text) = 0 := rfl
  have hnewline : ink ("\n" : Text) = 0 := rfl
  unfold printResult Param.ink
  rw [ink_append, ink_append, ink_printDesc, hnewline]
  split
  · rw [ink_strip]
    omega
  · split
    · rw [ink_strip]
      omega
    · rw [ink_append, ink_append, ink_strip, ink_strip, hcolon]
      omega

theorem inkOf_map_le {α : Type} {f : α → Text} {weight : α → Nat} (h : ∀ a, ink (f a) ≤ weight a)
    (as : List α) : inkOf (as.map f) ≤ (as.map weight).sum := by
  induction as with
  | nil => exact Nat.le_refl _
  | cons a as ih =>
    have ha := h a
    rw [List.map_cons, List.map_cons, inkOf_cons, List.sum_cons]
    omega

theorem ink_flatten (ts : List Text) : ink ts.flatten = inkOf ts := by
  induction ts with
  | nil => rfl
  | cons t ts ih => rw [List.flatten_cons, ink_append, ih, inkOf_cons]

theorem ink_printParams_le (settings : Settings) (title : Text) (ps : List Param) :
    ink (printParams settings title ps) ≤ ink (titled title) + (ps.map Param.ink).sum := by
  have hps := inkOf_map_le ink_printParam_le ps
  have hsep : ink (if !hasGap ps || settings.compactParam then [] else ['\n']) = 0 := by
    split <;> rfl
  unfold printParams printParamList
  rw [ink_append, ink_intercalate hsep]
  omega

theorem ink_printLinkName (n : LinkName) : ink (printLinkName n) = n.ink := by
  have hcolon : ink (":" : Text) = 0 := rfl
  have htick : ink ("\x60" : Text) = 0 := rfl
  have hmarks : ink (":\x60" : Text) = 0 := rfl
  unfold printLinkName LinkName.ink
  cases n.role with
  | none => rfl
  | some role =>
    simp only [Option.getD_some, ink_append]
    omega

theorem ink_addLink_le {inline anyWidth : Bool} {above : Text} {l : Link}
    (h : addLink inline anyWidth above l = some t) : ink t ≤ ink above + l.ink := by
  have hnamed : ink (above ++ (", " : Text).intercalate (l.names.map printLinkName)) ≤
      ink above + (l.names.map LinkName.ink).sum := by
    have := inkOf_map_le (fun n => (ink_printLinkName n).le) l.names
    rw [ink_append, ink_intercalate rfl]
    omega
  have hbelow : ink ((l.desc.drop 1).flatMap (fun line => ("\n    " : Text) ++ line) ++
      ("\n" : Text)) ≤ inkOf (l.desc.drop 1) := by
    have hlines (ls : List Text) :
        ink (ls.flatMap fun line => ("\n    " : Text) ++ line) = inkOf ls := by
      rw [List.flatMap_def, ink_flatten, inkOf_map]
      exact fun line => (ink_append _ line).trans (Nat.zero_add _)
    rw [ink_append, hlines]
    exact Nat.le_refl _
  have hcolon : ink (" : " : Text) = 0 := rfl
  have hcolonLine : ink (" :\n    " : Text) = 0 := rfl
  unfold addLink at h
  dsimp only at h
  unfold Link.ink
  split at h
  · have hrest := inkOf_le_of_sublist (List.drop_sublist 1 l.desc)
    rw [← Option.some.inj h, ink_append]
    omega
  · have hrest := inkOf_le_of_sublist (List.drop_sublist 1 l.desc)
    rw [← Option.some.inj h, ink_append]
    omega
  · rename_i first rest _ hdesc
    have hfirst : inkOf l.desc = ink first + inkOf (l.desc.drop 1) := by
      rw [hdesc]
      simp
    split at h
    · rw [← Option.some.inj h, ink_append, ink_append, ink_append, hcolonLine]
      omega
    · split at h
      · cases h
      · rw [← Option.some.inj h, ink_append, ink_append, ink_append, hcolon]
        omega

theorem ink_foldlM_addLink_le {inline anyWidth : Bool} {ls : List Link} {above : Text}
    (h : ls.foldlM (addLink inline anyWidth) above = some t) :
    ink t ≤ ink above + (ls.map Link.ink).sum := by
  induction ls generalizing above with
  | nil => exact (congrArg ink (Option.some.inj h)).ge
  | cons l ls ih =>
    rw [List.foldlM_cons, Option.bind_eq_bind, Option.bind_eq_some_iff] at h
    obtain ⟨next, hnext, h⟩ := h
    have hl := ink_addLink_le hnext
    have hls := ih h
    rw [List.map_cons, List.sum_cons]
    omega

theorem ink_printLinksAs?_le {settings : Settings} {inline anyWidth : Bool} {ls : List Link}
    (h : printLinksAs? settings inline anyWidth ls = some t) :
    ink t ≤ ink (titled Section.seeAlso.title) + (ls.map Link.ink).sum := by
  have habove : ink (titled Section.seeAlso.title ++
      if settings.spaceInSeeAlsoTitle then ['\n'] else []) = ink (titled Section.seeAlso.title) := by
    rw [ink_append]
    split <;> rfl
  have := ink_foldlM_addLink_le h
  omega

theorem ink_asParams_le {c : Content} {ps : List Param} (h : asParams c = .ok ps) :
    (ps.map Param.ink).sum ≤ c.ink := by
  unfold asParams at h
  split at h
  · rw [← Except.ok.inj h]
    exact Nat.le_refl _
  · split at h
    · rw [← Except.ok.inj h]
      exact Nat.zero_le _
    · split at h <;> cases h

theorem ink_asLinks_le {c : Content} {ls : List Link} (h : asLinks c = .ok ls) :
    (ls.map Link.ink).sum ≤ c.ink := by
  unfold asLinks at h
  split at h
  · rw [← Except.ok.inj h]
    exact Nat.le_refl _
  · split at h
    · rw [← Except.ok.inj h]
      exact Nat.zero_le _
    · cases h

/-- Only lines fit a section of lines, apart from the signature. -/
theorem exists_lines_of_fits {s : Section} {c : Content} (hc : c.Fits s) (hlayout : s.layout = .lines)
    (hs : s ≠ .signature) : ∃ ls, c = .lines ls := by
  cases c with
  | lines ls => exact ⟨ls, rfl⟩
  | text t => exact absurd hc hs
  | params ps =>
    obtain ⟨soleType, hparams⟩ := hc
    exact absurd (hlayout.symm.trans hparams) (by simp)
  | links ls => exact absurd (hlayout.symm.trans hc) (by simp)
  | data v => cases hc

theorem exists_params_of_fits {s : Section} {c : Content} {soleType : Bool} (hc : c.Fits s)
    (hlayout : s.layout = .params soleType) : ∃ ps, c = .params ps := by
  cases c with
  | params ps => exact ⟨ps, rfl⟩
  | text t =>
    obtain rfl : s = .signature := hc
    cases hlayout
  | lines ls | links ls => exact absurd (hlayout.symm.trans hc) (by simp)
  | data v => cases hc

theorem exists_links_of_fits {s : Section} {c : Content} (hc : c.Fits s)
    (hlayout : s.layout = .links) : ∃ ls, c = .links ls := by
  cases c with
  | links ls => exact ⟨ls, rfl⟩
  | text t =>
    obtain rfl : s = .signature := hc
    cases hlayout
  | lines ls => exact absurd (hlayout.symm.trans hc) (by simp)
  | params ps =>
    obtain ⟨soleType, hparams⟩ := hc
    exact absurd (hlayout.symm.trans hparams) (by simp)
  | data v => cases hc

/-! ## Titles -/

theorem exists_addLink (anyWidth : Bool) (above : Text) (l : Link) :
    ∃ t, addLink false anyWidth above l = some t := by
  unfold addLink
  dsimp only
  split
  · exact ⟨_, rfl⟩
  · exact ⟨_, rfl⟩
  · rw [if_pos (by simp)]
    exact ⟨_, rfl⟩

theorem addLink_extends {inline anyWidth : Bool} {above : Text} {l : Link}
    (h : addLink inline anyWidth above l = some t) : above <+: t := by
  unfold addLink at h
  dsimp only at h
  split at h
  · rw [← Option.some.inj h, List.append_assoc]
    exact List.prefix_append _ _
  · rw [← Option.some.inj h, List.append_assoc]
    exact List.prefix_append _ _
  · split at h
    · rw [← Option.some.inj h]
      simp only [List.append_assoc, List.prefix_append]
    · split at h
      · cases h
      · rw [← Option.some.inj h]
        simp only [List.append_assoc, List.prefix_append]

theorem foldlM_addLink_extends {inline anyWidth : Bool} {ls : List Link} {above : Text}
    (h : ls.foldlM (addLink inline anyWidth) above = some t) : above <+: t := by
  induction ls generalizing above with
  | nil => exact Option.some.inj h ▸ List.prefix_rfl
  | cons l ls ih =>
    rw [List.foldlM_cons, Option.bind_eq_bind, Option.bind_eq_some_iff] at h
    obtain ⟨next, hnext, h⟩ := h
    exact (addLink_extends hnext).trans (ih h)

/-- Below the names there is always room. -/
theorem exists_foldlM_addLink (anyWidth : Bool) (ls : List Link) (above : Text) :
    ∃ t, ls.foldlM (addLink false anyWidth) above = some t := by
  induction ls generalizing above with
  | nil => exact ⟨above, rfl⟩
  | cons l ls ih =>
    obtain ⟨next, hnext⟩ := exists_addLink anyWidth above l
    rw [List.foldlM_cons, hnext]
    exact ih next

/-- Links can always be printed: where their descriptions do not fit in the line, they stand below
the names. -/
theorem exists_printLinks (settings : Settings) (anyWidth : Bool) (ls : List Link) :
    ∃ inline t, printLinks settings anyWidth ls = some t ∧
      printLinksAs? settings inline anyWidth ls = some t := by
  unfold printLinks
  cases hinline : printLinksAs? settings true anyWidth ls with
  | some t => exact ⟨true, t, rfl, hinline⟩
  | none =>
    obtain ⟨t, ht⟩ := exists_foldlM_addLink anyWidth ls (titled Section.seeAlso.title ++
      if settings.spaceInSeeAlsoTitle then ['\n'] else [])
    exact ⟨false, t, ht, ht⟩

/-- **A titled section begins with its title.** -/
theorem titled_printSection {settings : Settings} {anyWidth : Bool} {s : Section} {c : Content}
    (hs : s.hasTitle = true) (h : (printSection settings anyWidth s c).result = .ok t) :
    titled s.title <+: t := by
  have hlines (title : Text) (spaced : Bool) (ls : List Text) :
      titled title <+: printLines title spaced ls := by
    simp only [printLines, List.append_assoc, List.prefix_append]
  cases s with
  | signature | summary | extendedSummary => cases hs
  | parameters | methods | otherParameters =>
    obtain ⟨ps, -, h⟩ := Run.result_bind_eq_ok.mp h
    exact Except.ok.inj h ▸ List.prefix_append _ _
  | warns | raises | yields | returns | attributes =>
    obtain ⟨ps, -, h⟩ := Run.result_bind_eq_ok.mp h
    exact Except.ok.inj h ▸ List.prefix_append _ _
  | seeAlso =>
    obtain ⟨ls, -, h⟩ := Run.result_bind_eq_ok.mp h
    obtain ⟨inline, u, hu, hextends⟩ := exists_printLinks settings anyWidth ls
    rw [hu] at h
    exact Except.ok.inj h ▸ (List.prefix_append _ _).trans (foldlM_addLink_extends hextends)
  | notes | references | examples | warnings =>
    obtain ⟨ls, -, h⟩ := Run.result_bind_eq_ok.mp h
    exact Except.ok.inj h ▸ hlines _ _ ls
  | receives | index => cases h

theorem ink_printSummary_le (ls : List Text) : ink (printSummary ls) ≤ inkOf ls := by
  have hnewline : ink ("\n" : Text) = 0 := rfl
  unfold printSummary
  split
  · rw [inkOf_cons]
    split
    · exact Nat.zero_le _
    · rw [ink_append, hnewline]
      exact Nat.le_add_right _ _
  · rw [ink_append, ink_unlines, hnewline]
    exact Nat.le_refl _

theorem ink_printLines (title : Text) (spaced : Bool) (ls : List Text) :
    ink (printLines title spaced ls) = ink (titled title) + inkOf ls := by
  have hgap : ink (if spaced then ['\n'] else []) = 0 := by split <;> rfl
  have hnewline : ink ("\n" : Text) = 0 := rfl
  unfold printLines
  rw [ink_append, ink_append, ink_append, ink_unlines, hgap, hnewline]
  omega

theorem ink_printResults_le {title : Text} {ps : List Param}
    (h : (printResults title ps).result = .ok t) :
    ink t ≤ ink (titled title) + (ps.map Param.ink).sum := by
  have hps := inkOf_map_le ink_printResult_le ps
  rw [← Except.ok.inj h, ink_append, ink_flatten]
  omega

/-- **No ink but that of the title and the contents.** -/
theorem ink_printSection_le {settings : Settings} {anyWidth : Bool} {s : Section} {c : Content}
    (hc : c.Fits s) (h : (printSection settings anyWidth s c).result = .ok t) :
    ink t ≤ (if s.hasTitle then ink (titled s.title) else 0) + c.ink := by
  have hnewline : ink ("\n" : Text) = 0 := rfl
  -- The sections fall into families that are printed alike; two of them are never printed.
  cases s with
  | signature =>
    cases c with
    | text u =>
      rw [← Except.ok.inj h, ink_append, hnewline]
      exact Nat.le_add_left _ _
    | _ => cases h
  | summary =>
    obtain ⟨ls, rfl⟩ := exists_lines_of_fits hc rfl (by simp)
    rw [← Except.ok.inj h]
    exact (ink_printSummary_le ls).trans (Nat.le_add_left _ _)
  | extendedSummary =>
    obtain ⟨ls, rfl⟩ := exists_lines_of_fits hc rfl (by simp)
    rw [← Except.ok.inj h, ink_append, ink_unlines, hnewline]
    exact Nat.le_add_left _ _
  | parameters | methods | otherParameters =>
    obtain ⟨ps, hps, h⟩ := Run.result_bind_eq_ok.mp h
    rw [← Except.ok.inj h]
    exact (ink_printParams_le ..).trans (Nat.add_le_add_left (ink_asParams_le hps) _)
  | warns | raises | yields | returns | attributes =>
    obtain ⟨ps, hps, h⟩ := Run.result_bind_eq_ok.mp h
    exact (ink_printResults_le h).trans (Nat.add_le_add_left (ink_asParams_le hps) _)
  | seeAlso =>
    obtain ⟨ls, hls, h⟩ := Run.result_bind_eq_ok.mp h
    obtain ⟨inline, u, hu, hprinted⟩ := exists_printLinks settings anyWidth ls
    rw [hu] at h
    rw [← Except.ok.inj h]
    exact (ink_printLinksAs?_le hprinted).trans (Nat.add_le_add_left (ink_asLinks_le hls) _)
  | notes | references | examples | warnings =>
    obtain ⟨ls, rfl⟩ := exists_lines_of_fits hc rfl (by simp)
    rw [← Except.ok.inj h, ink_printLines]
    exact Nat.le_refl _
  | receives | index => cases h

/-! ## Contents that can be printed -/

/-- There is a printer for the contents of a section.  There is none for what is received and for the
index; a signature is printed only if it is a text, and all else only if it has the layout of the
section. -/
def canPrint (s : Section) (c : Content) : Bool :=
  match s with
  | .receives | .index => false
  | .signature => match c with | .text _ => true | _ => false
  | _ =>
    match s.layout with
    | .lines => (asLines c).isOk
    | .params _ => (asParams c).isOk
    | .links => (asLinks c).isOk

theorem exists_bind_eq_ok_iff {α : Type} {r : Except Error α} {f : α → Run Text}
    (hf : ∀ a, ∃ t, (f a).result = .ok t) :
    (∃ t, (Run.ofExcept r >>= f).result = .ok t) ↔ r.isOk = true := by
  cases r with
  | error e =>
    constructor
    · rintro ⟨t, h⟩
      cases h
    · intro h
      cases h
  | ok a =>
    obtain ⟨t, ht⟩ := hf a
    exact ⟨fun _ => rfl, fun _ => ⟨t, ht⟩⟩

theorem printSection_succeeds_iff (settings : Settings) (anyWidth : Bool) (s : Section) (c : Content) :
    (∃ t, (printSection settings anyWidth s c).result = .ok t) ↔ canPrint s c = true := by
  cases s with
  | signature =>
    cases c with
    | text t => exact ⟨fun _ => rfl, fun _ => ⟨_, rfl⟩⟩
    | lines ls | params ps | links ls | data v =>
      constructor
      · rintro ⟨t, h⟩
        cases h
      · intro h
        cases h
  | seeAlso =>
    refine exists_bind_eq_ok_iff fun ls => ?_
    obtain ⟨_, t, ht, -⟩ := exists_printLinks settings anyWidth ls
    rw [ht]
    exact ⟨t, rfl⟩
  | receives | index =>
    constructor
    · rintro ⟨t, h⟩
      cases h
    · intro h
      cases h
  | _ => exact exists_bind_eq_ok_iff fun _ => ⟨_, rfl⟩

/-- Contents that fit a section can be printed, but for three sections. -/
theorem canPrint_of_fits {s : Section} {c : Content} (hc : c.Fits s)
    (hs : s ≠ .receives ∧ s ≠ .index ∧ s ≠ .signature) : canPrint s c = true := by
  cases s with
  | receives | index | signature => simp at hs
  | summary | extendedSummary | notes | references | examples | warnings =>
    obtain ⟨ls, rfl⟩ := exists_lines_of_fits hc rfl hs.2.2
    rfl
  | parameters | methods | otherParameters | warns | raises | yields | returns | attributes =>
    obtain ⟨ps, rfl⟩ := exists_params_of_fits hc rfl
    rfl
  | seeAlso =>
    obtain ⟨ls, rfl⟩ := exists_links_of_fits hc rfl
    rfl

end DocTidy.Printer
