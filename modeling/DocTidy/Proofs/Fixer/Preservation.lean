import DocTidy.Proofs.Fixer
import Mathlib.Data.List.Perm.Subperm

/-!
# What fixing keeps of the documentation

Fixing renames parameters, removes some and adds others behind them, and does nothing else.  `Edited`
relates the parameters before to those that are left of them.  One match renames at most one parameter,
and the name that it gives is no longer missing afterwards.  So along all matches the names that were
given and those that are still missing are together no more than those that were missing at first
(`edited_of_matches`); placeholders are for the latter.
-/

namespace DocTidy.Fixer

open Text Relation

/-! ## Renaming and removing -/

/-- A parameter may be renamed or removed when its name is none of the signature, and a single one. -/
def IsOpen (names : List Text) (p : Param) : Prop := p.name ∉ names ∧ ',' ∉ p.name

/-- Parameters of which some got another name and some were removed.  The names that were given stand
in between. -/
inductive Edited (names : List Text) : List Param → List Text → List Param → Prop
  | nil : Edited names [] [] []
  | keep (p : Param) {ps : List Param} {given : List Text} {qs : List Param} :
    Edited names ps given qs → Edited names (p :: ps) given (p :: qs)
  | rename {p : Param} (target : Text) {ps : List Param} {given : List Text} {qs : List Param} :
    IsOpen names p → Edited names ps given qs →
      Edited names (p :: ps) (target :: given) ({ p with name := target } :: qs)
  | remove {p : Param} {ps : List Param} {given : List Text} {qs : List Param} :
    IsOpen names p → Edited names ps given qs → Edited names (p :: ps) given qs

variable {names given : List Text} {ps qs rs : List Param} {n source target place : Text}
  {c c' : Comparison} {sig : Signature} {settings : Settings}

namespace Edited

theorem refl (names : List Text) : ∀ ps, Edited names ps [] ps
  | [] => .nil
  | p :: ps => .keep p (refl names ps)

/-- One more name is given.  The parameter that gets it had its first name up to then, since `source` is
not a name that was given. -/
theorem exists_of_rename? (h : Edited names ps given qs) (hnames : source ∉ names)
    (hcomma : ',' ∉ source) (hgiven : source ∉ given) (hrename : rename? source target qs = some rs) :
    ∃ given', Edited names ps given' rs ∧ given'.Perm (target :: given) := by
  induction h generalizing rs with
  | nil => cases hrename
  | keep p h ih =>
    rw [rename?] at hrename
    split at hrename
    · rename_i hname
      have hopen : IsOpen names p := by
        rw [IsOpen, hname]
        exact ⟨hnames, hcomma⟩
      cases hrename
      exact ⟨_, .rename target hopen h, .refl _⟩
    · obtain ⟨rest, hrest, rfl⟩ := Option.map_eq_some_iff.mp hrename
      obtain ⟨given', hedited, hperm⟩ := ih hgiven hrest
      exact ⟨given', .keep p hedited, hperm⟩
  | @rename p other ps given qs hopen h ih =>
    rw [List.mem_cons, not_or] at hgiven
    rw [rename?, if_neg (Ne.symm hgiven.1)] at hrename
    obtain ⟨rest, hrest, rfl⟩ := Option.map_eq_some_iff.mp hrename
    obtain ⟨given', hedited, hperm⟩ := ih hgiven.2 hrest
    exact ⟨other :: given', .rename other hopen hedited, (hperm.cons other).trans (.swap _ _ _)⟩
  | remove hopen h ih =>
    obtain ⟨given', hedited, hperm⟩ := ih hgiven hrename
    exact ⟨given', .remove hopen hedited, hperm⟩

/-- Parameters are removed that are open; with a renamed one goes the name that it was given. -/
theorem exists_of_filter {keeps : Param → Bool} (h : Edited names ps given qs)
    (hkeeps : ∀ q ∈ qs, keeps q = false → IsOpen names q) :
    ∃ given', Edited names ps given' (qs.filter keeps) ∧ given'.Sublist given := by
  induction h with
  | nil => exact ⟨[], .nil, .refl _⟩
  | keep p h ih =>
    rw [List.forall_mem_cons] at hkeeps
    obtain ⟨given', hedited, hsublist⟩ := ih hkeeps.2
    cases hp : keeps p with
    | true =>
      rw [List.filter_cons_of_pos hp]
      exact ⟨given', .keep p hedited, hsublist⟩
    | false =>
      rw [List.filter_cons_of_neg (by simp [hp])]
      exact ⟨given', .remove (hkeeps.1 hp) hedited, hsublist⟩
  | @rename p other ps given qs hopen h ih =>
    rw [List.forall_mem_cons] at hkeeps
    obtain ⟨given', hedited, hsublist⟩ := ih hkeeps.2
    cases hp : keeps { p with name := other } with
    | true =>
      rw [List.filter_cons_of_pos hp]
      exact ⟨other :: given', .rename other hopen hedited, hsublist.cons_cons other⟩
    | false =>
      rw [List.filter_cons_of_neg (by simp [hp])]
      exact ⟨given', .remove hopen hedited, hsublist.cons other⟩
  | remove hopen h ih =>
    obtain ⟨given', hedited, hsublist⟩ := ih hkeeps
    exact ⟨given', .remove hopen hedited, hsublist⟩

end Edited

/-! ## Matching -/

theorem nodup_missing (names : List Text) (ps : List Param) :
    (comparison names ps).missing.Nodup :=
  (nodup_eraseDups names).filter _

/-- An extra name is none of the signature, and a part between commas. -/
theorem of_mem_extra (h : n ∈ (comparison names ps).extra) : n ∉ names ∧ ',' ∉ n := by
  constructor
  · have hnew := (List.mem_filter.mp (List.mem_filter.mp h).1).2
    simp only [Bool.and_eq_true, Bool.not_eq_true', ← Bool.not_eq_true, List.contains_iff_mem] at hnew
    exact hnew.1.1
  · obtain ⟨p, -, -, piece, hpiece, rfl⟩ := mem_documented.mp (mem_documented_of_mem_extra h)
    exact not_mem_strip (not_mem_of_mem_splitOn _ _ hpiece)

theorem length_rename? (h : rename? source target qs = some rs) : rs.length = qs.length := by
  obtain ⟨front, p, back, rfl, -, rfl⟩ := Fixer.exists_of_rename? h
  simp only [List.length_append, List.length_cons]

/-- **What matching does.**  The names that are given were missing, and each is given once. -/
theorem edited_of_matches (h : ReflTransGen Comparison.Matches (comparison names ps) c) :
    ∃ given, Edited names ps given c.params ∧ c.params.length = ps.length ∧
      (given ++ c.missing).Subperm (comparison names ps).missing := by
  induction h with
  | refl => exact ⟨[], .refl names ps, rfl, .refl _⟩
  | @tail now next hrun hstep ih =>
    obtain ⟨given, hedited, hlength, hgiven⟩ := ih
    obtain ⟨source, hsource, target, htarget, rfl⟩ := hstep
    show ∃ given', Edited names ps given' ((rename? source target now.params).getD now.params) ∧
      ((rename? source target now.params).getD now.params).length = ps.length ∧
        (given' ++ now.missing.erase target).Subperm _
    cases hrename : rename? source target now.params with
    | none =>
      -- No parameter has this name alone; the missing name counts as matched all the same.
      have hfewer : (given ++ now.missing.erase target).Sublist (given ++ now.missing) :=
        List.erase_sublist.append_left given
      exact ⟨given, hedited, hlength, hfewer.subperm.trans hgiven⟩
    | some rs =>
      have ⟨hnames, hcomma⟩ := of_mem_extra ((Comparison.extra_sublist hrun).subset hsource)
      have hnew : source ∉ given := by
        intro hmem
        exact hnames (of_mem_missing (hgiven.subset (List.mem_append_left _ hmem))).1
      obtain ⟨given', hedited', hperm⟩ := hedited.exists_of_rename? hnames hcomma hnew hrename
      refine ⟨given', hedited', (length_rename? hrename).trans hlength, ?_⟩
      -- The name moves from the missing ones to those that were given.
      have hmoved : (given' ++ now.missing.erase target).Perm (given ++ now.missing) :=
        calc
          (given' ++ now.missing.erase target).Perm (target :: given ++ now.missing.erase target) :=
            hperm.append_right _
          List.Perm _ (given ++ target :: now.missing.erase target) := List.perm_middle.symm
          List.Perm _ (given ++ now.missing) :=
            (List.perm_cons_erase htarget).symm.append_left given
      exact hmoved.subperm.trans hgiven

/-! ## Settling -/

theorem name_of_placeholder {p : Param} (h : (placeholder sig n).result = .ok p) : p.name = n := by
  unfold placeholder at h
  split at h
  · rw [← Except.ok.inj h]
  · cases h

theorem map_name_placeholders {ns : List Text}
    (h : (ns.mapM (placeholder sig)).result = .ok qs) : qs.map (·.name) = ns := by
  have hall := Run.mapM_eq_ok.mp h
  clear h
  induction hall with
  | nil => rfl
  | cons hp _ ih => rw [List.map_cons, name_of_placeholder hp, ih]

/-- Settling that succeeds without being told about placeholders adds none. -/
theorem exists_settle_eq {r : List Param × Bool} (h : (settle settings place sig c).result = .ok r) :
    ∃ fill, (fill = true → settings.withPlaceholder = some true) ∧
      settle settings place sig c =
        settle { settings with withPlaceholder := some fill } place sig c := by
  cases hfill : settings.withPlaceholder with
  | some fill => exact ⟨fill, congrArg some, by rw [← hfill]⟩
  | none =>
    refine ⟨false, nofun, ?_⟩
    unfold settle at h ⊢
    rw [hfill] at h ⊢
    cases hask : !c.missing.isEmpty && c.extra.isEmpty with
    | true =>
      rw [hask] at h
      cases h
    | false => rfl

/-- **What settling does**: it adds placeholders, removes extra parameters, or leaves all as they are. -/
theorem settle_eq_ok {r : List Param × Bool} (h : (settle settings place sig c).result = .ok r) :
    (settings.withPlaceholder = some true ∧ c.extra = [] ∧ ∃ added, r.1 = c.params ++ added ∧
        added.map (·.name) = c.missing.filter fun n => !isStarred n) ∨
      (Removes sig c ∧ r.1 = c.kept) ∨ r.1 = c.params := by
  obtain ⟨fill, hfill, heq⟩ := exists_settle_eq h
  rw [heq, settle_eq rfl] at h
  split at h
  · rename_i hfills
    rw [Bool.and_eq_true, Bool.and_eq_true, List.isEmpty_iff] at hfills
    obtain ⟨fixed, hfixed, hr⟩ := Run.result_bind_eq_ok.mp h
    obtain ⟨added, hadded, hparams⟩ := Run.result_bind_eq_ok.mp hfixed
    rw [← Except.ok.inj hr, ← Except.ok.inj hparams]
    exact .inl ⟨hfill hfills.2, hfills.1.2, added, rfl, map_name_placeholders hadded⟩
  · split at h
    · rename_i hremoves
      obtain ⟨fixed, hfixed, hr⟩ := Run.result_bind_eq_ok.mp h
      rw [result_removeExtra] at hfixed
      rw [← Except.ok.inj hr, ← Except.ok.inj hfixed]
      exact .inr (.inl ⟨removes_iff.mpr hremoves, rfl⟩)
    · refine .inr (.inr ?_)
      split at h
      · obtain ⟨_, -, hr⟩ := Run.result_bind_eq_ok.mp h
        rw [← Except.ok.inj hr]
      · rw [← Except.ok.inj h]

/-! ## Fixing -/

theorem isOpen_of_not_kept {p : Param} (hextra : c.extra ⊆ (comparison names ps).extra)
    (h : (!(c.extra.contains p.name && !isStrayText p)) = false) : IsOpen names p := by
  rw [Bool.not_eq_false', Bool.and_eq_true, List.contains_iff_mem] at h
  exact of_mem_extra (hextra h.1)

/-- What is left of the parameters, and what was added, after matching and settling. -/
theorem edited_of_settle {r : List Param × Bool}
    (hmatches : ReflTransGen Comparison.Matches (comparison names ps) c)
    (h : (settle settings place sig c).result = .ok r) :
    ∃ kept added given, r.1 = kept ++ added ∧ Edited names ps given kept ∧
      (given ++ added.map (·.name)).Subperm (comparison names ps).missing ∧
      (sig.varkwargs ≠ none → kept.length = ps.length) ∧
      (settings.withPlaceholder ≠ some true → added = []) ∧
      ∀ p ∈ added, isStarred p.name = false := by
  obtain ⟨given, hedited, hlength, hgiven⟩ := edited_of_matches hmatches
  have honly : (given ++ []).Subperm (comparison names ps).missing :=
    ((List.nil_sublist _).append_left given).subperm.trans hgiven
  rcases settle_eq_ok h with ⟨hsetting, -, added, hr, hnames⟩ | ⟨hremoves, hr⟩ | hr
  · -- The placeholders' names are among those still missing.
    have hadded : (given ++ added.map (·.name)).Sublist (given ++ c.missing) := by
      rw [hnames]
      exact List.filter_sublist.append_left given
    refine ⟨c.params, added, given, hr, hedited, hadded.subperm.trans hgiven, fun _ => hlength,
      fun hoff => absurd hsetting hoff, ?_⟩
    intro p hp
    have hname : p.name ∈ c.missing.filter fun n => !isStarred n := hnames ▸ List.mem_map_of_mem hp
    rw [List.mem_filter, Bool.not_eq_true'] at hname
    exact hname.2
  · have hopen : ∀ p ∈ c.params, (!(c.extra.contains p.name && !isStrayText p)) = false →
        IsOpen names p :=
      fun p _ => isOpen_of_not_kept (Comparison.extra_sublist hmatches).subset
    obtain ⟨given', hedited', hsublist⟩ := hedited.exists_of_filter hopen
    refine ⟨c.kept, [], given', ?_, hedited', ?_, fun hkeywords => absurd hremoves.2.2 hkeywords,
      fun _ => rfl, nofun⟩
    · rw [hr, List.append_nil]
    · exact (hsublist.append_right []).subperm.trans honly
  · refine ⟨c.params, [], given, ?_, hedited, honly, fun _ => hlength, fun _ => rfl, nofun⟩
    rw [hr, List.append_nil]

theorem fix_eq_ok {verdict : Verdict} (hfixers : settings.runFixers = true)
    (h : (fix settings place names sig ps).result = .ok verdict) :
    ∃ c r, ReflTransGen Comparison.Matches (comparison (withoutReceiver names) ps) c ∧
      (settle settings place sig c).result = .ok r ∧ verdict.params = r.1 := by
  obtain ⟨c, hpair, hmatches⟩ := Comparison.pair_matches place
    (nodup_extra (withoutReceiver names) ps)
  unfold fix at h
  rw [hfixers, Bool.not_true, if_neg Bool.false_ne_true] at h
  dsimp only at h
  split at h
  · cases h
  · obtain ⟨c', hpair', h⟩ := Run.result_bind_eq_ok.mp h
    obtain rfl : c' = c := Except.ok.inj (hpair'.symm.trans hpair)
    obtain ⟨r, hsettle, hverdict⟩ := Run.result_bind_eq_ok.mp h
    refine ⟨c', r, hmatches, hsettle, ?_⟩
    rw [← Except.ok.inj hverdict]

/-- **What fixing keeps.**  The parameters that fixing leaves are those before, in their order, but for
some that were renamed and some that were removed, and none of these has a name of the signature or
several names.  Behind them stand placeholders.  All new names are names of the signature that nothing
documented before, and no two of them are the same. -/
theorem fix_preserves_documentation {verdict : Verdict} (hfixers : settings.runFixers = true)
    (h : (fix settings place names sig ps).result = .ok verdict) :
    ∃ kept added given,
      verdict.params = kept ++ added ∧
      Edited (withoutReceiver names) ps given kept ∧
      (given ++ added.map (·.name)).Nodup ∧
      (∀ n ∈ given ++ added.map (·.name), n ∈ withoutReceiver names ∧ n ∉ documented ps) ∧
      (sig.varkwargs ≠ none → kept.length = ps.length) ∧
      (settings.withPlaceholder ≠ some true → added = []) ∧
      ∀ p ∈ added, isStarred p.name = false := by
  obtain ⟨c, r, hmatches, hsettle, hparams⟩ := fix_eq_ok hfixers h
  obtain ⟨kept, added, given, hr, hedited, hnew, hrest⟩ := edited_of_settle hmatches hsettle
  refine ⟨kept, added, given, hparams.trans hr, hedited, ?_, ?_, hrest⟩
  · obtain ⟨_, hperm, hsublist⟩ := hnew
    exact hperm.nodup_iff.mp ((nodup_missing _ ps).sublist hsublist)
  · intro n hn
    exact of_mem_missing (hnew.subset hn)

/-- The signature of a method that takes `a`, `b`, `c` and any further arguments. -/
def methodSignature : Signature :=
  ⟨[⟨"self", .absent⟩, ⟨"a", .absent⟩, ⟨"b", .absent⟩, ⟨"c", .name "int"⟩], some "args", some "kw"⟩

/-- What is documented of it, with a name in quotes and one that lost its star. -/
def methodParams : List Param :=
  [⟨"a", "int", ["First."]⟩, ⟨"'b'", "str", []⟩, ⟨"args", [], ["More."]⟩, ⟨"**kw", [], []⟩]

def methodFixed : List Param :=
  [⟨"a", "int", ["First."]⟩, ⟨"b", "str", []⟩, ⟨"*args", [], ["More."]⟩, ⟨"**kw", [], []⟩,
   ⟨"c", "int", ["<Multiline Description Here>"]⟩]

/-- Two parameters are renamed, none is removed, and one is added. -/
theorem method_preserved :
    (fix { withPlaceholder := some true } "f" methodSignature.names methodSignature
      methodParams).result = .ok ⟨methodFixed, false, some false⟩ ∧
    ∃ kept added given, methodFixed = kept ++ added ∧
      Edited ["a", "b", "c", "*args", "**kw"] methodParams given kept ∧
      (given ++ added.map (·.name)).Nodup ∧ kept.length = 4 := by
  have hfixed : (fix { withPlaceholder := some true } "f" methodSignature.names methodSignature
      methodParams).result = .ok ⟨methodFixed, false, some false⟩ :=
    Run.eq_ok_of_toOption (by decide +kernel)
  obtain ⟨kept, added, given, hparams, hedited, hnodup, -, hlength, -⟩ :=
    fix_preserves_documentation rfl hfixed
  exact ⟨hfixed, kept, added, given, hparams, hedited, hnodup, hlength (by decide)⟩

end DocTidy.Fixer
