import DocTidy.Fixer
import DocTidy.Proofs.Run
import DocTidy.Proofs.Text.Dedent
import Mathlib.Logic.Relation

/-!
# What fixing does to parameters

Names are matched one pair at a time.  `Matches` says what one match does, and `pair_matches` that
pairing consists of such matches and never fails.  Every match leaves a parameter behind that the
removal of extra ones spares, so fixing loses all parameters only where it had nothing to match:
`fix_cases` says when fixing succeeds, and when it leaves no parameter.
-/

namespace DocTidy.Fixer

open Text Relation

variable {names : List Text} {ps qs : List Param} {n source target place : Text}
  {c c' : Comparison} {sig : Signature} {settings : Settings}

/-! ## The names that are compared -/

theorem mem_documented :
    n ∈ documented ps ↔ ∃ p ∈ ps, p.name ≠ [] ∧ ∃ piece ∈ p.name.splitOn ',', strip piece = n := by
  unfold documented
  simp only [List.mem_flatMap, List.isEmpty_iff]
  refine exists_congr fun p => and_congr_right fun _ => ?_
  by_cases hname : p.name = []
  · simp [hname]
  · rw [if_neg hname, List.mem_map]
    exact ⟨fun h => ⟨hname, h⟩, And.right⟩

/-- A parameter whose whole name is documented somewhere has no other name. -/
theorem eq_name_of_mem_documented {p : Param} (hname : p.name ∈ documented ps)
    (hn : n ∈ documented [p]) : n = p.name := by
  obtain ⟨q, -, -, piece, hpiece, hstrip⟩ := mem_documented.mp hname
  -- Pieces between commas hold no comma, and stripped once they stay as they are.
  have hcomma : ',' ∉ p.name := by
    rw [← hstrip]
    exact not_mem_strip (not_mem_of_mem_splitOn _ _ hpiece)
  have hself : strip p.name = p.name := by rw [← hstrip, strip_strip]
  obtain ⟨p', hp', -, piece', hpiece', rfl⟩ := mem_documented.mp hn
  obtain rfl := List.mem_singleton.mp hp'
  rw [List.splitOn_eq_singleton hcomma, List.mem_singleton] at hpiece'
  rw [hpiece', hself]

/-- The comparison that fixing starts from. -/
def comparison (names : List Text) (ps : List Param) : Comparison :=
  ⟨ps, namesMissing names ps, (namesExtra names ps).filter fun n => !isTemplate n⟩

theorem of_mem_missing (h : n ∈ (comparison names ps).missing) :
    n ∈ names ∧ n ∉ documented ps := by
  obtain ⟨hmem, hnew⟩ := List.mem_filter.mp h
  rw [Bool.and_eq_true, Bool.not_eq_true', ← Bool.not_eq_true, List.contains_iff_mem] at hnew
  exact ⟨List.mem_eraseDups.mp hmem, hnew.1⟩

theorem mem_documented_of_mem_extra (h : n ∈ (comparison names ps).extra) : n ∈ documented ps :=
  List.mem_eraseDups.mp (List.mem_filter.mp (List.mem_filter.mp h).1).1

theorem nodup_extra (names : List Text) (ps : List Param) :
    (comparison names ps).extra.Nodup :=
  ((nodup_eraseDups _).filter _).filter _

/-! ## Renaming -/

theorem rename?_eq_none_iff : rename? source target ps = none ↔ ∀ p ∈ ps, p.name ≠ source := by
  induction ps with
  | nil => simp [rename?]
  | cons p ps ih =>
    rw [rename?, List.forall_mem_cons]
    split
    · rename_i hname
      simp [hname]
    · rename_i hname
      rw [Option.map_eq_none_iff, ih]
      exact ⟨fun h => ⟨hname, h⟩, And.right⟩

/-- The first parameter of a name has another name afterwards, and the others are as before. -/
theorem exists_of_rename? (h : rename? source target ps = some qs) :
    ∃ front p back, ps = front ++ p :: back ∧ p.name = source ∧
      qs = front ++ { p with name := target } :: back := by
  induction ps generalizing qs with
  | nil => cases h
  | cons p ps ih =>
    rw [rename?] at h
    split at h
    · rename_i hname
      exact ⟨[], p, ps, rfl, hname, (Option.some.inj h).symm⟩
    · obtain ⟨rest, hrest, rfl⟩ := Option.map_eq_some_iff.mp h
      obtain ⟨front, q, back, rfl, hname, rfl⟩ := ih hrest
      exact ⟨p :: front, q, back, rfl, hname, rfl⟩

/-! ## Matching one pair of names -/

namespace Comparison

/-- An extra name is matched with a missing one. -/
def Matches (c c' : Comparison) : Prop :=
  ∃ source ∈ c.extra, ∃ target ∈ c.missing, c' = c.matchUp source target

/-- Two comparisons of the same names, which may be listed in another order. -/
structure Alike (c d : Comparison) : Prop where
  params : c.params = d.params
  missing : c.missing.Perm d.missing
  extra : c.extra.Perm d.extra

/-- **Matching does not depend on the order of the names.**  Whatever a comparison is matched to, one
with the same names in another order can be matched to as well. -/
theorem Alike.exists_matches {d : Comparison} (halike : c.Alike d) (h : ReflTransGen Matches c c') :
    ∃ d', ReflTransGen Matches d d' ∧ c'.Alike d' := by
  induction h with
  | refl => exact ⟨d, .refl, halike⟩
  | tail _ hstep ih =>
    obtain ⟨d', hd', hparams, hmissing, hextra⟩ := ih
    obtain ⟨source, hsource, target, htarget, rfl⟩ := hstep
    refine ⟨d'.matchUp source target, hd'.tail ⟨source, hextra.mem_iff.mp hsource, target,
      hmissing.mem_iff.mp htarget, rfl⟩, ?_, hmissing.erase target, hextra.erase source⟩
    simp only [matchUp, hparams]

theorem extra_sublist (h : ReflTransGen Matches c c') : c'.extra.Sublist c.extra := by
  induction h with
  | refl => exact List.Sublist.refl _
  | tail _ hstep ih =>
    obtain ⟨source, -, target, -, rfl⟩ := hstep
    exact List.erase_sublist.trans ih

theorem missing_sublist (h : ReflTransGen Matches c c') : c'.missing.Sublist c.missing := by
  induction h with
  | refl => exact List.Sublist.refl _
  | tail _ hstep ih =>
    obtain ⟨source, -, target, -, rfl⟩ := hstep
    exact List.erase_sublist.trans ih

theorem eq_of_missing_eq_nil (h : ReflTransGen Matches c c') (hmissing : c.missing = []) :
    c' = c := by
  obtain rfl | ⟨next, ⟨source, -, target, htarget, -⟩, -⟩ := ReflTransGen.cases_head h
  · rfl
  · rw [hmissing] at htarget
    cases htarget

/-! ## Pairing is matching -/

theorem restoreStars_matches (c : Comparison) (stars : Text) :
    ReflTransGen Matches c (c.restoreStars stars) := by
  unfold restoreStars
  split
  · rename_i target hfind
    have htarget : target ∈ c.missing := List.mem_of_find?_eq_some hfind
    have hsome := List.find?_some hfind
    obtain ⟨source, hsource, hstars⟩ := List.any_eq_true.mp hsome
    obtain rfl := beq_iff_eq.mp hstars
    refine .single ⟨source, hsource, _, htarget, ?_⟩
    rw [List.drop_left]
  · exact .refl

/-- Taking quotes off a name matches that name or none. -/
theorem unquote_matches (hn : n ∈ c.extra) :
    ∃ c', (c.unquote n).result = .ok c' ∧ ReflTransGen Matches c c' ∧
      ∀ m ∈ c.extra, m ≠ n → m ∈ c'.extra := by
  unfold unquote
  split
  · rename_i bare _
    by_cases hbare : bare ∈ c.missing
    · rw [if_pos (List.contains_iff_mem.mpr hbare)]
      exact ⟨_, rfl, .single ⟨n, hn, bare, hbare, rfl⟩, fun m hm hne =>
        (List.mem_erase_of_ne hne).mpr hm⟩
    · rw [if_neg (mt List.contains_iff_mem.mp hbare)]
      exact ⟨c, rfl, .refl, fun m hm _ => hm⟩
  · exact ⟨c, rfl, .refl, fun m hm _ => hm⟩

theorem foldlM_unquote_matches {ns : List Text} (hnodup : ns.Nodup) (hextra : ∀ m ∈ ns, m ∈ c.extra) :
    ∃ c', (ns.foldlM unquote c).result = .ok c' ∧ ReflTransGen Matches c c' := by
  induction ns generalizing c with
  | nil => exact ⟨c, rfl, .refl⟩
  | cons n ns ih =>
    rw [List.nodup_cons] at hnodup
    obtain ⟨next, hnext, hmatches, hothers⟩ := unquote_matches (hextra n List.mem_cons_self)
    -- The names that are still to come differ from this one, so they are still extra.
    have hrest : ∀ m ∈ ns, m ∈ next.extra := by
      intro m hm
      refine hothers m (hextra m (List.mem_cons_of_mem _ hm)) ?_
      rintro rfl
      exact hnodup.1 hm
    obtain ⟨c', hc', hmatches'⟩ := ih hnodup.2 hrest
    refine ⟨c', ?_, hmatches.trans hmatches'⟩
    rw [List.foldlM_cons, Run.result_bind_eq_ok]
    exact ⟨next, hnext, hc'⟩

theorem renameLast_matches (place : Text) (c : Comparison) :
    ∃ c', (c.renameLast place).result = .ok c' ∧ ReflTransGen Matches c c' := by
  obtain ⟨ps, missing, extra⟩ := c
  unfold renameLast
  dsimp only
  split
  · rename_i target source
    by_cases hrename : mayRename source target = true
    · rw [if_pos hrename]
      cases hparams : rename? source target ps with
      | none => exact ⟨_, rfl, .refl⟩
      | some qs =>
        refine ⟨⟨qs, [], []⟩, rfl, .single ⟨source, List.mem_singleton_self _, target,
          List.mem_singleton_self _, ?_⟩⟩
        simp [matchUp, hparams]
    · rw [if_neg hrename]
      exact ⟨_, rfl, .refl⟩
  · exact ⟨_, rfl, .refl⟩

/-- **Pairing never fails, and all it does is to match names.** -/
theorem pair_matches (place : Text) (hextra : c.extra.Nodup) :
    ∃ c', (c.pair place).result = .ok c' ∧ ReflTransGen Matches c c' := by
  unfold pair
  by_cases hnone : (c.missing.isEmpty || c.extra.isEmpty) = true
  · rw [if_pos hnone]
    exact ⟨c, rfl, .refl⟩
  · rw [if_neg hnone]
    -- Names are unquoted one after the other; each is extra until its turn, since no name repeats.
    have hstars : ReflTransGen Matches c ((c.restoreStars "*").restoreStars "**") :=
      (restoreStars_matches c _).trans (restoreStars_matches _ _)
    obtain ⟨c₁, hc₁, hquotes⟩ := foldlM_unquote_matches (hextra.sublist (extra_sublist hstars))
      fun m hm => hm
    obtain ⟨c₂, hc₂, hlast⟩ := renameLast_matches place c₁
    exact ⟨c₂, Run.result_bind_eq_ok.mpr ⟨c₁, hc₁, hc₂⟩, (hstars.trans hquotes).trans hlast⟩

/-! ## A match leaves something behind -/

/-- The first match leaves a parameter that no extra name names: the renamed one or, if the extra
name was only a part of a name, the one of which it is a part. -/
theorem Matches.leaves (h : (comparison names ps).Matches c) :
    ∃ p ∈ c.params, p.name ∉ (comparison names ps).extra := by
  obtain ⟨source, hsource, target, htarget, rfl⟩ := h
  change ∃ p ∈ (rename? source target ps).getD ps, _
  cases hrename : rename? source target ps with
  | some qs =>
    obtain ⟨front, p, back, -, -, rfl⟩ := exists_of_rename? hrename
    -- The new name was missing, so it is not among the documented ones.
    refine ⟨{ p with name := target }, by simp, fun hextra => ?_⟩
    exact (of_mem_missing htarget).2 (mem_documented_of_mem_extra hextra)
  | none =>
    obtain ⟨p, hp, hpieces⟩ := mem_documented.mp (mem_documented_of_mem_extra hsource)
    refine ⟨p, hp, fun hextra => rename?_eq_none_iff.mp hrename p hp ?_⟩
    have hpart : source ∈ documented [p] := mem_documented.mpr ⟨p, List.mem_singleton_self p, hpieces⟩
    exact (eq_name_of_mem_documented (mem_documented_of_mem_extra hextra) hpart).symm

/-- Later matches do not touch a parameter that no extra name names. -/
theorem Matches.keeps {extra : List Text} (h : c.Matches c') (hextra : c.extra ⊆ extra)
    (hleft : ∃ p ∈ c.params, p.name ∉ extra) : ∃ p ∈ c'.params, p.name ∉ extra := by
  obtain ⟨source, hsource, target, -, rfl⟩ := h
  obtain ⟨p, hp, hname⟩ := hleft
  change ∃ p ∈ (rename? source target c.params).getD c.params, _
  cases hrename : rename? source target c.params with
  | none => exact ⟨p, hp, hname⟩
  | some qs =>
    obtain ⟨front, q, back, hparams, hq, rfl⟩ := exists_of_rename? hrename
    rw [hparams, List.mem_append, List.mem_cons] at hp
    have hne : p ≠ q := by
      rintro rfl
      exact hname (hextra (hq ▸ hsource))
    refine ⟨p, ?_, hname⟩
    rw [Option.getD_some, List.mem_append, List.mem_cons]
    exact hp.imp_right fun hp => .inr (hp.resolve_left hne)

theorem eq_or_leaves (h : ReflTransGen Matches (comparison names ps) c) :
    c = comparison names ps ∨ ∃ p ∈ c.params, p.name ∉ (comparison names ps).extra := by
  induction h with
  | refl => exact .inl rfl
  | tail hrun hstep ih =>
    obtain rfl | hleft := ih
    · exact .inr hstep.leaves
    · exact .inr (hstep.keeps (extra_sublist hrun).subset hleft)

/-- The parameters that are kept when extra ones are removed. -/
def kept (c : Comparison) : List Param :=
  c.params.filter fun p => !(c.extra.contains p.name && !isStrayText p)

theorem mem_kept_of_not_mem {p : Param} (hp : p ∈ c.params) (hname : p.name ∉ c.extra) :
    p ∈ c.kept := by
  refine List.mem_filter.mpr ⟨hp, ?_⟩
  rw [Bool.not_eq_true', Bool.and_eq_false_iff, ← Bool.not_eq_true, List.contains_iff_mem]
  exact .inl hname

/-- **Nothing is kept after matching exactly where nothing was kept before**, as far as no name is
missing. -/
theorem nothing_kept_iff (h : ReflTransGen Matches (comparison names ps) c) :
    c.missing = [] ∧ c.kept = [] ↔
      (comparison names ps).missing = [] ∧ (comparison names ps).kept = [] := by
  constructor
  · rintro ⟨hmissing, hkept⟩
    obtain rfl | ⟨p, hp, hname⟩ := eq_or_leaves h
    · exact ⟨hmissing, hkept⟩
    · have hmem := mem_kept_of_not_mem hp fun hextra => hname ((extra_sublist h).subset hextra)
      rw [hkept] at hmem
      cases hmem
  · rintro ⟨hmissing, hkept⟩
    rw [eq_of_missing_eq_nil h hmissing]
    exact ⟨hmissing, hkept⟩

end Comparison

/-! ## Settling what is left -/

theorem foldl_erase_filter (doomed : Param → Bool) (l : List Param) :
    (l.filter doomed).foldl (fun ps p => ps.erase p) l = l.filter fun p => !doomed p := by
  rw [← List.diff_eq_foldl]
  induction l with
  | nil => rfl
  | cons p l ih =>
    by_cases hp : doomed p = true
    · rw [List.filter_cons_of_pos hp, List.cons_diff, if_pos List.mem_cons_self,
        List.erase_cons_head, ih, List.filter_cons_of_neg (by simp [hp])]
    · have hother : p ∉ l.filter doomed := fun hmem => hp (List.mem_filter.mp hmem).2
      rw [List.filter_cons_of_neg hp, List.cons_diff_of_not_mem hother, ih,
        List.filter_cons_of_pos (by simp [hp])]

theorem result_removeExtra (place : Text) (c : Comparison) :
    (removeExtra place c).result = .ok c.kept := by
  have hsaid (l : List Param) :
      (l.forM fun p => Run.say ("    removing parameters " ++ p.shown)).result = .ok () := by
    induction l with
    | nil => rfl
    | cons p l ih =>
      exact Run.result_bind_eq_ok.mpr ⟨(), rfl, ih⟩
  unfold removeExtra
  rw [Run.result_bind_eq_ok]
  refine ⟨(), rfl, Run.result_bind_eq_ok.mpr ⟨(), hsaid _, ?_⟩⟩
  rw [Run.result_pure, foldl_erase_filter]
  rfl

/-- Every argument that is missing has a placeholder. -/
theorem exists_placeholder (hargs : (sig.args.map (·.name)).Nodup) (hn : n ∈ sig.names)
    (hstar : isStarred n = false) : ∃ p, (placeholder sig n).result = .ok p := by
  have harg : n ∈ sig.args.map (·.name) := by
    unfold Signature.names at hn
    rw [List.mem_append, List.mem_append] at hn
    obtain (harg | hvar) | hvar := hn
    · exact harg
    · obtain ⟨v, -, rfl⟩ := Option.map_eq_some_iff.mp (Option.mem_toList.mp hvar)
      cases hstar
    · obtain ⟨v, -, rfl⟩ := Option.map_eq_some_iff.mp (Option.mem_toList.mp hvar)
      cases hstar
  obtain ⟨a, ha, rfl⟩ := List.mem_map.mp harg
  have honly : sig.args.filter (fun b => b.name == a.name) = [a] := by
    obtain ⟨front, back, hsplit⟩ := List.append_of_mem ha
    rw [hsplit, List.map_append, List.map_cons] at hargs
    have hothers := List.nodup_middle.mp hargs
    rw [List.nodup_cons, List.mem_append, not_or] at hothers
    have hfront : front.filter (fun b => b.name == a.name) = [] := by
      refine List.filter_eq_nil_iff.mpr fun b hb heq => hothers.1.1 ?_
      exact beq_iff_eq.mp heq ▸ List.mem_map_of_mem hb
    have hback : back.filter (fun b => b.name == a.name) = [] := by
      refine List.filter_eq_nil_iff.mpr fun b hb heq => hothers.1.2 ?_
      exact beq_iff_eq.mp heq ▸ List.mem_map_of_mem hb
    rw [hsplit, List.filter_append, List.filter_cons_of_pos (by simp), hfront, hback]
    rfl
  unfold placeholder
  rw [honly]
  exact ⟨_, rfl⟩

theorem exists_addPlaceholders (hargs : (sig.args.map (·.name)).Nodup)
    (hmissing : ∀ m ∈ c.missing, m ∈ sig.names) :
    ∃ added, (addPlaceholders sig c).result = .ok (c.params ++ added) := by
  have hall : ∀ m ∈ c.missing.filter (fun n => !isStarred n),
      ∃ p, (placeholder sig m).result = .ok p := by
    intro m hm
    obtain ⟨hmem, hstar⟩ := List.mem_filter.mp hm
    exact exists_placeholder hargs (hmissing m hmem) (by simpa using hstar)
  obtain ⟨added, hadded⟩ := Run.exists_mapM hall
  exact ⟨added, Run.result_bind_eq_ok.mpr ⟨added, hadded, rfl⟩⟩

theorem result_reportMismatch (place : Text) (c : Comparison) :
    (reportMismatch place c).result = .ok () := by
  unfold reportMismatch
  cases c.missing.isEmpty <;> cases c.extra.isEmpty <;> rfl

/-- Settling where the settings say whether to add placeholders. -/
theorem settle_eq {fill : Bool} (hfill : settings.withPlaceholder = some fill) :
    settle settings place sig c =
      if !c.missing.isEmpty && c.extra.isEmpty && fill then do
        return (← addPlaceholders sig c, false)
      else if c.missing.isEmpty && !c.extra.isEmpty && sig.varkwargs.isNone then do
        return (← removeExtra place c, false)
      else if !c.missing.isEmpty || !c.extra.isEmpty then do
        reportMismatch place c
        return (c.params, true)
      else return (c.params, false) := by
  unfold settle
  rw [hfill]
  cases !c.missing.isEmpty && c.extra.isEmpty <;> cases fill <;> rfl

/-- Extra parameters are removed: nothing is missing, and the function takes no keywords. -/
def Removes (sig : Signature) (c : Comparison) : Prop :=
  c.missing = [] ∧ c.extra ≠ [] ∧ sig.varkwargs = none

theorem removes_iff : Removes sig c ↔
    (c.missing.isEmpty && !c.extra.isEmpty && sig.varkwargs.isNone) = true := by
  simp [Removes, and_assoc]

theorem settle_of_removes (hplaceholder : settings.withPlaceholder.isSome = true)
    (h : Removes sig c) : (settle settings place sig c).result = .ok (c.kept, false) := by
  obtain ⟨fill, hfill⟩ := Option.isSome_iff_exists.mp hplaceholder
  have hmissing : c.missing.isEmpty = true := List.isEmpty_iff.mpr h.1
  rw [settle_eq hfill, if_neg (by simp [hmissing]), if_pos (removes_iff.mp h)]
  exact Run.result_bind_eq_ok.mpr ⟨c.kept, result_removeExtra place c, rfl⟩

/-- Where nothing is removed, parameters can only be added. -/
theorem settle_of_not_removes (hplaceholder : settings.withPlaceholder.isSome = true)
    (hargs : (sig.args.map (·.name)).Nodup) (hnames : ∀ m ∈ c.missing, m ∈ sig.names)
    (h : ¬ Removes sig c) :
    ∃ added mismatch, (settle settings place sig c).result = .ok (c.params ++ added, mismatch) := by
  obtain ⟨fill, hfill⟩ := Option.isSome_iff_exists.mp hplaceholder
  rw [settle_eq hfill]
  by_cases hfills : (!c.missing.isEmpty && c.extra.isEmpty && fill) = true
  · rw [if_pos hfills]
    obtain ⟨added, hadded⟩ := exists_addPlaceholders hargs hnames
    exact ⟨added, false, Run.result_bind_eq_ok.mpr ⟨_, hadded, rfl⟩⟩
  · rw [if_neg hfills, if_neg (mt removes_iff.mpr h)]
    refine ⟨[], !c.missing.isEmpty || !c.extra.isEmpty, ?_⟩
    rw [List.append_nil]
    by_cases hleft : (!c.missing.isEmpty || !c.extra.isEmpty) = true
    · rw [if_pos hleft, hleft]
      exact Run.result_bind_eq_ok.mpr ⟨(), result_reportMismatch place c, rfl⟩
    · rw [if_neg hleft, Bool.eq_false_iff.mpr hleft]
      rfl

/-! ## Fixing -/

/-- Fixing removes all parameters: the function takes none that is missing, and no keywords, and none of
the parameters is kept. -/
def removesAll (sig : Signature) (ps : List Param) : Bool :=
  let c := comparison (withoutReceiver sig.names) ps
  c.missing.isEmpty && c.kept.isEmpty && sig.varkwargs.isNone

theorem mem_withoutReceiver (h : n ∈ withoutReceiver names) : n ∈ names := by
  cases names with
  | nil => exact h
  | cons first rest =>
    rw [withoutReceiver] at h
    split at h
    · exact List.mem_cons_of_mem _ h
    · exact h

/-- **What settling leaves.**  Names that were matched before do not matter for whether all
parameters are removed. -/
theorem settle_cases (hplaceholder : settings.withPlaceholder.isSome = true)
    (hargs : (sig.args.map (·.name)).Nodup) (hps : ps ≠ [])
    (h : ReflTransGen Comparison.Matches (comparison (withoutReceiver sig.names) ps) c) :
    ∃ fixed mismatch, (settle settings place sig c).result = .ok (fixed, mismatch) ∧
      (fixed = [] ↔ removesAll sig ps = true) := by
  -- Matching renames parameters and removes none.
  have hparams : c.params ≠ [] := by
    obtain rfl | ⟨p, hp, -⟩ := Comparison.eq_or_leaves h
    · exact hps
    · exact List.ne_nil_of_mem hp
  have hlost : removesAll sig ps = true ↔
      (c.missing = [] ∧ c.kept = []) ∧ sig.varkwargs = none := by
    rw [Comparison.nothing_kept_iff h]
    simp [removesAll]
  by_cases hremoves : Removes sig c
  · refine ⟨c.kept, false, settle_of_removes hplaceholder hremoves, ?_⟩
    rw [hlost]
    exact ⟨fun hkept => ⟨⟨hremoves.1, hkept⟩, hremoves.2.2⟩, fun hlost => hlost.1.2⟩
  · have hnames : ∀ m ∈ c.missing, m ∈ sig.names := fun m hm =>
      mem_withoutReceiver (of_mem_missing ((Comparison.missing_sublist h).subset hm)).1
    obtain ⟨added, mismatch, hsettle⟩ := settle_of_not_removes hplaceholder hargs hnames hremoves
    refine ⟨_, mismatch, hsettle, ?_⟩
    rw [hlost]
    constructor
    · intro hnil
      exact absurd (List.append_eq_nil_iff.mp hnil).1 hparams
    · rintro ⟨⟨hmissing, hkept⟩, hkeywords⟩
      -- Without extra names every parameter would be kept.
      refine absurd ⟨hmissing, fun hextra => hparams ?_, hkeywords⟩ hremoves
      rw [← hkept, Comparison.kept, hextra]
      simp

/-- **When fixing succeeds.**  It does unless the empty name is the only one that is documented and
not taken.  It then leaves no parameter exactly where all of them are removed. -/
theorem fix_cases (place : Text) (hfixers : settings.runFixers = true)
    (hplaceholder : settings.withPlaceholder.isSome = true)
    (hargs : (sig.args.map (·.name)).Nodup) (hps : ps ≠ []) :
    if namesExtra (withoutReceiver sig.names) ps = [[]] then
      (fix settings place sig.names sig ps).result = .error .emptyName
    else
      ∃ verdict mismatch, (fix settings place sig.names sig ps).result = .ok verdict ∧
        verdict.mismatch = some mismatch ∧ (verdict.params = [] ↔ removesAll sig ps = true) := by
  unfold fix
  rw [hfixers, Bool.not_true, if_neg Bool.false_ne_true]
  dsimp only
  by_cases hempty : namesExtra (withoutReceiver sig.names) ps = [[]]
  · rw [if_pos hempty, if_pos (beq_iff_eq.mpr hempty)]
    rfl
  · rw [if_neg hempty, if_neg (mt beq_iff_eq.mp hempty)]
    obtain ⟨c, hpair, hmatches⟩ := Comparison.pair_matches place
      (nodup_extra (withoutReceiver sig.names) ps)
    obtain ⟨fixed, mismatch, hsettle, hnil⟩ := settle_cases hplaceholder hargs hps hmatches
    exact ⟨⟨fixed, _, some mismatch⟩, mismatch, Run.result_bind_eq_ok.mpr ⟨c, hpair,
      Run.result_bind_eq_ok.mpr ⟨(fixed, mismatch), hsettle, rfl⟩⟩, rfl, hnil⟩

end DocTidy.Fixer
