import DocTidy.Proofs.Fixer.Completeness
import Mathlib.Data.List.Flatten

/-!
# Fixing twice

Fixed parameters that are fixed again stay as they are.  All that fixing does is `Progress`: it documents
names of the signature, and takes away names that are none.  So the second comparison is the first one,
less what is settled (`missing_of_progress`, `extra_of_progress`).  What stays open are names whose
spelling is one of several names of a parameter.  These are matched a second time with as little effect
as before (`Comparison.Respells.again`), and what is left is settled already (`Outcome.again`).
-/

namespace DocTidy.Fixer

open Text

variable {names : List Text} {ps qs rs : List Param} {n s t place : Text} {c d : Comparison}
  {sig : Signature} {settings : Settings} {pairs : List (Text × Text)}

/-! ## Progress -/

/-- The names of the signature that `ps` documents are documented by `qs` too, and all others that `qs`
documents were documented by `ps`, in the same order. -/
structure Progress (names : List Text) (ps qs : List Param) : Prop where
  documents : ∀ n ∈ names, n ∈ documented ps → n ∈ documented qs
  others : ((documented qs).filter (· ∉ names)).Sublist ((documented ps).filter (· ∉ names))
  nodup : (documented ps).Nodup → (documented qs).Nodup

theorem Progress.refl (names : List Text) (ps : List Param) : Progress names ps ps :=
  ⟨fun _ _ h => h, .refl _, id⟩

theorem Progress.trans (h : Progress names ps qs) (h' : Progress names qs rs) : Progress names ps rs :=
  ⟨fun n hn hdoc => h'.documents n hn (h.documents n hn hdoc), h'.others.trans h.others,
    fun hnodup => h'.nodup (h.nodup hnodup)⟩

theorem Progress.mem_of_not_mem (h : Progress names ps qs) (hn : n ∉ names) (hdoc : n ∈ documented qs) :
    n ∈ documented ps := by
  have hmem := h.others.subset (List.mem_filter.mpr ⟨hdoc, by simpa using hn⟩)
  exact (List.mem_filter.mp hmem).1

/-- A name of the signature takes the place of one that is none. -/
theorem Progress.of_rename? (h : IsCorrection names s t) (hs : s ≠ []) (ht : t ∉ documented ps)
    (hrename : rename? s t ps = some qs) : Progress names ps qs := by
  obtain ⟨front, back, hps, hqs⟩ := documented_rename? h hrename
  rw [if_neg hs, List.append_assoc, List.singleton_append] at hps
  refine ⟨fun n hn hdoc => (mem_documented_rename? h hrename hn).mpr (.inl hdoc), ?_, ?_⟩
  · rw [hps, hqs, List.filter_append, List.filter_append, List.filter_cons_of_neg (by simp [h.mem])]
    exact ((List.sublist_cons_self s back).filter _).append_left _
  · intro hnodup
    rw [hps] at hnodup ht
    rw [hqs, List.nodup_middle, List.nodup_cons]
    refine ⟨fun hmem => ht ?_, (List.nodup_cons.mp (List.nodup_middle.mp hnodup)).2⟩
    rw [List.mem_append] at hmem ⊢
    exact hmem.imp_right (List.mem_cons_of_mem s)

theorem nil_not_mem_of_progress (h : Progress names ps qs) (hnames : [] ∉ names)
    (hps : [] ∉ documented ps) : [] ∉ documented qs :=
  fun hmem => hps (h.mem_of_not_mem hnames hmem)

/-! ## Comparing again -/

/-- After progress, those names are missing that were missing and are still not documented. -/
theorem missing_of_progress (h : Progress names ps qs) :
    (comparison names qs).missing = (comparison names ps).missing.filter (· ∉ documented qs) := by
  show names.eraseDups.filter _ = (names.eraseDups.filter _).filter _
  rw [List.filter_filter]
  refine List.filter_congr fun n hn => ?_
  have hkeeps := h.documents n (List.mem_eraseDups.mp hn)
  by_cases hdoc : n ∈ documented qs
  · simp [hdoc]
  · have hbefore : n ∉ documented ps := fun hmem => hdoc (hkeeps hmem)
    simp [hdoc, hbefore]

/-- After progress, those names are extra that were extra and are still documented. -/
theorem extra_of_progress (h : Progress names ps qs) (hps : (documented ps).Nodup) :
    (comparison names qs).extra = (comparison names ps).extra.filter (· ∈ documented qs) := by
  have hsplit (qs : List Param) (hqs : (documented qs).Nodup) : (comparison names qs).extra =
      ((documented qs).filter (· ∉ names)).filter fun n =>
        !startsWith n "*" && n != "cls" && !isTemplate n := by
    show ((documented qs).eraseDups.filter _).filter _ = _
    rw [eraseDups_eq_self hqs, List.filter_filter, List.filter_filter]
    refine List.filter_congr fun n _ => ?_
    by_cases hn : n ∈ names
    · simp [hn]
    · simp [hn, Bool.and_comm]
  rw [hsplit qs (h.nodup hps), hsplit ps hps]
  conv_lhs => rw [eq_filter_of_sublist h.others (hps.filter _), List.filter_comm]
  refine List.filter_congr fun n hn => ?_
  have hforeign : n ∉ names := by
    simpa using (List.mem_filter.mp (List.mem_filter.mp hn).1).2
  simp only [List.mem_filter, hforeign, not_false_eq_true, decide_true, and_true]

/-! ## Matching -/

theorem mem_documented_rename?_of_ne (h : IsCorrection names s t) (hs : s ≠ [])
    (hnodup : (documented ps).Nodup) (hrename : rename? s t ps = some qs) (hn : n ≠ t) :
    n ∈ documented qs ↔ n ∈ documented ps ∧ n ≠ s := by
  obtain ⟨front, back, hps, hqs⟩ := documented_rename? h hrename
  rw [if_neg hs, List.append_assoc, List.singleton_append] at hps
  rw [hps] at hnodup
  have honce := (List.nodup_cons.mp (List.nodup_middle.mp hnodup)).1
  rw [hps, hqs]
  simp only [List.mem_append, List.mem_cons, hn, false_or] at honce ⊢
  constructor
  · intro hmem
    refine ⟨hmem.imp_right .inr, ?_⟩
    rintro rfl
    exact honce hmem
  · rintro ⟨hmem, hne⟩
    exact hmem.imp_right fun hmem => hmem.resolve_left hne

namespace Comparison

/-- Pairs that no parameter can be renamed for leave the parameters as they are. -/
theorem params_matchAll_of_not_exists (h : ∀ pair ∈ pairs, ¬ ∃ p ∈ c.params, p.name = pair.1) :
    (c.matchAll pairs).params = c.params := by
  induction pairs generalizing c with
  | nil => rfl
  | cons pair pairs ih =>
    rw [List.forall_mem_cons] at h
    have hsame := params_matchUp_of_not_exists (t := pair.2) h.1
    rw [matchAll_cons, ih (by rw [hsame]; exact h.2), hsame]

/-- Matching gives no parameter a name that is none of the signature. -/
theorem exists_name_of_matchAll (hpairs : ∀ pair ∈ pairs, IsCorrection names pair.1 pair.2)
    (hn : n ∉ names) (h : ∃ p ∈ (c.matchAll pairs).params, p.name = n) :
    ∃ p ∈ c.params, p.name = n := by
  induction pairs generalizing c with
  | nil => exact h
  | cons pair pairs ih =>
    rw [List.forall_mem_cons] at hpairs
    by_cases hsource : n = pair.1
    · -- Without a parameter of this name nothing is renamed here.
      subst hsource
      by_contra hno
      exact hno (params_matchUp_of_not_exists (t := pair.2) hno ▸ ih hpairs.2 h)
    · exact (exists_name_matchUp hpairs.1 hn hsource).mp (ih hpairs.2 h)

/-- **Matching is progress.**  A name that is none of the signature is documented no longer exactly where
it was matched and made up the whole name of a parameter. -/
theorem progress_matchAll (hpairs : ∀ pair ∈ pairs, IsCorrection names pair.1 pair.2)
    (hne : ∀ pair ∈ pairs, pair.1 ≠ []) (hnew : ∀ pair ∈ pairs, pair.2 ∉ documented c.params)
    (hextra : (pairs.map (·.1)).Nodup) (hmissing : (pairs.map (·.2)).Nodup)
    (hnodup : (documented c.params).Nodup) :
    Progress names c.params (c.matchAll pairs).params ∧
      ∀ n ∉ names, (n ∈ documented (c.matchAll pairs).params ↔
        n ∈ documented c.params ∧ ¬ (n ∈ pairs.map (·.1) ∧ ∃ p ∈ c.params, p.name = n)) := by
  induction pairs generalizing c with
  | nil => exact ⟨.refl names c.params, by simp⟩
  | cons pair pairs ih =>
    obtain ⟨s, t⟩ := pair
    rw [List.forall_mem_cons] at hpairs hne hnew
    rw [List.map_cons, List.nodup_cons] at hextra hmissing
    rw [matchAll_cons]
    by_cases hfound : ∃ p ∈ c.params, p.name = s
    · obtain ⟨qs, hrename, hparams⟩ := params_matchUp (t := t) hfound
      have hstep : Progress names c.params qs := .of_rename? hpairs.1 hne.1 hnew.1 hrename
      have hlater : ∀ pair ∈ pairs, pair.2 ∉ documented (c.matchUp s t).params := by
        intro pair hpair hmem
        rw [hparams, mem_documented_rename? hpairs.1 hrename (hpairs.2 pair hpair).mem] at hmem
        obtain hmem | rfl := hmem
        · exact hnew.2 pair hpair hmem
        · exact hmissing.1 (List.mem_map_of_mem (f := (·.2)) hpair)
      obtain ⟨hprogress, hothers⟩ := ih hpairs.2 hne.2 hlater hextra.2 hmissing.2
        (hparams ▸ hstep.nodup hnodup)
      refine ⟨hstep.trans (hparams ▸ hprogress), fun n hn => ?_⟩
      have hnt : n ≠ t := by
        rintro rfl
        exact hn hpairs.1.mem
      rw [hothers n hn]
      rw [show n ∈ documented (c.matchUp s t).params ↔ n ∈ documented c.params ∧ n ≠ s from
        hparams ▸ mem_documented_rename?_of_ne hpairs.1 hne.1 hnodup hrename hnt, List.map_cons,
        List.mem_cons]
      by_cases hns : n = s
      · simp [hns, hfound]
      · rw [exists_name_matchUp hpairs.1 hn hns]
        simp [hns]
    · have hsame := params_matchUp_of_not_exists (t := t) hfound
      obtain ⟨hprogress, hothers⟩ := ih (c := c.matchUp s t) hpairs.2 hne.2 (by rw [hsame]; exact hnew.2)
        hextra.2 hmissing.2 (by rw [hsame]; exact hnodup)
      rw [hsame] at hprogress hothers
      refine ⟨hprogress, fun n hn => ?_⟩
      rw [hothers n hn, List.map_cons, List.mem_cons]
      by_cases hns : n = s
      · simp [hns, hfound]
      · simp [hns]

end Comparison

/-! ## Settling what is left -/

/-- The missing names are those of the signature, the extra ones none of them, and the parameters document
the extra ones and not the missing ones, each once. -/
structure Accurate (names : List Text) (d : Comparison) : Prop where
  missing : ∀ n ∈ d.missing, n ∈ names ∧ n ∉ documented d.params
  extra : ∀ n ∈ d.extra, n ∉ names ∧ n ∈ documented d.params
  nodup_missing : d.missing.Nodup
  nodup : (documented d.params).Nodup
  nil_not_mem : [] ∉ documented d.params

theorem Accurate.isCorrection (hd : Accurate names d) (hnames : ∀ n ∈ names, IsSingle n ∧ n ≠ [])
    (hs : s ∈ d.extra) (ht : t ∈ d.missing) : IsCorrection names s t := by
  have ⟨hforeign, hsource⟩ := hd.extra s hs
  have htarget := (hd.missing t ht).1
  have ⟨hsingle, hne⟩ := hnames t htarget
  exact ⟨isSingle_of_mem_documented hsource, hforeign, hsingle, hne, htarget⟩

theorem Accurate.ne_nil (hd : Accurate names d) (hs : s ∈ d.extra) : s ≠ [] := by
  rintro rfl
  exact hd.nil_not_mem (hd.extra [] hs).2

/-- The ways in which fixing can end once all spellings are matched: the last pair of names is matched,
placeholders are added, extra parameters are removed, or nothing is done. -/
inductive Outcome (settings : Settings) (place : Text) (sig : Signature) (d : Comparison) :
    List Param → Prop
  | renamed {s t : Text} {qs : List Param} : d.missing = [t] → d.extra = [s] →
    rename? s t d.params = some qs → Outcome settings place sig d qs
  | filled {added : List Param} : settings.withPlaceholder = some true → d.extra = [] →
    added.map (·.name) = d.missing.filter (fun n => !isStarred n) →
      Outcome settings place sig d (d.params ++ added)
  | removed : Removes sig d → Outcome settings place sig d d.kept
  | unchanged {mismatch : Bool} : (d.renameLast place).result = .ok d →
    (settle settings place sig d).result = .ok (d.params, mismatch) →
      Outcome settings place sig d d.params

theorem outcome_of_settle {fixed : List Param} {mismatch : Bool}
    (hlast : (d.renameLast place).result = .ok c)
    (hsettle : (settle settings place sig c).result = .ok (fixed, mismatch)) :
    Outcome settings place sig d fixed := by
  rcases Comparison.renameLast_cases place d with hsame | ⟨s, t, qs, ht, hs, hrename, hmatched⟩
  · obtain rfl := Except.ok.inj (hlast.symm.trans hsame)
    rcases settle_eq_ok hsettle with ⟨hon, hextra, added, hfixed, hadded⟩ | ⟨hremoves, hfixed⟩ | hfixed
    · obtain rfl : fixed = _ := hfixed
      exact .filled hon hextra hadded
    · obtain rfl : fixed = _ := hfixed
      exact .removed hremoves
    · obtain rfl : fixed = _ := hfixed
      exact .unchanged hsame hsettle
  · obtain rfl := Except.ok.inj (hlast.symm.trans hmatched)
    -- Nothing is left to settle.
    have hfixed : fixed = qs := by
      rcases settle_eq_ok hsettle with ⟨-, -, added, hfixed, hadded⟩ | ⟨hremoves, -⟩ | hfixed
      · obtain rfl := List.map_eq_nil_iff.mp hadded
        exact hfixed.trans (List.append_nil qs)
      · exact absurd rfl hremoves.2.1
      · exact hfixed
    exact hfixed ▸ .renamed ht hs hrename

/-- What holds of the parameters in the end, whatever the outcome. -/
structure Finished (names : List Text) (d : Comparison) (qs : List Param) : Prop where
  progress : Progress names d.params qs
  others : ∀ n, n ∉ d.missing → n ∉ d.extra → (n ∈ documented qs ↔ n ∈ documented d.params)
  named : ∀ n ∉ names, (∃ q ∈ qs, q.name = n) → ∃ p ∈ d.params, p.name = n

theorem documented_of_forall_isSingle (h : ∀ p ∈ ps, IsSingle p.name ∧ p.name ≠ []) :
    documented ps = ps.map (·.name) := by
  induction ps with
  | nil => rfl
  | cons p ps ih =>
    rw [List.forall_mem_cons] at h
    rw [documented_cons, documented_of_isSingle h.1.1 h.1.2, ih h.2]
    rfl

theorem finished_renamed (hd : Accurate names d) (hnames : ∀ n ∈ names, IsSingle n ∧ n ≠ [])
    (ht : d.missing = [t]) (hs : d.extra = [s]) (hrename : rename? s t d.params = some qs) :
    Finished names d qs := by
  have hsource : s ∈ d.extra := hs ▸ List.mem_singleton_self s
  have htarget : t ∈ d.missing := ht ▸ List.mem_singleton_self t
  have hcorrection := hd.isCorrection hnames hsource htarget
  have hne := hd.ne_nil hsource
  refine ⟨.of_rename? hcorrection hne (hd.missing t htarget).2 hrename, fun n hmissing hextra => ?_, fun n hn => ?_⟩
  · rw [ht, List.mem_singleton] at hmissing
    rw [hs, List.mem_singleton] at hextra
    rw [mem_documented_rename?_of_ne hcorrection hne hd.nodup hrename hmissing, and_iff_left hextra]
  · rintro ⟨q, hq, rfl⟩
    obtain ⟨front, p, back, hparams, -, rfl⟩ := exists_of_rename? hrename
    rw [List.mem_append, List.mem_cons] at hq
    rw [hparams]
    rcases hq with hq | rfl | hq
    · exact ⟨q, List.mem_append_left _ hq, rfl⟩
    · exact absurd hcorrection.mem hn
    · exact ⟨q, List.mem_append_right _ (List.mem_cons_of_mem _ hq), rfl⟩

theorem finished_filled {added : List Param} (hd : Accurate names d)
    (hnames : ∀ n ∈ names, IsSingle n ∧ n ≠ [])
    (hadded : added.map (·.name) = d.missing.filter fun n => !isStarred n) :
    Finished names d (d.params ++ added) := by
  have hmem : ∀ p ∈ added, p.name ∈ d.missing := fun p hp =>
    (List.mem_filter.mp (hadded ▸ List.mem_map_of_mem (f := Param.name) hp)).1
  have hdoc : documented (d.params ++ added) =
      documented d.params ++ d.missing.filter fun n => !isStarred n := by
    rw [documented_append, documented_of_forall_isSingle
      fun p hp => hnames _ (hd.missing _ (hmem p hp)).1, hadded]
  refine ⟨⟨fun n _ h => ?_, ?_, fun hnodup => ?_⟩, fun n hmissing _ => ?_, fun n hn => ?_⟩
  · rw [hdoc]
    exact List.mem_append_left _ h
  · have hnone : (d.missing.filter fun n => !isStarred n).filter (· ∉ names) = [] := by
      refine List.filter_eq_nil_iff.mpr fun n hn => ?_
      simpa using (hd.missing n (List.mem_filter.mp hn).1).1
    rw [hdoc, List.filter_append, hnone, List.append_nil]
  · rw [hdoc]
    refine List.nodup_append'.mpr ⟨hnodup, hd.nodup_missing.filter _, fun n hn hn' => ?_⟩
    exact (hd.missing n (List.mem_filter.mp hn').1).2 hn
  · rw [hdoc, List.mem_append, or_iff_left fun h => hmissing (List.mem_filter.mp h).1]
  · rintro ⟨q, hq, rfl⟩
    obtain hq | hq := List.mem_append.mp hq
    · exact ⟨q, hq, rfl⟩
    · exact absurd (hd.missing _ (hmem q hq)).1 hn

theorem finished_removed (hd : Accurate names d) : Finished names d d.kept := by
  have hsingle : ∀ m ∈ d.extra, IsSingle m := fun m hm => isSingle_of_mem_documented (hd.extra m hm).2
  have hsublist : (documented d.kept).Sublist (documented d.params) :=
    List.filter_sublist.flatMap _
  refine ⟨⟨fun n hn h => ?_, hsublist.filter _, fun hnodup => hnodup.sublist hsublist⟩,
    fun n _ hextra => Comparison.mem_documented_kept hsingle hextra, fun n _ => ?_⟩
  · exact (Comparison.mem_documented_kept hsingle fun hmem => (hd.extra n hmem).1 hn).mpr h
  · rintro ⟨q, hq, rfl⟩
    exact ⟨q, (List.mem_filter.mp hq).1, rfl⟩

theorem Outcome.finished (h : Outcome settings place sig d qs) (hd : Accurate names d)
    (hnames : ∀ n ∈ names, IsSingle n ∧ n ≠ []) : Finished names d qs := by
  cases h with
  | renamed ht hs hrename => exact finished_renamed hd hnames ht hs hrename
  | filled _ _ hadded => exact finished_filled hd hnames hadded
  | removed _ => exact finished_removed hd
  | unchanged _ _ => exact ⟨.refl names d.params, fun _ _ _ => Iff.rfl, fun _ _ h => h⟩

/-! ## Settling again -/

/-- Without missing names placeholders do not matter. -/
theorem settle_of_missing_eq_nil (h : c.missing = []) :
    settle settings place sig c = settle { settings with withPlaceholder := some false } place sig c := by
  unfold settle
  rw [h]
  rfl

theorem result_settle_of_nil (hmissing : c.missing = []) (hextra : c.extra = []) :
    (settle settings place sig c).result = .ok (c.params, false) := by
  rw [settle_of_missing_eq_nil hmissing, settle_eq rfl, hmissing, hextra]
  rfl

theorem renameLast_of_ne (h : c.missing = [] ∨ c.extra = []) : (c.renameLast place).result = .ok c := by
  rcases Comparison.renameLast_cases place c with hlast | ⟨s, t, qs, ht, hs, -, -⟩
  · exact hlast
  · rw [ht, hs] at h
    simp at h

/-- **A second time, settling does nothing.**  It starts with the names that are still open. -/
theorem Outcome.again (h : Outcome settings place sig d qs) (hd : Accurate names d)
    (hnames : ∀ n ∈ names, IsSingle n ∧ n ≠ []) (hparams : c.params = qs)
    (hmissing : c.missing = d.missing.filter (· ∉ documented qs))
    (hextra : c.extra = d.extra.filter (· ∈ documented qs)) :
    ∃ c' mismatch, (c.renameLast place).result = .ok c' ∧
      (settle settings place sig c').result = .ok (qs, mismatch) := by
  cases h with
  | @renamed s t _ ht hs hrename =>
    have hsource : s ∈ d.extra := hs ▸ List.mem_singleton_self s
    have hcorrection := hd.isCorrection hnames hsource (ht ▸ List.mem_singleton_self t)
    -- Of the two names, one is documented now and the other is not.
    have hnow : t ∈ documented qs :=
      (mem_documented_rename? hcorrection hrename hcorrection.mem).mpr (.inr rfl)
    have hgone : s ∉ documented qs := by
      have hne : s ≠ t := by
        rintro rfl
        exact hcorrection.not_mem hcorrection.mem
      rw [mem_documented_rename?_of_ne hcorrection (hd.ne_nil hsource) hd.nodup hrename hne]
      exact fun hmem => hmem.2 rfl
    have hdone : c.missing = [] := by rw [hmissing, ht, List.filter_cons_of_neg (by simpa using hnow)]; rfl
    have hdone' : c.extra = [] := by rw [hextra, hs, List.filter_cons_of_neg (by simpa using hgone)]; rfl
    exact ⟨c, false, renameLast_of_ne (.inl hdone), hparams ▸ result_settle_of_nil hdone hdone'⟩
  | @filled added hon hnone hadded =>
    have hdone : c.extra = [] := by
      rw [hextra, hnone]
      rfl
    -- What is still missing has stars, and gets no placeholder.
    have hstarred : c.missing.filter (fun n => !isStarred n) = [] := by
      refine List.filter_eq_nil_iff.mpr fun n hn hstar => ?_
      rw [hmissing, List.mem_filter] at hn
      have hfilled : n ∈ added.map (·.name) := hadded ▸ List.mem_filter.mpr ⟨hn.1, hstar⟩
      obtain ⟨p, hp, rfl⟩ := List.mem_map.mp hfilled
      have ⟨hsingle, hne⟩ := hnames _ (hd.missing _ hn.1).1
      have hdoc : p.name ∈ documented (d.params ++ added) := by
        refine mem_documented_iff_exists.mpr ⟨p, List.mem_append_right _ hp, ?_⟩
        rw [documented_of_isSingle hsingle hne]
        exact List.mem_singleton_self _
      simp [hdoc] at hn
    refine ⟨c, false, renameLast_of_ne (.inr hdone), ?_⟩
    by_cases hnil : c.missing = []
    · exact hparams ▸ result_settle_of_nil hnil hdone
    · rw [settle_eq hon, if_pos (by simp [hnil, hdone])]
      refine Run.result_bind_eq_ok.mpr ⟨c.params ++ [], ?_, by rw [List.append_nil, hparams]; rfl⟩
      unfold addPlaceholders
      rw [hstarred]
      rfl
  | removed hremoves =>
    have hdone : c.missing = [] := by
      rw [hmissing, hremoves.1]
      rfl
    have hkept : c.kept = d.kept := by
      rw [Comparison.kept, hparams]
      refine List.filter_eq_self.mpr fun p hp => ?_
      have hspared := (List.mem_filter.mp hp).2
      rw [Bool.not_eq_true', Bool.and_eq_false_iff, ← Bool.not_eq_true, List.contains_iff_mem] at hspared ⊢
      refine hspared.imp_left fun hname hmem => hname ?_
      rw [hextra] at hmem
      exact (List.mem_filter.mp hmem).1
    refine ⟨c, false, renameLast_of_ne (.inl hdone), ?_⟩
    by_cases hnone : c.extra = []
    · exact hparams ▸ result_settle_of_nil hdone hnone
    · rw [settle_of_missing_eq_nil hdone, ← hkept]
      exact settle_of_removes rfl ⟨hdone, hnone, hremoves.2.2⟩
  | @unchanged mismatch hlast hsettle =>
    have hsame : c = d := by
      rw [List.filter_eq_self.mpr fun n hn => by simpa using (hd.missing n hn).2] at hmissing
      rw [List.filter_eq_self.mpr fun n hn => by simpa using (hd.extra n hn).2] at hextra
      cases c
      cases d
      simp_all
    rw [hsame]
    exact ⟨d, mismatch, hlast, hsettle⟩

/-! ## The same spellings again -/

namespace Comparison

theorem spelling?_of_lacksStars (hc : ∀ n ∈ c.extra, n.head? ≠ some '*') (hs : s ∈ c.extra)
    (h : lacksStars c.missing t s = true) : c.spelling? t = some s :=
  Option.or_eq_some_iff.mpr (.inl ((find?_lacksStars hc).mpr ⟨hs, h⟩))

/-- **A missing name keeps its spelling** as long as of the two names that were matched one is documented
and the other is not. -/
theorem spelling?_of_filter {doc : List Text} (hc : ∀ n ∈ c.extra, n.head? ≠ some '*')
    (hmissing : d.missing = c.missing.filter (· ∉ doc)) (hextra : d.extra = c.extra.filter (· ∈ doc))
    (hone : ∀ t ∈ c.missing, ∀ s ∈ c.spelling? t, (t ∈ doc ↔ s ∉ doc)) (ht : t ∈ d.missing) :
    d.spelling? t = c.spelling? t := by
  have hmemMissing (n : Text) : n ∈ d.missing ↔ n ∈ c.missing ∧ n ∉ doc := by
    rw [hmissing, List.mem_filter, decide_eq_true_eq]
  have hmemExtra (n : Text) : n ∈ d.extra ↔ n ∈ c.extra ∧ n ∈ doc := by
    rw [hextra, List.mem_filter, decide_eq_true_eq]
  obtain ⟨htarget, hnew⟩ := (hmemMissing t).mp ht
  have hstill : ∀ s ∈ c.spelling? t, s ∈ doc := by
    intro s hs
    by_contra hgone
    exact hnew ((hone t htarget s hs).mpr hgone)
  have hstars : d.extra.find? (lacksStars d.missing t) = c.extra.find? (lacksStars c.missing t) := by
    ext s
    rw [find?_lacksStars fun n hn => hc n ((hmemExtra n).mp hn).1, find?_lacksStars hc, hmemExtra]
    constructor
    · rintro ⟨⟨hs, hdoc⟩, hlacks⟩
      refine ⟨hs, lacksStars_iff.mpr ((lacksStars_iff.mp hlacks).imp_right ?_)⟩
      rintro ⟨rfl, hother⟩
      -- If the name had lost one star only, it would not be documented any longer.
      refine ⟨rfl, fun hmem => hother ((hmemMissing _).mpr ⟨hmem, fun hdoc' => ?_⟩)⟩
      have hspelling := spelling?_of_lacksStars hc hs (lacksStars_iff.mpr (.inl rfl))
      exact (hone _ hmem s hspelling).mp hdoc' hdoc
    · rintro ⟨hs, hlacks⟩
      have hdoc := hstill s (spelling?_of_lacksStars hc hs hlacks)
      refine ⟨⟨hs, hdoc⟩, lacksStars_iff.mpr ((lacksStars_iff.mp hlacks).imp_right ?_)⟩
      rintro ⟨rfl, hother⟩
      exact ⟨rfl, fun hmem => hother ((hmemMissing _).mp hmem).1⟩
  unfold spelling?
  rw [hstars]
  cases hfind : c.extra.find? (lacksStars c.missing t) with
  | some s => rfl
  | none =>
    rw [Option.none_or, Option.none_or, hextra]
    cases hquote : c.extra.find? fun n => unquoted? n == some t with
    | none =>
      rw [List.find?_eq_none] at hquote ⊢
      exact fun n hn => hquote n (List.mem_filter.mp hn).1
    | some s =>
      refine find?_filter_of_pos hquote (decide_eq_true (hstill s ?_))
      exact Option.or_eq_some_iff.mpr (.inr ⟨hfind, hquote⟩)

end Comparison

/-! ## Fixing again -/

theorem accurate_comparison (names : List Text) (hps : (documented ps).Nodup)
    (hnil : [] ∉ documented ps) : Accurate names (comparison names ps) :=
  ⟨fun _ hn => of_mem_missing hn, fun _ hn => ⟨(of_mem_extra hn).1, mem_documented_of_mem_extra hn⟩,
    nodup_missing names ps, hps, hnil⟩

namespace Comparison.Respells

/-- What matching names with their spellings does to the names that are none of the signature. -/
theorem progress (h : c.Respells pairs) (hc : Accurate names c)
    (hnames : ∀ n ∈ names, IsSingle n ∧ n ≠ []) :
    Progress names c.params (c.matchAll pairs).params ∧
      ∀ n ∉ names, (n ∈ documented (c.matchAll pairs).params ↔
        n ∈ documented c.params ∧ ¬ (n ∈ pairs.map (·.1) ∧ ∃ p ∈ c.params, p.name = n)) :=
  progress_matchAll
    (fun pair hpair => hc.isCorrection hnames (h.extra pair hpair) (h.missing pair hpair))
    (fun pair hpair => hc.ne_nil (h.extra pair hpair))
    (fun pair hpair => (hc.missing _ (h.missing pair hpair)).2) h.nodup_extra h.nodup_missing hc.nodup

/-- The names that are not matched with a spelling are listed accurately. -/
theorem accurate (h : c.Respells pairs) (hregular : c.IsRegular) (hc : Accurate names c)
    (hnames : ∀ n ∈ names, IsSingle n ∧ n ≠ []) : Accurate names (c.matchAll pairs) := by
  obtain ⟨hprogress, hothers⟩ := h.progress hc hnames
  refine ⟨fun n hn => ?_, fun n hn => ?_, ?_, hprogress.nodup hc.nodup, ?_⟩
  · obtain ⟨hmem, -⟩ := (mem_missing_matchAll hregular.nodup_missing).mp hn
    obtain ⟨hname, hnew⟩ := hc.missing n hmem
    refine ⟨hname, fun hdoc => ?_⟩
    rw [h.mem_documented_iff hregular (fun s hs t ht => hc.isCorrection hnames hs ht) hname] at hdoc
    exact hdoc.elim hnew fun hmatched => hmatched.2.1 hn
  · obtain ⟨hmem, hnot⟩ := (mem_extra_matchAll hregular.nodup_extra).mp hn
    obtain ⟨hforeign, hdoc⟩ := hc.extra n hmem
    exact ⟨hforeign, (hothers n hforeign).mpr ⟨hdoc, fun hmatched => hnot hmatched.1⟩⟩
  · rw [missing_matchAll]
    exact hc.nodup_missing.diff
  · exact nil_not_mem_of_progress hprogress (fun hmem => (hnames [] hmem).2 rfl) hc.nil_not_mem

/-- **Of two names that were matched, one is documented in the end and the other is not.**  It is the
missing one where the spelling made up the whole name of a parameter. -/
theorem documented_iff (h : c.Respells pairs) (hregular : c.IsRegular) (hc : Accurate names c)
    (hnames : ∀ n ∈ names, IsSingle n ∧ n ≠ []) (hfinished : Finished names (c.matchAll pairs) qs)
    (hpair : (s, t) ∈ pairs) :
    (t ∈ documented qs ↔ ∃ p ∈ c.params, p.name = s) ∧
      (s ∈ documented qs ↔ ¬ ∃ p ∈ c.params, p.name = s) := by
  obtain ⟨ht, hspelling⟩ := (h.mem_iff s t).mp hpair
  have hs : s ∈ c.extra := h.extra _ hpair
  have hd := h.accurate hregular hc hnames
  obtain ⟨htarget, hnew⟩ := hc.missing t ht
  obtain ⟨hforeign, hsource⟩ := hc.extra s hs
  -- Neither of the two names is left after matching, so nothing happens to them later on.
  have htDone : t ∉ (c.matchAll pairs).missing := fun hmem =>
    ((mem_missing_matchAll hregular.nodup_missing).mp hmem).2 (List.mem_map_of_mem (f := (·.2)) hpair)
  have hsDone : s ∉ (c.matchAll pairs).extra := fun hmem =>
    ((mem_extra_matchAll hregular.nodup_extra).mp hmem).2 (List.mem_map_of_mem (f := (·.1)) hpair)
  constructor
  · have halone : c.SpeltAlone t ↔ ∃ p ∈ c.params, p.name = s := by
      unfold SpeltAlone
      rw [hspelling]
      simp only [Option.mem_some_iff, forall_eq']
    rw [hfinished.others t htDone fun hmem => (hd.extra t hmem).1 htarget,
      h.mem_documented_iff hregular (fun s hs t ht => hc.isCorrection hnames hs ht) htarget, halone]
    simp only [hnew, ht, htDone, not_false_eq_true, true_and, false_or]
  · rw [hfinished.others s (fun hmem => hforeign (hd.missing s hmem).1) hsDone,
      (h.progress hc hnames).2 s hforeign]
    simp only [hsource, List.mem_map_of_mem (f := (·.1)) hpair, true_and]

/-- **What is left after matching a second time**: what was left the first time, as far as it is not
settled.  No parameter is renamed. -/
theorem again (h : c.Respells pairs) (hregular : c.IsRegular) (hc : Accurate names c)
    (hnames : ∀ n ∈ names, IsSingle n ∧ n ≠ []) (hfinished : Finished names (c.matchAll pairs) qs)
    {more : List (Text × Text)} (h' : d.Respells more) (hregular' : d.IsRegular) (hparams : d.params = qs)
    (hmissing : d.missing = c.missing.filter (· ∉ documented qs))
    (hextra : d.extra = c.extra.filter (· ∈ documented qs)) :
    (d.matchAll more).params = qs ∧
      (d.matchAll more).missing = (c.matchAll pairs).missing.filter (· ∉ documented qs) ∧
      (d.matchAll more).extra = (c.matchAll pairs).extra.filter (· ∈ documented qs) := by
  have hdoc {s t : Text} (hpair : (s, t) ∈ pairs) := h.documented_iff hregular hc hnames hfinished hpair
  have hone : ∀ t ∈ c.missing, ∀ s ∈ c.spelling? t, (t ∈ documented qs ↔ s ∉ documented qs) := by
    intro t ht s hs
    have hpair := hdoc ((h.mem_iff s t).mpr ⟨ht, hs⟩)
    rw [hpair.1, hpair.2, not_not]
  -- The same pairs are found, except for those whose missing name is documented now.
  have hmore (s t : Text) : (s, t) ∈ more ↔ (s, t) ∈ pairs ∧ t ∉ documented qs := by
    rw [h'.mem_iff, h.mem_iff]
    by_cases ht : t ∈ d.missing
    · rw [spelling?_of_filter hregular.unstarred hmissing hextra hone ht]
      rw [hmissing, List.mem_filter, decide_eq_true_eq] at ht
      simp [hmissing, ht]
    · have hnot : ¬ (t ∈ c.missing ∧ t ∉ documented qs) := by
        rwa [hmissing, List.mem_filter, decide_eq_true_eq] at ht
      simp only [ht, false_and, false_iff]
      exact fun h => hnot ⟨h.1.1, h.2⟩
  refine ⟨?_, ?_, ?_⟩
  · rw [params_matchAll_of_not_exists, hparams]
    rintro ⟨s, t⟩ hpair ⟨p, hp, rfl⟩
    obtain ⟨hpair, hnew⟩ := (hmore _ _).mp hpair
    have hforeign := (hc.extra _ (h.extra _ hpair)).1
    refine hnew ((hdoc hpair).1.mpr ?_)
    have hcorrect (pair : Text × Text) (hpair : pair ∈ pairs) : IsCorrection names pair.1 pair.2 :=
      hc.isCorrection hnames (h.extra pair hpair) (h.missing pair hpair)
    refine exists_name_of_matchAll hcorrect hforeign ?_
    exact hfinished.named _ hforeign ⟨p, hparams ▸ hp, rfl⟩
  · have hsame (t : Text) (ht : t ∉ documented qs) : t ∈ more.map (·.2) ↔ t ∈ pairs.map (·.2) := by
      simp [hmore, ht]
    rw [missing_matchAll, missing_matchAll, hregular'.nodup_missing.sdiff_eq_filter,
      hregular.nodup_missing.sdiff_eq_filter, hmissing, List.filter_filter, List.filter_filter]
    refine List.filter_congr fun t _ => ?_
    by_cases ht : t ∈ documented qs
    · simp [ht]
    · rw [decide_eq_decide.mpr (not_congr (hsame t ht)), Bool.and_comm]
  · have hsame (s : Text) (hs : s ∈ documented qs) : s ∈ more.map (·.1) ↔ s ∈ pairs.map (·.1) := by
      constructor
      · intro hmem
        obtain ⟨⟨s, t⟩, hpair, rfl⟩ := List.mem_map.mp hmem
        exact List.mem_map_of_mem (f := (·.1)) ((hmore s t).mp hpair).1
      · intro hmem
        obtain ⟨⟨s, t⟩, hpair, rfl⟩ := List.mem_map.mp hmem
        -- The spelling is still documented, so the missing name is not.
        have hnew : t ∉ documented qs := by
          rw [(hdoc hpair).1]
          exact (hdoc hpair).2.mp hs
        exact List.mem_map_of_mem (f := (·.1)) ((hmore s t).mpr ⟨hpair, hnew⟩)
    rw [extra_matchAll, extra_matchAll, hregular'.nodup_extra.sdiff_eq_filter,
      hregular.nodup_extra.sdiff_eq_filter, hextra, List.filter_filter, List.filter_filter]
    refine List.filter_congr fun s _ => ?_
    by_cases hs : s ∈ documented qs
    · rw [decide_eq_decide.mpr (not_congr (hsame s hs)), Bool.and_comm]
    · simp [hs]

end Comparison.Respells

/-- A second run finds the parameters as the first one left them, and it says whether they match. -/
theorem fix_again {verdict : Verdict} (hsig : PlainSignature sig)
    (hfixers : settings.runFixers = true) (hps : (documented ps).Nodup) (hnil : [] ∉ documented ps)
    (h : (fix settings place sig.names sig ps).result = .ok verdict) :
    ∃ hasPlaceholder mismatch, (fix settings place sig.names sig verdict.params).result =
      .ok ⟨verdict.params, hasPlaceholder, some mismatch⟩ := by
  obtain ⟨-, c, fixed, mismatch, hpair, hsettle, rfl⟩ := (fix_eq_ok_iff hfixers).mp h
  have hnames : ∀ n ∈ withoutReceiver sig.names, IsSingle n ∧ n ≠ [] := fun n hn =>
    isSingle_of_mem_names hsig (mem_withoutReceiver hn)
  have hregular := isRegular_comparison hsig ps
  have hregular' := isRegular_comparison hsig fixed
  have hc := accurate_comparison (withoutReceiver sig.names) hps hnil
  obtain ⟨pairs, hrespells, hresult⟩ := result_pair place hregular
  obtain ⟨more, hrespells', hresult'⟩ := result_pair place hregular'
  -- What the first run does.
  have hd := hrespells.accurate hregular hc hnames
  have houtcome := outcome_of_settle (hresult.symm.trans hpair) hsettle
  have hfinished := houtcome.finished hd hnames
  have hprogress := (hrespells.progress hc hnames).1.trans hfinished.progress
  -- What the second run finds.
  obtain ⟨hparams, hmissing, hextra⟩ := hrespells.again hregular hc hnames hfinished hrespells' hregular'
    rfl (missing_of_progress hprogress) (extra_of_progress hprogress hps)
  obtain ⟨c', mismatch', hlast, hsettle'⟩ := houtcome.again hd hnames hparams hmissing hextra
  refine ⟨_, mismatch', (fix_eq_ok_iff hfixers).mpr ⟨fun hempty => ?_, c', fixed, mismatch',
    hresult'.trans hlast, hsettle', rfl⟩⟩
  have hmem : [] ∈ namesExtra (withoutReceiver sig.names) fixed := hempty ▸ List.mem_singleton_self []
  refine nil_not_mem_of_progress hprogress (fun hmem => (hnames [] hmem).2 rfl) hnil ?_
  exact List.mem_eraseDups.mp (List.mem_filter.mp hmem).1

end DocTidy.Fixer
