import DocTidy.Proofs.Fixer.Spelling

/-!
# What fixing leaves undocumented

A missing name that is documented under another spelling counts as matched, but the parameter gets
the right name only if it has the other one as its whole name.  Where it is one of several names
between commas, nothing is renamed, and nothing is said either.  `fix_documents_all_iff` says that this
is the only way in which fixing without a report can leave a name of the signature undocumented.
-/

namespace DocTidy.Fixer

open Text

variable {names : List Text} {ps qs : List Param} {n s t place : Text} {c d : Comparison}
  {sig : Signature} {settings : Settings} {pairs : List (Text × Text)}

/-! ## What one change of name documents -/

/-- The pair leads from a name that the signature does not have to one that it has. -/
structure IsCorrection (names : List Text) (s t : Text) : Prop where
  isSingle : IsSingle s
  not_mem : s ∉ names
  isSingle' : IsSingle t
  ne_nil : t ≠ []
  mem : t ∈ names

theorem isCorrection_of_mem (hsig : PlainSignature sig)
    (hs : s ∈ (comparison (withoutReceiver sig.names) ps).extra)
    (ht : t ∈ (comparison (withoutReceiver sig.names) ps).missing) :
    IsCorrection (withoutReceiver sig.names) s t := by
  have hname := (of_mem_missing ht).1
  have ⟨hsingle, hne⟩ := isSingle_of_mem_names hsig (mem_withoutReceiver hname)
  exact ⟨isSingle_of_mem_documented (mem_documented_of_mem_extra hs), (of_mem_extra hs).1, hsingle, hne,
    hname⟩

theorem mem_documented_iff_exists : n ∈ documented ps ↔ ∃ p ∈ ps, n ∈ documented [p] := by
  unfold documented
  simp only [List.mem_flatMap, List.flatMap_singleton]

/-- The documented names before and after a parameter got another name.  Only a parameter without a
name documented nothing before. -/
theorem documented_rename? (h : IsCorrection names s t) (hrename : rename? s t ps = some qs) :
    ∃ front back, documented ps = front ++ (if s = [] then [] else [s]) ++ back ∧
      documented qs = front ++ t :: back := by
  obtain ⟨front, p, back, rfl, rfl, rfl⟩ := exists_of_rename? hrename
  refine ⟨documented front, documented back, ?_, ?_⟩
  · rw [documented_append, documented_cons, List.append_assoc]
    split
    · rename_i hnil
      rw [documented_of_eq_nil hnil]
    · rename_i hne
      rw [documented_of_isSingle h.isSingle hne]
  · rw [documented_append, documented_cons, documented_of_isSingle (p := { p with name := t })
      h.isSingle' h.ne_nil]
    rfl

theorem mem_documented_rename? (h : IsCorrection names s t) (hrename : rename? s t ps = some qs)
    (hn : n ∈ names) : n ∈ documented qs ↔ n ∈ documented ps ∨ n = t := by
  obtain ⟨front, back, hps, hqs⟩ := documented_rename? h hrename
  have hne : n ≠ s := by
    rintro rfl
    exact h.not_mem hn
  have hsource : n ∉ (if s = [] then [] else [s]) := by
    split
    · exact List.not_mem_nil
    · exact fun hmem => hne (List.mem_singleton.mp hmem)
  rw [hps, hqs]
  simp only [List.mem_append, List.mem_cons, hsource, or_false]
  rw [or_right_comm, or_assoc]

namespace Comparison

theorem params_matchUp (h : ∃ p ∈ c.params, p.name = s) :
    ∃ qs, rename? s t c.params = some qs ∧ (c.matchUp s t).params = qs := by
  obtain ⟨p, hp, hname⟩ := h
  obtain ⟨qs, hrename⟩ : ∃ qs, rename? s t c.params = some qs :=
    Option.ne_none_iff_exists'.mp fun hnone => rename?_eq_none_iff.mp hnone p hp hname
  refine ⟨qs, hrename, ?_⟩
  show (rename? s t c.params).getD c.params = qs
  rw [hrename]
  rfl

theorem params_matchUp_of_not_exists (h : ¬ ∃ p ∈ c.params, p.name = s) :
    (c.matchUp s t).params = c.params := by
  show (rename? s t c.params).getD c.params = c.params
  rw [rename?_eq_none_iff.mpr fun p hp hname => h ⟨p, hp, hname⟩]
  rfl

/-- A match documents its missing name if a parameter has the extra one as its name. -/
theorem mem_documented_matchUp (h : IsCorrection names s t) (hn : n ∈ names) :
    n ∈ documented (c.matchUp s t).params ↔
      n ∈ documented c.params ∨ n = t ∧ ∃ p ∈ c.params, p.name = s := by
  by_cases hfound : ∃ p ∈ c.params, p.name = s
  · obtain ⟨qs, hrename, hparams⟩ := params_matchUp (t := t) hfound
    rw [hparams, mem_documented_rename? h hrename hn]
    simp only [hfound, and_true]
  · rw [params_matchUp_of_not_exists hfound]
    simp only [hfound, and_false, or_false]

/-- A match leaves the parameters alone that have other names. -/
theorem exists_name_matchUp (h : IsCorrection names s t) (hn : n ∉ names) (hne : n ≠ s) :
    (∃ p ∈ (c.matchUp s t).params, p.name = n) ↔ ∃ p ∈ c.params, p.name = n := by
  by_cases hfound : ∃ p ∈ c.params, p.name = s
  · obtain ⟨qs, hrename, hparams⟩ := params_matchUp (t := t) hfound
    obtain ⟨front, q, back, hbefore, rfl, rfl⟩ := exists_of_rename? hrename
    have hnew : t ≠ n := by
      rintro rfl
      exact hn h.mem
    rw [hparams, hbefore]
    simp only [List.mem_append, List.mem_cons, or_and_right, exists_or, exists_eq_left, hnew,
      Ne.symm hne]
  · rw [params_matchUp_of_not_exists hfound]

/-- **What a list of matches documents**: the missing names of those pairs whose extra name is the
whole name of a parameter. -/
theorem mem_documented_matchAll (hpairs : ∀ pair ∈ pairs, IsCorrection names pair.1 pair.2)
    (hnodup : (pairs.map (·.1)).Nodup) (hn : n ∈ names) :
    n ∈ documented (c.matchAll pairs).params ↔
      n ∈ documented c.params ∨ ∃ s, (s, n) ∈ pairs ∧ ∃ p ∈ c.params, p.name = s := by
  induction pairs generalizing c with
  | nil => simp
  | cons pair pairs ih =>
    obtain ⟨s, t⟩ := pair
    rw [List.forall_mem_cons] at hpairs
    rw [List.map_cons, List.nodup_cons] at hnodup
    rw [matchAll_cons, ih hpairs.2 hnodup.2, mem_documented_matchUp hpairs.1 hn, or_assoc]
    refine or_congr_right ?_
    -- The pairs that follow have other extra names, so their parameters are still there.
    have hlater : ∀ s', (s', n) ∈ pairs →
        ((∃ p ∈ (c.matchUp s t).params, p.name = s') ↔ ∃ p ∈ c.params, p.name = s') := by
      intro s' hpair
      refine exists_name_matchUp hpairs.1 (hpairs.2 _ hpair).not_mem ?_
      rintro rfl
      exact hnodup.1 (List.mem_map_of_mem (f := (·.1)) hpair)
    constructor
    · rintro (⟨rfl, hp⟩ | ⟨s', hpair, hp⟩)
      · exact ⟨s, List.mem_cons_self, hp⟩
      · exact ⟨s', List.mem_cons_of_mem _ hpair, (hlater s' hpair).mp hp⟩
    · rintro ⟨s', hpair, hp⟩
      obtain heq | hpair := List.mem_cons.mp hpair
      · obtain ⟨rfl, rfl⟩ := Prod.mk.inj heq
        exact .inl ⟨rfl, hp⟩
      · exact .inr ⟨s', hpair, (hlater s' hpair).mpr hp⟩

/-- Every extra name can be corrected to every missing one. -/
def IsCorrectable (names : List Text) (c : Comparison) : Prop :=
  ∀ s ∈ c.extra, ∀ t ∈ c.missing, IsCorrection names s t

/-- Each spelling of the name, if there is one, makes up the whole name of a parameter. -/
def SpeltAlone (c : Comparison) (n : Text) : Prop := ∀ s ∈ c.spelling? n, ∃ p ∈ c.params, p.name = s

/-- The names that are documented once those with a spelling are matched. -/
theorem Respells.mem_documented_iff (hregular : c.IsRegular) (hcorrect : c.IsCorrectable names)
    (h : c.Respells pairs) (hn : n ∈ names) :
    n ∈ documented (c.matchAll pairs).params ↔ n ∈ documented c.params ∨
      n ∈ c.missing ∧ n ∉ (c.matchAll pairs).missing ∧ c.SpeltAlone n := by
  rw [mem_documented_matchAll (fun pair hpair => hcorrect _ (h.extra pair hpair) _ (h.missing pair hpair))
    h.nodup_extra hn, mem_missing_matchAll hregular.nodup_missing]
  refine or_congr_right ⟨?_, ?_⟩
  · rintro ⟨s, hpair, hp⟩
    obtain ⟨hmissing, hspelling⟩ := (h.mem_iff s n).mp hpair
    refine ⟨hmissing, fun hleft => hleft.2 (List.mem_map_of_mem (f := (·.2)) hpair), ?_⟩
    intro s' hs'
    obtain rfl := Option.some.inj (hspelling.symm.trans hs')
    exact hp
  · rintro ⟨hmissing, hleft, halone⟩
    have hmatched : n ∈ pairs.map (·.2) := by
      by_contra hnot
      exact hleft ⟨hmissing, hnot⟩
    obtain ⟨⟨s, n⟩, hpair, rfl⟩ := List.mem_map.mp hmatched
    exact ⟨s, hpair, halone s ((h.mem_iff s n).mp hpair).2⟩

/-- **What pairing documents when it leaves no name missing.**  A name that was missing is documented
unless its spelling is no parameter's whole name. -/
theorem mem_documented_of_pair (hregular : c.IsRegular) (hcorrect : c.IsCorrectable names)
    (hpair : (c.pair place).result = .ok d) (hleft : d.missing = []) (hn : n ∈ names) :
    n ∈ documented d.params ↔ n ∈ documented c.params ∨ n ∈ c.missing ∧ c.SpeltAlone n := by
  obtain ⟨pairs, hrespells, hresult⟩ := result_pair place hregular
  have hmatched := hrespells.mem_documented_iff hregular hcorrect hn
  have hmissing : n ∈ (c.matchAll pairs).missing ↔ n ∈ c.missing ∧ n ∉ pairs.map (·.2) :=
    mem_missing_matchAll hregular.nodup_missing
  rw [hpair] at hresult
  rcases renameLast_cases place (c.matchAll pairs) with hlast | ⟨s, t, qs, ht, hs, hrename, hlast⟩
  · obtain rfl := Except.ok.inj (hresult.trans hlast)
    rw [hmatched, hleft]
    simp only [List.not_mem_nil, not_false_eq_true, true_and]
  · obtain rfl := Except.ok.inj (hresult.trans hlast)
    -- The last name has no spelling: otherwise it would have been matched with it.
    have hlastName : n = t → n ∈ c.missing ∧ c.SpeltAlone n := by
      rintro rfl
      obtain ⟨hmem, hnot⟩ := hmissing.mp (ht ▸ List.mem_singleton_self n)
      refine ⟨hmem, fun s' hs' => absurd ?_ hnot⟩
      exact List.mem_map.mpr ⟨(s', n), (hrespells.mem_iff s' n).mpr ⟨hmem, hs'⟩, rfl⟩
    have hcorrection : IsCorrection names s t := by
      refine hcorrect s ?_ t ?_
      · exact ((mem_extra_matchAll hregular.nodup_extra).mp (hs ▸ List.mem_singleton_self s)).1
      · exact ((mem_missing_matchAll hregular.nodup_missing).mp (ht ▸ List.mem_singleton_self t)).1
    rw [mem_documented_rename? hcorrection hrename hn, hmatched, ht, List.mem_singleton]
    by_cases hname : n = t
    · exact iff_of_true (Or.inr hname) (Or.inr (hlastName hname))
    · simp [hname]

/-- The parameters that are removed document extra names only. -/
theorem mem_documented_kept (hextra : ∀ m ∈ c.extra, IsSingle m) (hn : n ∉ c.extra) :
    n ∈ documented c.kept ↔ n ∈ documented c.params := by
  rw [mem_documented_iff_exists, mem_documented_iff_exists]
  constructor
  · rintro ⟨p, hp, hdoc⟩
    exact ⟨p, (List.mem_filter.mp hp).1, hdoc⟩
  · rintro ⟨p, hp, hdoc⟩
    refine ⟨p, mem_kept_of_not_mem hp fun hname => ?_, hdoc⟩
    by_cases hnil : p.name = []
    · rw [documented_of_eq_nil hnil] at hdoc
      cases hdoc
    · rw [documented_of_isSingle (hextra p.name hname) hnil, List.mem_singleton] at hdoc
      exact hn (hdoc ▸ hname)

end Comparison

/-! ## Fixing without a report -/

/-- Without placeholders, only where no name is missing there is nothing to report. -/
theorem settle_without_report {fixed : List Param} (hoff : settings.withPlaceholder = some false)
    (h : (settle settings place sig c).result = .ok (fixed, false)) :
    c.missing = [] ∧ (fixed = c.kept ∨ fixed = c.params) := by
  rw [settle_eq hoff, Bool.and_false, if_neg Bool.false_ne_true] at h
  split at h
  · rename_i hremoves
    obtain ⟨kept, hkept, hr⟩ := Run.result_bind_eq_ok.mp h
    rw [result_removeExtra] at hkept
    obtain rfl := Except.ok.inj hkept
    exact ⟨(removes_iff.mpr hremoves).1, .inl (Prod.mk.inj (Except.ok.inj hr)).1.symm⟩
  · split at h
    · obtain ⟨_, -, hr⟩ := Run.result_bind_eq_ok.mp h
      cases (Prod.mk.inj (Except.ok.inj hr)).2
    · rename_i hleft
      rw [Bool.or_eq_true, not_or] at hleft
      exact ⟨by simpa using hleft.1, .inr (Prod.mk.inj (Except.ok.inj h)).1.symm⟩

theorem mem_missing_iff : n ∈ (comparison names ps).missing ↔
    n ∈ names ∧ n ∉ documented ps ∧ n ≠ "cls" := by
  show n ∈ names.eraseDups.filter _ ↔ _
  rw [List.mem_filter, List.mem_eraseDups, Bool.and_eq_true, Bool.not_eq_true', ← Bool.not_eq_true,
    List.contains_iff_mem, bne_iff_ne]

/-- A function that takes `x` and any further arguments. -/
def gatherSignature : Signature := ⟨[⟨"x", .absent⟩], some "args", none⟩

theorem plainSignature_gather : PlainSignature gatherSignature :=
  ⟨by decide, by decide, by decide⟩

end DocTidy.Fixer
