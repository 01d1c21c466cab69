import DocTidy.Proofs.Fixer.Preservation

/-!
# Names under another spelling

A name of the signature that nothing documents may be documented all the same, without its stars or
in quotes.  `spelling?` says which extra name stands for a missing one.  Pairing matches exactly these
names with one another, whatever becomes of the parameters, before it looks at a last pair
(`result_pair`).
-/

namespace DocTidy.Fixer

open Text

variable {names : List Text} {ps qs : List Param} {n s t place : Text} {c : Comparison}
  {sig : Signature} {pairs : List (Text × Text)}

/-! ## Plain names -/

/-- A name that a function header can hold has no stars, commas, quotes and white space. -/
def IsPlain (n : Text) : Prop :=
  n ≠ [] ∧ ∀ ch ∈ n, ch ≠ '*' ∧ ch ≠ ',' ∧ Comparison.isQuote ch = false ∧ isSpace ch = false

instance (n : Text) : Decidable (IsPlain n) :=
  @instDecidableAnd _ _ inferInstance (List.decidableBAll
    (fun ch => ch ≠ '*' ∧ ch ≠ ',' ∧ Comparison.isQuote ch = false ∧ isSpace ch = false) n)

/-- The names of a signature are plain, apart from their stars. -/
structure PlainSignature (sig : Signature) : Prop where
  args : ∀ a ∈ sig.args, IsPlain a.name
  varargs : ∀ v ∈ sig.varargs, IsPlain v
  varkwargs : ∀ v ∈ sig.varkwargs, IsPlain v

/-- A single name, with no white space around it. -/
def IsSingle (n : Text) : Prop := ',' ∉ n ∧ strip n = n

theorem isSingle_of_forall (h : ∀ ch ∈ n, ch ≠ ',' ∧ isSpace ch = false) : IsSingle n := by
  refine ⟨fun hcomma => (h _ hcomma).1 rfl, ?_⟩
  have hleft : stripLeft n = n := by
    cases n with
    | nil => rfl
    | cons ch r => exact List.dropWhile_cons_of_neg (by simp [(h ch List.mem_cons_self).2])
  rw [strip, hleft, stripRight_eq_self_iff]
  intro ch hch
  exact (h ch (List.mem_of_getLast? hch)).2

theorem isSingle_of_mem_documented (h : n ∈ documented ps) : IsSingle n := by
  obtain ⟨p, -, -, piece, hpiece, rfl⟩ := mem_documented.mp h
  exact ⟨not_mem_strip (not_mem_of_mem_splitOn _ _ hpiece), strip_strip piece⟩

theorem documented_append (ps qs : List Param) :
    documented (ps ++ qs) = documented ps ++ documented qs := List.flatMap_append

theorem documented_cons (p : Param) (ps : List Param) :
    documented (p :: ps) = documented [p] ++ documented ps := documented_append [p] ps

/-- A parameter of one name documents that name. -/
theorem documented_of_isSingle {p : Param} (h : IsSingle p.name) (hne : p.name ≠ []) :
    documented [p] = [p.name] := by
  simp only [documented, List.flatMap_singleton]
  rw [if_neg (by simpa using hne), List.splitOn_eq_singleton h.1, List.map_singleton, h.2]

theorem documented_of_eq_nil {p : Param} (h : p.name = []) : documented [p] = [] := by
  simp [documented, h]

/-- What the names of a signature look like. -/
theorem mem_names_cases (hsig : PlainSignature sig) (hn : n ∈ sig.names) :
    IsPlain n ∨ (∃ v, n = '*' :: v ∧ IsPlain v ∧ sig.varargs = some v) ∨
      ∃ v, n = '*' :: '*' :: v ∧ IsPlain v ∧ sig.varkwargs = some v := by
  unfold Signature.names at hn
  rw [List.mem_append, List.mem_append] at hn
  obtain (harg | hvar) | hvar := hn
  · obtain ⟨a, ha, rfl⟩ := List.mem_map.mp harg
    exact .inl (hsig.args a ha)
  · obtain ⟨v, hv, rfl⟩ := Option.map_eq_some_iff.mp (Option.mem_toList.mp hvar)
    exact .inr (.inl ⟨v, rfl, hsig.varargs v hv, hv⟩)
  · obtain ⟨v, hv, rfl⟩ := Option.map_eq_some_iff.mp (Option.mem_toList.mp hvar)
    exact .inr (.inr ⟨v, rfl, hsig.varkwargs v hv, hv⟩)

theorem isSingle_of_mem_names (hsig : PlainSignature sig) (hn : n ∈ sig.names) :
    IsSingle n ∧ n ≠ [] := by
  have hplain {v : Text} (hv : IsPlain v) : ∀ ch ∈ v, ch ≠ ',' ∧ isSpace ch = false :=
    fun ch hch => ⟨(hv.2 ch hch).2.1, (hv.2 ch hch).2.2.2⟩
  have hstar : '*' ≠ ',' ∧ isSpace '*' = false := by decide
  rcases mem_names_cases hsig hn with hn | ⟨v, rfl, hv, -⟩ | ⟨v, rfl, hv, -⟩
  · exact ⟨isSingle_of_forall (hplain hn), hn.1⟩
  · refine ⟨isSingle_of_forall ?_, List.cons_ne_nil _ _⟩
    exact List.forall_mem_cons.mpr ⟨hstar, hplain hv⟩
  · refine ⟨isSingle_of_forall ?_, List.cons_ne_nil _ _⟩
    exact List.forall_mem_cons.mpr ⟨hstar, List.forall_mem_cons.mpr ⟨hstar, hplain hv⟩⟩

theorem IsPlain.not_star (h : IsPlain ('*' :: n)) : False := (h.2 '*' List.mem_cons_self).1 rfl

/-- Behind two stars stands the name of the keywords. -/
theorem of_two_stars_mem_names (hsig : PlainSignature sig) (h : '*' :: '*' :: n ∈ sig.names) :
    IsPlain n ∧ sig.varkwargs = some n := by
  rcases mem_names_cases hsig h with hn | ⟨v, heq, hv, -⟩ | ⟨v, heq, hv, hvar⟩
  · exact hn.not_star.elim
  · obtain ⟨-, rfl⟩ := List.cons.inj heq
    exact hv.not_star.elim
  · obtain ⟨-, heq⟩ := List.cons.inj heq
    obtain ⟨-, rfl⟩ := List.cons.inj heq
    exact ⟨hv, hvar⟩

/-- Behind one star stands the name of the further arguments. -/
theorem of_star_mem_names (hsig : PlainSignature sig) (h : '*' :: n ∈ sig.names)
    (hn : n.head? ≠ some '*') : IsPlain n ∧ sig.varargs = some n := by
  rcases mem_names_cases hsig h with hn | ⟨v, heq, hv, hvar⟩ | ⟨v, heq, hv, -⟩
  · exact hn.not_star.elim
  · obtain ⟨-, rfl⟩ := List.cons.inj heq
    exact ⟨hv, hvar⟩
  · obtain ⟨-, rfl⟩ := List.cons.inj heq
    exact absurd rfl hn

theorem head?_of_mem_extra (h : n ∈ (comparison names ps).extra) : n.head? ≠ some '*' := by
  have hnew := (List.mem_filter.mp (List.mem_filter.mp h).1).2
  simp only [Bool.and_eq_true, Bool.not_eq_true'] at hnew
  rintro hstar
  obtain ⟨r, rfl⟩ := List.head?_eq_some_iff.mp hstar
  simp [startsWith] at hnew

namespace Comparison

theorem unquoted?_of_isPlain (h : IsPlain n) : unquoted? n = none := by
  obtain ⟨ch, r, rfl⟩ := List.exists_cons_of_ne_nil h.1
  unfold unquoted?
  rw [List.head?_cons, Option.map_some, Option.getD_some,
    (h.2 ch List.mem_cons_self).2.2.1, Bool.false_and, if_neg (by decide)]

/-! ## Matching a list of names -/

/-- Matches several pairs of an extra and a missing name, one after the other. -/
def matchAll (c : Comparison) (pairs : List (Text × Text)) : Comparison :=
  pairs.foldl (fun c pair => c.matchUp pair.1 pair.2) c

@[simp] theorem matchAll_nil (c : Comparison) : c.matchAll [] = c := rfl

@[simp] theorem matchAll_cons (c : Comparison) (pair : Text × Text) (pairs : List (Text × Text)) :
    c.matchAll (pair :: pairs) = (c.matchUp pair.1 pair.2).matchAll pairs := rfl

theorem matchAll_append (c : Comparison) (pairs more : List (Text × Text)) :
    c.matchAll (pairs ++ more) = (c.matchAll pairs).matchAll more := List.foldl_append

theorem missing_matchAll (c : Comparison) (pairs : List (Text × Text)) :
    (c.matchAll pairs).missing = c.missing.diff (pairs.map (·.2)) := by
  induction pairs generalizing c with
  | nil => rfl
  | cons pair pairs ih =>
    rw [matchAll_cons, ih, List.map_cons, List.diff_cons]
    rfl

theorem extra_matchAll (c : Comparison) (pairs : List (Text × Text)) :
    (c.matchAll pairs).extra = c.extra.diff (pairs.map (·.1)) := by
  induction pairs generalizing c with
  | nil => rfl
  | cons pair pairs ih =>
    rw [matchAll_cons, ih, List.map_cons, List.diff_cons]
    rfl

/-- Pairs that are matched one after the other: no name is used twice. -/
structure IsMatching (c : Comparison) (pairs : List (Text × Text)) : Prop where
  extra : ∀ pair ∈ pairs, pair.1 ∈ c.extra
  missing : ∀ pair ∈ pairs, pair.2 ∈ c.missing
  nodup_extra : (pairs.map (·.1)).Nodup
  nodup_missing : (pairs.map (·.2)).Nodup

theorem IsMatching.nil (c : Comparison) : c.IsMatching [] :=
  ⟨nofun, nofun, List.nodup_nil, List.nodup_nil⟩

theorem mem_extra_matchAll (hextra : c.extra.Nodup) :
    n ∈ (c.matchAll pairs).extra ↔ n ∈ c.extra ∧ n ∉ pairs.map (·.1) := by
  rw [extra_matchAll]
  exact hextra.mem_sdiff_iff

theorem mem_missing_matchAll (hmissing : c.missing.Nodup) :
    n ∈ (c.matchAll pairs).missing ↔ n ∈ c.missing ∧ n ∉ pairs.map (·.2) := by
  rw [missing_matchAll]
  exact hmissing.mem_sdiff_iff

/-- A matching can be continued with one of the names that it leaves. -/
theorem IsMatching.append {more : List (Text × Text)} (hextra : c.extra.Nodup)
    (hmissing : c.missing.Nodup) (h : c.IsMatching pairs) (hmore : (c.matchAll pairs).IsMatching more) :
    c.IsMatching (pairs ++ more) := by
  have hnewExtra : ∀ pair ∈ more, pair.1 ∈ c.extra ∧ pair.1 ∉ pairs.map (·.1) := fun pair hpair =>
    (mem_extra_matchAll hextra).mp (hmore.extra pair hpair)
  have hnewMissing : ∀ pair ∈ more, pair.2 ∈ c.missing ∧ pair.2 ∉ pairs.map (·.2) := fun pair hpair =>
    (mem_missing_matchAll hmissing).mp (hmore.missing pair hpair)
  constructor
  · intro pair hpair
    exact (List.mem_append.mp hpair).elim (h.extra pair) fun hpair => (hnewExtra pair hpair).1
  · intro pair hpair
    exact (List.mem_append.mp hpair).elim (h.missing pair) fun hpair => (hnewMissing pair hpair).1
  · rw [List.map_append]
    refine List.nodup_append'.mpr ⟨h.nodup_extra, hmore.nodup_extra, ?_⟩
    intro n hn hnew
    obtain ⟨pair, hpair, rfl⟩ := List.mem_map.mp hnew
    exact (hnewExtra pair hpair).2 hn
  · rw [List.map_append]
    refine List.nodup_append'.mpr ⟨h.nodup_missing, hmore.nodup_missing, ?_⟩
    intro n hn hnew
    obtain ⟨pair, hpair, rfl⟩ := List.mem_map.mp hnew
    exact (hnewMissing pair hpair).2 hn

/-! ## Stars -/

/-- Where at most one name can get its stars back, that one is matched. -/
theorem exists_restoreStars (stars : Text)
    (hunique : ∀ s ∈ c.extra, ∀ s' ∈ c.extra, stars ++ s ∈ c.missing → stars ++ s' ∈ c.missing → s = s') :
    ∃ pairs, c.restoreStars stars = c.matchAll pairs ∧ c.IsMatching pairs ∧
      ∀ s t, (s, t) ∈ pairs ↔ t ∈ c.missing ∧ s ∈ c.extra ∧ t = stars ++ s := by
  unfold restoreStars
  split
  · rename_i target hfind
    have htarget : target ∈ c.missing := List.mem_of_find?_eq_some hfind
    have hsome := List.find?_some hfind
    obtain ⟨source, hsource, hstars⟩ := List.any_eq_true.mp hsome
    obtain rfl := beq_iff_eq.mp hstars
    refine ⟨[(source, stars ++ source)], ?_, ⟨?_, ?_, ?_, ?_⟩, ?_⟩
    · rw [List.drop_left]
      rfl
    · simpa using hsource
    · simpa using htarget
    · exact List.nodup_singleton _
    · exact List.nodup_singleton _
    · intro s t
      rw [List.mem_singleton, Prod.mk.injEq]
      constructor
      · rintro ⟨rfl, rfl⟩
        exact ⟨htarget, hsource, rfl⟩
      · rintro ⟨ht, hs, rfl⟩
        obtain rfl := hunique s hs source hsource ht htarget
        exact ⟨rfl, rfl⟩
  · rename_i hfind
    refine ⟨[], rfl, .nil c, ?_⟩
    intro s t
    refine ⟨nofun, ?_⟩
    rintro ⟨ht, hs, rfl⟩
    refine absurd ?_ (List.find?_eq_none.mp hfind _ ht)
    exact List.any_eq_true.mpr ⟨s, hs, beq_self_eq_true _⟩

/-! ## Quotes -/

/-- Each missing name is matched with the first name that quotes it. -/
theorem exists_foldlM_unquote {ns : List Text} (hns : ns.Nodup) (hextra : c.extra.Nodup)
    (hmissing : c.missing.Nodup) (hsub : ∀ m ∈ ns, m ∈ c.extra) :
    ∃ pairs, (ns.foldlM unquote c).result = .ok (c.matchAll pairs) ∧ c.IsMatching pairs ∧
      ∀ s t, (s, t) ∈ pairs ↔
        t ∈ c.missing ∧ ns.find? (fun m => unquoted? m == some t) = some s := by
  induction ns generalizing c with
  | nil => exact ⟨[], rfl, .nil c, by simp⟩
  | cons m ns ih =>
    rw [List.nodup_cons] at hns
    rw [List.forall_mem_cons] at hsub
    by_cases hquoted : ∃ bare ∈ c.missing, unquoted? m = some bare
    · obtain ⟨bare, hbare, hm⟩ := hquoted
      -- The name is matched, and its bare form is not missing any more for the names that follow.
      have hfirst : c.IsMatching [(m, bare)] :=
        ⟨by simpa using hsub.1, by simpa using hbare, List.nodup_singleton _, List.nodup_singleton _⟩
      have hothers : ∀ k ∈ ns, k ∈ (c.matchUp m bare).extra := by
        intro k hk
        refine (List.mem_erase_of_ne ?_).mpr (hsub.2 k hk)
        rintro rfl
        exact hns.1 hk
      obtain ⟨pairs, hpairs, hmatching, hiff⟩ := ih hns.2 (hextra.erase m) (hmissing.erase bare) hothers
      refine ⟨(m, bare) :: pairs, ?_, hfirst.append hextra hmissing hmatching, ?_⟩
      · rw [List.foldlM_cons, Run.result_bind_eq_ok]
        refine ⟨c.matchUp m bare, ?_, hpairs⟩
        unfold unquote
        rw [hm]
        dsimp only
        rw [if_pos (List.contains_iff_mem.mpr hbare)]
        rfl
      · intro s t
        rw [List.mem_cons, hiff, Prod.mk.injEq, show (c.matchUp m bare).missing = c.missing.erase bare from rfl,
          hmissing.mem_erase_iff, List.find?_cons, hm]
        by_cases htarget : t = bare
        · subst htarget
          simp [hbare, eq_comm]
        · have hne : (some bare == some t) = false := by simpa using Ne.symm htarget
          rw [hne]
          simp [htarget]
    · obtain ⟨pairs, hpairs, hmatching, hiff⟩ := ih hns.2 hextra hmissing hsub.2
      refine ⟨pairs, ?_, hmatching, ?_⟩
      · rw [List.foldlM_cons, Run.result_bind_eq_ok]
        refine ⟨c, ?_, hpairs⟩
        unfold unquote
        split
        · rename_i bare hm
          rw [if_neg fun hmem => hquoted ⟨bare, List.contains_iff_mem.mp hmem, hm⟩]
          rfl
        · rfl
      · intro s t
        rw [hiff, List.find?_cons]
        refine and_congr_right fun ht => ?_
        have hne : (unquoted? m == some t) = false := by
          rw [beq_eq_false_iff_ne]
          exact fun hm => hquoted ⟨t, ht, hm⟩
        rw [hne]

/-! ## Spellings -/

/-- The name is what is left of `target` without its stars.  A name that has lost one star has not lost
two. -/
def lacksStars (missing : List Text) (target name : Text) : Bool :=
  target == '*' :: name || target == '*' :: '*' :: name && !missing.contains ('*' :: name)

/-- The extra name that stands for a missing one: the one that lacks its stars or else the first one
that quotes it. -/
def spelling? (c : Comparison) (target : Text) : Option Text :=
  (c.extra.find? (lacksStars c.missing target)).or
    (c.extra.find? fun n => unquoted? n == some target)

theorem mem_extra_of_spelling? (h : c.spelling? t = some s) : s ∈ c.extra := by
  rcases Option.or_eq_some_iff.mp h with h | ⟨-, h⟩
  · exact List.mem_of_find?_eq_some h
  · exact List.mem_of_find?_eq_some h

theorem lacksStars_iff {missing : List Text} : lacksStars missing t n = true ↔
    t = '*' :: n ∨ t = '*' :: '*' :: n ∧ '*' :: n ∉ missing := by
  simp [lacksStars]

/-- No two names without a leading star lack the same stars. -/
theorem find?_lacksStars {missing extra : List Text} (hextra : ∀ n ∈ extra, n.head? ≠ some '*') :
    extra.find? (lacksStars missing t) = some s ↔ s ∈ extra ∧ lacksStars missing t s = true := by
  refine ⟨fun h => ⟨List.mem_of_find?_eq_some h, List.find?_some h⟩, ?_⟩
  rintro ⟨hs, hlacks⟩
  cases hfind : extra.find? (lacksStars missing t) with
  | none => exact absurd hlacks (List.find?_eq_none.mp hfind s hs)
  | some s' =>
    have hs' := hextra s' (List.mem_of_find?_eq_some hfind)
    have hlacks' := List.find?_some hfind
    rw [lacksStars_iff] at hlacks hlacks'
    -- One star of difference between the two would be a leading star of the longer one.
    rcases hlacks with rfl | ⟨rfl, -⟩ <;> rcases hlacks' with heq | ⟨heq, -⟩
    · rw [(List.cons.inj heq).2]
    · exact absurd (by rw [(List.cons.inj heq).2]; rfl) (hextra s hs)
    · exact absurd (by rw [← (List.cons.inj heq).2]; rfl) hs'
    · rw [(List.cons.inj (List.cons.inj heq).2).2]

/-- The pairs of an extra name and the missing one that it stands for. -/
structure Respells (c : Comparison) (pairs : List (Text × Text)) : Prop extends IsMatching c pairs where
  mem_iff : ∀ s t, (s, t) ∈ pairs ↔ t ∈ c.missing ∧ c.spelling? t = some s

/-- What is true of the names that are compared with those of a plain signature: no name repeats, no
extra name is starred, and one name at most can get one star or two. -/
structure IsRegular (c : Comparison) : Prop where
  nodup_extra : c.extra.Nodup
  nodup_missing : c.missing.Nodup
  unstarred : ∀ n ∈ c.extra, n.head? ≠ some '*'
  one : ∀ s ∈ c.extra, ∀ s' ∈ c.extra, '*' :: s ∈ c.missing → '*' :: s' ∈ c.missing → s = s'
  two : ∀ s s', '*' :: '*' :: s ∈ c.missing → '*' :: '*' :: s' ∈ c.missing → s = s'
  unquoted : ∀ s ∈ c.extra, '*' :: s ∈ c.missing ∨ '*' :: '*' :: s ∈ c.missing → unquoted? s = none

/-- The names that lost their stars are matched by putting first one star in front, and then two. -/
theorem exists_stars (h : c.IsRegular) :
    ∃ pairs, (c.restoreStars "*").restoreStars "**" = c.matchAll pairs ∧ c.IsMatching pairs ∧
      ∀ s t, (s, t) ∈ pairs ↔ t ∈ c.missing ∧ c.extra.find? (lacksStars c.missing t) = some s := by
  obtain ⟨first, hfirst, hmatching, hmem⟩ := exists_restoreStars (c := c) "*" h.one
  replace hmem : ∀ s t, (s, t) ∈ first ↔ t ∈ c.missing ∧ s ∈ c.extra ∧ t = '*' :: s := hmem
  have hmemFirst (s : Text) : s ∈ first.map (·.1) ↔ s ∈ c.extra ∧ '*' :: s ∈ c.missing := by
    rw [List.mem_map]
    constructor
    · rintro ⟨⟨s, t⟩, hpair, rfl⟩
      obtain ⟨ht, hs, rfl⟩ := (hmem s t).mp hpair
      exact ⟨hs, ht⟩
    · rintro ⟨hs, ht⟩
      exact ⟨(s, '*' :: s), (hmem _ _).mpr ⟨ht, hs, rfl⟩, rfl⟩
  obtain ⟨second, hsecond, hmatching', hmem'⟩ := exists_restoreStars (c := c.matchAll first) "**"
    fun s _ s' _ hs hs' => h.two s s' ((mem_missing_matchAll h.nodup_missing).mp hs).1
      ((mem_missing_matchAll h.nodup_missing).mp hs').1
  refine ⟨first ++ second, ?_, hmatching.append h.nodup_extra h.nodup_missing hmatching', ?_⟩
  · rw [hfirst, hsecond, matchAll_append]
  · intro s t
    rw [List.mem_append, hmem, hmem', find?_lacksStars h.unstarred, lacksStars_iff,
      mem_missing_matchAll h.nodup_missing, mem_extra_matchAll h.nodup_extra, hmemFirst]
    show _ ∨ (t ∈ c.missing ∧ _) ∧ (s ∈ c.extra ∧ _) ∧ t = '*' :: '*' :: s ↔ _
    constructor
    · rintro (⟨ht, hs, rfl⟩ | ⟨⟨ht, -⟩, ⟨hs, hone⟩, rfl⟩)
      · exact ⟨ht, hs, .inl rfl⟩
      · exact ⟨ht, hs, .inr ⟨rfl, fun hmissing => hone ⟨hs, hmissing⟩⟩⟩
    · rintro ⟨ht, hs, rfl | ⟨rfl, hone⟩⟩
      · exact .inl ⟨ht, hs, rfl⟩
      · refine .inr ⟨⟨ht, fun hmatched => ?_⟩, ⟨hs, fun hmatched => hone hmatched.2⟩, rfl⟩
        -- What was matched with one star before has no second star.
        obtain ⟨⟨s', t'⟩, hpair, heq⟩ := List.mem_map.mp hmatched
        obtain ⟨-, hs', rfl⟩ := (hmem s' t').mp hpair
        exact absurd (by rw [(List.cons.inj heq).2]; rfl) (h.unstarred s' hs')

/-- Names that quote nothing can be matched without a change to those that quote a name. -/
theorem find?_unquoted_matchAll (hextra : c.extra.Nodup)
    (hplain : ∀ pair ∈ pairs, unquoted? pair.1 = none) (t : Text) :
    (c.matchAll pairs).extra.find? (fun n => unquoted? n == some t) =
      c.extra.find? fun n => unquoted? n == some t := by
  rw [extra_matchAll, hextra.sdiff_eq_filter, List.find?_filter]
  congr 1
  funext n
  by_cases hn : n ∈ pairs.map (·.1)
  · obtain ⟨pair, hpair, rfl⟩ := List.mem_map.mp hn
    simp [hplain pair hpair]
  · simp only [hn, not_false_eq_true, decide_true, true_and, Bool.decide_eq_true]

/-- **Stars and quotes together match every missing name that has a spelling with it.** -/
theorem exists_respells (h : c.IsRegular) :
    ∃ pairs, c.Respells pairs ∧
      ((((c.restoreStars "*").restoreStars "**").extra.foldlM unquote
        ((c.restoreStars "*").restoreStars "**")).result = .ok (c.matchAll pairs)) := by
  obtain ⟨stars, hstars, hmatching, hmem⟩ := exists_stars h
  have hplain : ∀ pair ∈ stars, unquoted? pair.1 = none := by
    rintro ⟨s, t⟩ hpair
    obtain ⟨ht, hfind⟩ := (hmem s t).mp hpair
    refine h.unquoted s (List.mem_of_find?_eq_some hfind) ?_
    rcases lacksStars_iff.mp (List.find?_some hfind) with rfl | ⟨rfl, -⟩
    · exact .inl ht
    · exact .inr ht
  rw [hstars]
  have hextra : (c.matchAll stars).extra.Nodup := extra_matchAll c stars ▸ h.nodup_extra.diff
  have hmissing : (c.matchAll stars).missing.Nodup := missing_matchAll c stars ▸ h.nodup_missing.diff
  obtain ⟨quotes, hquotes, hmatching', hmem'⟩ :=
    exists_foldlM_unquote hextra hextra hmissing fun m hm => hm
  refine ⟨stars ++ quotes, ⟨hmatching.append h.nodup_extra h.nodup_missing hmatching', ?_⟩, ?_⟩
  · intro s t
    -- Quotes are looked at for the names that are left when the stars are back.
    have hleft : t ∈ (c.matchAll stars).missing ↔
        t ∈ c.missing ∧ c.extra.find? (lacksStars c.missing t) = none := by
      rw [mem_missing_matchAll h.nodup_missing]
      refine and_congr_right fun ht => ?_
      rw [Option.eq_none_iff_forall_ne_some, List.mem_map]
      constructor
      · exact fun hnot s hs => hnot ⟨(s, t), (hmem s t).mpr ⟨ht, hs⟩, rfl⟩
      · rintro hnot ⟨⟨s, t⟩, hpair, rfl⟩
        exact hnot s ((hmem s t).mp hpair).2
    rw [List.mem_append, hmem, hmem', hleft, find?_unquoted_matchAll h.nodup_extra hplain, spelling?,
      Option.or_eq_some_iff, and_or_left, and_assoc]
  · rw [hquotes, matchAll_append]

/-- Where no name is missing, or none is extra, there is no spelling. -/
theorem respells_nil (h : c.missing = [] ∨ c.extra = []) : c.Respells [] := by
  refine ⟨.nil c, fun s t => ⟨nofun, ?_⟩⟩
  rintro ⟨ht, hs⟩
  rcases h with h | h
  · rw [h] at ht
    cases ht
  · have hmem := mem_extra_of_spelling? hs
    rw [h] at hmem
    cases hmem

/-- The last pair of names is matched if a parameter has the extra name and no other. -/
theorem renameLast_cases (place : Text) (c : Comparison) :
    (c.renameLast place).result = .ok c ∨
      ∃ s t qs, c.missing = [t] ∧ c.extra = [s] ∧ rename? s t c.params = some qs ∧
        (c.renameLast place).result = .ok ⟨qs, [], []⟩ := by
  obtain ⟨ps, missing, extra⟩ := c
  unfold renameLast
  dsimp only
  split
  · rename_i t s
    by_cases hrename : mayRename s t = true
    · rw [if_pos hrename]
      cases hparams : rename? s t ps with
      | none => exact .inl rfl
      | some qs => exact .inr ⟨s, t, qs, rfl, rfl, hparams, rfl⟩
    · rw [if_neg hrename]
      exact .inl rfl
  · exact .inl rfl

end Comparison

/-! ## Pairing and fixing -/

theorem isRegular_comparison (hsig : PlainSignature sig) (ps : List Param) :
    (comparison (withoutReceiver sig.names) ps).IsRegular := by
  have hnames : ∀ n ∈ (comparison (withoutReceiver sig.names) ps).missing, n ∈ sig.names :=
    fun n hn => mem_withoutReceiver (of_mem_missing hn).1
  refine ⟨nodup_extra _ ps, nodup_missing _ ps, fun n hn => head?_of_mem_extra hn, ?_, ?_, ?_⟩
  · intro s hs s' hs' ht ht'
    have hvar := of_star_mem_names hsig (hnames _ ht) (head?_of_mem_extra hs)
    have hvar' := of_star_mem_names hsig (hnames _ ht') (head?_of_mem_extra hs')
    exact Option.some.inj (hvar.2.symm.trans hvar'.2)
  · intro s s' ht ht'
    have hvar := of_two_stars_mem_names hsig (hnames _ ht)
    have hvar' := of_two_stars_mem_names hsig (hnames _ ht')
    exact Option.some.inj (hvar.2.symm.trans hvar'.2)
  · rintro s hs (ht | ht)
    · have hvar := of_star_mem_names hsig (hnames _ ht) (head?_of_mem_extra hs)
      exact Comparison.unquoted?_of_isPlain hvar.1
    · exact Comparison.unquoted?_of_isPlain (of_two_stars_mem_names hsig (hnames _ ht)).1

/-- **Pairing matches every missing name with its spelling**, and then the last pair of names, if one
is left. -/
theorem result_pair (place : Text) (h : c.IsRegular) :
    ∃ pairs, c.Respells pairs ∧
      (c.pair place).result = ((c.matchAll pairs).renameLast place).result := by
  unfold Comparison.pair
  by_cases hnone : (c.missing.isEmpty || c.extra.isEmpty) = true
  · rw [if_pos hnone]
    rw [Bool.or_eq_true, List.isEmpty_iff, List.isEmpty_iff] at hnone
    refine ⟨[], Comparison.respells_nil hnone, ?_⟩
    rcases Comparison.renameLast_cases place c with hlast | ⟨s, t, qs, hmissing, hextra, -, -⟩
    · exact hlast.symm
    · rw [hmissing, hextra] at hnone
      simp at hnone
  · rw [if_neg hnone]
    obtain ⟨pairs, hrespells, hquotes⟩ := Comparison.exists_respells h
    refine ⟨pairs, hrespells, ?_⟩
    rw [Run.result_bind, hquotes]
    rfl

theorem fix_eq_ok_iff {settings : Settings} {verdict : Verdict} (hfixers : settings.runFixers = true) :
    (fix settings place names sig ps).result = .ok verdict ↔
      namesExtra (withoutReceiver names) ps ≠ [[]] ∧
      ∃ c fixed mismatch, ((comparison (withoutReceiver names) ps).pair place).result = .ok c ∧
        (settle settings place sig c).result = .ok (fixed, mismatch) ∧
        verdict = ⟨fixed, ps.any fun p => startsWith p.type "<", some mismatch⟩ := by
  unfold fix
  rw [hfixers, Bool.not_true, if_neg Bool.false_ne_true]
  dsimp only
  by_cases hempty : namesExtra (withoutReceiver names) ps = [[]]
  · rw [if_pos (beq_iff_eq.mpr hempty)]
    exact ⟨nofun, fun h => absurd hempty h.1⟩
  · rw [if_neg (mt beq_iff_eq.mp hempty), Run.result_bind_eq_ok]
    simp only [Run.result_bind_eq_ok, Run.result_pure, Except.ok.injEq, Prod.exists, hempty,
      ne_eq, not_false_eq_true, true_and]
    constructor
    · rintro ⟨c, hpair, fixed, mismatch, hsettle, rfl⟩
      exact ⟨c, fixed, mismatch, hpair, hsettle, rfl⟩
    · rintro ⟨c, fixed, mismatch, hpair, hsettle, rfl⟩
      exact ⟨c, hpair, fixed, mismatch, hsettle, rfl⟩

end DocTidy.Fixer
