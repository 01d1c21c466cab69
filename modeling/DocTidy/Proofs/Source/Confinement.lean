import DocTidy.Proofs.Source.Tidy

/-!
# Where the edits of a pass fall

Every character of a source is marked: it is open if it stands in the docstring of a function that
the pass goes through, and closed otherwise.  The edits are made again on the marked text, where
what they put in is open.  They leave the closed characters alone exactly when no piece of text that
is taken out holds one.
-/

namespace DocTidy.Source

open Text

/-- A text whose characters are marked as open to change or not. -/
abbrev Marked := List (Char × Bool)

namespace Marked

variable {old new : Text} {m : Marked}

def text (m : Marked) : Text := m.map (·.1)

/-- A source in which the characters in the given spans are open. -/
def ofSpans (spans : List (Nat × Nat)) (source : Text) : Marked :=
  source.zipIdx.map fun (c, i) => (c, spans.any fun (start, stop) => start ≤ i && i < stop)

/-- An outline after an open character, which joins the gap that follows it. -/
def withGap (rest : List (Option Char)) : List (Option Char) :=
  if rest.head? = some none then rest else none :: rest

/-- The closed characters in order, with one gap for every run of open ones. -/
def outline : Marked → List (Option Char)
  | [] => []
  | (c, isOpen) :: r => if isOpen then withGap (outline r) else some c :: outline r

/-- The number of closed characters. -/
def closedCount (m : Marked) : Nat := m.countP fun x => !x.2

/-- The text is the marked one with other characters in the gaps. -/
def EditedInGaps (m : Marked) (t : Text) : Prop := ∃ m' : Marked, m'.text = t ∧ m'.outline = m.outline

/-! ## Replacing in a marked text -/

/-- Replaces the occurrences of `old`, from left to right; `skip` counts the characters of an
occurrence that are still to be passed over.  What is put in is open. -/
def replaceFrom (old new : Text) : Nat → Marked → Marked
  | _, [] => []
  | skip + 1, _ :: r => replaceFrom old new skip r
  | 0, x :: r =>
    if old.isPrefixOf (text (x :: r)) then
      new.map (·, true) ++ replaceFrom old new (old.length - 1) r
    else x :: replaceFrom old new 0 r

/-- The pieces that `replaceFrom` takes out. -/
def piecesFrom (old : Text) : Nat → Marked → List Marked
  | _, [] => []
  | skip + 1, _ :: r => piecesFrom old skip r
  | 0, x :: r =>
    if old.isPrefixOf (text (x :: r)) then
      (x :: r).take old.length :: piecesFrom old (old.length - 1) r
    else piecesFrom old 0 r

def replace (m : Marked) (old new : Text) : Marked := replaceFrom old new 0 m

def pieces (m : Marked) (old : Text) : List Marked := piecesFrom old 0 m

/-- All characters are open. -/
def IsOpen (m : Marked) : Prop := ∀ x ∈ m, x.2 = true

instance (m : Marked) : Decidable (IsOpen m) := inferInstanceAs (Decidable (∀ x ∈ m, x.2 = true))

@[simp] theorem text_nil : text [] = [] := rfl

@[simp] theorem text_cons (x : Char × Bool) (r : Marked) : text (x :: r) = x.1 :: text r := rfl

@[simp] theorem text_append (m m' : Marked) : text (m ++ m') = text m ++ text m' := List.map_append

theorem text_opened (t : Text) : text (t.map (·, true)) = t := by
  simp [text, Function.comp_def]

theorem isOpen_opened (t : Text) : IsOpen (t.map (·, true)) := by
  intro x hx
  obtain ⟨c, -, rfl⟩ := List.mem_map.mp hx
  rfl

theorem text_replaceFrom (old new : Text) (skip : Nat) (m : Marked) :
    text (replaceFrom old new skip m) = Text.replaceFrom old new skip (text m) := by
  induction m generalizing skip with
  | nil => cases skip <;> rfl
  | cons x r ih =>
    cases skip with
    | succ skip => exact ih skip
    | zero =>
      rw [replaceFrom, text_cons, Text.replaceFrom]
      split
      · rw [text_append, text_opened, ih]
      · rw [text_cons, ih]

theorem text_replace (old new : Text) (m : Marked) :
    text (replace m old new) = Text.replace old new (text m) := text_replaceFrom old new 0 m

/-! ## Closed characters -/

theorem closedCount_append (m m' : Marked) :
    closedCount (m ++ m') = closedCount m + closedCount m' := List.countP_append

theorem closedCount_eq_zero_iff : closedCount m = 0 ↔ IsOpen m := by
  simp [closedCount, IsOpen]

/-- Closed characters are lost with the pieces that are taken out, and only with them. -/
theorem closedCount_replaceFrom (hold : old ≠ []) (new : Text) (skip : Nat) (m : Marked) :
    closedCount (replaceFrom old new skip m) + ((piecesFrom old skip m).map closedCount).sum =
      closedCount (m.drop skip) := by
  induction m generalizing skip with
  | nil => simp [replaceFrom, piecesFrom]
  | cons x r ih =>
    cases skip with
    | succ skip => exact ih skip
    | zero =>
      rw [replaceFrom, piecesFrom]
      split
      · -- A piece goes from here to the end of the characters that are skipped.
        have hlen : old.length = (old.length - 1) + 1 := by
          have := List.length_pos_iff.mpr hold
          omega
        have hopen : closedCount (new.map (·, true)) = 0 :=
          closedCount_eq_zero_iff.mpr (isOpen_opened new)
        have hsplit : closedCount ((x :: r).take old.length) +
            closedCount (r.drop (old.length - 1)) = closedCount (x :: r) := by
          rw [← closedCount_append, hlen, List.take_succ_cons, List.cons_append]
          simp only [Nat.add_sub_cancel, List.take_append_drop]
        have := ih (old.length - 1)
        rw [closedCount_append, hopen, List.map_cons, List.sum_cons, List.drop_zero]
        omega
      · have := ih 0
        rw [List.drop_zero] at this ⊢
        have hcons (m : Marked) : closedCount (x :: m) = closedCount [x] + closedCount m :=
          closedCount_append [x] m
        rw [hcons, hcons r]
        omega

/-- The outline knows how many closed characters there are. -/
theorem countP_outline (m : Marked) : m.outline.countP Option.isSome = closedCount m := by
  induction m with
  | nil => rfl
  | cons x r ih =>
    obtain ⟨c, isOpen⟩ := x
    cases isOpen with
    | true =>
      rw [closedCount, List.countP_cons, outline, if_pos rfl, withGap]
      split
      · rw [ih]
        rfl
      · rw [List.countP_cons, ih]
        rfl
    | false =>
      rw [closedCount, List.countP_cons, outline, if_neg (by decide), List.countP_cons, ih]
      rfl

/-! ## Gaps -/

theorem withGap_withGap (o : List (Option Char)) : withGap (withGap o) = withGap o := by
  unfold withGap
  split <;> simp_all

/-- An open run shows as one gap, whatever it holds. -/
theorem outline_open_append {piece : Marked} (hopen : IsOpen piece) (hne : piece ≠ [])
    (m : Marked) : outline (piece ++ m) = withGap (outline m) := by
  induction piece with
  | nil => exact absurd rfl hne
  | cons x piece ih =>
    obtain ⟨c, isOpen⟩ := x
    obtain rfl : isOpen = true := hopen (c, isOpen) List.mem_cons_self
    rw [List.cons_append, outline, if_pos rfl]
    by_cases hnil : piece = []
    · rw [hnil, List.nil_append]
    · rw [ih (fun x hx => hopen x (List.mem_cons_of_mem _ hx)) hnil, withGap_withGap]

/-- Replacing open pieces leaves the outline as it is. -/
theorem outline_replaceFrom (hold : old ≠ []) (hnew : new ≠ []) (skip : Nat) (m : Marked)
    (hpieces : ∀ piece ∈ piecesFrom old skip m, IsOpen piece) :
    outline (replaceFrom old new skip m) = outline (m.drop skip) := by
  induction m generalizing skip with
  | nil => simp [replaceFrom]
  | cons x r ih =>
    cases skip with
    | succ skip => exact ih skip hpieces
    | zero =>
      rw [piecesFrom] at hpieces
      rw [replaceFrom, List.drop_zero]
      split
      · rename_i hprefix
        rw [if_pos hprefix] at hpieces
        have hlen : old.length = (old.length - 1) + 1 := by
          have := List.length_pos_iff.mpr hold
          omega
        have hpiece : IsOpen ((x :: r).take old.length) := hpieces _ List.mem_cons_self
        have hrest : outline (replaceFrom old new (old.length - 1) r) =
            outline ((x :: r).drop old.length) := by
          rw [ih _ fun p hp => hpieces p (List.mem_cons_of_mem _ hp), hlen]
          rfl
        -- What is put in and what is taken out are both one gap.
        rw [outline_open_append (isOpen_opened new) (by simpa using hnew), hrest,
          ← outline_open_append hpiece (by rw [hlen]; simp), List.take_append_drop]
      · rename_i hprefix
        rw [if_neg hprefix] at hpieces
        rw [outline, outline, ih 0 hpieces, List.drop_zero]

/-! ## Several edits -/

/-- The marked text after edits, each made on what the ones before have left. -/
def traced (m : Marked) (edits : List (Text × Text)) : Marked :=
  edits.foldl (fun m edit => m.replace edit.1 edit.2) m

/-- Every edit takes out open characters only. -/
def TakesOutOpen (m : Marked) : List (Text × Text) → Prop
  | [] => True
  | (old, new) :: rest =>
    (∀ piece ∈ m.pieces old, IsOpen piece) ∧ TakesOutOpen (m.replace old new) rest

instance decidableTakesOutOpen : ∀ edits (m : Marked), Decidable (TakesOutOpen m edits)
  | [], _ => .isTrue trivial
  | (old, new) :: rest, m =>
    have := decidableTakesOutOpen rest (m.replace old new)
    inferInstanceAs (Decidable (_ ∧ _))

theorem text_traced (edits : List (Text × Text)) (m : Marked) :
    text (traced m edits) = Tidier.edited edits (text m) := by
  induction edits generalizing m with
  | nil => rfl
  | cons edit rest ih =>
    change text (traced (m.replace edit.1 edit.2) rest) = _
    rw [ih, text_replace]
    rfl

theorem closedCount_traced_le {edits : List (Text × Text)}
    (hedits : ∀ edit ∈ edits, edit.1 ≠ [] ∧ edit.2 ≠ []) (m : Marked) :
    closedCount (traced m edits) ≤ closedCount m := by
  induction edits generalizing m with
  | nil => exact Nat.le_refl _
  | cons edit rest ih =>
    have hcount := closedCount_replaceFrom (hedits edit List.mem_cons_self).1 edit.2 0 m
    rw [List.drop_zero] at hcount
    have hrest := ih (fun e he => hedits e (List.mem_cons_of_mem _ he)) (m.replace edit.1 edit.2)
    change closedCount (traced (m.replace edit.1 edit.2) rest) ≤ _
    unfold replace at hrest
    unfold replace
    omega

/-- Edits keep the outline exactly when they take out open characters only. -/
theorem outline_traced_iff {edits : List (Text × Text)}
    (hedits : ∀ edit ∈ edits, edit.1 ≠ [] ∧ edit.2 ≠ []) (m : Marked) :
    outline (traced m edits) = outline m ↔ TakesOutOpen m edits := by
  induction edits generalizing m with
  | nil => simp [traced, TakesOutOpen]
  | cons edit rest ih =>
    obtain ⟨old, new⟩ := edit
    obtain ⟨hold, hnew⟩ : old ≠ [] ∧ new ≠ [] := hedits (old, new) List.mem_cons_self
    have hrest : ∀ edit ∈ rest, edit.1 ≠ [] ∧ edit.2 ≠ [] :=
      fun e he => hedits e (List.mem_cons_of_mem _ he)
    change outline (traced (m.replace old new) rest) = outline m ↔ _
    rw [TakesOutOpen, ← ih hrest]
    constructor
    · intro h
      have hcount : closedCount (traced (m.replace old new) rest) = closedCount m := by
        rw [← countP_outline, ← countP_outline, h]
      have hle := closedCount_traced_le hrest (m.replace old new)
      have hsum := closedCount_replaceFrom hold new 0 m
      rw [List.drop_zero] at hsum
      -- No closed character is lost in the end, so none is lost by the first edit.
      have hpieces : ∀ piece ∈ m.pieces old, IsOpen piece := by
        have hzero : ((piecesFrom old 0 m).map closedCount).sum = 0 := by
          unfold replace at hcount hle
          omega
        intro piece hpiece
        rw [← closedCount_eq_zero_iff]
        exact List.sum_eq_zero_iff_forall_eq_nat.mp hzero _ (List.mem_map_of_mem hpiece)
      refine ⟨hpieces, h.trans ?_⟩
      exact (outline_replaceFrom hold hnew 0 m hpieces).symm
    · rintro ⟨hpieces, h⟩
      rw [h]
      exact outline_replaceFrom hold hnew 0 m hpieces

/-! ## The end of an edited text -/

theorem text_eq_of_outline {t : Text} (h : outline m = t.map some) : text m = t := by
  induction m generalizing t with
  | nil => simpa [outline] using h
  | cons x r ih =>
    obtain ⟨c, isOpen⟩ := x
    cases isOpen with
    | true =>
      exfalso
      rw [outline, if_pos rfl, withGap] at h
      split at h
      · rename_i hhead
        cases t <;> simp_all
      · cases t <;> simp at h
    | false =>
      rw [outline, if_neg (by decide)] at h
      cases t with
      | nil => cases h
      | cons d t =>
        rw [List.map_cons, List.cons.injEq, Option.some.injEq] at h
        rw [text_cons, ih h.2, h.1]

theorem suffix_of_suffix_outline {t : Text} (h : t.map some <:+ outline m) : t <:+ text m := by
  induction m with
  | nil => simpa [outline] using h
  | cons x r ih =>
    obtain ⟨c, isOpen⟩ := x
    have hcons : t.map some = outline ((c, isOpen) :: r) ∨ t.map some <:+ outline r := by
      cases isOpen with
      | true =>
        rw [outline, if_pos rfl, withGap] at h ⊢
        split at h
        · exact .inr h
        · rename_i hhead
          rw [if_neg hhead]
          exact List.suffix_cons_iff.mp h
      | false =>
        rw [outline, if_neg (by decide)] at h ⊢
        exact List.suffix_cons_iff.mp h
    obtain hwhole | hrest := hcons
    · exact (text_eq_of_outline hwhole.symm).symm ▸ List.suffix_refl t
    · exact (ih hrest).trans (List.suffix_cons _ _)

theorem outline_suffix_append (m m' : Marked) : outline m' <:+ outline (m ++ m') := by
  induction m with
  | nil => exact List.suffix_refl _
  | cons x r ih =>
    rw [List.cons_append, outline]
    split
    · unfold withGap
      split
      · exact ih
      · exact ih.trans (List.suffix_cons _ _)
    · exact ih.trans (List.suffix_cons _ _)

theorem outline_closed (hclosed : ∀ x ∈ m, x.2 = false) : outline m = (text m).map some := by
  induction m with
  | nil => rfl
  | cons x r ih =>
    rw [outline, hclosed x List.mem_cons_self, if_neg (by decide),
      ih fun y hy => hclosed y (List.mem_cons_of_mem _ hy), text_cons, List.map_cons]

/-- The closed characters at the end stay at the end. -/
theorem EditedInGaps.suffix {m' : Marked} {t : Text} (hclosed : ∀ x ∈ m', x.2 = false)
    (h : EditedInGaps (m ++ m') t) : text m' <:+ t := by
  obtain ⟨edited, rfl, houtline⟩ := h
  apply suffix_of_suffix_outline
  rw [houtline, ← outline_closed hclosed]
  exact outline_suffix_append m m'

end Marked

/-! ## The edits of a pass -/

/-- Where the docstrings of some functions stand. -/
def docstringSpans (functions : List Function) : List (Nat × Nat) :=
  functions.filterMap fun f => f.docstring?.map fun d => (d.position.offset, d.stop)

/-- A source with the docstrings of some functions open to change. -/
def markDocstrings (functions : List Function) (source : Text) : Marked :=
  Marked.ofSpans (docstringSpans functions) source

theorem text_markDocstrings (functions : List Function) (source : Text) :
    (markDocstrings functions source).text = source := by
  unfold markDocstrings Marked.ofSpans Marked.text
  rw [List.map_map]
  exact List.zipIdx_map_fst 0 source

namespace Tidier

variable {o : Tidier} {skip : SkipList} {file source : Text} {t : Tidied}

/-- **When a pass edits docstrings only.**  The edits are followed on the marked source, and end
with the text of the pass.  All that stands outside the docstrings of the functions gone through is
still there, with changes in the gaps only, exactly when every piece of text that an edit takes out
stands inside such docstrings. -/
theorem tidy_confined_iff (h : (o.tidy skip file source).result = .ok t) :
    ∃ functions, functionsIn skip source = .ok functions ∧
      ((markDocstrings functions source).traced (o.edits file functions)).text = t.text ∧
      (((markDocstrings functions source).traced (o.edits file functions)).outline =
          (markDocstrings functions source).outline ↔
        (markDocstrings functions source).TakesOutOpen (o.edits file functions)) ∧
      ((markDocstrings functions source).TakesOutOpen (o.edits file functions) →
        (markDocstrings functions source).EditedInGaps t.text) := by
  obtain ⟨functions, hfunctions, hfold⟩ := tidy_ok h
  have hedits : ∀ edit ∈ o.edits file functions, edit.1 ≠ [] ∧ edit.2 ≠ [] := by
    intro edit hedit
    obtain ⟨f, -, hf⟩ := List.mem_filterMap.mp hedit
    exact ne_nil_of_edit? hf
  have htext : ((markDocstrings functions source).traced (o.edits file functions)).text =
      t.text := by
    rw [Marked.text_traced, text_markDocstrings, foldlM_step_text functions _ _ hfold]
  have hiff := Marked.outline_traced_iff hedits (markDocstrings functions source)
  exact ⟨functions, hfunctions, htext, hiff, fun hopen => ⟨_, htext, hiff.mpr hopen⟩⟩

/-- Two functions with the same docstring. -/
def twins : Text :=
  "def f():\n \"\"\"A\n\n Note\n ----\n n\n \"\"\"\ndef g():\n \"\"\"A\n\n Note\n ----\n n\n \"\"\"\n"

/-- The twins after the docstring of the first is tidied. -/
def twinsTidied : Text :=
  "def f():\n \"\"\"A\n\n Notes\n -----\n n\n \"\"\"\ndef g():\n \"\"\"A\n\n Notes\n -----\n n\n \"\"\"\n"

/-- With no function passed over, both docstrings are open, and the edits stay inside them. -/
theorem twins_edited_in_docstrings :
    ∃ functions, functionsIn (some []) twins = .ok functions ∧
      (markDocstrings functions twins).EditedInGaps twinsTidied := by
  have htidy : (careful.tidy (some []) "m.py" twins).result = .ok ⟨twinsTidied, true⟩ :=
    Run.eq_ok_of_toOption (by decide +kernel)
  obtain ⟨functions, hfunctions, -, -, hconfined⟩ := tidy_confined_iff htidy
  refine ⟨functions, hfunctions, hconfined ?_⟩
  have hopen : (functionsIn (some []) twins).toOption.all (fun functions =>
      (markDocstrings functions twins).TakesOutOpen (careful.edits "m.py" functions)) = true := by
    decide +kernel
  rw [hfunctions] at hopen
  exact of_decide_eq_true hopen

/-- The first of the twins. -/
def firstTwin : Function :=
  ⟨["f"], "f", ⟨[], none, none⟩, some ⟨"A\n\n Note\n ----\n n\n ", ⟨2, 1, 10⟩, 35⟩⟩

/-- **An edit outside the docstrings gone through.**  The second twin is on the skip list, and yet
its docstring is replaced. -/
theorem twins_edited_outside_docstrings :
    functionsIn (some [some "g"]) twins = .ok [firstTwin] ∧
      (careful.tidy (some [some "g"]) "m.py" twins).result = .ok ⟨twinsTidied, true⟩ ∧
      ¬ (markDocstrings [firstTwin] twins).EditedInGaps twinsTidied := by
  refine ⟨Run.eq_ok_of_toOption (by decide +kernel), Run.eq_ok_of_toOption (by decide +kernel), ?_⟩
  intro hedited
  -- All that follows the docstring of the first twin is closed, but the result ends otherwise.
  have hclosed : ∀ x ∈ (markDocstrings [firstTwin] twins).drop 35, x.2 = false := by
    decide +kernel
  rw [← List.take_append_drop 35 (markDocstrings [firstTwin] twins)] at hedited
  have hend := hedited.suffix hclosed
  revert hend
  decide +kernel

end Tidier
end DocTidy.Source
