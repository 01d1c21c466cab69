import DocTidy.Proofs.Document.Editing
import DocTidy.Proofs.Renewal.Headings

/-!
# The sections that printing comes to

Printing goes through the recorded names in order and ends with the first that cannot be printed.
As a document accounts for its contents, every section with contents of its own is among the names,
and once only.  Printing comes to it exactly if it gets past the names before it.
-/

namespace DocTidy

open Text

namespace Run

variable {α β : Type} {f : α → Run β} {a : α}

/-- The items that a loop comes to: the last one is the first that fails, if one does. -/
def reached (f : α → Run β) : List α → List α
  | [] => []
  | a :: l =>
    match (f a).result with
    | .ok _ => a :: reached f l
    | .error _ => [a]

theorem reached_of_ok {b : β} (h : (f a).result = .ok b) (l : List α) :
    reached f (a :: l) = a :: reached f l := by
  rw [reached, h]

theorem reached_of_error {e : Error} (h : (f a).result = .error e) (l : List α) :
    reached f (a :: l) = [a] := by
  rw [reached, h]

theorem bind_of_error {γ : Type} {x : Run β} {e : Error} (h : x.result = .error e)
    (g g' : β → Run γ) : x >>= g = x >>= g' := by
  change x.andThen g = x.andThen g'
  rw [andThen, andThen, h]

/-- A loop over the items that it comes to is the whole loop, its notes included. -/
theorem mapM_reached (f : α → Run β) (l : List α) : (reached f l).mapM f = l.mapM f := by
  induction l with
  | nil => rfl
  | cons a l ih =>
    cases h : (f a).result with
    | ok b => rw [reached_of_ok h, List.mapM_cons, List.mapM_cons, ih]
    | error e =>
      rw [reached_of_error h, List.mapM_cons, List.mapM_cons]
      exact bind_of_error h _ _

theorem reached_prefix (f : α → Run β) (l : List α) : reached f l <+: l := by
  induction l with
  | nil => exact List.prefix_rfl
  | cons a l ih =>
    cases h : (f a).result with
    | ok b =>
      rw [reached_of_ok h, List.prefix_cons_inj]
      exact ih
    | error e =>
      rw [reached_of_error h]
      exact ⟨l, rfl⟩

/-- A loop comes to an item exactly if it gets past those before it. -/
theorem mem_reached_iff {front : List α} (ha : a ∉ front) (back : List α) :
    a ∈ reached f (front ++ a :: back) ↔ ∀ b ∈ front, ∃ c, (f b).result = .ok c := by
  induction front with
  | nil =>
    refine iff_of_true ?_ fun b hb => absurd hb List.not_mem_nil
    cases h : (f a).result with
    | ok c =>
      rw [List.nil_append, reached_of_ok h]
      exact List.mem_cons_self
    | error e =>
      rw [List.nil_append, reached_of_error h]
      exact List.mem_cons_self
  | cons b front ih =>
    obtain ⟨hne, ha⟩ := List.ne_and_not_mem_of_not_mem_cons ha
    rw [List.cons_append, List.forall_mem_cons]
    cases h : (f b).result with
    | ok c =>
      rw [reached_of_ok h, List.mem_cons, or_iff_right hne, ih ha]
      exact (and_iff_right ⟨c, rfl⟩).symm
    | error e =>
      rw [reached_of_error h, List.mem_singleton]
      refine iff_of_false hne ?_
      rintro ⟨⟨c, hc⟩, -⟩
      cases hc

end Run

namespace Renewal

open Document

variable {r : Renewal} {d original : Document} {name docstring : Text}

/-- The recorded names that printing a document comes to. -/
def visited (r : Renewal) (d : Document) : List Text := Run.reached (r.printRecorded d) d.order

theorem count_visited_eq_one_iff (hd : d.Accounted) {front back : List Text}
    (horder : d.order = front ++ name :: back) :
    (r.visited d).count name = 1 ↔ ∀ before ∈ front, d.Printable before := by
  have hnodup : (r.visited d).Nodup := hd.nodup.sublist (Run.reached_prefix _ _).sublist
  have hfront : name ∉ front := by
    have hnodup' := hd.nodup
    rw [horder, List.nodup_middle, List.nodup_cons, List.mem_append, not_or] at hnodup'
    exact hnodup'.1.1
  -- No name comes twice, so to be visited once is to be visited.
  rw [hnodup.count, ite_eq_left_iff, visited, horder]
  simp only [zero_ne_one, imp_false, not_not, Run.mem_reached_iff hfront,
    printRecorded_succeeds_iff hd.isComplete]

/-- **Every section with contents of its own is recorded once**, whatever was done to the document
since it was read.  Printing comes to it, once, exactly if all names before it can be printed. -/
theorem visited_once_iff (r : Renewal) {format? : Option CodeFormatter} {edits : List Edit}
    (hread : (Document.read format? docstring).result = .ok original)
    (hedits : original.after format? edits = d) :
    d.order.Nodup ∧ r.visited d <+: d.order ∧
      (r.visited d).mapM (r.printRecorded d) = d.order.mapM (r.printRecorded d) ∧
      ∀ s : Section, d.get? s.title ≠ some s.default →
        ∃ front back, d.order = front ++ s.title :: back ∧
          ((r.visited d).count s.title = 1 ↔ ∀ name ∈ front, d.Printable name) := by
  have hd : d.Accounted := hedits ▸ (accounted_read hread).after format? edits
  refine ⟨hd.nodup, Run.reached_prefix _ _, Run.mapM_reached _ _, fun s hs => ?_⟩
  have hrecorded : s.title ∈ d.order := by
    by_contra hnot
    rw [hd.isComplete.get?, hd.unrecorded s hnot] at hs
    exact hs rfl
  obtain ⟨front, back, horder⟩ := List.append_of_mem hrecorded
  exact ⟨front, back, horder, count_visited_eq_one_iff hd horder⟩

/-- Notes that are recorded again, a name that is no title, and references. -/
def rewrites : List Edit :=
  [.assign Section.notes.title (.lines ["m".toList]), .assign "Unknown".toList (.lines []),
    .normalize, .assign Section.references.title (.lines ["r".toList])]

/-- The notes are recorded once although they are stored twice; the references stand behind a name
that is no title. -/
theorem rewrites_visited_once :
    ∃ original, (Document.read none "A\n\nNotes\n-----\nn\n".toList).result = .ok original ∧
      (original.after none rewrites).order =
        ["Summary".toList, "Notes".toList, "Unknown".toList, "References".toList] ∧
      (original.after none rewrites).order.Nodup ∧
      ∃ front back, (original.after none rewrites).order =
          front ++ Section.references.title :: back ∧
        ((plain.visited (original.after none rewrites)).count Section.references.title = 1 ↔
          ∀ name ∈ front, (original.after none rewrites).Printable name) := by
  obtain ⟨original, hread, h⟩ : ∃ original,
      (Document.read none "A\n\nNotes\n-----\nn\n".toList).result = .ok original ∧
        ((original.after none rewrites).order,
          ((original.after none rewrites).get? Section.references.title).map Content.isEmpty) =
          (["Summary".toList, "Notes".toList, "Unknown".toList, "References".toList],
            some false) :=
    Run.exists_ok_of_toOption (by decide +kernel)
  obtain ⟨horder, hstored⟩ := Prod.mk.inj h
  obtain ⟨hnodup, -, -, hsections⟩ := visited_once_iff plain hread rfl
  refine ⟨original, hread, horder, hnodup, hsections _ fun hdefault => ?_⟩
  rw [hdefault] at hstored
  cases hstored

/-- An index, and notes below it. -/
def indexed : Text := "A\n\n    index\n    -----\n    i\n\n    Notes\n    -----\n    n\n    "

/-- **Printing does not come to every section.**  An index is recorded but never stored, and printing
ends there with the notes still to come. -/
theorem indexed_not_visited :
    (∃ d, (Document.read none (dedentDocstring indexed)).result = .ok d ∧
      d.get? Section.notes.title ≠ some Section.notes.default ∧
      (plain.visited d).count Section.notes.title = 0) ∧
      (plain.renew bare 4 indexed).result = .error (.noSection "Index".toList) := by
  constructor
  · obtain ⟨d, hread, h⟩ : ∃ d, (Document.read none (dedentDocstring indexed)).result = .ok d ∧
        ((d.get? Section.notes.title).map Content.isEmpty,
          (plain.visited d).count Section.notes.title) = (some false, 0) :=
      Run.exists_ok_of_toOption (by decide +kernel)
    obtain ⟨hstored, hcount⟩ := Prod.mk.inj h
    refine ⟨d, hread, fun hdefault => ?_, hcount⟩
    rw [hdefault] at hstored
    cases hstored
  · exact Run.eq_error_of_error? (by decide +kernel)

end Renewal
end DocTidy
